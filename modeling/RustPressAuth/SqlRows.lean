import RustPressAuth.Sql.Integrity
import RustPressAuth.SqlTexts

/-!
# The database as SQL tables

Every database has its SQL tables, row for row. What is stored of a row is what is read
back from it, and a row that a statement changes is changed in the columns that its text
sets.
-/

namespace RustPressAuth

open Sql Relational

/-- A user as stored. -/
def User.record (u : User) : SqlRow
  | .id => some (.uuid u.id)
  | .email => some (.text u.email)
  | .passwordHash => some (.text u.passwordHash)
  | .name => some (.text u.name)
  | .role => some (.label u.role.asStr)
  | .status => some (.label u.status.label)
  | .avatar => u.avatar.map .text
  | .bio => u.bio.map .text
  | .website => u.website.map .text
  | .emailVerifiedAt => u.emailVerifiedAt.map .instant
  | .lastLoginAt => u.lastLoginAt.map .instant
  | .lastLoginIp => u.lastLoginIp.map .text
  | .failedLoginAttempts => some (.integer u.failedLoginAttempts)
  | .lockedUntil => u.lockedUntil.map .instant
  | .passwordChangedAt => some (.instant u.passwordChangedAt)
  | .createdAt => some (.instant u.createdAt)
  | .updatedAt => some (.instant u.updatedAt)
  | _ => none

/-- A refresh token as stored. -/
def RefreshToken.record (t : RefreshToken) : SqlRow
  | .id => some (.uuid t.id)
  | .userId => some (.uuid t.userId)
  | .tokenHash => some (.text t.tokenHash)
  | .expiresAt => some (.instant t.expiresAt)
  | .issuedAt => some (.instant t.issuedAt)
  | .revokedAt => t.revokedAt.map .instant
  | .replacedBy => t.replacedBy.map .uuid
  | .userAgent => t.userAgent.map .text
  | .ipAddress => t.ipAddress.map .text
  | .createdAt => some (.instant t.createdAt)
  | _ => none

/-- A one-time token as stored. -/
def OneTimeToken.record (t : OneTimeToken) : SqlRow
  | .id => some (.uuid t.id)
  | .userId => some (.uuid t.userId)
  | .tokenHash => some (.text t.tokenHash)
  | .expiresAt => some (.instant t.expiresAt)
  | .usedAt => t.usedAt.map .instant
  | .createdAt => some (.instant t.createdAt)
  | _ => none

namespace Db

/-- A database as SQL tables. -/
def tables (db : Db) : SqlTables
  | .users => db.users.rows.map User.record
  | .refreshTokens => db.refreshTokens.rows.map RefreshToken.record
  | .oneTimeTokens purpose => (db.oneTimeTokens purpose).rows.map OneTimeToken.record

/-- The tables agree with the migrated schema. -/
def Conforms (db : Db) : Prop := authSchema.Valid db.tables

instance (db : Db) : Decidable db.Conforms := inferInstanceAs (Decidable (authSchema.Valid db.tables))

/-- The empty database conforms to the schema. -/
theorem empty_conforms : empty.Conforms := by decide

/-- The count of failed logins of a user is a value of type INTEGER. -/
theorem Conforms.attempts {db : Db} (h : db.Conforms) {u : User} (hu : u ∈ db.users) :
    -2147483648 ≤ u.failedLoginAttempts ∧ u.failedLoginAttempts ≤ 2147483647 := by
  have hholds := h (.users, usersColumns) (by simp [authSchema])
    { name := .failedLoginAttempts, type := .integer, default := .literal (.integer 0) } (by simp [usersColumns])
  exact of_decide_eq_true (hholds.accepts u.record (List.mem_map_of_mem hu))

end Db

/-- The complete schema is well named. -/
theorem authSchema_wellNamed : authSchema.WellNamed := by decide

/-- The columns of `users` in the complete schema. -/
theorem columns_users : authSchema.columns .users = .ok usersColumns := rfl

/-- The columns of `refresh_tokens` in the complete schema. -/
theorem columns_refreshTokens : authSchema.columns .refreshTokens = .ok refreshTokensColumns := rfl

/-- The columns of the tables of one-time tokens in the complete schema. -/
theorem columns_oneTimeTokens (purpose : Purpose) :
    authSchema.columns (.oneTimeTokens purpose) = .ok oneTimeTokensColumns := by
  cases purpose <;> rfl

/-- The labels of `user_role` in the complete schema. -/
theorem lookup_userRole : authSchema.enums.lookup .userRole = some userRoleLabels := rfl

/-- The labels of `user_status` in the complete schema. -/
theorem lookup_userStatus : authSchema.enums.lookup .userStatus = some userStatusLabels := rfl

/-- No user has NULL where none may be. -/
theorem User.record_present (u : User) :
    ∀ column ∈ usersColumns, column.notNull = true → (u.record column.name).isSome = true := by
  simp [usersColumns, idColumn, createdAtColumn, User.record]

/-- A refresh token has a value in each column that must have one. -/
theorem RefreshToken.record_present (t : RefreshToken) :
    ∀ column ∈ refreshTokensColumns, column.notNull = true → (t.record column.name).isSome = true := by
  simp [refreshTokensColumns, idColumn, userIdColumn, tokenHashColumn, expiresAtColumn, createdAtColumn,
    RefreshToken.record]

/-- A one-time token has a value in each column that must have one. -/
theorem OneTimeToken.record_present (t : OneTimeToken) :
    ∀ column ∈ oneTimeTokensColumns, column.notNull = true → (t.record column.name).isSome = true := by
  simp [oneTimeTokensColumns, idColumn, userIdColumn, tokenHashColumn, expiresAtColumn, createdAtColumn,
    OneTimeToken.record]

/-- An id is decoded. -/
@[simp] theorem required_uuid (id : Uuid) : required asUuid (some (.uuid id)) = .ok id := rfl

/-- A text is decoded. -/
@[simp] theorem required_text (s : String) : required asText (some (.text s)) = .ok s := rfl

/-- A number is decoded. -/
@[simp] theorem required_integer (n : ℤ) : required asInteger (some (.integer n)) = .ok n := rfl

/-- A time is decoded. -/
@[simp] theorem required_instant (t : Instant) : required asInstant (some (.instant t)) = .ok t := rfl

/-- A role is decoded from its label. -/
@[simp] theorem required_role (role : UserRole) : required asRole (some (.label role.asStr)) = .ok role := by
  cases role <;> rfl

/-- A status is decoded from its label. -/
@[simp] theorem required_status (status : UserStatus) :
    required asStatus (some (.label status.label)) = .ok status := by
  cases status <;> rfl

/-- An id that may be NULL is decoded. -/
@[simp] theorem nullable_uuid (o : Option Uuid) : nullable asUuid (o.map .uuid) = .ok o := by
  cases o <;> rfl

/-- A text that may be NULL is decoded. -/
@[simp] theorem nullable_text (o : Option String) : nullable asText (o.map .text) = .ok o := by
  cases o <;> rfl

/-- A time that may be NULL is decoded. -/
@[simp] theorem nullable_instant (o : Option Instant) : nullable asInstant (o.map .instant) = .ok o := by
  cases o <;> rfl

/-- A stored user is read back. -/
theorem User.fromRow_record (u : User) : User.fromRow u.record = .ok u := by
  simp [User.fromRow, User.record]

/-- A stored refresh token is read back. -/
theorem RefreshToken.fromRow_record (t : RefreshToken) : RefreshToken.fromRow t.record = .ok t := by
  simp [RefreshToken.fromRow, RefreshToken.record]

/-- The id and the user of a one-time token are decoded from its row. -/
theorem readIdAndUser_record (t : OneTimeToken) : Statement.readIdAndUser t.record = .ok (t.id, t.userId) := by
  simp [Statement.readIdAndUser, OneTimeToken.record]

section Fetch

variable {α β : Type} {decode : SqlRow → Except DbError α} {enc : β → SqlRow} {g : β → α} {rows : List β}
variable {p : β → Bool}

/-- What is decoded of the rows that meet a condition is what is read of the first of them. -/
theorem fetchOptional_filter (hdecode : ∀ r, decode (enc r) = .ok (g r)) :
    fetchOptional decode ((rows.filter p).map enc) = .ok ((rows.find? p).map g) := by
  rw [← List.head?_filter]
  cases rows.filter p with
  | nil => rfl
  | cons r rest =>
    simp only [List.map_cons, fetchOptional, hdecode, List.head?_cons, Option.map_some]
    rfl

/-- The first row that meets a condition is decoded. -/
theorem fetchOptional_rows {decode : SqlRow → Except DbError β} (hdecode : ∀ r, decode (enc r) = .ok r) :
    fetchOptional decode ((rows.filter p).map enc) = .ok (rows.find? p) := by
  rw [fetchOptional_filter hdecode, Option.map_id']

end Fetch

end RustPressAuth

namespace Relational.Table

variable {Row K U : Type} {pk : Row → K} {unique : Row → U} [DecidableEq K] [DecidableEq U]
    {t t' : Table Row pk unique}
  {row : Row}

/-- A new row comes last. -/
theorem insert?_rows (h : t.insert? row = some t') : t'.rows = t.rows ++ [row] := by
  unfold insert? at h
  split at h
  · cases h
    rfl
  · cases h

/-- A row can be inserted exactly if its key and its unique column are new. -/
theorem isSome_insert? :
    (t.insert? row).isSome = true ↔ (∀ r ∈ t.rows, pk r ≠ pk row) ∧ ∀ r ∈ t.rows, unique r ≠ unique row := by
  unfold insert?
  split
  · rename_i h
    simpa using h
  · rename_i h
    simpa using h

omit [DecidableEq U] in
/-- At most one row has a given primary key. -/
theorem filter_pk (t : Table Row pk unique) (k : K) :
    t.rows.filter (fun r => pk r = k) = (t.find? fun r => pk r = k).toList := by
  obtain ⟨rows, hpk, hunique⟩ := t
  simp only [find?]
  clear hunique
  induction rows with
  | nil => rfl
  | cons r rows ih =>
    rw [List.map_cons, List.nodup_cons] at hpk
    by_cases hr : pk r = k
    · have hnone : rows.filter (fun q => pk q = k) = [] := by
        apply List.filter_eq_nil_iff.mpr
        intro q hq hk
        exact hpk.1 (hr ▸ of_decide_eq_true hk ▸ List.mem_map_of_mem hq)
      simp [hr, hnone]
    · simp only [hr, decide_false, List.find?_cons_of_neg, List.filter_cons_of_neg, Bool.false_eq_true,
        not_false_eq_true]
      exact ih hpk.2

end Relational.Table

namespace RustPressAuth

open Sql Relational

/-- A text is stored in a VARCHAR(n) column as the schema of the database stores it. -/
theorem fitText_eq (n : ℕ) (s : String) :
    fitText n s = (varchar n s).elim (.error (.tooLong n)) fun stored => .ok (.text stored) := by
  unfold fitText varchar
  split
  · rfl
  · split <;> rfl

/-- The condition that a refresh token is unrevoked. -/
theorem RefreshToken.eval_unrevoked (t : RefreshToken) (b : Bindings) :
    (Expr.isNull (.column .revokedAt)).eval b t.record = .ok (some (.truth (decide (t.revokedAt = none)))) := by
  rw [Expr.eval_isNull]
  cases h : t.revokedAt <;> simp [RefreshToken.record, h]

/-- The condition that a one-time token is unused. -/
theorem OneTimeToken.eval_unused (t : OneTimeToken) (b : Bindings) :
    (Expr.isNull (.column .usedAt)).eval b t.record = .ok (some (.truth (decide (t.usedAt = none)))) := by
  rw [Expr.eval_isNull]
  cases h : t.usedAt <;> simp [OneTimeToken.record, h]

/-- The tables after an update of users. -/
theorem tables_updateUsers (db : Db) (p : User → Bool) (f : User → User) (hid : ∀ u, (f u).id = u.id)
    (hemail : ∀ u, (f u).email = u.email) :
    (db.updateUsers p f hid hemail).tables =
      Function.update db.tables .users ((db.users.rows.map fun u => if p u then f u else u).map User.record) := by
  funext table
  cases table <;> simp [Db.tables, Db.updateUsers, Table.update, Table.updateRows, Function.update]

/-- The tables after a revocation. -/
theorem tables_revoke (db : Db) (p : RefreshToken → Bool) (now : Instant) :
    (db.revoke p now).tables = Function.update db.tables .refreshTokens
      ((db.refreshTokens.rows.map fun t => if p t then Db.revokedRow now t else t).map RefreshToken.record) := by
  funext table
  cases table <;> simp [Db.tables, Db.revoke, Table.update, Table.updateRows, Function.update]

/-- The tables after tokens were used. -/
theorem tables_markUsed (db : Db) (purpose : Purpose) (p : OneTimeToken → Bool) (now : Instant) :
    (db.markUsed purpose p now).tables = Function.update db.tables (.oneTimeTokens purpose)
      (((db.oneTimeTokens purpose).rows.map fun t => if p t then Db.usedRow now t
        else t).map OneTimeToken.record) := by
  funext table
  cases table with
  | oneTimeTokens purpose' =>
    by_cases h : purpose' = purpose
    · subst h
      simp [Db.tables, Db.markUsed, Table.update, Table.updateRows]
    · simp [Db.tables, Db.markUsed, h]
  | _ => simp [Db.tables, Db.markUsed]

end RustPressAuth
