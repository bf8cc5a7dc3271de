import RustPressAuth.AlikeRows
import RustPressAuth.SqlRows

/-!
# The statements mean what their texts say

On the tables of a database that conforms to the schema, each text, with its parameters
bound and its rows read back, gives what the statement gives on the database: the same
rows, the same number of affected rows or the same error, and the tables of the database
that it leaves.
-/

namespace RustPressAuth

open Sql Relational

section Insert

variable {db db' : Db}

/-- The tables after an insertion of a user. -/
theorem tables_insertUser {user : User} (h : db.insertUser? user = some db') :
    db'.tables = Function.update db.tables .users (db.tables .users ++ [user.record]) := by
  obtain ⟨hinsert, hrefresh, honeTime⟩ := Db.insertUser?_spec h
  have hrows := Table.insert?_rows hinsert
  funext table
  cases table <;> simp [Db.tables, hrows, hrefresh, honeTime]

/-- The tables after an insertion of a refresh token. -/
theorem tables_insertRefreshToken {token : RefreshToken} (h : db.insertRefreshToken? token = some db') :
    db'.tables = Function.update db.tables .refreshTokens (db.tables .refreshTokens ++ [token.record]) := by
  obtain ⟨husers, hinsert, honeTime⟩ := Db.insertRefreshToken?_spec h
  have hrows := Table.insert?_rows hinsert
  funext table
  cases table <;> simp [Db.tables, hrows, husers, honeTime]

/-- The tables after an insertion of a one-time token. -/
theorem tables_insertOneTimeToken {purpose : Purpose} {token : OneTimeToken}
    (h : db.insertOneTimeToken? purpose token = some db') :
    db'.tables =
      Function.update db.tables (.oneTimeTokens purpose) (db.tables (.oneTimeTokens purpose) ++
        [token.record]) := by
  obtain ⟨husers, hrefresh, hinsert, hothers⟩ := Db.insertOneTimeToken?_spec h
  have hrows := Table.insert?_rows hinsert
  funext table
  cases table with
  | oneTimeTokens purpose' =>
    by_cases hp : purpose' = purpose
    · subst hp
      simp [Db.tables, hrows]
    · simp [Db.tables, hp, hothers purpose' hp]
  | _ => simp [Db.tables, husers, hrefresh]

/-- A row can be inserted exactly when it fits in with the others. -/
theorem insertUser_fits (user : User) : (db.insertUser? user).isSome = true ↔
    ∀ column ∈ usersColumns, Catalog.Fits db.tables .users user.record column := by
  rw [Db.isSome_insertUser?, Table.isSome_insert?]
  simp [usersColumns, idColumn, createdAtColumn, Catalog.fits_iff, User.record, Db.tables]

/-- A refresh token can be inserted exactly if its row fits the columns. -/
theorem insertRefreshToken_fits (token : RefreshToken) (hreplaced : token.replacedBy = none) :
    (db.insertRefreshToken? token).isSome = true ↔
      ∀ column ∈ refreshTokensColumns, Catalog.Fits db.tables .refreshTokens token.record column := by
  rw [Db.isSome_insertRefreshToken?, Bool.and_eq_true, Table.isSome_insert?]
  simp [refreshTokensColumns, idColumn, userIdColumn, tokenHashColumn, expiresAtColumn, createdAtColumn,
    Catalog.fits_iff, RefreshToken.record, User.record, Db.tables, hreplaced]
  exact and_left_comm

/-- A one-time token can be inserted exactly if its row fits the columns. -/
theorem insertOneTimeToken_fits (purpose : Purpose) (token : OneTimeToken) :
    (db.insertOneTimeToken? purpose token).isSome = true ↔
      ∀ column ∈ oneTimeTokensColumns, Catalog.Fits db.tables (.oneTimeTokens purpose) token.record column := by
  rw [Db.isSome_insertOneTimeToken?, Bool.and_eq_true, Table.isSome_insert?]
  simp [oneTimeTokensColumns, idColumn, userIdColumn, tokenHashColumn, expiresAtColumn, createdAtColumn,
    Catalog.fits_iff, OneTimeToken.record, User.record, Db.tables]
  exact and_left_comm

end Insert

section Commands

variable {db : Db} {b : Bindings} {sets : List (ColumnName × Expr ColumnName)} {condition : Expr ColumnName}

/-- A SELECT of users returns those that meet its condition. -/
theorem exec_selectUsers {p : User → Bool} (htest : ∀ u : User, condition.test b u.record = .ok (p u)) :
    authSchema.exec b db.tables (.select .users condition) =
      .ok ((db.users.rows.filter p).map User.record, db.tables) :=
  Catalog.exec_select columns_users rfl fun u _ => htest u

/-- A SELECT of refresh tokens returns those that meet its condition. -/
theorem exec_selectRefreshTokens {p : RefreshToken → Bool}
    (htest : ∀ t : RefreshToken, condition.test b t.record = .ok (p t)) :
    authSchema.exec b db.tables (.select .refreshTokens condition) =
      .ok ((db.refreshTokens.rows.filter p).map RefreshToken.record, db.tables) :=
  Catalog.exec_select columns_refreshTokens rfl fun t _ => htest t

/-- A SELECT of one-time tokens returns those that meet its condition. -/
theorem exec_selectOneTimeTokens {purpose : Purpose} {p : OneTimeToken → Bool}
    (htest : ∀ t : OneTimeToken, condition.test b t.record = .ok (p t)) :
    authSchema.exec b db.tables (.select (.oneTimeTokens purpose) condition) =
      .ok (((db.oneTimeTokens purpose).rows.filter p).map OneTimeToken.record, db.tables) :=
  Catalog.exec_select (columns_oneTimeTokens purpose) rfl fun t _ => htest t

variable (hconforms : db.Conforms)

include hconforms

/-- An UPDATE of users updates those that meet its condition. -/
theorem exec_updateUsers {p : User → Bool} {f : User → User} (hid : ∀ u, (f u).id = u.id)
    (hemail : ∀ u, (f u).email = u.email) (hplain : authSchema.Plain .users (sets.map Prod.fst))
    (htest : ∀ u : User, condition.test b u.record = .ok (p u))
    (hset : ∀ u ∈ db.users, p u = true →
      ∃ values, sets.mapM (authSchema.assign usersColumns b u.record) = .ok values ∧
        Record.write values u.record = (f u).record) :
    authSchema.exec b db.tables (.update .users sets condition) =
      .ok ((db.users.rows.filter p).map fun u => (f u).record, (db.updateUsers p f hid hemail).tables) := by
  rw [tables_updateUsers]
  exact Catalog.exec_update_plain authSchema_wellNamed hconforms columns_users hplain rfl User.record_present
    (fun u _ => htest u) hset

/-- The UPDATE that revokes refresh tokens revokes those that meet its condition. -/
theorem exec_revoke {p : RefreshToken → Bool} {params : List (Option Value)} {now : Instant} {fresh : Uuid}
    (htest : ∀ t : RefreshToken, condition.test ⟨params, now, fresh⟩ t.record = .ok (p t)) :
    authSchema.exec ⟨params, now, fresh⟩ db.tables (.update .refreshTokens [(.revokedAt, .now)] condition) =
      .ok ((db.refreshTokens.rows.filter p).map fun t =>
        (Db.revokedRow now t).record, (db.revoke p now).tables) := by
  rw [tables_revoke]
  refine Catalog.exec_update_plain authSchema_wellNamed hconforms columns_refreshTokens (by decide) rfl
    RefreshToken.record_present (fun t _ => htest t) fun t _ _ => ⟨[(.revokedAt, some (.instant now))], rfl, ?_⟩
  funext c
  cases c <;> rfl

/-- The UPDATE that marks one-time tokens used marks those that meet its condition. -/
theorem exec_markUsed {purpose : Purpose} {p : OneTimeToken → Bool} {params : List (Option Value)} {now : Instant}
    {fresh : Uuid} (htest : ∀ t : OneTimeToken, condition.test ⟨params, now, fresh⟩ t.record = .ok (p t)) :
    authSchema.exec ⟨params, now, fresh⟩ db.tables (.update (.oneTimeTokens purpose) [(.usedAt, .now)] condition) =
      .ok (((db.oneTimeTokens purpose).rows.filter p).map fun t => (Db.usedRow now t).record,
        (db.markUsed purpose p now).tables) := by
  rw [tables_markUsed]
  refine Catalog.exec_update_plain authSchema_wellNamed hconforms (columns_oneTimeTokens purpose)
    (by cases purpose <;> decide) rfl OneTimeToken.record_present (fun t _ => htest t)
    fun t _ _ => ⟨[(.usedAt, some (.instant now))], rfl, ?_⟩
  funext c
  cases c <;> rfl

/-- An INSERT adds its row or violates a constraint, as the insertion into the database does or fails. -/
theorem exec_insert_tables {table : TableName} {columns : List AuthColumn} {row : SqlRow} {inserted : Option Db}
    (hcolumns : authSchema.columns table = .ok columns) (hrow : authSchema.newRow columns b sets = .ok row)
    (hpresent : ∀ column ∈ columns, column.notNull = true → (row column.name).isSome = true)
    (hfits : inserted.isSome = true ↔ ∀ column ∈ columns, Catalog.Fits db.tables table row column)
    (htables : ∀ db', inserted = some db' →
      db'.tables = Function.update db.tables table (db.tables table ++ [row])) :
    authSchema.exec b db.tables (.insert table sets) =
      inserted.elim (.error .violation) fun db' => .ok ([row], db'.tables) := by
  cases inserted with
  | some db' =>
    rw [Option.elim_some, htables db' rfl]
    exact Catalog.exec_insert_row authSchema_wellNamed hconforms hcolumns hrow hpresent (hfits.mp rfl)
  | none =>
    apply Catalog.exec_insert_violation authSchema_wellNamed hconforms hcolumns hrow
    intro hall
    cases hfits.mpr hall

end Commands

/-- The command of a statement, executed without a check of its parameters, with its rows read back. -/
def Statement.executeBound (fresh : Uuid) (now : Instant) (tables : SqlTables) (s : Statement) :
    Except DbError s.Row × SqlTables :=
  match authSchema.exec ⟨s.params, now, fresh⟩ tables s.command with
  | .error e => (.error (s.message e), tables)
  | .ok (rows, tables') => (s.fetch rows, tables')

/-- The error of a lock whose end is out of range. -/
def lockError : TimeFault → SqlError
  | .intervalOutOfRange => .intervalOutOfRange
  | _ => .timestampOutOfRange

/-- The command of a statement means, on the tables of the database, what the statement means on the database. -/
def Statement.MeansItsText (s : Statement) (db : Db) : Prop :=
  ∀ fresh now, s.executeBound fresh now db.tables =
    match s.run fresh now db with
    | .ok (v, db') => (.ok v, db'.tables)
    | .error e => (.error e, db.tables)

namespace Statement

section Execute

variable {fresh : Uuid} {now : Instant} {tables tables' : SqlTables} {s : Statement}

/-- A command that runs is fetched. -/
theorem execute_of_ok {rows : List SqlRow}
    (h : authSchema.exec ⟨s.params, now, fresh⟩ tables s.command = .ok (rows, tables')) :
    s.executeBound fresh now tables = (s.fetch rows, tables') := by
  simp only [executeBound, h]

/-- A command that fails is an error and leaves the tables. -/
theorem execute_of_error {e : SqlError} (h : authSchema.exec ⟨s.params, now, fresh⟩ tables s.command = .error e) :
    s.executeBound fresh now tables = (.error (s.message e), tables) := by
  simp only [executeBound, h]

end Execute

variable {db : Db}

/-! Queries. -/

/-- The SELECT of an id by an email means its text. -/
theorem selectUserIdByEmail_means (email : String) : (selectUserIdByEmail email).MeansItsText db := by
  intro fresh now
  rw [execute_of_ok (exec_selectUsers fun u => Expr.test_of_eval (Expr.eval_eq_text rfl rfl))]
  exact congrArg (·, db.tables) (fetchOptional_filter (g := User.id) fun u => required_uuid u.id)

/-- The SELECT of a user by an email means its text. -/
theorem selectUserByEmail_means (email : String) : (selectUserByEmail email).MeansItsText db := by
  intro fresh now
  rw [execute_of_ok (exec_selectUsers fun u => Expr.test_of_eval (Expr.eval_eq_text rfl rfl))]
  exact congrArg (·, db.tables) (fetchOptional_rows User.fromRow_record)

/-- The SELECT of a user by an id means its text. -/
theorem selectUserById_means (id : Uuid) : (selectUserById id).MeansItsText db := by
  intro fresh now
  rw [execute_of_ok (exec_selectUsers fun u => Expr.test_of_eval (Expr.eval_eq_uuid rfl rfl))]
  exact congrArg (·, db.tables) (fetchOptional_rows User.fromRow_record)

/-- The SELECT of a refresh token means its text. -/
theorem selectRefreshToken_means (id : Uuid) (tokenHash : String) :
    (selectRefreshToken id tokenHash).MeansItsText db := by
  intro fresh now
  rw [execute_of_ok (exec_selectRefreshTokens fun t =>
    Expr.test_of_eval (Expr.eval_and (Expr.eval_eq_uuid rfl rfl) (Expr.eval_eq_text rfl rfl)))]
  simp only [← Bool.decide_and]
  exact congrArg (·, db.tables) (fetchOptional_rows RefreshToken.fromRow_record)

/-- The SELECT of a valid one-time token means its text. -/
theorem selectValidToken_means (purpose : Purpose) (tokenHash : String) :
    (selectValidToken purpose tokenHash).MeansItsText db := by
  intro fresh now
  rw [execute_of_ok (exec_selectOneTimeTokens fun t => Expr.test_of_eval
    (Expr.eval_and (Expr.eval_and (Expr.eval_eq_text rfl rfl) (Expr.eval_gt_now rfl)) (t.eval_unused _)))]
  simp only [← Bool.decide_and, and_assoc]
  exact congrArg (·, db.tables) (fetchOptional_filter readIdAndUser_record)

/-! Changes of token rows. -/

variable (hconforms : db.Conforms)

include hconforms

/-- The UPDATE that revokes a refresh token means its text. -/
theorem revokeRefreshToken_means (id : Uuid) : (revokeRefreshToken id).MeansItsText db := by
  intro fresh now
  rw [execute_of_ok (exec_revoke hconforms fun t => Expr.test_of_eval (Expr.eval_eq_uuid rfl rfl))]
  simp only [fetch, run, List.length_map]

/-- The UPDATE that revokes all refresh tokens of a user means its text. -/
theorem revokeAllTokens_means (userId : Uuid) : (revokeAllTokens userId).MeansItsText db := by
  intro fresh now
  rw [execute_of_ok (exec_revoke hconforms fun t => Expr.test_of_eval
    (Expr.eval_and (Expr.eval_eq_uuid rfl rfl) (t.eval_unrevoked _)))]
  simp only [fetch, run, List.length_map, Bool.decide_and]

/-- The UPDATE that marks a one-time token used means its text. -/
theorem markTokenUsed_means (purpose : Purpose) (id : Uuid) : (markTokenUsed purpose id).MeansItsText db := by
  intro fresh now
  rw [execute_of_ok (exec_markUsed hconforms fun t => Expr.test_of_eval (Expr.eval_eq_uuid rfl rfl))]
  simp only [fetch, run, List.length_map]

/-- The UPDATE that invalidates the one-time tokens of a user means its text. -/
theorem invalidateTokens_means (purpose : Purpose) (userId : Uuid) :
    (invalidateTokens purpose userId).MeansItsText db := by
  intro fresh now
  rw [execute_of_ok (exec_markUsed hconforms fun t => Expr.test_of_eval
    (Expr.eval_and (Expr.eval_eq_uuid rfl rfl) (t.eval_unused _)))]
  simp only [fetch, run, List.length_map, Bool.decide_and]

/-! Changes of users. -/

/-- An UPDATE of one user that assigns the same values to whatever the row is. -/
theorem exec_updateUser {b : Bindings} {sets : List (ColumnName × Expr ColumnName)} {n : ℕ} {id : Uuid}
    {f : User → User} (hid : ∀ u, (f u).id = u.id) (hemail : ∀ u, (f u).email = u.email)
    (hparam : b.params[n - 1]? = some (some (.uuid id)))
    (hplain : authSchema.Plain .users (sets.map Prod.fst))
    (hset : ∀ u ∈ db.users, u.id = id →
      ∃ values, sets.mapM (authSchema.assign usersColumns b u.record) = .ok values ∧
        Record.write values u.record = (f u).record) :
    authSchema.exec b db.tables (.update .users sets (.eq (.column .id) (.param n))) =
      .ok ((db.user? id).toList.map fun u => (f u).record, (db.updateUser id f hid hemail).tables) := by
  rw [exec_updateUsers hconforms hid hemail hplain (fun u => Expr.test_of_eval (Expr.eval_eq_uuid rfl hparam))
    fun u hu hp => hset u hu (of_decide_eq_true hp), Table.filter_pk]
  rfl

/-- An UPDATE of no user leaves the tables as they are, whatever it would assign. -/
theorem exec_updateNoUser {b : Bindings} {sets : List (ColumnName × Expr ColumnName)} {n : ℕ} {id : Uuid}
    (hparam : b.params[n - 1]? = some (some (.uuid id))) (hplain : authSchema.Plain .users (sets.map Prod.fst))
    (hnone : db.user? id = none) :
    authSchema.exec b db.tables (.update .users sets (.eq (.column .id) (.param n))) = .ok ([], db.tables) := by
  have hmiss : ∀ u ∈ db.users, u.id ≠ id := fun u hu => by simpa using Table.find?_none hnone hu
  rw [exec_updateUser hconforms (f := fun u => u) (fun _ => rfl) (fun _ => rfl) hparam hplain
    fun u hu heq => absurd heq (hmiss u hu), hnone, Db.updateUser, tables_updateUsers]
  simp only [ite_self, List.map_id', Option.toList_none, List.map_nil]
  exact congrArg (fun tables => Except.ok ([], tables)) (Function.update_eq_self TableName.users db.tables)

omit hconforms in
/-- An UPDATE of a user fails when its assignments do. -/
theorem exec_updateUser_error {b : Bindings} {sets : List (ColumnName × Expr ColumnName)} {n : ℕ} {id : Uuid}
    {user : User} {e : SqlError} (hparam : b.params[n - 1]? = some (some (.uuid id)))
    (hsome : db.user? id = some user)
    (hfails : ∀ u ∈ db.users, u.id = id → sets.mapM (authSchema.assign usersColumns b u.record) = .error e) :
    authSchema.exec b db.tables (.update .users sets (.eq (.column .id) (.param n))) = .error e := by
  obtain ⟨huser, hid⟩ := Table.find?_some hsome
  exact Catalog.exec_update_error columns_users rfl (fun u _ => Expr.test_of_eval (Expr.eval_eq_uuid rfl hparam))
    (fun u hu hp => hfails u hu (of_decide_eq_true hp)) huser hid

/-- An UPDATE of a user by values that do not depend on the row, one of which may not fit its column. -/
theorem execute_updateUser {s : Statement} {fresh : Uuid} {now : Instant}
    {sets : List (ColumnName × Expr ColumnName)} {n : ℕ} {id : Uuid} {α : Type} {stored : Option α}
    {e : SqlError} {values : α → List (ColumnName × Option Value)} {f : α → User → User}
    (hid : ∀ v u, (f v u).id = u.id) (hemail : ∀ v u, (f v u).email = u.email)
    (hcommand : s.command = .update .users sets (.eq (.column .id) (.param n)))
    (hparam : s.params[n - 1]? = some (some (.uuid id))) (hplain : authSchema.Plain .users (sets.map Prod.fst))
    (hassigned : ∀ u : User, sets.mapM (authSchema.assign usersColumns ⟨s.params, now, fresh⟩ u.record) =
      stored.elim (.error e) fun v => .ok (values v))
    (hwrite : ∀ v u, Record.write (values v) (User.record u) = (f v u).record) :
    s.executeBound fresh now db.tables = (db.user? id).elim (s.fetch [], db.tables) fun user =>
      stored.elim (.error (s.message e), db.tables) fun v =>
        (s.fetch [(f v user).record], (db.updateUser id (f v) (hid v) (hemail v)).tables) := by
  cases huser : db.user? id with
  | none => exact execute_of_ok (hcommand ▸ exec_updateNoUser hconforms hparam hplain huser)
  | some user =>
    cases stored with
    | none => exact execute_of_error (hcommand ▸ exec_updateUser_error hparam huser fun u _ _ => hassigned u)
    | some v =>
      have hexec := exec_updateUser hconforms (hid v) (hemail v) hparam hplain
        fun u _ _ => ⟨values v, hassigned u, hwrite v u⟩
      rw [huser] at hexec
      exact execute_of_ok (hcommand ▸ hexec)

/-- The UPDATE of a password means its text. -/
theorem updatePassword_means (passwordHash : String) (id : Uuid) :
    (updatePassword passwordHash id).MeansItsText db := by
  intro fresh now
  have hassigned (u : User) :
      [(ColumnName.passwordHash, Expr.param 1), (.passwordChangedAt, .now), (.updatedAt, .now)].mapM
        (authSchema.assign usersColumns ⟨(updatePassword passwordHash id).params, now, fresh⟩ u.record) =
      (varchar 255 passwordHash).elim (.error (.tooLong 255)) fun stored =>
        .ok [(.passwordHash, some (.text stored)), (.passwordChangedAt, some (.instant now)),
          (.updatedAt, some (.instant now))] := by
    cases hstored : varchar 255 passwordHash <;>
      simp [Catalog.assign, usersColumns, idColumn, createdAtColumn, Expr.eval, params, Catalog.store,
        fitText_eq, hstored]
  rw [execute_updateUser hconforms (f :=
    fun stored => User.withPassword now stored) (fun _ _ => rfl) (fun _ _ => rfl) rfl
    rfl (by decide) hassigned fun stored u => by funext c; cases c <;> rfl]
  simp only [run, Db.userCount]
  cases db.user? id <;> cases varchar 255 passwordHash <;> rfl

/-- The UPDATE that records a login means its text. -/
theorem recordSuccessfulLogin_means (id : Uuid) (ipAddress : Option String) :
    (recordSuccessfulLogin id ipAddress).MeansItsText db := by
  intro fresh now
  have hassigned (u : User) : [(ColumnName.failedLoginAttempts, Expr.literal (.integer 0)), (.lockedUntil, .null),
      (.lastLoginAt, .now), (.lastLoginIp, .param 2), (.updatedAt, .now)].mapM
        (authSchema.assign usersColumns ⟨(recordSuccessfulLogin id ipAddress).params, now, fresh⟩ u.record) =
      (varchar? 45 ipAddress).elim (.error (.tooLong 45)) fun stored =>
        .ok [(.failedLoginAttempts, some (.integer 0)), (.lockedUntil, none), (.lastLoginAt, some (.instant now)),
          (.lastLoginIp, stored.map .text), (.updatedAt, some (.instant now))] := by
    cases ipAddress with
    | none => rfl
    | some ip =>
      cases hstored : varchar 45 ip <;>
        simp [Catalog.assign, usersColumns, idColumn, createdAtColumn, Expr.eval, params, Catalog.store,
          Sql.integer, fitText_eq, varchar?, hstored]
  rw [execute_updateUser hconforms (f := fun stored => User.loggedIn now stored) (fun _ _ => rfl)
    (fun _ _ => rfl) rfl rfl
    (by decide) hassigned fun stored u => by funext c; cases c <;> rfl]
  simp only [run, Db.userCount]
  cases db.user? id <;> cases varchar? 45 ipAddress <;> rfl

/-- The UPDATE that verifies an email means its text. -/
theorem verifyUserEmail_means (id : Uuid) : (verifyUserEmail id).MeansItsText db := by
  intro fresh now
  cases huser : db.user? id with
  | none =>
    rw [execute_of_ok (exec_updateNoUser hconforms rfl (by decide) huser)]
    simp only [fetch, run, huser]
    rfl
  | some user =>
    rw [execute_of_ok
      (exec_updateUser hconforms (f := User.verified now) (fun _ => rfl) (fun _ => rfl) rfl (by decide)
      fun u _ _ => ⟨[(.emailVerifiedAt, some (.instant now)), (.status, some (.label "active")),
        (.updatedAt, some (.instant now))], rfl, by funext c; cases c <;> rfl⟩)]
    simp only [fetch, run, huser]
    exact congrArg (·, _) (User.fromRow_record (user.verified now))

omit hconforms in
/-- The end of a lock, computed from the parameter `$3`. -/
theorem eval_lockEnd {row : SqlRow} {b : Bindings} {lockoutDuration : Int64}
    (hparam : b.params[3 - 1]? = some (some (.integer lockoutDuration.toInt))) :
    (Expr.add .now (.mul (.literal (.span 1000000)) (.param 3))).eval b row =
      match lockEndAfter b.now lockoutDuration with
      | .ok t => .ok (some (.instant t))
      | .error fault => .error (lockError fault) := by
  have hmicros : Numeric.round 53 (Numeric.round 53 1000000 * Numeric.round 53 lockoutDuration.toInt) =
      intervalMicros lockoutDuration := by
    have hmillion : Numeric.round 53 1000000 = 1000000 := by decide
    rw [hmillion, intervalMicros]
  have hmul : (Expr.mul (.literal (.span 1000000)) (.param 3)).eval b row =
      match intervalSeconds lockoutDuration with
      | .ok d => .ok (some (.span d))
      | .error fault => .error (lockError fault) := by
    simp only [Expr.eval, hparam, ok_bind, strict, Value.mul, hmicros, Sql.interval, intervalSeconds]
    split
    · rfl
    · rfl
  have hend : yearStart 294277 = 9224318016000000000 := yearStart_294277
  rw [Expr.eval, hmul, lockEndAfter]
  cases intervalSeconds lockoutDuration with
  | error fault => rfl
  | ok d =>
    by_cases hrange : IsTimestamp (b.now + d)
    · have htime : timestamptz (b.now + d) = .ok (b.now + d) := if_pos (by rw [hend]; exact hrange)
      have hadd : Value.add (.instant b.now) (.span d) = .ok (.instant (b.now + d)) := if_pos hrange
      simp only [Expr.eval, ok_bind, strict, hadd, htime, Except.map]
    · have htime : timestamptz (b.now + d) = .error .timestampOutOfRange := if_neg (by rw [hend]; exact hrange)
      have hadd : Value.add (.instant b.now) (.span d) = .error .timestampOutOfRange := if_neg hrange
      simp only [Expr.eval, ok_bind, strict, hadd, htime, Except.map, lockError]

/-- Why the UPDATE that counts a failed login fails on a row. -/
def incrementError? (now : Instant) (maxLoginAttempts : Int32) (lockoutDuration : Int64) (u : User) :
    Option SqlError :=
  if u.failedLoginAttempts + 1 > integerMax then some .outOfRange
  else if u.failedLoginAttempts + 1 ≥ maxLoginAttempts.toInt then
    match lockEndAfter now lockoutDuration with
    | .ok _ => none
    | .error fault => some (lockError fault)
  else none

omit hconforms in
/-- The typed statement that counts a failure fails with the message of the command. -/
theorem incrementError?_message (now : Instant) (id : Uuid) (maxLoginAttempts : Int32)
    (lockoutDuration : Int64) (u : User) :
    u.incrementFault? now maxLoginAttempts lockoutDuration =
      (incrementError? now maxLoginAttempts lockoutDuration u).map
        (incrementFailedAttempts id maxLoginAttempts lockoutDuration).message := by
  simp only [User.incrementFault?, incrementError?]
  split
  · rfl
  split
  · cases lockEndAfter now lockoutDuration with
    | ok t => rfl
    | error fault => cases fault <;> rfl
  · rfl

omit hconforms in
/-- The values that the UPDATE assigns to a row, unless it fails. -/
theorem assign_incremented {id fresh : Uuid} {now : Instant} {maxLoginAttempts : Int32} {lockoutDuration : Int64}
    {user : User} (hrange : -2147483648 ≤ user.failedLoginAttempts ∧ user.failedLoginAttempts ≤ 2147483647) :
    [(ColumnName.failedLoginAttempts, Expr.add (.column .failedLoginAttempts) (.literal (.integer 1))),
        (.lockedUntil, .caseWhen (.ge (.add (.column .failedLoginAttempts) (.literal (.integer 1))) (.param 2))
          (.add .now (.mul (.literal (.span 1000000)) (.param 3))) (.column .lockedUntil)),
        (.updatedAt, .now)].mapM
        (authSchema.assign usersColumns
          ⟨(incrementFailedAttempts id maxLoginAttempts lockoutDuration).params, now, fresh⟩
          user.record) =
      match incrementError? now maxLoginAttempts lockoutDuration user with
      | some e => .error e
      | none => .ok [(.failedLoginAttempts, some (.integer (user.failedLoginAttempts + 1))),
          (.lockedUntil, (user.incremented now maxLoginAttempts lockoutDuration).lockedUntil.map .instant),
          (.updatedAt, some (.instant now))] := by
  generalize hb : (⟨(incrementFailedAttempts id maxLoginAttempts lockoutDuration).params, now,
    fresh⟩ : Bindings) = b
  have hparam : b.params[2 - 1]? = some (some (.integer maxLoginAttempts.toInt)) := by rw [← hb]; rfl
  have hnow : b.now = now := by rw [← hb]
  have hcolumn : Expr.now.eval b user.record = .ok (some (.instant now)) := by rw [Expr.eval, hnow]
  have hadd : (Expr.add (.column .failedLoginAttempts) (.literal (.integer 1))).eval b user.record =
      (Sql.integer (user.failedLoginAttempts + 1)).map some := rfl
  have hlockEnd := @eval_lockEnd user.record b lockoutDuration (by rw [← hb]; rfl)
  by_cases hover : user.failedLoginAttempts + 1 > integerMax
  · rw [incrementError?, if_pos hover]
    have herror : Sql.integer (user.failedLoginAttempts + 1) = .error .outOfRange := by
      simp only [integerMax] at hover
      exact if_neg fun h => by omega
    simp [Catalog.assign, usersColumns, idColumn, createdAtColumn, hadd, herror, Except.map]
  rw [incrementError?, if_neg hover]
  have hinteger : Sql.integer (user.failedLoginAttempts + 1) = .ok (.integer (user.failedLoginAttempts + 1)) := by
    simp only [integerMax] at hover
    exact if_pos ⟨by omega, by omega⟩
  have hreaches :
      (Expr.ge (.add (.column .failedLoginAttempts) (.literal (.integer 1))) (.param 2)).eval b user.record =
        .ok (some (.truth (decide (user.failedLoginAttempts + 1 ≥ maxLoginAttempts.toInt)))) := by
    rw [Expr.eval, hadd, hinteger]
    simp only [Except.map, ok_bind, Expr.eval, hparam, strict, Value.greaterEqual]
  have hcase : (Expr.caseWhen (.ge (.add (.column .failedLoginAttempts) (.literal (.integer 1))) (.param 2))
      (.add .now (.mul (.literal (.span 1000000)) (.param 3))) (.column .lockedUntil)).eval b user.record =
      if user.failedLoginAttempts + 1 ≥ maxLoginAttempts.toInt then
        match lockEndAfter now lockoutDuration with
        | .ok t => .ok (some (.instant t))
        | .error fault => .error (lockError fault)
      else .ok (user.lockedUntil.map .instant) := by
    rw [Expr.eval, hreaches, ok_bind, hlockEnd, hnow]
    simp only [Option.some.injEq, Value.truth.injEq, decide_eq_true_eq]
    rfl
  by_cases hlocks : user.failedLoginAttempts + 1 ≥ maxLoginAttempts.toInt
  · rw [if_pos hlocks] at hcase ⊢
    cases hend : lockEndAfter now lockoutDuration with
    | error fault =>
      rw [hend] at hcase
      simp [Catalog.assign, usersColumns, idColumn, createdAtColumn, hadd, hinteger, hcase, Except.map,
        Catalog.store]
    | ok t =>
      rw [hend] at hcase
      have hincremented : (user.incremented now maxLoginAttempts lockoutDuration).lockedUntil = some t := by
        rw [(lockEndAfter_eq_ok.mp hend).2]
        exact if_pos hlocks
      simp [Catalog.assign, usersColumns, idColumn, createdAtColumn, hadd, hinteger, hcase, Except.map,
        Catalog.store, hincremented, hcolumn]
  · rw [if_neg hlocks] at hcase ⊢
    have hincremented : (user.incremented now maxLoginAttempts lockoutDuration).lockedUntil =
      user.lockedUntil := if_neg hlocks
    cases hlocked : user.lockedUntil <;> rw [hlocked] at hcase <;>
      simp [Catalog.assign, usersColumns, idColumn, createdAtColumn, hadd, hinteger, hcase, Except.map,
        Catalog.store, hincremented, hcolumn, hlocked]

/-- The UPDATE that counts a failure means its text. -/
theorem incrementFailedAttempts_means (id : Uuid) (maxLoginAttempts : Int32) (lockoutDuration : Int64) :
    (incrementFailedAttempts id maxLoginAttempts lockoutDuration).MeansItsText db := by
  intro fresh now
  cases huser : db.user? id with
  | none =>
    have hmiss : ∀ u ∈ db.users, u.id ≠ id := fun u hu => by simpa using Table.find?_none huser hu
    rw [execute_of_ok (exec_updateUser hconforms (f :=
      User.incremented now maxLoginAttempts lockoutDuration) (fun _ => rfl)
      (fun _ => rfl) rfl (by decide) fun u hu heq => absurd heq (hmiss u hu))]
    simp only [fetch, run, huser, Option.bind_none, Db.userCount, List.length_map]
  | some user =>
    obtain ⟨hmem, hid⟩ := Table.find?_some huser
    have honly : ∀ u ∈ db.users, u.id = id → u = user := fun u hu heq =>
      Table.eq_of_pk hu hmem (heq.trans (of_decide_eq_true hid).symm)
    have hassigned :=
      @assign_incremented id fresh now maxLoginAttempts lockoutDuration user (hconforms.attempts hmem)
    simp only [run, huser, Option.bind_some, incrementError?_message now id]
    cases herror : incrementError? now maxLoginAttempts lockoutDuration user with
    | some e =>
      rw [herror] at hassigned
      rw [execute_of_error (exec_updateUser_error rfl huser fun u hu heq => by rw [honly u hu heq, hassigned])]
      rfl
    | none =>
      rw [herror] at hassigned
      rw [execute_of_ok (exec_updateUser hconforms (f := User.incremented now maxLoginAttempts lockoutDuration)
        (fun _ => rfl) (fun _ => rfl) rfl (by decide) fun u hu heq => by
          rw [honly u hu heq]
          exact ⟨_, hassigned, by funext c; cases c <;> rfl⟩)]
      simp only [fetch, Option.map_none, huser, Db.userCount, List.length_map]

/-! Insertions. -/

/-- The reply of an INSERT: it makes its row, unless a value does not fit, and adds it, unless it violates a
constraint. -/
def insertReply (s : Statement) (tables : SqlTables) {α : Type} (made : Except SqlError α) (insert : α → Option Db)
    (reply : α → s.Row) : Except DbError s.Row × SqlTables :=
  match made with
  | .error e => (.error (s.message e), tables)
  | .ok r => (insert r).elim (.error (s.message .violation), tables) fun db' => (.ok (reply r), db'.tables)

/-- An INSERT runs exactly if its row can be made and inserted, and fails with the message of what is wrong.
-/
theorem execute_insert {s : Statement} {fresh : Uuid} {now : Instant} {table : TableName}
    {columns : List AuthColumn} {sets : List (ColumnName × Expr ColumnName)} {α : Type}
    {made : Except SqlError α} {record : α → SqlRow} {insert : α → Option Db} {reply : α → s.Row}
    (hcommand : s.command = .insert table sets) (hcolumns : authSchema.columns table = .ok columns)
    (hrow : authSchema.newRow columns ⟨s.params, now, fresh⟩ sets = made.map record)
    (hpresent : ∀ r, ∀ column ∈ columns, column.notNull = true → (record r column.name).isSome = true)
    (hfits : ∀ r, made = .ok r →
      ((insert r).isSome = true ↔ ∀ column ∈ columns, Catalog.Fits db.tables table (record r) column))
    (htables : ∀ r db', insert r = some db' →
      db'.tables = Function.update db.tables table (db.tables table ++ [record r]))
    (hfetch : ∀ r, s.fetch [record r] = .ok (reply r)) :
    s.executeBound fresh now db.tables = s.insertReply db.tables made insert reply := by
  cases made with
  | error e => exact execute_of_error (hcommand ▸ Catalog.exec_insert_error hcolumns hrow)
  | ok r =>
    have hexec := exec_insert_tables hconforms hcolumns hrow (hpresent r) (hfits r rfl) (htables r)
    rw [← hcommand] at hexec
    simp only [insertReply]
    cases hinsert : insert r with
    | none =>
      rw [hinsert] at hexec
      exact execute_of_error hexec
    | some db' =>
      rw [hinsert] at hexec
      rw [execute_of_ok hexec, hfetch]
      rfl

/-- The INSERT of a user means its text. -/
theorem insertUser_means (email passwordHash name : String) :
    (insertUser email passwordHash name).MeansItsText db := by
  intro fresh now
  have hrow : authSchema.newRow usersColumns ⟨(insertUser email passwordHash name).params, now, fresh⟩
        [(.email, .param 1), (.passwordHash, .param 2), (.name, .param 3), (.status, .literal (.text "active"))] =
      Except.map User.record (do
        let email ← (varchar 255 email).elim (.error (.tooLong 255)) .ok
        let passwordHash ← (varchar 255 passwordHash).elim (.error (.tooLong 255)) .ok
        let name ← (varchar 100 name).elim (.error (.tooLong 100)) .ok
        .ok (newUser fresh now email passwordHash name)) := by
    cases hemail : varchar 255 email <;> cases hhash : varchar 255 passwordHash <;>
      cases hname : varchar 100 name <;>
      simp [Catalog.newRow, Catalog.defaults, Catalog.assign, usersColumns, idColumn, createdAtColumn,
        Expr.eval, params, Catalog.store, Sql.integer, lookup_userRole, lookup_userStatus, userRoleLabels,
        userStatusLabels, fitText_eq, hemail, hhash, hname, Except.map]
    funext c
    cases c <;> rfl
  rw [execute_insert hconforms rfl columns_users hrow User.record_present (fun user _ => insertUser_fits user)
    (fun _ _ => tables_insertUser) User.fromRow_record]
  simp only [run]
  cases varchar 255 email with
  | none => rfl
  | some email' =>
    cases varchar 255 passwordHash with
    | none => rfl
    | some hash' =>
      cases varchar 100 name with
      | none => rfl
      | some name' =>
        simp only [insertReply, orError, ok_bind, Option.elim_some]
        cases db.insertUser? (newUser fresh now email' hash' name') <;> rfl

/-- The INSERT of a refresh token means its text. -/
theorem insertRefreshToken_means (id userId : Uuid) (tokenHash : String) (expiresAt : Instant)
    (ipAddress userAgent : Option String) :
    (insertRefreshToken id userId tokenHash expiresAt ipAddress userAgent).MeansItsText db := by
  intro fresh now
  have hrow : authSchema.newRow refreshTokensColumns
        ⟨(insertRefreshToken id userId tokenHash expiresAt ipAddress userAgent).params, now, fresh⟩
        [(.id, .param 1), (.userId, .param 2), (.tokenHash, .param 3), (.expiresAt, .param 4),
          (.ipAddress, .param 5), (.userAgent, .param 6)] =
      Except.map RefreshToken.record (do
        let tokenHash ← (varchar 255 tokenHash).elim (.error (.tooLong 255)) .ok
        let ipAddress ← (varchar? 45 ipAddress).elim (.error (.tooLong 45)) .ok
        .ok (newRefreshToken now id userId tokenHash expiresAt ipAddress userAgent)) := by
    cases ipAddress with
    | none =>
      cases hhash : varchar 255 tokenHash <;> cases userAgent <;>
        simp [Catalog.newRow, Catalog.defaults, Catalog.assign, refreshTokensColumns, idColumn, userIdColumn,
          tokenHashColumn, expiresAtColumn, createdAtColumn, Expr.eval, params, Catalog.store, fitText_eq,
          hhash, varchar?, Except.map]
      all_goals
        funext c
        cases c <;> rfl
    | some ip =>
      cases hhash : varchar 255 tokenHash <;> cases hip : varchar 45 ip <;> cases userAgent <;>
        simp [Catalog.newRow, Catalog.defaults, Catalog.assign, refreshTokensColumns, idColumn, userIdColumn,
          tokenHashColumn, expiresAtColumn, createdAtColumn, Expr.eval, params, Catalog.store, fitText_eq,
          hhash, varchar?, hip, Except.map]
      all_goals
        funext c
        cases c <;> rfl
  have hreplaced (t : RefreshToken) (ht : (do
        let tokenHash ← (varchar 255 tokenHash).elim (.error (.tooLong 255)) .ok
        let ipAddress ← (varchar? 45 ipAddress).elim (.error (.tooLong 45)) .ok
        .ok (newRefreshToken now id userId tokenHash expiresAt ipAddress userAgent) :
          Except SqlError RefreshToken) = .ok t) :
      t.replacedBy = none := by
    obtain ⟨hash', -, ht⟩ := bind_eq_ok ht
    obtain ⟨ip', -, ht⟩ := bind_eq_ok ht
    cases ht
    rfl
  rw [execute_insert hconforms rfl columns_refreshTokens hrow RefreshToken.record_present
    (fun t ht => insertRefreshToken_fits t (hreplaced t ht)) (fun _ _ => tables_insertRefreshToken) fun _ => rfl]
  simp only [run]
  cases varchar 255 tokenHash with
  | none => rfl
  | some hash' =>
    cases varchar? 45 ipAddress with
    | none => rfl
    | some ip' =>
      simp only [insertReply, orError, ok_bind, Option.elim_some]
      cases db.insertRefreshToken? (newRefreshToken now id userId hash' expiresAt ip' userAgent) <;> rfl

/-- The INSERT of a one-time token means its text. -/
theorem insertOneTimeToken_means (purpose : Purpose) (userId : Uuid) (tokenHash : String) (expiresAt : Instant) :
    (insertOneTimeToken purpose userId tokenHash expiresAt).MeansItsText db := by
  intro fresh now
  have hrow : authSchema.newRow oneTimeTokensColumns
        ⟨(insertOneTimeToken purpose userId tokenHash expiresAt).params, now, fresh⟩
        [(.userId, .param 1), (.tokenHash, .param 2), (.expiresAt, .param 3)] =
      Except.map OneTimeToken.record (do
        let tokenHash ← (varchar 255 tokenHash).elim (.error (.tooLong 255)) .ok
        .ok (newOneTimeToken fresh now userId tokenHash expiresAt)) := by
    cases hhash : varchar 255 tokenHash <;>
      simp [Catalog.newRow, Catalog.defaults, Catalog.assign, oneTimeTokensColumns, idColumn, userIdColumn,
        tokenHashColumn, expiresAtColumn, createdAtColumn, Expr.eval, params, Catalog.store, fitText_eq,
        hhash, Except.map]
    funext c
    cases c <;> rfl
  rw [execute_insert hconforms rfl (columns_oneTimeTokens purpose) hrow OneTimeToken.record_present
    (fun t _ => insertOneTimeToken_fits purpose t) (fun _ _ => tables_insertOneTimeToken) fun _ => rfl]
  simp only [run]
  cases varchar 255 tokenHash with
  | none => rfl
  | some hash' =>
    simp only [insertReply, orError, ok_bind, Option.elim_some]
    cases db.insertOneTimeToken? purpose (newOneTimeToken fresh now userId hash' expiresAt) <;> rfl

/-- Every statement means what its text says. -/
theorem means_its_text (s : Statement) : s.MeansItsText db := by
  cases s with
  | selectUserIdByEmail email => exact selectUserIdByEmail_means email
  | insertUser email passwordHash name => exact insertUser_means hconforms email passwordHash name
  | selectUserByEmail email => exact selectUserByEmail_means email
  | selectUserById id => exact selectUserById_means id
  | incrementFailedAttempts id maxLoginAttempts lockoutDuration =>
    exact incrementFailedAttempts_means hconforms id maxLoginAttempts lockoutDuration
  | recordSuccessfulLogin id ipAddress => exact recordSuccessfulLogin_means hconforms id ipAddress
  | updatePassword passwordHash id => exact updatePassword_means hconforms passwordHash id
  | verifyUserEmail id => exact verifyUserEmail_means hconforms id
  | insertRefreshToken id userId tokenHash expiresAt ipAddress userAgent =>
    exact insertRefreshToken_means hconforms id userId tokenHash expiresAt ipAddress userAgent
  | selectRefreshToken id tokenHash => exact selectRefreshToken_means id tokenHash
  | revokeRefreshToken id => exact revokeRefreshToken_means hconforms id
  | revokeAllTokens userId => exact revokeAllTokens_means hconforms userId
  | invalidateTokens purpose userId => exact invalidateTokens_means hconforms purpose userId
  | insertOneTimeToken purpose userId tokenHash expiresAt =>
    exact insertOneTimeToken_means hconforms purpose userId tokenHash expiresAt
  | selectValidToken purpose tokenHash => exact selectValidToken_means purpose tokenHash
  | markTokenUsed purpose id => exact markTokenUsed_means hconforms purpose id

/-- A parameter that may be refused, as the value that is bound. -/
def value : Parameter → Value
  | .text text => .text text
  | .time t => .instant t

omit hconforms in
/-- A parameter is refused as its value. -/
theorem refusal?_value (s : Statement) (p : Parameter) : p.refusal? = ((value p).refusal?).map s.message := by
  cases p with
  | text text =>
    simp only [Parameter.refusal?, value, Value.refusal?]
    split
    · rfl
    · rfl
  | time t =>
    have hend : yearStart 294277 = 9224318016000000000 := yearStart_294277
    by_cases hrange : IsTimestamp t
    · have htime : timestamptz t = .ok t := if_pos (by rw [hend]; exact hrange)
      simp only [Parameter.refusal?, htime, value, Value.refusal?, if_pos hrange, Option.map_none]
    · have htime : timestamptz t = .error .timestampOutOfRange := if_neg (by rw [hend]; exact hrange)
      simp only [Parameter.refusal?, htime, value, Value.refusal?, if_neg hrange, Option.map_some]
      rfl

omit hconforms in
/-- The values that may be refused are among those that are bound, in the same order. -/
theorem bound_refusal? (s : Statement) : s.bound.findSome? (fun p => (value p).refusal?) =
    s.params.findSome? fun v => v.bind Value.refusal? := by
  have huuid (id : Uuid) : (Value.uuid id).refusal? = none := rfl
  have hinteger (n : ℤ) : (Value.integer n).refusal? = none := rfl
  cases s with
  | recordSuccessfulLogin id ipAddress =>
      cases ipAddress <;> simp [bound, params, value, List.findSome?_cons, huuid]
  | insertRefreshToken id userId tokenHash expiresAt ipAddress userAgent =>
    cases ipAddress <;> cases userAgent <;> simp [bound, params, value, List.findSome?_cons, huuid]
  | _ => simp [bound, params, value, List.findSome?_cons, huuid, hinteger]

omit hconforms in
/-- The parameters of a statement are refused as the values that are bound. -/
theorem refusal?_params (s : Statement) (now : Instant) (fresh : Uuid) :
    s.refusal? = (Bindings.refusal? ⟨s.params, now, fresh⟩).map s.message := by
  rw [refusal?, Bindings.refusal?, ← bound_refusal?, List.map_findSome?]
  exact congrArg (s.bound.findSome? ·) (funext (refusal?_value s))

/-- The text of a statement, with its parameters bound, gives what the statement gives on the database. -/
theorem execute_eq (s : Statement) (fresh : Uuid) (now : Instant) : s.execute fresh now db.tables =
    match s.refusal? with
    | some e => (.error e, db.tables)
    | none =>
      match s.run fresh now db with
      | .ok (v, db') => (.ok v, db'.tables)
      | .error e => (.error e, db.tables) := by
  rw [refusal?_params s now fresh, ← means_its_text hconforms s fresh now, execute, Catalog.run]
  cases Bindings.refusal? ⟨s.params, now, fresh⟩ with
  | some e => rfl
  | none => rfl

/-- A statement leaves a database that conforms to the schema. -/
theorem run_conforms {fresh : Uuid} {now : Instant} {s : Statement} {v : s.Row} {db' : Db}
    (h : s.run fresh now db = .ok (v, db')) : db'.Conforms := by
  have hmeans := means_its_text hconforms s fresh now
  rw [h] at hmeans
  unfold executeBound at hmeans
  split at hmeans
  · cases (Prod.mk.inj hmeans).1
  · rename_i rows tables' hexec
    obtain ⟨-, rfl⟩ := Prod.mk.inj hmeans
    exact Catalog.exec_valid hconforms hexec

end Statement

end RustPressAuth
