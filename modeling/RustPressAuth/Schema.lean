import RustPressAuth.Relational.Table
import RustPressAuth.Times
import RustPressAuth.Tokens

/-!
# The database schema

The four tables created on activation, with their primary keys, unique columns and
foreign keys. A value of `Db` satisfies every constraint, so each statement either
keeps them or fails. The two tables of one-time tokens have the same columns and are
one family indexed by their purpose.
-/

namespace RustPressAuth

open Relational

/-- What a one-time token is for; each purpose has its own table. -/
inductive Purpose where
  /-- `password_reset_tokens`. -/
  | passwordReset
  /-- `email_verification_tokens`. -/
  | emailVerification
deriving DecidableEq, Repr

/-- `users`: `id` is the primary key, `email` is unique. -/
abbrev Users := Table User User.id User.email

/-- `refresh_tokens`: `id` is the primary key, `token_hash` is unique. -/
abbrev RefreshTokens := Table RefreshToken RefreshToken.id RefreshToken.tokenHash

/-- A table of one-time tokens: `id` is the primary key, `token_hash` is unique. -/
abbrev OneTimeTokens := Table OneTimeToken OneTimeToken.id OneTimeToken.tokenHash

/-- The database: every token row references an existing user. -/
structure Db where
  users : Users
  refreshTokens : RefreshTokens
  oneTimeTokens : Purpose → OneTimeTokens
  refreshUser : ∀ t ∈ refreshTokens, ∃ u ∈ users, u.id = t.userId
  oneTimeUser : ∀ purpose, ∀ t ∈ oneTimeTokens purpose, ∃ u ∈ users, u.id = t.userId

namespace Db

/-- The database right after the tables are created. -/
def empty : Db where
  users := Table.empty
  refreshTokens := Table.empty
  oneTimeTokens _ := Table.empty
  refreshUser t ht := absurd ht (Table.not_mem_empty t)
  oneTimeUser _ t ht := absurd ht (Table.not_mem_empty t)

/-- The user with this id. -/
def user? (db : Db) (id : Uuid) : Option User := db.users.find? fun u => u.id = id

/-- The user with this email. -/
def userByEmail? (db : Db) (email : String) : Option User := db.users.find? fun u => u.email = email

/-- A user kept under the same id stays the user a token row references. -/
theorem exists_user_update {users : Users} {p : User → Bool} {f : User → User}
    {hid : ∀ u, (f u).id = u.id} {hemail : ∀ u, (f u).email = u.email} {id : Uuid}
    (h : ∃ u ∈ users, u.id = id) : ∃ u ∈ users.update p f hid hemail, u.id = id := by
  obtain ⟨u, hu, rfl⟩ := h
  refine ⟨_, Table.mem_update.mpr ⟨u, hu, rfl⟩, ?_⟩
  split <;> simp [hid]

/-- Update users, keeping id and email. -/
def updateUsers (db : Db) (p : User → Bool) (f : User → User) (hid : ∀ u, (f u).id = u.id)
    (hemail : ∀ u, (f u).email = u.email) : Db where
  users := db.users.update p f hid hemail
  refreshTokens := db.refreshTokens
  oneTimeTokens := db.oneTimeTokens
  refreshUser t ht := exists_user_update (db.refreshUser t ht)
  oneTimeUser purpose t ht := exists_user_update (db.oneTimeUser purpose t ht)

/-- The row with `revoked_at = NOW()`. -/
def revokedRow (now : Instant) (t : RefreshToken) : RefreshToken := { t with revokedAt := some now }

/-- The row with `used_at = NOW()`. -/
def usedRow (now : Instant) (t : OneTimeToken) : OneTimeToken := { t with usedAt := some now }

/-- Set `revoked_at` of the rows that meet a condition. -/
def revoke (db : Db) (p : RefreshToken → Bool) (now : Instant) : Db where
  users := db.users
  refreshTokens := db.refreshTokens.update p (revokedRow now) (fun _ => rfl) (fun _ => rfl)
  oneTimeTokens := db.oneTimeTokens
  refreshUser t ht := by
    obtain ⟨q, hq, rfl⟩ := Table.mem_update.mp ht
    obtain ⟨u, hu, hid⟩ := db.refreshUser q hq
    exact ⟨u, hu, by split <;> exact hid⟩
  oneTimeUser := db.oneTimeUser

/-- Set `used_at` of the rows that meet a condition. -/
def markUsed (db : Db) (purpose : Purpose) (p : OneTimeToken → Bool) (now : Instant) : Db where
  users := db.users
  refreshTokens := db.refreshTokens
  oneTimeTokens := Function.update db.oneTimeTokens purpose
    ((db.oneTimeTokens purpose).update p (usedRow now) (fun _ => rfl) (fun _ => rfl))
  refreshUser := db.refreshUser
  oneTimeUser purpose' t ht := by
    by_cases h : purpose' = purpose
    · subst h
      rw [Function.update_self] at ht
      obtain ⟨q, hq, rfl⟩ := Table.mem_update.mp ht
      obtain ⟨u, hu, hid⟩ := db.oneTimeUser purpose' q hq
      exact ⟨u, hu, by split <;> exact hid⟩
    · rw [Function.update_of_ne h] at ht
      exact db.oneTimeUser purpose' t ht

/-- The users after an update are those before it, the ones that meet the condition updated. -/
theorem mem_updateUsers {db : Db} {p : User → Bool} {f : User → User} {hid : ∀ u, (f u).id = u.id}
    {hemail : ∀ u, (f u).email = u.email} {u : User} :
    u ∈ (db.updateUsers p f hid hemail).users ↔ ∃ q ∈ db.users, (if p q then f q else q) = u :=
  Table.mem_update_of hid hemail

/-- The refresh tokens after a revocation are those before it, the ones that meet the condition revoked. -/
theorem mem_revoke {db : Db} {p : RefreshToken → Bool} {now : Instant} {t : RefreshToken} :
    t ∈ (db.revoke p now).refreshTokens ↔
      ∃ q ∈ db.refreshTokens, (if p q then revokedRow now q else q) = t :=
  Table.mem_update_of (f := revokedRow now) (fun _ => rfl) (fun _ => rfl)

/-- The one-time tokens after some were used are those before it, the ones that meet the condition marked. -/
theorem mem_markUsed {db : Db} {purpose : Purpose} {p : OneTimeToken → Bool} {now : Instant}
    {t : OneTimeToken} :
    t ∈ (db.markUsed purpose p now).oneTimeTokens purpose ↔
      ∃ q ∈ db.oneTimeTokens purpose, (if p q then usedRow now q else q) = t := by
  simp only [markUsed, Function.update_self]
  exact Table.mem_update_of (f := usedRow now) (fun _ => rfl) (fun _ => rfl)

/-- Insert a user, unless the id or the email is taken. -/
def insertUser? (db : Db) (user : User) : Option Db :=
  match h : db.users.insert? user with
  | none => none
  | some users => some {
      users := users
      refreshTokens := db.refreshTokens
      oneTimeTokens := db.oneTimeTokens
      refreshUser := fun t ht => by
        obtain ⟨u, hu, hid⟩ := db.refreshUser t ht
        exact ⟨u, (Table.mem_insert? h).mpr (Or.inl hu), hid⟩
      oneTimeUser := fun purpose t ht => by
        obtain ⟨u, hu, hid⟩ := db.oneTimeUser purpose t ht
        exact ⟨u, (Table.mem_insert? h).mpr (Or.inl hu), hid⟩ }

/-- Insert a refresh token, unless its id or hash is taken or its user does not exist. -/
def insertRefreshToken? (db : Db) (token : RefreshToken) : Option Db :=
  if huser : ∃ u ∈ db.users.rows, u.id = token.userId then
    match h : db.refreshTokens.insert? token with
    | none => none
    | some tokens => some {
        users := db.users
        refreshTokens := tokens
        oneTimeTokens := db.oneTimeTokens
        refreshUser := fun t ht => by
          rcases (Table.mem_insert? h).mp ht with hold | rfl
          · exact db.refreshUser t hold
          · exact huser
        oneTimeUser := db.oneTimeUser }
  else none

/-- Insert a one-time token, unless its id or hash is taken or its user does not exist. -/
def insertOneTimeToken? (db : Db) (purpose : Purpose) (token : OneTimeToken) : Option Db :=
  if huser : ∃ u ∈ db.users.rows, u.id = token.userId then
    match h : (db.oneTimeTokens purpose).insert? token with
    | none => none
    | some tokens => some {
        users := db.users
        refreshTokens := db.refreshTokens
        oneTimeTokens := Function.update db.oneTimeTokens purpose tokens
        refreshUser := db.refreshUser
        oneTimeUser := fun purpose' t ht => by
          by_cases hp : purpose' = purpose
          · subst hp
            rw [Function.update_self] at ht
            rcases (Table.mem_insert? h).mp ht with hold | rfl
            · exact db.oneTimeUser purpose' t hold
            · exact huser
          · rw [Function.update_of_ne hp] at ht
            exact db.oneTimeUser purpose' t ht }
  else none

end Db

/-- A value stored in a VARCHAR(n) column: too long a value fails, unless all that is
cut off are spaces. -/
def varchar (n : ℕ) (s : String) : Option String :=
  if s.length ≤ n then some s
  else if (s.toList.drop n).all (· = ' ') then some (String.ofList (s.toList.take n))
  else none

/-- A nullable value stored in a VARCHAR(n) column. -/
def varchar? (n : ℕ) : Option String → Option (Option String)
  | none => some none
  | some s => (varchar n s).map some

end RustPressAuth
