import RustPressAuth.Schema

/-!
# The SQL statements of the service

Every query string of the service is one constructor, with its bound parameters, and
`Statement.run` is its meaning: the rows it returns and the database it leaves, or the
error of a violated constraint, a value that does not fit, or a number or time out of
range. Before it runs, the server may refuse a parameter. A statement that fails changes
nothing.

`fresh` is the value of `gen_random_uuid()` and `now` the value of `NOW()`.
-/

namespace RustPressAuth

open Relational

/-- The message of an `sqlx::Error`. -/
abbrev DbError := String

/-- The message of `sqlx::Error::Database`, for an error of the server. -/
def databaseError (text : String) : DbError := "error returned from database: " ++ text

/-- The message of `sqlx::Error::RowNotFound`. -/
def rowNotFound : DbError := "no rows returned by a query that expected to return at least one row"

/-- The statements, with the values bound to their parameters. -/
inductive Statement where
  /-- `SELECT id FROM users WHERE email = $1` -/
  | selectUserIdByEmail (email : String)
  /-- `INSERT INTO users (email, password_hash, name, status) VALUES ($1, $2, $3, 'active')
  RETURNING *` -/
  | insertUser (email passwordHash name : String)
  /-- `SELECT * FROM users WHERE email = $1` -/
  | selectUserByEmail (email : String)
  /-- `SELECT * FROM users WHERE id = $1` -/
  | selectUserById (id : Uuid)
  /-- `UPDATE users SET failed_login_attempts = failed_login_attempts + 1, locked_until = CASE
  WHEN failed_login_attempts + 1 >= $2 THEN NOW() + INTERVAL '1 second' * $3 ELSE locked_until
  END, updated_at = NOW() WHERE id = $1` -/
  | incrementFailedAttempts (id : Uuid) (maxLoginAttempts : Int32) (lockoutDuration : Int64)
  /-- `UPDATE users SET failed_login_attempts = 0, locked_until = NULL, last_login_at = NOW(),
  last_login_ip = $2, updated_at = NOW() WHERE id = $1` -/
  | recordSuccessfulLogin (id : Uuid) (ipAddress : Option String)
  /-- `UPDATE users SET password_hash = $1, password_changed_at = NOW(), updated_at = NOW()
  WHERE id = $2` -/
  | updatePassword (passwordHash : String) (id : Uuid)
  /-- `UPDATE users SET email_verified_at = NOW(), status = 'active', updated_at = NOW()
  WHERE id = $1 RETURNING *` -/
  | verifyUserEmail (id : Uuid)
  /-- `INSERT INTO refresh_tokens (id, user_id, token_hash, expires_at, ip_address, user_agent)
  VALUES ($1, $2, $3, $4, $5, $6)` -/
  | insertRefreshToken (id userId : Uuid) (tokenHash : String) (expiresAt : Instant)
      (ipAddress userAgent : Option String)
  /-- `SELECT * FROM refresh_tokens WHERE id = $1 AND token_hash = $2` -/
  | selectRefreshToken (id : Uuid) (tokenHash : String)
  /-- `UPDATE refresh_tokens SET revoked_at = NOW() WHERE id = $1` -/
  | revokeRefreshToken (id : Uuid)
  /-- `UPDATE refresh_tokens SET revoked_at = NOW() WHERE user_id = $1 AND revoked_at IS NULL` -/
  | revokeAllTokens (userId : Uuid)
  /-- `UPDATE <table> SET used_at = NOW() WHERE user_id = $1 AND used_at IS NULL` -/
  | invalidateTokens (purpose : Purpose) (userId : Uuid)
  /-- `INSERT INTO <table> (user_id, token_hash, expires_at) VALUES ($1, $2, $3)` -/
  | insertOneTimeToken (purpose : Purpose) (userId : Uuid) (tokenHash : String)
      (expiresAt : Instant)
  /-- `SELECT id, user_id FROM <table> WHERE token_hash = $1 AND expires_at > NOW()
  AND used_at IS NULL` -/
  | selectValidToken (purpose : Purpose) (tokenHash : String)
  /-- `UPDATE <table> SET used_at = NOW() WHERE id = $1` -/
  | markTokenUsed (purpose : Purpose) (id : Uuid)
deriving DecidableEq, Repr

/-- What a statement returns: rows for queries, the number of affected rows otherwise. -/
def Statement.Row : Statement → Type
  | .selectUserIdByEmail _ => Option Uuid
  | .insertUser .. => User
  | .selectUserByEmail _ => Option User
  | .selectUserById _ => Option User
  | .verifyUserEmail _ => User
  | .selectRefreshToken .. => Option RefreshToken
  | .selectValidToken .. => Option (Uuid × Uuid)
  | .incrementFailedAttempts .. | .recordSuccessfulLogin .. | .updatePassword .. | .insertRefreshToken ..
  | .revokeRefreshToken _ | .revokeAllTokens _ | .invalidateTokens .. | .insertOneTimeToken ..
  | .markTokenUsed .. => ℕ

/-- A parameter that the server may refuse when it is bound. -/
inductive Parameter where
  /-- A text, which must not contain the character NUL. -/
  | text (value : String)
  /-- A TIMESTAMPTZ, which must be in range. -/
  | time (value : Instant)
deriving DecidableEq, Repr

/-- Why the server refuses a parameter. -/
def Parameter.refusal? : Parameter → Option DbError
  | .text value =>
    if '\x00' ∈ value.toList then some (databaseError "invalid byte sequence for encoding \"UTF8\": 0x00") else none
  | .time value =>
    match timestamptz value with
    | .ok _ => none
    | .error _ => some (databaseError "timestamp out of range")

/-- The parameters of a statement that may be refused, in their order. -/
def Statement.bound : Statement → List Parameter
  | .selectUserIdByEmail email | .selectUserByEmail email => [.text email]
  | .insertUser email passwordHash name => [.text email, .text passwordHash, .text name]
  | .recordSuccessfulLogin _ ipAddress => ipAddress.toList.map .text
  | .updatePassword passwordHash _ => [.text passwordHash]
  | .insertRefreshToken _ _ tokenHash expiresAt ipAddress userAgent =>
    [.text tokenHash, .time expiresAt] ++ ipAddress.toList.map .text ++ userAgent.toList.map .text
  | .selectRefreshToken _ tokenHash | .selectValidToken _ tokenHash => [.text tokenHash]
  | .insertOneTimeToken _ _ tokenHash expiresAt => [.text tokenHash, .time expiresAt]
  | .selectUserById _ | .incrementFailedAttempts .. | .verifyUserEmail _ | .revokeRefreshToken _ |
      .revokeAllTokens _
  | .invalidateTokens .. | .markTokenUsed .. => []

/-- A text is accepted when no character in it is U+0000. -/
theorem Parameter.refusal?_text {value : String} :
    (Parameter.text value).refusal? = none ↔ '\x00' ∉ value.toList := by simp [Parameter.refusal?]

/-- An expiry in the bounds of `chrono` that lies after the first instant is accepted. -/
theorem Parameter.refusal?_time {now : ℤ} {n : Int64} (hnow : 0 ≤ now) (hpositive : 0 < n) (h : Expires now n) :
    (Parameter.time (now + seconds n)).refusal? = none := by
  have hlifetime : 0 < n.toInt := Int64.lt_iff_toInt_lt.mp hpositive
  have hbounds : -210866803200000000 ≤ now + seconds n ∧ now + seconds n < yearStart 294277 := by
    have hlate := h.2.2
    rw [yearStart_262143] at hlate
    rw [yearStart_294277]
    unfold seconds at *
    omega
  simp only [Parameter.refusal?, timestamptz, if_pos hbounds]

/-- Why the server refuses a parameter of a statement. -/
def Statement.refusal? (s : Statement) : Option DbError := s.bound.findSome? Parameter.refusal?

/-- The largest value of an INTEGER column. -/
def integerMax : ℤ := 2147483647

/-- The new row of `INSERT INTO users`, its other columns at their defaults. -/
def newUser (fresh : Uuid) (now : Instant) (email passwordHash name : String) : User where
  id := fresh
  email := email
  passwordHash := passwordHash
  name := name
  role := .user
  status := .active
  avatar := none
  bio := none
  website := none
  emailVerifiedAt := none
  lastLoginAt := none
  lastLoginIp := none
  failedLoginAttempts := 0
  lockedUntil := none
  passwordChangedAt := now
  createdAt := now
  updatedAt := now

/-- The new row of `INSERT INTO refresh_tokens`. -/
def newRefreshToken (now : Instant) (id userId : Uuid) (tokenHash : String) (expiresAt : Instant)
    (ipAddress userAgent : Option String) : RefreshToken where
  id := id
  userId := userId
  tokenHash := tokenHash
  expiresAt := expiresAt
  issuedAt := now
  revokedAt := none
  replacedBy := none
  userAgent := userAgent
  ipAddress := ipAddress
  createdAt := now

/-- The new row of an INSERT of a one-time token. -/
def newOneTimeToken (fresh : Uuid) (now : Instant) (userId : Uuid) (tokenHash : String)
    (expiresAt : Instant) : OneTimeToken where
  id := fresh
  userId := userId
  tokenHash := tokenHash
  expiresAt := expiresAt
  usedAt := none
  createdAt := now

/-- The row after one more failed login. -/
def User.incremented (now : Instant) (maxLoginAttempts : Int32) (lockoutDuration : Int64)
    (u : User) : User :=
  { u with
    failedLoginAttempts := u.failedLoginAttempts + 1
    lockedUntil :=
      if u.failedLoginAttempts + 1 ≥ maxLoginAttempts.toInt then some (now + intervalMicros lockoutDuration)
      else u.lockedUntil
    updatedAt := now }

/-- Why one more failed login cannot be counted: the counter is full, or the end of the lock is out of range. -/
def User.incrementFault? (now : Instant) (maxLoginAttempts : Int32) (lockoutDuration : Int64) (u : User) :
    Option DbError :=
  if u.failedLoginAttempts + 1 > integerMax then some (databaseError "integer out of range")
  else if u.failedLoginAttempts + 1 ≥ maxLoginAttempts.toInt then
    match lockEndAfter now lockoutDuration with
    | .ok _ => none
    | .error .intervalOutOfRange => some (databaseError "interval out of range")
    | .error _ => some (databaseError "timestamp out of range")
  else none

/-- The row after a successful login. -/
def User.loggedIn (now : Instant) (ipAddress : Option String) (u : User) : User :=
  { u with
    failedLoginAttempts := 0
    lockedUntil := none
    lastLoginAt := some now
    lastLoginIp := ipAddress
    updatedAt := now }

/-- The row after a password change. -/
def User.withPassword (now : Instant) (passwordHash : String) (u : User) : User :=
  { u with passwordHash := passwordHash, passwordChangedAt := now, updatedAt := now }

/-- The row after its email was verified. -/
def User.verified (now : Instant) (u : User) : User :=
  { u with emailVerifiedAt := some now, status := .active, updatedAt := now }

/-! These changes keep the keys of the row. -/

/-- A login keeps the id. -/
theorem User.loggedIn_id (now : Instant) (ipAddress : Option String) (u : User) :
    (u.loggedIn now ipAddress).id = u.id := rfl

/-- A login keeps the email. -/
theorem User.loggedIn_email (now : Instant) (ipAddress : Option String) (u : User) :
    (u.loggedIn now ipAddress).email = u.email := rfl

/-- A new password keeps the id. -/
theorem User.withPassword_id (now : Instant) (passwordHash : String) (u : User) :
    (u.withPassword now passwordHash).id = u.id := rfl

/-- A new password keeps the email. -/
theorem User.withPassword_email (now : Instant) (passwordHash : String) (u : User) :
    (u.withPassword now passwordHash).email = u.email := rfl

/-- A verification keeps the id. -/
theorem User.verified_id (now : Instant) (u : User) : (u.verified now).id = u.id := rfl

/-- A verification keeps the email. -/
theorem User.verified_email (now : Instant) (u : User) : (u.verified now).email = u.email := rfl

/-- An unknown, reported by the database as an error. -/
def orError {α : Type} (message : DbError) : Option α → Except DbError α
  | some v => .ok v
  | none => .error message

/-- The database updated at the row of one user, with the number of affected rows. -/
def Db.updateUser (db : Db) (id : Uuid) (f : User → User) (hid : ∀ u, (f u).id = u.id)
    (hemail : ∀ u, (f u).email = u.email) : Db :=
  db.updateUsers (fun u => u.id = id) f hid hemail

/-- The number of rows with this user id. -/
def Db.userCount (db : Db) (id : Uuid) : ℕ := (db.user? id).toList.length

/-- The meaning of a statement. -/
def Statement.run (fresh : Uuid) (now : Instant) (db : Db) : (s : Statement) → Except DbError (s.Row × Db)
  | .selectUserIdByEmail email => .ok ((db.userByEmail? email).map User.id, db)
  | .insertUser email passwordHash name => do
    let email ← orError (databaseError "value too long for type character varying(255)") (varchar 255 email)
    let passwordHash ← orError (databaseError "value too long for type character varying(255)")
      (varchar 255 passwordHash)
    let name ← orError (databaseError "value too long for type character varying(100)") (varchar 100 name)
    let user := newUser fresh now email passwordHash name
    let db ← orError (databaseError "duplicate key value violates unique constraint") (db.insertUser? user)
    .ok (user, db)
  | .selectUserByEmail email => .ok (db.userByEmail? email, db)
  | .selectUserById id => .ok (db.user? id, db)
  | .incrementFailedAttempts id maxLoginAttempts lockoutDuration =>
    match (db.user? id).bind (User.incrementFault? now maxLoginAttempts lockoutDuration) with
    | some e => .error e
    | none => .ok (db.userCount id, db.updateUser id (User.incremented now maxLoginAttempts lockoutDuration)
      (fun _ => rfl) (fun _ => rfl))
  | .recordSuccessfulLogin id ipAddress =>
    match db.user? id, varchar? 45 ipAddress with
    | none, _ => .ok (db.userCount id, db)
    | some _, none => .error (databaseError "value too long for type character varying(45)")
    | some _, some ipAddress =>
      .ok (db.userCount id, db.updateUser id (User.loggedIn now ipAddress) (fun _ => rfl) (fun _ => rfl))
  | .updatePassword passwordHash id =>
    match db.user? id, varchar 255 passwordHash with
    | none, _ => .ok (db.userCount id, db)
    | some _, none => .error (databaseError "value too long for type character varying(255)")
    | some _, some passwordHash =>
      .ok (db.userCount id,
        db.updateUser id (User.withPassword now passwordHash) (fun _ => rfl) (fun _ => rfl))
  | .verifyUserEmail id => do
    let user ← orError rowNotFound (db.user? id)
    .ok (user.verified now, db.updateUser id (User.verified now) (fun _ => rfl) (fun _ => rfl))
  | .insertRefreshToken id userId tokenHash expiresAt ipAddress userAgent => do
    let tokenHash ← orError (databaseError "value too long for type character varying(255)") (varchar 255 tokenHash)
    let ipAddress ← orError (databaseError "value too long for type character varying(45)") (varchar? 45 ipAddress)
    let db ← orError (databaseError "insert into refresh_tokens violates a constraint") (db.insertRefreshToken?
      (newRefreshToken now id userId tokenHash expiresAt ipAddress userAgent))
    .ok ((1 : ℕ), db)
  | .selectRefreshToken id tokenHash =>
    .ok (db.refreshTokens.find? fun t => t.id = id ∧ t.tokenHash = tokenHash, db)
  | .revokeRefreshToken id =>
    .ok ((db.refreshTokens.rows.filter fun t => t.id = id).length, db.revoke (fun t => t.id = id) now)
  | .revokeAllTokens userId =>
    .ok ((db.refreshTokens.rows.filter fun t => t.userId = userId ∧ t.revokedAt = none).length,
      db.revoke (fun t => t.userId = userId ∧ t.revokedAt = none) now)
  | .invalidateTokens purpose userId =>
    .ok (((db.oneTimeTokens purpose).rows.filter fun t => t.userId = userId ∧ t.usedAt = none).length,
      db.markUsed purpose (fun t => t.userId = userId ∧ t.usedAt = none) now)
  | .insertOneTimeToken purpose userId tokenHash expiresAt => do
    let tokenHash ← orError (databaseError "value too long for type character varying(255)") (varchar 255 tokenHash)
    let db ← orError (databaseError "insert into a token table violates a constraint")
      (db.insertOneTimeToken? purpose
      (newOneTimeToken fresh now userId tokenHash expiresAt))
    .ok ((1 : ℕ), db)
  | .selectValidToken purpose tokenHash =>
    .ok (((db.oneTimeTokens purpose).find? fun t =>
      t.tokenHash = tokenHash ∧ t.expiresAt > now ∧ t.usedAt = none).map fun t => (t.id, t.userId), db)
  | .markTokenUsed purpose id =>
    .ok (((db.oneTimeTokens purpose).rows.filter fun t => t.id = id).length,
      db.markUsed purpose (fun t => t.id = id) now)

end RustPressAuth
