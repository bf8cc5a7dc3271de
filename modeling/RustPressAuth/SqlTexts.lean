import RustPressAuth.Migrations

/-!
# The SQL texts

The statements of the service as commands on the tables that the migrations create, with
the values bound to their parameters, and what `sqlx` makes of the rows that come back.
-/

namespace RustPressAuth

open Sql

/-- A row of any of the tables. -/
abbrev SqlRow := Record ColumnName

/-- The rows of all tables. -/
abbrev SqlTables := Contents TableName ColumnName

namespace Statement

/-- The query strings. -/
def command : Statement → Command TableName ColumnName
  | selectUserIdByEmail _ | selectUserByEmail _ => .select .users (.eq (.column .email) (.param 1))
  | insertUser .. => .insert .users [(.email, .param 1), (.passwordHash, .param 2), (.name, .param 3),
      (.status, .literal (.text "active"))]
  | selectUserById _ => .select .users (.eq (.column .id) (.param 1))
  | incrementFailedAttempts .. =>
    .update .users
      [(.failedLoginAttempts, .add (.column .failedLoginAttempts) (.literal (.integer 1))),
        (.lockedUntil, .caseWhen (.ge (.add (.column .failedLoginAttempts) (.literal (.integer 1))) (.param 2))
          (.add .now (.mul (.literal (.span 1000000)) (.param 3))) (.column .lockedUntil)),
        (.updatedAt, .now)]
      (.eq (.column .id) (.param 1))
  | recordSuccessfulLogin .. =>
    .update .users
      [(.failedLoginAttempts, .literal (.integer 0)), (.lockedUntil, .null), (.lastLoginAt, .now),
        (.lastLoginIp, .param 2),
        (.updatedAt, .now)]
      (.eq (.column .id) (.param 1))
  | updatePassword .. =>
    .update .users [(.passwordHash, .param 1), (.passwordChangedAt, .now), (.updatedAt, .now)]
      (.eq (.column .id) (.param 2))
  | verifyUserEmail _ =>
    .update .users [(.emailVerifiedAt, .now), (.status, .literal (.text "active")), (.updatedAt, .now)]
      (.eq (.column .id) (.param 1))
  | insertRefreshToken .. => .insert .refreshTokens [(.id, .param 1), (.userId, .param 2), (.tokenHash, .param 3),
      (.expiresAt, .param 4), (.ipAddress, .param 5), (.userAgent, .param 6)]
  | selectRefreshToken .. =>
    .select .refreshTokens (.and (.eq (.column .id) (.param 1)) (.eq (.column .tokenHash) (.param 2)))
  | revokeRefreshToken _ => .update .refreshTokens [(.revokedAt, .now)] (.eq (.column .id) (.param 1))
  | revokeAllTokens _ =>
    .update .refreshTokens [(.revokedAt, .now)]
      (.and (.eq (.column .userId) (.param 1)) (.isNull (.column .revokedAt)))
  | invalidateTokens purpose _ =>
    .update (.oneTimeTokens purpose) [(.usedAt, .now)]
      (.and (.eq (.column .userId) (.param 1)) (.isNull (.column .usedAt)))
  | insertOneTimeToken purpose .. =>
    .insert (.oneTimeTokens purpose) [(.userId, .param 1), (.tokenHash, .param 2), (.expiresAt, .param 3)]
  | selectValidToken purpose _ =>
    .select (.oneTimeTokens purpose)
      (.and (.and (.eq (.column .tokenHash) (.param 1)) (.gt (.column .expiresAt) .now))
        (.isNull (.column .usedAt)))
  | markTokenUsed purpose _ => .update (.oneTimeTokens purpose) [(.usedAt, .now)] (.eq (.column .id) (.param 1))

/-- The values bound to `$1`, `$2` and so on. -/
def params : Statement → List (Option Value)
  | selectUserIdByEmail email | selectUserByEmail email => [some (.text email)]
  | insertUser email passwordHash name => [some (.text email), some (.text passwordHash), some (.text name)]
  | selectUserById id | verifyUserEmail id | revokeRefreshToken id | markTokenUsed _ id => [some (.uuid id)]
  | incrementFailedAttempts id maxLoginAttempts lockoutDuration =>
    [some (.uuid id), some (.integer maxLoginAttempts.toInt), some (.integer lockoutDuration.toInt)]
  | recordSuccessfulLogin id ipAddress => [some (.uuid id), ipAddress.map .text]
  | updatePassword passwordHash id => [some (.text passwordHash), some (.uuid id)]
  | insertRefreshToken id userId tokenHash expiresAt ipAddress userAgent =>
    [some (.uuid id), some (.uuid userId), some (.text tokenHash), some (.instant expiresAt), ipAddress.map .text,
      userAgent.map .text]
  | selectRefreshToken id tokenHash => [some (.uuid id), some (.text tokenHash)]
  | revokeAllTokens userId | invalidateTokens _ userId => [some (.uuid userId)]
  | insertOneTimeToken _ userId tokenHash expiresAt =>
    [some (.uuid userId), some (.text tokenHash), some (.instant expiresAt)]
  | selectValidToken _ tokenHash => [some (.text tokenHash)]

end Statement

/-- A value as `Uuid`. -/
def asUuid : Value → Option Uuid
  | .uuid id => some id
  | _ => none

/-- A value as `String`. -/
def asText : Value → Option String
  | .text s => some s
  | _ => none

/-- A value as `i32`. -/
def asInteger : Value → Option ℤ
  | .integer n => some n
  | _ => none

/-- A value as `DateTime<Utc>`. -/
def asInstant : Value → Option Instant
  | .instant t => some t
  | _ => none

/-- A value as `UserRole`. -/
def asRole : Value → Option UserRole
  | .label s => [UserRole.user, .author, .editor, .admin].find? fun role => role.asStr = s
  | _ => none

/-- The label of a status in the database. -/
def UserStatus.label : UserStatus → String
  | .pending => "pending"
  | .active => "active"
  | .suspended => "suspended"
  | .deleted => "deleted"

/-- A value as `UserStatus`. -/
def asStatus : Value → Option UserStatus
  | .label s => [UserStatus.pending, .active, .suspended, .deleted].find? fun status => status.label = s
  | _ => none

/-- The error of a column that does not decode. -/
def decodeError : DbError := "error occurred while decoding a column"

section Decode

variable {α : Type}

/-- A column read at a type without NULL. -/
def required (decode : Value → Option α) (stored : Option Value) : Except DbError α :=
  orError decodeError (stored.bind decode)

/-- A column read as an `Option`. -/
def nullable (decode : Value → Option α) : Option Value → Except DbError (Option α)
  | none => .ok none
  | some v => (orError decodeError (decode v)).map some

/-- `fetch_optional`. -/
def fetchOptional (decode : SqlRow → Except DbError α) : List SqlRow → Except DbError (Option α)
  | [] => .ok none
  | row :: _ => (decode row).map some

/-- `fetch_one`. -/
def fetchOne (decode : SqlRow → Except DbError α) : List SqlRow → Except DbError α
  | [] => .error rowNotFound
  | row :: _ => decode row

end Decode

/-- The derived `FromRow` of `User`. -/
def User.fromRow (row : SqlRow) : Except DbError User := do
  let id ← required asUuid (row .id)
  let email ← required asText (row .email)
  let passwordHash ← required asText (row .passwordHash)
  let name ← required asText (row .name)
  let role ← required asRole (row .role)
  let status ← required asStatus (row .status)
  let avatar ← nullable asText (row .avatar)
  let bio ← nullable asText (row .bio)
  let website ← nullable asText (row .website)
  let emailVerifiedAt ← nullable asInstant (row .emailVerifiedAt)
  let lastLoginAt ← nullable asInstant (row .lastLoginAt)
  let lastLoginIp ← nullable asText (row .lastLoginIp)
  let failedLoginAttempts ← required asInteger (row .failedLoginAttempts)
  let lockedUntil ← nullable asInstant (row .lockedUntil)
  let passwordChangedAt ← required asInstant (row .passwordChangedAt)
  let createdAt ← required asInstant (row .createdAt)
  let updatedAt ← required asInstant (row .updatedAt)
  .ok
    { id, email, passwordHash, name, role, status, avatar, bio, website, emailVerifiedAt, lastLoginAt, lastLoginIp,
      failedLoginAttempts, lockedUntil, passwordChangedAt, createdAt, updatedAt }

/-- The derived `FromRow` of `RefreshToken`. -/
def RefreshToken.fromRow (row : SqlRow) : Except DbError RefreshToken := do
  let id ← required asUuid (row .id)
  let userId ← required asUuid (row .userId)
  let tokenHash ← required asText (row .tokenHash)
  let expiresAt ← required asInstant (row .expiresAt)
  let issuedAt ← required asInstant (row .issuedAt)
  let revokedAt ← nullable asInstant (row .revokedAt)
  let replacedBy ← nullable asUuid (row .replacedBy)
  let userAgent ← nullable asText (row .userAgent)
  let ipAddress ← nullable asText (row .ipAddress)
  let createdAt ← required asInstant (row .createdAt)
  .ok { id, userId, tokenHash, expiresAt, issuedAt, revokedAt, replacedBy, userAgent, ipAddress, createdAt }

namespace Statement

/-- The row read at the type `(Uuid, Uuid)`. -/
def readIdAndUser (row : SqlRow) : Except DbError (Uuid × Uuid) := do
  let id ← required asUuid (row .id)
  let userId ← required asUuid (row .userId)
  .ok (id, userId)

/-- What the call of `sqlx` makes of the rows: `fetch_optional`, `fetch_one`, or how many an `execute` affected. -/
def fetch : (s : Statement) → List SqlRow → Except DbError s.Row
  | selectUserIdByEmail _ => fetchOptional fun row => required asUuid (row .id)
  | selectUserByEmail _ | selectUserById _ => fetchOptional User.fromRow
  | selectRefreshToken .. => fetchOptional RefreshToken.fromRow
  | selectValidToken .. => fetchOptional readIdAndUser
  | insertUser .. | verifyUserEmail _ => fetchOne User.fromRow
  | incrementFailedAttempts .. | recordSuccessfulLogin .. | updatePassword .. | insertRefreshToken .. |
      revokeRefreshToken _
  | revokeAllTokens _ | invalidateTokens .. | insertOneTimeToken .. | markTokenUsed .. =>
    fun rows => .ok (rows.length : ℕ)

/-- The text of an error of the server. -/
def errorText (s : Statement) : SqlError → String
  | .tooLong n => s!"value too long for type character varying({n})"
  | .outOfRange => "integer out of range"
  | .intervalOutOfRange => "interval out of range"
  | .timestampOutOfRange => "timestamp out of range"
  | .nulCharacter => "invalid byte sequence for encoding \"UTF8\": 0x00"
  | .violation =>
    match s with
    | insertUser .. => "duplicate key value violates unique constraint"
    | insertRefreshToken .. => "insert into refresh_tokens violates a constraint"
    | _ => "insert into a token table violates a constraint"
  | .invalidLabel => "invalid input value for enum"
  | .typeMismatch => "column is of another type"
  | .undefinedTable => "relation does not exist"
  | .undefinedColumn => "column does not exist"
  | .undefinedParameter => "there is no such parameter"

/-- The message of an error of the server. -/
def message (s : Statement) (e : SqlError) : DbError := databaseError (s.errorText e)

/-- Execute a statement on the tables of the migrated schema. -/
def execute (fresh : Uuid) (now : Instant) (tables : SqlTables) (s : Statement) :
    Except DbError s.Row × SqlTables :=
  match authSchema.run ⟨s.params, now, fresh⟩ tables s.command with
  | .error e => (.error (s.message e), tables)
  | .ok (rows, tables') => (s.fetch rows, tables')

end Statement

end RustPressAuth
