import Mathlib.Data.Int.Notation
import Mathlib.Data.Nat.Notation
import Mathlib.Tactic.SplitIfs

/-!
# Identifiers, instants, errors and the configuration

Instants are whole microseconds since the Unix epoch, the resolution of the database's
TIMESTAMPTZ. They are unbounded integers; durations come from the configuration as
signed 64-bit seconds.
-/

namespace RustPressAuth

/-- UUIDs as 128-bit values. -/
abbrev Uuid := BitVec 128

/-- Microseconds since the Unix epoch. -/
abbrev Instant := ℤ

/-- `Duration::seconds`, and an SQL interval of so many seconds. -/
def seconds (n : Int64) : ℤ := n.toInt * 1000000

/-- `DateTime::timestamp`: whole seconds since the Unix epoch, rounded down. -/
def timestamp (t : Instant) : ℤ := t / 1000000

/-- Authentication errors. -/
inductive AuthError where
  | invalidCredentials
  | accountLocked
  | accountNotActive
  | emailNotVerified
  | invalidToken
  | tokenRevoked
  | userNotFound
  | emailExists
  | weakPassword
  | validation (message : String)
  | database (message : String)
  | config (message : String)
  | internal
deriving DecidableEq, Repr

/-- Authentication configuration, fixed for the lifetime of a service. -/
structure AuthConfig where
  jwtSecret : String
  accessTokenExpiration : Int64
  refreshTokenExpiration : Int64
  jwtIssuer : String
  jwtAudience : String
  argon2MemoryCost : UInt32
  argon2TimeCost : UInt32
  argon2Parallelism : UInt32
  maxLoginAttempts : Int32
  lockoutDuration : Int64
  passwordResetExpiration : Int64
  emailVerificationExpiration : Int64
  minPasswordLength : ℕ
  requireEmailVerification : Bool
deriving DecidableEq, Repr

/-- Validate the configuration. -/
def AuthConfig.validate (config : AuthConfig) : Except AuthError Unit :=
  if config.jwtSecret.utf8ByteSize < 32 then
    .error (.config "JWT_SECRET must be at least 32 characters")
  else if config.accessTokenExpiration ≤ 0 then
    .error (.config "JWT_ACCESS_EXPIRATION must be positive")
  else if config.refreshTokenExpiration ≤ config.accessTokenExpiration then
    .error (.config "JWT_REFRESH_EXPIRATION must be greater than JWT_ACCESS_EXPIRATION")
  else if config.minPasswordLength < 8 then
    .error (.config "MIN_PASSWORD_LENGTH must be at least 8")
  else .ok ()

/-- A validated configuration issues access tokens with a lifetime. -/
theorem AuthConfig.accessTokenExpiration_pos {config : AuthConfig} (h : config.validate = .ok ()) :
    0 < config.accessTokenExpiration.toInt := by
  unfold validate at h
  split_ifs at h with hsecret haccess
  rw [Int64.le_iff_toInt_le, Int64.toInt_zero] at haccess
  omega

/-- The environment variables of the process that are set to Unicode text. -/
abbrev Environment := String → Option String

/-- The number that decimal digits write, if there are any and nothing else. -/
def parseDigits (digits : List Char) : Option ℕ :=
  if !digits.isEmpty && digits.all Char.isDigit then
    some (digits.foldl (fun n c => 10 * n + (c.toNat - '0'.toNat)) 0)
  else none

/-- `str::parse` at an integer type with the values from `low` to `high`: a sign is optional, and only
signed types read a minus. -/
def parseInteger (low high : ℤ) (text : String) : Option ℤ :=
  let value : Option ℤ :=
    match text.toList with
    | '+' :: digits => (parseDigits digits).map fun n => (n : ℤ)
    | '-' :: digits => if low < 0 then (parseDigits digits).map fun n => -(n : ℤ) else none
    | digits => (parseDigits digits).map fun n => (n : ℤ)
  value.filter fun n => decide (low ≤ n ∧ n ≤ high)

/-- A variable read at type `i64`, or a default when it is not set or does not parse. -/
def Environment.int64 (env : Environment) (name : String) (default : Int64) : Int64 :=
  (((env name).bind (parseInteger (-9223372036854775808) 9223372036854775807)).map Int64.ofInt).getD default

/-- A variable read at type `i32`. -/
def Environment.int32 (env : Environment) (name : String) (default : Int32) : Int32 :=
  (((env name).bind (parseInteger (-2147483648) 2147483647)).map Int32.ofInt).getD default

/-- A variable read at type `u32`. -/
def Environment.uint32 (env : Environment) (name : String) (default : UInt32) : UInt32 :=
  (((env name).bind (parseInteger 0 4294967295)).map fun n => UInt32.ofNat n.toNat).getD default

/-- A variable read at type `usize`, of 64 bits. -/
def Environment.usize (env : Environment) (name : String) (default : ℕ) : ℕ :=
  (((env name).bind (parseInteger 0 18446744073709551615)).map Int.toNat).getD default

/-- Load configuration from environment variables; no result when the load panics, for want of a secret. -/
def AuthConfig.fromEnv (env : Environment) : Option AuthConfig :=
  (env "JWT_SECRET").map fun jwtSecret =>
    { jwtSecret := jwtSecret
      accessTokenExpiration := env.int64 "JWT_ACCESS_EXPIRATION" 900
      refreshTokenExpiration := env.int64 "JWT_REFRESH_EXPIRATION" 604800
      jwtIssuer := (env "JWT_ISSUER").getD "rustpress"
      jwtAudience := (env "JWT_AUDIENCE").getD "rustpress-api"
      argon2MemoryCost := env.uint32 "ARGON2_MEMORY_COST" 65536
      argon2TimeCost := env.uint32 "ARGON2_TIME_COST" 3
      argon2Parallelism := env.uint32 "ARGON2_PARALLELISM" 4
      maxLoginAttempts := env.int32 "MAX_LOGIN_ATTEMPTS" 5
      lockoutDuration := env.int64 "LOCKOUT_DURATION" 900
      passwordResetExpiration := env.int64 "PASSWORD_RESET_EXPIRATION" 3600
      emailVerificationExpiration := env.int64 "EMAIL_VERIFICATION_EXPIRATION" 86400
      minPasswordLength := env.usize "MIN_PASSWORD_LENGTH" 8
      requireEmailVerification := ((env "REQUIRE_EMAIL_VERIFICATION").map fun v => v.toLower == "true").getD false }

end RustPressAuth
