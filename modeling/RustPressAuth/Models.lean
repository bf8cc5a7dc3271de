import RustPressAuth.Config

/-!
# Users, tokens, requests and responses

The database entities with the predicates the service decides by, the request and
response types of the operations, and the two kinds of token claims. Predicates that
read the clock take the instant they read.
-/

namespace RustPressAuth

/-- User roles of the database type `user_role`. -/
inductive UserRole where
  | user
  | author
  | editor
  | admin
deriving DecidableEq, Repr

namespace UserRole

/-- Only administrators. -/
def isAdmin : UserRole → Bool
  | .admin => true
  | _ => false

/-- Authors and above. -/
def canPublish : UserRole → Bool
  | .author | .editor | .admin => true
  | _ => false

/-- Editors and above. -/
def canModerate : UserRole → Bool
  | .editor | .admin => true
  | _ => false

end UserRole

/-- The text of a role, as tokens carry it. -/
def UserRole.asStr : UserRole → String
  | .user => "user"
  | .author => "author"
  | .editor => "editor"
  | .admin => "admin"

/-- User statuses of the database type `user_status`. -/
inductive UserStatus where
  | pending
  | active
  | suspended
  | deleted
deriving DecidableEq, Repr

/-- A row of `users`. -/
structure User where
  id : Uuid
  email : String
  passwordHash : String
  name : String
  role : UserRole
  status : UserStatus
  avatar : Option String
  bio : Option String
  website : Option String
  emailVerifiedAt : Option Instant
  lastLoginAt : Option Instant
  lastLoginIp : Option String
  failedLoginAttempts : ℤ
  lockedUntil : Option Instant
  passwordChangedAt : Instant
  createdAt : Instant
  updatedAt : Instant
deriving DecidableEq, Repr

namespace User

/-- Check if the account is locked at `now`. -/
def isLocked (user : User) (now : Instant) : Bool :=
  match user.lockedUntil with
  | some lockedUntil => decide (lockedUntil > now)
  | none => false

/-- Check if the email is verified. -/
def isEmailVerified (user : User) : Bool := user.emailVerifiedAt.isSome

/-- Check if the user is active and not locked at `now`. -/
def canLogin (user : User) (now : Instant) : Bool :=
  user.status == .active && !user.isLocked now

/-- Check if the user is an administrator. -/
def isAdmin (user : User) : Bool := user.role.isAdmin

end User

/-- A row of `refresh_tokens`. -/
structure RefreshToken where
  id : Uuid
  userId : Uuid
  tokenHash : String
  expiresAt : Instant
  issuedAt : Instant
  revokedAt : Option Instant
  replacedBy : Option Uuid
  userAgent : Option String
  ipAddress : Option String
  createdAt : Instant
deriving DecidableEq, Repr

namespace RefreshToken

/-- Check if the token is expired at `now`. -/
def isExpired (token : RefreshToken) (now : Instant) : Bool := decide (token.expiresAt < now)

/-- Check if the token is revoked. -/
def isRevoked (token : RefreshToken) : Bool := token.revokedAt.isSome

/-- Check if the token is valid at `now`. -/
def isValid (token : RefreshToken) (now : Instant) : Bool :=
  !token.isExpired now && !token.isRevoked

/-- A refresh token is valid exactly if it has not expired and is not revoked. -/
theorem isValid_iff {token : RefreshToken} {now : Instant} :
    token.isValid now = true ↔ now ≤ token.expiresAt ∧ token.isRevoked = false := by
  simp [isValid, isExpired]

end RefreshToken

/-- A row of `password_reset_tokens` or of `email_verification_tokens`. -/
structure OneTimeToken where
  id : Uuid
  userId : Uuid
  tokenHash : String
  expiresAt : Instant
  usedAt : Option Instant
  createdAt : Instant
deriving DecidableEq, Repr

/-- Login request. -/
structure LoginRequest where
  email : String
  password : String
deriving DecidableEq, Repr

/-- Registration request. -/
structure RegisterRequest where
  email : String
  password : String
  passwordConfirm : String
  name : String
deriving DecidableEq, Repr

/-- Password reset request (complete). -/
structure ResetPasswordRequest where
  token : String
  password : String
  passwordConfirm : String
deriving DecidableEq, Repr

/-- Change password request (for authenticated users). -/
structure ChangePasswordRequest where
  currentPassword : String
  newPassword : String
  newPasswordConfirm : String
deriving DecidableEq, Repr

/-- Public user data without sensitive fields. -/
structure UserResponse where
  id : Uuid
  email : String
  name : String
  role : UserRole
  avatar : Option String
  bio : Option String
  website : Option String
  emailVerified : Bool
  createdAt : Instant
deriving DecidableEq, Repr

/-- The public part of a user row. -/
def UserResponse.ofUser (user : User) : UserResponse where
  id := user.id
  email := user.email
  name := user.name
  role := user.role
  avatar := user.avatar
  bio := user.bio
  website := user.website
  emailVerified := user.isEmailVerified
  createdAt := user.createdAt

/-- Authentication response with tokens. -/
structure AuthResponse where
  user : UserResponse
  accessToken : String
  refreshToken : String
  tokenType : String
  expiresIn : Int64
deriving DecidableEq, Repr

/-- Token refresh response. -/
structure TokenResponse where
  accessToken : String
  refreshToken : String
  tokenType : String
  expiresIn : Int64
deriving DecidableEq, Repr

/-- JWT claims for access tokens. -/
structure AccessTokenClaims where
  sub : Uuid
  email : String
  name : String
  role : String
  iat : ℤ
  exp : ℤ
  iss : String
  aud : String
  jti : Uuid
deriving DecidableEq, Repr

/-- JWT claims for refresh tokens. -/
structure RefreshTokenClaims where
  sub : Uuid
  tid : Uuid
  iat : ℤ
  exp : ℤ
  iss : String
deriving DecidableEq, Repr

end RustPressAuth
