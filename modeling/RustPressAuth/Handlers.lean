import RustPressAuth.Middleware
import RustPressAuth.Runs

/-!
# The HTTP handlers

A handler validates its request, calls the operations of the service and builds the
reply. Registration is two operations, one after the other: it creates the user, then
its verification token. Three routes stand behind the middleware, so they need an access
token; the route that sends a verification token again is one of them.

The bodies of requests arrive parsed. A failure of an operation is the error of the
call; a refusal by the middleware is a reply.
-/

namespace RustPressAuth

open Atomic

/-- A field of a request that failed its check. -/
structure FieldError where
  field : String
  message : String
deriving DecidableEq, Repr

/-- What the handlers are given besides the service: the environment of the process, and the functions
of the validator. -/
structure Http where
  env : Environment
  /-- `ValidateEmail::validate_email`. -/
  validEmail : String → Bool
  /-- The text of `ValidationErrors`. -/
  displayErrors : List FieldError → String

/-- `length(min = .., max = ..)`, counted in characters. -/
def checkLength (field : String) (low : ℕ) (high : Option ℕ) (message value : String) : List FieldError :=
  if low ≤ value.length && high.all (fun n => value.length ≤ n) then [] else [⟨field, message⟩]

/-- `must_match(other = ..)`. -/
def checkMatch (field message value other : String) : List FieldError :=
  if value = other then [] else [⟨field, message⟩]

namespace Http

variable (http : Http)

/-- `email`, on the field of that name. -/
def checkEmail (email : String) : List FieldError :=
  if http.validEmail email then [] else [⟨"email", "Invalid email format"⟩]

/-- The checks of the body of a login. -/
def loginErrors (req : LoginRequest) : List FieldError :=
  http.checkEmail req.email ++ checkLength "password" 1 none "Password is required" req.password

/-- The checks of the body of a registration. -/
def registerErrors (req : RegisterRequest) : List FieldError :=
  http.checkEmail req.email ++
    checkLength "password" 8 none "Password must be at least 8 characters" req.password ++
    checkMatch "password_confirm" "Passwords do not match" req.passwordConfirm req.password ++
    checkLength "name" 1 (some 100) "Name must be 1-100 characters" req.name

/-- The checks of the body of a refresh. -/
def refreshErrors (refreshToken : String) : List FieldError :=
  checkLength "refresh_token" 1 none "Refresh token is required" refreshToken

/-- The checks of the body of a reset. -/
def resetErrors (req : ResetPasswordRequest) : List FieldError :=
  checkLength "token" 1 none "Token is required" req.token ++
    checkLength "password" 8 none "Password must be at least 8 characters" req.password ++
    checkMatch "password_confirm" "Passwords do not match" req.passwordConfirm req.password

/-- The checks of the body of a change of the password. -/
def changeErrors (req : ChangePasswordRequest) : List FieldError :=
  checkLength "current_password" 1 none "Current password is required" req.currentPassword ++
    checkLength "new_password" 8 none "New password must be at least 8 characters" req.newPassword ++
    checkMatch "new_password_confirm" "Passwords do not match" req.newPasswordConfirm req.newPassword

/-- The checks of the body of a verification. -/
def verifyErrors (token : String) : List FieldError := checkLength "token" 1 none "Token is required" token

/-- `req.validate()`, whose failure ends the request. -/
def validate (errors : List FieldError) : AuthM Unit :=
  runIf (!errors.isEmpty) (Program.fail (.err (.validation (http.displayErrors errors))))

end Http

/-- Authenticated user information extracted from JWT claims. -/
structure AuthUser where
  id : Uuid
  email : String
  name : String
  role : String
deriving DecidableEq, Repr

/-- Create user from JWT claims. -/
def AuthUser.fromClaims (claims : AccessTokenClaims) : AuthUser :=
  ⟨claims.sub, claims.email, claims.name, claims.role⟩

/-- Claims stored by the middleware are used; without them the token is validated here. -/
def AuthUser.fromRequestParts (prims : Primitives) (env : Environment) (now : Instant) (parts : RequestParts) :
    Except Rejection AuthUser :=
  match parts.claims with
  | some claims => .ok (fromClaims claims)
  | none =>
    match parts.authorization with
    | none => .error ⟨401, "unauthorized", "Authentication required"⟩
    | some header =>
      if !bearer.isPrefixOf header.toList then
        .error ⟨401, "unauthorized", "Invalid authorization header format"⟩
      else
        let token := trimBearer header
        match env "JWT_SECRET" with
        | none => .error ⟨500, "configuration_error", "Server configuration error"⟩
        | some secret =>
          let issuer := (env "JWT_ISSUER").getD "rustpress"
          let audience := (env "JWT_AUDIENCE").getD "rustpress-api"
          match prims.decodeAccess secret (.expecting issuer audience) now token with
          | some claims => .ok (fromClaims claims)
          | none => .error ⟨401, "invalid_token", "Invalid or expired token"⟩

/-- The extractor for routes where a user is optional. -/
def tryAuthUser (prims : Primitives) (env : Environment) (now : Instant) (parts : RequestParts) : Option AuthUser :=
  (AuthUser.fromRequestParts prims env now parts).toOption

namespace AuthUser

/-- Check if the user has the admin role. -/
def isAdmin (user : AuthUser) : Bool := user.role == "admin"

/-- Check if the user can publish content. -/
def canPublish (user : AuthUser) : Bool := ["author", "editor", "admin"].contains user.role

/-- Check if the user can moderate content. -/
def canModerate (user : AuthUser) : Bool := ["editor", "admin"].contains user.role

end AuthUser

/-- Client information. -/
structure ClientInfo where
  ip : Option String
  userAgent : Option String
deriving DecidableEq, Repr

/-- The first header of this name in lower case, when it is text. -/
def RequestParts.header (parts : RequestParts) (name : String) : Option String :=
  (parts.headers.lookup name).bind headerText

/-- `str::trim` on the text of a header, where the only white space is blanks and tabs. -/
def trimBlanks (text : List Char) : List Char :=
  let blank (c : Char) := c == ' ' || c == '\t'
  ((text.dropWhile blank).reverse.dropWhile blank).reverse

/-- The first part of a list separated by commas, trimmed. -/
def firstListed (text : String) : String := String.ofList (trimBlanks (text.toList.takeWhile (· ≠ ',')))

/-- Extract client information from the headers. -/
def ClientInfo.fromRequestParts (parts : RequestParts) : ClientInfo where
  ip := ((parts.header "x-forwarded-for").map firstListed).or (parts.header "x-real-ip")
  userAgent := parts.header "user-agent"

/-- A request to a route, with its parsed body and what its extractors read. -/
inductive HttpRequest where
  | register (req : RegisterRequest)
  | login (client : ClientInfo) (req : LoginRequest)
  | refresh (client : ClientInfo) (refreshToken : String)
  | forgotPassword (email : String)
  | resetPassword (req : ResetPasswordRequest)
  | logout (refreshToken : String)
  | verifyEmail (token : String)
  | me (parts : RequestParts)
  | changePassword (parts : RequestParts) (req : ChangePasswordRequest)
  | resendVerification (parts : RequestParts)
deriving DecidableEq, Repr

/-- The body of a reply. -/
inductive HttpReply where
  | registered (message : String) (user : UserResponse) (verificationToken : String)
  | session (response : AuthResponse)
  | tokens (response : TokenResponse)
  | resetLink (message : String) (resetToken : Option String)
  | emailVerified (message : String) (user : UserResponse)
  | resent (message verificationToken : String)
  | user (user : AuthUser)
  | message (text : String)
  | rejected (rejection : Rejection)
deriving DecidableEq, Repr

namespace Http

variable (http : Http) (svc : AuthService)

/-- Register a new user account. -/
def register (req : RegisterRequest) : AuthM HttpReply := do
  let _ ← http.validate (http.registerErrors req)
  let user ← svc.register req
  let verificationToken ← svc.createEmailVerification user.id
  pure (.registered "Registration successful. Please verify your email." (.ofUser user) verificationToken)

/-- Authenticate user and return access/refresh tokens. -/
def login (client : ClientInfo) (req : LoginRequest) : AuthM HttpReply := do
  let _ ← http.validate (http.loginErrors req)
  let response ← svc.login req client.ip client.userAgent
  pure (.session response)

/-- Revoke refresh token and logout user; the request is not validated. -/
def logout (refreshToken : String) : AuthM HttpReply := do
  let _ ← svc.logout refreshToken
  pure (.message "Logged out successfully")

/-- Refresh access token using refresh token. -/
def refreshToken (client : ClientInfo) (refreshToken : String) : AuthM HttpReply := do
  let _ ← http.validate (refreshErrors refreshToken)
  let response ← svc.refreshTokens refreshToken client.ip client.userAgent
  pure (.tokens response)

/-- Initiate password reset process. -/
def forgotPassword (email : String) : AuthM HttpReply := do
  let _ ← http.validate (http.checkEmail email)
  let token ← svc.forgotPassword email
  pure (.resetLink "If an account with that email exists, a password reset link has been sent."
    (if token.isEmpty then none else some token))

/-- Complete password reset with token. -/
def resetPassword (req : ResetPasswordRequest) : AuthM HttpReply := do
  let _ ← http.validate (resetErrors req)
  let _ ← svc.resetPassword req
  pure (.message "Password reset successful. Please login with your new password.")

/-- Verify email address with token. -/
def verifyEmail (token : String) : AuthM HttpReply := do
  let _ ← http.validate (verifyErrors token)
  let user ← svc.verifyEmail token
  pure (.emailVerified "Email verified successfully" (.ofUser user))

/-- A route behind `requireAuth`, with the user its extractor reads. -/
def authenticated (parts : RequestParts) (handler : AuthUser → AuthM HttpReply) : AuthM HttpReply := do
  let now ← utcNow
  match requireAuth svc.prims http.env now parts (AuthUser.fromRequestParts svc.prims http.env now) with
  | .ok (.ok user) => handler user
  | .ok (.error rejection) => pure (.rejected rejection)
  | .error rejection => pure (.rejected rejection)

/-- Change password for authenticated user. -/
def changePassword (user : AuthUser) (req : ChangePasswordRequest) : AuthM HttpReply := do
  let _ ← http.validate (changeErrors req)
  let _ ← svc.changePassword user.id req
  pure (.message "Password changed successfully. Please login again on all devices.")

/-- Resend email verification token. -/
def resendVerification (user : AuthUser) : AuthM HttpReply := do
  let token ← svc.resendVerification user.id
  match token with
  | none => pure (.message "Email is already verified")
  | some token => pure (.resent "Verification email sent" token)

/-- The router: the handler of each route, behind the middleware where it is protected. -/
def createRoutes : HttpRequest → AuthM HttpReply
  | .register req => http.register svc req
  | .login client req => http.login svc client req
  | .refresh client refreshToken => http.refreshToken svc client refreshToken
  | .forgotPassword email => http.forgotPassword svc email
  | .resetPassword req => http.resetPassword svc req
  | .logout refreshToken => logout svc refreshToken
  | .verifyEmail token => http.verifyEmail svc token
  | .me parts => http.authenticated svc parts fun user => pure (.user user)
  | .changePassword parts req => http.authenticated svc parts fun user => http.changePassword svc user req
  | .resendVerification parts => http.authenticated svc parts fun user => resendVerification svc user

end Http

/-- A state of the whole system of requests: the world, the requests and the log. -/
abbrev HttpSystem := Config ℕ Action Action.Reply Failure HttpReply World

/-- The requests a run is about, none of them begun. -/
def Http.start (http : Http) (svc : AuthService) (w : World) (req : ℕ → HttpRequest) : HttpSystem :=
  Config.start w fun i => http.createRoutes svc (req i)

/-- A validated request goes on when it has no errors. -/
@[simp] theorem obeys_validate (http : Http) (errors : List FieldError)
    (π : Program.Protocol Action Action.Reply Unit) (h : Program.History Action Action.Reply) :
    (http.validate errors).Obeys π h ↔ (errors = [] → π.result h ()) := by
  cases errors with
  | nil => simp [Http.validate]
  | cons e rest => simp [Http.validate]

/-- A request that fails its validation ends there. -/
theorem fulfils_validate {http : Http} {errors : List FieldError} {C : Program.Contract Action Action.Reply}
    {post : Unit → Prop} (h : post ()) : (http.validate errors).Fulfils C post := by
  rw [Http.validate, fulfils_runIf]
  exact ⟨fun _ => Program.fulfils_fail _, fun _ => h⟩

/-- A route behind the middleware runs its handler for the claims the token decodes to. -/
theorem obeys_authenticated {http : Http} {svc : AuthService} {parts : RequestParts}
    {handler : AuthUser → AuthM HttpReply} {π : Program.Protocol Action Action.Reply HttpReply}
    {h : Program.History Action Action.Reply} (hnow : π.guard h .now)
    (hhandler : ∀ (user : AuthUser) (now : Instant), (handler user).Obeys π (⟨.now, now⟩ :: h))
    (hrejected : ∀ (rejection : Rejection) (now : Instant), π.result (⟨.now, now⟩ :: h) (.rejected rejection)) :
    (http.authenticated svc parts handler).Obeys π h := by
  simp only [Http.authenticated, Program.obeys_bind, obeys_utcNow]
  refine ⟨hnow, fun now => ?_⟩
  simp only [Program.before_result]
  split
  · exact hhandler _ now
  · exact hrejected _ now
  · exact hrejected _ now

end RustPressAuth
