import RustPressAuth.Runs

/-!
# What a call has done before each action

The trace of a call is its actions with their replies, most recent first. Each action of
a call is preceded by a trace of a known shape: a login increments the failure counter
only right after a password comparison failed, a reset replaces the password only after
it found its token, and so on. `protocol` lists these shapes action by action, and
`serve_obeys` shows that the operations follow it. Everything later said about runs
uses this list and never opens an operation again.
-/

namespace RustPressAuth

open Atomic Program

/-- The actions of one call with their replies, most recent first. -/
abbrev Trace := History Action Action.Reply

/-- An entry of a trace. -/
abbrev Entry := (a : Action) × a.Reply

/-- The entry of an action. -/
@[reducible] def did (a : Action) (r : a.Reply) : Entry := ⟨a, r⟩

/-- The entry of a statement that did not fail. -/
@[reducible] def executed (s : Statement) (rows : s.Row) : Entry := ⟨.sql s, .ok rows⟩

/-- A login that found its account neither locked nor inactive. -/
structure LoginChecked (email : String) (user : User) (now : Instant) (h : Trace) : Prop where
  trace : h = [did .now now, executed (.selectUserByEmail email) (some user)]
  unlocked : user.isLocked now = false
  active : user.status = .active

/-- A login whose password matched and whose email is verified where that is required. -/
structure LoginVerified (svc : AuthService) (req : LoginRequest) (user : User) (now : Instant)
    (h : Trace) : Prop where
  trace : h = [did (.verifyPassword req.password user.passwordHash) (some true), did .now now,
    executed (.selectUserByEmail req.email) (some user)]
  unlocked : user.isLocked now = false
  active : user.status = .active
  verified : svc.config.requireEmailVerification = true → user.isEmailVerified = true

/-- A refresh that decoded its JWT and found the row the JWT and the random part name. -/
structure RefreshFound (svc : AuthService) (refreshToken : String) (claims : RefreshTokenClaims)
    (row : RefreshToken) (h : Trace) : Prop where
  decoded : ∃ tokenString jwt now, rsplitDot refreshToken = [tokenString, jwt] ∧
    svc.decodeRefresh true now jwt = some claims ∧
    h = [executed (.selectRefreshToken claims.tid (svc.hashToken tokenString)) (some row), did .now now]

/-- A refresh that found its row valid and its user able to log in. -/
structure RefreshChecked (svc : AuthService) (refreshToken : String) (claims : RefreshTokenClaims)
    (row : RefreshToken) (user : User) (now : Instant) (h : Trace) : Prop where
  steps : ∃ checkedAt h', RefreshFound svc refreshToken claims row h' ∧ row.isValid checkedAt = true ∧
    h = did .now now :: executed (.selectUserById claims.sub) (some user) :: did .now checkedAt :: h'
  canLogin : user.canLogin now = true

/-- The call has passed every check made before tokens are issued for a user. -/
inductive Authorized (svc : AuthService) : Request → User → Trace → Prop
  | login {req : LoginRequest} {ipAddress userAgent : Option String} {user : User} {now : Instant}
      {n : ℕ} {h : Trace} (hverified : LoginVerified svc req user now h) :
      Authorized svc (.login req ipAddress userAgent) user
        (executed (.recordSuccessfulLogin user.id ipAddress) n :: h)
  | refresh {refreshToken : String} {ipAddress userAgent : Option String}
      {claims : RefreshTokenClaims} {row : RefreshToken} {user : User} {now : Instant} {h : Trace}
      (hchecked : RefreshChecked svc refreshToken claims row user now h) :
      Authorized svc (.refreshTokens refreshToken ipAddress userAgent) user h

/-- The call is about to sign the access token of a user it authorized. -/
def AccessDrawn (svc : AuthService) (req : Request) (claims : AccessTokenClaims) (h : Trace) : Prop :=
  ∃ user now jti h', Authorized svc req user h' ∧ claims = svc.accessClaims user now jti ∧
    h = did .uuid jti :: did .now now :: h'

/-- The call has signed an access token for a user it authorized. -/
def AccessSigned (svc : AuthService) (req : Request) (user : User) (accessToken : String)
    (h : Trace) : Prop :=
  ∃ now jti h', Authorized svc req user h' ∧
    h = did (.sign (svc.accessClaims user now jti).toPayload) accessToken :: did .uuid jti ::
      did .now now :: h'

/-- The call has drawn a refresh token: the id of its row, its secret part and the time. -/
def RefreshDrawn (svc : AuthService) (req : Request) (user : User) (accessToken : String)
    (tokenId : Uuid) (now : Instant) (bytes : Vector UInt8 32) (h : Trace) : Prop :=
  ∃ h', AccessSigned svc req user accessToken h' ∧
    h = did .randomBytes bytes :: did .now now :: did .uuid tokenId :: h'

/-- The statement that stores a drawn refresh token. -/
def AuthService.storeRefresh (svc : AuthService) (userId tokenId : Uuid) (now : Instant)
    (bytes : Vector UInt8 32) (ipAddress userAgent : Option String) : Statement :=
  .insertRefreshToken tokenId userId (svc.hashToken (base64UrlEncode bytes.toList))
    (now + seconds svc.config.refreshTokenExpiration) ipAddress userAgent

/-- The call has stored the row of a refresh token. -/
def RefreshStored (svc : AuthService) (req : Request) (user : User) (accessToken : String)
    (tokenId : Uuid) (now : Instant) (bytes : Vector UInt8 32) (h : Trace) : Prop :=
  ∃ ipAddress userAgent h', ∃ n : ℕ, RefreshDrawn svc req user accessToken tokenId now bytes h' ∧
    h = executed (svc.storeRefresh user.id tokenId now bytes ipAddress userAgent) n :: h'

/-- The call has signed a refresh token as well; `refreshToken` is the combined string. -/
def RefreshIssued (svc : AuthService) (req : Request) (user : User) (accessToken refreshToken : String)
    (h : Trace) : Prop :=
  ∃ tokenId now bytes jwt h', RefreshStored svc req user accessToken tokenId now bytes h' ∧
    refreshToken = jwt ++ "." ++ base64UrlEncode bytes.toList ∧
    h = did (.sign (svc.refreshClaims user.id tokenId now).toPayload) jwt :: h'

/-- A one-time token was found by the hash of the presented string. -/
def TokenFound (svc : AuthService) (purpose : Purpose) (token : String) (tokenId userId : Uuid)
    (h : Trace) : Prop :=
  h = [executed (.selectValidToken purpose (svc.hashToken token)) (some (tokenId, userId))]

/-- A new password was accepted and hashed. -/
def PasswordHashed (svc : AuthService) (password passwordHash : String) (h h' : Trace) : Prop :=
  ∃ salt, svc.passwordAccepted password = true ∧
    svc.prims.argon2Hash svc.config.argon2MemoryCost svc.config.argon2TimeCost
      svc.config.argon2Parallelism salt password = some passwordHash ∧
    h' = did .salt salt :: h

/-- A reset that found its token and hashed the new password. -/
def ResetReady (svc : AuthService) (req : ResetPasswordRequest) (tokenId userId : Uuid)
    (passwordHash : String) (h : Trace) : Prop :=
  ∃ h', TokenFound svc .passwordReset req.token tokenId userId h' ∧
    PasswordHashed svc req.password passwordHash h' h

/-- A reset that replaced the password. -/
def ResetStored (svc : AuthService) (req : ResetPasswordRequest) (tokenId userId : Uuid)
    (h : Trace) : Prop :=
  ∃ passwordHash h', ∃ n : ℕ, ResetReady svc req tokenId userId passwordHash h' ∧
    h = executed (.updatePassword passwordHash userId) n :: h'

/-- A reset that marked its token used as well. -/
def ResetConsumed (svc : AuthService) (req : ResetPasswordRequest) (userId : Uuid) (h : Trace) : Prop :=
  ∃ tokenId h', ∃ n : ℕ, ResetStored svc req tokenId userId h' ∧
    h = executed (.markTokenUsed .passwordReset tokenId) n :: h'

/-- A change whose current password matched, with the new password hashed. -/
def ChangeReady (svc : AuthService) (userId : Uuid) (req : ChangePasswordRequest)
    (passwordHash : String) (h : Trace) : Prop :=
  ∃ user h', h' = [did (.verifyPassword req.currentPassword user.passwordHash) (some true),
      executed (.selectUserById userId) (some user)] ∧
    PasswordHashed svc req.newPassword passwordHash h' h

/-- A change that replaced the password. -/
def ChangeStored (svc : AuthService) (userId : Uuid) (req : ChangePasswordRequest) (h : Trace) : Prop :=
  ∃ passwordHash h', ∃ n : ℕ, ChangeReady svc userId req passwordHash h' ∧
    h = executed (.updatePassword passwordHash userId) n :: h'

/-- The requests that issue a one-time token of a purpose to a user, once the user is known. -/
inductive Issues : Request → Purpose → Uuid → Trace → Prop
  | forgotPassword {email : String} {user : User} :
      Issues (.forgotPassword email) .passwordReset user.id
        [executed (.selectUserByEmail email) (some user)]
  | createEmailVerification {userId : Uuid} :
      Issues (.createEmailVerification userId) .emailVerification userId []
  | resendVerification {userId : Uuid} {user : User} (hunverified : user.emailVerifiedAt = none) :
      Issues (.resendVerification userId) .emailVerification userId
        [executed (.selectUserById userId) (some user)]

/-- The lifetime of the one-time tokens of a purpose. -/
def AuthConfig.lifetime (cfg : AuthConfig) : Purpose → Int64
  | .passwordReset => cfg.passwordResetExpiration
  | .emailVerification => cfg.emailVerificationExpiration

/-- The call has drawn a one-time token for a user. -/
def TokenDrawn (req : Request) (purpose : Purpose) (userId : Uuid) (bytes : Vector UInt8 32)
    (now : Instant) (h : Trace) : Prop :=
  ∃ h', Issues req purpose userId h' ∧ h = did .now now :: did .randomBytes bytes :: h'

/-- The call has invalidated the earlier tokens of the user. -/
def TokensInvalidated (req : Request) (purpose : Purpose) (userId : Uuid) (bytes : Vector UInt8 32)
    (now : Instant) (h : Trace) : Prop :=
  ∃ h', ∃ n : ℕ, TokenDrawn req purpose userId bytes now h' ∧
    h = executed (.invalidateTokens purpose userId) n :: h'

/-- What precedes a statement of a call. -/
def StatementGuard (svc : AuthService) (req : Request) (h : Trace) : Statement → Prop
  | .selectUserIdByEmail email => ∃ r, req = .register r ∧ email = r.email ∧ h = []
  | .insertUser email passwordHash name => ∃ r h', req = .register r ∧ email = r.email ∧ name = r.name ∧
      h' = [executed (.selectUserIdByEmail r.email) none] ∧
      PasswordHashed svc r.password passwordHash h' h
  | .selectUserByEmail email => h = [] ∧
      ((∃ r ipAddress userAgent, req = .login r ipAddress userAgent ∧ email = r.email) ∨
        req = .forgotPassword email)
  | .selectUserById id =>
      (∃ refreshToken ipAddress userAgent claims row now h',
        req = .refreshTokens refreshToken ipAddress userAgent ∧ id = claims.sub ∧
          RefreshFound svc refreshToken claims row h' ∧ row.isValid now = true ∧ h = did .now now :: h') ∨
      (h = [] ∧ ((∃ r, req = .changePassword id r) ∨ req = .resendVerification id))
  | .incrementFailedAttempts id maxLoginAttempts lockoutDuration =>
      ∃ r ipAddress userAgent user now h', req = .login r ipAddress userAgent ∧
        LoginChecked r.email user now h' ∧ id = user.id ∧
        maxLoginAttempts = svc.config.maxLoginAttempts ∧ lockoutDuration = svc.config.lockoutDuration ∧
        h = did (.verifyPassword r.password user.passwordHash) (some false) :: h'
  | .recordSuccessfulLogin id ipAddress =>
      ∃ r userAgent user now, req = .login r ipAddress userAgent ∧ id = user.id ∧
        LoginVerified svc r user now h
  | .updatePassword passwordHash id =>
      (∃ r tokenId, req = .resetPassword r ∧ ResetReady svc r tokenId id passwordHash h) ∨
      (∃ r, req = .changePassword id r ∧ ChangeReady svc id r passwordHash h)
  | .verifyUserEmail id =>
      ∃ token tokenId, req = .verifyEmail token ∧ TokenFound svc .emailVerification token tokenId id h
  | .insertRefreshToken id userId tokenHash expiresAt ipAddress userAgent =>
      ∃ user accessToken now bytes, RefreshDrawn svc req user accessToken id now bytes h ∧
        Statement.insertRefreshToken id userId tokenHash expiresAt ipAddress userAgent =
          svc.storeRefresh user.id id now bytes ipAddress userAgent
  | .selectRefreshToken id tokenHash =>
      ∃ refreshToken ipAddress userAgent tokenString jwt claims now,
        req = .refreshTokens refreshToken ipAddress userAgent ∧
        rsplitDot refreshToken = [tokenString, jwt] ∧ svc.decodeRefresh true now jwt = some claims ∧
        id = claims.tid ∧ tokenHash = svc.hashToken tokenString ∧ h = [did .now now]
  | .revokeRefreshToken id =>
      (∃ refreshToken tokenString jwt claims now, req = .logout refreshToken ∧
        rsplitDot refreshToken = [tokenString, jwt] ∧ svc.decodeRefresh false now jwt = some claims ∧
        id = claims.tid ∧ h = [did .now now]) ∨
      (∃ refreshToken ipAddress userAgent claims row user now h' accessToken successor,
        req = .refreshTokens refreshToken ipAddress userAgent ∧ id = claims.tid ∧
        RefreshChecked svc refreshToken claims row user now h' ∧ h' <:+ h ∧
        RefreshIssued svc req user accessToken successor h)
  | .revokeAllTokens userId =>
      (∃ refreshToken ipAddress userAgent claims row now h',
        req = .refreshTokens refreshToken ipAddress userAgent ∧ userId = claims.sub ∧
        RefreshFound svc refreshToken claims row h' ∧ row.isRevoked = true ∧ h = did .now now :: h') ∨
      (∃ r, req = .resetPassword r ∧ ResetConsumed svc r userId h) ∨
      (∃ r, req = .changePassword userId r ∧ ChangeStored svc userId r h)
  | .invalidateTokens purpose userId => ∃ bytes now, TokenDrawn req purpose userId bytes now h
  | .insertOneTimeToken purpose userId tokenHash expiresAt =>
      ∃ bytes now, TokensInvalidated req purpose userId bytes now h ∧
        tokenHash = svc.hashToken (base64UrlEncode bytes.toList) ∧
        expiresAt = now + seconds (svc.config.lifetime purpose)
  | .selectValidToken purpose tokenHash => h = [] ∧
      ((∃ r, req = .resetPassword r ∧ purpose = .passwordReset ∧ tokenHash = svc.hashToken r.token ∧
        svc.passwordAccepted r.password = true) ∨
      (∃ token, req = .verifyEmail token ∧ purpose = .emailVerification ∧ tokenHash = svc.hashToken token))
  | .markTokenUsed purpose id =>
      (∃ r userId, req = .resetPassword r ∧ purpose = .passwordReset ∧ ResetStored svc r id userId h) ∨
      (∃ token userId user h', req = .verifyEmail token ∧ purpose = .emailVerification ∧
        TokenFound svc .emailVerification token id userId h' ∧
        h = executed (.verifyUserEmail userId) user :: h')

/-- What precedes an action of a call. -/
def ActionGuard (svc : AuthService) (req : Request) (h : Trace) : Action → Prop
  | .sql s => StatementGuard svc req h s
  | .verifyPassword password hash =>
      (∃ r ipAddress userAgent user now, req = .login r ipAddress userAgent ∧
        LoginChecked r.email user now h ∧ password = r.password ∧ hash = user.passwordHash) ∨
      (∃ id r user, req = .changePassword id r ∧ password = r.currentPassword ∧
        hash = user.passwordHash ∧ h = [executed (.selectUserById id) (some user)])
  | .sign p =>
      (∃ claims, AccessDrawn svc req claims h ∧ p = claims.toPayload) ∨
      (∃ user accessToken tokenId now bytes, RefreshStored svc req user accessToken tokenId now bytes h ∧
        p = (svc.refreshClaims user.id tokenId now).toPayload)
  | .now | .uuid | .randomBytes | .salt => True

/-- What a call that ends with success has done, and what it returns. -/
def Succeeded (svc : AuthService) (h : Trace) : Request → Response → Prop
  | .register r, response => ∃ user : User, response = .user user ∧ ∃ passwordHash h',
      h = executed (.insertUser r.email passwordHash r.name) user :: h'
  | .login r ipAddress userAgent, response => ∃ user accessToken refreshToken,
      RefreshIssued svc (.login r ipAddress userAgent) user accessToken refreshToken h ∧
      response = .session ⟨UserResponse.ofUser user, accessToken, refreshToken, "Bearer",
        svc.config.accessTokenExpiration⟩
  | .logout _, response => response = .unit ∧ ∃ id h', ∃ n : ℕ, h = executed (.revokeRefreshToken id) n :: h'
  | .refreshTokens refreshToken ipAddress userAgent, response =>
      ∃ claims row user now h' accessToken successor h'', ∃ n : ℕ,
        RefreshChecked svc refreshToken claims row user now h' ∧ h' <:+ h'' ∧
        RefreshIssued svc (.refreshTokens refreshToken ipAddress userAgent) user accessToken successor h'' ∧
        h = executed (.revokeRefreshToken claims.tid) n :: h'' ∧
        response = .tokens ⟨accessToken, successor, "Bearer", svc.config.accessTokenExpiration⟩
  | .forgotPassword email, response =>
      (h = [executed (.selectUserByEmail email) none] ∧ response = .token "") ∨
      ∃ userId bytes now h', ∃ n : ℕ,
        TokensInvalidated (.forgotPassword email) .passwordReset userId bytes now h' ∧
        h = executed (.insertOneTimeToken .passwordReset userId
          (svc.hashToken (base64UrlEncode bytes.toList))
          (now + seconds (svc.config.lifetime .passwordReset))) n :: h' ∧
        response = .token (base64UrlEncode bytes.toList)
  | .resetPassword r, response => response = .unit ∧ ∃ userId h', ∃ n : ℕ,
      ResetConsumed svc r userId h' ∧ h = executed (.revokeAllTokens userId) n :: h'
  | .changePassword userId r, response => response = .unit ∧ ∃ h', ∃ n : ℕ,
      ChangeStored svc userId r h' ∧ h = executed (.revokeAllTokens userId) n :: h'
  | .createEmailVerification userId, response => ∃ bytes now h', ∃ n : ℕ,
      TokensInvalidated (.createEmailVerification userId) .emailVerification userId bytes now h' ∧
      h = executed (.insertOneTimeToken .emailVerification userId
        (svc.hashToken (base64UrlEncode bytes.toList))
        (now + seconds (svc.config.lifetime .emailVerification))) n :: h' ∧
      response = .token (base64UrlEncode bytes.toList)
  | .resendVerification userId, response =>
      (∃ user : User, user.emailVerifiedAt.isSome = true ∧
        h = [executed (.selectUserById userId) (some user)] ∧ response = .verification none) ∨
      ∃ bytes now h', ∃ n : ℕ,
        TokensInvalidated (.resendVerification userId) .emailVerification userId bytes now h' ∧
        h = executed (.insertOneTimeToken .emailVerification userId
          (svc.hashToken (base64UrlEncode bytes.toList))
          (now + seconds (svc.config.lifetime .emailVerification))) n :: h' ∧
        response = .verification (some (base64UrlEncode bytes.toList))
  | .verifyEmail token, response => ∃ tokenId userId user h', ∃ n : ℕ,
      TokenFound svc .emailVerification token tokenId userId h' ∧ response = .user user ∧
      h = executed (.markTokenUsed .emailVerification tokenId) n ::
        executed (.verifyUserEmail userId) user :: h'

/-- The protocol of a call. -/
def AuthService.protocol (svc : AuthService) (req : Request) : Protocol Action Action.Reply Response where
  guard := ActionGuard svc req
  result h response := Succeeded svc h req response

namespace AuthService

variable {svc : AuthService} {req : Request} {h : Trace}

/-- The guard of the protocol is the one of its actions. -/
@[simp] theorem protocol_guard : (svc.protocol req).guard = ActionGuard svc req := rfl

/-- The result of the protocol is a response as the request demands. -/
@[simp] theorem protocol_result (response : Response) :
    (svc.protocol req).result h response ↔ Succeeded svc h req response := Iff.rfl

section Issuing

variable {user : User} {accessToken : String} {π : Protocol Action Action.Reply String}

/-- An access token is signed for a user who was authorized. -/
theorem generateAccessToken_obeys (hguard : π.guard = ActionGuard svc req)
    (hauth : Authorized svc req user h)
    (hnext : ∀ jwt h', h <:+ h' → AccessSigned svc req user jwt h' → π.result h' jwt) :
    (svc.generateAccessToken user).Obeys π h := by
  simp only [generateAccessToken, obeys_bind, obeys_utcNow, obeys_expiresAfter, obeys_newUuid, obeys_sign,
    before_guard, before_result, hguard]
  refine ⟨trivial, fun now _ => ⟨trivial, fun jti => ⟨?_, fun jwt => ?_⟩⟩⟩
  · exact Or.inl ⟨_, ⟨user, now, jti, h, hauth, rfl, rfl⟩, rfl⟩
  · exact hnext jwt _ ⟨[_, _, _], rfl⟩ ⟨now, jti, h, hauth, rfl⟩

/-- A refresh token is stored and signed after the access token. -/
theorem generateRefreshToken_obeys (hguard : π.guard = ActionGuard svc req)
    (hsigned : AccessSigned svc req user accessToken h) {ipAddress userAgent : Option String}
    (hnext : ∀ token h', h <:+ h' → RefreshIssued svc req user accessToken token h' → π.result h' token) :
    (svc.generateRefreshToken user.id ipAddress userAgent).Obeys π h := by
  simp only [generateRefreshToken, obeys_bind, obeys_utcNow, obeys_expiresAfter, obeys_newUuid, obeys_randomBytes,
    obeys_query, obeys_sign, obeys_pure, before_guard, before_result, hguard]
  refine ⟨trivial, fun tokenId => ⟨trivial, fun now _ => ⟨trivial, fun bytes => ?_⟩⟩⟩
  have hdrawn : RefreshDrawn svc req user accessToken tokenId now bytes
      (did .randomBytes bytes :: did .now now :: did .uuid tokenId :: h) := ⟨h, hsigned, rfl⟩
  refine ⟨⟨user, accessToken, now, bytes, hdrawn, rfl⟩, fun n => ?_⟩
  have hstored : RefreshStored svc req user accessToken tokenId now bytes
      (executed (svc.storeRefresh user.id tokenId now bytes ipAddress userAgent) n :: did .randomBytes bytes ::
        did .now now :: did .uuid tokenId :: h) := ⟨ipAddress, userAgent, _, n, hdrawn, rfl⟩
  refine ⟨Or.inr ⟨user, accessToken, tokenId, now, bytes, hstored, rfl⟩, fun jwt => ?_⟩
  exact hnext _ _ ⟨[_, _, _, _, _], rfl⟩ ⟨tokenId, now, bytes, jwt, _, hstored, rfl, rfl⟩

end Issuing

/-- A password is hashed after it was accepted. -/
theorem hashPassword_obeys {π : Protocol Action Action.Reply String} {password : String}
    (hguard : π.guard = ActionGuard svc req) (haccepted : svc.passwordAccepted password = true)
    (hnext : ∀ passwordHash h', PasswordHashed svc password passwordHash h h' → π.result h' passwordHash) :
    (svc.hashPassword password).Obeys π h := by
  simp only [hashPassword, obeys_bind, obeys_newSalt, obeys_runIf, obeys_okOr, obeys_fail, before_guard,
    before_result, hguard]
  refine ⟨trivial, fun salt => ⟨fun _ => trivial, fun _ passwordHash hhash => ?_⟩⟩
  exact hnext passwordHash _ ⟨salt, haccepted, hhash, rfl⟩

/-- A one-time token is stored after the earlier ones of its user were invalidated. -/
theorem issueOneTimeToken_obeys {π : Protocol Action Action.Reply String} {purpose : Purpose}
    {lifetime : Int64} {userId : Uuid} (hguard : π.guard = ActionGuard svc req)
    (hissues : Issues req purpose userId h) (hlifetime : lifetime = svc.config.lifetime purpose)
    (hnext : ∀ bytes now h' (n : ℕ), TokensInvalidated req purpose userId bytes now h' →
      π.result (executed (.insertOneTimeToken purpose userId (svc.hashToken (base64UrlEncode bytes.toList))
        (now + seconds (svc.config.lifetime purpose))) n :: h') (base64UrlEncode bytes.toList)) :
    (svc.issueOneTimeToken purpose lifetime userId).Obeys π h := by
  subst hlifetime
  simp only [issueOneTimeToken, obeys_bind, obeys_utcNow, obeys_expiresAfter, obeys_randomBytes,
    obeys_query, obeys_pure, before_guard, before_result, hguard]
  refine ⟨trivial, fun bytes => ⟨trivial, fun now _ => ?_⟩⟩
  have hdrawn : TokenDrawn req purpose userId bytes now (did .now now :: did .randomBytes bytes :: h) :=
    ⟨h, hissues, rfl⟩
  refine ⟨⟨bytes, now, hdrawn⟩, fun n => ?_⟩
  have hinvalidated : TokensInvalidated req purpose userId bytes now
      (executed (.invalidateTokens purpose userId) n :: did .now now :: did .randomBytes bytes :: h) :=
    ⟨_, n, hdrawn, rfl⟩
  exact ⟨⟨bytes, now, hinvalidated, rfl, rfl⟩, fun m => hnext bytes now _ m hinvalidated⟩

/-- A registration keeps the protocol. -/
theorem register_obeys (r : RegisterRequest) :
    (svc.serve (.register r)).Obeys (svc.protocol (.register r)) [] := by
  simp only [serve, answer, register, validatePassword, obeys_bind, obeys_runIf, obeys_fail,
    obeys_selectUserIdByEmail, obeys_insertUser, obeys_pure, before_guard, before_result, before_before,
    protocol_guard, protocol_result, Bool.not_eq_true', Bool.not_eq_false']
  refine ⟨fun _ => trivial, fun haccepted => ⟨⟨r, rfl, rfl, rfl⟩, fun found => ⟨fun _ => trivial, fun hnone => ?_⟩⟩⟩
  obtain rfl : found = none := by simpa using hnone
  refine hashPassword_obeys rfl haccepted fun passwordHash h' hhashed => ?_
  exact ⟨⟨r, _, rfl, rfl, rfl, rfl, hhashed⟩, fun user => ⟨user, rfl, passwordHash, h', rfl⟩⟩

/-- A login keeps the protocol. -/
theorem login_obeys (r : LoginRequest) (ipAddress userAgent : Option String) :
    (svc.serve (.login r ipAddress userAgent)).Obeys (svc.protocol (.login r ipAddress userAgent)) [] := by
  simp only [serve, answer, login, AuthService.verifyPassword, incrementFailedAttempts, recordSuccessfulLogin,
    obeys_bind, obeys_runIf, obeys_fail, obeys_okOr, obeys_selectUserByEmail, obeys_utcNow, obeys_verify,
    obeys_query, obeys_pure, before_guard, before_result, before_before, protocol_guard, protocol_result]
  refine ⟨⟨rfl, Or.inl ⟨r, ipAddress, userAgent, rfl, rfl⟩⟩, ?_⟩
  intro _ user heq
  subst heq
  refine ⟨trivial, fun now => ⟨fun _ => trivial, fun hunlocked => ⟨fun _ => trivial, fun hactive => ?_⟩⟩⟩
  have hchecked : LoginChecked r.email user now
      [did .now now, executed (.selectUserByEmail r.email) (some user)] :=
    ⟨rfl, hunlocked, by simpa using hactive⟩
  refine ⟨Or.inl ⟨r, ipAddress, userAgent, user, now, rfl, hchecked, rfl, rfl⟩, ?_⟩
  intro _ verified heq
  subst heq
  cases verified with
  | false =>
    refine ⟨fun _ => ⟨?_, fun _ => trivial⟩, fun h => absurd h (by decide)⟩
    exact ⟨r, ipAddress, userAgent, user, now, _, rfl, hchecked, rfl, rfl, rfl, rfl⟩
  | true =>
    refine ⟨fun h => absurd h (by decide), fun _ => ⟨fun _ => trivial, fun hverified => ?_⟩⟩
    have hlogin : LoginVerified svc r user now
        [did (.verifyPassword r.password user.passwordHash) (some true), did .now now,
          executed (.selectUserByEmail r.email) (some user)] :=
      ⟨rfl, hunlocked, by simpa using hactive, by simpa using hverified⟩
    refine ⟨⟨r, userAgent, user, now, rfl, rfl, hlogin⟩, fun n => ?_⟩
    refine generateAccessToken_obeys rfl (Authorized.login hlogin) fun accessToken h' _ hsigned => ?_
    refine generateRefreshToken_obeys rfl hsigned fun refreshToken h'' _ hissued => ?_
    exact ⟨user, accessToken, refreshToken, hissued, rfl⟩

/-- A logout keeps the protocol. -/
theorem logout_obeys (refreshToken : String) :
    (svc.serve (.logout refreshToken)).Obeys (svc.protocol (.logout refreshToken)) [] := by
  simp only [serve, answer, logout, obeys_bind, obeys_splitToken, obeys_utcNow, obeys_okOr, obeys_query,
    obeys_pure, before_guard, before_result, before_before, protocol_guard, protocol_result]
  intro tokenString jwt hsplit
  refine ⟨trivial, fun now claims hclaims => ⟨?_, fun n => ⟨rfl, claims.tid, _, n, rfl⟩⟩⟩
  exact Or.inl ⟨refreshToken, tokenString, jwt, claims, now, rfl, hsplit, hclaims, rfl, rfl⟩

/-- A refresh keeps the protocol. -/
theorem refreshTokens_obeys (refreshToken : String) (ipAddress userAgent : Option String) :
    (svc.serve (.refreshTokens refreshToken ipAddress userAgent)).Obeys
      (svc.protocol (.refreshTokens refreshToken ipAddress userAgent)) [] := by
  simp only [serve, answer, refreshTokens, redeem, rotate, revokeAllTokens, obeys_bind, obeys_splitToken,
    obeys_utcNow, obeys_okOr, obeys_runIf, obeys_ite, obeys_fail, obeys_selectRefreshToken,
    obeys_selectUserById, obeys_query, obeys_pure, before_guard, before_result, before_before,
    protocol_guard, protocol_result]
  intro tokenString jwt hsplit
  refine ⟨trivial, fun t₀ claims hclaims => ?_⟩
  refine ⟨⟨refreshToken, ipAddress, userAgent, tokenString, jwt, claims, t₀, rfl, hsplit, hclaims, rfl, rfl,
    rfl⟩, ?_⟩
  intro _ row heq
  subst heq
  have hfound : RefreshFound svc refreshToken claims row
      [executed (.selectRefreshToken claims.tid (svc.hashToken tokenString)) (some row), did .now t₀] :=
    ⟨tokenString, jwt, t₀, hsplit, hclaims, rfl⟩
  refine ⟨trivial, fun t₁ =>
    ⟨fun hvalid => ?_, fun _ => ⟨fun hrevoked => ⟨?_, fun _ => trivial⟩, fun _ => trivial⟩⟩⟩
  · refine ⟨Or.inl ⟨refreshToken, ipAddress, userAgent, claims, row, t₁, _, rfl, rfl, hfound, hvalid, rfl⟩, ?_⟩
    intro _ user heq
    subst heq
    refine ⟨trivial, fun t₂ => ⟨fun _ => trivial, fun hlogin => ?_⟩⟩
    have hchecked : RefreshChecked svc refreshToken claims row user t₂
        [did .now t₂, executed (.selectUserById claims.sub) (some user), did .now t₁,
          executed (.selectRefreshToken claims.tid (svc.hashToken tokenString)) (some row), did .now t₀] :=
      ⟨⟨t₁, _, hfound, hvalid, rfl⟩, by simpa using hlogin⟩
    refine generateAccessToken_obeys rfl (Authorized.refresh hchecked) fun accessToken h' hsuffix hsigned => ?_
    refine generateRefreshToken_obeys rfl hsigned fun successor h'' hsuffix' hissued => ?_
    refine ⟨Or.inr ⟨refreshToken, ipAddress, userAgent, claims, row, user, t₂, _, accessToken, successor, rfl, rfl,
      hchecked, hsuffix.trans hsuffix', hissued⟩, fun n => ?_⟩
    exact ⟨claims, row, user, t₂, _, accessToken, successor, h'', n, hchecked, hsuffix.trans hsuffix', hissued,
      rfl, rfl⟩
  · exact Or.inl ⟨refreshToken, ipAddress, userAgent, claims, row, t₁, _, rfl, rfl, hfound, hrevoked, rfl⟩

/-- A forgotten password keeps the protocol. -/
theorem forgotPassword_obeys (email : String) :
    (svc.serve (.forgotPassword email)).Obeys (svc.protocol (.forgotPassword email)) [] := by
  simp only [serve, answer, forgotPassword, obeys_bind, obeys_selectUserByEmail, obeys_pure, before_guard,
    before_result, before_before, protocol_guard, protocol_result]
  refine ⟨⟨rfl, Or.inr rfl⟩, fun found => ?_⟩
  cases found with
  | none => exact Or.inl ⟨rfl, rfl⟩
  | some user =>
    refine issueOneTimeToken_obeys rfl Issues.forgotPassword rfl fun bytes now h' n hinv => ?_
    exact Or.inr ⟨user.id, bytes, now, h', n, hinv, rfl, rfl⟩

/-- A reset keeps the protocol. -/
theorem resetPassword_obeys (r : ResetPasswordRequest) :
    (svc.serve (.resetPassword r)).Obeys (svc.protocol (.resetPassword r)) [] := by
  simp only [serve, answer, resetPassword, validatePassword, revokeAllTokens, obeys_bind, obeys_runIf,
    obeys_fail, obeys_selectValidToken, obeys_okOr, obeys_query, obeys_pure, before_guard, before_result,
    before_before, protocol_guard, protocol_result, Bool.not_eq_true', Bool.not_eq_false']
  refine ⟨fun _ => trivial, fun haccepted => ⟨⟨rfl, Or.inl ⟨r, rfl, rfl, rfl, haccepted⟩⟩, ?_⟩⟩
  rintro _ ⟨tokenId, userId⟩ rfl
  refine hashPassword_obeys rfl haccepted fun passwordHash h' hhashed => ?_
  have hready : ResetReady svc r tokenId userId passwordHash h' := ⟨_, rfl, hhashed⟩
  refine ⟨Or.inl ⟨r, tokenId, rfl, hready⟩, fun n₁ => ?_⟩
  have hstored : ResetStored svc r tokenId userId (executed (.updatePassword passwordHash userId) n₁ :: h') :=
    ⟨passwordHash, h', n₁, hready, rfl⟩
  refine ⟨Or.inl ⟨r, userId, rfl, rfl, hstored⟩, fun n₂ => ?_⟩
  have hconsumed : ResetConsumed svc r userId (executed (.markTokenUsed .passwordReset tokenId) n₂ ::
      executed (.updatePassword passwordHash userId) n₁ :: h') := ⟨tokenId, _, n₂, hstored, rfl⟩
  exact ⟨Or.inr (Or.inl ⟨r, rfl, hconsumed⟩), fun n₃ => ⟨rfl, userId, _, n₃, hconsumed, rfl⟩⟩

/-- A change of the password keeps the protocol. -/
theorem changePassword_obeys (userId : Uuid) (r : ChangePasswordRequest) :
    (svc.serve (.changePassword userId r)).Obeys (svc.protocol (.changePassword userId r)) [] := by
  simp only [serve, answer, changePassword, AuthService.verifyPassword, validatePassword, revokeAllTokens,
    obeys_bind, obeys_runIf, obeys_fail, obeys_selectUserById, obeys_okOr, obeys_verify, obeys_query, obeys_pure,
    before_guard, before_result, before_before, protocol_guard, protocol_result, Bool.not_eq_true',
    Bool.not_eq_false']
  refine ⟨Or.inr ⟨rfl, Or.inl ⟨r, rfl⟩⟩, ?_⟩
  intro _ user heq
  subst heq
  refine ⟨Or.inr ⟨userId, r, user, rfl, rfl, rfl, rfl⟩, ?_⟩
  intro _ verified heq
  subst heq
  refine ⟨fun _ => trivial, ?_⟩
  intro heq
  subst heq
  refine ⟨fun _ => trivial, fun haccepted => ?_⟩
  refine hashPassword_obeys rfl haccepted fun passwordHash h' hhashed => ?_
  have hready : ChangeReady svc userId r passwordHash h' := ⟨user, _, rfl, hhashed⟩
  refine ⟨Or.inr ⟨r, rfl, hready⟩, fun n₁ => ?_⟩
  have hstored : ChangeStored svc userId r (executed (.updatePassword passwordHash userId) n₁ :: h') :=
    ⟨passwordHash, h', n₁, hready, rfl⟩
  exact ⟨Or.inr (Or.inr ⟨r, rfl, hstored⟩), fun n₂ => ⟨rfl, _, n₂, hstored, rfl⟩⟩

/-- An email verification that is created keeps the protocol. -/
theorem createEmailVerification_obeys (userId : Uuid) :
    (svc.serve (.createEmailVerification userId)).Obeys (svc.protocol (.createEmailVerification userId)) [] := by
  simp only [serve, answer, createEmailVerification, obeys_bind, obeys_pure]
  refine issueOneTimeToken_obeys rfl Issues.createEmailVerification rfl fun bytes now h' n hinv => ?_
  exact ⟨bytes, now, h', n, hinv, rfl, rfl⟩

/-- A verification that is sent again keeps the protocol. -/
theorem resendVerification_obeys (userId : Uuid) :
    (svc.serve (.resendVerification userId)).Obeys (svc.protocol (.resendVerification userId)) [] := by
  simp only [serve, answer, resendVerification, createEmailVerification, obeys_bind, obeys_ite, obeys_okOr,
    obeys_selectUserById, obeys_pure, before_guard, before_result, before_before, protocol_guard, protocol_result]
  refine ⟨Or.inr ⟨rfl, Or.inr rfl⟩, ?_⟩
  intro _ user heq
  subst heq
  refine ⟨fun hverified => Or.inl ⟨user, hverified, rfl, rfl⟩, fun hunverified => ?_⟩
  have hnone : user.emailVerifiedAt = none := by simpa using hunverified
  refine issueOneTimeToken_obeys rfl (Issues.resendVerification hnone) rfl fun bytes now h' n hinv => ?_
  exact Or.inr ⟨bytes, now, h', n, hinv, rfl, rfl⟩

/-- A verification keeps the protocol. -/
theorem verifyEmail_obeys (token : String) :
    (svc.serve (.verifyEmail token)).Obeys (svc.protocol (.verifyEmail token)) [] := by
  simp only [serve, answer, verifyEmail, obeys_bind, obeys_selectValidToken, obeys_okOr, obeys_verifyUserEmail,
    obeys_query, obeys_pure, before_guard, before_result, before_before, protocol_guard, protocol_result]
  refine ⟨⟨rfl, Or.inr ⟨token, rfl, rfl, rfl⟩⟩, ?_⟩
  rintro _ ⟨tokenId, userId⟩ rfl
  refine ⟨⟨token, tokenId, rfl, rfl⟩, fun user => ⟨?_, fun n => ?_⟩⟩
  · exact Or.inr ⟨token, userId, user, _, rfl, rfl, rfl, rfl⟩
  · exact ⟨tokenId, userId, user, _, n, rfl, rfl, rfl⟩

/-- Every operation follows the protocol. -/
theorem serve_obeys (svc : AuthService) (req : Request) : (svc.serve req).Obeys (svc.protocol req) [] := by
  cases req with
  | register r => exact register_obeys r
  | login r ipAddress userAgent => exact login_obeys r ipAddress userAgent
  | logout refreshToken => exact logout_obeys refreshToken
  | refreshTokens refreshToken ipAddress userAgent => exact refreshTokens_obeys refreshToken ipAddress userAgent
  | forgotPassword email => exact forgotPassword_obeys email
  | resetPassword r => exact resetPassword_obeys r
  | changePassword userId r => exact changePassword_obeys userId r
  | createEmailVerification userId => exact createEmailVerification_obeys userId
  | resendVerification userId => exact resendVerification_obeys userId
  | verifyEmail token => exact verifyEmail_obeys token

end AuthService

section Run

variable {svc : AuthService} {calls : ℕ → Request} {w : World} {ok : System → System → Prop} {d : System}

/-- Every call of a run follows its protocol from the start. -/
theorem start_obeys (i : ℕ) : ((svc.start w calls).calls i).Obeys (svc.protocol (calls i))
    (ownHistory i (svc.start w calls).log) := svc.serve_obeys (calls i)

/-- A call of a run that succeeded has done what its protocol says. -/
theorem succeeded_of_run (hrun : svc.machine.Reaches ok (svc.start w calls) d) {i : ℕ} {response : Response}
    (hi : d.calls i = .done (.ok response)) : Succeeded svc (ownHistory i d.log) (calls i) response :=
  hrun.result (fun i => svc.protocol (calls i)) start_obeys hi

/-- Every event of a run was preceded by what its protocol says. -/
theorem guard_of_run (hrun : svc.machine.Reaches ok (svc.start w calls) d) {e : LogEvent}
    {older : List LogEvent} (he : (e :: older) <:+ d.log) :
    ActionGuard svc (calls e.caller) (ownHistory e.caller older) e.action :=
  hrun.guard_at (fun i => svc.protocol (calls i)) start_obeys rfl he

end Run

end RustPressAuth
