import RustPressAuth.Atomic.Correspondence
import RustPressAuth.AlikeRows
import RustPressAuth.EmailVerification

/-!
# What the replies depend on

A call on one of two alike databases is mirrored by the same call on the other, action by
action, and so is every interleaving of requests: a run from the one database is mirrored
by a run from the other in which every request receives the same reply.

So no reply tells two such databases apart: password hashes do not leak, and nothing
rests on the columns that are only written.
-/

namespace RustPressAuth

open Atomic Program Machine Relational

variable {svc : AuthService} {presented : String → Prop}

/-- The same action, up to hashes that give the same result with the password compared. -/
def ActionAlike (svc : AuthService) (a a' : Action) : Prop :=
  a = a' ∨ ∃ password hash hash', a = .verifyPassword password hash ∧ a' = .verifyPassword password hash' ∧
    svc.comparePassword password hash = svc.comparePassword password hash'

/-- The same reply, up to alike rows. -/
def ReplyAlike (svc : AuthService) (presented : String → Prop) :
    (a : Action) → a.Reply → (a' : Action) → a'.Reply → Prop
  | .now, t, .now, t' => t = t'
  | .uuid, u, .uuid, u' => u = u'
  | .randomBytes, b, .randomBytes, b' => b = b'
  | .salt, s, .salt, s' => s = s'
  | .sign _, s, .sign _, s' => s = s'
  | .verifyPassword .., r, .verifyPassword .., r' => r = r'
  | .sql s, reply, .sql s', reply' => ∃ h : s' = s, OutcomeAlike (s.RowAlike svc presented) reply (h ▸ reply')
  | _, _, _, _ => False

/-- How calls on alike databases correspond. -/
def alikeCalls (svc : AuthService) (presented : String → Prop) : Correspondence Action Action.Reply where
  action := ActionAlike svc
  reply := ReplyAlike svc presented

/-- Alike worlds answer alike. -/
theorem mirrors_alike (svc : AuthService) (presented : String → Prop) :
    svc.machine.Mirrors (alikeCalls svc presented) (World.Alike svc presented) where
  perform a a' w w' r v haction halike hperform := by
    obtain ⟨choice, hexec⟩ := hperform
    obtain ⟨hclock, hdb⟩ := halike
    have hnow : w.now = w'.now := congrArg Int.ofNat hclock
    rcases haction with rfl | ⟨password, hash, hash', rfl, rfl, hsame⟩
    · cases a with
      | sql s =>
        simp only [AuthService.exec] at hexec
        cases hfault : choice.fault.or s.refusal? with
        | some e =>
          rw [hfault] at hexec
          obtain ⟨rfl, rfl⟩ := Prod.mk.inj hexec
          exact ⟨.error e, w', ⟨choice, by simp only [AuthService.exec, hfault]⟩, ⟨rfl, rfl⟩, hclock, hdb⟩
        | none =>
          rw [hfault] at hexec
          have hrun := Statement.run_alike hdb choice.uuid w.now s
          cases hleft : s.run choice.uuid w.now w.db with
          | error e =>
            rw [hleft] at hexec hrun
            obtain ⟨rfl, rfl⟩ := Prod.mk.inj hexec
            cases hright : s.run choice.uuid w.now w'.db with
            | ok out => rw [hright] at hrun; exact hrun.elim
            | error e' =>
              rw [hright] at hrun
              refine ⟨.error e', w', ⟨choice, ?_⟩, ⟨rfl, hrun⟩, hclock, hdb⟩
              simp only [AuthService.exec, hfault, ← hnow, hright]
          | ok out =>
            rw [hleft] at hexec hrun
            obtain ⟨rfl, rfl⟩ := Prod.mk.inj hexec
            cases hright : s.run choice.uuid w.now w'.db with
            | error e' => rw [hright] at hrun; exact hrun.elim
            | ok out' =>
              rw [hright] at hrun
              refine ⟨.ok out'.1, { w' with db := out'.2 }, ⟨choice, ?_⟩, ⟨rfl, hrun.1⟩, hclock, hrun.2⟩
              simp only [AuthService.exec, hfault, ← hnow, hright]
      | now =>
        obtain ⟨rfl, rfl⟩ := Prod.mk.inj hexec
        exact ⟨_, w', ⟨choice, rfl⟩, hnow, hclock, hdb⟩
      | uuid =>
        obtain ⟨rfl, rfl⟩ := Prod.mk.inj hexec
        exact ⟨_, w', ⟨choice, rfl⟩, rfl, hclock, hdb⟩
      | randomBytes =>
        obtain ⟨rfl, rfl⟩ := Prod.mk.inj hexec
        exact ⟨_, w', ⟨choice, rfl⟩, rfl, hclock, hdb⟩
      | salt =>
        obtain ⟨rfl, rfl⟩ := Prod.mk.inj hexec
        exact ⟨_, w', ⟨choice, rfl⟩, rfl, hclock, hdb⟩
      | sign payload =>
        obtain ⟨rfl, rfl⟩ := Prod.mk.inj hexec
        exact ⟨_, w', ⟨choice, rfl⟩, rfl, hclock, hdb⟩
      | verifyPassword password hash =>
        obtain ⟨rfl, rfl⟩ := Prod.mk.inj hexec
        exact ⟨_, w', ⟨choice, rfl⟩, rfl, hclock, hdb⟩
    · obtain ⟨rfl, rfl⟩ := Prod.mk.inj hexec
      exact ⟨_, w', ⟨choice, rfl⟩, hsame, hclock, hdb⟩
  idle w w' v halike hidle := by
    obtain ⟨m, rfl⟩ := hidle
    obtain ⟨hclock, hdb⟩ := halike
    cases m with
    | tick elapsed => exact ⟨_, ⟨.tick elapsed, rfl⟩, congrArg (· + elapsed) hclock, hdb⟩
    | setStatus id status =>
      exact ⟨_, ⟨.setStatus id status, rfl⟩, hclock, hdb.updateUser fun _ _ hu => { hu with status := rfl }⟩

section Matches

variable {α β γ : Type} {K : Correspondence Action Action.Reply}

/-- Alike calls read the same time. -/
theorem matches_utcNow : utcNow.Matches (alikeCalls svc presented) Eq utcNow := ⟨Or.inl rfl, fun _ _ h => h⟩

/-- Alike calls draw the same id. -/
theorem matches_newUuid : newUuid.Matches (alikeCalls svc presented) Eq newUuid := ⟨Or.inl rfl, fun _ _ h => h⟩

/-- Alike calls draw the same bytes. -/
theorem matches_randomBytes : randomBytes.Matches (alikeCalls svc presented) Eq randomBytes :=
  ⟨Or.inl rfl, fun _ _ h => h⟩

/-- Alike calls draw the same salt. -/
theorem matches_newSalt : newSalt.Matches (alikeCalls svc presented) Eq newSalt := ⟨Or.inl rfl, fun _ _ h => h⟩

/-- Alike calls sign the same payload. -/
theorem matches_sign {payload payload' : Payload} (h : payload = payload') :
    (sign payload).Matches (alikeCalls svc presented) Eq (sign payload') := ⟨Or.inl (by rw [h]), fun _ _ h => h⟩

/-- The same statement returns alike rows. -/
theorem matches_query (s : Statement) :
    (query s).Matches (alikeCalls svc presented) (s.RowAlike svc presented) (query s) := by
  refine ⟨Or.inl rfl, ?_⟩
  rintro (e | rows) (e' | rows') ⟨_, halike⟩
  · exact congrArg (fun message => Failure.err (.database message)) halike
  · exact halike.elim
  · exact halike.elim
  · exact halike

/-- Related values are passed on, or both are missing. -/
theorem matches_okOr {rel : α → β → Prop} {o : Option α} {o' : Option β} (h : Option.Rel rel o o') (e : AuthError) :
    (okOr o e).Matches K rel (okOr o' e) := by
  cases h with
  | none => exact rfl
  | some hrel => exact hrel

/-- The same value is passed on, or is missing. -/
theorem matches_okOr_same (o : Option α) (e : AuthError) : (okOr o e).Matches K Eq (okOr o e) := by
  cases o with
  | none => exact rfl
  | some v => exact rfl

/-- Alike calls compute the same expiry. -/
theorem matches_expiresAfter (now : Instant) (n : Int64) :
    (expiresAfter now n).Matches K Eq (expiresAfter now n) := by
  unfold expiresAfter
  cases expiry now n with
  | ok t => exact rfl
  | error fault => exact rfl

/-- Alike blocks run on the same condition. -/
theorem matches_runIf {condition condition' : Bool} {block block' : AuthM Unit}
    (hcondition : condition = condition') (h : block.Matches K Eq block') :
    (runIf condition block).Matches K Eq (runIf condition' block') := by
  subst hcondition
  cases condition with
  | false => exact rfl
  | true => exact h

/-- A check that fails on both sides or on neither. -/
theorem matches_check {condition condition' : Bool} (h : condition = condition') (e : Failure) :
    (runIf condition (Program.fail e)).Matches K Eq (runIf condition' (Program.fail e)) := matches_runIf h rfl

end Matches

section Operations

/-- Calls on alike databases that end with related values. -/
abbrev AlikeCalls {α β : Type} (svc : AuthService) (presented : String → Prop) (rel : α → β → Prop) (p : AuthM α)
    (p' : AuthM β) : Prop := p.Matches (alikeCalls svc presented) rel p'

/-- A presented password has the same verdict on alike hashes. -/
theorem verifyPassword_alike {password hash hash' : String} (hpresented : presented password)
    (hsame : svc.SameVerdicts presented hash hash') :
    AlikeCalls svc presented Eq (AuthService.verifyPassword password hash)
      (AuthService.verifyPassword password hash') := by
  have hcompare : (perform (.verifyPassword password hash)).Matches (alikeCalls svc presented) Eq
      (perform (.verifyPassword password hash')) :=
    ⟨Or.inr ⟨password, hash, hash', rfl, rfl, hsame password hpresented⟩, fun _ _ h => h⟩
  refine hcompare.bind fun result result' heq => ?_
  subst heq
  cases result with
  | none => exact rfl
  | some verified => exact rfl

/-- A password is hashed alike. -/
theorem hashPassword_alike (password : String) :
    AlikeCalls svc presented Eq (svc.hashPassword password) (svc.hashPassword password) := by
  refine matches_newSalt.bind fun salt salt' heq => ?_
  subst heq
  refine (matches_check rfl _).bind fun _ _ _ => ?_
  cases svc.prims.argon2Hash svc.config.argon2MemoryCost svc.config.argon2TimeCost svc.config.argon2Parallelism salt
      password with
  | none => exact rfl
  | some passwordHash => exact rfl

/-- Alike users get the same access token. -/
theorem generateAccessToken_alike {user user' : User} (h : user.Alike svc presented user') :
    AlikeCalls svc presented Eq (svc.generateAccessToken user) (svc.generateAccessToken user') := by
  refine matches_utcNow.bind fun now now' heq => ?_
  subst heq
  refine (matches_expiresAfter now _).bind fun _ _ _ => ?_
  refine matches_newUuid.bind fun jti jti' heq => ?_
  subst heq
  exact matches_sign (by rw [h.accessClaims])

/-- A refresh token is issued alike. -/
theorem generateRefreshToken_alike (userId : Uuid) (ipAddress userAgent : Option String) :
    AlikeCalls svc presented Eq (svc.generateRefreshToken userId ipAddress userAgent)
      (svc.generateRefreshToken userId ipAddress userAgent) := by
  refine matches_newUuid.bind fun tokenId tokenId' heq => ?_
  subst heq
  refine matches_utcNow.bind fun now now' heq => ?_
  subst heq
  refine (matches_expiresAfter now _).bind fun expiresAt expiresAt' heq => ?_
  subst heq
  refine matches_randomBytes.bind fun bytes bytes' heq => ?_
  subst heq
  refine (matches_query _).bind fun _ _ _ => ?_
  refine (matches_sign rfl).bind fun jwt jwt' heq => ?_
  subst heq
  exact rfl

/-- A one-time token is issued alike. -/
theorem issueOneTimeToken_alike (purpose : Purpose) (lifetime : Int64) (userId : Uuid) :
    AlikeCalls svc presented Eq (svc.issueOneTimeToken purpose lifetime userId)
      (svc.issueOneTimeToken purpose lifetime userId) := by
  refine matches_randomBytes.bind fun bytes bytes' heq => ?_
  subst heq
  refine matches_utcNow.bind fun now now' heq => ?_
  subst heq
  refine (matches_expiresAfter now _).bind fun expiresAt expiresAt' heq => ?_
  subst heq
  refine (matches_query _).bind fun _ _ _ => ?_
  refine (matches_query _).bind fun _ _ _ => ?_
  exact rfl

/-- A registration goes alike. -/
theorem register_alike (r : RegisterRequest) :
    AlikeCalls svc presented (User.Alike svc presented) (svc.register r) (svc.register r) := by
  refine (matches_check rfl _).bind fun _ _ _ => ?_
  refine (matches_query (.selectUserIdByEmail r.email)).bind fun found found' heq => ?_
  obtain rfl : found = found' := heq
  refine (matches_check rfl _).bind fun _ _ _ => ?_
  refine (hashPassword_alike r.password).bind fun hash hash' heq => ?_
  subst heq
  exact matches_query (.insertUser r.email hash r.name)

/-- A login with a presented password goes alike. -/
theorem login_alike {r : LoginRequest} (hpresented : presented r.password) (ipAddress userAgent : Option String) :
    AlikeCalls svc presented Eq (svc.login r ipAddress userAgent) (svc.login r ipAddress userAgent) := by
  refine (matches_query (.selectUserByEmail r.email)).bind fun found found' hfound => ?_
  refine (matches_okOr hfound _).bind fun user user' h => ?_
  refine matches_utcNow.bind fun now now' heq => ?_
  subst heq
  refine (matches_check (h.isLocked now) _).bind fun _ _ _ => ?_
  refine (matches_check (by rw [h.status]) _).bind fun _ _ _ => ?_
  refine (verifyPassword_alike hpresented h.passwordHash).bind fun verified verified' heq => ?_
  subst heq
  have hcount : AlikeCalls svc presented Eq
      (do let _ ← svc.incrementFailedAttempts user.id
          Program.fail (.err .invalidCredentials) : AuthM Unit)
      (do let _ ← svc.incrementFailedAttempts user'.id
          Program.fail (.err .invalidCredentials)) := by
    rw [h.id]
    refine Matches.bind ((matches_query _).bind fun _ _ _ => ?_) fun (_ _ : Unit) (_ : True) => rfl
    exact trivial
  refine (matches_runIf rfl hcount).bind fun _ _ _ => ?_
  refine (matches_check (by rw [h.isEmailVerified]) _).bind fun _ _ _ => ?_
  have hrecord : AlikeCalls svc presented Eq (AuthService.recordSuccessfulLogin user.id ipAddress)
      (AuthService.recordSuccessfulLogin user'.id ipAddress) := by
    rw [h.id]
    exact (matches_query _).bind fun _ _ _ => rfl
  refine hrecord.bind fun _ _ _ => ?_
  refine (generateAccessToken_alike h).bind fun accessToken accessToken' heq => ?_
  subst heq
  rw [h.id]
  refine (generateRefreshToken_alike user'.id ipAddress userAgent).bind fun refreshToken refreshToken' heq => ?_
  subst heq
  rw [h.ofUser]
  exact rfl

/-- A refresh token is cut alike. -/
theorem splitToken_alike (refreshToken : String) :
    AlikeCalls svc presented Eq (AuthService.splitToken refreshToken) (AuthService.splitToken refreshToken) := by
  unfold AuthService.splitToken
  split
  · exact rfl
  · exact rfl

/-- A logout goes alike. -/
theorem logout_alike (refreshToken : String) :
    AlikeCalls svc presented Eq (svc.logout refreshToken) (svc.logout refreshToken) := by
  refine (splitToken_alike refreshToken).bind fun parts parts' heq => ?_
  subst heq
  refine matches_utcNow.bind fun now now' heq => ?_
  subst heq
  refine (matches_okOr_same _ _).bind fun claims claims' heq => ?_
  subst heq
  exact (matches_query _).bind fun _ _ _ => rfl

/-- All tokens of a user are revoked alike. -/
theorem revokeAllTokens_alike (userId : Uuid) :
    AlikeCalls svc presented Eq (AuthService.revokeAllTokens userId) (AuthService.revokeAllTokens userId) :=
  (matches_query _).bind fun _ _ _ => rfl

/-- A rotation goes alike. -/
theorem rotate_alike (claims : RefreshTokenClaims) (ipAddress userAgent : Option String) :
    AlikeCalls svc presented Eq (svc.rotate claims ipAddress userAgent)
      (svc.rotate claims ipAddress userAgent) := by
  refine (matches_query (.selectUserById claims.sub)).bind fun found found' hfound => ?_
  refine (matches_okOr hfound _).bind fun user user' h => ?_
  refine matches_utcNow.bind fun now now' heq => ?_
  subst heq
  refine (matches_check (by rw [h.canLogin]) _).bind fun _ _ _ => ?_
  refine (generateAccessToken_alike h).bind fun accessToken accessToken' heq => ?_
  subst heq
  rw [h.id]
  refine (generateRefreshToken_alike user'.id ipAddress userAgent).bind fun refreshToken refreshToken' heq => ?_
  subst heq
  exact (matches_query _).bind fun _ _ _ => rfl

/-- The claims of a refresh token are redeemed alike. -/
theorem redeem_alike (tokenString : String) (claims : RefreshTokenClaims) (ipAddress userAgent : Option String) :
    AlikeCalls svc presented Eq (svc.redeem tokenString claims ipAddress userAgent)
      (svc.redeem tokenString claims ipAddress userAgent) := by
  refine (matches_query (.selectRefreshToken claims.tid (svc.hashToken tokenString))).bind
    fun found found' hfound => ?_
  refine (matches_okOr hfound _).bind fun row row' h => ?_
  refine matches_utcNow.bind fun now now' heq => ?_
  subst heq
  rw [h.isValid, h.isRevoked]
  split
  · exact rotate_alike claims ipAddress userAgent
  · exact (matches_runIf rfl (revokeAllTokens_alike claims.sub)).bind fun _ _ _ => rfl

/-- A refresh goes alike. -/
theorem refreshTokens_alike (refreshToken : String) (ipAddress userAgent : Option String) :
    AlikeCalls svc presented Eq (svc.refreshTokens refreshToken ipAddress userAgent)
      (svc.refreshTokens refreshToken ipAddress userAgent) := by
  refine (splitToken_alike refreshToken).bind fun parts parts' heq => ?_
  subst heq
  refine matches_utcNow.bind fun now now' heq => ?_
  subst heq
  refine (matches_okOr_same _ _).bind fun claims claims' heq => ?_
  subst heq
  exact redeem_alike parts.1 claims ipAddress userAgent

/-- A request for a reset token goes alike. -/
theorem forgotPassword_alike (email : String) :
    AlikeCalls svc presented Eq (svc.forgotPassword email) (svc.forgotPassword email) := by
  refine (matches_query (.selectUserByEmail email)).bind fun found found' hfound => ?_
  have hrel : Option.Rel (User.Alike svc presented) found found' := hfound
  cases hrel with
  | none => exact rfl
  | @some user user' h =>
    simp only [h.id]
    exact issueOneTimeToken_alike .passwordReset svc.config.passwordResetExpiration user'.id

/-- A reset goes alike. -/
theorem resetPassword_alike (r : ResetPasswordRequest) :
    AlikeCalls svc presented Eq (svc.resetPassword r) (svc.resetPassword r) := by
  refine (matches_check rfl _).bind fun _ _ _ => ?_
  refine (matches_query (.selectValidToken .passwordReset (svc.hashToken r.token))).bind fun found found' heq => ?_
  obtain rfl : found = found' := heq
  refine (matches_okOr_same _ _).bind fun pair pair' heq => ?_
  subst heq
  refine (hashPassword_alike r.password).bind fun hash hash' heq => ?_
  subst heq
  refine (matches_query _).bind fun _ _ _ => ?_
  refine (matches_query _).bind fun _ _ _ => ?_
  exact revokeAllTokens_alike pair.2

/-- A change of a presented password goes alike. -/
theorem changePassword_alike {userId : Uuid} {r : ChangePasswordRequest}
    (hpresented : presented r.currentPassword) :
    AlikeCalls svc presented Eq (svc.changePassword userId r) (svc.changePassword userId r) := by
  refine (matches_query (.selectUserById userId)).bind fun found found' hfound => ?_
  refine (matches_okOr hfound _).bind fun user user' h => ?_
  refine (verifyPassword_alike hpresented h.passwordHash).bind fun verified verified' heq => ?_
  subst heq
  refine (matches_check rfl _).bind fun _ _ _ => ?_
  refine (matches_check rfl _).bind fun _ _ _ => ?_
  refine (hashPassword_alike r.newPassword).bind fun hash hash' heq => ?_
  subst heq
  refine (matches_query _).bind fun _ _ _ => ?_
  exact revokeAllTokens_alike userId

/-- A verification goes alike. -/
theorem verifyEmail_alike (token : String) :
    AlikeCalls svc presented (User.Alike svc presented) (svc.verifyEmail token) (svc.verifyEmail token) := by
  refine (matches_query (.selectValidToken .emailVerification (svc.hashToken token))).bind
    fun found found' heq => ?_
  obtain rfl : found = found' := heq
  refine (matches_okOr_same _ _).bind fun pair pair' heq => ?_
  subst heq
  refine (matches_query (.verifyUserEmail pair.2)).bind fun user user' h => ?_
  exact (matches_query _).bind fun _ _ _ => h

/-- A verification is sent again alike. -/
theorem resendVerification_alike (userId : Uuid) :
    AlikeCalls svc presented Eq (svc.resendVerification userId) (svc.resendVerification userId) := by
  refine (matches_query (.selectUserById userId)).bind fun found found' hfound => ?_
  refine (matches_okOr hfound _).bind fun user user' h => ?_
  rw [h.verified]
  split
  · exact rfl
  · refine (issueOneTimeToken_alike _ _ userId).bind fun token token' heq => ?_
    subst heq
    exact rfl

end Operations

/-- The password a request has compared with a stored hash. -/
def HttpRequest.comparedPassword? : HttpRequest → Option String
  | .login _ r => some r.password
  | .changePassword _ r => some r.currentPassword
  | _ => none

section Routes

variable {http : Http}

/-- A body is checked alike. -/
theorem validate_alike (errors : List FieldError) :
    AlikeCalls svc presented Eq (http.validate errors) (http.validate errors) := matches_check rfl _

/-- A route behind the middleware. -/
theorem authenticated_alike {parts : RequestParts} {handler : AuthUser → AuthM HttpReply}
    (h : ∀ user, AlikeCalls svc presented Eq (handler user) (handler user)) :
    AlikeCalls svc presented Eq (http.authenticated svc parts handler) (http.authenticated svc parts handler) := by
  refine matches_utcNow.bind fun now now' heq => ?_
  subst heq
  split
  · exact h _
  · exact rfl
  · exact rfl

/-- Every route does the same on alike databases, where the passwords it has compared are presented. -/
theorem createRoutes_alike (http : Http) (svc : AuthService) (request : HttpRequest)
    (hpresented : ∀ password, request.comparedPassword? = some password → presented password) :
    AlikeCalls svc presented Eq (http.createRoutes svc request) (http.createRoutes svc request) := by
  cases request with
  | register r =>
    refine (validate_alike _).bind fun _ _ _ => ?_
    refine (register_alike r).bind fun user user' h => ?_
    rw [h.id, h.ofUser]
    refine (issueOneTimeToken_alike .emailVerification _ user'.id).bind fun token token' heq => ?_
    subst heq
    exact rfl
  | login client r =>
    refine (validate_alike _).bind fun _ _ _ => ?_
    refine (login_alike (hpresented _ rfl) client.ip client.userAgent).bind fun response response' heq => ?_
    subst heq
    exact rfl
  | refresh client refreshToken =>
    refine (validate_alike _).bind fun _ _ _ => ?_
    refine (refreshTokens_alike refreshToken client.ip client.userAgent).bind fun response response' heq => ?_
    subst heq
    exact rfl
  | forgotPassword email =>
    refine (validate_alike _).bind fun _ _ _ => ?_
    refine (forgotPassword_alike email).bind fun token token' heq => ?_
    subst heq
    exact rfl
  | resetPassword r =>
    refine (validate_alike _).bind fun _ _ _ => ?_
    exact (resetPassword_alike r).bind fun _ _ _ => rfl
  | logout refreshToken => exact (logout_alike refreshToken).bind fun _ _ _ => rfl
  | verifyEmail token =>
    refine (validate_alike _).bind fun _ _ _ => ?_
    refine (verifyEmail_alike token).bind fun user user' h => ?_
    exact congrArg (HttpReply.emailVerified "Email verified successfully") h.ofUser
  | me parts => exact authenticated_alike fun user => rfl
  | changePassword parts r =>
    refine authenticated_alike fun user => ?_
    refine (validate_alike _).bind fun _ _ _ => ?_
    exact (changePassword_alike (hpresented _ rfl)).bind fun _ _ _ => rfl
  | resendVerification parts =>
    refine authenticated_alike fun user => ?_
    refine (resendVerification_alike user.id).bind fun token token' heq => ?_
    subst heq
    cases token with
    | none => exact rfl
    | some token => exact rfl

end Routes

/-- The passwords that requests have compared with stored hashes. -/
def comparedBy (req : ℕ → HttpRequest) (password : String) : Prop := ∃ i, (req i).comparedPassword? = some password

/-- Requests to alike databases cannot tell them apart: every interleaved run from the one is mirrored by a
run from the other, with the same replies to every request so far, and ends in alike databases again. -/
theorem alike_databases_same_replies (http : Http) (svc : AuthService) (req : ℕ → HttpRequest) (w w' : World)
    (halike : w.Alike svc (comparedBy req) w') (d : HttpSystem)
    (hrun : svc.machine.Reaches (fun _ _ => True) (http.start svc w req) d) :
    ∃ d' : HttpSystem, svc.machine.Reaches (fun _ _ => True) (http.start svc w' req) d' ∧
      (∀ i, (d'.calls i).result? = (d.calls i).result?) ∧ d.shared.Alike svc (comparedBy req) d'.shared := by
  have hstart : MirroredBy (alikeCalls svc (comparedBy req)) (World.Alike svc (comparedBy req)) Eq
      (http.start svc w req) (http.start svc w' req) := by
    refine ⟨halike, fun i => ?_, .nil⟩
    exact createRoutes_alike http svc (req i) fun password hpassword => ⟨i, hpassword⟩
  obtain ⟨d', hrun', hmirrored⟩ := hrun.mirrored (mirrors_alike svc (comparedBy req)) hstart
  exact ⟨d', hrun', fun i => (hmirrored.calls i).result?, hmirrored.shared⟩

section Runs

open Reference

/-- The world after one registration, whose password was hashed with this salt. -/
def salted (salt : String) : World :=
  (service.executor.play (List.replicate 7 (.call 0 { choice 1 with salt := salt }))
    (verifyingHttp.start service world registrations)).shared

/-- The user it created. -/
def saltedUser (salt : String) : User := newUser 1 0 "a@b.c" (argon2Hash salt "Abcdefg1") "A"

/-- Logins with the right password. -/
def rightLogins : ℕ → HttpRequest := fun _ => .login ⟨none, none⟩ ⟨"a@b.c", "Abcdefg1"⟩

/-- Users that were registered with hashes of one password. -/
theorem newUser_alike {hash hash' : String} (h : svc.SameVerdicts presented hash hash') (fresh : Uuid)
    (now : Instant) (email name : String) :
    (newUser fresh now email hash name).Alike svc presented (newUser fresh now email hash' name) :=
  ⟨rfl, rfl, h, rfl, rfl, rfl, rfl, rfl, rfl, rfl, rfl, rfl, rfl⟩

/-- The worlds are alike: their two hashes are of one password. -/
theorem salted_alike : (salted "salt").Alike service (comparedBy rightLogins) (salted "pepper") := by
  have hclocks : (salted "salt").clock = (salted "pepper").clock := by decide +kernel
  have husers (salt : String) (h : salt = "salt" ∨ salt = "pepper") : (salted salt).db.users.rows =
    [saltedUser salt] := by
    rcases h with rfl | rfl <;> decide +kernel
  have htokens : (salted "salt").db.refreshTokens.rows = (salted "pepper").db.refreshTokens.rows ∧
      ((salted "salt").db.oneTimeTokens .passwordReset).rows =
      ((salted "pepper").db.oneTimeTokens .passwordReset).rows ∧
      ((salted "salt").db.oneTimeTokens .emailVerification).rows =
        ((salted "pepper").db.oneTimeTokens .emailVerification).rows := by decide +kernel
  have hsame : service.SameVerdicts (comparedBy rightLogins) (argon2Hash "salt" "Abcdefg1")
      (argon2Hash "pepper" "Abcdefg1") := by
    rintro password ⟨i, hpassword⟩
    obtain rfl : "Abcdefg1" = password := Option.some.inj hpassword
    decide +kernel
  refine ⟨hclocks, ?_, ?_, ?_⟩
  · rw [Table.Alike, husers _ (Or.inl rfl), husers _ (Or.inr rfl)]
    exact .cons (newUser_alike hsame 1 0 "a@b.c" "A") .nil
  · rw [Table.Alike, htokens.1]
    exact List.forall₂_same.mpr fun token _ => .refl token
  · intro purpose
    have hrows : ((salted "salt").db.oneTimeTokens purpose).rows =
      ((salted "pepper").db.oneTimeTokens purpose).rows := by
      cases purpose with
      | passwordReset => exact htokens.2.1
      | emailVerification => exact htokens.2.2
    rw [Table.Alike, hrows]
    exact List.forall₂_same.mpr fun token _ => .refl token

/-- A login after the first registration. -/
def saltedLogin : HttpSystem :=
  service.executor.play (moves 0 12 3) (verifyingHttp.start service (salted "salt") rightLogins)

/-- With another salt in the stored hash a login goes the same way. -/
theorem alike_databases_same_replies_salts :
    ∃ d : HttpSystem,
    service.machine.Reaches (fun _ _ => True) (verifyingHttp.start service (salted "pepper") rightLogins) d ∧
      (∀ i, (d.calls i).result? = (saltedLogin.calls i).result?) ∧
      saltedLogin.shared.Alike service (comparedBy rightLogins) d.shared :=
  alike_databases_same_replies verifyingHttp service rightLogins (salted "salt")
    (salted "pepper") salted_alike saltedLogin
    (service.executor.play_reaches _ _)

end Runs

end RustPressAuth
