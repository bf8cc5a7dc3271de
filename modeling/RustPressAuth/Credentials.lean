import RustPressAuth.IssuanceGate
import RustPressAuth.OneTimeLaw

/-!
# What a write rests on

Every operation but the registration and the logout is called with a credential: a
password, a refresh token, a one-time token, an email or the id of an authenticated
user. A statement by which such a call writes is executed on the strength of a
credential that the call has accepted, and for its user. The one exception is the
revocation of all sessions that answers a refresh token presented after its revocation.
-/

namespace RustPressAuth

open Atomic Program Machine Relational

/-- The statement only reads. -/
def Statement.isQuery : Statement → Bool
  | .selectUserIdByEmail _ | .selectUserByEmail _ | .selectUserById _ | .selectRefreshToken ..
  | .selectValidToken .. => true
  | _ => false

/-- The user a statement names. -/
def Statement.subject? : Statement → Option Uuid
  | .selectUserById id | .incrementFailedAttempts id _ _ | .recordSuccessfulLogin id _ | .updatePassword _ id
  | .verifyUserEmail id | .revokeAllTokens id | .invalidateTokens _ id | .insertOneTimeToken _ id _ _ => some id
  | .insertRefreshToken _ userId .. => some userId
  | _ => none

/-- The action signs a token or writes to the database. -/
def Action.grants : Action → Bool
  | .sign _ => true
  | .sql s => !s.isQuery
  | _ => false

/-- The request presents a credential. -/
def Request.presentsCredential : Request → Bool
  | .register _ | .logout _ => false
  | _ => true

/-- The call has accepted the credential it was made with, as one of this user. -/
inductive Accepted (svc : AuthService) : Request → Uuid → Trace → Prop
  | login {r : LoginRequest} {ipAddress userAgent : Option String} {user : User} {now : Instant} {h' h : Trace}
      (hchecked : LoginChecked r.email user now h') (hsuffix : h' <:+ h) :
      Accepted svc (.login r ipAddress userAgent) user.id h
  | refreshTokens {x : String} {ipAddress userAgent : Option String} {claims : RefreshTokenClaims}
      {row : RefreshToken} {now : Instant} {h' h : Trace} (hfound : RefreshFound svc x claims row h')
      (hvalid : row.isValid now = true) (hsuffix : (did .now now :: h') <:+ h) :
      Accepted svc (.refreshTokens x ipAddress userAgent) claims.sub h
  | forgotPassword {email : String} {user : User} {h : Trace}
      (hsuffix : [executed (.selectUserByEmail email) (some user)] <:+ h) :
      Accepted svc (.forgotPassword email) user.id h
  | oneTime {request : Request} {purpose : Purpose} {token : String} {tokenId userId : Uuid} {h' h : Trace}
      (htoken : request.oneTimeToken? = some (purpose, token))
        (hfound : TokenFound svc purpose token tokenId userId h')
      (hsuffix : h' <:+ h) : Accepted svc request userId h
  | changePassword {userId : Uuid} {r : ChangePasswordRequest} {h : Trace} :
      Accepted svc (.changePassword userId r) userId h
  | createEmailVerification {userId : Uuid} {h : Trace} : Accepted svc (.createEmailVerification userId) userId h
  | resendVerification {userId : Uuid} {h : Trace} : Accepted svc (.resendVerification userId) userId h

/-- What a statement by which a call writes rests on. -/
inductive Rests (svc : AuthService) (request : Request) (h : Trace) : Statement → Prop
  | subject {s : Statement} {userId : Uuid} (hsubject : s.subject? = some userId)
      (haccepted : Accepted svc request userId h) : Rests svc request h s
  | issue {s : Statement} {user : User} {h' : Trace} (hsubject : s.subject? = some user.id)
      (hauth : Authorized svc request user h') (hsuffix : h' <:+ h) : Rests svc request h s
  | reuse {x : String} {ipAddress userAgent : Option String} {claims : RefreshTokenClaims} {row : RefreshToken}
      {h' : Trace} (hrequest : request =
        .refreshTokens x ipAddress userAgent) (hfound : RefreshFound svc x claims row h')
      (hrevoked : row.isRevoked = true) (hsuffix : h' <:+ h) : Rests svc request h (.revokeAllTokens claims.sub)
  | rotate {x : String} {ipAddress userAgent : Option String} {claims : RefreshTokenClaims} {row : RefreshToken}
      {now : Instant} {h' : Trace} (hrequest : request = .refreshTokens x ipAddress userAgent)
      (hfound : RefreshFound svc x claims row h') (hvalid : row.isValid now = true)
      (hsuffix : (did .now now :: h') <:+ h) : Rests svc request h (.revokeRefreshToken claims.tid)
  | redeem {purpose : Purpose} {token : String} {tokenId userId : Uuid} {h' : Trace}
      (htoken : request.oneTimeToken? = some (purpose, token))
        (hfound : TokenFound svc purpose token tokenId userId h')
      (hsuffix : h' <:+ h) : Rests svc request h (.markTokenUsed purpose tokenId)

variable {svc : AuthService} {request : Request} {h h' : Trace} {userId : Uuid}

/-- What was accepted stays accepted. -/
theorem Accepted.extend (haccepted : Accepted svc request userId h') (hsuffix : h' <:+ h) :
    Accepted svc request userId h := by
  cases haccepted with
  | login hchecked hbelow => exact .login hchecked (hbelow.trans hsuffix)
  | refreshTokens hfound hvalid hbelow => exact .refreshTokens hfound hvalid (hbelow.trans hsuffix)
  | forgotPassword hbelow => exact .forgotPassword (hbelow.trans hsuffix)
  | oneTime htoken hfound hbelow => exact .oneTime htoken hfound (hbelow.trans hsuffix)
  | changePassword => exact .changePassword
  | createEmailVerification => exact .createEmailVerification
  | resendVerification => exact .resendVerification

/-- A call issues one-time tokens to the user of its credential. -/
theorem Issues.accepted {purpose : Purpose} (hissues : Issues request purpose userId h') (hsuffix : h' <:+ h) :
    Accepted svc request userId h := by
  cases hissues with
  | forgotPassword => exact .forgotPassword hsuffix
  | createEmailVerification => exact .createEmailVerification
  | resendVerification => exact .resendVerification

/-- A rotation that passed its checks has accepted its token. -/
theorem RefreshChecked.accepted {x : String} {ip ua : Option String} {claims : RefreshTokenClaims}
    {row : RefreshToken} {user : User} {now : Instant}
    (hchecked : RefreshChecked svc x claims row user now h') (hsuffix : h' <:+ h) :
    Accepted svc (.refreshTokens x ip ua) claims.sub h := by
  obtain ⟨checkedAt, h₀, hfound, hvalid, rfl⟩ := hchecked.steps
  exact .refreshTokens hfound hvalid (List.IsSuffix.trans ⟨[_, _], rfl⟩ hsuffix)

/-- A call that is authorized has accepted a credential. -/
theorem Authorized.accepted {user : User} (hauth : Authorized svc request user h') (hsuffix : h' <:+ h) :
    ∃ userId, Accepted svc request userId h := by
  cases hauth with
  | @login r ip ua _ now n h₀ hverified =>
    have htrace := hverified.trace
    subst htrace
    have hchecked : LoginChecked r.email user now [did .now now,
      executed (.selectUserByEmail r.email) (some user)] :=
      ⟨rfl, hverified.unlocked, hverified.active⟩
    exact ⟨user.id, .login hchecked (List.IsSuffix.trans ⟨[_, _], rfl⟩ hsuffix)⟩
  | refresh hchecked => exact ⟨_, hchecked.accepted hsuffix⟩

/-- A reset that is about to store a password has found the row of its token. -/
theorem ResetReady.found {r : ResetPasswordRequest} {tokenId : Uuid} {passwordHash : String}
    (hready : ResetReady svc r tokenId userId passwordHash h) :
    ∃ h', TokenFound svc .passwordReset r.token tokenId userId h' ∧ h' <:+ h := by
  obtain ⟨h', hfound, salt, -, -, rfl⟩ := hready
  exact ⟨h', hfound, List.suffix_cons _ _⟩

/-- A reset that has stored a password has found the row of its token. -/
theorem ResetStored.found {r : ResetPasswordRequest} {tokenId : Uuid}
    (hstored : ResetStored svc r tokenId userId h) :
    ∃ h', TokenFound svc .passwordReset r.token tokenId userId h' ∧ h' <:+ h := by
  obtain ⟨passwordHash, h₁, n, hready, rfl⟩ := hstored
  obtain ⟨h', hfound, hsuffix⟩ := hready.found
  exact ⟨h', hfound, hsuffix.trans (List.suffix_cons _ _)⟩

/-- A reset that has marked its token used has found the row of its token. -/
theorem ResetConsumed.found {r : ResetPasswordRequest} (hconsumed : ResetConsumed svc r userId h) :
    ∃ tokenId h', TokenFound svc .passwordReset r.token tokenId userId h' ∧ h' <:+ h := by
  obtain ⟨tokenId, h₁, n, hstored, rfl⟩ := hconsumed
  obtain ⟨h', hfound, hsuffix⟩ := hstored.found
  exact ⟨tokenId, h', hfound, hsuffix.trans (List.suffix_cons _ _)⟩

/-- Every write of a call that presents a credential rests on it. -/
theorem rests_of_guard {s : Statement} (hguard : StatementGuard svc request h s) (hwrites : s.isQuery = false)
    (hpresents : request.presentsCredential = true) : Rests svc request h s := by
  cases s with
  | selectUserIdByEmail | selectUserByEmail | selectUserById | selectRefreshToken | selectValidToken =>
      cases hwrites
  | insertUser email passwordHash name =>
    obtain ⟨r, _, rfl, -⟩ := hguard
    cases hpresents
  | incrementFailedAttempts id maxLoginAttempts lockoutDuration =>
    obtain ⟨r, ip, ua, user, now, h', rfl, hchecked, rfl, -, -, rfl⟩ := hguard
    exact .subject rfl (.login hchecked (List.suffix_cons _ _))
  | recordSuccessfulLogin id ipAddress =>
    obtain ⟨r, ua, user, now, rfl, rfl, hverified⟩ := hguard
    have hchecked : LoginChecked r.email user now [did .now now,
      executed (.selectUserByEmail r.email) (some user)] :=
      ⟨rfl, hverified.unlocked, hverified.active⟩
    exact .subject rfl (.login hchecked (hverified.trace ▸ ⟨[_], rfl⟩))
  | updatePassword passwordHash id =>
    rcases hguard with ⟨r, tokenId, rfl, hready⟩ | ⟨r, rfl, -⟩
    · obtain ⟨h', hfound, hsuffix⟩ := hready.found
      exact .subject rfl (.oneTime rfl hfound hsuffix)
    · exact .subject rfl .changePassword
  | verifyUserEmail id =>
    obtain ⟨token, tokenId, rfl, hfound⟩ := hguard
    exact .subject rfl (.oneTime rfl hfound (List.suffix_refl h))
  | insertRefreshToken id userId tokenHash expiresAt ipAddress userAgent =>
    obtain ⟨user, accessToken, now, bytes, hdrawn, hstored⟩ := hguard
    obtain ⟨h₀, hauth, hsuffix⟩ := hdrawn.authorized
    obtain rfl : userId = user.id := (Statement.insertRefreshToken.inj hstored).2.1
    exact .issue rfl hauth hsuffix
  | revokeRefreshToken id =>
    rcases hguard with ⟨x, _, _, _, _, rfl, -⟩ |
      ⟨x, ip, ua, claims, row, user, now, h', _, _, rfl, rfl, hchecked, hsuffix, -⟩
    · cases hpresents
    · obtain ⟨checkedAt, h₀, hfound, hvalid, rfl⟩ := hchecked.steps
      exact .rotate rfl hfound hvalid (List.IsSuffix.trans ⟨[_, _], rfl⟩ hsuffix)
  | revokeAllTokens userId =>
    rcases hguard with ⟨x, ip, ua, claims, row, now, h', rfl, rfl, hfound, hrevoked, rfl⟩ |
      ⟨r, rfl, hconsumed⟩ | ⟨r, rfl, -⟩
    · exact .reuse rfl hfound hrevoked (List.suffix_cons _ _)
    · obtain ⟨tokenId, h', hfound, hsuffix⟩ := hconsumed.found
      exact .subject rfl (.oneTime rfl hfound hsuffix)
    · exact .subject rfl .changePassword
  | invalidateTokens purpose userId =>
    obtain ⟨bytes, now, h', hissues, rfl⟩ := hguard
    exact .subject rfl (hissues.accepted ⟨[_, _], rfl⟩)
  | insertOneTimeToken purpose userId tokenHash expiresAt =>
    obtain ⟨bytes, now, ⟨h₁, n, ⟨h', hissues, rfl⟩, rfl⟩, -⟩ := hguard
    exact .subject rfl (hissues.accepted ⟨[_, _, _], rfl⟩)
  | markTokenUsed purpose id =>
    rcases hguard with ⟨r, userId, rfl, rfl, hstored⟩ | ⟨token, userId, user, h', rfl, rfl, hfound, rfl⟩
    · obtain ⟨h', hfound, hsuffix⟩ := hstored.found
      exact .redeem rfl hfound hsuffix
    · exact .redeem rfl hfound (List.suffix_cons _ _)

/-- A token is signed by a call that is authorized. -/
theorem authorized_of_sign {payload : Payload} (hguard : ActionGuard svc request h (.sign payload)) :
    ∃ user h', Authorized svc request user h' ∧ h' <:+ h := by
  rcases hguard with ⟨claims, ⟨user, now, jti, h', hauth, -, rfl⟩, -⟩ |
    ⟨user, _, _, _, _, ⟨_, _, h₁, n, hdrawn, rfl⟩, -⟩
  · exact ⟨user, h', hauth, ⟨[_, _], rfl⟩⟩
  · obtain ⟨h₀, hauth, hsuffix⟩ := hdrawn.authorized
    exact ⟨user, h₀, hauth, hsuffix.trans (List.suffix_cons _ _)⟩

end RustPressAuth
