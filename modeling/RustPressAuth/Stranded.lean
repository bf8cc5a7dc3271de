import RustPressAuth.DeadTokens
import RustPressAuth.EmailVerification
import RustPressAuth.IssuerVerifier
import RustPressAuth.LiveTokens

/-!
# Accounts that cannot be verified

A verification token is sent at registration and by the route that sends one again. A
second registration of an email is refused, and the other route needs an access token,
which only a login hands out. Where a login needs a verified email, an account whose
email is not verified and whose verification tokens are all used or expired gets no
token any more: nothing its owner can request verifies the email, so no login succeeds.
-/

namespace RustPressAuth

open Atomic Program Machine Relational

/-- A token that names this user cannot be read from the text, nor from what stands before its last dot. -/
structure Primitives.Foreign (prims : Primitives) (userId : Uuid) (token : String) : Prop where
  whole : ∀ alg payload, prims.jwtParts token = some (alg, payload) → payload.sub ≠ some userId
  cut : ∀ tail text alg payload, rsplitDot token = [tail, text] → prims.jwtParts text = some (alg, payload) →
    payload.sub ≠ some userId

section Foreign

variable {prims : Primitives} {userId : Uuid}

/-- A text without dots names nobody. -/
theorem foreign_of_no_dot (hthree : prims.ThreeParts) {token : String} (hdot : '.' ∉ token.toList) :
    prims.Foreign userId token := by
  have hcount : token.toList.count '.' = 0 := List.count_eq_zero_of_not_mem hdot
  have hparts : prims.jwtParts token = none := hthree.unread (by omega)
  constructor
  · intro alg payload hread
    rw [hparts] at hread
    cases hread
  · intro tail text alg payload hcut _
    rw [rsplitDot, if_neg hdot] at hcut
    cases hcut

/-- An access token for somebody else. -/
theorem foreign_encode (hjwt : prims.JwtRoundTrip) (hthree : prims.ThreeParts) {secret : String} {claims : Payload}
    (hsub : claims.sub ≠ some userId) : prims.Foreign userId (prims.jwtEncode secret claims) := by
  have hparts := hjwt.parts_encode secret claims
  constructor
  · intro alg payload hread
    rw [hparts] at hread
    cases hread
    exact hsub
  · intro tail text alg payload hcut hread
    have hcount : (prims.jwtEncode secret claims).toList.count '.' = 2 := hthree _ (by simp [hparts])
    rw [eq_of_rsplitDot hcut, count_dot_join] at hcount
    rw [hthree.unread (by omega)] at hread
    cases hread

/-- A combined refresh token for somebody else. -/
theorem foreign_combined (hjwt : prims.JwtRoundTrip) (hthree : prims.ThreeParts) {secret tail : String}
    {claims : Payload} (hsub : claims.sub ≠ some userId) (hdot : '.' ∉ tail.toList) :
    prims.Foreign userId (prims.jwtEncode secret claims ++ "." ++ tail) := by
  have hparts := hjwt.parts_encode secret claims
  constructor
  · intro alg payload hread
    have hcount : (prims.jwtEncode secret claims).toList.count '.' = 2 := hthree _ (by simp [hparts])
    have hjoined := count_dot_join (prims.jwtEncode secret claims) tail
    rw [hthree.unread (by omega)] at hread
    cases hread
  · intro tail' text alg payload hcut hread
    rw [rsplitDot_append _ _ hdot] at hcut
    cases hcut
    rw [hparts] at hread
    cases hread
    exact hsub

/-- The claims of a token that is decoded were read from its parts. -/
theorem jwtParts_of_decode {secret token : String} {v : Validation} {nowSecs : ℤ} {claims : Payload}
    (h : prims.jwtDecode secret v nowSecs token = some claims) :
    ∃ alg, prims.jwtParts token = some (alg, claims) := by
  simp only [Primitives.jwtDecode, Option.bind_eq_bind, Option.bind_eq_some_iff] at h
  obtain ⟨⟨alg, payload⟩, hparts, hchecks⟩ := h
  simp only [Option.ite_none_left_eq_some, Option.ite_none_right_eq_some, Option.some.injEq] at hchecks
  rw [hchecks.2.2] at hparts
  exact ⟨alg, hparts⟩

/-- The subject of a refresh token is the one its payload names. -/
theorem RefreshTokenClaims.sub_of_ofPayload {p : Payload} {c : RefreshTokenClaims} (h : ofPayload p = some c) :
    p.sub = some c.sub := by
  simp only [ofPayload, Option.bind_eq_bind, Option.bind_eq_some_iff, Option.some.injEq] at h
  obtain ⟨sub, hsub, _, -, _, -, _, -, _, -, rfl⟩ := h
  exact hsub

/-- The subject of an access token is the one its payload names. -/
theorem AccessTokenClaims.sub_of_ofPayload {p : Payload} {c : AccessTokenClaims} (h : ofPayload p = some c) :
    p.sub = some c.sub := by
  simp only [ofPayload, Option.bind_eq_bind, Option.bind_eq_some_iff, Option.some.injEq] at h
  obtain ⟨sub, hsub, _, -, _, -, _, -, _, -, _, -, _, -, _, -, _, -, rfl⟩ := h
  exact hsub

end Foreign

/-- The email of the user is not verified, and no token can verify it. -/
structure Stranded (userId : Uuid) (w : World) : Prop where
  exists_user : ∃ user ∈ w.db.users, user.id = userId
  unverified : ∀ user ∈ w.db.users, user.id = userId → user.isEmailVerified = false
  dead : ∀ t ∈ w.db.oneTimeTokens .emailVerification, t.userId = userId → t.Dead w.now

/-- The action does not help a user: it neither verifies the email nor stores a verification token nor
signs claims of the user. -/
def Action.Spares (userId : Uuid) : Action → Prop
  | .sql (.verifyUserEmail id) => id ≠ userId
  | .sql (.insertOneTimeToken .emailVerification id _ _) => id ≠ userId
  | .sign payload => payload.sub ≠ some userId
  | _ => True

/-- How the actions of a call are answered while the user is stranded. -/
def AuthService.Told (svc : AuthService) (userId : Uuid) : (a : Action) → a.Reply → Prop
  | .sql (.selectUserByEmail _), .ok (some user) => user.isEmailVerified = true → user.id ≠ userId
  | .sql (.selectUserById id), .ok (some user) => user.id = id
  | .sql (.insertUser ..), .ok user => user.id ≠ userId
  | .sql (.selectValidToken .emailVerification _), .ok (some (_, id)) => id ≠ userId
  | .sign payload, token => token = svc.prims.jwtEncode svc.config.jwtSecret payload
  | _, _ => True

section Steps

variable {svc : AuthService} {userId : Uuid} {w w' : World}

/-- A stranded account stays stranded under every statement that does not help it. -/
theorem Stranded.run {s : Statement} {fresh : Uuid} {v : s.Row} {db : Db} (h : Stranded userId w)
    (hspares : (Action.sql s).Spares userId) (hrun : s.run fresh w.now w.db = .ok (v, db)) :
    Stranded userId ⟨db, w.clock⟩ := by
  constructor
  · obtain ⟨user, huser, hid⟩ := h.exists_user
    obtain ⟨user', huser', hlater⟩ := (Statement.run_evolves hrun).users user huser
    exact ⟨user', huser', hlater.id.trans hid⟩
  · intro user huser hid
    rcases (Statement.run_users hrun).mp huser with ⟨row, hrow, rfl⟩ | hnew
    · rw [Statement.onUser_id] at hid
      have hother : s ≠ .verifyUserEmail row.id := by
        intro hverify
        subst hverify
        exact hspares hid
      rw [User.isEmailVerified, (Statement.onUser_verification w.now hother).2]
      exact h.unverified row hrow hid
    · cases s with
      | insertUser email passwordHash name =>
        obtain rfl := Option.some.inj hnew
        rfl
      | _ => cases hnew
  · intro t ht hid
    rcases Statement.run_oneTimeTokens hrun ht with ⟨q, hq, hlater⟩ | hadded
    · exact (h.dead q hq (hlater.userId.symm.trans hid)).later hlater (Int.le_refl _)
    · cases s with
      | insertOneTimeToken purpose id tokenHash expiresAt =>
        obtain ⟨hpurpose, hrow⟩ := Option.ite_none_right_eq_some.mp hadded
        subst hpurpose
        cases hrow
        exact absurd hid hspares
      | _ => cases hadded

/-- A stranded account stays stranded while time passes. -/
theorem Stranded.later {clock : ℕ} (h : Stranded userId w) (hle : w.clock ≤ clock) :
    Stranded userId ⟨w.db, clock⟩ where
  exists_user := h.exists_user
  unverified := h.unverified
  dead t ht hid := (h.dead t ht hid).later (OneTimeToken.Later.refl t) (Int.ofNat_le.mpr hle)

/-- What a call is told about a stranded account. -/
theorem Stranded.told {a : Action} {r : a.Reply} (h : Stranded userId w) (hperform : svc.machine.perform a w r w') :
    svc.Told userId a r := by
  unfold AuthService.Told
  split
  · intro hverified hid
    rw [h.unverified _ (readUser?_row hperform rfl) hid] at hverified
    cases hverified
  · exact (selectUserById_row hperform).2
  · obtain ⟨fresh, db, hrun, -⟩ := AuthService.perform_ok hperform
    obtain ⟨_, _, _, -, hinsert⟩ := insertUser_run hrun
    obtain ⟨row, hrow, hid⟩ := h.exists_user
    rw [← hid]
    exact (Table.insert?_fresh hinsert hrow).1.symm
  · intro hid
    obtain ⟨row, hrow, -, huser, -, hearly, hunused⟩ := selectValidToken_row hperform
    rcases h.dead row hrow (huser.trans hid) with hused | hexpired
    · rw [hunused] at hused
      cases hused
    · exact absurd hearly (Int.not_lt.mpr hexpired)
  · obtain ⟨choice, hexec⟩ := hperform
    cases hexec
    rfl
  · trivial

/-- An action that does not help leaves the account stranded. -/
theorem Stranded.perform {a : Action} {r : a.Reply} (h : Stranded userId w) (hspares : a.Spares userId)
    (hperform : svc.machine.perform a w r w') : Stranded userId w' := by
  cases a with
  | sql s =>
    rcases AuthService.perform_sql hperform with ⟨e, -, rfl⟩ | ⟨v, fresh, db, -, hrun, rfl⟩
    · exact h
    · exact h.run hspares hrun
  | _ => exact AuthService.perform_local hperform (by simp) ▸ h

end Steps

/-- A call does not help a stranded user, and its actions are answered as they are while the user is stranded. -/
def AuthService.sparing (svc : AuthService) (userId : Uuid) : Contract Action Action.Reply where
  allows := Action.Spares userId
  answers := svc.Told userId

section Requests

variable {http : Http} {svc : AuthService} {userId : Uuid}

/-- An access token is generated for somebody else. -/
theorem spares_generateAccessToken (hjwt : svc.prims.JwtRoundTrip) (hthree : svc.prims.ThreeParts) {user : User}
    (hother : user.id ≠ userId) :
    (svc.generateAccessToken user).Fulfils (svc.sparing userId) (svc.prims.Foreign userId) := by
  simp only [AuthService.generateAccessToken, fulfils_bind, fulfils_utcNow, fulfils_expiresAfter, fulfils_newUuid,
    fulfils_sign]
  refine ⟨trivial, fun now _ _ => ⟨trivial, fun jti _ => ?_⟩⟩
  have hsub : (svc.accessClaims user now jti).toPayload.sub ≠ some userId := by
    intro hsub
    exact hother (Option.some.inj hsub)
  refine ⟨hsub, fun token htoken => ?_⟩
  have hsigned : token =
    svc.prims.jwtEncode svc.config.jwtSecret (svc.accessClaims user now jti).toPayload := htoken
  rw [hsigned]
  exact foreign_encode hjwt hthree hsub

/-- A refresh token is generated for somebody else. -/
theorem spares_generateRefreshToken (hjwt : svc.prims.JwtRoundTrip) (hthree : svc.prims.ThreeParts) {id : Uuid}
    (hother : id ≠ userId) (ipAddress userAgent : Option String) :
    (svc.generateRefreshToken id ipAddress userAgent).Fulfils (svc.sparing userId) (svc.prims.Foreign userId) := by
  simp only [AuthService.generateRefreshToken, fulfils_bind, fulfils_utcNow, fulfils_expiresAfter, fulfils_newUuid,
    fulfils_randomBytes, fulfils_query, fulfils_sign, fulfils_pure]
  refine ⟨trivial, fun tokenId _ => ⟨trivial, fun now _ _ => ⟨trivial, fun bytes _ => ⟨trivial, fun _ _ => ?_⟩⟩⟩⟩
  have hsub : (svc.refreshClaims id tokenId now).toPayload.sub ≠ some userId := by
    intro hsub
    exact hother (Option.some.inj hsub)
  refine ⟨hsub, fun token htoken => ?_⟩
  have hsigned : token =
    svc.prims.jwtEncode svc.config.jwtSecret (svc.refreshClaims id tokenId now).toPayload := htoken
  rw [hsigned]
  exact foreign_combined hjwt hthree hsub (dot_not_mem_base64UrlEncode _)

/-- A one-time token names nobody; a verification token is stored for somebody else. -/
theorem spares_issueOneTimeToken (hthree : svc.prims.ThreeParts) {purpose : Purpose} {id : Uuid} (lifetime : Int64)
    (hother : purpose = .emailVerification → id ≠ userId) :
    (svc.issueOneTimeToken purpose lifetime id).Fulfils (svc.sparing userId) (svc.prims.Foreign userId) := by
  simp only [AuthService.issueOneTimeToken, fulfils_bind, fulfils_utcNow, fulfils_expiresAfter, fulfils_randomBytes,
    fulfils_query, fulfils_pure]
  refine ⟨trivial, fun bytes _ => ⟨trivial, fun now _ _ => ⟨trivial, fun _ _ => ⟨?_, fun _ _ => ?_⟩⟩⟩⟩
  · cases purpose with
    | passwordReset => trivial
    | emailVerification => exact hother rfl
  · exact foreign_of_no_dot hthree (dot_not_mem_base64UrlEncode _)

/-- A login succeeds for somebody else only. -/
theorem spares_login (hjwt : svc.prims.JwtRoundTrip) (hthree : svc.prims.ThreeParts)
    (hrequired : svc.config.requireEmailVerification = true) (req : LoginRequest)
    (ipAddress userAgent : Option String) :
    (svc.login req ipAddress userAgent).Fulfils (svc.sparing userId) fun response =>
      svc.prims.Foreign userId response.accessToken ∧ svc.prims.Foreign userId response.refreshToken := by
  simp only [AuthService.login, AuthService.verifyPassword, AuthService.incrementFailedAttempts,
    AuthService.recordSuccessfulLogin, fulfils_bind, fulfils_selectUserByEmail, fulfils_okOr, fulfils_utcNow,
    fulfils_runIf, fulfils_fail, fulfils_verify, fulfils_query, fulfils_pure, hrequired, Bool.true_and]
  refine ⟨trivial, fun found hfound user huser => ⟨trivial, fun now _ => ?_⟩⟩
  subst huser
  have hunverified : user.isEmailVerified = true → user.id ≠ userId := hfound
  refine ⟨fun _ => trivial, fun _ => ⟨fun _ => trivial, fun _ => ⟨trivial, fun matched _ verified _ => ?_⟩⟩⟩
  refine ⟨fun _ => ⟨trivial, fun _ _ => trivial⟩, fun _ =>
    ⟨fun _ => trivial, fun hverified => ⟨trivial, fun _ _ => ?_⟩⟩⟩
  have hother : user.id ≠ userId := hunverified (by simpa using hverified)
  apply (spares_generateAccessToken hjwt hthree hother).mono
  intro accessToken haccess
  apply (spares_generateRefreshToken hjwt hthree hother ipAddress userAgent).mono
  intro refreshToken hrefresh
  exact ⟨haccess, hrefresh⟩

/-- The part of a refresh that issues new tokens issues them to the user of the claims. -/
theorem spares_rotate (hjwt : svc.prims.JwtRoundTrip) (hthree : svc.prims.ThreeParts) {claims : RefreshTokenClaims}
    (hother : claims.sub ≠ userId) (ipAddress userAgent : Option String) :
    (svc.rotate claims ipAddress userAgent).Fulfils (svc.sparing userId) fun response =>
      svc.prims.Foreign userId response.accessToken ∧ svc.prims.Foreign userId response.refreshToken := by
  simp only [AuthService.rotate, fulfils_bind, fulfils_selectUserById, fulfils_okOr, fulfils_utcNow, fulfils_runIf,
    fulfils_fail, fulfils_query, fulfils_pure]
  refine ⟨trivial, fun row hrow user huser => ⟨trivial, fun now _ => ⟨fun _ => trivial, fun _ => ?_⟩⟩⟩
  subst huser
  have hid : user.id = claims.sub := hrow
  rw [← hid] at hother
  apply (spares_generateAccessToken hjwt hthree hother).mono
  intro accessToken haccess
  apply (spares_generateRefreshToken hjwt hthree hother ipAddress userAgent).mono
  intro successor hsuccessor
  exact ⟨trivial, fun _ _ => ⟨haccess, hsuccessor⟩⟩

/-- A refresh token that names somebody else is exchanged for tokens that do. -/
theorem spares_refreshTokens (hjwt : svc.prims.JwtRoundTrip) (hthree : svc.prims.ThreeParts) {refreshToken : String}
    (hforeign : svc.prims.Foreign userId refreshToken) (ipAddress userAgent : Option String) :
    (svc.refreshTokens refreshToken ipAddress userAgent).Fulfils (svc.sparing userId) fun response =>
      svc.prims.Foreign userId response.accessToken ∧ svc.prims.Foreign userId response.refreshToken := by
  simp only [AuthService.refreshTokens, AuthService.redeem, fulfils_bind, AuthService.fulfils_splitToken,
    fulfils_utcNow, fulfils_okOr, fulfils_selectRefreshToken]
  refine fun tokenString jwt hcut => ⟨trivial, fun now _ claims hclaims => ⟨trivial, fun found _ stored _ => ?_⟩⟩
  have hother : claims.sub ≠ userId := by
    obtain ⟨payload, hdecoded, hread⟩ := Option.bind_eq_some_iff.mp hclaims
    obtain ⟨alg, hparts⟩ := jwtParts_of_decode hdecoded
    have hsub := hforeign.cut tokenString jwt alg payload hcut hparts
    intro heq
    exact hsub (by rw [RefreshTokenClaims.sub_of_ofPayload hread, heq])
  refine ⟨trivial, fun now _ => ?_⟩
  split
  · exact spares_rotate hjwt hthree hother ipAddress userAgent
  · simp only [AuthService.revokeAllTokens, fulfils_bind, fulfils_runIf, fulfils_query, fulfils_pure, fulfils_fail]
    exact ⟨fun _ => ⟨trivial, fun _ _ => trivial⟩, fun _ => trivial⟩

/-- The user that is registered is somebody else: the id of a stranded user is taken. -/
theorem spares_register (req : RegisterRequest) :
    (svc.register req).Fulfils (svc.sparing userId) fun user => user.id ≠ userId := by
  simp only [AuthService.register, AuthService.validatePassword, AuthService.hashPassword, fulfils_bind,
    fulfils_runIf, fulfils_fail, fulfils_selectUserIdByEmail, fulfils_newSalt, fulfils_okOr, fulfils_insertUser]
  refine ⟨fun _ => trivial, fun _ =>
    ⟨trivial, fun found _ => ⟨fun _ => trivial, fun _ => ⟨trivial, fun salt _ => ?_⟩⟩⟩⟩
  exact ⟨fun _ => trivial, fun _ hash _ => ⟨trivial, fun user huser => huser⟩⟩

/-- A request for a reset token leaves the account stranded, and its token does not speak for the user. -/
theorem spares_forgotPassword (hthree : svc.prims.ThreeParts) (email : String) :
    (svc.forgotPassword email).Fulfils (svc.sparing userId) (svc.prims.Foreign userId) := by
  simp only [AuthService.forgotPassword, fulfils_bind, fulfils_selectUserByEmail]
  refine ⟨trivial, fun found _ => ?_⟩
  cases found with
  | none => exact foreign_of_no_dot hthree (by decide)
  | some user => exact spares_issueOneTimeToken hthree _ (by simp)

/-- A token that is still valid verifies somebody else. -/
theorem spares_verifyEmail (token : String) :
    (svc.verifyEmail token).Fulfils (svc.sparing userId) fun _ => True := by
  simp only [AuthService.verifyEmail, fulfils_bind, fulfils_selectValidToken, fulfils_okOr, fulfils_verifyUserEmail,
    fulfils_query, fulfils_pure]
  refine ⟨trivial, fun found hfound row hrow => ?_⟩
  subst hrow
  exact ⟨hfound, fun user _ => ⟨trivial, fun _ _ => trivial⟩⟩

/-- A resend for another user leaves the account stranded, and its token does not speak for the user. -/
theorem spares_resendVerification (hthree : svc.prims.ThreeParts) {id : Uuid} (hother : id ≠ userId) :
    (svc.resendVerification id).Fulfils (svc.sparing userId) fun token =>
    ∀ t ∈ token, svc.prims.Foreign userId t := by
  simp only [AuthService.resendVerification, AuthService.createEmailVerification, fulfils_bind,
    fulfils_selectUserById, fulfils_okOr]
  refine ⟨trivial, fun found _ row _ => ?_⟩
  split
  · simp
  · rw [fulfils_bind]
    apply (spares_issueOneTimeToken hthree _ fun _ => hother).mono
    intro token htoken
    simpa using htoken

/-- A computation does not help the user, and its replies hand out no token that names the user. -/
abbrev Spares (svc : AuthService) (userId : Uuid) (p : AuthM HttpReply) : Prop :=
  p.Fulfils (svc.sparing userId) fun reply => ∀ token ∈ reply.handsOut, svc.prims.Foreign userId token

/-- A route behind the middleware runs its handler for somebody else. -/
theorem spares_authenticated {parts : RequestParts} {handler : AuthUser → AuthM HttpReply}
    (hpresents : ∀ token ∈ parts.presentedToken.toList, svc.prims.Foreign userId token)
    (hhandler : ∀ user : AuthUser, user.id ≠ userId → Spares svc userId (handler user)) :
    Spares svc userId (http.authenticated svc parts handler) := by
  simp only [Spares, Http.authenticated, fulfils_bind, fulfils_utcNow]
  refine ⟨trivial, fun now _ => ?_⟩
  split
  · rename_i user haccepted
    apply hhandler
    obtain ⟨secret, token, claims, -, hpresented, hdecoded, hnext⟩ := requireAuth_eq_ok.mp haccepted
    obtain ⟨payload, hpayload, hread⟩ := Option.bind_eq_some_iff.mp hdecoded
    obtain ⟨alg, hparts⟩ := jwtParts_of_decode hpayload
    have hsub := (hpresents token (by simp [hpresented])).whole alg payload hparts
    have huser : user = AuthUser.fromClaims claims := (Except.ok.inj hnext).symm
    intro heq
    rw [huser] at heq
    exact hsub ((AccessTokenClaims.sub_of_ofPayload hread).trans (congrArg some heq))
  · simp [HttpReply.handsOut]
  · simp [HttpReply.handsOut]

/-- No request that presents tokens of others helps the user. -/
theorem createRoutes_spares (hjwt : svc.prims.JwtRoundTrip) (hthree : svc.prims.ThreeParts)
    (hrequired : svc.config.requireEmailVerification = true) {request : HttpRequest}
    (hpresents : ∀ token ∈ request.presents, svc.prims.Foreign userId token) :
    Spares svc userId (http.createRoutes svc request) := by
  cases request with
  | register req =>
    simp only [Http.createRoutes, Http.register, Spares, fulfils_bind]
    apply fulfils_validate
    apply (spares_register req).mono
    intro user hother
    apply (spares_issueOneTimeToken hthree _ fun _ => hother).mono
    intro token htoken
    simpa [HttpReply.handsOut] using htoken
  | login client req =>
    simp only [Http.createRoutes, Http.login, Spares, fulfils_bind]
    apply fulfils_validate
    apply (spares_login hjwt hthree hrequired req client.ip client.userAgent).mono
    intro response hresponse
    simpa [HttpReply.handsOut] using hresponse
  | refresh client refreshToken =>
    simp only [Http.createRoutes, Http.refreshToken, Spares, fulfils_bind]
    apply fulfils_validate
    apply (spares_refreshTokens hjwt hthree (hpresents _ List.mem_cons_self) client.ip client.userAgent).mono
    intro response hresponse
    simpa [HttpReply.handsOut] using hresponse
  | forgotPassword email =>
    simp only [Http.createRoutes, Http.forgotPassword, Spares, fulfils_bind]
    apply fulfils_validate
    apply (spares_forgotPassword hthree email).mono
    intro token htoken
    cases hempty : token.isEmpty with
    | true => simp [HttpReply.handsOut]
    | false => simpa [HttpReply.handsOut, hempty] using htoken
  | resetPassword req =>
    simp [Http.createRoutes, Http.resetPassword, AuthService.resetPassword, AuthService.validatePassword,
      AuthService.hashPassword, AuthService.revokeAllTokens, AuthService.sparing, Action.Spares, HttpReply.handsOut,
      fulfils_validate]
  | logout refreshToken =>
    simp [Http.createRoutes, Http.logout, AuthService.logout, AuthService.sparing, Action.Spares,
      HttpReply.handsOut]
  | verifyEmail token =>
    simp only [Http.createRoutes, Http.verifyEmail, Spares, fulfils_bind]
    apply fulfils_validate
    apply (spares_verifyEmail token).mono
    intro user _
    simp [HttpReply.handsOut]
  | me parts =>
    apply spares_authenticated hpresents
    intro user _
    simp [HttpReply.handsOut]
  | changePassword parts req =>
    apply spares_authenticated hpresents
    intro user _
    simp [Http.changePassword, AuthService.changePassword, AuthService.verifyPassword, AuthService.validatePassword,
      AuthService.hashPassword, AuthService.revokeAllTokens, AuthService.sparing, Action.Spares, HttpReply.handsOut,
      fulfils_validate]
  | resendVerification parts =>
    apply spares_authenticated hpresents
    intro user hother
    simp only [Http.resendVerification, Spares, fulfils_bind]
    apply (spares_resendVerification hthree hother).mono
    intro token htoken
    cases token with
    | none => simp [HttpReply.handsOut]
    | some token => simpa [HttpReply.handsOut] using htoken

end Requests

section NoWayOut

variable {http : Http} {svc : AuthService} {userId : Uuid} {w w' : World}

/-- A call whose tokens name others leaves the account stranded, and what it hands out names others. -/
theorem stranded_exec (hjwt : svc.prims.JwtRoundTrip) (hthree : svc.prims.ThreeParts)
    (hrequired : svc.config.requireEmailVerification = true) {request : HttpRequest}
    (hpresents : ∀ token ∈ request.presents, svc.prims.Foreign userId token) {tr : Trace}
    {res : Except Failure HttpReply} (h : svc.smooth.Exec (http.createRoutes svc request) w tr res w')
    (hstranded : Stranded userId w) :
    Stranded userId w' ∧ ∀ reply, res = .ok reply → ∀ token ∈ reply.handsOut, svc.prims.Foreign userId token := by
  have hperform (a : Action) (r : a.Reply) (v v' : World) (hspares : a.Spares userId)
      (hact : svc.smooth.perform a v r v') (hv : Stranded userId v) : Stranded userId v' ∧ svc.Told userId a r :=
    ⟨hv.perform hspares hact.1, hv.told hact.1⟩
  have hidle (v v' : World) (hmove : svc.smooth.idle v v') (hv : Stranded userId v) : Stranded userId v' := by
    obtain ⟨elapsed, rfl⟩ := hmove
    exact hv.later (Nat.le_add_right _ _)
  exact Exec.fulfils (C := svc.sparing userId) hperform hidle h
    (createRoutes_spares hjwt hthree hrequired hpresents)
    hstranded

/-- Requests within the means of a person who holds no token of the user leave the account stranded. -/
theorem stranded_serial (hjwt : svc.prims.JwtRoundTrip) (hthree : svc.prims.ThreeParts)
    (hrequired : svc.config.requireEmailVerification = true) {held : String → Prop}
    (hheld : ∀ token, held token → svc.prims.Foreign userId token) {first : World} {past : List HttpRecord}
    (h : svc.smooth.Serial (http.createRoutes svc) first past w) (hmeans : WithinMeans held past)
    (hstranded : Stranded userId first) :
    Stranded userId w ∧ ∀ call ∈ past, ∀ reply, call.result = .ok reply → ∀ token ∈ reply.handsOut,
      svc.prims.Foreign userId token := by
  induction h with
  | start => exact ⟨hstranded, fun call hcall => absurd hcall List.not_mem_nil⟩
  | @call past s u request tr res hpast hexec ih =>
    obtain ⟨hbefore, hhanded⟩ := ih hmeans.2
    have hpresents (token : String) (htoken : token ∈ request.presents) : svc.prims.Foreign userId token := by
      rcases hmeans.1 token htoken with hown | ⟨earlier, hearlier, reply, hreply, hout⟩
      · exact hheld token hown
      · exact hhanded earlier hearlier reply hreply token hout
    obtain ⟨hafter, hreplies⟩ := stranded_exec hjwt hthree hrequired hpresents hexec hbefore
    refine ⟨hafter, fun call hcall => ?_⟩
    rcases List.mem_cons.mp hcall with rfl | holder
    · exact hreplies
    · exact hhanded call holder

/-- A stranded user does not get verified and logged in by requests of their own. -/
theorem Stranded.not_getsIn (hjwt : svc.prims.JwtRoundTrip) (hthree : svc.prims.ThreeParts)
    (hrequired : svc.config.requireEmailVerification = true) {held : String → Prop} {user : User}
    {password : String} (hheld : ∀ token, held token → svc.prims.Foreign user.id token)
    (hstranded : Stranded user.id w) :
    ¬ http.GetsIn svc w held user password := by
  rintro ⟨call, older, w', hserial, hmeans, -, row, hrow, hid, hverified⟩
  obtain ⟨hafter, -⟩ := stranded_serial hjwt hthree hrequired hheld hserial hmeans hstranded
  rw [hafter.unverified row hrow hid] at hverified
  cases hverified

/-- Where no call that runs helps a stranded user, the user is still stranded when they have gone on. -/
theorem Stranded.goesOn {d d' : HttpSystem} (hstranded : Stranded userId d.shared)
    (hspares : ∀ i, d.Running i → (d.calls i).Fulfils (svc.sparing userId) fun _ => True) (h : svc.GoesOn d d') :
    Stranded userId d'.shared := by
  have hboth : Stranded userId d'.shared ∧
      ∀ i, d.Running i → (d'.calls i).Fulfils (svc.sparing userId) fun _ => True := by
    induction h with
    | refl => exact ⟨hstranded, hspares⟩
    | @tail b c _ hstep ih =>
      obtain ⟨hbefore, hrest⟩ := ih
      obtain ⟨hmove, hmine⟩ := hstep
      cases hmove with
      | @call i a next r s hcall hperform =>
        have hrunning : d.Running i := hmine _ rfl
        have hfulfils := hrest i hrunning
        rw [hcall] at hfulfils
        refine ⟨hbefore.perform hfulfils.1 hperform.1, fun j hj => ?_⟩
        by_cases hsame : j = i
        · subst hsame
          simp only [Config.advance, Function.update_self]
          exact hfulfils.2 r (hbefore.told hperform.1)
        · simp only [Config.advance, Function.update_of_ne hsame]
          exact hrest j hj
      | idle hidle =>
        obtain ⟨elapsed, rfl⟩ := hidle
        exact ⟨hbefore.later (Nat.le_add_right _ _), hrest⟩
  exact hboth.1

/-- In every state that requests can reach, a stranded user whom no call that runs helps stays out: neither
the tokens mailed to them nor any request helps. -/
theorem stranded_for_good (hjwt : svc.prims.JwtRoundTrip) (hthree : svc.prims.ThreeParts)
    (hrequired : svc.config.requireEmailVerification = true) {req : ℕ → HttpRequest} {d : HttpSystem}
    (hrun : svc.machine.Reaches (fun _ _ => True) (http.start svc w req) d) {user : User}
    (hstranded : Stranded user.id d.shared)
    (hspares : ∀ i, d.Running i → (d.calls i).Fulfils (svc.sparing user.id) fun _ => True) (password : String) :
    ¬ http.Escapes svc req d user password := by
  rintro ⟨d', hgoesOn, hgetsIn⟩
  refine (hstranded.goesOn hspares hgoesOn).not_getsIn hjwt hthree hrequired (fun token hmailed => ?_) hgetsIn
  obtain ⟨bytes, hdrawn⟩ := hmailed.drawn (hrun.trans hgoesOn.reaches)
  rw [hdrawn]
  exact foreign_of_no_dot hthree (dot_not_mem_base64UrlEncode _)

end NoWayOut

section Runs

open Reference Serial

/-- The mailed token has expired. -/
def expired : HttpSystem := verifyingService.executor.play [.env (.tick 86400000000)] registered

/-- A user registers and does not use the token in time. The account is active, the password is known and the table
of refresh tokens is empty, but no requests verify the email. -/
theorem registration_can_strand :
    verifyingService.config.requireEmailVerification = true ∧ verifyingService.config.PositiveLifetimes ∧
      verifyingService.machine.Reaches (fun _ _ => True)
        (verifyingHttp.start verifyingService world registrations) expired ∧
      verifyingService.AdmitsLogin registeredUser expired.shared.clock ∧
      verifyingService.HasRoom expired.shared.db ∧
      registeredUser ∈ expired.shared.db.users ∧
      registeredUser.status = .active ∧ verifyingService.MadeFrom "Abcdefg1" registeredUser.passwordHash ∧
      ¬ verifyingHttp.Escapes verifyingService registrations expired registeredUser "Abcdefg1" := by
  have hrun : verifyingService.machine.Reaches (fun _ _ => True)
      (verifyingHttp.start verifyingService world registrations) expired :=
    (verifyingService.executor.play_reaches _ _).trans (verifyingService.executor.play_reaches _ _)
  have hfacts : expired.shared.db.refreshTokens.rows = [] ∧ registeredUser ∈ expired.shared.db.users.rows ∧
      (∀ user ∈ expired.shared.db.users.rows, user.id = registeredUser.id → user.isEmailVerified = false) ∧
      (∀ t ∈ (expired.shared.db.oneTimeTokens .emailVerification).rows, t.userId = registeredUser.id →
        t.usedAt.isSome = true ∨ t.expiresAt ≤ expired.shared.now) ∧
      ∀ e ∈ expired.log, (expired.calls e.caller).Ended := by decide +kernel
  obtain ⟨hroom, huser, hunverified, hdead, hended⟩ := hfacts
  have hlifetimes : verifyingService.config.PositiveLifetimes := ⟨by decide, by decide, by decide, by decide⟩
  have hquiet := Config.not_running_of_ended hended
  have hlogin : verifyingService.AdmitsLogin registeredUser expired.shared.clock :=
    ⟨expired.shared.clock, Nat.le_refl _, by decide +kernel, by decide +kernel⟩
  refine ⟨rfl, hlifetimes, hrun, hlogin, hasRoom_of_empty _ hroom, huser, rfl, ⟨by decide, "salt", rfl⟩, ?_⟩
  exact stranded_for_good signing_jwtRoundTrip signing_threeParts rfl hrun ⟨⟨registeredUser, huser, rfl⟩,
    hunverified, hdead⟩
    (fun i hrunning => absurd hrunning (hquiet i)) "Abcdefg1"

end Runs

end RustPressAuth
