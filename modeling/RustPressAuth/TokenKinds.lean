import RustPressAuth.TokenLifetime
import RustPressAuth.VerificationPaths

/-!
# The two kinds of tokens

Access tokens and refresh tokens are signed with one key for one issuer, and neither names
its kind. They are kept apart by their claims, by the audience that only access tokens
name, and by the number of their parts: a refresh token has four, one more than the token
library reads.
-/

namespace RustPressAuth

open Atomic Program Machine

/-- A string that `generateAccessToken` returned. -/
def AuthService.IssuesAccess (svc : AuthService) (token : String) : Prop :=
  ∃ (faults : Bool) (user : User) (w w' : World) (tr : Trace),
    (svc.alone faults).Exec (svc.generateAccessToken user) w tr (.ok token) w'

/-- A string that `generateRefreshToken` returned. -/
def AuthService.IssuesRefresh (svc : AuthService) (token : String) : Prop :=
  ∃ (faults : Bool) (userId : Uuid) (ipAddress userAgent : Option String) (w w' : World) (tr : Trace),
    (svc.alone faults).Exec (svc.generateRefreshToken userId ipAddress userAgent) w tr (.ok token) w'

section Issued

variable {svc : AuthService} {token : String}

/-- An access token that was issued is a signed one. -/
theorem AuthService.IssuesAccess.signed (h : svc.IssuesAccess token) :
    ∃ claims : AccessTokenClaims, token = svc.prims.jwtEncode svc.config.jwtSecret claims.toPayload := by
  obtain ⟨faults, user, w, w', tr, hexec⟩ := h
  obtain ⟨issued, jti, -, htoken⟩ := generateAccessToken_ending hexec
  exact ⟨svc.accessClaims user issued jti, htoken⟩

/-- A refresh token that was issued is a signed one with random digits behind it. -/
theorem AuthService.IssuesRefresh.combined (h : svc.IssuesRefresh token) :
    ∃ (claims : RefreshTokenClaims) (bytes : List UInt8),
      token = svc.prims.jwtEncode svc.config.jwtSecret claims.toPayload ++ "." ++ base64UrlEncode bytes := by
  obtain ⟨faults, userId, ipAddress, userAgent, w, w', tr, hexec⟩ := h
  rw [← bind_eq_self (svc.generateRefreshToken userId ipAddress userAgent)] at hexec
  rcases alone_storesRefresh hexec with ⟨⟨fault, hres⟩, -⟩ | ⟨-, ⟨e, hres⟩, -⟩ |
    ⟨t, db, refreshToken, front, tr', -, hstores, -, -, hreturn⟩
  · cases hres
  · cases hres
  · obtain ⟨tokenId, issuedAt, now, bytes, ip, ua, htoken, -⟩ := hstores
    obtain rfl := Except.ok.inj (alone_ok hreturn).1
    exact ⟨_, _, htoken⟩

/-- The token library reads a signed token, so it has three parts. -/
theorem count_dot_encode (hjwt : svc.prims.JwtRoundTrip) (hthree : svc.prims.ThreeParts) (payload : Payload) :
    (svc.prims.jwtEncode svc.config.jwtSecret payload).toList.count '.' = 2 :=
  hthree _ (by simp [hjwt.parts_encode])

end Issued

/-- A string that carries no access-token claims is refused by the service and by both paths of the routes. -/
structure AuthService.NoAccess (svc : AuthService) (token : String) : Prop where
  service : ∀ now, svc.validateAccessToken now token = .error .invalidToken
  middleware : ∀ env now parts, parts.presentedToken = some token → ∀ α (next : RequestParts → α),
    ∃ rejection, requireAuth svc.prims env now parts next = .error rejection
  extractor : ∀ env now parts, parts.presentedToken = some token → parts.claims = none →
    ∃ rejection, AuthUser.fromRequestParts svc.prims env now parts = .error rejection

/-- A token that carries no claims gives no access. -/
theorem noAccess_of_carried {svc : AuthService} {token : String} (h : svc.prims.carried token = none) :
    svc.NoAccess token := by
  have hundecoded (secret issuer audience : String) (now : Instant) :
      svc.prims.decodeAccess secret (.expecting issuer audience) now token = none := by
    apply Option.eq_none_iff_forall_ne_some.mpr
    intro claims hdecoded
    rw [(Primitives.decodeAccess_eq_some.mp hdecoded).1] at h
    cases h
  have hmiddleware (env : Environment) (now : Instant) (parts : RequestParts)
    (hpresented : parts.presentedToken = some token)
      (α : Type) (next : RequestParts → α) : ∃ rejection, requireAuth svc.prims env now parts next =
      .error rejection := by
    cases hout : requireAuth svc.prims env now parts next with
    | error rejection => exact ⟨rejection, rfl⟩
    | ok out =>
      obtain ⟨secret, token', claims, -, hpresented', hdecoded, -⟩ := requireAuth_eq_ok.mp hout
      obtain rfl := Option.some.inj (hpresented.symm.trans hpresented')
      rw [getValidation, hundecoded] at hdecoded
      cases hdecoded
  refine ⟨fun now => ?_, hmiddleware, fun env now parts hpresented hfresh => ?_⟩
  · rw [AuthService.validateAccessToken, hundecoded]
  · obtain ⟨rejection, hrejected⟩ :=
      hmiddleware env now parts hpresented _ (AuthUser.fromRequestParts svc.prims env now)
    refine ⟨rejection, ?_⟩
    rw [fromRequestParts_eq hfresh, ← behindMiddleware_eq, AuthUser.behindMiddleware, hrejected]

/-- A refresh token and its JWT part carry no access-token claims. -/
theorem noAccess_of_issuesRefresh {svc : AuthService} (hjwt : svc.prims.JwtRoundTrip)
    (hthree : svc.prims.ThreeParts) {refresh : String} (h : svc.IssuesRefresh refresh) :
    svc.NoAccess refresh ∧ ∃ tokenString jwt, rsplitDot refresh = [tokenString, jwt] ∧ svc.NoAccess jwt := by
  obtain ⟨claims, bytes, rfl⟩ := h.combined
  have hcount := count_dot_encode hjwt hthree claims.toPayload
  refine ⟨noAccess_of_carried ?_, _, _, rsplitDot_append _ _ (dot_not_mem_base64UrlEncode bytes),
    noAccess_of_carried ?_⟩
  · have hunread : svc.prims.jwtParts (svc.prims.jwtEncode svc.config.jwtSecret claims.toPayload ++ "." ++
        base64UrlEncode bytes) = none := by
      apply hthree.unread
      rw [count_dot_join, hcount]
      omega
    simp [Primitives.carried, hunread]
  · simp [Primitives.carried, hjwt.parts_encode, AccessTokenClaims.ofPayload, RefreshTokenClaims.toPayload]

/-- The call is refused for its token: no statement is executed, so nothing is changed. -/
def RefusesToken {β : Type} (svc : AuthService) (p : AuthM β) : Prop :=
  ∀ faults w tr res w', (svc.alone faults).Exec p w tr res w' →
    res = .error (.err .invalidToken) ∧ w'.db = w.db ∧ ∀ x ∈ tr, ∀ s, x.1 ≠ .sql s

/-- Where the JWT part is never accepted, both operations refuse the token. -/
theorem refusesToken_of_undecoded {svc : AuthService} {token : String}
    (h : ∀ tokenString jwt, rsplitDot token = [tokenString, jwt] → ∀ b now, svc.decodeRefresh b now jwt = none) :
    (∀ ipAddress userAgent, RefusesToken svc (svc.refreshTokens token ipAddress userAgent)) ∧
      RefusesToken svc (svc.logout token) := by
  have hrefused {β : Type} (b : Bool) (f : String → RefreshTokenClaims → AuthM β) :
      RefusesToken svc (AuthService.splitToken token >>= fun cut => utcNow >>= fun now =>
        okOr (svc.decodeRefresh b now cut.2) .invalidToken >>= f cut.1) := by
    intro faults w tr res w' hexec
    rcases alone_splitToken hexec with ⟨-, hres, hdb, rfl⟩ | ⟨tokenString, jwt, hcut, hnow⟩
    · exact ⟨hres, hdb, by simp⟩
    · obtain ⟨t, tr', -, rfl, hdecode⟩ := alone_now hnow
      rw [h tokenString jwt hcut b t] at hdecode
      obtain ⟨hres, hdb, rfl⟩ := alone_fail hdecode
      exact ⟨hres, hdb, by simp⟩
  constructor
  · intro ipAddress userAgent
    exact hrefused true fun tokenString claims => svc.redeem tokenString claims ipAddress userAgent
  · exact hrefused false fun _ claims => query (.revokeRefreshToken claims.tid) >>= fun _ => pure ()

/-- An access token, alone or with anything after a further dot, is refused by both operations. -/
theorem refusesToken_of_issuesAccess {svc : AuthService} (hjwt : svc.prims.JwtRoundTrip)
    (hthree : svc.prims.ThreeParts) {access : String} (h : svc.IssuesAccess access) {token : String}
    (htoken : token = access ∨ ∃ r : String, '.' ∉ r.toList ∧ token = access ++ "." ++ r) :
    (∀ ipAddress userAgent, RefusesToken svc (svc.refreshTokens token ipAddress userAgent)) ∧
      RefusesToken svc (svc.logout token) := by
  obtain ⟨claims, rfl⟩ := h.signed
  apply refusesToken_of_undecoded
  intro tokenString jwt hcut b now
  rcases htoken with rfl | ⟨r, hr, rfl⟩
  · have hcount := count_dot_encode hjwt hthree claims.toPayload
    rw [eq_of_rsplitDot hcut, count_dot_join] at hcount
    have hunread : svc.prims.jwtParts jwt = none := hthree.unread (by omega)
    simp [AuthService.decodeRefresh, Primitives.jwtDecode, hunread]
  · rw [rsplitDot_append _ _ hr] at hcut
    cases hcut
    have haudience : (svc.refreshValidation b).audienceOk claims.toPayload = false := rfl
    simp [AuthService.decodeRefresh, Primitives.jwtDecode, hjwt.parts_encode, haudience]

/-- The two kinds of tokens are kept apart: no refresh token and no JWT part of one is accepted as an access token,
and no access token, alone or with anything after a further dot, is accepted as a refresh token. -/
theorem token_kinds_separate (svc : AuthService) (hjwt : svc.prims.JwtRoundTrip) (hthree : svc.prims.ThreeParts) :
    (∀ refresh, svc.IssuesRefresh refresh → svc.NoAccess refresh ∧
      ∃ tokenString jwt, rsplitDot refresh = [tokenString, jwt] ∧ svc.NoAccess jwt) ∧
    ∀ access, svc.IssuesAccess access → ∀ token,
      (token = access ∨ ∃ r : String, '.' ∉ r.toList ∧ token = access ++ "." ++ r) →
      (∀ ipAddress userAgent, RefusesToken svc (svc.refreshTokens token ipAddress userAgent)) ∧
        RefusesToken svc (svc.logout token) :=
  ⟨fun _ h => noAccess_of_issuesRefresh hjwt hthree h,
    fun _ h _ htoken => refusesToken_of_issuesAccess hjwt hthree h htoken⟩

section Runs

open Reference

/-- The world after a registration. -/
def registeredWorld : World :=
  (signingService.executor.play (moves 0 5 1)
    (signingService.start world fun _ => .register ⟨"a@b.c", "Abcdefg1", "Abcdefg1", "A"⟩)).shared

/-- A service issues tokens of both kinds, and each is refused where the other is expected. -/
theorem token_kinds_separate_issued : ∃ refresh access, signingService.IssuesRefresh refresh ∧
    signingService.IssuesAccess access ∧ signingService.NoAccess refresh ∧
      RefusesToken signingService (signingService.logout (access ++ "." ++ "f")) := by
  have hpasses : ((signingService.executor.solo (AuthService.admits false) (List.replicate 5 (choice 2))
      (signingService.generateRefreshToken 1 none none) registeredWorld).any fun out => out.2.1.toBool) = true := by
    decide +kernel
  obtain ⟨tr, res, w, hrefresh, hsome⟩ :=
    Executor.exists_exec signingService.alone_perform (fun res _ => res.toBool) hpasses
  cases res with
  | error e => cases hsome
  | ok refresh =>
    obtain ⟨tr', haccess⟩ := generateAccessToken_exec signingService someUser world 0 (by decide)
    have hissued : signingService.IssuesRefresh refresh := ⟨false, 1, none, none, _, _, _, hrefresh⟩
    have hissued' := (⟨false, someUser, world, world, tr', haccess⟩ : signingService.IssuesAccess _)
    obtain ⟨hnoAccess, hnoRefresh⟩ := token_kinds_separate signingService signing_jwtRoundTrip signing_threeParts
    have hrefused := hnoRefresh _ hissued' _ (Or.inr ⟨"f", by decide, rfl⟩)
    exact ⟨refresh, _, hissued, hissued', (hnoAccess refresh hissued).1, hrefused.2⟩

end Runs

end RustPressAuth
