import RustPressAuth.Handlers
import RustPressAuth.IssuerVerifier

/-!
# The three verification paths

An access token is checked in three places that are written out separately: in the
middleware, in the extractor of a handler that stands behind no middleware, and in the
service. With a configuration that was read from the environment of the process they
accept the same headers and read the same user.
-/

namespace RustPressAuth

/-- The user a request is served for behind the middleware: the extractor reads the claims the middleware stored. -/
def AuthUser.behindMiddleware (prims : Primitives) (env : Environment) (now : Instant) (parts : RequestParts) :
    Except Rejection AuthUser :=
  match requireAuth prims env now parts (fromRequestParts prims env now) with
  | .ok user => user
  | .error rejection => .error rejection

/-- A mapped result is a value exactly if it is the image of one. -/
theorem except_map_eq_ok {ε α β : Type} {f : α → β} {r : Except ε α} {b : β} :
    r.map f = .ok b ↔ ∃ a, r = .ok a ∧ f a = b := by
  cases r with
  | error e => simp [Except.map]
  | ok a => simp [Except.map]

section Paths

variable {prims : Primitives} {env : Environment} {now : Instant} {parts : RequestParts}

/-- The extractor alone does what the middleware does, and reads the user off the claims. -/
theorem fromRequestParts_eq (hfresh : parts.claims = none) :
    AuthUser.fromRequestParts prims env now parts =
      (validateToken prims env now parts.authorization).map AuthUser.fromClaims := by
  rw [AuthUser.fromRequestParts, hfresh]
  cases parts.authorization with
  | none => rfl
  | some header =>
    cases hbearer : bearer.isPrefixOf header.toList with
    | false => simp [validateToken, hbearer, Except.map]
    | true =>
      cases hsecret : env "JWT_SECRET" with
      | none => simp [validateToken, hbearer, getDecodingKey, hsecret, Except.map, bind, Except.bind]
      | some secret =>
        simp only [validateToken, hbearer, getDecodingKey, hsecret, getValidation, Bool.not_true,
          Bool.false_eq_true, if_false, bind, Except.bind]
        cases prims.decodeAccess secret
            (.expecting ((env "JWT_ISSUER").getD "rustpress") ((env "JWT_AUDIENCE").getD "rustpress-api")) now
            (trimBearer header) with
        | none => rfl
        | some claims => rfl

/-- Behind the middleware the extractor reads the user off the claims that were stored. -/
theorem behindMiddleware_eq :
    AuthUser.behindMiddleware prims env now parts =
      (validateToken prims env now parts.authorization).map AuthUser.fromClaims := by
  rw [AuthUser.behindMiddleware, requireAuth]
  cases validateToken prims env now parts.authorization with
  | error rejection => rfl
  | ok claims => rfl

/-- The optional middleware stores the claims of an accepted header, and nothing otherwise. -/
theorem optionalAuth_claims (hfresh : parts.claims = none) :
    optionalAuth prims env now parts RequestParts.claims =
      (validateToken prims env now parts.authorization).toOption := by
  rw [optionalAuth]
  cases parts.authorization with
  | none => exact hfresh
  | some header =>
    simp only
    cases validateToken prims env now (some header) with
    | error rejection => exact hfresh
    | ok claims => rfl

/-- A configuration that was read from the environment has the values the middleware reads there. -/
theorem fromEnv_values {config : AuthConfig} (h : AuthConfig.fromEnv env = some config) :
    getDecodingKey env = .ok config.jwtSecret ∧
    getValidation env = .expecting config.jwtIssuer config.jwtAudience := by
  obtain ⟨secret, hsecret, rfl⟩ := Option.map_eq_some_iff.mp h
  exact ⟨getDecodingKey_eq_ok.mpr hsecret, rfl⟩

/-- A header that announces a token is accepted exactly when the service accepts the token. -/
theorem validateToken_bearer {config : AuthConfig} (h : AuthConfig.fromEnv env = some config) {header : String}
    (hbearer : bearer.isPrefixOf header.toList = true) {claims : AccessTokenClaims} :
    validateToken prims env now (some header) = .ok claims ↔
      AuthService.validateAccessToken ⟨config, prims⟩ now (trimBearer header) = .ok claims := by
  obtain ⟨hkey, hvalidation⟩ := fromEnv_values h
  rw [validateToken_eq_ok, validateAccessToken_eq_ok, hvalidation]
  constructor
  · rintro ⟨header', secret, hheader, -, hsecret, hdecoded⟩
    obtain rfl := Option.some.inj hheader
    obtain rfl : config.jwtSecret = secret := Except.ok.inj (hkey.symm.trans (getDecodingKey_eq_ok.mpr hsecret))
    exact hdecoded
  · intro hdecoded
    exact ⟨header, config.jwtSecret, rfl, hbearer, getDecodingKey_eq_ok.mp hkey, hdecoded⟩

end Paths

/-- A character that is not in the pattern is not cut off. -/
theorem mem_trimCopies {pattern : List Char} {c : Char} {n : ℕ} {text : List Char} (hc : c ∈ text)
    (hother : c ∉ pattern) : c ∈ trimCopies pattern n text := by
  induction n generalizing text with
  | zero => exact hc
  | succ n ih =>
    rw [trimCopies]
    split
    · rename_i hprefix
      obtain ⟨rest, hrest⟩ := List.isPrefixOf_iff_prefix.mp hprefix
      apply ih
      rw [← hrest] at hc ⊢
      rw [List.drop_left]
      exact (List.mem_append.mp hc).resolve_left hother
    · exact hc

/-- What a header that is not text announces is refused: it has a character no token has. -/
theorem validateAccessToken_of_not_text {svc : AuthService} {now : Instant} {header : String}
    (hvisible : svc.prims.SignedIsVisible) (htext : headerText header = none) :
    svc.validateAccessToken now (trimBearer header) = .error .invalidToken := by
  have hbad : ∃ c ∈ header.toList, ¬ (33 ≤ c.toNat ∧ c.toNat < 127) ∧ c ∉ bearer := by
    by_contra hnone
    have hall : header.toList.all (fun c => (32 ≤ c.toNat && c.toNat < 127) || c == '\t') = true := by
      apply List.all_eq_true.mpr
      intro c hc
      by_cases hvis : 33 ≤ c.toNat ∧ c.toNat < 127
      · have hlow : 32 ≤ c.toNat := by omega
        simp [hlow, hvis.2]
      · by_cases hbearer : c ∈ bearer
        · have hvisible : bearer.all (fun c => (32 ≤ c.toNat && c.toNat < 127) || c == '\t') = true := by decide
          exact List.all_eq_true.mp hvisible c hbearer
        · exact absurd ⟨c, hc, hvis, hbearer⟩ hnone
    simp [headerText, hall] at htext
  obtain ⟨c, hc, hinvisible, hother⟩ := hbad
  have hmem : c ∈ (trimBearer header).toList := by
    rw [trimBearer, String.toList_ofList]
    exact mem_trimCopies hc hother
  cases hvalidated : svc.validateAccessToken now (trimBearer header) with
  | ok claims =>
    obtain ⟨hcarried, hverify, -⟩ := Primitives.decodeAccess_eq_some.mp (validateAccessToken_eq_ok.mp hvalidated)
    have hparts : svc.prims.jwtParts (trimBearer header) ≠ none := by
      intro hnone
      simp [Primitives.carried, hnone] at hcarried
    exact absurd (hvisible _ _ hparts hverify c hmem) hinvisible
  | error e =>
    rw [AuthService.validateAccessToken] at hvalidated
    split at hvalidated
    · cases hvalidated
    · exact hvalidated.symm

/-- The paths agree on a request: the extractor alone and behind the middleware end alike, rejections included;
the service accepts the token of a header exactly when they accept the header, for the same user; and the
optional middleware stores claims exactly when they accept. -/
structure PathsAgree (prims : Primitives) (env : Environment) (config : AuthConfig) (now : Instant)
    (parts : RequestParts) : Prop where
  alone : AuthUser.fromRequestParts prims env now parts = AuthUser.behindMiddleware prims env now parts
  service : ∀ header, parts.headers.lookup "authorization" = some header → bearer.isPrefixOf header.toList = true →
    ∀ user, AuthUser.fromRequestParts prims env now parts = .ok user ↔
      ∃ claims, AuthService.validateAccessToken ⟨config, prims⟩ now (trimBearer header) = .ok claims ∧
        AuthUser.fromClaims claims = user
  optional : ∀ user, AuthUser.fromRequestParts prims env now parts = .ok user ↔
    ∃ claims, optionalAuth prims env now parts RequestParts.claims = some claims ∧ AuthUser.fromClaims claims = user

/-- With the configuration read from the environment the three paths agree on every request. -/
theorem verification_paths_agree (prims : Primitives) (env : Environment) (config : AuthConfig) (now : Instant)
    (parts : RequestParts) (hvisible : prims.SignedIsVisible) (henv : AuthConfig.fromEnv env = some config)
    (hfresh : parts.claims = none) : PathsAgree prims env config now parts := by
  constructor
  · rw [fromRequestParts_eq hfresh, behindMiddleware_eq]
  · intro header hheader hbearer user
    rw [fromRequestParts_eq hfresh, except_map_eq_ok, RequestParts.authorization, hheader, Option.bind_some]
    cases htext : headerText header with
    | some text =>
      obtain rfl : header = text := Option.some.inj (Option.ite_none_right_eq_some.mp htext).2
      simp only [validateToken_bearer henv hbearer]
    | none =>
      rw [validateAccessToken_of_not_text hvisible htext]
      simp [validateToken]
  · intro user
    rw [fromRequestParts_eq hfresh, except_map_eq_ok, optionalAuth_claims hfresh]
    apply exists_congr
    intro claims
    cases validateToken prims env now parts.authorization with
    | error rejection => simp [Except.toOption]
    | ok claims' => simp [Except.toOption]

section Runs

open Reference

/-- Where only the secret is set, the paths agree on a token of the default issuer. -/
theorem verification_paths_agree_default : PathsAgree signing secretOnly config 0
    (.announcing (signing.jwtEncode config.jwtSecret (signingService.accessClaims someUser 0 0).toPayload)) :=
  verification_paths_agree signing secretOnly config 0 _ signing_signedIsVisible rfl rfl

end Runs

end RustPressAuth
