import RustPressAuth.Middleware
import RustPressAuth.Reference
import RustPressAuth.Solo

/-!
# The issuer of access tokens and their verifier at the routes

A service signs and checks with the values of its configuration; the middleware of its
routes checks with the values of the environment. The two agree exactly when the
environment names the issuer and the audience of the configuration and sets a secret
under which the same access tokens verify, or when there are no tokens to agree on. A
configuration read from an environment agrees with it.
-/

namespace RustPressAuth

open Atomic Program Machine

/-- An HS256 token is a message with its signature, and is checked by signing the message again. -/
structure Primitives.SignsAgain (prims : Primitives) (message : String → String)
    (sign : String → String → String) : Prop where
  verify_iff : ∀ secret token, prims.jwtVerify secret token = true ↔ token = sign secret (message token)
  message_sign : ∀ secret text, message (sign secret text) = text
  parts_sign : ∀ secret token, prims.jwtParts (sign secret (message token)) = prims.jwtParts token

/-- A signed token is visible ASCII without blanks. -/
def Primitives.SignedIsVisible (prims : Primitives) : Prop :=
  ∀ secret token, prims.jwtParts token ≠ none → prims.jwtVerify secret token = true →
    ∀ c ∈ token.toList, 33 ≤ c.toNat ∧ c.toNat < 127

/-- A text that does not begin with the pattern is not trimmed. -/
theorem trimCopies_of_not_prefix {pattern text : List Char} (h : pattern.isPrefixOf text = false) (n : ℕ) :
    trimCopies pattern n text = text := by
  cases n with
  | zero => rfl
  | succ n => rw [trimCopies, h, if_neg Bool.false_ne_true]

/-- A text without blanks is announced once and read back. -/
theorem trimBearer_append {token : String} (hblank : ' ' ∉ token.toList) :
    trimBearer ("Bearer " ++ token) = token := by
  have hchars : ("Bearer " ++ token).toList = bearer ++ token.toList := String.toList_append
  have hlength : ("Bearer " ++ token).length = (token.length + 6) + 1 := by
    rw [String.length_append]
    exact Nat.add_comm _ _
  have hprefix : bearer.isPrefixOf (bearer ++ token.toList) = true :=
    List.isPrefixOf_iff_prefix.mpr (List.prefix_append _ _)
  have hrest : bearer.isPrefixOf token.toList = false := by
    rw [← Bool.not_eq_true, List.isPrefixOf_iff_prefix]
    intro hagain
    exact hblank (hagain.subset (by decide))
  rw [trimBearer, hchars, hlength, trimCopies, hprefix, if_pos rfl, List.drop_left, trimCopies_of_not_prefix hrest,
    String.ofList_toList]

/-- A request that announces a token in its header presents it. -/
theorem presentedToken_of_bearer {parts : RequestParts} {token : String}
    (hvisible : ∀ c ∈ token.toList, 33 ≤ c.toNat ∧ c.toNat < 127)
    (hheader : parts.headers.lookup "authorization" = some ("Bearer " ++ token)) :
    parts.presentedToken = some token := by
  have hchars : ("Bearer " ++ token).toList = bearer ++ token.toList := String.toList_append
  have hblank : ' ' ∉ token.toList := fun hmem => absurd (hvisible ' ' hmem).1 (by decide)
  have htext : headerText ("Bearer " ++ token) = some ("Bearer " ++ token) := by
    rw [headerText, if_pos]
    rw [hchars, List.all_append, Bool.and_eq_true]
    refine ⟨by decide, List.all_eq_true.mpr fun c hc => ?_⟩
    have hc := hvisible c hc
    have hlow : 32 ≤ c.toNat := by omega
    simp [hlow, hc.2]
  have hauthorization : parts.authorization = some ("Bearer " ++ token) := by
    rw [RequestParts.authorization, hheader, Option.bind_some, htext]
  have hannounced : bearer.isPrefixOf ("Bearer " ++ token).toList = true := by
    rw [hchars, List.isPrefixOf_iff_prefix]
    exact List.prefix_append _ _
  rw [RequestParts.presentedToken, hauthorization, Option.filter_some, if_pos hannounced, Option.map_some,
    trimBearer_append hblank]

/-- Issuer and verifier agree: the routes accept every access token of the service whenever the service accepts
it, with the same claims, and accept no token that the service would not accept. -/
structure AuthService.AgreesWithRoutes (svc : AuthService) (env : Environment) : Prop where
  issued : ∀ {user : User} {w w' : World} {tr : Trace} {token : String},
    svc.smooth.Exec (svc.generateAccessToken user) w tr (.ok token) w' →
    ∀ (now : Instant) (claims : AccessTokenClaims), svc.validateAccessToken now token = .ok claims →
    ∀ parts : RequestParts, parts.headers.lookup "authorization" = some ("Bearer " ++ token) →
      requireAuth svc.prims env now parts id = .ok { parts with claims := some claims }
  accepted : ∀ (parts out : RequestParts) (now : Instant), requireAuth svc.prims env now parts id = .ok out →
    ∃ token claims, parts.presentedToken = some token ∧ out = { parts with claims := some claims } ∧
      svc.validateAccessToken now token = .ok claims

/-- Under the two secrets the same access tokens of an issuer, for an audience, verify. -/
def Primitives.VerifyAlike (prims : Primitives) (issuer audience secret secret' : String) : Prop :=
  ∀ token claims now, prims.carried token = some claims → claims.AcceptedAt issuer audience now →
    prims.jwtVerify secret token = prims.jwtVerify secret' token

/-- The environment has the values of the configuration, as far as tokens can tell. -/
structure Environment.Serves (env : Environment) (svc : AuthService) : Prop where
  issuer : (env "JWT_ISSUER").getD "rustpress" = svc.config.jwtIssuer
  audience : (env "JWT_AUDIENCE").getD "rustpress-api" = svc.config.jwtAudience
  secret : ∃ secret, env "JWT_SECRET" = some secret ∧
    svc.prims.VerifyAlike svc.config.jwtIssuer svc.config.jwtAudience secret svc.config.jwtSecret

variable {svc : AuthService} {env : Environment} {message : String → String} {sign : String → String → String}

/-- No access token is ever issued: the expiry of each is out of the range of `chrono`. -/
def AuthService.IssuesNone (svc : AuthService) : Prop := ∀ t : ℕ, ¬ Expires t svc.config.accessTokenExpiration

/-- Access tokens are generated at every instant at which their expiry can be computed. -/
theorem generateAccessToken_exec (svc : AuthService) (user : User) (w : World) (jti : Uuid)
    (hexpires : Expires w.now svc.config.accessTokenExpiration) :
    ∃ tr, svc.smooth.Exec (svc.generateAccessToken user) w tr
      (.ok (svc.prims.jwtEncode svc.config.jwtSecret (svc.accessClaims user w.now jti).toPayload)) w := by
  have huuid : svc.smooth.perform .uuid w jti w := ⟨⟨{ uuid := jti }, rfl⟩, by simp [Action.failed]⟩
  have hsign : svc.smooth.perform (.sign (svc.accessClaims user w.now jti).toPayload) w
      (svc.prims.jwtEncode svc.config.jwtSecret (svc.accessClaims user w.now jti).toPayload) w :=
    ⟨⟨{}, rfl⟩, by simp [Action.failed]⟩
  exact ⟨_, alone_now_of (alone_expiresAfter_of hexpires (.act huuid (.act hsign .done)))⟩

/-- A call that was handed an access token computed its expiry. -/
theorem generateAccessToken_expires {svc : AuthService} {faults : Bool} {user : User} {w w' : World} {tr : Trace}
    {token : String} (h : (svc.alone faults).Exec (svc.generateAccessToken user) w tr (.ok token) w') :
    ∃ t : ℕ, Expires t svc.config.accessTokenExpiration := by
  obtain ⟨t, tr', -, -, hrest⟩ := alone_now h
  rcases alone_expiresAfter hrest with ⟨-, ⟨fault, hpanic⟩, -⟩ | ⟨hexpires, -⟩
  · cases hpanic
  · exact ⟨t, hexpires⟩

/-- Where the environment serves the service, the routes expect its issuer and its audience. -/
theorem getValidation_of_serves (h : env.Serves svc) :
    getValidation env = .expecting svc.config.jwtIssuer svc.config.jwtAudience := by
  rw [getValidation, h.issuer, h.audience]

/-- With the values of the configuration in the environment, issuer and verifier agree. -/
theorem agrees_of_serves (hvisible : svc.prims.SignedIsVisible) (h : env.Serves svc) :
    svc.AgreesWithRoutes env := by
  obtain ⟨secret, hset, halike⟩ := h.secret
  have hvalidation := getValidation_of_serves h
  constructor
  · intro user w w' tr token _ now claims hvalidated parts hheader
    have hdecoded := validateAccessToken_eq_ok.mp hvalidated
    obtain ⟨hcarried, hverify, haccepted⟩ := Primitives.decodeAccess_eq_some.mp hdecoded
    have hparts : svc.prims.jwtParts token ≠ none := by
      intro hnone
      simp [Primitives.carried, hnone] at hcarried
    have hpresented := presentedToken_of_bearer (hvisible _ _ hparts hverify) hheader
    have hverify' : svc.prims.jwtVerify secret token = true := by
      rw [halike token claims now hcarried haccepted, hverify]
    have hdecoded' := Primitives.decodeAccess_eq_some.mpr ⟨hcarried, hverify', haccepted⟩
    rw [← hvalidation] at hdecoded'
    exact requireAuth_eq_ok.mpr ⟨secret, token, claims, hset, hpresented, hdecoded', rfl⟩
  · intro parts out now hout
    obtain ⟨secret', token, claims, hset', hpresented, hdecoded, hnext⟩ := requireAuth_eq_ok.mp hout
    obtain rfl := Option.some.inj (hset.symm.trans hset')
    rw [hvalidation] at hdecoded
    obtain ⟨hcarried, hverify, haccepted⟩ := Primitives.decodeAccess_eq_some.mp hdecoded
    have hverify' : svc.prims.jwtVerify svc.config.jwtSecret token = true := by
      rw [← halike token claims now hcarried haccepted, hverify]
    have hvalidated := Primitives.decodeAccess_eq_some.mpr ⟨hcarried, hverify', haccepted⟩
    exact ⟨token, claims, hpresented, hnext.symm, validateAccessToken_eq_ok.mpr hvalidated⟩

/-- A token announced in the only header of a request. -/
def RequestParts.announcing (token : String) : RequestParts where
  headers := [("authorization", "Bearer " ++ token)]

/-- A user to issue a token for. -/
def someUser : User where
  id := 0
  email := ""
  passwordHash := ""
  name := ""
  role := .user
  status := .active
  avatar := none
  bio := none
  website := none
  emailVerifiedAt := none
  lastLoginAt := none
  lastLoginIp := none
  failedLoginAttempts := 0
  lockedUntil := none
  passwordChangedAt := 0
  createdAt := 0
  updatedAt := 0

/-- Without a secret in the environment, issuer and verifier agree where no token is ever issued. -/
theorem agrees_of_issuesNone (hunset : env "JWT_SECRET" = none) (h : svc.IssuesNone) :
    svc.AgreesWithRoutes env := by
  constructor
  · intro user w w' tr token hissued
    obtain ⟨t, hexpires⟩ := generateAccessToken_expires hissued
    exact absurd hexpires (h t)
  · intro parts out now hout
    obtain ⟨secret, _, _, hset, -⟩ := requireAuth_eq_ok.mp hout
    rw [hunset] at hset
    cases hset

/-- Claims with this issuer and this audience, accepted at the start of time. -/
def someClaims (issuer audience : String) : AccessTokenClaims where
  sub := 0
  email := ""
  name := ""
  role := ""
  iat := 0
  exp := 0
  iss := issuer
  aud := audience
  jti := 0

/-- A service accepts the access token it has just issued. -/
theorem validateAccessToken_new (hjwt : svc.prims.JwtRoundTrip) (hvalid : svc.config.validate = .ok ())
    (user : User) (jti : Uuid) (t : ℕ) : svc.validateAccessToken t
      (svc.prims.jwtEncode svc.config.jwtSecret (svc.accessClaims user t jti).toPayload) =
        .ok (svc.accessClaims user t jti) := by
  have hpos := AuthConfig.accessTokenExpiration_pos hvalid
  have hexp : (svc.accessClaims user t jti).exp = timestamp (t + seconds svc.config.accessTokenExpiration) := rfl
  have hnow : 0 ≤ timestamp t := Int.ediv_nonneg (Int.natCast_nonneg t) (by decide)
  have hlater : timestamp t ≤ timestamp (t + seconds svc.config.accessTokenExpiration) := by
    simp only [timestamp, seconds]
    omega
  apply validateAccessToken_eq_ok.mpr
  apply Primitives.decodeAccess_eq_some.mpr
  refine ⟨?_, hjwt.verify_encode _ _, rfl, rfl, by omega, by omega⟩
  simp [Primitives.carried, hjwt.parts_encode]

/-- Where issuer and verifier agree and a token is issued at some time, the environment sets a secret. -/
theorem secret_of_agrees (hjwt : svc.prims.JwtRoundTrip) (hvalid : svc.config.validate = .ok ())
    (h : svc.AgreesWithRoutes env) (hissues : ¬ svc.IssuesNone) : ∃ secret, env "JWT_SECRET" = some secret := by
  obtain ⟨t, hexpires⟩ := not_forall.mp hissues
  obtain ⟨tr, hissued⟩ := generateAccessToken_exec svc someUser ⟨Db.empty, t⟩ 0 (not_not.mp hexpires)
  have hlet := h.issued hissued t _ (validateAccessToken_new hjwt hvalid someUser 0 t)
    (.announcing (svc.prims.jwtEncode svc.config.jwtSecret (svc.accessClaims someUser t 0).toPayload)) rfl
  obtain ⟨secret, token, claims, hset, -⟩ := requireAuth_eq_ok.mp hlet
  exact ⟨secret, hset⟩

/-- Where issuer and verifier agree and the environment sets a secret, it names what the configuration has. -/
theorem serves_of_agrees (hjwt : svc.prims.JwtRoundTrip) (hsigns : svc.prims.SignsAgain message sign)
    (hvisible : svc.prims.SignedIsVisible) (h : svc.AgreesWithRoutes env) {secret : String}
    (hset : env "JWT_SECRET" = some secret) : env.Serves svc := by
  obtain ⟨hissuer, haudience⟩ : (env "JWT_ISSUER").getD "rustpress" = svc.config.jwtIssuer ∧
      (env "JWT_AUDIENCE").getD "rustpress-api" = svc.config.jwtAudience := by
    generalize hclaims : someClaims ((env "JWT_ISSUER").getD "rustpress")
      ((env "JWT_AUDIENCE").getD "rustpress-api") = claims
    have hexp : claims.exp = 0 := by rw [← hclaims, someClaims]
    have hcarried : svc.prims.carried (svc.prims.jwtEncode secret claims.toPayload) = some claims := by
      simp [Primitives.carried, hjwt.parts_encode]
    have hverify := hjwt.verify_encode secret claims.toPayload
    have hparts : svc.prims.jwtParts (svc.prims.jwtEncode secret claims.toPayload) ≠ none := by
      simp [hjwt.parts_encode]
    have hpresented := presentedToken_of_bearer (hvisible _ _ hparts hverify)
      (rfl : (RequestParts.announcing (svc.prims.jwtEncode secret claims.toPayload)).headers.lookup
        "authorization" = _)
    have hdecoded : svc.prims.decodeAccess secret (getValidation env) 0
      (svc.prims.jwtEncode secret claims.toPayload) =
        some claims := by
      refine Primitives.decodeAccess_eq_some.mpr ⟨hcarried, hverify, ?_, ?_, by omega, ?_⟩
      · rw [← hclaims, someClaims]
      · rw [← hclaims, someClaims]
      · rw [hexp]
        decide
    obtain ⟨token, claims', hpresented', hnext, hvalidated⟩ := h.accepted _ _ 0
      (requireAuth_eq_ok.mpr ⟨secret, _, claims, hset, hpresented, hdecoded, rfl⟩)
    obtain rfl : claims = claims' := Option.some.inj (congrArg RequestParts.claims hnext)
    obtain ⟨-, -, haccepted⟩ := Primitives.decodeAccess_eq_some.mp (validateAccessToken_eq_ok.mp hvalidated)
    subst hclaims
    exact ⟨haccepted.iss, haccepted.aud⟩
  refine ⟨hissuer, haudience, secret, hset, ?_⟩
  intro token' claims' now hcarried haccepted'
  have hcarried' : svc.prims.carried (sign secret (message token')) = some claims' := by
    rw [Primitives.carried, hsigns.parts_sign]
    exact hcarried
  have hverify : svc.prims.jwtVerify secret (sign secret (message token')) = true := by
    rw [hsigns.verify_iff, hsigns.message_sign]
  have hparts : svc.prims.jwtParts (sign secret (message token')) ≠ none := by
    intro hnone
    simp [Primitives.carried, hnone] at hcarried'
  have hpresented : (RequestParts.announcing (sign secret (message token'))).presentedToken =
      some (sign secret (message token')) := presentedToken_of_bearer (hvisible _ _ hparts hverify) rfl
  have hdecoded' : svc.prims.decodeAccess secret (getValidation env) now
    (sign secret (message token')) = some claims' := by
    rw [getValidation, hissuer, haudience]
    exact Primitives.decodeAccess_eq_some.mpr ⟨hcarried', hverify, haccepted'⟩
  obtain ⟨signed, claims'', hsigned, -, hvalidated⟩ := h.accepted _ _ now
    (requireAuth_eq_ok.mpr ⟨secret, _, claims', hset, hpresented, hdecoded', rfl⟩)
  obtain rfl := Option.some.inj (hpresented.symm.trans hsigned)
  obtain ⟨-, hverify', -⟩ := Primitives.decodeAccess_eq_some.mp (validateAccessToken_eq_ok.mp hvalidated)
  have hsame : sign secret (message token') = sign svc.config.jwtSecret (message token') := by
    have hagain := (hsigns.verify_iff _ _).mp hverify'
    rwa [hsigns.message_sign] at hagain
  rw [Bool.eq_iff_iff, hsigns.verify_iff, hsigns.verify_iff, hsame]

/-- A service whose configuration was read from the environment agrees with its routes. -/
theorem agrees_of_fromEnv (hvisible : svc.prims.SignedIsVisible) (h : AuthConfig.fromEnv env = some svc.config) :
    svc.AgreesWithRoutes env := by
  obtain ⟨secret, hset, hconfig⟩ := Option.map_eq_some_iff.mp h
  have hissuer := congrArg AuthConfig.jwtIssuer hconfig
  have haudience := congrArg AuthConfig.jwtAudience hconfig
  have hsecret : secret = svc.config.jwtSecret := congrArg AuthConfig.jwtSecret hconfig
  apply agrees_of_serves hvisible
  refine ⟨hissuer, haudience, secret, hset, ?_⟩
  intro token claims now _ _
  rw [hsecret]

/-- Issuer and verifier agree exactly when the environment names the issuer and the audience of the
configuration and sets a secret under which the same access tokens verify, or when it sets no secret and no
token is ever issued. -/
theorem issuer_verifier_agree (svc : AuthService) (env : Environment) (message : String → String)
    (sign : String → String → String) (hjwt : svc.prims.JwtRoundTrip) (hsigns : svc.prims.SignsAgain message sign)
    (hvisible : svc.prims.SignedIsVisible) (hvalid : svc.config.validate = .ok ()) :
    svc.AgreesWithRoutes env ↔ env.Serves svc ∨ (env "JWT_SECRET" = none ∧ svc.IssuesNone) := by
  constructor
  · intro hagrees
    cases hset : env "JWT_SECRET" with
    | some secret => exact Or.inl (serves_of_agrees hjwt hsigns hvisible hagrees hset)
    | none =>
      refine Or.inr ⟨rfl, ?_⟩
      by_contra hissues
      obtain ⟨secret, hset'⟩ := secret_of_agrees hjwt hvalid hagrees hissues
      rw [hset] at hset'
      cases hset'
  · rintro (hserves | ⟨hunset, hnone⟩)
    · exact agrees_of_serves hvisible hserves
    · exact agrees_of_issuesNone hunset hnone

section Runs

open Reference Serial

/-- The message of a token: what stands before its last dot. -/
def signedMessage (token : String) : String :=
  match rsplitDot token with
  | [_, text] => text
  | _ => ""

/-- A message with its signature. -/
def signMessage (secret text : String) : String :=
  text ++ "." ++ String.ofList (render (Codec.string.encode secret))

/-- The claims of a message, when it is written the way claims are. -/
def messageParts (text : String) : Option (Algorithm × Payload) := do
  let (claims, _) ← payload.decode (parse [] (text.toList.drop header.length))
  if text.toList = header ++ render (payload.encode claims) then some (.hs256, claims) else none

/-- The functions of the libraries, with tokens that are read strictly. -/
def signing : Primitives :=
  { Reference.primitives with
    jwtParts := fun token => messageParts (signedMessage token)
    jwtVerify := fun secret token => token = signMessage secret (signedMessage token) }

/-- The message of a signed text is the text. -/
theorem signedMessage_signMessage (secret text : String) : signedMessage (signMessage secret text) = text := by
  have hdot : '.' ∉ (String.ofList (render (Codec.string.encode secret))).toList := by
    rw [String.toList_ofList]
    exact dot_not_mem_render _
  rw [signedMessage, signMessage, rsplitDot_append _ _ hdot]

/-- A token is checked by signing its message again. -/
theorem signing_signsAgain : signing.SignsAgain signedMessage signMessage where
  verify_iff _ _ := decide_eq_true_iff
  message_sign := signedMessage_signMessage
  parts_sign secret _ := congrArg messageParts (signedMessage_signMessage secret _)

/-- The message of a token with these claims. -/
def claimsMessage (claims : Payload) : String := String.ofList (header ++ render (payload.encode claims))

/-- A token is the signed message of its claims. -/
theorem jwtEncode_eq_signMessage (secret : String) (claims : Payload) :
    jwtEncode secret claims = signMessage secret (claimsMessage claims) := by
  apply String.toList_inj.mp
  simp [jwtEncode, signMessage, claimsMessage, String.toList_append]

/-- A message that is read as claims is the message of them. -/
theorem messageParts_eq_some {text : String} {alg : Algorithm} {claims : Payload} :
    messageParts text = some (alg, claims) → text = claimsMessage claims := by
  intro hparts
  simp only [messageParts, Option.bind_eq_bind, Option.bind_eq_some_iff, Option.ite_none_right_eq_some] at hparts
  obtain ⟨decoded, -, htext, hsame⟩ := hparts
  obtain ⟨-, rfl⟩ := Prod.mk.inj (Option.some.inj hsame)
  rw [claimsMessage, ← htext, String.ofList_toList]

/-- The message of claims is read as them. -/
theorem messageParts_claimsMessage (claims : Payload) :
    messageParts (claimsMessage claims) = some (.hs256, claims) := by
  have hdecode := payload.decode_encode claims []
  rw [List.append_nil] at hdecode
  simp [messageParts, claimsMessage, parse_render, hdecode]

/-- Tokens that were signed parse back and verify. -/
theorem signing_jwtRoundTrip : signing.JwtRoundTrip where
  parts_encode secret claims := by
    have hsigned : signing.jwtEncode secret claims = signMessage secret (claimsMessage claims) :=
      jwtEncode_eq_signMessage secret claims
    rw [hsigned]
    exact (congrArg messageParts (signedMessage_signMessage secret _)).trans (messageParts_claimsMessage claims)
  verify_encode secret claims := by
    have hsigned : signing.jwtEncode secret claims = signMessage secret (claimsMessage claims) :=
      jwtEncode_eq_signMessage secret claims
    rw [signing_signsAgain.verify_iff, hsigned, signedMessage_signMessage]

/-- Numbers are written in digits and commas. -/
theorem visible_of_mem_render {c : Char} {l : List ℕ} (hc : c ∈ render l) : 33 ≤ c.toNat ∧ c.toNat < 127 := by
  by_cases hcomma : c = ','
  · subst hcomma
    decide
  · cases hdigit : c.isDigit with
    | false => exact absurd hc (not_mem_render hdigit hcomma l)
    | true =>
      have hbounds : 48 ≤ c.toNat ∧ c.toNat ≤ 57 := Char.isDigit_iff_toNat.mp hdigit
      omega

/-- Signed tokens are visible. -/
theorem signing_signedIsVisible : signing.SignedIsVisible := by
  intro secret token hparts hverify c hc
  obtain ⟨⟨alg, claims⟩, hparts⟩ := Option.ne_none_iff_exists'.mp hparts
  have htoken := (signing_signsAgain.verify_iff _ _).mp hverify
  rw [messageParts_eq_some hparts] at htoken
  rw [htoken, signMessage, claimsMessage] at hc
  simp only [String.toList_append, String.toList_ofList, List.mem_append] at hc
  rcases hc with ((hheader | hclaims) | hdot) | hsignature
  · have hvisible : header.all (fun c => decide (33 ≤ c.toNat ∧ c.toNat < 127)) = true := by decide
    exact of_decide_eq_true (List.all_eq_true.mp hvisible c hheader)
  · exact visible_of_mem_render hclaims
  · have hvisible : ".".toList.all (fun c => decide (33 ≤ c.toNat ∧ c.toNat < 127)) = true := by decide
    exact of_decide_eq_true (List.all_eq_true.mp hvisible c hdot)
  · exact visible_of_mem_render hsignature

/-- Signed tokens have three parts. -/
theorem signing_threeParts : signing.ThreeParts := by
  intro token hparts
  obtain ⟨⟨alg, claims⟩, hparts⟩ := Option.ne_none_iff_exists'.mp hparts
  have hmessage : signedMessage token = claimsMessage claims := messageParts_eq_some hparts
  unfold signedMessage at hmessage
  split at hmessage
  · rename_i tail text hcut
    obtain ⟨htoken, htail⟩ := rsplitDot_eq_pair.mp hcut
    have hclaims : (render (payload.encode claims)).count '.' = 0 :=
      List.count_eq_zero_of_not_mem (dot_not_mem_render _)
    have hheader : header.count '.' = 1 := by decide
    have htext : text.toList.count '.' = 1 := by
      rw [hmessage, claimsMessage, String.toList_ofList, List.count_append, hheader, hclaims]
    have hend : tail.toList.count '.' = 0 := List.count_eq_zero_of_not_mem htail
    rw [htoken, count_dot_join, htext, hend]
  · have hchars : header ++ render (payload.encode claims) = [] := (String.ofList_inj.mp hmessage).symm
    simp [header] at hchars

/-- A service with the default configuration. -/
def signingService : AuthService := ⟨config, signing⟩

/-- An environment in which only the secret is set. -/
def secretOnly : Environment := fun name => if name = "JWT_SECRET" then some config.jwtSecret else none

/-- Service and routes agree where only the secret is set and issuer and audience are the default ones. -/
theorem issuer_verifier_agree_default : signingService.AgreesWithRoutes secretOnly :=
  (issuer_verifier_agree signingService secretOnly signedMessage signMessage signing_jwtRoundTrip signing_signsAgain
    signing_signedIsVisible rfl).mpr (Or.inl ⟨rfl, rfl, config.jwtSecret, rfl, fun _ _ _ _ _ => rfl⟩)

/-- A service with an issuer and an audience of its own. -/
def namedService : AuthService :=
  ⟨{ config with jwtIssuer := "rustpress-test", jwtAudience := "rustpress-test-api" }, signing⟩

/-- The routes of a valid service refuse its tokens: they expect the default issuer. -/
theorem routes_expect_default_issuer :
    namedService.config.validate = .ok () ∧ ¬ namedService.AgreesWithRoutes secretOnly := by
  refine ⟨rfl, fun hagrees => ?_⟩
  have hserves := serves_of_agrees signing_jwtRoundTrip signing_signsAgain signing_signedIsVisible hagrees
    (rfl : secretOnly "JWT_SECRET" = some config.jwtSecret)
  exact absurd hserves.issuer (by decide)

end Runs

end RustPressAuth
