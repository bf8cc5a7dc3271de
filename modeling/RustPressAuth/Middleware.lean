import RustPressAuth.Persistence
import RustPressAuth.Service

/-!
# Access tokens at the service and at the routes

The service checks an access token with the secret, issuer and audience of its
configuration. The routes that need authentication check it in a middleware, with the
values the environment of the process has when the request arrives. Both ask the token
library for the same checks.
-/

namespace RustPressAuth

/-- Deserialisation of access-token claims: unknown fields are ignored, missing ones refused. -/
def AccessTokenClaims.ofPayload (p : Payload) : Option AccessTokenClaims := do
  let sub ← p.sub
  let email ← p.email
  let name ← p.name
  let role ← p.role
  let iat ← p.iat
  let exp ← p.exp
  let iss ← p.iss.bind OneOrMany.single
  let aud ← p.aud.bind OneOrMany.single
  let jti ← p.jti
  some { sub, email, name, role, iat, exp, iss, aud, jti }

/-- The claims of an access token are read back from their payload. -/
@[simp] theorem AccessTokenClaims.ofPayload_toPayload (c : AccessTokenClaims) :
    ofPayload c.toPayload = some c := rfl

/-- A claim has a single value exactly if it is that value. -/
theorem OneOrMany.single_eq_some {claim : OneOrMany} {value : String} :
    claim.single = some value ↔ claim = .one value := by
  cases claim with
  | one v => simp [single]
  | many vs => simp [single]

/-- The claims the token library checks are those that were read. -/
theorem AccessTokenClaims.checked_of_ofPayload {p : Payload} {c : AccessTokenClaims} (h : ofPayload p = some c) :
    p.exp = some c.exp ∧ p.iss = some (.one c.iss) ∧ p.aud = some (.one c.aud) := by
  simp only [ofPayload, Option.bind_eq_bind, Option.bind_eq_some_iff, Option.some.injEq,
    OneOrMany.single_eq_some] at h
  obtain ⟨-, -, -, -, -, -, -, -, -, -, exp, hexp, iss, ⟨-, hiss, rfl⟩, aud, ⟨-, haud, rfl⟩, -, -, rfl⟩ := h
  exact ⟨hexp, hiss, haud⟩

/-- The claims are those of an issuer, for an audience, and expired no more than a minute ago. -/
structure AccessTokenClaims.AcceptedAt (c : AccessTokenClaims) (issuer audience : String)
    (now : Instant) : Prop where
  iss : c.iss = issuer
  aud : c.aud = audience
  exp_nonneg : 0 ≤ c.exp
  exp : timestamp now ≤ c.exp + 60

/-- `Validation::default()` with one issuer and one audience set. -/
def Validation.expecting (issuer audience : String) : Validation where
  iss := some [issuer]
  aud := some [audience]

/-- `jsonwebtoken::decode` at the type of access-token claims. -/
def Primitives.decodeAccess (prims : Primitives) (secret : String) (v : Validation) (now : Instant)
    (token : String) : Option AccessTokenClaims :=
  (prims.jwtDecode secret v (timestamp now) token).bind AccessTokenClaims.ofPayload

/-- The access-token claims a token carries, whoever signed it. -/
def Primitives.carried (prims : Primitives) (token : String) : Option AccessTokenClaims := do
  let (alg, payload) ← prims.jwtParts token
  if alg = .hs256 then AccessTokenClaims.ofPayload payload else none

/-- The checks of the token library on claims that were read. -/
theorem AccessTokenClaims.acceptedAt_iff {p : Payload} {c : AccessTokenClaims} {issuer audience : String}
    {now : Instant} (h : ofPayload p = some c) {v : Validation} (hv : v = .expecting issuer audience) :
    (v.expiryOk (timestamp now) p && v.issuerOk p && v.audienceOk p) = true ↔ c.AcceptedAt issuer audience now := by
  obtain ⟨hexp, hiss, haud⟩ := checked_of_ofPayload h
  subst hv
  have hexpiry : (Validation.expecting issuer audience).expiryOk (timestamp now) p = true ↔
      0 ≤ c.exp ∧ timestamp now ≤ c.exp + 60 := by
    have hleeway : (Validation.expecting issuer audience).leeway = 60 := rfl
    simp only [Validation.expiryOk, hexp, hleeway, Bool.and_eq_true, Bool.not_eq_true', decide_eq_true_eq,
      decide_eq_false_iff_not]
    omega
  have hissuer : (Validation.expecting issuer audience).issuerOk p = true ↔ c.iss = issuer := by
    simp [Validation.issuerOk, hiss, Validation.expecting, OneOrMany.meets]
  have haudience : (Validation.expecting issuer audience).audienceOk p = true ↔ c.aud = audience := by
    simp [Validation.audienceOk, haud, Validation.expecting, OneOrMany.meets]
  rw [Bool.and_eq_true, Bool.and_eq_true, hexpiry, hissuer, haudience]
  constructor
  · intro hchecks
    exact ⟨hchecks.1.2, hchecks.2, hchecks.1.1.1, hchecks.1.1.2⟩
  · intro haccepted
    exact ⟨⟨⟨haccepted.exp_nonneg, haccepted.exp⟩, haccepted.iss⟩, haccepted.aud⟩

/-- A token is decoded when it carries acceptable claims and its signature verifies. -/
theorem Primitives.decodeAccess_eq_some {prims : Primitives} {secret issuer audience : String} {now : Instant}
    {token : String} {claims : AccessTokenClaims} :
    prims.decodeAccess secret (.expecting issuer audience) now token = some claims ↔
      prims.carried token = some claims ∧ prims.jwtVerify secret token = true ∧
        claims.AcceptedAt issuer audience now := by
  have hsignature : (Validation.expecting issuer audience).validateSignature = true := rfl
  cases hparts : prims.jwtParts token with
  | none => simp [decodeAccess, jwtDecode, carried, hparts]
  | some parts =>
    obtain ⟨alg, payload⟩ := parts
    simp only [decodeAccess, jwtDecode, carried, hparts, hsignature, Option.bind_eq_bind, Option.bind_some,
      Bool.true_and]
    by_cases hsigned : alg = .hs256 ∧ prims.jwtVerify secret token = true
    · have hpass : (!(alg == Algorithm.hs256 && prims.jwtVerify secret token)) = false := by simp [hsigned]
      rw [hpass, if_neg Bool.false_ne_true, if_pos hsigned.1]
      constructor
      · intro hdecoded
        obtain ⟨p, hpassed, hread⟩ := Option.bind_eq_some_iff.mp hdecoded
        obtain ⟨hchecks, hp⟩ := Option.ite_none_right_eq_some.mp hpassed
        cases hp
        exact ⟨hread, hsigned.2, (AccessTokenClaims.acceptedAt_iff hread rfl).mp hchecks⟩
      · rintro ⟨hread, -, haccepted⟩
        rw [if_pos ((AccessTokenClaims.acceptedAt_iff hread rfl).mpr haccepted), Option.bind_some, hread]
    · have hfail : (!(alg == Algorithm.hs256 && prims.jwtVerify secret token)) = true := by
        rw [Bool.not_eq_true', Bool.and_eq_false_iff, beq_eq_false_iff_ne, ← Bool.not_eq_true]
        exact not_and_or.mp hsigned
      rw [hfail, if_pos rfl, Option.bind_none]
      constructor
      · intro hdecoded
        cases hdecoded
      · rintro ⟨hread, hverify, -⟩
        have halg : alg = .hs256 := (Option.ite_none_right_eq_some.mp hread).1
        exact absurd ⟨halg, hverify⟩ hsigned

/-- Validate an access token. -/
def AuthService.validateAccessToken (svc : AuthService) (now : Instant) (token : String) :
    Except AuthError AccessTokenClaims :=
  let validation := Validation.expecting svc.config.jwtIssuer svc.config.jwtAudience
  match svc.prims.decodeAccess svc.config.jwtSecret validation now token with
  | some claims => .ok claims
  | none => .error .invalidToken

/-- The service validates a token exactly if it decodes under the configured secret, issuer and audience. -/
theorem validateAccessToken_eq_ok {svc : AuthService} {now : Instant} {token : String}
    {claims : AccessTokenClaims} :
    svc.validateAccessToken now token = .ok claims ↔
      svc.prims.decodeAccess svc.config.jwtSecret (.expecting svc.config.jwtIssuer svc.config.jwtAudience)
        now token =
        some claims := by
  simp only [AuthService.validateAccessToken]
  cases svc.prims.decodeAccess svc.config.jwtSecret (.expecting svc.config.jwtIssuer svc.config.jwtAudience)
    now token with
  | none => simp
  | some c => simp

/-- A response that ends a request before its handler runs. -/
structure Rejection where
  status : ℕ
  error : String
  message : String
deriving DecidableEq, Repr

/-- What the middleware reads of a request: its headers under their names in lower case, each value by
the characters its bytes are in Latin-1, and the claims an earlier layer stored. -/
structure RequestParts where
  headers : List (String × String)
  claims : Option AccessTokenClaims := none
deriving DecidableEq, Repr

/-- `HeaderValue::to_str`: only visible ASCII and tabs are text. -/
def headerText (value : String) : Option String :=
  if value.toList.all fun c => (32 ≤ c.toNat && c.toNat < 127) || c == '\t' then some value else none

/-- The first `Authorization` header, when it is text. -/
def RequestParts.authorization (parts : RequestParts) : Option String :=
  (parts.headers.lookup "authorization").bind headerText

/-- `str::trim_start_matches`, on at most so many copies of the pattern. -/
def trimCopies (pattern : List Char) : ℕ → List Char → List Char
  | 0, text => text
  | n + 1, text => if pattern.isPrefixOf text then trimCopies pattern n (text.drop pattern.length) else text

/-- What a header announces a token with. -/
def bearer : List Char := "Bearer ".toList

/-- The token of a header: every copy of the announcement is cut off. -/
def trimBearer (header : String) : String := String.ofList (trimCopies bearer header.length header.toList)

/-- Get JWT decoding key from environment. -/
def getDecodingKey (env : Environment) : Except Rejection String :=
  match env "JWT_SECRET" with
  | some secret => .ok secret
  | none => .error ⟨500, "configuration_error", "Server configuration error"⟩

/-- Get JWT validation settings from environment. -/
def getValidation (env : Environment) : Validation :=
  let issuer := (env "JWT_ISSUER").getD "rustpress"
  let audience := (env "JWT_AUDIENCE").getD "rustpress-api"
  .expecting issuer audience

/-- Extract and validate JWT token from Authorization header. -/
def validateToken (prims : Primitives) (env : Environment) (now : Instant) (authHeader : Option String) :
    Except Rejection AccessTokenClaims :=
  match authHeader with
  | none => .error ⟨401, "unauthorized", "Authentication required"⟩
  | some header =>
    if !bearer.isPrefixOf header.toList then
      .error ⟨401, "unauthorized", "Invalid authorization header format"⟩
    else do
      let token := trimBearer header
      let decodingKey ← getDecodingKey env
      let validation := getValidation env
      match prims.decodeAccess decodingKey validation now token with
      | some claims => .ok claims
      | none => .error ⟨401, "invalid_token", "Invalid or expired token"⟩

/-- Require authenticated user: the claims are stored in the request for its handler. -/
def requireAuth {α : Type} (prims : Primitives) (env : Environment) (now : Instant) (parts : RequestParts)
    (next : RequestParts → α) : Except Rejection α := do
  let claims ← validateToken prims env now parts.authorization
  pure (next { parts with claims := some claims })

/-- Require admin role. -/
def requireAdmin {α : Type} (prims : Primitives) (env : Environment) (now : Instant) (parts : RequestParts)
    (next : RequestParts → α) : Except Rejection α := do
  let claims ← validateToken prims env now parts.authorization
  if claims.role ≠ "admin" then .error ⟨403, "forbidden", "Admin access required"⟩
  else pure (next { parts with claims := some claims })

/-- Require one of the roles. -/
def requireRole {α : Type} (roles : List String) (prims : Primitives) (env : Environment) (now : Instant)
    (parts : RequestParts) (next : RequestParts → α) : Except Rejection α := do
  let claims ← validateToken prims env now parts.authorization
  if !roles.contains claims.role then .error ⟨403, "forbidden", "Insufficient permissions"⟩
  else pure (next { parts with claims := some claims })

/-- Optional authentication: the claims are stored if a valid token is provided, and the handler runs in any
case. -/
def optionalAuth {α : Type} (prims : Primitives) (env : Environment) (now : Instant) (parts : RequestParts)
    (next : RequestParts → α) : α :=
  match parts.authorization with
  | none => next parts
  | some authHeader =>
    match validateToken prims env now (some authHeader) with
    | .ok claims => next { parts with claims := some claims }
    | .error _ => next parts

/-- The token a request presents, if its header announces one. -/
def RequestParts.presentedToken (parts : RequestParts) : Option String :=
  (parts.authorization.filter fun header => bearer.isPrefixOf header.toList).map trimBearer

/-- There is a decoding key exactly if the environment sets the secret. -/
theorem getDecodingKey_eq_ok {env : Environment} {secret : String} :
    getDecodingKey env = .ok secret ↔ env "JWT_SECRET" = some secret := by
  unfold getDecodingKey
  cases env "JWT_SECRET" with
  | none => simp
  | some s => simp

/-- A header is accepted for the claims its token decodes to under the values of the environment. -/
theorem validateToken_eq_ok {prims : Primitives} {env : Environment} {now : Instant} {authHeader : Option String}
    {claims : AccessTokenClaims} :
    validateToken prims env now authHeader = .ok claims ↔
      ∃ header secret, authHeader = some header ∧ bearer.isPrefixOf header.toList = true ∧
        env "JWT_SECRET" = some secret ∧
        prims.decodeAccess secret (getValidation env) now (trimBearer header) = some claims := by
  cases authHeader with
  | none => simp [validateToken]
  | some header =>
    simp only [validateToken, Option.some.injEq, exists_and_left, exists_eq_left']
    cases hbearer : bearer.isPrefixOf header.toList with
    | false => simp
    | true =>
      simp only [Bool.not_true, Bool.false_eq_true, if_false, true_and, except_bind_eq_ok, getDecodingKey_eq_ok]
      refine exists_congr fun secret => and_congr_right fun _ => ?_
      cases prims.decodeAccess secret (getValidation env) now (trimBearer header) with
      | none => simp
      | some c => simp

/-- The middleware lets a request through for the claims its token decodes to under the values
of the environment. -/
theorem requireAuth_eq_ok {α : Type} {prims : Primitives} {env : Environment} {now : Instant}
    {parts : RequestParts} {next : RequestParts → α} {out : α} :
    requireAuth prims env now parts next = .ok out ↔
      ∃ secret token claims, env "JWT_SECRET" = some secret ∧ parts.presentedToken = some token ∧
        prims.decodeAccess secret (getValidation env) now token = some claims ∧
        next { parts with claims := some claims } = out := by
  simp only [requireAuth, except_bind_eq_ok, validateToken_eq_ok, RequestParts.presentedToken,
    Option.map_eq_some_iff, Option.filter_eq_some_iff]
  constructor
  · rintro ⟨claims, ⟨header, secret, hheader, hbearer, hsecret, hdecoded⟩, hout⟩
    exact ⟨secret, _, claims, hsecret, ⟨header, ⟨hheader, hbearer⟩, rfl⟩, hdecoded, Except.ok.inj hout⟩
  · rintro ⟨secret, token, claims, hsecret, ⟨header, ⟨hheader, hbearer⟩, htoken⟩, hdecoded, hout⟩
    subst htoken
    exact ⟨claims, ⟨header, secret, hheader, hbearer, hsecret, hdecoded⟩, congrArg Except.ok hout⟩

end RustPressAuth
