import RustPressAuth.Runs
import RustPressAuth.Serial.Codec

/-!
# A computable choice of the library functions

`Primitives` leaves the library functions open. The instance here computes, so runs of
the service can be evaluated: the standard hasher is SipHash-1-3 with zero keys, the
cost check is the one of Argon2, and the letters are those of ASCII. A token has the
three parts of a JSON web token, and a password hash the layout of a PHC string; both
carry their contents in plain, where the libraries would sign or hash them.
-/

namespace RustPressAuth

open Atomic Serial

namespace Reference

/-- The four words of the state. -/
structure Sip where
  v0 : UInt64
  v1 : UInt64
  v2 : UInt64
  v3 : UInt64

/-- Rotate left. -/
def rotl (x n : UInt64) : UInt64 := (x <<< n) ||| (x >>> (64 - n))

/-- One round. -/
def Sip.round (s : Sip) : Sip :=
  let a := s.v0 + s.v1
  let b := rotl s.v1 13 ^^^ a
  let a := rotl a 32
  let c := s.v2 + s.v3
  let d := rotl s.v3 16 ^^^ c
  let a := a + d
  let d := rotl d 21 ^^^ a
  let c := c + b
  let b := rotl b 17 ^^^ c
  ⟨a, b, rotl c 32, d⟩

/-- Absorb one block. -/
def Sip.absorb (s : Sip) (m : UInt64) : Sip :=
  let s := Sip.round { s with v3 := s.v3 ^^^ m }
  { s with v0 := s.v0 ^^^ m }

/-- Bytes as a number, least significant first. -/
def littleEndian : List UInt8 → UInt64
  | [] => 0
  | b :: bs => b.toUInt64 ||| (littleEndian bs <<< 8)

/-- Absorb all full blocks; the rest of the bytes is returned. -/
def Sip.blocks (s : Sip) : List UInt8 → Sip × List UInt8
  | b0 :: b1 :: b2 :: b3 :: b4 :: b5 :: b6 :: b7 :: rest =>
    (s.absorb (littleEndian [b0, b1, b2, b3, b4, b5, b6, b7])).blocks rest
  | rest => (s, rest)

/-- The hash of a message under zero keys. -/
def sipHash13 (bytes : List UInt8) : UInt64 :=
  let start : Sip := ⟨0x736f6d6570736575, 0x646f72616e646f6d, 0x6c7967656e657261, 0x7465646279746573⟩
  let (s, rest) := start.blocks bytes
  let s := s.absorb (littleEndian rest ||| (UInt64.ofNat bytes.length <<< 56))
  let s := Sip.round (Sip.round (Sip.round { s with v2 := s.v2 ^^^ 0xff }))
  s.v0 ^^^ s.v1 ^^^ s.v2 ^^^ s.v3

/-- A claim of one or several strings. -/
def oneOrMany : Codec OneOrMany :=
  (Codec.sum Codec.string (Codec.list Codec.string)).map
    (fun | .inl value => .one value | .inr values => .many values)
    (fun | .one value => .inl value | .many values => .inr values)
    (fun c => by cases c <;> rfl)

/-- The claims of a token. -/
def payload : Codec Payload :=
  let id := Codec.option (Codec.bitVec 128)
  let text := Codec.option Codec.string
  let time := Codec.option Codec.int
  let names := Codec.option oneOrMany
  (id.pair (id.pair (id.pair (text.pair (text.pair (text.pair (time.pair (time.pair
    (names.pair names))))))))).map
    (fun ⟨sub, tid, jti, email, name, role, iat, exp, iss, aud⟩ =>
      { sub, tid, jti, email, name, role, iat, exp, iss, aud })
    (fun p => ⟨p.sub, p.tid, p.jti, p.email, p.name, p.role, p.iat, p.exp, p.iss, p.aud⟩)
    (fun _ => rfl)

/-- The header of every token. -/
def header : List Char := ['h', '.']

/-- A token: header, claims and, in the place of the signature, the secret. -/
def jwtEncode (secret : String) (claims : Payload) : String :=
  String.ofList (header ++ (render (payload.encode claims) ++ '.' :: render (Codec.string.encode secret)))

/-- The claims part and the signature part of a token. -/
def jwtSplit (token : String) : List Char × List Char :=
  let body := token.toList.drop header.length
  (body.takeWhile (· ≠ '.'), (body.dropWhile (· ≠ '.')).drop 1)

/-- The claims of a token with the right header. -/
def jwtParts (token : String) : Option (Algorithm × Payload) :=
  if token.toList.take header.length = header then
    (payload.decode (parse [] (jwtSplit token).1)).map fun r => (.hs256, r.1)
  else none

/-- The signature part is the one made with the secret. -/
def jwtVerify (secret token : String) : Bool :=
  (jwtSplit token).2 = render (Codec.string.encode secret)

/-- A token is split into the message and the secret it was made from. -/
theorem jwtSplit_jwtEncode (secret : String) (claims : Payload) :
    jwtSplit (jwtEncode secret claims) =
      (render (payload.encode claims), render (Codec.string.encode secret)) := by
  have hdot : ∀ c ∈ render (payload.encode claims), (decide (c ≠ '.')) = true := by
    intro c hc
    have hne : c ≠ '.' := fun h => dot_not_mem_render _ (h ▸ hc)
    simpa using hne
  simp only [jwtSplit, jwtEncode, String.toList_ofList, List.drop_left]
  rw [List.takeWhile_append_of_pos hdot, List.dropWhile_append_of_pos hdot]
  simp

/-- A token is read as the claims it was made from. -/
theorem jwtParts_jwtEncode (secret : String) (claims : Payload) :
    jwtParts (jwtEncode secret claims) = some (.hs256, claims) := by
  have hheader : (jwtEncode secret claims).toList.take header.length = header := by
    simp only [jwtEncode, String.toList_ofList, List.take_left]
  have hdecode := payload.decode_encode claims []
  rw [List.append_nil] at hdecode
  rw [jwtParts, if_pos hheader, jwtSplit_jwtEncode, parse_render, hdecode, Option.map_some]

/-- A token verifies under the secret it was made with. -/
theorem jwtVerify_jwtEncode (secret : String) (claims : Payload) :
    jwtVerify secret (jwtEncode secret claims) = true := by
  simp [jwtVerify, jwtSplit_jwtEncode]

/-- The prefix of every password hash. -/
def hashPrefix : List Char := "$argon2id$v=19$".toList

/-- A password hash: the prefix, then salt and password. -/
def argon2Hash (salt password : String) : String :=
  String.ofList (hashPrefix ++ render ((Codec.string.pair Codec.string).encode (salt, password)))

/-- The hash was made from the password, with any salt. -/
def argon2Verify (password hash : String) : Bool :=
  match (Codec.string.pair Codec.string).decode (parse [] (hash.toList.drop hashPrefix.length)) with
  | some ((_, stored), _) => stored == password
  | none => false

/-- The functions of the libraries. -/
def primitives : Primitives where
  defaultHasher := sipHash13
  isUppercase := Char.isUpper
  isLowercase := Char.isLower
  argon2Params m t p := 8 ≤ m && 8 * p.toNat ≤ m.toNat && 1 ≤ t && 1 ≤ p && p ≤ 0xffffff
  argon2Hash _ _ _ salt password := some (argon2Hash salt password)
  passwordHashParses hash := hash.toList.take hashPrefix.length = hashPrefix
  argon2Verify := argon2Verify
  jwtEncode := jwtEncode
  jwtParts := jwtParts
  jwtVerify := jwtVerify

/-- Its tokens parse back and verify. -/
theorem jwtRoundTrip : primitives.JwtRoundTrip where
  parts_encode secret claims := by
    simp only [primitives]
    exact jwtParts_jwtEncode secret claims
  verify_encode secret claims := by
    simp only [primitives]
    exact jwtVerify_jwtEncode secret claims

/-- The default configuration, with a secret. -/
def config : AuthConfig where
  jwtSecret := "0123456789abcdef0123456789abcdef"
  accessTokenExpiration := 900
  refreshTokenExpiration := 604800
  jwtIssuer := "rustpress"
  jwtAudience := "rustpress-api"
  argon2MemoryCost := 65536
  argon2TimeCost := 3
  argon2Parallelism := 4
  maxLoginAttempts := 5
  lockoutDuration := 900
  passwordResetExpiration := 3600
  emailVerificationExpiration := 86400
  minPasswordLength := 8
  requireEmailVerification := false

/-- A service that can be run. -/
def service : AuthService := ⟨config, primitives⟩

/-- A world without users, at the epoch. -/
def world : World := ⟨Db.empty, 0⟩

/-- The choice that draws only values made from one number. -/
def choice (k : ℕ) : Choice where
  uuid := BitVec.ofNat 128 k
  bytes := Vector.replicate 32 (UInt8.ofNat k)
  salt := "salt"

/-- Schedule entries: call `i` moves `n` times and draws values made from `k`. -/
def moves (i n k : ℕ) : List (Machine.Move ℕ Choice EnvMove) := List.replicate n (.call i (choice k))

/-- The combined refresh token a call draws with the choice `k` at an instant. -/
def refreshToken (userId : Uuid) (k : ℕ) (now : Instant) : String :=
  jwtEncode config.jwtSecret (service.refreshClaims userId (choice k).uuid now).toPayload ++ "." ++
    base64UrlEncode (choice k).bytes.toList

/-- What `refreshTokens` does with a token of the service: it is cut and decoded without fail,
up to its expiry. -/
def refreshIssued (userId : Uuid) (k : ℕ) (issuedAt : Instant) (ipAddress userAgent : Option String) :
    AuthM TokenResponse := do
  let claims := service.refreshClaims userId (choice k).uuid issuedAt
  let now ← utcNow
  let claims ← okOr (if 0 ≤ claims.exp ∧ timestamp now ≤ claims.exp + 60 then some claims else none) .invalidToken
  service.redeem (base64UrlEncode (choice k).bytes.toList) claims ipAddress userAgent

/-- A refresh token is cut into its random half and its JWT. -/
theorem rsplitDot_refreshToken (userId : Uuid) (k : ℕ) (issuedAt : Instant) :
    rsplitDot (refreshToken userId k issuedAt) = [base64UrlEncode (choice k).bytes.toList,
      jwtEncode config.jwtSecret (service.refreshClaims userId (choice k).uuid issuedAt).toPayload] :=
  rsplitDot_append _ _ (dot_not_mem_base64UrlEncode _)

/-- A refresh with a token of the service goes on with its claims. -/
theorem refreshTokens_refreshToken (userId : Uuid) (k : ℕ) (issuedAt : Instant)
    (ipAddress userAgent : Option String) :
    service.refreshTokens (refreshToken userId k issuedAt) ipAddress userAgent =
      refreshIssued userId k issuedAt ipAddress userAgent := by
  have hdecode (now : Instant) := service.decodeRefresh_encode jwtRoundTrip true now
    (service.refreshClaims userId (choice k).uuid issuedAt) rfl
  simp only [AuthService.refreshTokens, AuthService.splitToken, rsplitDot_refreshToken, refreshIssued, ← hdecode]
  rfl

/-- What `logout` does with a token of the service: it is cut and decoded without fail, up to its expiry. -/
def logoutIssued (userId : Uuid) (k : ℕ) (issuedAt : Instant) : AuthM Unit := do
  let claims := service.refreshClaims userId (choice k).uuid issuedAt
  let now ← utcNow
  let claims ← okOr (if 0 ≤ claims.exp ∧ timestamp now ≤ claims.exp + 60 then some claims else none) .invalidToken
  let _ ← query (.revokeRefreshToken claims.tid)
  pure ()

/-- A logout with a token of the service goes on with its claims. -/
theorem logout_refreshToken (userId : Uuid) (k : ℕ) (issuedAt : Instant) :
    service.logout (refreshToken userId k issuedAt) = logoutIssued userId k issuedAt := by
  have hdecode (now : Instant) := service.decodeRefresh_encode jwtRoundTrip false now
    (service.refreshClaims userId (choice k).uuid issuedAt) rfl
  simp only [AuthService.logout, AuthService.splitToken, rsplitDot_refreshToken, logoutIssued, ← hdecode]
  rfl

end Reference

end RustPressAuth
