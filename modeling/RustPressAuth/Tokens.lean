import RustPressAuth.Models

/-!
# Token strings: signing, parsing and hashing

The functions of third-party crates are parameters: `Primitives` collects the standard
hasher, Argon2 and the compact serialisation of JSON web tokens. What the program and
the options it passes add to them is defined here: which claims are checked, how the
combined refresh token is cut in two, and how a token is hashed for storage.

A claim set is given by the claims the program and the token library read, each absent
when the JSON object does not bind it to a value of the type it is read at.
-/

namespace RustPressAuth

/-- A claim that may be one string or several. -/
inductive OneOrMany where
  | one (value : String)
  | many (values : List String)
deriving DecidableEq, Repr

/-- The claims of a token, as far as anything reads them. -/
structure Payload where
  sub : Option Uuid := none
  tid : Option Uuid := none
  jti : Option Uuid := none
  email : Option String := none
  name : Option String := none
  role : Option String := none
  iat : Option ℤ := none
  exp : Option ℤ := none
  iss : Option OneOrMany := none
  aud : Option OneOrMany := none
deriving DecidableEq, Repr

/-- The signature algorithm a token header names. -/
inductive Algorithm where
  | hs256
  | other (name : String)
deriving DecidableEq, Repr

/-- The functions of the standard library and of crates that the service calls. -/
structure Primitives where
  /-- `DefaultHasher::finish` after writing these bytes. -/
  defaultHasher : List UInt8 → UInt64
  /-- `char::is_uppercase`, a property of Unicode. -/
  isUppercase : Char → Bool
  /-- `char::is_lowercase`, a property of Unicode. -/
  isLowercase : Char → Bool
  /-- `argon2::Params::new` accepts these costs. -/
  argon2Params : UInt32 → UInt32 → UInt32 → Bool
  /-- `Argon2::hash_password` with these costs, salt and password. -/
  argon2Hash : UInt32 → UInt32 → UInt32 → String → String → Option String
  /-- `PasswordHash::new` parses this string. -/
  passwordHashParses : String → Bool
  /-- `Argon2::verify_password` accepts the password for the hash. -/
  argon2Verify : String → String → Bool
  /-- `jsonwebtoken::encode` with the default header, for a secret. -/
  jwtEncode : String → Payload → String
  /-- Header algorithm and claims of a token with three well-formed parts. -/
  jwtParts : String → Option (Algorithm × Payload)
  /-- The HS256 signature of a token verifies under a secret. -/
  jwtVerify : String → String → Bool

/-- What the service relies on: its own tokens parse back and verify. -/
structure Primitives.JwtRoundTrip (prims : Primitives) : Prop where
  parts_encode : ∀ secret payload,
    prims.jwtParts (prims.jwtEncode secret payload) = some (.hs256, payload)
  verify_encode : ∀ secret payload,
    prims.jwtVerify secret (prims.jwtEncode secret payload) = true

/-- `jsonwebtoken::Validation`: the options the program changes from their defaults. -/
structure Validation where
  iss : Option (List String) := none
  aud : Option (List String) := none
  leeway : ℤ := 60
  validateSignature : Bool := true

/-- A claim shares a value with the accepted ones. -/
def OneOrMany.meets (accepted : List String) : OneOrMany → Bool
  | .one value => accepted.contains value
  | .many values => values.any accepted.contains

/-- The issuer check: an issuer is compared only when both sides name one. -/
def Validation.issuerOk (v : Validation) (payload : Payload) : Bool :=
  match payload.iss, v.iss with
  | some iss, some accepted => iss.meets accepted
  | _, _ => true

/-- The audience check: a token that names an audience needs an accepted one. -/
def Validation.audienceOk (v : Validation) (payload : Payload) : Bool :=
  match payload.aud, v.aud with
  | some aud, some accepted => aud.meets accepted
  | some _, none => false
  | none, _ => true

/-- The expiry check: `exp` is required and may lie `leeway` seconds in the past. -/
def Validation.expiryOk (v : Validation) (nowSecs : ℤ) (payload : Payload) : Bool :=
  match payload.exp with
  | some exp => decide (0 ≤ exp) && !decide (exp < nowSecs - v.leeway)
  | none => false

/-- `jsonwebtoken::decode`, up to reading the claims at the type the caller asks for. -/
def Primitives.jwtDecode (prims : Primitives) (secret : String) (v : Validation) (nowSecs : ℤ)
    (token : String) : Option Payload := do
  let (alg, payload) ← prims.jwtParts token
  if v.validateSignature && !(alg == .hs256 && prims.jwtVerify secret token) then none
  else if v.expiryOk nowSecs payload && v.issuerOk payload && v.audienceOk payload then
    some payload
  else none

/-- The single string of a claim. -/
def OneOrMany.single : OneOrMany → Option String
  | .one value => some value
  | .many _ => none

/-- Serialisation of refresh-token claims. -/
def RefreshTokenClaims.toPayload (c : RefreshTokenClaims) : Payload where
  sub := some c.sub
  tid := some c.tid
  iat := some c.iat
  exp := some c.exp
  iss := some (.one c.iss)

/-- Deserialisation of refresh-token claims: unknown fields are ignored, missing ones refused. -/
def RefreshTokenClaims.ofPayload (p : Payload) : Option RefreshTokenClaims := do
  let sub ← p.sub
  let tid ← p.tid
  let iat ← p.iat
  let exp ← p.exp
  let iss ← p.iss.bind OneOrMany.single
  some { sub, tid, iat, exp, iss }

/-- Serialisation of access-token claims. -/
def AccessTokenClaims.toPayload (c : AccessTokenClaims) : Payload where
  sub := some c.sub
  email := some c.email
  name := some c.name
  role := some c.role
  iat := some c.iat
  exp := some c.exp
  iss := some (.one c.iss)
  aud := some (.one c.aud)
  jti := some c.jti

/-- The claims of a refresh token are read back from their payload. -/
@[simp] theorem RefreshTokenClaims.ofPayload_toPayload (c : RefreshTokenClaims) :
    ofPayload c.toPayload = some c := rfl

/-- Access-token claims name no refresh-token row, so they never read as refresh-token claims. -/
@[simp] theorem RefreshTokenClaims.ofPayload_access (c : AccessTokenClaims) :
    ofPayload c.toPayload = none := rfl

/-- `rsplitn(2, '.')`: what follows the last dot, then what precedes it. -/
def rsplitDot (s : String) : List String :=
  let tail := s.toList.reverse.takeWhile (· ≠ '.')
  if '.' ∈ s.toList then
    [String.ofList tail.reverse, String.ofList (s.toList.reverse.drop (tail.length + 1)).reverse]
  else [s]

/-- Cutting at a dot that no later dot follows gives back the two parts. -/
theorem rsplitDot_append (a b : String) (hb : '.' ∉ b.toList) : rsplitDot (a ++ "." ++ b) = [b, a] := by
  have hrev : (a ++ "." ++ b).toList.reverse = (b.toList.reverse ++ ['.']) ++ a.toList.reverse := by
    simp [String.toList_append]
  have hpos : ∀ c ∈ b.toList.reverse, (decide (c ≠ '.')) = true := by
    intro c hc
    have hne : c ≠ '.' := fun h => hb (h ▸ List.mem_reverse.mp hc)
    simpa using hne
  have htail : (a ++ "." ++ b).toList.reverse.takeWhile (fun c => decide (c ≠ '.')) = b.toList.reverse := by
    rw [hrev, List.append_assoc, List.takeWhile_append_of_pos hpos]
    simp
  have hmem : '.' ∈ (a ++ "." ++ b).toList := by simp [String.toList_append]
  have hdrop : (a ++ "." ++ b).toList.reverse.drop (b.toList.reverse.length + 1) = a.toList.reverse := by
    rw [hrev]
    exact List.drop_left' (by simp)
  simp only [rsplitDot, htail, hdrop, hmem, if_true, List.reverse_reverse, String.ofList_toList]

/-- A text is cut at its last dot. -/
theorem rsplitDot_eq_pair {s a b : String} : rsplitDot s = [a, b] ↔ s = b ++ "." ++ a ∧ '.' ∉ a.toList := by
  constructor
  · intro h
    by_cases hdot : '.' ∈ s.toList
    · obtain ⟨tail, front, hreverse, hlast⟩ := List.eq_append_cons_of_mem (List.mem_reverse.mpr hdot)
      have hs : s = String.ofList front.reverse ++ "." ++ String.ofList tail.reverse := by
        apply String.toList_inj.mp
        have hwhole := congrArg List.reverse hreverse
        simpa [String.toList_append] using hwhole
      have hnone : '.' ∉ (String.ofList tail.reverse).toList := by simpa using hlast
      have hcut := rsplitDot_append (String.ofList front.reverse) (String.ofList tail.reverse) hnone
      rw [← hs, h] at hcut
      simp only [List.cons.injEq, and_true] at hcut
      rw [hcut.1, hcut.2]
      exact ⟨hs, hnone⟩
    · simp [rsplitDot, hdot] at h
  · rintro ⟨hs, hlast⟩
    rw [hs, rsplitDot_append b a hlast]

/-- A text that was cut in two is the two parts with a dot between them. -/
theorem eq_of_rsplitDot {s a b : String} (h : rsplitDot s = [a, b]) : s = b ++ "." ++ a :=
  (rsplitDot_eq_pair.mp h).1

/-- A token has three parts with a dot between them. -/
def Primitives.ThreeParts (prims : Primitives) : Prop :=
  ∀ token, prims.jwtParts token ≠ none → token.toList.count '.' = 2

/-- A text with another number of dots cannot be read. -/
theorem Primitives.ThreeParts.unread {prims : Primitives} (hthree : prims.ThreeParts) {token : String}
    (h : token.toList.count '.' ≠ 2) : prims.jwtParts token = none := by
  cases hparts : prims.jwtParts token with
  | none => rfl
  | some parts => exact absurd (hthree token (by simp [hparts])) h

/-- Texts joined by a dot have one dot more than both. -/
theorem count_dot_join (text tail : String) :
    (text ++ "." ++ tail).toList.count '.' = text.toList.count '.' + 1 + tail.toList.count '.' := by
  simp [String.toList_append, List.count_append]
  omega

/-- Two lowercase hexadecimal digits. -/
def hexByte (b : UInt8) : List Char :=
  [Nat.digitChar (b.toNat / 16), Nat.digitChar (b.toNat % 16)]

/-- The encoding of random token bytes: despite its name in the source, hexadecimal. -/
def base64UrlEncode (data : List UInt8) : String := String.ofList (data.flatMap hexByte)

/-- The lowercase hexadecimal digits. -/
def hexDigits : List Char := ['0', '1', '2', '3', '4', '5', '6', '7', '8', '9', 'a', 'b', 'c', 'd', 'e', 'f']

/-- Every character of encoded bytes is a hexadecimal digit. -/
theorem mem_hexDigits {data : List UInt8} {c : Char} (h : c ∈ (base64UrlEncode data).toList) : c ∈ hexDigits := by
  have hdigit : ∀ n < 16, Nat.digitChar n ∈ hexDigits := by decide
  rw [base64UrlEncode, String.toList_ofList, List.mem_flatMap] at h
  obtain ⟨b, -, hb⟩ := h
  have hlt := b.toNat_lt
  simp only [hexByte, List.mem_cons, List.not_mem_nil, or_false] at hb
  rcases hb with rfl | rfl
  · exact hdigit (b.toNat / 16) (by omega)
  · exact hdigit (b.toNat % 16) (by omega)

/-- Hexadecimal text has no dot. -/
theorem dot_not_mem_base64UrlEncode (data : List UInt8) : '.' ∉ (base64UrlEncode data).toList := by
  have hdot : '.' ∉ hexDigits := by decide
  exact fun hmem => hdot (mem_hexDigits hmem)

/-- A number is written with hexadecimal digits. -/
theorem mem_hexDigits_of_toDigits {n : ℕ} {c : Char} (h : c ∈ Nat.toDigits 16 n) : c ∈ hexDigits := by
  have hdigit : ∀ k < 16, Nat.digitChar k ∈ hexDigits := by decide
  induction n using Nat.strongRecOn with
  | ind n ih =>
    by_cases hsmall : n < 16
    · rw [Nat.toDigits_of_lt_base hsmall, List.mem_singleton] at h
      exact h ▸ hdigit n hsmall
    · rw [Nat.toDigits_of_base_le (by decide) (Nat.le_of_not_lt hsmall), List.mem_append, List.mem_singleton] at h
      rcases h with hfront | hlast
      · exact ih (n / 16) (Nat.div_lt_self (by omega) (by decide)) hfront
      · exact hlast ▸ hdigit _ (Nat.mod_lt _ (by decide))

/-- Different bytes have different digits. -/
theorem hexByte_inj {b b' : UInt8} (h : hexByte b = hexByte b') : b = b' := by
  have hdigit : ∀ m < 16, ∀ n < 16, Nat.digitChar m = Nat.digitChar n → m = n := by decide
  have hlt := b.toNat_lt
  have hlt' := b'.toNat_lt
  simp only [hexByte, List.cons.injEq, and_true] at h
  have hhigh := hdigit (b.toNat / 16) (by omega) (b'.toNat / 16) (by omega) h.1
  have hlow := hdigit (b.toNat % 16) (by omega) (b'.toNat % 16) (by omega) h.2
  apply UInt8.toNat_inj.mp
  omega

/-- Different bytes have different texts. -/
theorem base64UrlEncode_inj {data data' : List UInt8} :
    base64UrlEncode data = base64UrlEncode data' ↔ data = data' := by
  refine ⟨fun h => ?_, congrArg base64UrlEncode⟩
  have hdigits : data.flatMap hexByte = data'.flatMap hexByte := String.ofList_injective h
  clear h
  induction data generalizing data' with
  | nil =>
    cases data' with
    | nil => rfl
    | cons b' rest' => cases hdigits
  | cons b rest ih =>
    cases data' with
    | nil => cases hdigits
    | cons b' rest' =>
      obtain ⟨hbyte, hrest⟩ := List.append_inj hdigits rfl
      rw [hexByte_inj hbyte, ih hrest]

/-- Thirty-two bytes are not written as the empty text. -/
theorem base64UrlEncode_ne_empty (bytes : Vector UInt8 32) : base64UrlEncode bytes.toList ≠ "" := by
  intro hempty
  have hdigits : bytes.toList.flatMap hexByte = [] := String.ofList_injective hempty
  have hlength : bytes.toList.length = 32 := by simp
  cases hbytes : bytes.toList with
  | nil => simp [hbytes] at hlength
  | cons b rest => simp [hbytes, hexByte] at hdigits

/-- The bytes a string feeds to a hasher: its UTF-8 bytes and the terminator `0xff`. -/
def hashedBytes (s : String) : List UInt8 := s.toUTF8.data.toList ++ [0xff]

/-- A service: the configuration and the functions of the libraries it is built with. -/
structure AuthService where
  config : AuthConfig
  prims : Primitives

namespace AuthService

/-- Hash a token for storage. -/
def hashToken (svc : AuthService) (token : String) : String :=
  String.ofList (Nat.toDigits 16
    (svc.prims.defaultHasher (hashedBytes token ++ hashedBytes svc.config.jwtSecret)).toNat)

/-- The validation options for refresh tokens; `logout` skips the signature. -/
def refreshValidation (svc : AuthService) (validateSignature : Bool) : Validation where
  iss := some [svc.config.jwtIssuer]
  validateSignature := validateSignature

/-- The refresh-token claims of a JWT accepted at `now`. -/
def decodeRefresh (svc : AuthService) (validateSignature : Bool) (now : Instant) (jwt : String) :
    Option RefreshTokenClaims :=
  (svc.prims.jwtDecode svc.config.jwtSecret (svc.refreshValidation validateSignature)
    (timestamp now) jwt).bind RefreshTokenClaims.ofPayload

/-- A refresh JWT is accepted until sixty seconds after its expiry, if it was signed with the secret of the service
or its signature is not checked. -/
theorem decodeRefresh_signedWith (svc : AuthService) (hjwt : svc.prims.JwtRoundTrip) (b : Bool) (secret : String)
    (hsecret : b = true → secret = svc.config.jwtSecret) (now : Instant) (claims : RefreshTokenClaims)
    (hiss : claims.iss = svc.config.jwtIssuer) :
    svc.decodeRefresh b now (svc.prims.jwtEncode secret claims.toPayload) =
      if 0 ≤ claims.exp ∧ timestamp now ≤ claims.exp + 60 then some claims else none := by
  have hexpiry : (svc.refreshValidation b).expiryOk (timestamp now) claims.toPayload =
      decide (0 ≤ claims.exp ∧ timestamp now ≤ claims.exp + 60) := by
    rw [Bool.eq_iff_iff]
    have hleeway : (svc.refreshValidation b).leeway = 60 := rfl
    simp only [Validation.expiryOk, RefreshTokenClaims.toPayload, hleeway, Bool.and_eq_true,
      Bool.not_eq_true', decide_eq_true_eq, decide_eq_false_iff_not]
    omega
  have hissuer : (svc.refreshValidation b).issuerOk claims.toPayload = true := by
    simp [Validation.issuerOk, RefreshTokenClaims.toPayload, refreshValidation, OneOrMany.meets, hiss]
  have haudience : (svc.refreshValidation b).audienceOk claims.toPayload = true := rfl
  have hsigned : ((svc.refreshValidation b).validateSignature && !(Algorithm.hs256 == .hs256 &&
      svc.prims.jwtVerify svc.config.jwtSecret (svc.prims.jwtEncode secret claims.toPayload))) = false := by
    cases b with
    | false => rfl
    | true => simp [hsecret rfl, hjwt.verify_encode]
  simp only [decodeRefresh, Primitives.jwtDecode, hjwt.parts_encode, hsigned, hexpiry, hissuer, haudience,
    Option.bind_eq_bind, Option.bind_some]
  by_cases h : 0 ≤ claims.exp ∧ timestamp now ≤ claims.exp + 60 <;> simp [h]

/-- A refresh JWT of the service is accepted until sixty seconds after its expiry. -/
theorem decodeRefresh_encode (svc : AuthService) (hjwt : svc.prims.JwtRoundTrip) (b : Bool) (now : Instant)
    (claims : RefreshTokenClaims) (hiss : claims.iss = svc.config.jwtIssuer) :
    svc.decodeRefresh b now (svc.prims.jwtEncode svc.config.jwtSecret claims.toPayload) =
      if 0 ≤ claims.exp ∧ timestamp now ≤ claims.exp + 60 then some claims else none :=
  svc.decodeRefresh_signedWith hjwt b _ (fun _ => rfl) now claims hiss

end AuthService

end RustPressAuth
