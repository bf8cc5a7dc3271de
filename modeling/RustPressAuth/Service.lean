import RustPressAuth.Atomic.Interleaving
import RustPressAuth.Statements

/-!
# The operations of the service

Each operation is a program over the actions a call can take: read the clock, draw
random values, sign a token, compare a password with a stored hash, execute one SQL
statement. The service opens no transaction, so a statement is the unit of atomicity;
everything between two actions is local to the call.

Signing and password comparison have no effect on the shared state. They are actions
so that a run can say which tokens were signed and which passwords were compared.
-/

namespace RustPressAuth

open Atomic

/-- The atomic actions of a call. -/
inductive Action where
  /-- `Utc::now()`. -/
  | now
  /-- `Uuid::new_v4()`. -/
  | uuid
  /-- `rand::thread_rng().gen()` at type `[u8; 32]`. -/
  | randomBytes
  /-- `SaltString::generate(&mut OsRng)`. -/
  | salt
  /-- `jsonwebtoken::encode` with the service's key. -/
  | sign (payload : Payload)
  /-- `verify_password`, with its result or no result for an internal error. -/
  | verifyPassword (password hash : String)
  /-- One awaited SQL statement. -/
  | sql (s : Statement)
deriving DecidableEq, Repr

/-- The reply to an action. -/
@[reducible] def Action.Reply : Action → Type
  | .now => Instant
  | .uuid => Uuid
  | .randomBytes => Vector UInt8 32
  | .salt => String
  | .sign _ => String
  | .verifyPassword .. => Option Bool
  | .sql s => Except DbError s.Row

/-- A computation of the service: a program that may end with an `AuthError` or by a panic. -/
abbrev AuthM (α : Type) := Program Action Action.Reply Failure α

/-- Perform one action. -/
def perform (a : Action) : AuthM a.Reply := Program.perform a

/-- `Utc::now()`. -/
def utcNow : AuthM Instant := perform .now

/-- `Uuid::new_v4()`. -/
def newUuid : AuthM Uuid := perform .uuid

/-- Thirty-two random bytes. -/
def randomBytes : AuthM (Vector UInt8 32) := perform .randomBytes

/-- A fresh salt. -/
def newSalt : AuthM String := perform .salt

/-- Sign claims with the service's key. -/
def sign (payload : Payload) : AuthM String := perform (.sign payload)

/-- Execute a statement; an `sqlx::Error` becomes `AuthError::Database`. -/
def query (s : Statement) : AuthM s.Row := do
  let reply ← perform (.sql s)
  match reply with
  | Except.ok rows => pure rows
  | Except.error e => Program.fail (.err (.database e))

/-! The queries whose rows are used, at the types `sqlx` reads them at. -/

/-- The id of the user with an email. -/
def selectUserIdByEmail (email : String) : AuthM (Option Uuid) := query (.selectUserIdByEmail email)

/-- A new user. -/
def insertUser (email passwordHash name : String) : AuthM User := query (.insertUser email passwordHash name)

/-- The user with an email. -/
def selectUserByEmail (email : String) : AuthM (Option User) := query (.selectUserByEmail email)

/-- The user with an id. -/
def selectUserById (id : Uuid) : AuthM (Option User) := query (.selectUserById id)

/-- The refresh token with an id and a hash. -/
def selectRefreshToken (id : Uuid) (tokenHash : String) : AuthM (Option RefreshToken) :=
  query (.selectRefreshToken id tokenHash)

/-- The ids of a one-time token that is valid, and of its user. -/
def selectValidToken (purpose : Purpose) (tokenHash : String) : AuthM (Option (Uuid × Uuid)) :=
  query (.selectValidToken purpose tokenHash)

/-- The user, verified. -/
def verifyUserEmail (id : Uuid) : AuthM User := query (.verifyUserEmail id)

/-- `Option::ok_or` with the question mark operator. -/
def okOr {α : Type} (o : Option α) (e : AuthError) : AuthM α :=
  match o with
  | some v => pure v
  | none => Program.fail (.err e)

/-- `now + Duration::seconds(n)`, which may panic. -/
def expiresAfter (now : Instant) (n : Int64) : AuthM Instant :=
  match expiry now n with
  | .ok t => pure t
  | .error fault => Program.fail (.panic fault)

/-- The expiry is computed within the bounds of `chrono`. -/
theorem expiresAfter_of (now : Instant) (n : Int64) (h : Expires now n) :
    expiresAfter now n = pure (now + seconds n) := by
  rw [expiresAfter, expiry_eq_ok.mpr ⟨h, rfl⟩]

/-- Out of these bounds it panics. -/
theorem expiresAfter_of_not (now : Instant) (n : Int64) (h : ¬ Expires now n) :
    ∃ fault, expiresAfter now n = Program.fail (.panic fault) := by
  obtain ⟨fault, hexpiry⟩ := expiry_eq_error h
  exact ⟨fault, by rw [expiresAfter, hexpiry]⟩

/-- An expiry is computed, or the call panics. -/
theorem expiresAfter_cases (now : Instant) (n : Int64) : expiresAfter now n = pure (now + seconds n) ∨
    ∃ fault, expiresAfter now n = Program.fail (.panic fault) := by
  by_cases hexpires : Expires now n
  · exact Or.inl (expiresAfter_of now n hexpires)
  · exact Or.inr (expiresAfter_of_not now n hexpires)

/-- A conditional block that falls through. -/
def runIf (condition : Bool) (block : AuthM Unit) : AuthM Unit :=
  if condition then block else pure ()

section Obeys

open Program

variable {α : Type} (h : History Action Action.Reply)

/-- A comparison obeys a protocol that allows it, if every verdict is allowed as a result. -/
@[simp] theorem obeys_verify (password hash : String) (π : Protocol Action Action.Reply (Option Bool)) :
    (perform (.verifyPassword password hash)).Obeys π h ↔ π.guard h (.verifyPassword password hash) ∧
      ∀ r : Option Bool, π.result (⟨.verifyPassword password hash, r⟩ :: h) r := Iff.rfl

/-- Reading the clock obeys a protocol that allows it, if every time is allowed as a result. -/
@[simp] theorem obeys_utcNow (π : Protocol Action Action.Reply Instant) :
    utcNow.Obeys π h ↔ π.guard h .now ∧ ∀ t : Instant, π.result (⟨.now, t⟩ :: h) t := Iff.rfl

/-- Drawing an id obeys a protocol that allows it, if every id is allowed as a result. -/
@[simp] theorem obeys_newUuid (π : Protocol Action Action.Reply Uuid) :
    newUuid.Obeys π h ↔ π.guard h .uuid ∧ ∀ u : Uuid, π.result (⟨.uuid, u⟩ :: h) u := Iff.rfl

/-- Drawing bytes obeys a protocol that allows it, if all bytes are allowed as a result. -/
@[simp] theorem obeys_randomBytes (π : Protocol Action Action.Reply (Vector UInt8 32)) :
    randomBytes.Obeys π h ↔ π.guard h .randomBytes ∧
      ∀ b : Vector UInt8 32, π.result (⟨.randomBytes, b⟩ :: h) b := Iff.rfl

/-- Drawing a salt obeys a protocol that allows it, if every salt is allowed as a result. -/
@[simp] theorem obeys_newSalt (π : Protocol Action Action.Reply String) :
    newSalt.Obeys π h ↔ π.guard h .salt ∧ ∀ s : String, π.result (⟨.salt, s⟩ :: h) s := Iff.rfl

/-- Signing obeys a protocol that allows it, if every token is allowed as a result. -/
@[simp] theorem obeys_sign (payload : Payload) (π : Protocol Action Action.Reply String) :
    (sign payload).Obeys π h ↔ π.guard h (.sign payload) ∧
      ∀ s : String, π.result (⟨.sign payload, s⟩ :: h) s := Iff.rfl

/-- A query goes on with the rows or ends the call. -/
@[simp] theorem obeys_query (s : Statement) (π : Protocol Action Action.Reply s.Row) :
    (query s).Obeys π h ↔ π.guard h (.sql s) ∧
      ∀ rows : s.Row, π.result (⟨.sql s, .ok rows⟩ :: h) rows := by
  refine and_congr_right fun _ => ⟨fun hall rows => hall (.ok rows), ?_⟩
  rintro hok (e | rows)
  · trivial
  · exact hok rows

/-- The SELECT of an id by an email obeys a protocol that allows it, if all rows are allowed as a result. -/
@[simp] theorem obeys_selectUserIdByEmail (email : String)
    (π : Protocol Action Action.Reply (Option Uuid)) :
    (selectUserIdByEmail email).Obeys π h ↔ π.guard h (.sql (.selectUserIdByEmail email)) ∧
      ∀ rows : Option Uuid, π.result (⟨.sql (.selectUserIdByEmail email), .ok rows⟩ :: h) rows :=
  obeys_query h (.selectUserIdByEmail email) π

/-- The INSERT of a user obeys a protocol that allows it, if every row is allowed as a result. -/
@[simp] theorem obeys_insertUser (email passwordHash name : String)
    (π : Protocol Action Action.Reply User) :
    (insertUser email passwordHash name).Obeys π h ↔ π.guard h (.sql (.insertUser email passwordHash name)) ∧
      ∀ rows : User, π.result (⟨.sql (.insertUser email passwordHash name), .ok rows⟩ :: h) rows :=
  obeys_query h (.insertUser email passwordHash name) π

/-- The SELECT of a user by an email obeys a protocol that allows it, if all rows are allowed as a result. -/
@[simp] theorem obeys_selectUserByEmail (email : String)
    (π : Protocol Action Action.Reply (Option User)) :
    (selectUserByEmail email).Obeys π h ↔ π.guard h (.sql (.selectUserByEmail email)) ∧
      ∀ rows : Option User, π.result (⟨.sql (.selectUserByEmail email), .ok rows⟩ :: h) rows :=
  obeys_query h (.selectUserByEmail email) π

/-- The SELECT of a user by an id obeys a protocol that allows it, if all rows are allowed as a result. -/
@[simp] theorem obeys_selectUserById (id : Uuid)
    (π : Protocol Action Action.Reply (Option User)) :
    (selectUserById id).Obeys π h ↔ π.guard h (.sql (.selectUserById id)) ∧
      ∀ rows : Option User, π.result (⟨.sql (.selectUserById id), .ok rows⟩ :: h) rows :=
  obeys_query h (.selectUserById id) π

/-- The SELECT of a refresh token obeys a protocol that allows it, if all rows are allowed as a result. -/
@[simp] theorem obeys_selectRefreshToken (id : Uuid) (tokenHash : String)
    (π : Protocol Action Action.Reply (Option RefreshToken)) :
    (selectRefreshToken id tokenHash).Obeys π h ↔ π.guard h (.sql (.selectRefreshToken id tokenHash)) ∧
      ∀ rows : Option RefreshToken, π.result (⟨.sql (.selectRefreshToken id tokenHash), .ok rows⟩ :: h) rows :=
  obeys_query h (.selectRefreshToken id tokenHash) π

/-- The SELECT of a valid one-time token obeys a protocol that allows it, if all rows are allowed as a result.
-/
@[simp] theorem obeys_selectValidToken (purpose : Purpose) (tokenHash : String)
    (π : Protocol Action Action.Reply (Option (Uuid × Uuid))) :
    (selectValidToken purpose tokenHash).Obeys π h ↔ π.guard h (.sql (.selectValidToken purpose tokenHash)) ∧
      ∀ rows : Option (Uuid × Uuid), π.result (⟨.sql (.selectValidToken purpose tokenHash), .ok rows⟩ :: h) rows :=
  obeys_query h (.selectValidToken purpose tokenHash) π

/-- The UPDATE that verifies an email obeys a protocol that allows it, if every row is allowed as a result. -/
@[simp] theorem obeys_verifyUserEmail (id : Uuid)
    (π : Protocol Action Action.Reply User) :
    (verifyUserEmail id).Obeys π h ↔ π.guard h (.sql (.verifyUserEmail id)) ∧
      ∀ rows : User, π.result (⟨.sql (.verifyUserEmail id), .ok rows⟩ :: h) rows :=
  obeys_query h (.verifyUserEmail id) π

/-- A value that may be missing obeys a protocol that allows it as a result. -/
@[simp] theorem obeys_okOr (o : Option α) (e : AuthError) (π : Protocol Action Action.Reply α) :
    (okOr o e).Obeys π h ↔ ∀ v, o = some v → π.result h v := by
  cases o with
  | none => simp [okOr]
  | some v => simp [okOr]

/-- The call goes on with the expiry. -/
@[simp] theorem obeys_expiresAfter (now : Instant) (n : Int64) (π : Protocol Action Action.Reply Instant) :
    (expiresAfter now n).Obeys π h ↔ (Expires now n → π.result h (now + seconds n)) := by
  by_cases hexpires : Expires now n
  · simp [expiresAfter_of now n hexpires, hexpires]
  · obtain ⟨fault, hpanic⟩ := expiresAfter_of_not now n hexpires
    simp [hpanic, hexpires]

/-- A conditional block obeys a protocol if the block does, or nothing is allowed as a result. -/
@[simp] theorem obeys_runIf (condition : Bool) (block : AuthM Unit)
    (π : Protocol Action Action.Reply Unit) :
    (runIf condition block).Obeys π h ↔
      (condition = true → block.Obeys π h) ∧ (condition = false → π.result h ()) := by
  cases condition <;> simp [runIf]

end Obeys

section Fulfils

open Program

variable {C : Contract Action Action.Reply} {α : Type}

/-- Reading the clock fulfils a contract that allows it, if its times meet the postcondition. -/
@[simp] theorem fulfils_utcNow {post : Instant → Prop} :
    utcNow.Fulfils C post ↔ C.allows .now ∧ ∀ t : Instant, C.answers .now t → post t := Iff.rfl

/-- Drawing an id fulfils a contract that allows it, if its ids meet the postcondition. -/
@[simp] theorem fulfils_newUuid {post : Uuid → Prop} :
    newUuid.Fulfils C post ↔ C.allows .uuid ∧ ∀ u : Uuid, C.answers .uuid u → post u := Iff.rfl

/-- Drawing bytes fulfils a contract that allows it, if its bytes meet the postcondition. -/
@[simp] theorem fulfils_randomBytes {post : Vector UInt8 32 → Prop} :
    randomBytes.Fulfils C post ↔ C.allows .randomBytes ∧ ∀ b : Vector UInt8 32, C.answers .randomBytes b →
    post b := Iff.rfl

/-- Drawing a salt fulfils a contract that allows it, if its salts meet the postcondition. -/
@[simp] theorem fulfils_newSalt {post : String → Prop} :
    newSalt.Fulfils C post ↔ C.allows .salt ∧ ∀ s : String, C.answers .salt s → post s := Iff.rfl

/-- Signing fulfils a contract that allows it, if its tokens meet the postcondition. -/
@[simp] theorem fulfils_sign {payload : Payload} {post : String → Prop} :
    (sign payload).Fulfils C post ↔ C.allows (.sign payload) ∧ ∀ s : String, C.answers (.sign payload) s →
    post s := Iff.rfl

/-- A comparison fulfils a contract that allows it, if its verdicts meet the postcondition. -/
@[simp] theorem fulfils_verify {password hash : String} {post : Option Bool → Prop} :
    (perform (.verifyPassword password hash)).Fulfils C post ↔ C.allows (.verifyPassword password hash) ∧
      ∀ r : Option Bool, C.answers (.verifyPassword password hash) r → post r := Iff.rfl

/-- A query goes on with the rows or ends the call. -/
@[simp] theorem fulfils_query {s : Statement} {post : s.Row → Prop} :
    (query s).Fulfils C post ↔ C.allows (.sql s) ∧ ∀ rows : s.Row, C.answers (.sql s) (.ok rows) → post rows := by
  refine and_congr_right fun _ => ⟨fun hall rows => hall (.ok rows), ?_⟩
  intro hok reply hanswer
  cases reply with
  | error e => trivial
  | ok rows => exact hok rows hanswer

/-- The SELECT of an id by an email fulfils a contract that allows it, if its rows meet the postcondition. -/
@[simp] theorem fulfils_selectUserIdByEmail {email : String} {post : Option Uuid → Prop} :
    (selectUserIdByEmail email).Fulfils C post ↔ C.allows (.sql (.selectUserIdByEmail email)) ∧
      ∀ rows : Option Uuid, C.answers (.sql (.selectUserIdByEmail email)) (.ok rows) → post rows := fulfils_query

/-- The SELECT of a user by an email fulfils a contract that allows it, if its rows meet the postcondition. -/
@[simp] theorem fulfils_selectUserByEmail {email : String} {post : Option User → Prop} :
    (selectUserByEmail email).Fulfils C post ↔ C.allows (.sql (.selectUserByEmail email)) ∧
      ∀ rows : Option User, C.answers (.sql (.selectUserByEmail email)) (.ok rows) → post rows := fulfils_query

/-- The SELECT of a user by an id fulfils a contract that allows it, if its rows meet the postcondition. -/
@[simp] theorem fulfils_selectUserById {id : Uuid} {post : Option User → Prop} :
    (selectUserById id).Fulfils C post ↔ C.allows (.sql (.selectUserById id)) ∧
      ∀ rows : Option User, C.answers (.sql (.selectUserById id)) (.ok rows) → post rows := fulfils_query

/-- The UPDATE that verifies an email fulfils a contract that allows it, if its rows meet the postcondition.
-/
@[simp] theorem fulfils_verifyUserEmail {id : Uuid} {post : User → Prop} :
    (verifyUserEmail id).Fulfils C post ↔ C.allows (.sql (.verifyUserEmail id)) ∧
      ∀ rows : User, C.answers (.sql (.verifyUserEmail id)) (.ok rows) → post rows := fulfils_query

/-- The INSERT of a user fulfils a contract that allows it, if its rows meet the postcondition. -/
@[simp] theorem fulfils_insertUser {email passwordHash name : String} {post : User → Prop} :
    (insertUser email passwordHash name).Fulfils C post ↔ C.allows (.sql (.insertUser email passwordHash name)) ∧
      ∀ rows : User, C.answers (.sql (.insertUser email passwordHash name)) (.ok rows) → post rows := fulfils_query

/-- The SELECT of a refresh token fulfils a contract that allows it, if its rows meet the postcondition. -/
@[simp] theorem fulfils_selectRefreshToken {id : Uuid} {tokenHash : String} {post : Option RefreshToken → Prop} :
    (selectRefreshToken id tokenHash).Fulfils C post ↔ C.allows (.sql (.selectRefreshToken id tokenHash)) ∧
      ∀ rows : Option RefreshToken, C.answers (.sql (.selectRefreshToken id tokenHash)) (.ok rows) →
      post rows := fulfils_query

/-- The SELECT of a valid one-time token fulfils a contract that allows it, if its rows meet the
postcondition. -/
@[simp] theorem fulfils_selectValidToken {purpose : Purpose} {tokenHash : String}
    {post : Option (Uuid × Uuid) → Prop} :
    (selectValidToken purpose tokenHash).Fulfils C post ↔ C.allows (.sql (.selectValidToken purpose tokenHash)) ∧
      ∀ rows : Option (Uuid × Uuid), C.answers (.sql (.selectValidToken purpose tokenHash)) (.ok rows) →
      post rows :=
  fulfils_query

/-- A value that may be missing fulfils a contract if it meets the postcondition. -/
@[simp] theorem fulfils_okOr {o : Option α} {e : AuthError} {post : α → Prop} :
    (okOr o e).Fulfils C post ↔ ∀ v, o = some v → post v := by
  cases o with
  | none => simp [okOr]
  | some v => simp [okOr]

/-- The call goes on with the expiry. -/
@[simp] theorem fulfils_expiresAfter {now : Instant} {n : Int64} {post : Instant → Prop} :
    (expiresAfter now n).Fulfils C post ↔ (Expires now n → post (now + seconds n)) := by
  by_cases hexpires : Expires now n
  · simp [expiresAfter_of now n hexpires, hexpires]
  · obtain ⟨fault, hpanic⟩ := expiresAfter_of_not now n hexpires
    simp [hpanic, hexpires]

/-- A conditional block fulfils a contract if the block does, or the postcondition holds. -/
@[simp] theorem fulfils_runIf {condition : Bool} {block : AuthM Unit} {post : Unit → Prop} :
    (runIf condition block).Fulfils C post ↔ (condition = true → block.Fulfils C post) ∧
    (condition = false → post ()) := by
  cases condition with
  | false => simp [runIf]
  | true => simp [runIf]

end Fulfils

namespace AuthService

variable (svc : AuthService)

/-- Hash a password using Argon2id. -/
def hashPassword (password : String) : AuthM String := do
  let salt ← newSalt
  let cfg := svc.config
  let _ ← runIf (!svc.prims.argon2Params cfg.argon2MemoryCost cfg.argon2TimeCost cfg.argon2Parallelism)
    (Program.fail (.err .internal))
  okOr (svc.prims.argon2Hash cfg.argon2MemoryCost cfg.argon2TimeCost cfg.argon2Parallelism salt password)
    .internal

/-- The result of comparing a password with a hash; no result when the hash does not parse
or the Argon2 parameters are refused. -/
def comparePassword (password hash : String) : Option Bool :=
  let cfg := svc.config
  if !svc.prims.passwordHashParses hash then none
  else if !svc.prims.argon2Params cfg.argon2MemoryCost cfg.argon2TimeCost cfg.argon2Parallelism then none
  else some (svc.prims.argon2Verify password hash)

/-- Verify a password against a hash. -/
def verifyPassword (password hash : String) : AuthM Bool := do
  let result ← perform (.verifyPassword password hash)
  okOr result .internal

/-- Password strength: length in bytes, an uppercase letter, a lowercase letter, a digit. -/
def passwordAccepted (password : String) : Bool :=
  !decide (password.utf8ByteSize < svc.config.minPasswordLength) &&
    (password.toList.any svc.prims.isUppercase && password.toList.any svc.prims.isLowercase &&
      password.toList.any Char.isDigit)

/-- Validate password strength. -/
def validatePassword (password : String) : AuthM Unit :=
  runIf (!svc.passwordAccepted password) (Program.fail (.err .weakPassword))

/-- The claims of an access token for a user, with the expiry that is computed for it. -/
def accessClaims (user : User) (now : Instant) (jti : Uuid) : AccessTokenClaims where
  sub := user.id
  email := user.email
  name := user.name
  role := user.role.asStr
  iat := timestamp now
  exp := timestamp (now + seconds svc.config.accessTokenExpiration)
  iss := svc.config.jwtIssuer
  aud := svc.config.jwtAudience
  jti := jti

/-- The claims of a refresh token, with the expiry that is computed for it. -/
def refreshClaims (userId tokenId : Uuid) (now : Instant) : RefreshTokenClaims where
  sub := userId
  tid := tokenId
  iat := timestamp now
  exp := timestamp (now + seconds svc.config.refreshTokenExpiration)
  iss := svc.config.jwtIssuer

/-- Generate an access token for a user. -/
def generateAccessToken (user : User) : AuthM String := do
  let now ← utcNow
  let _ ← expiresAfter now svc.config.accessTokenExpiration
  let jti ← newUuid
  sign (svc.accessClaims user now jti).toPayload

/-- Generate a refresh token. -/
def generateRefreshToken (userId : Uuid) (ipAddress userAgent : Option String) : AuthM String := do
  let tokenId ← newUuid
  let now ← utcNow
  let exp ← expiresAfter now svc.config.refreshTokenExpiration
  let tokenBytes ← randomBytes
  let tokenString := base64UrlEncode tokenBytes.toList
  let tokenHash := svc.hashToken tokenString
  let _ ← query (.insertRefreshToken tokenId userId tokenHash exp ipAddress userAgent)
  let jwt ← sign (svc.refreshClaims userId tokenId now).toPayload
  pure (jwt ++ "." ++ tokenString)

/-- Cut a combined refresh token into its random part and its JWT. -/
def splitToken (refreshToken : String) : AuthM (String × String) :=
  match rsplitDot refreshToken with
  | [tokenString, jwtPart] => pure (tokenString, jwtPart)
  | _ => Program.fail (.err .invalidToken)

/-- Cutting a refresh token obeys a protocol that allows both parts as a result. -/
@[simp] theorem obeys_splitToken (refreshToken : String)
    (π : Program.Protocol Action Action.Reply (String × String))
    (h : Program.History Action Action.Reply) :
    (splitToken refreshToken).Obeys π h ↔
      ∀ tokenString jwt, rsplitDot refreshToken = [tokenString, jwt] → π.result h (tokenString, jwt) := by
  unfold splitToken
  split
  · rename_i tokenString jwt heq
    simp [heq]
  · rename_i hne
    simp only [Program.obeys_fail, true_iff]
    intro tokenString jwt heq
    exact absurd heq (hne tokenString jwt)

/-- Cutting a refresh token fulfils a contract if its parts meet the postcondition. -/
@[simp] theorem fulfils_splitToken {C : Program.Contract Action Action.Reply} {refreshToken : String}
    {post : String × String → Prop} :
    (splitToken refreshToken).Fulfils C post ↔
      ∀ tokenString jwt, rsplitDot refreshToken = [tokenString, jwt] → post (tokenString, jwt) := by
  unfold splitToken
  split
  · rename_i tokenString jwt heq
    simp [heq]
  · rename_i hne
    simp only [Program.fulfils_fail, true_iff]
    intro tokenString jwt heq
    exact absurd heq (hne tokenString jwt)

/-- Both parts are found exactly when the text is cut in two. -/
theorem splitToken_eq_pure {refreshToken tokenString jwtPart : String} :
    splitToken refreshToken = pure (tokenString, jwtPart) ↔ rsplitDot refreshToken = [tokenString, jwtPart] := by
  unfold splitToken
  split
  · rename_i foundString foundJwt hcut
    rw [hcut]
    constructor
    · intro h
      cases h
      rfl
    · intro h
      cases h
      rfl
  · rename_i hne
    constructor
    · intro h
      cases h
    · exact fun hcut => absurd hcut (hne tokenString jwtPart)

/-- The format of combined refresh tokens is unambiguous: a JWT and encoded bytes are cut apart again,
whatever dots the JWT has; different bytes have different encodings, in hexadecimal digits; and a text that is
cut in two is the two parts with a dot between them, the last dot of the text. -/
theorem combinedToken_unambiguous :
    (∀ jwt data, rsplitDot (jwt ++ "." ++ base64UrlEncode data) = [base64UrlEncode data, jwt]) ∧
      (∀ text tokenString jwt, rsplitDot text = [tokenString, jwt] ↔ splitToken text = pure (tokenString, jwt)) ∧
      Function.Injective base64UrlEncode ∧
      (∀ data, ∀ c ∈ (base64UrlEncode data).toList, c ∈ hexDigits) ∧
      ∀ text tokenString jwt, rsplitDot text = [tokenString, jwt] →
        jwt ++ "." ++ tokenString = text ∧ '.' ∉ tokenString.toList := by
  refine ⟨?_, ?_, ?_, ?_, ?_⟩
  · intro jwt data
    exact rsplitDot_append jwt (base64UrlEncode data) (dot_not_mem_base64UrlEncode data)
  · intro text tokenString jwt
    exact splitToken_eq_pure.symm
  · intro data data' hsame
    exact base64UrlEncode_inj.mp hsame
  · intro data c hc
    exact mem_hexDigits hc
  · intro text tokenString jwt hcut
    obtain ⟨htext, hlast⟩ := rsplitDot_eq_pair.mp hcut
    exact ⟨htext.symm, hlast⟩

/-- Register a new user. -/
def register (req : RegisterRequest) : AuthM User := do
  let _ ← svc.validatePassword req.password
  let existing ← selectUserIdByEmail req.email
  let _ ← runIf (existing.isSome) (Program.fail (.err .emailExists))
  let passwordHash ← svc.hashPassword req.password
  insertUser req.email passwordHash req.name

/-- Increment failed login attempts. -/
def incrementFailedAttempts (userId : Uuid) : AuthM Unit := do
  let _ ← query (.incrementFailedAttempts userId svc.config.maxLoginAttempts svc.config.lockoutDuration)
  pure ()

/-- Record successful login. -/
def recordSuccessfulLogin (userId : Uuid) (ipAddress : Option String) : AuthM Unit := do
  let _ ← query (.recordSuccessfulLogin userId ipAddress)
  pure ()

/-- Attempt to log a user in. -/
def login (req : LoginRequest) (ipAddress userAgent : Option String) : AuthM AuthResponse := do
  let user ← selectUserByEmail req.email
  let user ← okOr user .invalidCredentials
  let now ← utcNow
  let _ ← runIf (user.isLocked now) (Program.fail (.err .accountLocked))
  let _ ← runIf (user.status != .active) (Program.fail (.err .accountNotActive))
  let verified ← verifyPassword req.password user.passwordHash
  let _ ← runIf (!verified) do
    let _ ← svc.incrementFailedAttempts user.id
    Program.fail (.err .invalidCredentials)
  let _ ← runIf (svc.config.requireEmailVerification && !user.isEmailVerified)
    (Program.fail (.err .emailNotVerified))
  let _ ← recordSuccessfulLogin user.id ipAddress
  let accessToken ← svc.generateAccessToken user
  let refreshToken ← svc.generateRefreshToken user.id ipAddress userAgent
  pure {
    user := UserResponse.ofUser user
    accessToken := accessToken
    refreshToken := refreshToken
    tokenType := "Bearer"
    expiresIn := svc.config.accessTokenExpiration }

/-- Logout by revoking the refresh token. The signature of the JWT is not checked here. -/
def logout (refreshToken : String) : AuthM Unit := do
  let (_, jwtPart) ← splitToken refreshToken
  let now ← utcNow
  let claims ← okOr (svc.decodeRefresh false now jwtPart) .invalidToken
  let _ ← query (.revokeRefreshToken claims.tid)
  pure ()

/-- Revoke all refresh tokens of a user. -/
def revokeAllTokens (userId : Uuid) : AuthM Unit := do
  let _ ← query (.revokeAllTokens userId)
  pure ()

/-- The part of `refreshTokens` after the stored token was found valid. -/
def rotate (claims : RefreshTokenClaims) (ipAddress userAgent : Option String) : AuthM TokenResponse := do
  let user ← selectUserById claims.sub
  let user ← okOr user .userNotFound
  let now ← utcNow
  let _ ← runIf (!user.canLogin now) (Program.fail (.err .accountNotActive))
  let accessToken ← svc.generateAccessToken user
  let refreshToken ← svc.generateRefreshToken user.id ipAddress userAgent
  let _ ← query (.revokeRefreshToken claims.tid)
  pure {
    accessToken := accessToken
    refreshToken := refreshToken
    tokenType := "Bearer"
    expiresIn := svc.config.accessTokenExpiration }

/-- The part of `refreshTokens` after the JWT was decoded. A revoked token that is presented again
revokes every token of its user. -/
def redeem (tokenString : String) (claims : RefreshTokenClaims) (ipAddress userAgent : Option String) :
    AuthM TokenResponse := do
  let storedToken ← selectRefreshToken claims.tid (svc.hashToken tokenString)
  let storedToken ← okOr storedToken .invalidToken
  let now ← utcNow
  if storedToken.isValid now then svc.rotate claims ipAddress userAgent
  else do
    let _ ← runIf storedToken.isRevoked (revokeAllTokens claims.sub)
    Program.fail (.err .tokenRevoked)

/-- Refresh the access token, rotating the refresh token. -/
def refreshTokens (refreshToken : String) (ipAddress userAgent : Option String) : AuthM TokenResponse := do
  let (tokenString, jwtPart) ← splitToken refreshToken
  let now ← utcNow
  let claims ← okOr (svc.decodeRefresh true now jwtPart) .invalidToken
  svc.redeem tokenString claims ipAddress userAgent

/-- Issue a one-time token: draw it, invalidate the unused ones of the user, store its hash. -/
def issueOneTimeToken (purpose : Purpose) (lifetime : Int64) (userId : Uuid) : AuthM String := do
  let tokenBytes ← randomBytes
  let token := base64UrlEncode tokenBytes.toList
  let tokenHash := svc.hashToken token
  let now ← utcNow
  let expiresAt ← expiresAfter now lifetime
  let _ ← query (.invalidateTokens purpose userId)
  let _ ← query (.insertOneTimeToken purpose userId tokenHash expiresAt)
  pure token

/-- Initiate a password reset. An unknown email gets the empty string. -/
def forgotPassword (email : String) : AuthM String := do
  let user ← selectUserByEmail email
  match user with
  | none => pure ""
  | some user => svc.issueOneTimeToken .passwordReset svc.config.passwordResetExpiration user.id

/-- Complete a password reset. -/
def resetPassword (req : ResetPasswordRequest) : AuthM Unit := do
  let _ ← svc.validatePassword req.password
  let tokenRecord ← selectValidToken .passwordReset (svc.hashToken req.token)
  let (tokenId, userId) ← okOr tokenRecord .invalidToken
  let passwordHash ← svc.hashPassword req.password
  let _ ← query (.updatePassword passwordHash userId)
  let _ ← query (.markTokenUsed .passwordReset tokenId)
  revokeAllTokens userId

/-- Change the password of an authenticated user. -/
def changePassword (userId : Uuid) (req : ChangePasswordRequest) : AuthM Unit := do
  let user ← selectUserById userId
  let user ← okOr user .userNotFound
  let verified ← verifyPassword req.currentPassword user.passwordHash
  let _ ← runIf (!verified) (Program.fail (.err .invalidCredentials))
  let _ ← svc.validatePassword req.newPassword
  let passwordHash ← svc.hashPassword req.newPassword
  let _ ← query (.updatePassword passwordHash userId)
  revokeAllTokens userId

/-- Create an email verification token. -/
def createEmailVerification (userId : Uuid) : AuthM String :=
  svc.issueOneTimeToken .emailVerification svc.config.emailVerificationExpiration userId

/-- Verify an email with a token. -/
def verifyEmail (token : String) : AuthM User := do
  let tokenRecord ← selectValidToken .emailVerification (svc.hashToken token)
  let (tokenId, userId) ← okOr tokenRecord .invalidToken
  let user ← verifyUserEmail userId
  let _ ← query (.markTokenUsed .emailVerification tokenId)
  pure user

/-- The handler of `/auth/resend-verification` for an authenticated user. -/
def resendVerification (userId : Uuid) : AuthM (Option String) := do
  let fullUser ← selectUserById userId
  let fullUser ← okOr fullUser .userNotFound
  if fullUser.emailVerifiedAt.isSome then pure none
  else do
    let token ← svc.createEmailVerification userId
    pure (some token)

end AuthService

end RustPressAuth
