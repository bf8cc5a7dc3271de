import RustPressAuth.Handlers

/-!
# Responses

What a client receives: the reply of a handler, or the error the call ended with, as a
status and a JSON body. The fields of an object stand in the order they are written in.
-/

namespace RustPressAuth

open Atomic

/-- A JSON value. -/
inductive Json where
  | null
  | bool (value : Bool)
  | number (value : ℤ)
  | string (value : String)
  | object (fields : List (String × Json))

/-- A missing value is null. -/
def Json.ofOption : Option String → Json
  | none => .null
  | some value => .string value

/-- The status of a response, and its body. -/
structure HttpResponse where
  status : ℕ
  body : Json

/-- The text of an error. -/
def AuthError.toString : AuthError → String
  | .invalidCredentials => "Invalid credentials"
  | .accountLocked => "Account is locked. Try again later"
  | .accountNotActive => "Account is not active"
  | .emailNotVerified => "Email not verified"
  | .invalidToken => "Invalid or expired token"
  | .tokenRevoked => "Token has been revoked"
  | .userNotFound => "User not found"
  | .emailExists => "Email already registered"
  | .weakPassword => "Password does not meet requirements"
  | .validation message => "Validation error: " ++ message
  | .database message => "Database error: " ++ message
  | .config message => "Configuration error: " ++ message
  | .internal => "Internal error"

/-- The status, the code and the message of the response to an error. -/
def AuthError.rejection (e : AuthError) : Rejection :=
  match e with
  | .invalidCredentials => ⟨401, "invalid_credentials", e.toString⟩
  | .accountLocked => ⟨403, "account_locked", e.toString⟩
  | .accountNotActive => ⟨403, "account_not_active", e.toString⟩
  | .emailNotVerified => ⟨403, "email_not_verified", e.toString⟩
  | .invalidToken | .tokenRevoked => ⟨401, "invalid_token", e.toString⟩
  | .userNotFound => ⟨404, "user_not_found", e.toString⟩
  | .emailExists => ⟨409, "email_exists", e.toString⟩
  | .weakPassword => ⟨400, "weak_password", e.toString⟩
  | .validation message => ⟨400, "validation_error", message⟩
  | .config message => ⟨500, "configuration_error", message⟩
  | .database _ | .internal => ⟨500, "internal_error", "An internal error occurred"⟩

/-- The response to a request that was turned away. -/
def Rejection.response (r : Rejection) : HttpResponse :=
  ⟨r.status, .object [("error", .string r.error), ("message", .string r.message)]⟩

/-- The response to an error. -/
def AuthError.intoResponse (e : AuthError) : HttpResponse := e.rejection.response

/-- How ids and times are written. -/
structure Texts where
  uuid : Uuid → String
  time : Instant → String

namespace Texts

variable (texts : Texts)

/-- The body with a user. -/
def user (u : UserResponse) : Json :=
  .object [("id", .string (texts.uuid u.id)), ("email", .string u.email), ("name", .string u.name),
    ("role", .string u.role.asStr), ("avatar", .ofOption u.avatar), ("bio", .ofOption u.bio),
    ("website", .ofOption u.website), ("email_verified", .bool u.emailVerified),
    ("created_at", .string (texts.time u.createdAt))]

/-- The body with a session. -/
def session (r : AuthResponse) : Json :=
  .object [("user", texts.user r.user), ("access_token", .string r.accessToken),
    ("refresh_token", .string r.refreshToken), ("token_type", .string r.tokenType),
    ("expires_in", .number r.expiresIn.toInt)]

/-- The body with new tokens. -/
def tokens (r : TokenResponse) : Json :=
  .object [("access_token", .string r.accessToken), ("refresh_token", .string r.refreshToken),
    ("token_type", .string r.tokenType), ("expires_in", .number r.expiresIn.toInt)]

/-- The body with the claims of the caller. -/
def authUser (u : AuthUser) : Json :=
  .object [("id", .string (texts.uuid u.id)), ("email", .string u.email), ("name", .string u.name),
    ("role", .string u.role)]

/-- The response with the reply of a handler. -/
def response : HttpReply → HttpResponse
  | .registered message u verificationToken =>
    ⟨201, .object [("message", .string message), ("user", texts.user u),
      ("verification_token", .string verificationToken)]⟩
  | .session r => ⟨200, texts.session r⟩
  | .tokens r => ⟨200, tokens r⟩
  | .resetLink message resetToken =>
    ⟨200, .object [("message", .string message), ("reset_token", .ofOption resetToken)]⟩
  | .emailVerified message u => ⟨200, .object [("message", .string message), ("user", texts.user u)]⟩
  | .resent message verificationToken =>
    ⟨200, .object [("message", .string message), ("verification_token", .string verificationToken)]⟩
  | .user u => ⟨200, .object [("user", texts.authUser u)]⟩
  | .message text => ⟨200, .object [("message", .string text)]⟩
  | .rejected r => r.response

/-- The response to a call, with its reply or its error. A call that panics has none. -/
def respond : Except Failure HttpReply → Option HttpResponse
  | .ok reply => some (texts.response reply)
  | .error (.err e) => some e.intoResponse
  | .error (.panic _) => none

end Texts

mutual

/-- The value with the strings for which the test holds left out. -/
def Json.erase (drawn : String → Bool) : Json → Json
  | .null => .null
  | .bool value => .bool value
  | .number value => .number value
  | .string value => .string (if drawn value then "" else value)
  | .object fields => .object (eraseFields drawn fields)

/-- The fields, with random strings erased in their values. -/
def eraseFields (drawn : String → Bool) : List (String × Json) → List (String × Json)
  | [] => []
  | (name, value) :: rest => (name, value.erase drawn) :: eraseFields drawn rest

end

/-- The text was made from random bytes in the course of the call. -/
def drawsText (tr : Program.History Action Action.Reply) (text : String) : Bool :=
  tr.any fun
    | ⟨.randomBytes, bytes⟩ => base64UrlEncode (bytes : Vector UInt8 32).toList = text
    | _ => false

/-- The response with the values of random bytes left out. -/
def HttpResponse.observed (r : HttpResponse) (tr : Program.History Action Action.Reply) : HttpResponse :=
  ⟨r.status, r.body.erase (drawsText tr)⟩

/-- What the client sees of a call, with the values of random bytes left out. -/
def Texts.observe (texts : Texts) (res : Except Failure HttpReply) (tr : Program.History Action Action.Reply) :
    Option HttpResponse := (texts.respond res).map (·.observed tr)

end RustPressAuth
