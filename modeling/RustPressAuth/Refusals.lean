import RustPressAuth.Atomic.Erasure
import RustPressAuth.Isolation
import RustPressAuth.EmailVerification
import RustPressAuth.Responses

/-!
# Requests that were turned away

A request is turned away by the middleware, or with an error whose status is one of the
client's. What such a request has written is known from the request and the error: one
failed login counted for a wrong password, one revocation of all sessions for a refresh
token presented after its own revocation, and nothing at all in every other case.

So all the others could as well not have been made. Whatever the interleaving, the run
without them exists, with the same replies to all other requests and the same database.
-/

namespace RustPressAuth

open Atomic Program Machine

section Ends

variable {α : Type} (h : Trace)

/-- Reading the clock ends with a time. -/
@[simp] theorem ends_utcNow (ending : Trace → Except Failure Instant → Prop) :
    utcNow.Ends ending h ↔ ∀ t : Instant, ending (did .now t :: h) (.ok t) := Iff.rfl

/-- Drawing an id ends with one. -/
@[simp] theorem ends_newUuid (ending : Trace → Except Failure Uuid → Prop) :
    newUuid.Ends ending h ↔ ∀ u : Uuid, ending (did .uuid u :: h) (.ok u) := Iff.rfl

/-- Drawing bytes ends with some. -/
@[simp] theorem ends_randomBytes (ending : Trace → Except Failure (Vector UInt8 32) → Prop) :
    randomBytes.Ends ending h ↔ ∀ b : Vector UInt8 32, ending (did .randomBytes b :: h) (.ok b) := Iff.rfl

/-- Drawing a salt ends with one. -/
@[simp] theorem ends_newSalt (ending : Trace → Except Failure String → Prop) :
    newSalt.Ends ending h ↔ ∀ s : String, ending (did .salt s :: h) (.ok s) := Iff.rfl

/-- Signing ends with a token. -/
@[simp] theorem ends_sign (payload : Payload) (ending : Trace → Except Failure String → Prop) :
    (sign payload).Ends ending h ↔ ∀ s : String, ending (did (.sign payload) s :: h) (.ok s) := Iff.rfl

/-- A comparison ends with a verdict. -/
@[simp] theorem ends_verify (password hash : String) (ending : Trace → Except Failure (Option Bool) → Prop) :
    (perform (.verifyPassword password hash)).Ends ending h ↔
      ∀ r : Option Bool, ending (did (.verifyPassword password hash) r :: h) (.ok r) := Iff.rfl

/-- A query ends with the rows or with the error of the database. -/
@[simp] theorem ends_query (s : Statement) (ending : Trace → Except Failure s.Row → Prop) :
    (query s).Ends ending h ↔ (∀ rows : s.Row, ending (executed s rows :: h) (.ok rows)) ∧
      ∀ e : DbError, ending (did (.sql s) (.error e) :: h) (.error (.err (.database e))) := by
  constructor
  · intro hends
    exact ⟨fun rows => hends (.ok rows), fun e => hends (.error e)⟩
  · rintro ⟨hrows, herror⟩ (e | rows)
    · exact herror e
    · exact hrows rows

/-- The SELECT of an id by an email ends with rows or an error of the database. -/
@[simp] theorem ends_selectUserIdByEmail (email : String) (ending : Trace → Except Failure (Option Uuid) → Prop) :
    (selectUserIdByEmail email).Ends ending h ↔
      (∀ rows : Option Uuid, ending (executed (.selectUserIdByEmail email) rows :: h) (.ok rows)) ∧
      ∀ e : DbError,
        ending (did (.sql (.selectUserIdByEmail email)) (.error e) :: h) (.error (.err (.database e))) :=
  ends_query h (.selectUserIdByEmail email) ending

/-- The INSERT of a user ends with its row or an error of the database. -/
@[simp] theorem ends_insertUser (email passwordHash name : String) (ending : Trace → Except Failure User → Prop) :
    (insertUser email passwordHash name).Ends ending h ↔
      (∀ user : User, ending (executed (.insertUser email passwordHash name) user :: h) (.ok user)) ∧
      ∀ e : DbError,
        ending (did (.sql (.insertUser email passwordHash name)) (.error e) :: h) (.error (.err (.database e))) :=
  ends_query h (.insertUser email passwordHash name) ending

/-- The SELECT of a user by an email ends with rows or an error of the database. -/
@[simp] theorem ends_selectUserByEmail (email : String) (ending : Trace → Except Failure (Option User) → Prop) :
    (selectUserByEmail email).Ends ending h ↔
      (∀ rows : Option User, ending (executed (.selectUserByEmail email) rows :: h) (.ok rows)) ∧
      ∀ e : DbError, ending (did (.sql (.selectUserByEmail email)) (.error e) :: h) (.error (.err (.database e))) :=
  ends_query h (.selectUserByEmail email) ending

/-- The SELECT of a user by an id ends with rows or an error of the database. -/
@[simp] theorem ends_selectUserById (id : Uuid) (ending : Trace → Except Failure (Option User) → Prop) :
    (selectUserById id).Ends ending h ↔
      (∀ rows : Option User, ending (executed (.selectUserById id) rows :: h) (.ok rows)) ∧
      ∀ e : DbError, ending (did (.sql (.selectUserById id)) (.error e) :: h) (.error (.err (.database e))) :=
  ends_query h (.selectUserById id) ending

/-- The SELECT of a refresh token ends with rows or an error of the database. -/
@[simp] theorem ends_selectRefreshToken (id : Uuid) (tokenHash : String)
    (ending : Trace → Except Failure (Option RefreshToken) → Prop) :
    (selectRefreshToken id tokenHash).Ends ending h ↔
      (∀ rows : Option RefreshToken, ending (executed (.selectRefreshToken id tokenHash) rows :: h) (.ok rows)) ∧
      ∀ e : DbError,
        ending (did (.sql (.selectRefreshToken id tokenHash)) (.error e) :: h) (.error (.err (.database e))) :=
  ends_query h (.selectRefreshToken id tokenHash) ending

/-- The SELECT of a valid one-time token ends with rows or an error of the database. -/
@[simp] theorem ends_selectValidToken (purpose : Purpose) (tokenHash : String)
    (ending : Trace → Except Failure (Option (Uuid × Uuid)) → Prop) :
    (selectValidToken purpose tokenHash).Ends ending h ↔
      (∀ rows : Option (Uuid × Uuid), ending (executed (.selectValidToken purpose tokenHash) rows :: h)
        (.ok rows)) ∧
      ∀ e : DbError,
        ending (did (.sql (.selectValidToken purpose tokenHash)) (.error e) :: h) (.error (.err (.database e))) :=
  ends_query h (.selectValidToken purpose tokenHash) ending

/-- The UPDATE that verifies an email ends with a row or an error of the database. -/
@[simp] theorem ends_verifyUserEmail (id : Uuid) (ending : Trace → Except Failure User → Prop) :
    (verifyUserEmail id).Ends ending h ↔
      (∀ user : User, ending (executed (.verifyUserEmail id) user :: h) (.ok user)) ∧
      ∀ e : DbError, ending (did (.sql (.verifyUserEmail id)) (.error e) :: h) (.error (.err (.database e))) :=
  ends_query h (.verifyUserEmail id) ending

/-- A value that may be missing ends with it or with the error. -/
@[simp] theorem ends_okOr (o : Option α) (e : AuthError) (ending : Trace → Except Failure α → Prop) :
    (okOr o e).Ends ending h ↔ (∀ v, o = some v → ending h (.ok v)) ∧ (o = none → ending h (.error (.err e))) := by
  cases o with
  | none => simp [okOr]
  | some v => simp [okOr]

/-- The computation of an expiry ends with the expiry, or panics. -/
@[simp] theorem ends_expiresAfter (now : Instant) (n : Int64) (ending : Trace → Except Failure Instant → Prop) :
    (expiresAfter now n).Ends ending h ↔ (∀ t, expiry now n = .ok t → ending h (.ok t)) ∧
      ∀ fault, expiry now n = .error fault → ending h (.error (.panic fault)) := by
  unfold expiresAfter
  cases expiry now n with
  | ok t => simp
  | error fault => simp

/-- A conditional block ends as the block, or with nothing. -/
@[simp] theorem ends_runIf (condition : Bool) (block : AuthM Unit) (ending : Trace → Except Failure Unit → Prop) :
    (runIf condition block).Ends ending h ↔
      (condition = true → block.Ends ending h) ∧ (condition = false → ending h (.ok ())) := by
  cases condition with
  | false => simp [runIf]
  | true => simp [runIf]

/-- Cutting a refresh token ends with its parts, or with an invalid token. -/
@[simp] theorem ends_splitToken (refreshToken : String) (ending : Trace → Except Failure (String × String) → Prop) :
    (AuthService.splitToken refreshToken).Ends ending h ↔
      (∀ tokenString jwt, rsplitDot refreshToken = [tokenString, jwt] → ending h (.ok (tokenString, jwt))) ∧
      ((∀ tokenString jwt, rsplitDot refreshToken ≠ [tokenString, jwt]) →
        ending h (.error (.err .invalidToken))) := by
  unfold AuthService.splitToken
  split
  · rename_i tokenString jwt hcut
    simp [hcut]
  · rename_i hne
    constructor
    · intro hends
      exact ⟨fun tokenString jwt hcut => absurd hcut (hne tokenString jwt), fun _ => hends⟩
    · exact fun hends => hends.2 hne

/-- The check of a body ends with its errors, or with nothing. -/
@[simp] theorem ends_validate (http : Http) (errors : List FieldError)
    (ending : Trace → Except Failure Unit → Prop) :
    (http.validate errors).Ends ending h ↔
      (errors ≠ [] → ending h (.error (.err (.validation (http.displayErrors errors))))) ∧
      (errors = [] → ending h (.ok ())) := by
  cases errors with
  | nil => simp [Http.validate]
  | cons e rest => simp [Http.validate]

end Ends

/-- The statements by which a call has written, most recent first. -/
def written (h : Trace) : List Statement :=
  h.filterMap fun
    | ⟨.sql s, .ok _⟩ => if s.isQuery then none else some s
    | _ => none

section Written

variable (h : Trace)

/-- Nothing was written at the start. -/
@[simp] theorem written_nil : written [] = [] := rfl

/-- Reading the clock writes nothing. -/
@[simp] theorem written_now (t : Instant) : written (did .now t :: h) = written h := rfl

/-- Drawing an id writes nothing. -/
@[simp] theorem written_uuid (u : Uuid) : written (did .uuid u :: h) = written h := rfl

/-- Drawing bytes writes nothing. -/
@[simp] theorem written_randomBytes (b : Vector UInt8 32) : written (did .randomBytes b :: h) = written h := rfl

/-- Drawing a salt writes nothing. -/
@[simp] theorem written_salt (s : String) : written (did .salt s :: h) = written h := rfl

/-- Signing writes nothing. -/
@[simp] theorem written_sign (payload : Payload) (s : String) :
    written (did (.sign payload) s :: h) = written h := rfl

/-- A comparison writes nothing. -/
@[simp] theorem written_verify (password hash : String) (r : Option Bool) :
    written (did (.verifyPassword password hash) r :: h) = written h := rfl

/-- A statement that ran has written, unless it is a query. -/
@[simp] theorem written_executed (s : Statement) (rows : s.Row) :
    written (executed s rows :: h) = if s.isQuery then written h else s :: written h := by
  cases hquery : s.isQuery with
  | true => simp [written, hquery]
  | false => simp [written, hquery]

/-- A statement that failed has written nothing. -/
@[simp] theorem written_failed (s : Statement) (e : DbError) :
    written (did (.sql s) (.error e) :: h) = written h := rfl

variable {h}

/-- An entry of a call that has written nothing is no successful write. -/
theorem isQuery_of_written {s : Statement} {rows : s.Row} (hwritten : written h = []) (hmem : executed s rows ∈ h) :
    s.isQuery = true := by
  by_contra hwrites
  have hs : s ∈ written h := by
    rw [written, List.mem_filterMap]
    exact ⟨executed s rows, hmem, if_neg hwrites⟩
  rw [hwritten] at hs
  exact List.not_mem_nil hs

end Written

/-- The error is answered with a status of the client's errors. -/
def AuthError.OfClient (e : AuthError) : Prop := e.rejection.status < 500

instance (e : AuthError) : Decidable e.OfClient := inferInstanceAs (Decidable (_ < _))

/-- An error of the database is not the client's. -/
@[simp] theorem not_ofClient_database (message : String) : ¬ (AuthError.database message).OfClient := by
  simp [AuthError.OfClient, AuthError.rejection]

/-- An internal error is not the client's. -/
@[simp] theorem not_ofClient_internal : ¬ AuthError.internal.OfClient := by
  simp [AuthError.OfClient, AuthError.rejection]

/-- The request was turned away: by the middleware, or with an error of the client's. -/
def Refused : Except Failure HttpReply → Prop
  | .ok (.rejected _) => True
  | .ok _ => False
  | .error (.err e) => e.OfClient
  | .error (.panic _) => False

/-- What a request that was turned away has written. -/
inductive RefusalWrites (svc : AuthService) : HttpRequest → Except Failure HttpReply → Trace → Prop
  /-- Nothing: in a login that was denied nobody has the email, and a refresh token that was turned away as
  revoked has a row that is not revoked, so it has expired. -/
  | nothing {request : HttpRequest} {result : Except Failure HttpReply} {h : Trace} (hwritten : written h = [])
      (hlogin : ∀ client r, request = .login client r → result = .error (.err .invalidCredentials) →
        executed (.selectUserByEmail r.email) none ∈ h)
      (hrefresh : ∀ client token, request = .refresh client token → result = .error (.err .tokenRevoked) →
        ∃ id tokenHash row, executed (.selectRefreshToken id tokenHash) (some row) ∈ h ∧ row.isRevoked = false) :
      RefusalWrites svc request result h
  /-- One failed login, counted for the user with the email, whose password did not match. -/
  | failedLogin {client : ClientInfo} {r : LoginRequest} {user : User} {h : Trace}
      (hread : executed (.selectUserByEmail r.email) (some user) ∈ h)
      (hcompared : did (.verifyPassword r.password user.passwordHash) (some false) ∈ h)
      (hwritten : written h =
        [.incrementFailedAttempts user.id svc.config.maxLoginAttempts svc.config.lockoutDuration]) :
      RefusalWrites svc (.login client r) (.error (.err .invalidCredentials)) h
  /-- All sessions of the user a refresh token names, where its row is revoked. -/
  | reuse {client : ClientInfo} {token tokenString jwt : String} {now : Instant} {claims : RefreshTokenClaims}
      {row : RefreshToken} {h : Trace} (hcut : rsplitDot token = [tokenString, jwt])
      (hdecoded : svc.decodeRefresh true now jwt = some claims)
      (hread : executed (.selectRefreshToken claims.tid (svc.hashToken tokenString)) (some row) ∈ h)
      (hrevoked : row.isRevoked = true) (hwritten : written h = [.revokeAllTokens claims.sub]) :
      RefusalWrites svc (.refresh client token) (.error (.err .tokenRevoked)) h

section Endings

variable {http : Http} {svc : AuthService} {h : Trace}

/-- How a request ends: what it has written is known when it was turned away. -/
def refusalEnding (svc : AuthService) (request : HttpRequest) (h : Trace)
    (result : Except Failure HttpReply) : Prop :=
  Refused result → RefusalWrites svc request result h

/-- A reply that is no refusal says nothing about what was written. -/
@[simp] theorem refusalEnding_ok {request : HttpRequest} {reply : HttpReply} (hreply : ¬ Refused (.ok reply)) :
    refusalEnding svc request h (.ok reply) := fun hrefused => absurd hrefused hreply

/-- An error of the database says nothing about what was written. -/
@[simp] theorem refusalEnding_database {request : HttpRequest} {message : String} :
    refusalEnding svc request h (.error (.err (.database message))) :=
    fun hrefused => absurd hrefused (not_ofClient_database message)

/-- An internal error says nothing about what was written. -/
@[simp] theorem refusalEnding_internal {request : HttpRequest} :
    refusalEnding svc request h (.error (.err .internal)) :=
  fun hrefused => absurd hrefused not_ofClient_internal

/-- A panic says nothing about what was written. -/
@[simp] theorem refusalEnding_panic {request : HttpRequest} {fault : TimeFault} :
    refusalEnding svc request h (.error (.panic fault)) := fun hrefused => hrefused.elim

/-- Where nothing was written, the two errors that may come with a write are the only ones to look at. -/
theorem refusalEnding_of_nothing {request : HttpRequest} {result : Except Failure HttpReply}
    (hwritten : written h = [])
    (hlogin : ∀ client r, request = .login client r → result ≠ .error (.err .invalidCredentials))
    (hrefresh : ∀ client token, request = .refresh client token → result ≠ .error (.err .tokenRevoked)) :
    refusalEnding svc request h result := by
  intro _
  refine .nothing hwritten ?_ ?_
  · intro client r hrequest heq
    exact absurd heq (hlogin client r hrequest)
  · intro client token hrequest heq
    exact absurd heq (hrefresh client token hrequest)

/-- The steps after which only the database or the hash function can still fail. -/
theorem hashPassword_ends {password : String} {ending : Trace → Except Failure String → Prop}
    (hnext : ∀ passwordHash salt, ending (did .salt salt :: h) (.ok passwordHash))
    (hinternal : ∀ h', ending h' (.error (.err .internal))) : (svc.hashPassword password).Ends ending h := by
  simp only [AuthService.hashPassword, ends_bind, ends_newSalt, ends_runIf, ends_okOr, ends_fail, followedBy_ok,
    followedBy_error]
  intro salt
  exact ⟨fun _ => hinternal _, fun _ => ⟨fun passwordHash _ => hnext passwordHash salt, fun _ => hinternal _⟩⟩

/-- Issuing a one-time token panics, or fails in the database only. -/
theorem issueOneTimeToken_ends {purpose : Purpose} {lifetime : Int64} {userId : Uuid}
    {ending : Trace → Except Failure String → Prop} (hnext : ∀ h' token, ending h' (.ok token))
    (hdatabase : ∀ h' e, ending h' (.error (.err (.database e))))
    (hpanic : ∀ h' fault, ending h' (.error (.panic fault))) :
    (svc.issueOneTimeToken purpose lifetime userId).Ends ending h := by
  simp only [AuthService.issueOneTimeToken, ends_bind, ends_randomBytes, ends_utcNow, ends_expiresAfter,
    ends_query, ends_pure, followedBy_ok, followedBy_error]
  intro bytes now
  exact ⟨fun _ _ => ⟨fun _ => ⟨fun _ => hnext _ _, fun _ => hdatabase _ _⟩, fun _ => hdatabase _ _⟩,
    fun fault _ => hpanic _ fault⟩

/-- A body that is not valid is refused before anything is written. -/
theorem validate_ends {errors : List FieldError} {request : HttpRequest}
    {ending : Trace → Except Failure Unit → Prop} {f : Unit → AuthM HttpReply}
    (heq : ending = followedBy f (refusalEnding svc request)) (hwritten : written h = [])
    (hnext : (f ()).Ends (refusalEnding svc request) h) : (http.validate errors).Ends ending h := by
  subst heq
  rw [ends_validate]
  refine ⟨fun _ => ?_, fun _ => hnext⟩
  exact refusalEnding_of_nothing hwritten (fun _ _ _ heq => by cases heq) (fun _ _ _ heq => by cases heq)

/-- A route behind the middleware: a request that is rejected has written nothing. -/
theorem authenticated_ends {parts : RequestParts} {handler : AuthUser → AuthM HttpReply} {request : HttpRequest}
    (hlogin : ∀ client r, request ≠ .login client r) (hrefresh : ∀ client token, request ≠ .refresh client token)
    (hhandler : ∀ user now, (handler user).Ends (refusalEnding svc request) [did .now now]) :
    (http.authenticated svc parts handler).Ends (refusalEnding svc request) [] := by
  have hrejected (rejection : Rejection) (now : Instant) :
      refusalEnding svc request [did .now now] (.ok (.rejected rejection)) :=
    refusalEnding_of_nothing rfl (fun client r heq => absurd heq (hlogin client r))
      (fun client token heq => absurd heq (hrefresh client token))
  simp only [Http.authenticated, ends_bind, ends_utcNow, followedBy_ok]
  intro now
  split
  · exact hhandler _ now
  · exact hrejected _ now
  · exact hrejected _ now

/-- A refused registration has written nothing. -/
theorem register_ends (r : RegisterRequest) :
    (http.createRoutes svc (.register r)).Ends (refusalEnding svc (.register r)) [] := by
  simp only [Http.createRoutes, Http.register, ends_bind]
  refine validate_ends rfl rfl ?_
  simp only [AuthService.register, AuthService.validatePassword, ends_bind, ends_runIf,
    ends_selectUserIdByEmail, ends_fail, followedBy_ok, followedBy_error]
  refine ⟨fun _ => ?_, fun _ => ⟨fun found => ⟨fun _ => ?_, fun _ => ?_⟩, fun _ => refusalEnding_database⟩⟩
  · exact refusalEnding_of_nothing rfl (fun _ _ heq => by cases heq) (fun _ _ heq => by cases heq)
  · exact refusalEnding_of_nothing rfl (fun _ _ heq => by cases heq) (fun _ _ heq => by cases heq)
  · refine hashPassword_ends (fun passwordHash salt => ?_) fun _ => refusalEnding_internal
    simp only [AuthService.createEmailVerification, followedBy_ok, ends_bind, ends_insertUser, followedBy_error]
    refine ⟨fun user => ?_, fun _ => refusalEnding_database⟩
    refine issueOneTimeToken_ends (fun _ _ => ?_) (fun _ _ => ?_) fun _ _ => ?_
    · exact refusalEnding_ok id
    · exact refusalEnding_database
    · exact refusalEnding_panic

/-- A refused request for a reset token has written nothing. -/
theorem forgotPassword_ends (email : String) :
    (http.createRoutes svc (.forgotPassword email)).Ends (refusalEnding svc (.forgotPassword email)) [] := by
  simp only [Http.createRoutes, Http.forgotPassword, ends_bind]
  refine validate_ends rfl rfl ?_
  simp only [AuthService.forgotPassword, ends_bind, ends_selectUserByEmail, followedBy_error]
  refine ⟨fun found => ?_, fun _ => refusalEnding_database⟩
  cases found with
  | none => exact refusalEnding_ok id
  | some user =>
    refine issueOneTimeToken_ends (fun _ _ => ?_) (fun _ _ => ?_) fun _ _ => ?_
    · exact refusalEnding_ok id
    · exact refusalEnding_database
    · exact refusalEnding_panic

/-- A refused reset has written nothing. -/
theorem resetPassword_ends (r : ResetPasswordRequest) :
    (http.createRoutes svc (.resetPassword r)).Ends (refusalEnding svc (.resetPassword r)) [] := by
  simp only [Http.createRoutes, Http.resetPassword, ends_bind]
  refine validate_ends rfl rfl ?_
  simp only [AuthService.resetPassword, AuthService.validatePassword, AuthService.revokeAllTokens,
    ends_bind, ends_runIf, ends_selectValidToken, ends_okOr, ends_fail, followedBy_ok, followedBy_error]
  refine ⟨fun _ => ?_, fun _ => ⟨fun found => ⟨fun token _ => ?_, fun _ => ?_⟩, fun _ => refusalEnding_database⟩⟩
  · exact refusalEnding_of_nothing rfl (fun _ _ heq => by cases heq) (fun _ _ heq => by cases heq)
  · refine hashPassword_ends (fun passwordHash salt => ?_) fun _ => refusalEnding_internal
    simp only [followedBy_ok, ends_bind, ends_query, ends_pure, followedBy_error]
    refine ⟨fun _ => ⟨fun _ => ⟨fun _ => ?_, fun _ => refusalEnding_database⟩, fun _ => refusalEnding_database⟩,
      fun _ => refusalEnding_database⟩
    exact refusalEnding_ok id
  · exact refusalEnding_of_nothing rfl (fun _ _ heq => by cases heq) (fun _ _ heq => by cases heq)

/-- A refused logout has written nothing. -/
theorem logout_ends (refreshToken : String) :
    (http.createRoutes svc (.logout refreshToken)).Ends (refusalEnding svc (.logout refreshToken)) [] := by
  simp only [Http.createRoutes, Http.logout, AuthService.logout, ends_bind, ends_splitToken, ends_utcNow, ends_okOr,
    ends_query, ends_pure, followedBy_ok, followedBy_error]
  refine ⟨fun tokenString jwt _ now =>
    ⟨fun claims _ => ⟨fun _ => refusalEnding_ok id, fun _ => refusalEnding_database⟩,
    fun _ => ?_⟩, fun _ => ?_⟩
  · exact refusalEnding_of_nothing rfl (fun _ _ heq => by cases heq) (fun _ _ heq => by cases heq)
  · exact refusalEnding_of_nothing rfl (fun _ _ heq => by cases heq) (fun _ _ heq => by cases heq)

/-- A refused verification has written nothing. -/
theorem verifyEmail_ends (token : String) :
    (http.createRoutes svc (.verifyEmail token)).Ends (refusalEnding svc (.verifyEmail token)) [] := by
  simp only [Http.createRoutes, Http.verifyEmail, ends_bind]
  refine validate_ends rfl rfl ?_
  simp only [AuthService.verifyEmail, ends_bind, ends_selectValidToken, ends_okOr, ends_verifyUserEmail,
    ends_query, ends_pure, followedBy_ok, followedBy_error]
  refine ⟨fun found => ⟨fun pair _ => ?_, fun _ => ?_⟩, fun _ => refusalEnding_database⟩
  · exact ⟨fun user => ⟨fun _ => refusalEnding_ok id, fun _ => refusalEnding_database⟩, fun _ =>
      refusalEnding_database⟩
  · exact refusalEnding_of_nothing rfl (fun _ _ heq => by cases heq) (fun _ _ heq => by cases heq)

/-- A refused request for the caller has written nothing. -/
theorem me_ends (parts : RequestParts) :
    (http.createRoutes svc (.me parts)).Ends (refusalEnding svc (.me parts)) [] :=
  authenticated_ends (fun _ _ heq => by cases heq) (fun _ _ heq => by cases heq) fun _ _ => refusalEnding_ok id

/-- A refused change of the password has written nothing. -/
theorem changePassword_ends (parts : RequestParts) (r : ChangePasswordRequest) :
    (http.createRoutes svc (.changePassword parts r)).Ends (refusalEnding svc (.changePassword parts r)) [] := by
  refine authenticated_ends (fun _ _ heq => by cases heq) (fun _ _ heq => by cases heq) fun user now => ?_
  have hquiet {h : Trace} (hwritten : written h = []) (e : AuthError) :
      refusalEnding svc (.changePassword parts r) h (.error (.err e)) :=
    refusalEnding_of_nothing hwritten (fun _ _ heq => by cases heq) (fun _ _ heq => by cases heq)
  simp only [Http.changePassword, ends_bind]
  refine validate_ends rfl rfl ?_
  simp only [AuthService.changePassword, AuthService.verifyPassword, AuthService.validatePassword,
    AuthService.revokeAllTokens, ends_bind, ends_runIf, ends_selectUserById, ends_okOr, ends_verify,
    ends_fail, followedBy_ok, followedBy_error]
  refine ⟨fun found =>
    ⟨fun row _ result => ⟨fun verified _ => ⟨fun _ => hquiet rfl _, fun _ => ⟨fun _ => hquiet rfl _,
    fun _ => ?_⟩⟩, fun _ => hquiet rfl _⟩, fun _ => hquiet rfl _⟩, fun _ => refusalEnding_database⟩
  refine hashPassword_ends (fun passwordHash salt => ?_) fun _ => refusalEnding_internal
  simp only [followedBy_ok, ends_bind, ends_query, ends_pure, followedBy_error]
  refine ⟨fun _ => ⟨fun _ => ?_, fun _ => refusalEnding_database⟩, fun _ => refusalEnding_database⟩
  exact refusalEnding_ok id

/-- A refused resend has written nothing. -/
theorem resendVerification_ends (parts : RequestParts) :
    (http.createRoutes svc (.resendVerification parts)).Ends (refusalEnding svc (.resendVerification parts))
      [] := by
  refine authenticated_ends (fun _ _ heq => by cases heq) (fun _ _ heq => by cases heq) fun user now => ?_
  simp only [Http.resendVerification, AuthService.resendVerification, AuthService.createEmailVerification,
    ends_bind, ends_ite, ends_selectUserById, ends_okOr, ends_pure, followedBy_ok, followedBy_error]
  refine ⟨fun found => ⟨fun row _ => ⟨fun _ => refusalEnding_ok id, fun _ => ?_⟩, fun _ => ?_⟩, fun _ =>
    refusalEnding_database⟩
  · refine issueOneTimeToken_ends (fun _ _ => ?_) (fun _ _ => ?_) fun _ _ => ?_
    · exact refusalEnding_ok id
    · exact refusalEnding_database
    · exact refusalEnding_panic
  · exact refusalEnding_of_nothing rfl (fun _ _ heq => by cases heq) (fun _ _ heq => by cases heq)

/-- Issuing a session panics, or fails in the database only. -/
theorem generateAccessToken_ends {user : User} {ending : Trace → Except Failure String → Prop}
    (hnext : ∀ h' token, ending h' (.ok token)) (hpanic : ∀ h' fault, ending h' (.error (.panic fault))) :
    (svc.generateAccessToken user).Ends ending h := by
  simp only [AuthService.generateAccessToken, ends_bind, ends_utcNow, ends_expiresAfter, ends_newUuid,
    ends_sign, followedBy_ok, followedBy_error]
  intro now
  exact ⟨fun _ _ jti token => hnext _ _, fun fault _ => hpanic _ fault⟩

/-- A refresh token is issued, or the call ends with an error that says nothing about what was written. -/
theorem generateRefreshToken_ends {userId : Uuid} {ipAddress userAgent : Option String}
    {ending : Trace → Except Failure String → Prop} (hnext : ∀ h' token, ending h' (.ok token))
    (hdatabase : ∀ h' e, ending h' (.error (.err (.database e))))
    (hpanic : ∀ h' fault, ending h' (.error (.panic fault))) :
    (svc.generateRefreshToken userId ipAddress userAgent).Ends ending h := by
  simp only [AuthService.generateRefreshToken, ends_bind, ends_newUuid, ends_utcNow, ends_expiresAfter,
    ends_randomBytes, ends_query, ends_sign, ends_pure, followedBy_ok, followedBy_error]
  intro tokenId now
  exact ⟨fun _ _ bytes => ⟨fun _ jwt => hnext _ _, fun _ => hdatabase _ _⟩, fun fault _ => hpanic _ fault⟩

/-- A refused login has counted a wrong password, or has written nothing. -/
theorem login_ends (client : ClientInfo) (r : LoginRequest) :
    (http.createRoutes svc (.login client r)).Ends (refusalEnding svc (.login client r)) [] := by
  have hquiet {h : Trace} (hwritten : written h = []) {e : AuthError} (he : e ≠ .invalidCredentials) :
      refusalEnding svc (.login client r) h (.error (.err e)) :=
    refusalEnding_of_nothing hwritten (fun _ _ _ heq =>
      he (Failure.err.inj (Except.error.inj heq))) (fun _ _ heq => by cases heq)
  simp only [Http.createRoutes, Http.login, ends_bind]
  refine validate_ends rfl rfl ?_
  simp only [AuthService.login, AuthService.verifyPassword, AuthService.incrementFailedAttempts,
    AuthService.recordSuccessfulLogin, ends_bind, ends_selectUserByEmail, ends_okOr, ends_utcNow,
    ends_runIf, ends_verify, ends_query, ends_fail, ends_pure, followedBy_ok, followedBy_error]
  refine ⟨fun found => ⟨fun user hfound now => ⟨fun _ => hquiet rfl (fun heq => by cases heq), fun _ => ⟨fun _ =>
    hquiet rfl (fun heq => by cases heq), fun _ result =>
      ⟨fun verified hresult => ⟨fun hfailed => ⟨fun n => ?_, fun _ =>
    refusalEnding_database⟩, fun _ =>
      ⟨fun _ => hquiet rfl (fun heq => by cases heq), fun _ => ⟨fun n => ?_, fun _ =>
    refusalEnding_database⟩⟩⟩, fun _ => hquiet rfl (fun heq => by cases heq)⟩⟩⟩, fun hfound => ?_⟩, fun _ =>
    refusalEnding_database⟩
  · subst hfound hresult
    obtain rfl : verified = false := by simpa using hfailed
    intro _
    exact .failedLogin (by simp) (by simp) rfl
  · refine generateAccessToken_ends (fun _ accessToken => ?_) fun _ _ => refusalEnding_panic
    simp only [followedBy_ok, ends_bind]
    refine generateRefreshToken_ends (fun _ refreshToken => ?_) (fun _ _ => ?_) fun _ _ => refusalEnding_panic
    · exact refusalEnding_ok id
    · exact refusalEnding_database
  · subst hfound
    intro _
    refine .nothing rfl ?_ (fun _ _ heq => by cases heq)
    intro client' r' hrequest _
    obtain ⟨rfl, rfl⟩ := HttpRequest.login.inj hrequest
    exact List.mem_singleton_self _

/-- A refused refresh has ended the sessions of the user of a revoked token, or has written nothing. -/
theorem refresh_ends (client : ClientInfo) (token : String) :
    (http.createRoutes svc (.refresh client token)).Ends (refusalEnding svc (.refresh client token)) [] := by
  have hquiet {h : Trace} (hwritten : written h = []) {e : AuthError} (he : e ≠ .tokenRevoked) :
      refusalEnding svc (.refresh client token) h (.error (.err e)) :=
    refusalEnding_of_nothing hwritten (fun _ _ heq => by cases heq)
      (fun _ _ _ heq => he (Failure.err.inj (Except.error.inj heq)))
  simp only [Http.createRoutes, Http.refreshToken, ends_bind]
  refine validate_ends rfl rfl ?_
  simp only [AuthService.refreshTokens, AuthService.redeem, AuthService.revokeAllTokens, ends_bind, ends_splitToken,
    ends_utcNow, ends_okOr, ends_selectRefreshToken, ends_ite, ends_runIf, ends_query, ends_fail, ends_pure,
    followedBy_ok, followedBy_error]
  refine ⟨fun tokenString jwt hcut now =>
    ⟨fun claims hdecoded => ⟨fun found => ⟨fun row hfound checkedAt => ⟨fun _ => ?_,
    fun hinvalid => ⟨fun hrevoked => ⟨fun n => ?_, fun _ => refusalEnding_database⟩, fun hrevoked => ?_⟩⟩, fun _ =>
    hquiet rfl (fun heq => by cases heq)⟩, fun _ => refusalEnding_database⟩, fun _ =>
      hquiet rfl (fun heq => by cases heq)⟩,
    fun _ => hquiet rfl (fun heq => by cases heq)⟩
  · simp only [AuthService.rotate, ends_bind, ends_selectUserById, ends_okOr, ends_utcNow, ends_runIf,
      ends_fail, followedBy_ok, followedBy_error]
    refine ⟨fun found => ⟨fun user _ now => ⟨fun _ => hquiet rfl (fun heq => by cases heq), fun _ => ?_⟩, fun _ =>
      hquiet rfl (fun heq => by cases heq)⟩, fun _ => refusalEnding_database⟩
    refine generateAccessToken_ends (fun _ accessToken => ?_) fun _ _ => refusalEnding_panic
    simp only [followedBy_ok, ends_bind]
    refine generateRefreshToken_ends (fun _ refreshToken => ?_) (fun _ _ => ?_) fun _ _ => refusalEnding_panic
    · simp only [followedBy_ok, ends_bind, ends_query, ends_pure, followedBy_error]
      exact ⟨fun _ => refusalEnding_ok id, fun _ => refusalEnding_database⟩
    · exact refusalEnding_database
  · subst hfound
    intro _
    exact .reuse hcut hdecoded (by simp) hrevoked rfl
  · subst hfound
    intro _
    refine .nothing rfl (fun _ _ heq => by cases heq) ?_
    intro _ _ _ _
    exact ⟨claims.tid, svc.hashToken tokenString, row, by simp, hrevoked⟩

/-- Every request ends as its refusal says. -/
theorem createRoutes_ends (http : Http) (svc : AuthService) (request : HttpRequest) :
    (http.createRoutes svc request).Ends (refusalEnding svc request) [] := by
  cases request with
  | register r => exact register_ends r
  | login client r => exact login_ends client r
  | refresh client token => exact refresh_ends client token
  | forgotPassword email => exact forgotPassword_ends email
  | resetPassword r => exact resetPassword_ends r
  | logout refreshToken => exact logout_ends refreshToken
  | verifyEmail token => exact verifyEmail_ends token
  | me parts => exact me_ends parts
  | changePassword parts r => exact changePassword_ends parts r
  | resendVerification parts => exact resendVerification_ends parts

end Endings

section Run

variable {http : Http} {svc : AuthService} {w : World} {req : ℕ → HttpRequest} {d : HttpSystem}

/-- What a refused request has written in a run is what its ending says. -/
theorem refusalWrites_of_run (hrun : svc.machine.Reaches (fun _ _ => True) (http.start svc w req) d) {i : ℕ}
    {result : Except Failure HttpReply} (hi : d.calls i = .done result) (hrefused : Refused result) :
    RefusalWrites svc (req i) result (ownHistory i d.log) :=
  hrun.ends rfl (createRoutes_ends http svc (req i)) hi hrefused

/-- The refusal is neither of a wrong password nor of a refresh token that is not valid any more. -/
def Uncounted : HttpRequest → Except Failure HttpReply → Prop
  | .login .., .error (.err .invalidCredentials) => False
  | .refresh .., .error (.err .tokenRevoked) => False
  | _, _ => True

/-- Such a request has written nothing. -/
theorem RefusalWrites.written_of_uncounted {request : HttpRequest} {result : Except Failure HttpReply} {h : Trace}
    (hwrites : RefusalWrites svc request result h) (huncounted : Uncounted request result) : written h = [] := by
  cases hwrites with
  | nothing hwritten hlogin hrefresh => exact hwritten
  | failedLogin hread hcompared hwritten => exact huncounted.elim
  | reuse hcut hdecoded hread hrevoked hwritten => exact huncounted.elim

/-- An action of a call that has written nothing leaves the world as it is. -/
theorem quiet_of_written {i : ℕ} (hwritten : written (ownHistory i d.log) = []) {e : LogEvent} (he : e ∈ d.log)
    (hcaller : e.caller = i) : svc.machine.Quiet e := by
  intro w' hperform
  have hmem := mem_ownHistory.mpr ⟨e, he, hcaller, rfl⟩
  obtain ⟨j, before, action, reply⟩ := e
  cases action with
  | sql s =>
    rcases AuthService.perform_sql hperform with ⟨e, -, rfl⟩ | ⟨rows, fresh, db, rfl, hexec, rfl⟩
    · rfl
    · rw [Statement.run_query hexec (isQuery_of_written hwritten hmem)]
  | _ => exact AuthService.perform_local hperform fun _ heq => by cases heq

end Run

/-- In every interleaving, a request that was turned away has written one failed login of the user whose password
it did not have, or the revocation of all sessions of the user whose revoked token it presented, or nothing. -/
theorem refusal_writes (http : Http) (svc : AuthService) (w : World) (req : ℕ → HttpRequest) (d : HttpSystem)
    (hrun : svc.machine.Reaches (fun _ _ => True) (http.start svc w req) d) (i : ℕ)
    (result : Except Failure HttpReply) (hi : d.calls i = .done result) (hrefused : Refused result) :
    RefusalWrites svc (req i) result (ownHistory i d.log) := refusalWrites_of_run hrun hi hrefused

section Runs

open Reference

/-- A registration, and a login with another password. -/
def mistypedLogin : ℕ → HttpRequest
  | 0 => .register ⟨"a@b.c", "Abcdefg1", "Abcdefg1", "A"⟩
  | _ => .login ⟨none, none⟩ ⟨"a@b.c", "Abcdefg2"⟩

/-- The state after the login was denied. -/
def mistypedDenied : HttpSystem :=
  verifyingService.executor.play (moves 0 7 1 ++ moves 1 4 2)
    (verifyingHttp.start verifyingService world mistypedLogin)

/-- A login with a wrong password has counted one failure. -/
theorem refusal_writes_login :
    RefusalWrites verifyingService (mistypedLogin 1) (.error (.err .invalidCredentials))
      (ownHistory 1 mistypedDenied.log) := by
  have hcall : (mistypedDenied.calls 1).result? = some (.error (.err .invalidCredentials)) := by decide +kernel
  exact refusal_writes verifyingHttp verifyingService world mistypedLogin mistypedDenied
    (verifyingService.executor.play_reaches _ _) 1 _ (result?_eq_some.mp hcall)
    (by decide : AuthError.invalidCredentials.OfClient)

end Runs

/-- In every interleaving, requests that were turned away for another reason could as well not have been made:
the run in which they never begin exists, with the same database, and every other request does the same with
the same reply. -/
theorem refused_requests_left_out (http : Http) (svc : AuthService) (w : World) (req : ℕ → HttpRequest)
    (d : HttpSystem) (hrun : svc.machine.Reaches (fun _ _ => True) (http.start svc w req) d)
    (left : ℕ → Prop) [DecidablePred left]
    (hleft : ∀ i, left i → ∃ result, d.calls i = .done result ∧ Refused result ∧ Uncounted (req i) result) :
    ∃ d' : HttpSystem, svc.machine.Reaches (fun _ _ => True) (http.start svc w req) d' ∧ d'.shared = d.shared ∧
      (∀ i, left i → d'.calls i = http.createRoutes svc (req i) ∧ ownHistory i d'.log = []) ∧
      ∀ i, ¬ left i → d'.calls i = d.calls i ∧ ownHistory i d'.log = ownHistory i d.log := by
  have hwritten (i : ℕ) (hi : left i) : written (ownHistory i d.log) = [] := by
    obtain ⟨result, hdone, hrefused, huncounted⟩ := hleft i hi
    exact (refusalWrites_of_run hrun hdone hrefused).written_of_uncounted huncounted
  refine ⟨(http.start svc w req).without d left, ?_, rfl, ?_, ?_⟩
  · exact hrun.without rfl fun e he hcaller => quiet_of_written (hwritten e.caller hcaller) he rfl
  · intro i hi
    exact ⟨Config.without_calls_of_left hi, Config.ownHistory_without_of_left hi⟩
  · intro i hi
    exact ⟨Config.without_calls_of_kept hi, Config.ownHistory_without hi⟩

section Runs

open Reference

/-- The state after two registrations of the same email, the second of which was refused. -/
def registeredTwice : HttpSystem :=
  verifyingService.executor.play (moves 0 7 1 ++ moves 1 1 2)
    (verifyingHttp.start verifyingService world registrations)

/-- The second registration of an email is left out, and the first one goes the same way. -/
theorem refused_requests_left_out_registration :
    ∃ d : HttpSystem, verifyingService.machine.Reaches (fun _ _ => True)
        (verifyingHttp.start verifyingService world registrations) d ∧ d.shared = registeredTwice.shared ∧
      (∀ i, i = 1 → d.calls i = verifyingHttp.createRoutes verifyingService (registrations i) ∧
        ownHistory i d.log = []) ∧
      ∀ i, ¬ i = 1 → d.calls i = registeredTwice.calls i ∧
      ownHistory i d.log = ownHistory i registeredTwice.log := by
  have hcall : (registeredTwice.calls 1).result? = some (.error (.err .emailExists)) := by decide +kernel
  refine refused_requests_left_out verifyingHttp verifyingService world registrations registeredTwice
    (verifyingService.executor.play_reaches _ _) (· = 1) ?_
  rintro _ rfl
  exact ⟨_, result?_eq_some.mp hcall, (by decide : AuthError.emailExists.OfClient), trivial⟩

end Runs

end RustPressAuth
