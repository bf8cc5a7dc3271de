import RustPressAuth.Atomic.Origins
import RustPressAuth.Migrations
import RustPressAuth.Refusals
import RustPressAuth.TokenRows

/-!
# Every row has its request

Rows are inserted by requests only, and a request inserts at most one row into a table.
So the rows that a run has added are accounted for: each one has a request that asked for
it, with the values the request carried; no request has two rows in one table; and a
request that was answered has a row in exactly the tables that its reply speaks of.

What a request asks for rests on what it has read: the user under the email of a login,
the stored session of a refresh token. These are rows of the database, then and later.
-/

namespace RustPressAuth

open Atomic Program Machine Relational

/-- The table into which an entry of a trace inserted a row, if it did. -/
def insertedInto? : Entry → Option TableName
  | ⟨.sql (.insertUser ..), .ok _⟩ => some .users
  | ⟨.sql (.insertRefreshToken ..), .ok _⟩ => some .refreshTokens
  | ⟨.sql (.insertOneTimeToken purpose ..), .ok _⟩ => some (.oneTimeTokens purpose)
  | _ => none

/-- The tables into which a call has inserted rows. -/
def insertedTables (h : Trace) : List TableName := h.filterMap insertedInto?

/-- Nothing was inserted at the start. -/
@[simp] theorem insertedTables_nil : insertedTables [] = [] := rfl

/-- An entry adds the table it inserted into. -/
@[simp] theorem insertedTables_cons (x : Entry) (h : Trace) :
    insertedTables (x :: h) = (insertedInto? x).toList ++ insertedTables h := by
  unfold insertedTables
  cases hx : insertedInto? x <;> simp [hx]

/-- The tables into which a request with this reply has inserted a row. -/
def HttpReply.rows : HttpReply → List TableName
  | .registered .. => [.users, .oneTimeTokens .emailVerification]
  | .session _ | .tokens _ => [.refreshTokens]
  | .resetLink _ token => if token.isSome then [.oneTimeTokens .passwordReset] else []
  | .resent .. => [.oneTimeTokens .emailVerification]
  | .emailVerified .. | .user _ | .message _ | .rejected _ => []

/-- What is known about users and sessions. -/
structure Evidence where
  /-- The clock has shown this instant. -/
  clock : Instant → Prop
  /-- The user was found under this email. -/
  byEmail : String → Uuid → Prop
  /-- The user was found under this id. -/
  byId : Uuid → Uuid → Prop
  /-- The user was registered with this email. -/
  registered : String → Uuid → Prop
  /-- There is a session under this id and hash. -/
  session : Uuid → String → Prop

/-- What a call has seen. -/
def Evidence.seen (h : Trace) : Evidence where
  clock now := did .now now ∈ h
  byEmail email userId := ∃ user : User, executed (.selectUserByEmail email) (some user) ∈ h ∧ user.id = userId
  byId id userId := ∃ user : User, executed (.selectUserById id) (some user) ∈ h ∧ user.id = userId
  registered email userId := ∃ passwordHash name, ∃ user : User,
    executed (.insertUser email passwordHash name) user ∈ h ∧ user.id = userId
  session id tokenHash := ∃ row : RefreshToken, executed (.selectRefreshToken id tokenHash) (some row) ∈ h

/-- What is so in a world that was reached from a first one. -/
def Evidence.stored (first w : World) : Evidence where
  clock now := first.now ≤ now ∧ now ≤ w.now
  byEmail email userId := ∃ user ∈ w.db.users, user.id = userId ∧ user.email = email
  byId id userId := userId = id
  registered email userId := ∃ user ∈ w.db.users, user.id = userId ∧ varchar 255 email = some user.email
  session id tokenHash := ∃ row ∈ w.db.refreshTokens, row.id = id ∧ row.tokenHash = tokenHash

/-- All that is known is also known there. -/
structure Evidence.Le (ev ev' : Evidence) : Prop where
  clock : ∀ now, ev.clock now → ev'.clock now
  byEmail : ∀ email userId, ev.byEmail email userId → ev'.byEmail email userId
  byId : ∀ id userId, ev.byId id userId → ev'.byId id userId
  registered : ∀ email userId, ev.registered email userId → ev'.registered email userId
  session : ∀ id tokenHash, ev.session id tokenHash → ev'.session id tokenHash

/-- The request asks for a row about this user in this table of sessions or tokens. -/
inductive HttpRequest.AsksFor (http : Http) (svc : AuthService) (ev : Evidence) :
    HttpRequest → TableName → Uuid → Prop
  | login {client : ClientInfo} {r : LoginRequest} {userId : Uuid} (huser : ev.byEmail r.email userId) :
      AsksFor http svc ev (.login client r) .refreshTokens userId
  | rotation {client : ClientInfo} {refreshToken tokenString jwt : String} {claims : RefreshTokenClaims}
      {now : Instant} {userId : Uuid} (hcut : rsplitDot refreshToken = [tokenString, jwt]) (hclock : ev.clock now)
      (hdecoded : svc.decodeRefresh true now jwt = some claims)
        (hsession : ev.session claims.tid (svc.hashToken tokenString))
      (huser : ev.byId claims.sub userId) : AsksFor http svc ev (.refresh client refreshToken) .refreshTokens userId
  | reset {email : String} {userId : Uuid} (huser : ev.byEmail email userId) :
      AsksFor http svc ev (.forgotPassword email) (.oneTimeTokens .passwordReset) userId
  | registration {r : RegisterRequest} {userId : Uuid} (huser : ev.registered r.email userId) :
      AsksFor http svc ev (.register r) (.oneTimeTokens .emailVerification) userId
  | resent {parts : RequestParts} {secret presented : String} {claims : AccessTokenClaims} {now : Instant}
      (hsecret : http.env "JWT_SECRET" = some secret) (hpresented : parts.presentedToken = some presented)
      (hclock : ev.clock now)
        (hdecoded : svc.prims.decodeAccess secret (getValidation http.env) now presented = some claims) :
      AsksFor http svc ev (.resendVerification parts) (.oneTimeTokens .emailVerification) claims.sub

/-- The client of a request that asks for a session. -/
def HttpRequest.client? : HttpRequest → Option ClientInfo
  | .login client _ | .refresh client _ => some client
  | _ => none

/-- More evidence supports the same requests. -/
theorem HttpRequest.AsksFor.mono {http : Http} {svc : AuthService} {ev ev' : Evidence} (hle : ev.Le ev')
    {request : HttpRequest} {table : TableName} {userId : Uuid} (h : request.AsksFor http svc ev table userId) :
    request.AsksFor http svc ev' table userId := by
  cases h with
  | login huser => exact .login (hle.byEmail _ _ huser)
  | rotation hcut hclock hdecoded hsession huser =>
    exact .rotation hcut (hle.clock _ hclock) hdecoded (hle.session _ _ hsession) (hle.byId _ _ huser)
  | reset huser => exact .reset (hle.byEmail _ _ huser)
  | registration huser => exact .registration (hle.registered _ _ huser)
  | resent hsecret hpresented hclock hdecoded => exact .resent hsecret hpresented (hle.clock _ hclock) hdecoded

/-- A request inserts only what it asks for, once, and its reply tells what it has inserted. -/
def Http.sourcing (http : Http) (svc : AuthService) (request : HttpRequest) :
    Protocol Action Action.Reply HttpReply where
  guard h
    | .sql (.insertUser email _ name) =>
      TableName.users ∉ insertedTables h ∧ ∃ r, request = .register r ∧ email = r.email ∧ name = r.name
    | .sql (.insertRefreshToken _ userId _ _ ipAddress userAgent) =>
      TableName.refreshTokens ∉ insertedTables h ∧ request.AsksFor http svc (.seen h) .refreshTokens userId ∧
        request.client? = some ⟨ipAddress, userAgent⟩
    | .sql (.insertOneTimeToken purpose userId _ _) =>
      TableName.oneTimeTokens purpose ∉ insertedTables h ∧
        request.AsksFor http svc (.seen h) (.oneTimeTokens purpose) userId
    | _ => True
  result h reply := ∀ table, table ∈ reply.rows ↔ table ∈ insertedTables h

section Routes

variable {http : Http} {svc : AuthService}

/-- A registration inserts what its body asks for. -/
theorem register_sourcing (r : RegisterRequest) :
    (http.createRoutes svc (.register r)).Obeys (http.sourcing svc (.register r)) [] := by
  simp only [Http.createRoutes, Http.register, AuthService.register, AuthService.validatePassword,
    AuthService.hashPassword, AuthService.createEmailVerification, AuthService.issueOneTimeToken,
    Http.sourcing, insertedInto?, HttpReply.rows, HttpRequest.register.injEq, exists_eq_left', obeys_bind,
    obeys_pure, List.mem_cons, List.not_mem_nil, or_false, before_result,
    before_before, obeys_query, before_guard, insertedTables_cons, Option.toList_some, List.cons_append,
    List.nil_append, Option.toList_none, true_and, obeys_utcNow, obeys_expiresAfter, obeys_randomBytes,
    obeys_insertUser, and_self, and_true, reduceCtorEq, false_or, obeys_okOr, obeys_runIf,
    Bool.not_eq_eq_eq_not, Bool.not_true, obeys_fail, implies_true, Bool.not_false, obeys_newSalt,
    Option.isSome_eq_false_iff, Option.isNone_iff_eq_none, obeys_selectUserIdByEmail, forall_eq, obeys_validate,
    insertedTables_nil, not_false_eq_true]
  intro _ _ salt _ hash _ user bytes now _ n
  exact ⟨.registration ⟨hash, r.name, user, by simp, rfl⟩, fun _ table => or_comm⟩

/-- A login inserts a session of the user under its email. -/
theorem login_sourcing (client : ClientInfo) (r : LoginRequest) :
    (http.createRoutes svc (.login client r)).Obeys (http.sourcing svc (.login client r)) [] := by
  simp only [Http.createRoutes, Http.login, AuthService.login, AuthService.verifyPassword,
    AuthService.incrementFailedAttempts, AuthService.recordSuccessfulLogin, AuthService.generateAccessToken,
    AuthService.generateRefreshToken, Http.sourcing, insertedInto?, HttpReply.rows, reduceCtorEq, false_and,
    exists_false, and_false, obeys_bind, obeys_pure, List.mem_cons, List.not_mem_nil, or_false,
    before_result, before_before, obeys_sign, before_guard, insertedTables_cons, Option.toList_none,
    List.nil_append, forall_const, true_and, obeys_query, Option.toList_some, List.cons_append, iff_self_or,
    obeys_randomBytes, obeys_expiresAfter, obeys_utcNow, obeys_newUuid, obeys_runIf, Bool.and_eq_true,
    Bool.not_eq_eq_eq_not, Bool.not_true, obeys_fail, implies_true, Bool.and_eq_false_imp, Bool.not_false,
    and_self, obeys_okOr, Bool.forall_bool, Bool.false_eq_true, IsEmpty.forall_iff,
    obeys_verify, forall_eq, bne_iff_ne, ne_eq, bne_eq_false_iff_eq, obeys_selectUserByEmail,
    obeys_validate, insertedTables_nil, not_false_eq_true, and_true]
  rintro _ rows user rfl now _ _ _ n now' _ jti accessToken tokenId now'' _ bytes
  exact ⟨.login ⟨user, by simp, rfl⟩, rfl⟩

/-- A refresh inserts a session for the token it presents. -/
theorem refresh_sourcing (client : ClientInfo) (refreshToken : String) :
    (http.createRoutes svc (.refresh client refreshToken)).Obeys
      (http.sourcing svc (.refresh client refreshToken)) [] := by
  simp only [Http.createRoutes, Http.refreshToken, AuthService.refreshTokens, AuthService.redeem,
    AuthService.rotate, AuthService.revokeAllTokens, AuthService.generateAccessToken,
    AuthService.generateRefreshToken, Http.sourcing, insertedInto?, HttpReply.rows, reduceCtorEq, false_and,
    exists_false, and_false, obeys_bind, obeys_pure, List.mem_cons, List.not_mem_nil,
    or_false, obeys_ite, before_result, before_before, obeys_query, before_guard, insertedTables_cons,
    Option.toList_none, List.nil_append, true_and, obeys_sign, forall_const, Option.toList_some,
    List.cons_append, iff_self_or, obeys_randomBytes, obeys_expiresAfter,
    obeys_utcNow, obeys_newUuid, obeys_runIf, Bool.not_eq_eq_eq_not, Bool.not_true, obeys_fail,
    implies_true, Bool.not_false, obeys_okOr, obeys_selectUserById, Bool.not_eq_true, and_self, and_true,
    obeys_selectRefreshToken, AuthService.obeys_splitToken, obeys_validate, insertedTables_nil,
    not_false_eq_true, IsEmpty.forall_iff]
  rintro _ tokenString jwt hcut now claims hdecoded rows row rfl now' _ rows' user rfl now'' _ now₁ _ jti
    accessToken tokenId
    now₂ _ bytes
  exact ⟨.rotation hcut (by simp [Evidence.seen]) hdecoded ⟨row, by simp⟩ ⟨user, by simp, rfl⟩, rfl⟩

/-- A forgotten password inserts a token for the user under its email. -/
theorem forgotPassword_sourcing (email : String) :
    (http.createRoutes svc (.forgotPassword email)).Obeys (http.sourcing svc (.forgotPassword email)) [] := by
  simp only [Http.createRoutes, Http.forgotPassword, AuthService.forgotPassword, obeys_bind, obeys_validate,
    obeys_selectUserByEmail, before_result, before_guard]
  refine fun _ => ⟨trivial, fun user => ?_⟩
  cases user with
  | none => simp [Http.sourcing, insertedInto?, HttpReply.rows]
  | some user =>
    simp only [AuthService.issueOneTimeToken, Http.sourcing, insertedInto?, reduceCtorEq, false_and,
      exists_false, and_false, HttpReply.rows, String.isEmpty_iff, obeys_pure, Option.isSome_ite', ite_not,
      List.mem_ite_nil_left, List.mem_cons, List.not_mem_nil, or_false, obeys_bind, before_result,
      before_before, obeys_query, before_guard, insertedTables_cons, Option.toList_some, List.cons_append,
      List.nil_append, Option.toList_none, true_and, obeys_utcNow, obeys_expiresAfter, obeys_randomBytes,
      insertedTables_nil, not_false_eq_true, and_iff_right_iff_imp, forall_eq]
    intro bytes now _ n
    exact ⟨.reset ⟨user, by simp, rfl⟩, fun _ => base64UrlEncode_ne_empty bytes⟩

/-- A resend inserts a token for the caller. -/
theorem resendVerification_sourcing (parts : RequestParts) :
    (http.createRoutes svc (.resendVerification parts)).Obeys
      (http.sourcing svc (.resendVerification parts)) [] := by
  simp only [Http.createRoutes, Http.authenticated, obeys_bind, obeys_utcNow]
  refine ⟨trivial, fun now => ?_⟩
  simp only [before_result]
  split
  · rename_i user haccepted
    obtain ⟨secret, token, claims, hsecret, hpresented, hdecoded, hnext⟩ := requireAuth_eq_ok.mp haccepted
    obtain rfl : user = AuthUser.fromClaims claims := (Except.ok.inj hnext).symm
    simp only [Http.resendVerification, AuthService.resendVerification, AuthService.createEmailVerification,
      AuthService.issueOneTimeToken, Http.sourcing, insertedInto?, reduceCtorEq, false_and, exists_false,
      and_false, HttpReply.rows, obeys_bind, obeys_ite, obeys_pure, before_result, List.not_mem_nil,
      false_iff, Bool.not_eq_true, Option.isSome_eq_false_iff, Option.isNone_iff_eq_none, List.mem_cons,
      or_false, before_before, obeys_query, before_guard, insertedTables_cons, Option.toList_some,
      List.cons_append, List.nil_append, iff_self_or, Option.toList_none, true_and,
      obeys_utcNow, obeys_expiresAfter, obeys_randomBytes, obeys_okOr, obeys_selectUserById,
      insertedTables_nil, not_false_eq_true, implies_true, IsEmpty.forall_iff, and_true]
    intro rows row _ _ bytes now' _ n
    exact .resent hsecret hpresented (by simp [Evidence.seen]) hdecoded
  · simp [Http.sourcing, insertedInto?, HttpReply.rows]
  · simp [Http.sourcing, insertedInto?, HttpReply.rows]

/-- Every request inserts what it asks for, once, and answers accordingly. -/
theorem createRoutes_sourcing (http : Http) (svc : AuthService) (request : HttpRequest) :
    (http.createRoutes svc request).Obeys (http.sourcing svc request) [] := by
  cases request with
  | register r => exact register_sourcing r
  | login client r => exact login_sourcing client r
  | refresh client refreshToken => exact refresh_sourcing client refreshToken
  | forgotPassword email => exact forgotPassword_sourcing email
  | resendVerification parts => exact resendVerification_sourcing parts
  | resetPassword r =>
    simp [Http.createRoutes, Http.resetPassword, AuthService.resetPassword, AuthService.validatePassword,
      AuthService.hashPassword, AuthService.revokeAllTokens, Http.sourcing, insertedInto?, HttpReply.rows]
  | logout refreshToken =>
    simp [Http.createRoutes, Http.logout, AuthService.logout, Http.sourcing, insertedInto?, HttpReply.rows]
  | verifyEmail token =>
    simp [Http.createRoutes, Http.verifyEmail, AuthService.verifyEmail, Http.sourcing, insertedInto?,
      HttpReply.rows]
  | me parts =>
    apply obeys_authenticated
    · simp [Http.sourcing]
    · simp [Http.sourcing, insertedInto?, HttpReply.rows]
    · simp [Http.sourcing, insertedInto?, HttpReply.rows]
  | changePassword parts r =>
    apply obeys_authenticated
    · simp [Http.sourcing]
    · simp [Http.changePassword, AuthService.changePassword, AuthService.verifyPassword,
        AuthService.validatePassword, AuthService.hashPassword, AuthService.revokeAllTokens, Http.sourcing,
        insertedInto?, HttpReply.rows]
    · simp [Http.sourcing, insertedInto?, HttpReply.rows]

end Routes

/-- Who registered a user. -/
def userOrigins (req : ℕ → HttpRequest) : Origins ℕ World User Uuid where
  holds w user := user ∈ w.db.users
  key := User.id
  made _ i user := ∃ r, req i = .register r ∧ varchar 255 r.email = some user.email ∧
    varchar 100 r.name = some user.name

/-- Who asked for a session. -/
def sessionOrigins (http : Http) (svc : AuthService) (req : ℕ → HttpRequest) (first : World) :
    Origins ℕ World RefreshToken Uuid where
  holds w t := t ∈ w.db.refreshTokens
  key := RefreshToken.id
  made w i t := (req i).AsksFor http svc (.stored first w) .refreshTokens t.userId ∧
    ∃ client, (req i).client? = some client ∧ varchar? 45 client.ip = some t.ipAddress ∧
    client.userAgent = t.userAgent

/-- Who asked for a one-time token. -/
def tokenOrigins (http : Http) (svc : AuthService) (req : ℕ → HttpRequest) (first : World) (purpose : Purpose) :
    Origins ℕ World OneTimeToken Uuid where
  holds w t := t ∈ w.db.oneTimeTokens purpose
  key := OneTimeToken.id
  made w i t := (req i).AsksFor http svc (.stored first w) (.oneTimeTokens purpose) t.userId

/-- The rows a run has added to a table are matched with the requests that made them, the requests whose
INSERT into the table has run, and the requests that were answered have made the rows their replies speak of.
-/
structure Sourced {Row : Type} (o : Origins ℕ World Row Uuid) (table : TableName) (first : World) (d : HttpSystem)
    (maker : Uuid → ℕ) : Prop extends o.Matched first d.shared maker where
  inserted : ∀ i, table ∈ insertedTables (ownHistory i d.log) ↔
    ∃ row, o.holds d.shared row ∧ o.New first row ∧ maker (o.key row) = i
  answered : ∀ i reply, d.calls i = .done (.ok reply) →
    (table ∈ reply.rows ↔ ∃ row, o.holds d.shared row ∧ o.New first row ∧ maker (o.key row) = i)

section Run

variable {http : Http} {svc : AuthService} {w w' first : World} {req : ℕ → HttpRequest} {d : HttpSystem}

/-- What was so stays so. -/
theorem Evidence.stored_mono (first : World) (h : w.Precedes w') :
    (Evidence.stored first w).Le (.stored first w') where
  clock now hclock := ⟨hclock.1, Int.le_trans hclock.2 h.now_le⟩
  byEmail email userId huser := by
    obtain ⟨user, hmem, rfl, rfl⟩ := huser
    obtain ⟨user', hmem', hlater⟩ := h.db.users user hmem
    exact ⟨user', hmem', hlater.id, hlater.email⟩
  byId _ _ huser := huser
  registered email userId huser := by
    obtain ⟨user, hmem, rfl, hstored⟩ := huser
    obtain ⟨user', hmem', hlater⟩ := h.db.users user hmem
    exact ⟨user', hmem', hlater.id, by rw [hstored, hlater.email]⟩
  session id tokenHash hsession := by
    obtain ⟨row, hmem, rfl, rfl⟩ := hsession
    obtain ⟨row', hmem', hlater⟩ := h.db.refreshTokens row hmem
    exact ⟨row', hmem', hlater.id, hlater.tokenHash⟩

/-- What a call has seen was so when it saw it, and what it did is not undone. -/
theorem performed_between (hrun : svc.machine.Reaches (fun _ _ => True) (http.start svc w req) d) {i : ℕ}
    {a : Action} {r : a.Reply} (hx : did a r ∈ ownHistory i d.log) :
    ∃ before after, svc.machine.perform a before r after ∧
      w.Precedes before ∧ before.Precedes d.shared ∧ after.Precedes d.shared := by
  obtain ⟨e, he, -, hentry⟩ := mem_ownHistory.mp hx
  obtain ⟨mid, next, after, hat⟩ := hrun.performedAt_of_mem rfl he
  refine ⟨e.before, after, perform_of_entry hentry hat.perform, ?_,
    hrun.before_monotone svc.machine_monotone rfl he, hat.rest.monotone svc.machine_monotone⟩
  rw [← hat.before]
  exact hat.run.monotone svc.machine_monotone

/-- What a call has seen is stored. -/
theorem evidence_of_run (hrun : svc.machine.Reaches (fun _ _ => True) (http.start svc w req) d) (i : ℕ) :
    (Evidence.seen (ownHistory i d.log)).Le (.stored w d.shared) where
  clock now hclock := by
    obtain ⟨before, after, hperform, hsince, huntil, -⟩ := performed_between hrun hclock
    obtain rfl : before.now = now := by
      obtain ⟨choice, hexec⟩ := hperform
      exact (Prod.mk.inj hexec).1
    exact ⟨hsince.now_le, huntil.now_le⟩
  byEmail email userId huser := by
    obtain ⟨user, hread, rfl⟩ := huser
    obtain ⟨before, after, hperform, -, huntil, -⟩ := performed_between hrun hread
    obtain ⟨fresh, db, hexec, -⟩ := AuthService.perform_ok hperform
    have hfind : before.db.users.find? (fun u => u.email = email) = some user :=
      (Prod.mk.inj (Except.ok.inj hexec)).1
    obtain ⟨hmem, hemail⟩ := Table.find?_some hfind
    exact (Evidence.stored_mono w huntil).byEmail _ _ ⟨user, hmem, rfl, of_decide_eq_true hemail⟩
  byId id userId huser := by
    obtain ⟨user, hread, rfl⟩ := huser
    obtain ⟨before, after, hperform, -⟩ := performed_between hrun hread
    exact (selectUserById_row hperform).2
  registered email userId huser := by
    obtain ⟨passwordHash, name, user, hinserted, rfl⟩ := huser
    obtain ⟨before, after, hperform, -, -, huntil⟩ := performed_between hrun hinserted
    obtain ⟨fresh, db, hexec, rfl⟩ := AuthService.perform_ok hperform
    simp only [Statement.run, except_bind_eq_ok, orError_eq_ok] at hexec
    obtain ⟨email', hemail, hash', -, name', -, db₁, hinsert, heq⟩ := hexec
    obtain ⟨rfl, rfl⟩ := Prod.mk.inj (Except.ok.inj heq)
    have hmem := (Table.mem_insert? (Db.insertUser?_spec hinsert).1).mpr (Or.inr rfl)
    exact (Evidence.stored_mono w huntil).registered _ _ ⟨_, hmem, rfl, hemail⟩
  session id tokenHash hsession := by
    obtain ⟨row, hread⟩ := hsession
    obtain ⟨before, after, hperform, -, huntil, -⟩ := performed_between hrun hread
    obtain ⟨hmem, hid, hhash⟩ := selectRefreshToken_row hperform
    exact (Evidence.stored_mono w huntil).session _ _ ⟨row, hmem, hid, hhash⟩

/-- Only a statement that does not fail can do something to rows. -/
theorem grows_of_statement {Row : Type} {o : Origins ℕ World Row Uuid} {table : TableName} {i : ℕ}
    {a : Action} {r : a.Reply} (h : svc.machine.perform a w r w')
    (hstatement : ∀ (s : Statement) (rows : s.Row) fresh db, a = .sql s → s.run fresh w.now w.db = .ok (rows, db) →
      o.Grows (decide (insertedInto? (executed s rows) = some table)) i w { w with db := db }) :
    o.Grows (decide (insertedInto? ⟨a, r⟩ = some table)) i w w' := by
  have hstays (hnone : insertedInto? ⟨a, r⟩ = none) :
    o.Grows (decide (insertedInto? ⟨a, r⟩ = some table)) i w w := by
    rw [hnone]
    exact (Origins.Keeps.refl w).grows i
  cases a with
  | sql s =>
    rcases AuthService.perform_sql h with ⟨e, rfl, rfl⟩ | ⟨rows, fresh, db, rfl, hrun, rfl⟩
    · apply hstays
      cases s <;> rfl
    · exact hstatement s rows fresh db rfl hrun
  | _ =>
    rw [AuthService.perform_local h (by simp)]
    exact hstays rfl

/-- A statement that does not fail adds a user if it is an INSERT into `users`. -/
theorem users_grow {i : ℕ} {a : Action} {reply : a.Reply} {h : Trace}
    (hguard : (http.sourcing svc (req i)).guard h a) (hperform : svc.machine.perform a w reply w') :
    (userOrigins req).Grows (decide (insertedInto? ⟨a, reply⟩ = some .users)) i w w' := by
  refine grows_of_statement hperform fun s rows fresh db hsql hexec => ?_
  subst hsql
  refine .of_rows (fun row => Statement.run_users hexec) (Statement.onUser_id _ s) ?_ ?_ ?_
  · rintro user j ⟨r, hreq, hemail, hname⟩
    exact ⟨r, hreq, by rw [hemail, Statement.onUser_email], by rw [hname, Statement.onUser_name]⟩
  · cases s <;> rfl
  · intro new hnew
    obtain ⟨hfresh, email, passwordHash, name, rfl, hemail, -, hname⟩ := Statement.run_newUser hexec hnew
    obtain ⟨-, r, hreq, rfl, rfl⟩ := hguard
    exact ⟨hfresh, r, hreq, hemail, hname⟩

/-- A statement that does not fail adds a session if it is an INSERT into `refresh_tokens`. -/
theorem sessions_grow {i : ℕ} {a : Action} {reply : a.Reply}
    (hrun : svc.machine.Reaches (fun _ _ => True) (http.start svc w req) d)
    (hguard : (http.sourcing svc (req i)).guard (ownHistory i d.log) a)
    (hperform : svc.machine.perform a d.shared reply w') :
    (sessionOrigins http svc req w).Grows (decide (insertedInto? ⟨a, reply⟩ = some .refreshTokens)) i
      d.shared w' := by
  refine grows_of_statement hperform fun s rows fresh db hsql hexec => ?_
  subst hsql
  have hprecedes : d.shared.Precedes { d.shared with db := db } := ⟨Statement.run_evolves hexec, Nat.le_refl _⟩
  obtain ⟨hrows, hfresh⟩ := Statement.run_sessionRows hexec
  refine .of_rows hrows (Statement.onRefreshToken_id _ s) ?_ ?_ ?_
  · rintro t j ⟨hasks, client, hclient, hip, hagent⟩
    rw [sessionOrigins, Statement.onRefreshToken_keeps]
    exact ⟨hasks.mono (Evidence.stored_mono _ hprecedes), client, hclient, hip, hagent⟩
  · cases s with
    | insertRefreshToken id userId tokenHash expiresAt ipAddress userAgent =>
      simp only [Statement.run, except_bind_eq_ok, orError_eq_ok] at hexec
      obtain ⟨hash, hhash, ip, hip, -⟩ := hexec
      simp [insertedInto?, Statement.newRefreshToken?, hhash, hip]
    | _ => rfl
  · intro new hnew
    obtain ⟨tokenHash, ipAddress, rfl, -, hip, -⟩ := Statement.newRefreshToken?_eq_some hnew
    obtain ⟨-, hasks, hclient⟩ := hguard
    refine ⟨hfresh new hnew, ?_, _, hclient, hip, rfl⟩
    exact (hasks.mono (evidence_of_run hrun i)).mono (Evidence.stored_mono _ hprecedes)

/-- A statement that does not fail adds a one-time token if it is an INSERT into the table. -/
theorem tokens_grow {purpose : Purpose} {i : ℕ} {a : Action} {reply : a.Reply}
    (hrun : svc.machine.Reaches (fun _ _ => True) (http.start svc w req) d)
    (hguard : (http.sourcing svc (req i)).guard (ownHistory i d.log) a)
    (hperform : svc.machine.perform a d.shared reply w') :
    (tokenOrigins http svc req w purpose).Grows
      (decide (insertedInto? ⟨a, reply⟩ = some (.oneTimeTokens purpose))) i
      d.shared w' := by
  refine grows_of_statement hperform fun s rows fresh db hsql hexec => ?_
  subst hsql
  have hprecedes : d.shared.Precedes { d.shared with db := db } := ⟨Statement.run_evolves hexec, Nat.le_refl _⟩
  obtain ⟨hrows, hfresh⟩ := Statement.run_tokenRows hexec purpose
  refine .of_rows hrows (Statement.onOneTimeToken_id _ purpose s) ?_ ?_ ?_
  · intro t j hasks
    rw [tokenOrigins, Statement.onOneTimeToken_keeps]
    exact HttpRequest.AsksFor.mono (Evidence.stored_mono _ hprecedes) hasks
  · cases s with
    | insertOneTimeToken p userId tokenHash expiresAt =>
      by_cases hp : p = purpose
      · simp [insertedInto?, Statement.newToken?, hp]
      · simp [insertedInto?, Statement.newToken?, hp]
    | _ => rfl
  · intro new hnew
    cases s with
    | insertOneTimeToken p userId tokenHash expiresAt =>
      have hnew' := hnew
      simp only [Statement.newToken?] at hnew'
      split at hnew'
      · rename_i hp
        subst hp
        obtain rfl := Option.some.inj hnew'
        obtain ⟨-, hasks⟩ := hguard
        refine ⟨hfresh _ hnew, ?_⟩
        exact (hasks.mono (evidence_of_run hrun i)).mono (Evidence.stored_mono _ hprecedes)
      · cases hnew'
    | _ => cases hnew

/-- A move of the environment changes at most the status of a user. -/
theorem users_keep (hidle : svc.machine.idle w w') : (userOrigins req).Keeps w w' := by
  obtain ⟨m, rfl⟩ := hidle
  cases m with
  | tick elapsed => exact .of_rows (f := id) (by simp [userOrigins, EnvMove.apply]) (fun _ => rfl) (fun _ _ => id)
  | setStatus userId status =>
    refine .of_rows (f := fun u => if u.id = userId then { u with status := status } else u) ?_ ?_ ?_
    · intro user
      exact Db.mem_updateUser (f := fun u => { u with status := status }) (fun _ => rfl) (fun _ => rfl)
    · intro user
      simp only [userOrigins]
      split <;> rfl
    · rintro user i ⟨r, hreq, hemail, hname⟩
      refine ⟨r, hreq, ?_⟩
      split <;> exact ⟨hemail, hname⟩

/-- The surroundings keep the sessions. -/
theorem sessions_keep (hidle : svc.machine.idle w w') : (sessionOrigins http svc req first).Keeps w w' := by
  have hprecedes := svc.machine_monotone.idle _ _ hidle
  obtain ⟨m, rfl⟩ := hidle
  refine .of_rows (f := id) ?_ (fun _ => rfl) ?_
  · intro t
    cases m <;> simp [sessionOrigins, EnvMove.apply, Db.updateUser, Db.updateUsers]
  · rintro t i ⟨hasks, hclient⟩
    exact ⟨hasks.mono (Evidence.stored_mono _ hprecedes), hclient⟩

/-- The surroundings keep the one-time tokens. -/
theorem tokens_keep {purpose : Purpose} (hidle : svc.machine.idle w w') :
    (tokenOrigins http svc req first purpose).Keeps w w' := by
  have hprecedes := svc.machine_monotone.idle _ _ hidle
  obtain ⟨m, rfl⟩ := hidle
  refine .of_rows (f := id) ?_ (fun _ => rfl) ?_
  · intro t
    cases m <;> simp [tokenOrigins, EnvMove.apply, Db.updateUser, Db.updateUsers]
  · intro t i hasks
    exact HttpRequest.AsksFor.mono (Evidence.stored_mono _ hprecedes) hasks

/-- No request inserts twice into a table. -/
theorem sourcing_once {request : HttpRequest} {table : TableName} {h : Trace} {a : Action} {reply : a.Reply}
    (hguard : (http.sourcing svc request).guard h a)
    (hadds : decide (insertedInto? ⟨a, reply⟩ = some table) = true) :
    ∀ x ∈ h, decide (insertedInto? x = some table) = false := by
  have hwithout : table ∉ insertedTables h := by
    have hinserted := of_decide_eq_true hadds
    unfold insertedInto? at hinserted
    split at hinserted
    · rename_i heq
      cases heq
      obtain rfl := Option.some.inj hinserted
      exact hguard.1
    · rename_i heq
      cases heq
      obtain rfl := Option.some.inj hinserted
      exact hguard.1
    · rename_i heq
      cases heq
      obtain rfl := Option.some.inj hinserted
      exact hguard.1
    · cases hinserted
  intro x hx
  exact decide_eq_false fun hsame => hwithout (List.mem_filterMap.mpr ⟨x, hx, hsame⟩)

/-- The requests that made rows of a table are those that have inserted into it. -/
theorem inserted_of_traced {Row : Type} {o : Origins ℕ World Row Uuid} {table : TableName} {maker : Uuid → ℕ}
    (h : Traced o (fun x => decide (insertedInto? x = some table)) w d maker) (i : ℕ) :
    table ∈ insertedTables (ownHistory i d.log) ↔
      ∃ row, o.holds d.shared row ∧ o.New w row ∧ maker (o.key row) = i := by
  rw [← h.added i]
  simp only [insertedTables, List.mem_filterMap, decide_eq_true_eq]

/-- Matched rows are accounted for, as every request tells what it has inserted. -/
theorem Sourced.of_traced {Row : Type} {o : Origins ℕ World Row Uuid} {table : TableName} {maker : Uuid → ℕ}
    (hrun : svc.machine.Reaches (fun _ _ => True) (http.start svc w req) d)
    (h : Traced o (fun x => decide (insertedInto? x = some table)) w d maker) : Sourced o table w d maker where
  toMatched := h.toMatched
  inserted := inserted_of_traced h
  answered i reply hreply := by
    have hresult :=
      hrun.result (fun i => http.sourcing svc (req i)) (fun i =>
        createRoutes_sourcing http svc (req i)) hreply table
    rw [hresult, inserted_of_traced h i]

end Run

/-- In every interleaving of requests, the rows that were added to each of the four tables are matched with
the requests that made them: every added row has a request that asked for it, no request has two, and a
request that was answered has one in exactly the tables its reply speaks of. -/
theorem rows_accounted (http : Http) (svc : AuthService) (w : World) (req : ℕ → HttpRequest) (d : HttpSystem)
    (hrun : svc.machine.Reaches (fun _ _ => True) (http.start svc w req) d) :
    (∃ maker, Sourced (userOrigins req) .users w d maker) ∧
      (∃ maker, Sourced (sessionOrigins http svc req w) .refreshTokens w d maker) ∧
      ∀ purpose, ∃ maker, Sourced (tokenOrigins http svc req w purpose) (.oneTimeTokens purpose) w d maker := by
  have hobeys (i : ℕ) := createRoutes_sourcing http svc (req i)
  refine ⟨?_, ?_, fun purpose => ?_⟩
  · obtain ⟨maker, htraced⟩ := hrun.traced (fun i => http.sourcing svc (req i)) rfl hobeys
      (fun i h a reply hguard hadds => sourcing_once hguard hadds)
      (fun b i a s' reply _ hguard hperform => users_grow hguard hperform)
      (fun s s' hidle => users_keep hidle)
    exact ⟨maker, .of_traced hrun htraced⟩
  · obtain ⟨maker, htraced⟩ := hrun.traced (fun i => http.sourcing svc (req i)) rfl hobeys
      (fun i h a reply hguard hadds => sourcing_once hguard hadds)
      (fun b i a s' reply hreached hguard hperform => sessions_grow hreached hguard hperform)
      (fun s s' hidle => sessions_keep hidle)
    exact ⟨maker, .of_traced hrun htraced⟩
  · obtain ⟨maker, htraced⟩ := hrun.traced (fun i => http.sourcing svc (req i)) rfl hobeys
      (fun i h a reply hguard hadds => sourcing_once hguard hadds)
      (fun b i a s' reply hreached hguard hperform => tokens_grow hreached hguard hperform)
      (fun s s' hidle => tokens_keep hidle)
    exact ⟨maker, .of_traced hrun htraced⟩

section Runs

open Reference

/-- After two registrations of one email every row has its request. -/
theorem rows_accounted_registrations :
    (∃ maker, Sourced (userOrigins registrations) .users world registeredTwice maker) ∧
      (∃ maker, Sourced (sessionOrigins verifyingHttp verifyingService registrations world) .refreshTokens world
        registeredTwice maker) ∧
      ∀ purpose, ∃ maker, Sourced (tokenOrigins verifyingHttp verifyingService registrations world purpose)
        (.oneTimeTokens purpose) world registeredTwice maker :=
  rows_accounted verifyingHttp verifyingService world registrations registeredTwice
    (verifyingService.executor.play_reaches _ _)

end Runs

end RustPressAuth
