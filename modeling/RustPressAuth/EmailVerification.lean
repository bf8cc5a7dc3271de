import RustPressAuth.AccountOutcomes
import RustPressAuth.Handlers
import RustPressAuth.IssuerVerifier
import RustPressAuth.StoredPasswords

/-!
# Getting an account verified

Where a login needs a verified email, an account is of use only when some sequence of
requests verifies the email and then logs in. The requests are those of a person who
knows the password and reads the mailbox: every token they present was mailed to them or
handed out by an earlier reply.

An account can be verified as long as one mailed token is neither used nor expired. From
every state that requests can reach, verifying with that token, waiting until a lock has
passed and logging in succeeds.
-/

namespace RustPressAuth

open Atomic Program Machine Relational

/-- The computation can run alone from one world to another, with no failing statement. -/
def AuthService.CanRun (svc : AuthService) {α : Type} (p : AuthM α) (w : World) (res : Except Failure α)
    (w' : World) : Prop := ∃ tr, svc.smooth.Exec p w tr res w'

section CanRun

variable {svc : AuthService} {α β : Type} {w w' : World} {res : Except Failure β}

/-- What has ended can run. -/
theorem canRun_done (r : Except Failure β) (w : World) : svc.CanRun (.done r) w r w := ⟨[], .done⟩

/-- A call may begin later. -/
theorem canRun_later {p : AuthM β} {t : ℕ} (ht : w.clock ≤ t) (h : svc.CanRun p ⟨w.db, t⟩ res w') :
    svc.CanRun p w res w' := by
  obtain ⟨tr, hexec⟩ := h
  have hwaits : svc.smooth.Waits w ⟨w.db, t⟩ := alone_waits.mpr ⟨rfl, ht⟩
  exact ⟨tr, hexec.waits hwaits⟩

/-- An action is performed with a choice of all it leaves open. -/
theorem canRun_act {a : Action} {next : a.Reply → AuthM β} {r : a.Reply} {w₁ : World} (choice : Choice)
    (hexec : svc.exec w choice a = (r, w₁)) (hok : a.failed r = false) (h : svc.CanRun (next r) w₁ res w') :
    svc.CanRun (.act a next) w res w' := by
  obtain ⟨tr, hrest⟩ := h
  have hperform : svc.smooth.perform a w r w₁ :=
    ⟨⟨choice, hexec⟩, fun hfailed => by rw [hok] at hfailed; cases hfailed⟩
  exact ⟨_, .act hperform hrest⟩

/-- The clock can be read. -/
theorem canRun_now {f : Instant → AuthM β} (h : svc.CanRun (f w.now) w res w') :
    svc.CanRun (utcNow >>= f) w res w' :=
  canRun_act {} rfl rfl h

/-- Any id can be drawn. -/
theorem canRun_uuid {f : Uuid → AuthM β} (id : Uuid) (h : svc.CanRun (f id) w res w') :
    svc.CanRun (newUuid >>= f) w res w' := canRun_act { uuid := id } rfl rfl h

/-- Any bytes can be drawn. -/
theorem canRun_bytes {f : Vector UInt8 32 → AuthM β} (bytes : Vector UInt8 32) (h : svc.CanRun (f bytes) w res w') :
    svc.CanRun (randomBytes >>= f) w res w' := canRun_act { bytes := bytes } rfl rfl h

/-- A payload can be signed. -/
theorem canRun_sign {payload : Payload} {f : String → AuthM β}
    (h : svc.CanRun (f (svc.prims.jwtEncode svc.config.jwtSecret payload)) w res w') :
    svc.CanRun (sign payload >>= f) w res w' := canRun_act {} rfl rfl h

/-- A password can be compared with a hash that parses. -/
theorem canRun_verify {password hash : String} {f : Bool → AuthM β} {matched : Bool}
    (hcompare : svc.comparePassword password hash = some matched) (h : svc.CanRun (f matched) w res w') :
    svc.CanRun (AuthService.verifyPassword password hash >>= f) w res w' := by
  rw [AuthService.verifyPassword, bind_assoc]
  apply canRun_act (a := .verifyPassword password hash) {} rfl rfl
  simp only [hcompare]
  exact h

/-- A statement runs with parameters that the server accepts. -/
theorem canRun_query {s : Statement} {f : s.Row → AuthM β} {rows : s.Row} {db : Db} (fresh : Uuid)
    (haccepted : s.refusal? = none) (hrun : s.run fresh w.now w.db = .ok (rows, db))
    (h : svc.CanRun (f rows) ⟨db, w.clock⟩ res w') : svc.CanRun (query s >>= f) w res w' := by
  apply canRun_act (a := .sql s) (r := .ok rows) { uuid := fresh } _ rfl h
  simp only [AuthService.exec, haccepted, Option.or_none, hrun]

/-- An expiry that can be computed lets a computation go on. -/
theorem canRun_expires {now : Instant} {n : Int64} {f : Instant → AuthM β} (hexpires : Expires now n)
    (h : svc.CanRun (f (now + seconds n)) w res w') : svc.CanRun (expiresAfter now n >>= f) w res w' := by
  rw [expiresAfter_of now n hexpires]
  exact h

/-- A call can run that has a part that can and a rest that can. -/
theorem canRun_bind {p : AuthM α} {f : α → AuthM β} {v : α} {w₁ : World} (h : svc.CanRun p w (.ok v) w₁)
    (hrest : svc.CanRun (f v) w₁ res w') : svc.CanRun (p >>= f) w res w' := by
  obtain ⟨tr, hexec⟩ := h
  obtain ⟨tr', hexec'⟩ := hrest
  exact ⟨tr ++ tr', exec_bind.mpr (Or.inr ⟨v, w₁, tr, tr', hexec, hexec', rfl⟩)⟩

/-- A value that is there is passed on. -/
theorem canRun_okOr {v : α} {e : AuthError} {f : α → AuthM β} (h : svc.CanRun (f v) w res w') :
    svc.CanRun (okOr (some v) e >>= f) w res w' := h

/-- A check that passes lets a computation go on. -/
theorem canRun_check {condition : Bool} {block : AuthM Unit} {f : Unit → AuthM β} (hpass : condition = false)
    (h : svc.CanRun (f ()) w res w') : svc.CanRun (runIf condition block >>= f) w res w' := by
  subst hpass
  exact h

end CanRun

/-- The table of refresh tokens has room: some id and some random part are not taken. -/
def AuthService.HasRoom (svc : AuthService) (db : Db) : Prop :=
  ∃ (id : Uuid) (bytes : Vector UInt8 32),
    ∀ t ∈ db.refreshTokens, t.id ≠ id ∧ t.tokenHash ≠ svc.hashToken (base64UrlEncode bytes.toList)

/-- An empty table has room for a refresh token. -/
theorem hasRoom_of_empty (svc : AuthService) {db : Db} (hempty : db.refreshTokens.rows = []) : svc.HasRoom db := by
  refine ⟨0, Vector.replicate 32 0, fun t ht => ?_⟩
  rw [Table.mem_def, hempty] at ht
  exact absurd ht List.not_mem_nil

/-- A row with an existing user and keys of its own can be inserted. -/
theorem Db.exists_insertRefreshToken {db : Db} {token : RefreshToken} (huser : ∃ u ∈ db.users, u.id = token.userId)
    (hfree : ∀ t ∈ db.refreshTokens, t.id ≠ token.id ∧ t.tokenHash ≠ token.tokenHash) :
    ∃ db', db.insertRefreshToken? token = some db' := by
  have hinsert := Table.exists_insert hfree
  have hreferenced : ∃ u ∈ db.users.rows, u.id = token.userId := huser
  rw [Db.insertRefreshToken?, dif_pos hreferenced]
  split
  · rename_i hnone
    rw [hnone] at hinsert
    cases hinsert
  · exact ⟨_, rfl⟩

/-- The table of one-time tokens of a kind has room: some id and some random bytes are not taken. -/
def AuthService.HasOneTimeRoom (svc : AuthService) (purpose : Purpose) (db : Db) : Prop :=
  ∃ (id : Uuid) (bytes : Vector UInt8 32),
    ∀ t ∈ db.oneTimeTokens purpose, t.id ≠ id ∧ t.tokenHash ≠ svc.hashToken (base64UrlEncode bytes.toList)

/-- An empty table has room for a one-time token. -/
theorem hasOneTimeRoom_of_empty (svc : AuthService) {purpose : Purpose} {db : Db}
    (hempty : (db.oneTimeTokens purpose).rows = []) :
    svc.HasOneTimeRoom purpose db := by
  refine ⟨0, Vector.replicate 32 0, fun t ht => ?_⟩
  rw [Table.mem_def, hempty] at ht
  exact absurd ht List.not_mem_nil

/-- A token of an existing user with keys of its own can be inserted. -/
theorem Db.exists_insertOneTimeToken {db : Db} {purpose : Purpose} {token : OneTimeToken}
    (huser : ∃ u ∈ db.users, u.id = token.userId)
    (hfree : ∀ t ∈ db.oneTimeTokens purpose, t.id ≠ token.id ∧ t.tokenHash ≠ token.tokenHash) :
    ∃ db', db.insertOneTimeToken? purpose token = some db' := by
  have hinsert := Table.exists_insert hfree
  have hreferenced : ∃ u ∈ db.users.rows, u.id = token.userId := huser
  rw [Db.insertOneTimeToken?, dif_pos hreferenced]
  split
  · rename_i hnone
    rw [hnone] at hinsert
    cases hinsert
  · exact ⟨_, rfl⟩

section Operations

variable {svc : AuthService} {w : World} {user : User}

/-- A user is found by its id. -/
theorem Db.user?_of_mem {db : Db} (huser : user ∈ db.users) : db.user? user.id = some user :=
  Table.find?_eq_some_of_only huser (decide_eq_true rfl) fun _ hq hid =>
    Table.eq_of_pk hq huser (of_decide_eq_true hid)

/-- A user is found by its email. -/
theorem Db.userByEmail?_of_mem {db : Db} (huser : user ∈ db.users) : db.userByEmail? user.email = some user :=
  Table.find?_eq_some_of_only huser (decide_eq_true rfl) fun _ hq hemail =>
    Table.eq_of_unique hq huser (of_decide_eq_true hemail)

/-- A one-time token of the user is stored under the hash of this text, unused and unexpired. -/
def AuthService.LiveToken (svc : AuthService) (w : World) (userId : Uuid) (token : String)
    (row : OneTimeToken) : Prop :=
  row ∈ w.db.oneTimeTokens .emailVerification ∧ row.userId = userId ∧ row.tokenHash = svc.hashToken token ∧
    row.usedAt = none ∧ w.now < row.expiresAt

/-- A live token is found. -/
theorem Db.validToken?_of_live {token : String} {row : OneTimeToken} (hlive : svc.LiveToken w user.id token row) :
    w.db.validToken? .emailVerification (svc.hashToken token) w.now = some (row.id, user.id) := by
  obtain ⟨hrow, huser, hhash, hunused, hearly⟩ := hlive
  have hfind : (w.db.oneTimeTokens .emailVerification).find?
      (fun t => t.tokenHash = svc.hashToken token ∧ t.expiresAt > w.now ∧ t.usedAt = none) = some row := by
    apply Table.find?_eq_some_of_only hrow (decide_eq_true ⟨hhash, hearly, hunused⟩)
    intro q hq hkey
    exact Table.eq_of_unique hq hrow ((of_decide_eq_true hkey).1.trans hhash.symm)
  rw [Db.validToken?, hfind, Option.map_some, huser]

/-- A live token verifies the email of its user. -/
theorem canRun_verifyEmail {token : String} {row : OneTimeToken} (huser : user ∈ w.db.users)
    (hlive : svc.LiveToken w user.id token row) :
    svc.CanRun (svc.verifyEmail token) w (.ok (user.verified w.now))
      ⟨(w.db.verifyUser user.id w.now).consume .emailVerification row.id w.now, w.clock⟩ := by
  have hfind : (Statement.selectValidToken .emailVerification (svc.hashToken token)).run 0 w.now w.db =
      .ok (some (row.id, user.id), w.db) :=
    congrArg (fun found => Except.ok (found, w.db)) (Db.validToken?_of_live hlive)
  have hverify : (Statement.verifyUserEmail user.id).run 0 w.now w.db =
      .ok (user.verified w.now, w.db.verifyUser user.id w.now) := by
    simp only [Statement.run, Db.user?_of_mem huser, orError]
    rfl
  simp only [AuthService.verifyEmail, selectValidToken, verifyUserEmail]
  have haccepted : (Statement.selectValidToken .emailVerification (svc.hashToken token)).refusal? = none := by
    simp [Statement.refusal?, Statement.bound, refusal?_hashToken]
  apply canRun_query 0 haccepted hfind
  apply canRun_okOr
  apply canRun_query 0 rfl hverify
  apply canRun_query (s := .markTokenUsed .emailVerification row.id) 0 rfl rfl
  exact canRun_done _ _

/-- An active user that is not locked, and verified where that is required, can log in where the expiries of the new
tokens can be computed. -/
theorem canRun_login {password : String} (huser : user ∈ w.db.users) (hplain : '\x00' ∉ user.email.toList)
    (hactive : user.status = .active) (hunlocked : user.isLocked w.now = false)
    (hmatch : svc.comparePassword password user.passwordHash = some true)
    (hverified : (svc.config.requireEmailVerification && !user.isEmailVerified) = false)
    (hlifetime : 0 < svc.config.refreshTokenExpiration) (hexpire : svc.config.SessionsExpire w.now)
    (hroom : svc.HasRoom w.db) :
    ∃ response w', svc.CanRun (svc.login ⟨user.email, password⟩ none none) w (.ok response) w' ∧
      response.user.id = user.id := by
  obtain ⟨id, bytes, hfree⟩ := hroom
  have hrecord : (Statement.recordSuccessfulLogin user.id none).run 0 w.now w.db =
      .ok (w.db.userCount user.id, w.db.recordLogin user.id w.now none) := by
    simp only [Statement.run, Db.user?_of_mem huser]
    rfl
  have hexists : ∃ u ∈ (w.db.recordLogin user.id w.now none).users, u.id = user.id := by
    have hrow :=
      (Db.mem_updateUser (f := User.loggedIn w.now none) (fun _ => rfl) (fun _ => rfl)).mpr
      ⟨user, huser, if_pos rfl⟩
    exact ⟨_, hrow, rfl⟩
  obtain ⟨db, hinsert⟩ : ∃ db, (w.db.recordLogin user.id w.now none).insertRefreshToken?
      (svc.storedRow user.id id w.now w.now bytes none none) = some db := Db.exists_insertRefreshToken hexists hfree
  have hstore : (svc.storeRefresh user.id id w.now bytes none none).run 0 w.now
    (w.db.recordLogin user.id w.now none) =
      .ok ((1 : ℕ), db) := by
    simp only [AuthService.storeRefresh, Statement.run, except_bind_eq_ok, orError_eq_ok]
    exact ⟨_, varchar_hashToken svc _, none, rfl, db, hinsert, rfl⟩
  refine ⟨⟨.ofUser user, svc.prims.jwtEncode svc.config.jwtSecret (svc.accessClaims user w.now 0).toPayload,
    svc.combined user.id id w.now bytes, "Bearer", svc.config.accessTokenExpiration⟩, ⟨db, w.clock⟩, ?_, rfl⟩
  simp only [AuthService.login, AuthService.recordSuccessfulLogin, AuthService.generateAccessToken,
    AuthService.generateRefreshToken, selectUserByEmail, bind_assoc]
  have hfind : (Statement.selectUserByEmail user.email).run 0 w.now w.db = .ok (some user, w.db) :=
    congrArg (fun found => Except.ok (found, w.db)) (Db.userByEmail?_of_mem huser)
  have hemail : (Statement.selectUserByEmail user.email).refusal? = none := by
    simp [Statement.refusal?, Statement.bound, Parameter.refusal?_text.mpr hplain]
  have haccepted : (svc.storeRefresh user.id id w.now bytes none none).refusal? = none := by
    have htime : (Parameter.time (w.now + seconds svc.config.refreshTokenExpiration)).refusal? = none :=
      Parameter.refusal?_time (Int.natCast_nonneg w.clock) hlifetime hexpire.2
    simp [AuthService.storeRefresh, Statement.refusal?, Statement.bound, refusal?_hashToken, htime]
  apply canRun_query 0 hemail hfind
  apply canRun_okOr
  apply canRun_now
  apply canRun_check hunlocked
  apply canRun_check (by simp [hactive])
  apply canRun_verify hmatch
  apply canRun_check (by simp)
  apply canRun_check hverified
  apply canRun_query 0 rfl hrecord
  apply canRun_now
  apply canRun_expires hexpire.1
  apply canRun_uuid 0
  apply canRun_sign
  apply canRun_uuid id
  apply canRun_now
  apply canRun_expires hexpire.2
  apply canRun_bytes bytes
  apply canRun_query 0 haccepted hstore
  apply canRun_sign
  exact canRun_done _ _

/-- A stored token can be used until it expires. -/
theorem AuthService.StoresOneTime.stored {purpose : Purpose} {userId : Uuid} {issuedAt : Instant}
    {db db' : Db} {token : String} (h : svc.StoresOneTime purpose userId issuedAt db token db') :
    ∃ row ∈ db'.oneTimeTokens purpose, row.userId = userId ∧
      row.tokenHash = svc.hashToken token ∧ row.usedAt = none ∧
      row.expiresAt = issuedAt + seconds (svc.config.lifetime purpose) := by
  obtain ⟨bytes, fresh, t, stored, rfl, hinsert⟩ := h
  exact ⟨_, (Table.mem_insert? (Db.insertOneTimeToken?_spec hinsert).2.2.1).mpr (Or.inr rfl), rfl, rfl, rfl, rfl⟩

/-- Storing a token leaves users and sessions alone. -/
theorem AuthService.StoresOneTime.frame {purpose : Purpose} {userId : Uuid} {issuedAt : Instant}
    {db db' : Db} {token : String} (h : svc.StoresOneTime purpose userId issuedAt db token db') :
    db'.users = db.users ∧ db'.refreshTokens = db.refreshTokens := by
  obtain ⟨bytes, fresh, t, stored, -, hinsert⟩ := h
  obtain ⟨husers, hrefresh, -⟩ := Db.insertOneTimeToken?_spec hinsert
  exact ⟨husers, hrefresh⟩

/-- A one-time token is issued where its expiry can be computed and its table has room. -/
theorem canRun_issueOneTimeToken (purpose : Purpose) (huser : user ∈ w.db.users)
    (hlifetime : 0 < svc.config.lifetime purpose) (hexpires : Expires w.now (svc.config.lifetime purpose))
    (hroom : svc.HasOneTimeRoom purpose w.db) :
    ∃ token db,
    svc.CanRun (svc.issueOneTimeToken purpose (svc.config.lifetime purpose) user.id) w (.ok token) ⟨db, w.clock⟩ ∧
      svc.StoresOneTime purpose user.id w.now w.db token db := by
  obtain ⟨id, bytes, hfree⟩ := hroom
  have hkept : ∀ t ∈ (w.db.supersede purpose user.id w.now).oneTimeTokens purpose,
      t.id ≠ id ∧ t.tokenHash ≠ svc.hashToken (base64UrlEncode bytes.toList) := by
    intro t ht
    obtain ⟨q, hq, rfl⟩ := Db.mem_markUsed.mp ht
    split
    · exact hfree q hq
    · exact hfree q hq
  obtain ⟨db, hinsert⟩ : ∃ db, (w.db.supersede purpose user.id w.now).insertOneTimeToken? purpose
      (newOneTimeToken id w.now user.id (svc.hashToken (base64UrlEncode bytes.toList))
        (w.now + seconds (svc.config.lifetime purpose))) = some db :=
    Db.exists_insertOneTimeToken ⟨user, huser, rfl⟩ hkept
  have hstore : (Statement.insertOneTimeToken purpose user.id (svc.hashToken (base64UrlEncode bytes.toList))
      (w.now + seconds (svc.config.lifetime purpose))).run id w.now (w.db.supersede purpose user.id w.now) =
      .ok ((1 : ℕ), db) := by
    simp only [Statement.run, except_bind_eq_ok, orError_eq_ok]
    exact ⟨_, varchar_hashToken svc _, db, hinsert, rfl⟩
  have haccepted : (Statement.insertOneTimeToken purpose user.id (svc.hashToken (base64UrlEncode bytes.toList))
      (w.now + seconds (svc.config.lifetime purpose))).refusal? = none := by
    have htime : (Parameter.time (w.now + seconds (svc.config.lifetime purpose))).refusal? = none :=
      Parameter.refusal?_time (Int.natCast_nonneg w.clock) hlifetime hexpires
    simp [Statement.refusal?, Statement.bound, refusal?_hashToken, htime]
  refine ⟨base64UrlEncode bytes.toList, db, ?_, bytes, id, w.clock, w.clock, rfl, hinsert⟩
  simp only [AuthService.issueOneTimeToken]
  apply canRun_bytes bytes
  apply canRun_now
  apply canRun_expires hexpires
  apply canRun_query (s := .invalidateTokens purpose user.id) 0 rfl rfl
  apply canRun_query id haccepted hstore
  exact canRun_done _ _

end Operations

/-- A request that was made and has ended. -/
abbrev HttpRecord := Machine.Record HttpRequest Action Action.Reply Failure HttpReply World

/-- The tokens a reply hands out. -/
def HttpReply.handsOut : HttpReply → List String
  | .registered _ _ verificationToken => [verificationToken]
  | .session response => [response.accessToken, response.refreshToken]
  | .tokens response => [response.accessToken, response.refreshToken]
  | .resetLink _ resetToken => resetToken.toList
  | .resent _ verificationToken => [verificationToken]
  | .emailVerified .. | .user _ | .message _ | .rejected _ => []

/-- The tokens a request presents. -/
def HttpRequest.presents : HttpRequest → List String
  | .refresh _ refreshToken => [refreshToken]
  | .logout refreshToken => [refreshToken]
  | .resetPassword req => [req.token]
  | .verifyEmail token => [token]
  | .me parts | .changePassword parts _ | .resendVerification parts => parts.presentedToken.toList
  | .register _ | .login .. | .forgotPassword _ => []

/-- Every token that is presented was held from the start or handed out by an earlier reply. -/
def WithinMeans (held : String → Prop) : List HttpRecord → Prop
  | [] => True
  | call :: older =>
    (∀ token ∈ call.request.presents, held token ∨
      ∃ earlier ∈ older, ∃ reply, earlier.result = .ok reply ∧ token ∈ reply.handsOut) ∧ WithinMeans held older

/-- The verification tokens sent to the mailbox of a user: those of replies to its registration and to
requests in its name. -/
inductive Mailed (svc : AuthService) (req : ℕ → HttpRequest) (d : HttpSystem) (userId : Uuid)
    (token : String) : Prop
  | registration {i : ℕ} {message : String} {user : UserResponse}
      (hcall : d.calls i = .done (.ok (.registered message user token))) (hid : user.id = userId) :
      Mailed svc req d userId token
  | resent {i : ℕ} {message : String} {parts : RequestParts} {presented : String} {claims : AccessTokenClaims}
      (hreq : req i = .resendVerification parts) (hpresented : parts.presentedToken = some presented)
      (hclaims : svc.prims.carried presented = some claims) (hid : claims.sub = userId)
      (hcall : d.calls i = .done (.ok (.resent message token))) : Mailed svc req d userId token

/-- The stored hash was made from this password, which the policy accepts. -/
def AuthService.MadeFrom (svc : AuthService) (password hash : String) : Prop :=
  svc.passwordAccepted password = true ∧ ∃ salt, svc.argon2 salt password = some hash

/-- Some requests within the means of a person verify the email of a user, and the last of them is a login
that succeeds. -/
def Http.GetsIn (http : Http) (svc : AuthService) (w : World) (held : String → Prop) (user : User)
    (password : String) : Prop :=
  ∃ call older w', svc.smooth.Serial (http.createRoutes svc) w (call :: older) w' ∧
    WithinMeans held (call :: older) ∧
    (∃ client response, call.request = .login client ⟨user.email, password⟩ ∧
      call.result = .ok (.session response) ∧
      response.user.id = user.id) ∧
    ∃ row ∈ w'.db.users, row.id = user.id ∧ row.isEmailVerified = true

/-- Calls that run go on, one step at a time, and no statement fails. -/
def AuthService.GoesOn (svc : AuthService) (d d' : HttpSystem) : Prop := svc.smooth.Reaches (ByCalls d.Running) d d'

/-- The user gets in, at once or when calls that run have gone on. -/
def Http.Escapes (http : Http) (svc : AuthService) (req : ℕ → HttpRequest) (d : HttpSystem) (user : User)
    (password : String) : Prop :=
  ∃ d', svc.GoesOn d d' ∧ http.GetsIn svc d'.shared (Mailed svc req d' user.id) user password

/-- Every token lives for a while. -/
structure AuthConfig.PositiveLifetimes (config : AuthConfig) : Prop where
  access : 0 < config.accessTokenExpiration
  refresh : 0 < config.refreshTokenExpiration
  passwordReset : 0 < config.passwordResetExpiration
  emailVerification : 0 < config.emailVerificationExpiration

/-- At some time the lock of the user has passed, and the expiries of the tokens of a session can be computed. -/
def AuthService.AdmitsLogin (svc : AuthService) (user : User) (clock : ℕ) : Prop :=
  ∃ t : ℕ, clock ≤ t ∧ user.isLocked t = false ∧ svc.config.SessionsExpire t

/-- The email is verified, or a token mailed for it is neither used nor expired; a login is possible, now or
later, and its refresh token can be stored. -/
structure AuthService.Ready (svc : AuthService) (req : ℕ → HttpRequest) (d : HttpSystem) (user : User) : Prop where
  exists_user : user ∈ d.shared.db.users
  verifiable : user.isEmailVerified = true ∨
    ∃ token row, Mailed svc req d user.id token ∧ svc.LiveToken d.shared user.id token row
  login : svc.AdmitsLogin user d.shared.clock
  room : svc.HasRoom d.shared.db

/-- The user is ready, at once or when calls that run have gone on: a registration that has inserted the user
and has not yet stored the token, for instance. -/
def AuthService.Verifiable (svc : AuthService) (req : ℕ → HttpRequest) (d : HttpSystem) (user : User) : Prop :=
  ∃ d' row, svc.GoesOn d d' ∧ row.id = user.id ∧ row.status = user.status ∧ row.passwordHash = user.passwordHash ∧
    svc.Ready req d' row

/-- A token is the text of thirty-two bytes. -/
def Drawn (token : String) : Prop := ∃ bytes : Vector UInt8 32, token = base64UrlEncode bytes.toList

/-- The text of thirty-two bytes is a token. -/
@[simp] theorem drawn_encode (bytes : Vector UInt8 32) : Drawn (base64UrlEncode bytes.toList) := ⟨bytes, rfl⟩

/-- Users are inserted with an email that was checked, and verification tokens are random bytes. -/
def Http.checked (http : Http) : Protocol Action Action.Reply HttpReply where
  guard _ a := ∀ email passwordHash name, a = .sql (.insertUser email passwordHash name) →
    http.validEmail email = true
  result _
    | .registered _ _ token | .resent _ token => Drawn token
    | _ => True

/-- The validator accepts no email with a space in it. -/
def Http.EmailsSpaceless (http : Http) : Prop := ∀ email, http.validEmail email = true → ' ' ∉ email.toList

/-- A hash that Argon2 made from a password is verified against it. -/
def Primitives.Argon2RoundTrip (prims : Primitives) : Prop :=
  ∀ m t p salt password hash, prims.argon2Hash m t p salt password = some hash →
    prims.argon2Verify password hash = true

/-- The check of an email finds nothing exactly if the validator accepts it. -/
theorem checkEmail_eq_nil {http : Http} {email : String} :
    http.checkEmail email = [] ↔ http.validEmail email = true := by
  unfold Http.checkEmail
  split
  · rename_i hvalid
    simp [hvalid]
  · rename_i hinvalid
    simp [hinvalid]

/-- A drawn token is not the empty text. -/
theorem Drawn.ne_empty {token : String} (h : Drawn token) : token ≠ "" := by
  obtain ⟨bytes, rfl⟩ := h
  exact base64UrlEncode_ne_empty bytes

/-- Every handler checks the email of a user before it inserts it. -/
theorem createRoutes_checked (http : Http) (svc : AuthService) (request : HttpRequest) (h : Trace) :
    (http.createRoutes svc request).Obeys http.checked h := by
  cases request with
  | register req =>
    simp only [Http.createRoutes, Http.register, obeys_bind, obeys_validate, before_result]
    intro herrors
    simp only [Http.registerErrors, List.append_eq_nil_iff, checkEmail_eq_nil] at herrors
    simp [AuthService.register, AuthService.validatePassword, AuthService.hashPassword,
      AuthService.createEmailVerification, AuthService.issueOneTimeToken, Http.checked, herrors]
  | login client req =>
    simp [Http.createRoutes, Http.login, AuthService.login, AuthService.verifyPassword,
      AuthService.incrementFailedAttempts, AuthService.recordSuccessfulLogin,
      AuthService.generateAccessToken, AuthService.generateRefreshToken, Http.checked]
  | refresh client refreshToken =>
    simp [Http.createRoutes, Http.refreshToken, AuthService.refreshTokens, AuthService.redeem, AuthService.rotate,
      AuthService.revokeAllTokens, AuthService.generateAccessToken, AuthService.generateRefreshToken, Http.checked]
  | forgotPassword email =>
    simp only [Http.createRoutes, Http.forgotPassword, AuthService.forgotPassword, obeys_bind, obeys_validate,
      obeys_selectUserByEmail, before_result, before_guard]
    refine fun _ => ⟨by simp [Http.checked], fun user => ?_⟩
    cases user with
    | none => simp [Http.checked]
    | some user => simp [AuthService.issueOneTimeToken, Http.checked]
  | resetPassword req =>
    simp [Http.createRoutes, Http.resetPassword, AuthService.resetPassword, AuthService.validatePassword,
      AuthService.hashPassword, AuthService.revokeAllTokens, Http.checked]
  | logout refreshToken => simp [Http.createRoutes, Http.logout, AuthService.logout, Http.checked]
  | verifyEmail token => simp [Http.createRoutes, Http.verifyEmail, AuthService.verifyEmail, Http.checked]
  | me parts =>
    apply obeys_authenticated
    · simp [Http.checked]
    · simp [Http.checked]
    · simp [Http.checked]
  | changePassword parts req =>
    apply obeys_authenticated
    · simp [Http.checked]
    · simp [Http.changePassword, AuthService.changePassword, AuthService.verifyPassword,
        AuthService.validatePassword, AuthService.hashPassword, AuthService.revokeAllTokens, Http.checked]
    · simp [Http.checked]
  | resendVerification parts =>
    apply obeys_authenticated
    · simp [Http.checked]
    · simp [Http.resendVerification, AuthService.resendVerification, AuthService.createEmailVerification,
        AuthService.issueOneTimeToken, Http.checked]
    · simp [Http.checked]

section Reached

variable {http : Http} {svc : AuthService} {w : World} {req : ℕ → HttpRequest} {d : HttpSystem}

/-- An email that the validator accepts and that a statement can carry. -/
def Http.Bindable (http : Http) (email : String) : Prop := http.validEmail email = true ∧ '\x00' ∉ email.toList

/-- In every run of requests from an empty database the emails of users are valid. -/
theorem bindable_of_run (hspaceless : http.EmailsSpaceless) (hempty : w.db = Db.empty)
    (hrun : svc.machine.Reaches (fun _ _ => True) (http.start svc w req) d) :
    ∀ user ∈ d.shared.db.users, http.Bindable user.email := by
  have hind : Machine.Inductive svc.machine (fun _ _ => True) (fun _ => http.checked)
      (fun c : HttpSystem => ∀ user ∈ c.shared.db.users, http.Bindable user.email) := by
    constructor
    · intro c i a next r s hinv _ hguard _ hperform _
      cases a with
      | sql statement =>
        rcases AuthService.perform_sql hperform with ⟨e, -, rfl⟩ | ⟨v, fresh, db, rfl, hexec, rfl⟩
        · exact hinv
        · intro user huser
          rcases (Statement.run_users hexec).mp huser with ⟨row, hrow, rfl⟩ | hnew
          · rw [Statement.onUser_email]
            exact hinv row hrow
          · cases statement with
            | insertUser email passwordHash name =>
              obtain rfl := Option.some.inj hnew
              have hvalid := hguard email passwordHash name rfl
              have haccepted := List.findSome?_eq_none_iff.mp (AuthService.perform_accepted hperform) (.text email)
                (List.mem_cons_self ..)
              simp only [newUser, varchar_getD (hspaceless email hvalid)]
              exact ⟨hvalid, Parameter.refusal?_text.mp haccepted⟩
            | _ => cases hnew
      | _ => exact AuthService.perform_local hperform (by simp) ▸ hinv
    · intro c s hinv hidle _
      obtain ⟨m, rfl⟩ := hidle
      cases m with
      | tick elapsed => exact hinv
      | setStatus id status =>
        intro user huser
        obtain ⟨row, hrow, rfl⟩ := Db.mem_updateUsers.mp huser
        have hvalid := hinv row hrow
        split
        · exact hvalid
        · exact hvalid
  apply Reaches.invariant hind hrun
  · intro i
    exact createRoutes_checked http svc (req i) _
  · intro user huser
    have hnone : user ∈ (Table.empty : Users) := by
      rw [Http.start, Config.start, hempty] at huser
      exact huser
    exact absurd hnone (Table.not_mem_empty user)

/-- A token that was mailed was drawn. -/
theorem Mailed.drawn (hrun : svc.machine.Reaches (fun _ _ => True) (http.start svc w req) d) {userId : Uuid}
    {token : String} (h : Mailed svc req d userId token) : Drawn token := by
  have hobeys (i : ℕ) : ((http.start svc w req).calls i).Obeys http.checked
    (ownHistory i (http.start svc w req).log) :=
    createRoutes_checked http svc (req i) _
  cases h with
  | registration hcall => exact hrun.result (fun _ => http.checked) hobeys hcall
  | resent _ _ _ _ hcall => exact hrun.result (fun _ => http.checked) hobeys hcall

end Reached

section WayOut

variable {http : Http} {svc : AuthService} {w : World} {user : User} {password : String}

/-- A password matches the hash that was made from it. -/
theorem AuthService.MadeFrom.compares (hargon : svc.prims.Argon2RoundTrip) (hphc : svc.prims.PhcHashes)
    {hash : String} (h : svc.MadeFrom password hash) : svc.comparePassword password hash = some true := by
  obtain ⟨-, salt, hmade⟩ := h
  unfold AuthService.argon2 at hmade
  split at hmade
  · rename_i hparams
    have hparses := hphc.parses _ _ _ _ _ _ hmade
    have hverifies := hargon _ _ _ _ _ _ hmade
    simp [AuthService.comparePassword, hparses, hparams, hverifies]
  · cases hmade

/-- A password the policy accepts is not empty. -/
theorem AuthService.MadeFrom.length_pos {hash : String} (h : svc.MadeFrom password hash) : 1 ≤ password.length := by
  have haccepted := h.1
  simp only [AuthService.passwordAccepted, Bool.and_eq_true] at haccepted
  obtain ⟨c, hc, -⟩ := List.any_eq_true.mp haccepted.2.1.1
  rw [← String.length_toList]
  exact List.length_pos_of_mem hc

/-- A verified, active user who knows the password can log in, once a lock has passed. -/
theorem canRun_loginRoute (hargon : svc.prims.Argon2RoundTrip) (hphc : svc.prims.PhcHashes)
    (hlifetime : 0 < svc.config.refreshTokenExpiration) (hemail : http.Bindable user.email)
    (huser : user ∈ w.db.users) (hactive : user.status = .active) (hmade : svc.MadeFrom password user.passwordHash)
    (hverified : user.isEmailVerified = true) (hlogin : svc.AdmitsLogin user w.clock) (hroom : svc.HasRoom w.db) :
    ∃ response w', svc.CanRun (http.createRoutes svc (.login ⟨none, none⟩ ⟨user.email, password⟩)) w
        (.ok (.session response)) w' ∧ response.user.id = user.id := by
  obtain ⟨t, ht, hunlocked, hexpire⟩ := hlogin
  obtain ⟨response, w', hlogin, hid⟩ := canRun_login (w := ⟨w.db, t⟩) huser hemail.2 hactive hunlocked
    (hmade.compares hargon hphc) (by simp [hverified]) hlifetime hexpire hroom
  have herrors : http.loginErrors ⟨user.email, password⟩ = [] := by
    have hlength := hmade.length_pos
    simp [Http.loginErrors, checkEmail_eq_nil.mpr hemail.1, checkLength, hlength]
  refine ⟨response, w', canRun_later ht ?_, hid⟩
  simp only [Http.createRoutes, Http.login, Http.validate, herrors]
  exact canRun_check rfl (canRun_bind hlogin (canRun_done _ _))

/-- A mailed token that is neither used nor expired is accepted at its route. -/
theorem canRun_verifyRoute (http : Http) {token : String} {row : OneTimeToken} (huser : user ∈ w.db.users)
    (htoken : token ≠ "") (hlive : svc.LiveToken w user.id token row) :
    svc.CanRun (http.createRoutes svc (.verifyEmail token)) w
      (.ok (.emailVerified "Email verified successfully" (.ofUser (user.verified w.now))))
      ⟨(w.db.verifyUser user.id w.now).consume .emailVerification row.id w.now, w.clock⟩ := by
  have herrors : Http.verifyErrors token = [] := by
    have hlength : 1 ≤ token.length := by
      rw [Nat.one_le_iff_ne_zero, ← String.length_toList, Ne, List.length_eq_zero_iff, String.toList_eq_nil_iff]
      exact htoken
    simp [Http.verifyErrors, checkLength, hlength]
  simp only [Http.createRoutes, Http.verifyEmail, Http.validate, herrors]
  exact canRun_check rfl (canRun_bind (canRun_verifyEmail huser hlive) (canRun_done _ _))

/-- Where a verified, active user who knows the password is reached by requests, the login ends the way out. -/
theorem getsIn_of_verified (hargon : svc.prims.Argon2RoundTrip) (hphc : svc.prims.PhcHashes)
    (hlifetime : 0 < svc.config.refreshTokenExpiration) {first : World} {held : String → Prop}
    {older : List HttpRecord} (hserial : svc.smooth.Serial (http.createRoutes svc) first older w)
    (hmeans : WithinMeans held older) (hemail : http.Bindable user.email) (huser : user ∈ w.db.users)
    (hactive : user.status = .active) (hmade : svc.MadeFrom password user.passwordHash)
    (hverified : user.isEmailVerified = true) (hlogin : svc.AdmitsLogin user w.clock)
    (hroom : svc.HasRoom w.db) : http.GetsIn svc first held user password := by
  obtain ⟨response, w', ⟨tr, hexec⟩, hid⟩ :=
    canRun_loginRoute hargon hphc hlifetime hemail huser hactive hmade hverified hlogin hroom
  obtain ⟨row, hrow, hlater⟩ := (alone_precedes hexec).db.users user huser
  refine ⟨_, older, w', .call hserial hexec, ⟨?_, hmeans⟩, ⟨_, response, rfl, rfl, hid⟩, row, hrow, hlater.id, ?_⟩
  · intro token htoken
    exact absurd htoken List.not_mem_nil
  · exact hlater.verified hverified

/-- A user who is ready gets verified and logs in. -/
theorem getsIn_of_ready (hargon : svc.prims.Argon2RoundTrip) (hphc : svc.prims.PhcHashes)
    (hlifetime : 0 < svc.config.refreshTokenExpiration) {req : ℕ → HttpRequest} {d : HttpSystem}
    (hemail : http.Bindable user.email) (hactive : user.status = .active)
    (hmade : svc.MadeFrom password user.passwordHash)
    (hdrawn : ∀ token, Mailed svc req d user.id token → token ≠ "") (hready : svc.Ready req d user) :
    http.GetsIn svc d.shared (Mailed svc req d user.id) user password := by
  rcases hready.verifiable with hverified | ⟨token, row, hmailed, hlive⟩
  · exact getsIn_of_verified hargon hphc hlifetime .start trivial hemail hready.exists_user hactive hmade hverified
      hready.login hready.room
  · obtain ⟨tr, hexec⟩ := canRun_verifyRoute http hready.exists_user (hdrawn token hmailed) hlive
    have hserial := Serial.call .start hexec
    have hrow := (Db.mem_updateUser (f := User.verified d.shared.now) (fun _ => rfl) (fun _ => rfl)).mpr
      ⟨user, hready.exists_user, if_pos rfl⟩
    have hpresents : ∀ presented ∈ (HttpRequest.verifyEmail token).presents,
      Mailed svc req d user.id presented := by
      intro presented hpresented
      rw [List.mem_singleton.mp hpresented]
      exact hmailed
    have hgetsIn : http.GetsIn svc d.shared (Mailed svc req d user.id) (user.verified d.shared.now) password :=
      getsIn_of_verified hargon hphc hlifetime hserial ⟨fun presented h =>
        Or.inl (hpresents presented h), trivial⟩ hemail
        hrow rfl hmade rfl hready.login hready.room
    exact hgetsIn

end WayOut

section InFlight

variable {http : Http} {svc : AuthService} {req : ℕ → HttpRequest} {d d' : HttpSystem} {user : User}
    {password : String}

/-- The calls that run go on as they can in any run. -/
theorem AuthService.GoesOn.reaches (h : svc.GoesOn d d') : svc.machine.Reaches (fun _ _ => True) d d' := by
  have hrun := h.mono fun _ _ _ => True.intro
  have hperform (a : Action) (w : World) (r : a.Reply) (w' : World) (hact : svc.smooth.perform a w r w') :
      svc.machine.perform a w r w' := hact.1
  have hidle (w w' : World) (hmove : svc.smooth.idle w w') : svc.machine.idle w w' := by
    obtain ⟨elapsed, rfl⟩ := hmove
    exact ⟨.tick elapsed, rfl⟩
  exact hrun.machine_mono hperform hidle

/-- A call that runs can go on alone to its end. -/
theorem goesOn_of_exec {i : ℕ} {tr : Trace} {res : Except Failure HttpReply} {w' : World} (hrunning : d.Running i)
    (h : svc.smooth.Exec (d.calls i) d.shared tr res w') :
    ∃ d', svc.GoesOn d d' ∧ d'.shared = w' ∧ d'.calls = Function.update d.calls i (.done res) := by
  obtain ⟨d', hrun, hend⟩ := h.reaches_alone rfl rfl
  have hmine (c c' : HttpSystem) (hstep : ByCalls (· = i) c c') : ByCalls d.Running c c' :=
    fun e he => (hstep e he).symm ▸ hrunning
  exact ⟨d', hrun.mono hmine, hend⟩

/-- What is left of a registration once the user is inserted. -/
def Http.finishRegistration (svc : AuthService) (user : User) : AuthM HttpReply := do
  let token ← svc.createEmailVerification user.id
  pure (.registered "Registration successful. Please verify your email." (.ofUser user) token)

/-- A registration that has inserted the user and not yet stored the token does not strand the user. -/
theorem verifiable_of_registering {i : ℕ} (hrunning : d.Running i)
    (hcall : d.calls i = Http.finishRegistration svc user) (huser : user ∈ d.shared.db.users)
    (hlifetime : 0 < svc.config.emailVerificationExpiration)
    (hexpires : Expires d.shared.now svc.config.emailVerificationExpiration)
    (htokens : svc.HasOneTimeRoom .emailVerification d.shared.db) (hlogin : svc.AdmitsLogin user d.shared.clock)
    (hroom : svc.HasRoom d.shared.db) : svc.Verifiable req d user := by
  obtain ⟨token, db, hissue, hstores⟩ :=
    canRun_issueOneTimeToken .emailVerification huser hlifetime hexpires htokens
  have hfinish : svc.CanRun (d.calls i) d.shared
      (.ok (.registered "Registration successful. Please verify your email." (.ofUser user) token))
      ⟨db, d.shared.clock⟩ :=
    hcall ▸ canRun_bind hissue (canRun_done _ _)
  obtain ⟨tr, hexec⟩ := hfinish
  obtain ⟨d', hgoesOn, hshared, hcalls⟩ := goesOn_of_exec hrunning hexec
  obtain ⟨row, hrow, howner, hhash, hunused, hexpiry⟩ := hstores.stored
  obtain ⟨husers, hsessions⟩ := hstores.frame
  have hmailed : Mailed svc req d' user.id token := .registration (i := i) (hcalls ▸ Function.update_self _ _ _) rfl
  have hearly : d.shared.now < row.expiresAt := by
    have hpositive : 0 < seconds (svc.config.lifetime .emailVerification) :=
      Int.mul_pos (Int64.lt_iff_toInt_lt.mp hlifetime) (by decide)
    rw [hexpiry]
    exact Int.lt_add_of_pos_right _ hpositive
  refine ⟨d', user, hgoesOn, rfl, rfl, rfl, ?_, Or.inr ⟨token, row, hmailed, ?_⟩, ?_, ?_⟩
  · rw [hshared, husers]
    exact huser
  · rw [hshared]
    exact ⟨hrow, howner, hhash, hunused, hearly⟩
  · rw [hshared]
    exact hlogin
  · obtain ⟨id, bytes, hfree⟩ := hroom
    rw [hshared]
    exact ⟨id, bytes, fun t ht => hfree t (hsessions ▸ ht)⟩

end InFlight

/-- In every state that requests can reach from an empty database, an active user whose email is verified, or
to whom a token was mailed that is neither used nor expired, or is once calls that run have gone on, gets
verified and logs in, where a session can be opened and stored. -/
theorem email_verification_escape (http : Http) (svc : AuthService) (hargon : svc.prims.Argon2RoundTrip)
    (hphc : svc.prims.PhcHashes) (hspaceless : http.EmailsSpaceless)
    (hlifetimes : svc.config.PositiveLifetimes) (w : World) (hempty : w.db = Db.empty)
    (req : ℕ → HttpRequest) (d : HttpSystem)
    (hrun : svc.machine.Reaches (fun _ _ => True) (http.start svc w req) d) (user : User)
    (huser : user ∈ d.shared.db.users) (hactive : user.status = .active) (password : String)
    (hmade : svc.MadeFrom password user.passwordHash) (hverifiable : svc.Verifiable req d user) :
    http.Escapes svc req d user password := by
  obtain ⟨d', row, hgoesOn, hid, hstatus, hhash, hready⟩ := hverifiable
  have hrun' := hrun.trans hgoesOn.reaches
  have hemail := bindable_of_run hspaceless hempty hrun' row hready.exists_user
  obtain ⟨later, hlater, hsame⟩ := (hgoesOn.reaches.monotone svc.machine_monotone).db.users user huser
  obtain rfl : later = row := Table.eq_of_pk hlater hready.exists_user (hsame.id.trans hid.symm)
  have hgetsIn := getsIn_of_ready hargon hphc hlifetimes.refresh hemail (hstatus.trans hactive) (hhash.symm ▸ hmade)
    (fun token hmailed => (hmailed.drawn hrun').ne_empty) hready
  rw [hid] at hgetsIn
  refine ⟨d', hgoesOn, ?_⟩
  simp only [Http.GetsIn, hid, hsame.email] at hgetsIn ⊢
  exact hgetsIn

section Runs

open Reference Serial

/-- A password hash gives back its password. -/
theorem Reference.argon2RoundTrip : primitives.Argon2RoundTrip := by
  intro m t p salt password hash hmade
  obtain rfl : argon2Hash salt password = hash := Option.some.inj hmade
  have hdecode := (Codec.string.pair Codec.string).decode_encode (salt, password) []
  rw [List.append_nil] at hdecode
  have hverify : argon2Verify password (argon2Hash salt password) = true := by
    simp [argon2Verify, argon2Hash, parse_render, hdecode]
  exact hverify

/-- A service where a login needs a verified email. -/
def verifyingService : AuthService := ⟨{ config with requireEmailVerification := true }, signing⟩

/-- Its handlers, with a validator that asks for an at sign and refuses spaces. -/
def verifyingHttp : Http where
  env := secretOnly
  validEmail email := '@' ∈ email.toList ∧ ' ' ∉ email.toList
  displayErrors _ := ""

/-- One registration after the other, of the same email. -/
def registrations : ℕ → HttpRequest := fun _ => .register ⟨"a@b.c", "Abcdefg1", "Abcdefg1", "A"⟩

/-- The state after the first registration. -/
def registered : HttpSystem :=
  verifyingService.executor.play (moves 0 7 1) (verifyingHttp.start verifyingService world registrations)

/-- The state in the middle of it: the user is inserted, the token is not drawn. -/
def registering : HttpSystem :=
  verifyingService.executor.play (moves 0 3 1) (verifyingHttp.start verifyingService world registrations)

/-- The user it created. -/
def registeredUser : User := newUser 1 0 "a@b.c" (argon2Hash "salt" "Abcdefg1") "A"

/-- The token it mails. -/
def mailedToken : String := base64UrlEncode (choice 1).bytes.toList

/-- What is left of the registration is to store the token and to answer. -/
theorem registering_rest : registering.calls 0 = Http.finishRegistration verifyingService registeredUser := rfl

/-- A user who is just being registered gets verified and logs in, by the registration going on. -/
theorem email_verification_escape_registering :
    verifyingHttp.Escapes verifyingService registrations registering registeredUser "Abcdefg1" := by
  have hfacts : registering.Running 0 ∧ registeredUser ∈ registering.shared.db.users.rows ∧
      (registering.shared.db.oneTimeTokens .emailVerification).rows = [] ∧
      registering.shared.db.refreshTokens.rows = [] ∧ registering.shared.clock = 0 := by decide +kernel
  obtain ⟨hrunning, huser, htokens, hsessions, hclock⟩ := hfacts
  have hspaceless : verifyingHttp.EmailsSpaceless := fun email hvalid => (of_decide_eq_true hvalid).2
  have hmade : verifyingService.MadeFrom "Abcdefg1" registeredUser.passwordHash :=
    ⟨by decide +kernel, "salt", by decide +kernel⟩
  have hlifetimes : verifyingService.config.PositiveLifetimes := ⟨by decide, by decide, by decide, by decide⟩
  have hlogin : verifyingService.AdmitsLogin registeredUser registering.shared.clock :=
    ⟨0, Nat.le_of_eq hclock, by decide, by decide +kernel⟩
  have hexpires : Expires registering.shared.now verifyingService.config.emailVerificationExpiration := by
    decide +kernel
  have hverifiable : verifyingService.Verifiable registrations registering registeredUser :=
    verifiable_of_registering hrunning registering_rest huser hlifetimes.emailVerification hexpires
      (hasOneTimeRoom_of_empty _ htokens) hlogin (hasRoom_of_empty _ hsessions)
  have hrun :=
    verifyingService.executor.play_reaches (moves 0 3 1) (verifyingHttp.start verifyingService world registrations)
  exact email_verification_escape verifyingHttp verifyingService argon2RoundTrip
    ⟨phcHashes.parses, phcHashes.spaceless⟩
    hspaceless hlifetimes world rfl registrations registering hrun registeredUser huser rfl "Abcdefg1" hmade
    hverifiable

end Runs

end RustPressAuth
