import RustPressAuth.PasswordChange

/-!
# How logins, rotations and logouts end

The outcomes of the operations that issue or revoke refresh tokens, when the call runs
alone: the result together with the database it leaves. Both issuing operations store a
new row and return the combined token that names it.
-/

namespace RustPressAuth

open Atomic Program Machine Relational

/-- At this time the expiries of both tokens of a session can be computed. -/
def AuthConfig.SessionsExpire (cfg : AuthConfig) (t : Instant) : Prop :=
  Expires t cfg.accessTokenExpiration ∧ Expires t cfg.refreshTokenExpiration

instance (cfg : AuthConfig) (t : Instant) : Decidable (cfg.SessionsExpire t) := inferInstanceAs (Decidable (_ ∧ _))

/-- The combined refresh token for a row and its random part. -/
def AuthService.combined (svc : AuthService) (userId tokenId : Uuid) (issuedAt : Instant)
    (bytes : Vector UInt8 32) : String :=
  svc.prims.jwtEncode svc.config.jwtSecret (svc.refreshClaims userId tokenId issuedAt).toPayload ++ "." ++
    base64UrlEncode bytes.toList

/-- The row under which a refresh token is stored. -/
def AuthService.storedRow (svc : AuthService) (userId tokenId : Uuid) (issuedAt now : Instant)
    (bytes : Vector UInt8 32) (ipAddress userAgent : Option String) : RefreshToken :=
  newRefreshToken now tokenId userId (svc.hashToken (base64UrlEncode bytes.toList))
    (issuedAt + seconds svc.config.refreshTokenExpiration) ipAddress userAgent

/-- A new refresh token of the user is stored, in a row of its own. -/
def AuthService.Stores (svc : AuthService) (userId : Uuid) (db : Db) (refreshToken : String) (db' : Db) : Prop :=
  ∃ (tokenId : Uuid) (issuedAt now : ℕ) (bytes : Vector UInt8 32) (ipAddress userAgent : Option String),
    refreshToken = svc.combined userId tokenId issuedAt bytes ∧
    db.insertRefreshToken? (svc.storedRow userId tokenId issuedAt now bytes ipAddress userAgent) = some db'

/-- The users whose successful login a trace records. -/
def loginsRecorded (tr : Trace) : List Uuid :=
  tr.filterMap fun
    | ⟨.sql (.recordSuccessfulLogin id _), .ok _⟩ => some id
    | _ => none

/-- A token hash has at most sixteen digits. -/
theorem hashToken_length (svc : AuthService) (token : String) : (svc.hashToken token).length ≤ 16 := by
  have hlt := (svc.prims.defaultHasher (hashedBytes token ++ hashedBytes svc.config.jwtSecret)).toNat_lt
  rw [AuthService.hashToken, String.length_ofList, Nat.length_toDigits_le_iff (by omega) (by omega)]
  omega

/-- A token hash is a text the server accepts. -/
theorem refusal?_hashToken (svc : AuthService) (token : String) :
    (Parameter.text (svc.hashToken token)).refusal? = none := by
  have hzero : '\x00' ∉ hexDigits := by decide
  rw [Parameter.refusal?_text, AuthService.hashToken, String.toList_ofList]
  exact fun hmem => hzero (mem_hexDigits_of_toDigits hmem)

/-- A token hash fits its column. -/
theorem varchar_hashToken (svc : AuthService) (token : String) :
    varchar 255 (svc.hashToken token) = some (svc.hashToken token) := by
  have hlength := hashToken_length svc token
  rw [varchar, if_pos (by omega)]

variable {svc : AuthService} {faults : Bool} {β : Type} {w w' : World} {tr : Trace} {res : Except Failure β}

/-- The logins recorded by two parts of a call are those of the first and those of the second. -/
theorem loginsRecorded_append (front rest : Trace) :
    loginsRecorded (front ++ rest) = loginsRecorded front ++ loginsRecorded rest := List.filterMap_append

/-- The call panicked, because an expiry this far ahead could not be computed at its time, and nothing was
changed. -/
structure Panicked (n : Int64) (w : World) (tr : Trace) (res : Except Failure β) (w' : World) : Prop where
  fault : ∃ fault, res = .error (.panic fault)
  early : ∃ t, w.During w' t ∧ ¬ Expires t n
  db : w'.db = w.db
  quiet : loginsRecorded tr = []

/-- A panic after actions that change nothing and record no login. -/
theorem Panicked.after {n : Int64} {t : ℕ} (h : Panicked n ⟨w.db, t⟩ tr res w') (front : Trace) (ht : w.clock ≤ t)
    (hfront : loginsRecorded front = []) : Panicked n w (front ++ tr) res w' := by
  obtain ⟨t', ⟨hbegin, hend⟩, hearly⟩ := h.early
  refine ⟨h.fault, ⟨t', ⟨Nat.le_trans ht hbegin, hend⟩, hearly⟩, h.db, ?_⟩
  rw [loginsRecorded_append, hfront, h.quiet, List.nil_append]

/-- The clock is read and an expiry is computed from it. -/
theorem alone_expiry {n : Int64} {f : Instant → Instant → AuthM β}
    (h : (svc.alone faults).Exec (utcNow >>= fun now => expiresAfter now n >>= f now) w tr res w') :
    Panicked n w tr res w' ∨ ∃ (t : ℕ) (tr' : Trace), w.clock ≤ t ∧ Expires t n ∧ tr = did .now (t : ℤ) :: tr' ∧
      (svc.alone faults).Exec (f t (t + seconds n)) ⟨w.db, t⟩ tr' res w' := by
  obtain ⟨t, tr', ht, rfl, hexpiry⟩ := alone_now h
  have hend : t ≤ w'.clock := (alone_precedes hexpiry).clock
  rcases alone_expiresAfter hexpiry with ⟨hearly, hfault, hdb, rfl⟩ | ⟨hexpires, hrest⟩
  · exact Or.inl ⟨hfault, ⟨t, ⟨ht, hend⟩, hearly⟩, hdb, rfl⟩
  · exact Or.inr ⟨t, tr', ht, hexpires, rfl, hrest⟩

/-- The clock is read, an id is drawn and the access token is signed, unless its expiry cannot be computed. -/
theorem alone_signsAccess {user : User} {f : String → AuthM β}
    (h : (svc.alone faults).Exec (svc.generateAccessToken user >>= f) w tr res w') :
    Panicked svc.config.accessTokenExpiration w tr res w' ∨
      ∃ (t : ℕ) (accessToken : String) (front tr' : Trace), w.clock ≤ t ∧ tr = front ++ tr' ∧
      loginsRecorded front = [] ∧
        (svc.alone faults).Exec (f accessToken) ⟨w.db, t⟩ tr' res w' := by
  simp only [AuthService.generateAccessToken, Program.bind_assoc] at h
  rcases alone_expiry h with hpanicked | ⟨now, tr₁, hnow, -, rfl, hdraw⟩
  · exact Or.inl hpanicked
  obtain ⟨t₁, jti, tr₂, ht₁, rfl, hsign⟩ := alone_uuid hdraw
  obtain ⟨t, tr₃, ht, rfl, hrest⟩ := alone_sign hsign
  refine Or.inr ⟨t, _, [_, _, _], tr₃, ?_, rfl, rfl, hrest⟩
  simp only at ht ht₁
  omega

/-- The statement that stores a refresh token failed, and nothing was changed. -/
structure Unstored (w : World) (tr : Trace) (res : Except Failure β) (w' : World) : Prop where
  error : ∃ e : DbError, res = .error (.err (.database e))
  db : w'.db = w.db
  quiet : loginsRecorded tr = []

/-- A refresh token is drawn, and stored and signed, unless its expiry cannot be computed or the statement that
stores it fails. -/
theorem alone_storesRefresh {userId : Uuid} {ipAddress userAgent : Option String} {f : String → AuthM β}
    (h : (svc.alone faults).Exec (svc.generateRefreshToken userId ipAddress userAgent >>= f) w tr res w') :
    Panicked svc.config.refreshTokenExpiration w tr res w' ∨ (faults = true ∧ Unstored w tr res w') ∨
      ∃ (t : ℕ) (db : Db) (refreshToken : String) (front tr' : Trace), w.clock ≤ t ∧
        svc.Stores userId w.db refreshToken db ∧ tr = front ++ tr' ∧ loginsRecorded front = [] ∧
        (svc.alone faults).Exec (f refreshToken) ⟨db, t⟩ tr' res w' := by
  simp only [AuthService.generateRefreshToken, Program.bind_assoc] at h
  obtain ⟨t₁, tokenId, tr₁, ht₁, rfl, hdate⟩ := alone_uuid h
  rcases alone_expiry hdate with hpanicked | ⟨issuedAt, tr₂, ht₂, -, rfl, hdraw⟩
  · exact Or.inl (hpanicked.after [_] ht₁ rfl)
  obtain ⟨t₃, bytes, tr₃, ht₃, rfl, hstore⟩ := alone_bytes hdraw
  rcases alone_query hstore with ⟨hfaults, e, rfl, hres, hdb⟩ | ⟨now, fresh, n, db, tr₄, ht₄, hrun, rfl, hsign⟩
  · exact Or.inr (Or.inl ⟨hfaults, ⟨e, hres⟩, hdb, rfl⟩)
  obtain ⟨t₅, tr₅, ht₅, rfl, hrest⟩ := alone_sign hsign
  simp only [Statement.run, except_bind_eq_ok, orError_eq_ok, varchar_hashToken] at hrun
  obtain ⟨_, hhash, ipAddress', -, db', hinsert, heq⟩ := hrun
  obtain rfl := Option.some.inj hhash
  obtain rfl : db' = db := (Prod.mk.inj (Except.ok.inj heq)).2
  have hstores : svc.Stores userId w.db (svc.combined userId tokenId issuedAt bytes) db' :=
    ⟨tokenId, issuedAt, now, bytes, ipAddress', userAgent, rfl, hinsert⟩
  refine Or.inr (Or.inr ⟨t₅, db', _, [_, _, _, _, _], tr₅, ?_, hstores, rfl, rfl, hrest⟩)
  simp only at ht₁ ht₂ ht₃ ht₄ ht₅
  omega

/-- An expiry of a session could not be computed: the call panicked. -/
def SessionPanics (svc : AuthService) (w : World) (res : Except Failure β) (w' : World) : Prop :=
  (∃ fault, res = .error (.panic fault)) ∧ ∃ t : ℕ, w.During w' t ∧ ¬ svc.config.SessionsExpire t

/-- Both tokens of a session are issued, and the refresh token is stored, unless the call panics or the statement
that stores it fails. Then nothing is changed. -/
theorem alone_issueTokens {user : User} {userId : Uuid} {ipAddress userAgent : Option String}
    {f : String → String → AuthM β}
    (h : (svc.alone faults).Exec (svc.generateAccessToken user >>= fun accessToken =>
      svc.generateRefreshToken userId ipAddress userAgent >>= f accessToken) w tr res w') :
    ((SessionPanics svc w res w' ∨ faults = true ∧ ∃ e : DbError, res = .error (.err (.database e))) ∧
      w'.db = w.db ∧
        loginsRecorded tr = []) ∨
      ∃ (t : ℕ) (db : Db) (accessToken refreshToken : String) (front tr' : Trace), w.clock ≤ t ∧
        svc.Stores userId w.db refreshToken db ∧ tr = front ++ tr' ∧ loginsRecorded front = [] ∧
        (svc.alone faults).Exec (f accessToken refreshToken) ⟨db, t⟩ tr' res w' := by
  rcases alone_signsAccess h with ⟨hfault, ⟨t, ht, hearly⟩, hdb, hquiet⟩ |
    ⟨t₁, accessToken, front₁, tr₁, ht₁, rfl, hfront₁, hrefresh⟩
  · exact Or.inl ⟨Or.inl ⟨hfault, t, ht, fun hexpire => hearly hexpire.1⟩, hdb, hquiet⟩
  rcases alone_storesRefresh hrefresh with hpanicked | ⟨hfaults, herror, hdb, hquiet⟩ |
    ⟨t₂, db, refreshToken, front₂, tr₂, ht₂, hstores, rfl, hfront₂, hrest⟩
  · obtain ⟨hfault, ⟨t, ht, hearly⟩, hdb, hquiet⟩ := hpanicked.after front₁ ht₁ hfront₁
    exact Or.inl ⟨Or.inl ⟨hfault, t, ht, fun hexpire => hearly hexpire.2⟩, hdb, hquiet⟩
  · refine Or.inl ⟨Or.inr ⟨hfaults, herror⟩, hdb, ?_⟩
    rw [loginsRecorded_append, hfront₁, hquiet, List.nil_append]
  · refine Or.inr ⟨t₂, db, accessToken, refreshToken, front₁ ++ front₂, tr₂, Nat.le_trans ht₁ ht₂, hstores,
      (List.append_assoc _ _ _).symm, ?_, hrest⟩
    rw [loginsRecorded_append, hfront₁, hfront₂, List.nil_append]

/-- The database after a failed login of one user was counted. -/
def Db.countFailure (db : Db) (cfg : AuthConfig) (id : Uuid) (now : Instant) : Db :=
  db.updateUser id (User.incremented now cfg.maxLoginAttempts cfg.lockoutDuration) (fun _ => rfl) (fun _ => rfl)

/-- The database after a successful login of one user was recorded. -/
def Db.recordLogin (db : Db) (id : Uuid) (now : Instant) (ipAddress : Option String) : Db :=
  db.updateUser id (User.loggedIn now ipAddress) (User.loggedIn_id now ipAddress)
    (User.loggedIn_email now ipAddress)

/-- How a login ends: with which result, and in which database. -/
inductive LoginOutcome (svc : AuthService) (faults : Bool) (r : LoginRequest) (w : World) :
    Trace → Except Failure AuthResponse → World → Prop
  | unanswered {tr : Trace} {e : DbError} {w' : World} (hfaults : faults = true) (htr : loginsRecorded tr = [])
      (hdb : w'.db = w.db) : LoginOutcome svc faults r w tr (.error (.err (.database e))) w'
  | unknown {tr : Trace} {w' : World} (hnone : w.db.userByEmail? r.email = none) (htr : loginsRecorded tr = [])
      (hdb : w'.db = w.db) : LoginOutcome svc faults r w tr (.error (.err .invalidCredentials)) w'
  | locked {tr : Trace} {w' : World} {user : User} {t : ℕ} (huser : w.db.userByEmail? r.email = some user)
      (ht : w.During w' t) (hlocked : user.isLocked t = true) (htr : loginsRecorded tr = []) (hdb : w'.db = w.db) :
      LoginOutcome svc faults r w tr (.error (.err .accountLocked)) w'
  | refused {tr : Trace} {e : AuthError} {w' : World} {user : User} {t : ℕ}
      (huser : w.db.userByEmail? r.email = some user) (ht : w.During w' t) (hunlocked : user.isLocked t = false)
      (he : e ≠ .invalidCredentials) (htr : loginsRecorded tr = []) (hdb : w'.db = w.db) :
      LoginOutcome svc faults r w tr (.error (.err e)) w'
  | wrong {tr : Trace} {w' : World} {user : User} {t t₁ : ℕ} (huser : w.db.userByEmail? r.email = some user)
      (ht : w.During w' t) (hunlocked : user.isLocked t = false)
      (hwrong : svc.comparePassword r.password user.passwordHash = some false) (htr : loginsRecorded tr = [])
      (ht₁ : w.During w' t₁) (hdb : w'.db = w.db.countFailure svc.config user.id t₁) :
      LoginOutcome svc faults r w tr (.error (.err .invalidCredentials)) w'
  | interrupted {tr : Trace} {e : DbError} {w' : World} {user : User} {t t₁ : ℕ} {ip : Option String}
      (hfaults : faults = true) (huser : w.db.userByEmail? r.email = some user) (ht : w.During w' t)
        (hunlocked : user.isLocked t = false)
      (htr : loginsRecorded tr = [user.id]) (hdb : w'.db = w.db.recordLogin user.id t₁ ip) :
      LoginOutcome svc faults r w tr (.error (.err (.database e))) w'
  | panicked {tr : Trace} {fault : TimeFault} {w' : World} {user : User} {t t₁ t₂ : ℕ} {ip : Option String}
      (huser : w.db.userByEmail? r.email = some user) (ht : w.During w' t) (hunlocked : user.isLocked t = false)
      (hmatch : svc.comparePassword r.password user.passwordHash = some true)
      (htr : loginsRecorded tr = [user.id]) (ht₂ : w.During w' t₂) (hearly : ¬ svc.config.SessionsExpire t₂)
      (hdb : w'.db = w.db.recordLogin user.id t₁ ip) : LoginOutcome svc faults r w tr (.error (.panic fault)) w'
  | done {tr : Trace} {response : AuthResponse} {w' : World} {user : User} {t t₁ : ℕ} {ip : Option String}
      (huser : w.db.userByEmail? r.email = some user) (ht : w.During w' t) (hunlocked : user.isLocked t = false)
      (hactive : user.status = .active)
      (hmatch : svc.comparePassword r.password user.passwordHash = some true)
      (hverified : svc.config.requireEmailVerification = true → user.isEmailVerified = true)
      (htr : loginsRecorded tr = [user.id])
      (hstores : svc.Stores user.id (w.db.recordLogin user.id t₁ ip) response.refreshToken w'.db) :
      LoginOutcome svc faults r w tr (.ok response) w'

/-- Recording the login of an existing user clears its failures. -/
theorem recordSuccessfulLogin_run {id fresh : Uuid} {ipAddress : Option String} {now : Instant}
    {db db' : Db} {n : ℕ} (huser : ∃ user ∈ db.users, user.id = id)
    (hrun : (Statement.recordSuccessfulLogin id ipAddress).run fresh now db = .ok (n, db')) :
    ∃ ip, db' = db.recordLogin id now ip := by
  simp only [Statement.run] at hrun
  split at hrun
  · rename_i hnone
    obtain ⟨user, hmem, hid⟩ := huser
    have hother := Table.find?_none hnone hmem
    simp [hid] at hother
  · cases hrun
  · rename_i user ip _ _
    exact ⟨ip, (Prod.mk.inj (Except.ok.inj hrun)).2.symm⟩

/-- Counting a failed login. -/
theorem incrementFailedAttempts_run {id fresh : Uuid} {now : Instant} {db db' : Db} {n : ℕ}
    (hrun : (Statement.incrementFailedAttempts id svc.config.maxLoginAttempts svc.config.lockoutDuration).run fresh
      now db = .ok (n, db')) : db' = db.countFailure svc.config id now := by
  simp only [Statement.run] at hrun
  split at hrun
  · cases hrun
  · exact (Prod.mk.inj (Except.ok.inj hrun)).2.symm

/-- Every run of `login` alone, with any statement failing, ends as listed. -/
theorem login_outcome {res : Except Failure AuthResponse} {r : LoginRequest} {ipAddress userAgent : Option String}
    (h : (svc.alone faults).Exec (svc.login r ipAddress userAgent) w tr res w') :
    LoginOutcome svc faults r w tr res w' := by
  simp only [AuthService.login, AuthService.verifyPassword, AuthService.incrementFailedAttempts,
    AuthService.recordSuccessfulLogin, selectUserByEmail, Program.bind_assoc] at h
  rcases alone_query h with ⟨hfaults, e, rfl, rfl, hdb⟩ | ⟨t₀, fresh, found, db, tr₁, ht₀, hrun, rfl, hfound⟩
  · exact .unanswered hfaults rfl hdb
  obtain ⟨rfl, rfl⟩ := Prod.mk.inj (Except.ok.inj hrun)
  rcases alone_okOr hfound with ⟨hnone, rfl, hdb, rfl⟩ | ⟨user, huser, hnow⟩
  · exact .unknown hnone rfl hdb
  obtain ⟨t, tr₂, ht, rfl, hlock⟩ := alone_now hnow
  have hduring : w.During w' t := ⟨Nat.le_trans ht₀ ht, (alone_precedes hlock).clock⟩
  rcases alone_check hlock with ⟨hlocked, rfl, hdb, rfl⟩ | ⟨hunlocked, hstatus⟩
  · exact .locked huser hduring hlocked rfl hdb
  rcases alone_check hstatus with ⟨-, rfl, hdb, rfl⟩ | ⟨hactive, hverify⟩
  · exact .refused huser hduring hunlocked (by simp) rfl hdb
  obtain ⟨t', tr₃, ht', rfl, hcompared⟩ := alone_verify hverify
  rcases alone_okOr hcompared with ⟨-, rfl, hdb, rfl⟩ | ⟨verified, hverified, hcount⟩
  · exact .refused huser hduring hunlocked (by simp) rfl hdb
  have huserRow : ∃ row ∈ w.db.users, row.id = user.id := ⟨user, (Table.find?_some huser).1, rfl⟩
  cases verified with
  | false =>
    simp only [runIf, Bool.not_false, if_true, Program.bind_assoc] at hcount
    rcases alone_query hcount with ⟨hfaults, e, rfl, rfl, hdb⟩ | ⟨t₁, fresh₁, n₁, db₁, tr₄, ht₁, hrun₁, rfl, hfail⟩
    · exact .unanswered hfaults rfl hdb
    obtain ⟨rfl, hdb, rfl⟩ := alone_fail hfail
    have hcounted : w'.db = w.db.countFailure svc.config user.id t₁ := hdb.trans (incrementFailedAttempts_run hrun₁)
    have hbegin : w.clock ≤ t₁ := by
      simp only at ht ht' ht₁
      omega
    exact .wrong huser hduring hunlocked hverified rfl ⟨hbegin, (alone_precedes hfail).clock⟩ hcounted
  | true =>
    rcases alone_check hcount with ⟨-, rfl, hdb, rfl⟩ | ⟨hchecked, hrecord⟩
    · exact .refused huser hduring hunlocked (by simp) rfl hdb
    rcases alone_query hrecord with ⟨hfaults, e, rfl, rfl, hdb⟩ |
      ⟨t₁, fresh₁, n₁, db₁, tr₄, ht₁, hrun₁, rfl, haccess⟩
    · exact .unanswered hfaults rfl hdb
    obtain ⟨ip, rfl⟩ := recordSuccessfulLogin_run huserRow hrun₁
    have hrecorded (rest : Trace) (hrest : loginsRecorded rest = []) : loginsRecorded
        (executed (.selectUserByEmail r.email) (w.db.userByEmail? r.email) :: did .now (t : ℤ) ::
          did (.verifyPassword r.password user.passwordHash) (svc.comparePassword r.password user.passwordHash) ::
          executed (.recordSuccessfulLogin user.id ipAddress) n₁ :: rest) = [user.id] :=
            congrArg (user.id :: ·) hrest
    rcases alone_issueTokens haccess with ⟨⟨⟨fault, rfl⟩, t₂, ht₂, hearly⟩ | ⟨hfaults, e, rfl⟩, hdb, hquiet⟩ |
      ⟨t₃, db₃, accessToken, refreshToken, front, tr₅, -, hstores, rfl, hfront, hend⟩
    · have hbegin : w.clock ≤ t₂ := by
        have hlater := ht₂.1
        simp only at ht ht' ht₁ hlater
        omega
      exact .panicked huser hduring hunlocked hverified (hrecorded _ hquiet) ⟨hbegin, ht₂.2⟩ hearly hdb
    · exact .interrupted hfaults huser hduring hunlocked (hrecorded _ hquiet) hdb
    · obtain ⟨rfl, hdb, rfl⟩ := alone_ok hend
      subst hdb
      rw [List.append_nil]
      exact .done huser hduring hunlocked (by simpa using hactive) hverified (by simpa using hchecked)
        (hrecorded _ hfront)
        hstores

/-- The row of a refresh token, by its id and the hash of its random part. -/
def Db.refreshRow? (db : Db) (id : Uuid) (tokenHash : String) : Option RefreshToken :=
  db.refreshTokens.find? fun t => t.id = id ∧ t.tokenHash = tokenHash

/-- The database with one refresh token revoked. -/
def Db.endSession (db : Db) (id : Uuid) (now : Instant) : Db := db.revoke (fun t => t.id = id) now

/-- The combined token was cut into its random part and a JWT that was accepted with these claims. -/
def AuthService.Decodes (svc : AuthService) (validateSignature : Bool) (refreshToken : String) (now : Instant)
    (tokenString : String) (claims : RefreshTokenClaims) : Prop :=
  ∃ jwt, rsplitDot refreshToken = [tokenString, jwt] ∧ svc.decodeRefresh validateSignature now jwt = some claims

/-- How a refresh ends where no statement fails: with which result, and in which database. -/
inductive RefreshOutcome (svc : AuthService) (refreshToken : String) (w : World) :
    Except Failure TokenResponse → World → Prop
  | undecoded {w' : World} {t : ℕ} (ht : w.During w' t)
      (hnone : ∀ tokenString claims, ¬ svc.Decodes true refreshToken t tokenString claims) (hdb : w'.db = w.db) :
      RefreshOutcome svc refreshToken w (.error (.err .invalidToken)) w'
  | unknown {w' : World} {t : ℕ} {tokenString : String} {claims : RefreshTokenClaims} (ht : w.During w' t)
      (hdecodes : svc.Decodes true refreshToken t tokenString claims)
      (hnone : w.db.refreshRow? claims.tid (svc.hashToken tokenString) = none) (hdb : w'.db = w.db) :
      RefreshOutcome svc refreshToken w (.error (.err .invalidToken)) w'
  | revoked {w' : World} {t t₁ : ℕ} {tokenString : String} {claims : RefreshTokenClaims} {row : RefreshToken}
      (hdecodes : svc.Decodes true refreshToken t tokenString claims)
      (hrow : w.db.refreshRow? claims.tid (svc.hashToken tokenString) = some row) (hrevoked : row.isRevoked = true)
      (hdb : w'.db = w.db.endSessions claims.sub t₁) :
      RefreshOutcome svc refreshToken w (.error (.err .tokenRevoked)) w'
  | expired {w' : World} {t t₁ : ℕ} {tokenString : String} {claims : RefreshTokenClaims} {row : RefreshToken}
      (hdecodes : svc.Decodes true refreshToken t tokenString claims)
      (hrow : w.db.refreshRow? claims.tid (svc.hashToken tokenString) = some row) (hlive : row.isRevoked = false)
      (ht₁ : w.During w' t₁) (hexpired : row.expiresAt < (t₁ : ℤ)) (hdb : w'.db = w.db) :
      RefreshOutcome svc refreshToken w (.error (.err .tokenRevoked)) w'
  | unowned {w' : World} {t : ℕ} {tokenString : String} {claims : RefreshTokenClaims} {row : RefreshToken}
      (hdecodes : svc.Decodes true refreshToken t tokenString claims)
      (hrow : w.db.refreshRow? claims.tid (svc.hashToken tokenString) = some row) (hlive : row.isRevoked = false)
      (hnone : w.db.user? claims.sub = none) (hdb : w'.db = w.db) :
      RefreshOutcome svc refreshToken w (.error (.err .userNotFound)) w'
  | barred {w' : World} {t t₂ : ℕ} {tokenString : String} {claims : RefreshTokenClaims} {row : RefreshToken}
      {user : User} (hdecodes : svc.Decodes true refreshToken t tokenString claims)
      (hrow : w.db.refreshRow? claims.tid (svc.hashToken tokenString) = some row) (hlive : row.isRevoked = false)
      (huser : w.db.user? claims.sub = some user) (ht₂ : w.During w' t₂) (hbarred : user.canLogin t₂ = false)
      (hdb : w'.db = w.db) : RefreshOutcome svc refreshToken w (.error (.err .accountNotActive)) w'
  | panicked {fault : TimeFault} {w' : World} {t t₁ t₂ t₄ : ℕ} {tokenString : String} {claims : RefreshTokenClaims}
      {row : RefreshToken} {user : User} (hdecodes : svc.Decodes true refreshToken t tokenString claims)
      (hrow : w.db.refreshRow? claims.tid (svc.hashToken tokenString) = some row) (ht₁ : w.During w' t₁)
      (hvalid : row.isValid t₁ = true) (huser : w.db.user? claims.sub = some user) (ht₂ : w.During w' t₂)
      (hlogin : user.canLogin t₂ = true) (ht₄ : w.During w' t₄) (hearly : ¬ svc.config.SessionsExpire t₄)
      (hdb : w'.db = w.db) : RefreshOutcome svc refreshToken w (.error (.panic fault)) w'
  | done {response : TokenResponse} {w' : World} {t t₁ t₂ t₃ : ℕ} {tokenString : String}
      {claims : RefreshTokenClaims} {row : RefreshToken} {user : User} {db : Db}
        (hdecodes : svc.Decodes true refreshToken t tokenString claims)
      (hrow : w.db.refreshRow? claims.tid (svc.hashToken tokenString) = some row) (ht₁ : w.During w' t₁)
      (hvalid : row.isValid t₁ = true) (huser : w.db.user? claims.sub = some user) (ht₂ : w.During w' t₂)
      (hlogin : user.canLogin t₂ = true) (hstores : svc.Stores user.id w.db response.refreshToken db)
      (hdb : w'.db = db.endSession claims.tid t₃) : RefreshOutcome svc refreshToken w (.ok response) w'

/-- How a logout ends: with which result, and in which database. -/
inductive LogoutOutcome (svc : AuthService) (refreshToken : String) (w : World) : Except Failure Unit → World → Prop
  | refused {e : Failure} {w' : World} (hdb : w'.db = w.db) : LogoutOutcome svc refreshToken w (.error e) w'
  | done {w' : World} {t t₁ : ℕ} {tokenString : String} {claims : RefreshTokenClaims}
      (hdecodes : svc.Decodes false refreshToken t tokenString claims)
        (hdb : w'.db = w.db.endSession claims.tid t₁) :
      LogoutOutcome svc refreshToken w (.ok ()) w'

/-- A combined token is cut in two, or the call ends. -/
theorem alone_splitToken {refreshToken : String} {f : String × String → AuthM β}
    (h : (svc.alone faults).Exec (AuthService.splitToken refreshToken >>= f) w tr res w') :
    ((∀ tokenString jwt, rsplitDot refreshToken ≠ [tokenString, jwt]) ∧ res = .error (.err .invalidToken) ∧
      w'.db = w.db ∧ tr = []) ∨
      ∃ tokenString jwt, rsplitDot refreshToken = [tokenString, jwt] ∧
        (svc.alone faults).Exec (f (tokenString, jwt)) w tr res w' := by
  unfold AuthService.splitToken at h
  split at h
  · rename_i tokenString jwt hsplit
    exact Or.inr ⟨tokenString, jwt, hsplit, h⟩
  · rename_i hother
    exact Or.inl ⟨hother, alone_fail h⟩

/-- Every run of `logout` alone, with any statement failing, ends as listed. -/
theorem logout_outcome {res : Except Failure Unit} {refreshToken : String}
    (h : (svc.alone faults).Exec (svc.logout refreshToken) w tr res w') :
    LogoutOutcome svc refreshToken w res w' := by
  simp only [AuthService.logout] at h
  rcases alone_splitToken h with ⟨-, rfl, hdb, -⟩ | ⟨tokenString, jwt, hsplit, hnow⟩
  · exact .refused hdb
  obtain ⟨t, tr₁, ht, -, hdecode⟩ := alone_now hnow
  rcases alone_okOr hdecode with ⟨-, rfl, hdb, -⟩ | ⟨claims, hclaims, hrevoke⟩
  · exact .refused hdb
  rcases alone_query hrevoke with ⟨-, e, -, rfl, hdb⟩ | ⟨t₁, fresh, n, db, tr₂, -, hrun, -, hreturn⟩
  · exact .refused hdb
  obtain ⟨rfl, hdb, -⟩ := alone_ok hreturn
  obtain rfl : w.db.endSession claims.tid t₁ = db := (Prod.mk.inj (Except.ok.inj hrun)).2
  exact .done ⟨jwt, hsplit, hclaims⟩ hdb

/-- The last action of a call is this statement, and it failed. -/
def StopsAt (s : Statement) (tr : Trace) : Prop :=
  ∃ (e : DbError) (front : Trace), tr = front ++ [⟨.sql s, .error e⟩]

/-- Where a call stops does not depend on what it did before. -/
theorem StopsAt.append {s : Statement} (h : StopsAt s tr) (front : Trace) : StopsAt s (front ++ tr) := by
  obtain ⟨e, front', rfl⟩ := h
  exact ⟨e, front ++ front', (List.append_assoc _ _ _).symm⟩

/-- How a refresh ends when one of its statements fails: nothing is changed, or only the closing
revocation is missing. -/
inductive RefreshFailure (svc : AuthService) (refreshToken : String) (w : World) :
    Trace → Except Failure TokenResponse → World → Prop
  | unchanged {tr : Trace} {e : DbError} {w' : World} (hdb : w'.db = w.db) :
      RefreshFailure svc refreshToken w tr (.error (.err (.database e))) w'
  | unrevoked {tr : Trace} {e : DbError} {w' : World} {t t₁ : ℕ} {tokenString successor : String}
      {claims : RefreshTokenClaims} {row : RefreshToken} {user : User}
      (hdecodes : svc.Decodes true refreshToken t tokenString claims)
      (hrow : w.db.refreshRow? claims.tid (svc.hashToken tokenString) = some row) (hvalid : row.isValid t₁ = true)
      (huser : w.db.user? claims.sub = some user) (hstores : svc.Stores user.id w.db successor w'.db)
      (hstops : StopsAt (.revokeRefreshToken claims.tid) tr) :
      RefreshFailure svc refreshToken w tr (.error (.err (.database e))) w'

/-- How a refresh fails does not depend on what it did before. -/
theorem RefreshFailure.append {refreshToken : String} {res : Except Failure TokenResponse}
    (h : RefreshFailure svc refreshToken w tr res w') (front : Trace) :
    RefreshFailure svc refreshToken w (front ++ tr) res w' := by
  cases h with
  | unchanged hdb => exact .unchanged hdb
  | unrevoked hdecodes hrow hvalid huser hstores hstops =>
    exact .unrevoked hdecodes hrow hvalid huser hstores (hstops.append front)

/-- The rotation of a token whose row was found valid ends as listed. It begins in `w₁`, which differs
from the world of the call in the clock. -/
theorem rotate_ending {res : Except Failure TokenResponse} {refreshToken tokenString : String}
    {ipAddress userAgent : Option String} {w₁ : World} {t t₁ : ℕ} {claims : RefreshTokenClaims} {row : RefreshToken}
    (h : (svc.alone faults).Exec (svc.rotate claims ipAddress userAgent) w₁ tr res w') (hsame : w₁.db = w.db)
    (hdecodes : svc.Decodes true refreshToken t tokenString claims)
    (hrow : w.db.refreshRow? claims.tid (svc.hashToken tokenString) = some row) (ht₁ : w.During w₁ t₁)
    (hvalid : row.isValid t₁ = true) :
    RefreshOutcome svc refreshToken w res w' ∨ faults = true ∧ RefreshFailure svc refreshToken w tr res w' := by
  have hend := (alone_precedes h).clock
  have hduring₁ : w.During w' t₁ := ⟨ht₁.1, Nat.le_trans ht₁.2 hend⟩
  have hlive := (RefreshToken.isValid_iff.mp hvalid).2
  simp only [AuthService.rotate, selectUserById] at h
  rcases alone_query h with ⟨hfaults, e, -, rfl, hdb⟩ | ⟨t₄, fresh, found, db₄, tr₁, ht₄, hrun, rfl, huser⟩
  · exact Or.inr ⟨hfaults, .unchanged (hdb.trans hsame)⟩
  obtain ⟨rfl, rfl⟩ := Prod.mk.inj (Except.ok.inj hrun)
  simp only [hsame] at huser
  rcases alone_okOr huser with ⟨hnone, rfl, hdb, -⟩ | ⟨user, hsome, hlogin⟩
  · exact Or.inl (.unowned hdecodes hrow hlive hnone hdb)
  obtain ⟨t₂, tr₂, ht₂, rfl, hbar⟩ := alone_now hlogin
  have hduring₂ : w.During w' t₂ := by
    have hbegin := Nat.le_trans ht₁.1 ht₁.2
    refine ⟨?_, (alone_precedes hbar).clock⟩
    simp only at ht₄ ht₂
    omega
  rcases alone_check hbar with ⟨hbarred, rfl, hdb, -⟩ | ⟨hcan, haccess⟩
  · exact Or.inl (.barred hdecodes hrow hlive hsome hduring₂ (by simpa using hbarred) hdb)
  rcases alone_issueTokens haccess with ⟨⟨⟨fault, rfl⟩, t₄, hduring₄, hearly⟩ | ⟨hfaults, e, rfl⟩, hdb, -⟩ |
    ⟨t₆, db₆, accessToken, successor, front, tr₄, -, hstores, rfl, -, hrevoke⟩
  · have hlater : w.During w' t₄ := ⟨Nat.le_trans hduring₂.1 hduring₄.1, hduring₄.2⟩
    exact Or.inl (.panicked hdecodes hrow hduring₁ hvalid hsome hduring₂ (by simpa using hcan) hlater hearly hdb)
  · exact Or.inr ⟨hfaults, .unchanged hdb⟩
  rcases alone_query hrevoke with ⟨hfaults, e, rfl, rfl, hdb⟩ | ⟨t₃, fresh₃, n, db₃, tr₅, -, hclose, rfl, hreturn⟩
  · have hafter : db₆ = w'.db := hdb.symm
    rw [hafter] at hstores
    have hlast : StopsAt (.revokeRefreshToken claims.tid) [⟨.sql (.revokeRefreshToken claims.tid),
      .error e⟩] := ⟨e, [], rfl⟩
    exact Or.inr ⟨hfaults, .unrevoked hdecodes hrow hvalid hsome hstores ((hlast.append front).append [_, _])⟩
  obtain ⟨rfl, hdb, -⟩ := alone_ok hreturn
  obtain rfl : db₆.endSession claims.tid t₃ = db₃ := (Prod.mk.inj (Except.ok.inj hclose)).2
  exact Or.inl (.done hdecodes hrow hduring₁ hvalid hsome hduring₂ (by simpa using hcan) hstores hdb)

/-- Every run of `refreshTokens` alone ends as listed, with any statement failing. -/
theorem refreshTokens_ending {res : Except Failure TokenResponse} {refreshToken : String}
    {ipAddress userAgent : Option String}
    (h : (svc.alone faults).Exec (svc.refreshTokens refreshToken ipAddress userAgent) w tr res w') :
    RefreshOutcome svc refreshToken w res w' ∨ faults = true ∧ RefreshFailure svc refreshToken w tr res w' := by
  have hend := (alone_precedes h).clock
  simp only [AuthService.refreshTokens] at h
  rcases alone_splitToken h with ⟨hother, rfl, hdb, -⟩ | ⟨tokenString, jwt, hsplit, hnow⟩
  · refine Or.inl (.undecoded ⟨Nat.le_refl _, hend⟩ ?_ hdb)
    rintro tokenString claims ⟨jwt, hsplit, -⟩
    exact hother tokenString jwt hsplit
  obtain ⟨t, tr₁, ht, rfl, hdecode⟩ := alone_now hnow
  have hduring : w.During w' t := ⟨ht, (alone_precedes hdecode).clock⟩
  rcases alone_okOr hdecode with ⟨hnone, rfl, hdb, -⟩ | ⟨claims, hclaims, hredeem⟩
  · refine Or.inl (.undecoded hduring ?_ hdb)
    rintro tokenString' claims ⟨jwt', hsplit', hsome⟩
    obtain ⟨-, rfl⟩ : tokenString = tokenString' ∧ jwt = jwt' := by simpa using hsplit.symm.trans hsplit'
    rw [hnone] at hsome
    cases hsome
  have hdecodes : svc.Decodes true refreshToken t tokenString claims := ⟨jwt, hsplit, hclaims⟩
  simp only [AuthService.redeem, selectRefreshToken] at hredeem
  rcases alone_query hredeem with ⟨hfaults, e, -, rfl, hdb⟩ | ⟨t₀, fresh₀, found, db₀, tr₂, ht₀, hrun₀, rfl, hfound⟩
  · exact Or.inr ⟨hfaults, .unchanged hdb⟩
  obtain ⟨rfl, rfl⟩ := Prod.mk.inj (Except.ok.inj hrun₀)
  rcases alone_okOr hfound with ⟨hnone, rfl, hdb, -⟩ | ⟨row, hrow, hcheck⟩
  · exact Or.inl (.unknown hduring hdecodes hnone hdb)
  obtain ⟨t₁, tr₃, ht₁, rfl, hvalidity⟩ := alone_now hcheck
  have hbegin : w.clock ≤ t₁ := by
    simp only at ht₀ ht₁
    omega
  by_cases hvalid : row.isValid t₁ = true
  · rw [if_pos hvalid] at hvalidity
    rcases rotate_ending (w := w) hvalidity rfl hdecodes hrow ⟨hbegin, Nat.le_refl _⟩ hvalid with houtcome |
      ⟨hfaults, hfailure⟩
    · exact Or.inl houtcome
    · exact Or.inr ⟨hfaults, hfailure.append [_, _, _]⟩
  · rw [if_neg hvalid] at hvalidity
    cases hrevoked : row.isRevoked with
    | true =>
      simp only [hrevoked, runIf, if_true, AuthService.revokeAllTokens, Program.bind_assoc] at hvalidity
      rcases alone_query hvalidity with ⟨hfaults, e, -, rfl, hdb⟩ | ⟨t₂, fresh₂, n₂, db₂, tr₄, -, hrun₂, -, hfail⟩
      · exact Or.inr ⟨hfaults, .unchanged hdb⟩
      obtain ⟨rfl, hdb, -⟩ := alone_fail hfail
      obtain rfl : w.db.endSessions claims.sub t₂ = db₂ := (Prod.mk.inj (Except.ok.inj hrun₂)).2
      exact Or.inl (.revoked hdecodes hrow hrevoked hdb)
    | false =>
      simp only [hrevoked, runIf, Bool.false_eq_true, if_false] at hvalidity
      have hduring₁ : w.During w' t₁ := ⟨hbegin, (alone_precedes hvalidity).clock⟩
      obtain ⟨rfl, hdb, -⟩ := alone_fail hvalidity
      have hexpired : row.expiresAt < (t₁ : ℤ) := by
        by_contra hearly
        exact hvalid (RefreshToken.isValid_iff.mpr ⟨Int.not_lt.mp hearly, hrevoked⟩)
      exact Or.inl (.expired hdecodes hrow hrevoked hduring₁ hexpired hdb)

/-- Every run of `refreshTokens` alone in which no statement fails ends as listed. -/
theorem refreshTokens_outcome {res : Except Failure TokenResponse} {refreshToken : String}
    {ipAddress userAgent : Option String}
    (h : svc.smooth.Exec (svc.refreshTokens refreshToken ipAddress userAgent) w tr res w') :
    RefreshOutcome svc refreshToken w res w' := by
  rcases refreshTokens_ending h with houtcome | ⟨hfaults, -⟩
  · exact houtcome
  · cases hfaults

end RustPressAuth
