import RustPressAuth.EmailEnumeration
import RustPressAuth.Refusals
import RustPressAuth.VoidedTokens

/-!
# Getting back into an account

A person who has lost the password, or whose account somebody else has locked or logged in
to, reads the mailbox: a request for a reset token, a reset with the token, and a login
once a lock has passed. Neither the lock nor the sessions of others stand in the way, in
whatever state requests have left the system, as long as the expiries of the new tokens are
in range.

After it the account is theirs: the password is the new one, the failed logins are
forgotten, all sessions from before are over and no reset token is left.
-/

namespace RustPressAuth

open Atomic Program Machine Relational

section Operations

variable {svc : AuthService} {β : Type} {w w' : World} {user : User} {res : Except Failure β} {password : String}

/-- An unused and unexpired token is found by its hash. -/
theorem Db.validToken?_of_row {db : Db} {purpose : Purpose} {now : Instant} {row : OneTimeToken}
    (hrow : row ∈ db.oneTimeTokens purpose) (hunused : row.usedAt = none) (hearly : now < row.expiresAt) :
    db.validToken? purpose row.tokenHash now = some (row.id, row.userId) := by
  have hfind : (db.oneTimeTokens purpose).find?
      (fun t => t.tokenHash = row.tokenHash ∧ t.expiresAt > now ∧ t.usedAt = none) = some row := by
    apply Table.find?_eq_some_of_only hrow (decide_eq_true ⟨rfl, hearly, hunused⟩)
    intro q hq hkey
    exact Table.eq_of_unique hq hrow (of_decide_eq_true hkey).1
  rw [Db.validToken?, hfind, Option.map_some]

/-- A password is hashed where Argon2 has a hash for it. -/
theorem canRun_hashPassword {salt hash : String} {f : String → AuthM β}
    (hhash : svc.argon2 salt password = some hash) (h : svc.CanRun (f hash) w res w') :
    svc.CanRun (svc.hashPassword password >>= f) w res w' := by
  unfold AuthService.argon2 at hhash
  split at hhash
  · rename_i hparams
    simp only [AuthService.hashPassword, bind_assoc]
    apply canRun_act (a := .salt) { salt := salt } rfl rfl
    apply canRun_check (by simp [hparams])
    rw [hhash]
    exact canRun_okOr h
  · cases hhash

/-- The database after a reset of the password. -/
def Db.reset (db : Db) (userId tokenId : Uuid) (now : Instant) (stored : String) : Db :=
  ((db.replacePassword userId now stored).consume .passwordReset tokenId now).endSessions userId now

/-- An unused and unexpired token lets its user choose any password that is accepted and whose hash can be
stored. -/
theorem canRun_resetPassword {token salt hash : String} {row : OneTimeToken} (huser : user ∈ w.db.users)
    (hrow : row ∈ w.db.oneTimeTokens .passwordReset) (howner : row.userId = user.id)
    (htoken : row.tokenHash = svc.hashToken token) (hunused : row.usedAt = none) (hearly : w.now < row.expiresAt)
    (haccepted : svc.passwordAccepted password = true) (hhash : svc.argon2 salt password = some hash)
    (hfits : varchar 255 hash = some hash) (hplain : '\x00' ∉ hash.toList) :
    svc.CanRun (svc.resetPassword ⟨token, password, password⟩) w (.ok ())
      ⟨w.db.reset user.id row.id w.now hash, w.clock⟩ := by
  have hfound : (Statement.selectValidToken .passwordReset (svc.hashToken token)).run 0 w.now w.db =
      .ok (some (row.id, user.id), w.db) := by
    rw [← htoken, ← howner]
    exact congrArg (fun found => Except.ok (found, w.db)) (Db.validToken?_of_row hrow hunused hearly)
  have hreplace : (Statement.updatePassword hash user.id).run 0 w.now w.db =
      .ok (w.db.userCount user.id, w.db.replacePassword user.id w.now hash) := by
    simp only [Statement.run, Db.user?_of_mem huser, hfits]
    rfl
  have hselects : (Statement.selectValidToken .passwordReset (svc.hashToken token)).refusal? = none := by
    simp [Statement.refusal?, Statement.bound, refusal?_hashToken]
  have hreplaces : (Statement.updatePassword hash user.id).refusal? = none := by
    simp [Statement.refusal?, Statement.bound, Parameter.refusal?_text.mpr hplain]
  simp only [AuthService.resetPassword, AuthService.validatePassword, selectValidToken]
  apply canRun_check (by simp [haccepted])
  apply canRun_query 0 hselects hfound
  apply canRun_okOr
  apply canRun_hashPassword hhash
  apply canRun_query 0 hreplaces hreplace
  apply canRun_query (s := .markTokenUsed .passwordReset row.id) 0 rfl rfl
  exact canRun_query (s := .revokeAllTokens user.id) 0 rfl rfl (canRun_done _ _)

end Operations

/-- The account is in the hands of its user again. -/
structure Regained (svc : AuthService) (user : User) (password : String) (old db : Db) : Prop where
  password : ∃ row ∈ db.users, row.id = user.id ∧ svc.comparePassword password row.passwordHash = some true ∧
    row.failedLoginAttempts = 0 ∧ row.lockedUntil = none
  /-- Whoever was logged in before is not any more. -/
  sessions : ∀ t ∈ old.refreshTokens, t.userId = user.id → ∀ t' ∈ db.refreshTokens, t'.id = t.id →
    t'.isRevoked = true
  resetTokens : ∀ t ∈ db.oneTimeTokens .passwordReset, t.userId = user.id → t.usedAt.isSome = true
  others : ∀ row ∈ old.users, row.id ≠ user.id → row ∈ db.users

section Stages

variable {svc : AuthService} {user : User} {db db' : Db} {now : Instant}

/-- A token that was stored can be redeemed until it expires, and is the only one of its user. -/
theorem AuthService.StoresOneTime.row {purpose : Purpose} {userId : Uuid} {token : String}
    (h : svc.StoresOneTime purpose userId now db token db') :
    ∃ row ∈ db'.oneTimeTokens purpose, row.userId = userId ∧ row.tokenHash = svc.hashToken token ∧
    row.usedAt = none ∧
      row.expiresAt = now + seconds (svc.config.lifetime purpose) ∧ Newest (db'.oneTimeTokens purpose) row := by
  obtain ⟨row, hrow, -, hhash, hnewest⟩ := h.renews.2
  obtain ⟨bytes, fresh, t, stored, rfl, hinsert⟩ := h
  have hnew := (Table.mem_insert? (Db.insertOneTimeToken?_spec hinsert).2.2.1).mpr (Or.inr rfl)
  obtain rfl := Table.eq_of_unique hrow hnew hhash
  exact ⟨_, hrow, rfl, rfl, rfl, rfl, hnewest⟩

/-- The users after a reset are those before it, the one of the token with the new password. -/
theorem Db.mem_reset_users {userId tokenId : Uuid} {stored : String} {row' : User} :
    row' ∈ (db.reset userId tokenId now stored).users ↔
      ∃ row ∈ db.users, (if row.id = userId then row.withPassword now stored else row) = row' :=
  Db.mem_updateUser (User.withPassword_id now stored) (User.withPassword_email now stored)

/-- The users after a login are those before it, the one who logged in with clear columns. -/
theorem Db.mem_recordLogin_users {userId : Uuid} {ip : Option String} {row' : User} :
    row' ∈ (db.recordLogin userId now ip).users ↔
      ∃ row ∈ db.users, (if row.id = userId then row.loggedIn now ip else row) = row' :=
  Db.mem_updateUser (User.loggedIn_id now ip) (User.loggedIn_email now ip)

/-- A session after a reset is one from before it, and is over if it is one of the user. -/
theorem Db.mem_reset_refreshTokens {userId tokenId : Uuid} {stored : String} {t : RefreshToken}
    (ht : t ∈ (db.reset userId tokenId now stored).refreshTokens) :
    ∃ q ∈ db.refreshTokens, t.id = q.id ∧ t.tokenHash = q.tokenHash ∧ (q.userId = userId → t.isRevoked = true) := by
  obtain ⟨q, hq, rfl⟩ := Db.mem_revoke.mp ht
  by_cases hlive : q.userId = userId ∧ q.revokedAt = none
  · rw [if_pos (decide_eq_true hlive)]
    exact ⟨q, hq, rfl, rfl, fun _ => rfl⟩
  · rw [if_neg (by simpa using hlive)]
    refine ⟨q, hq, rfl, rfl, fun huser => ?_⟩
    exact Option.isSome_iff_ne_none.mpr fun hnone => hlive ⟨huser, hnone⟩

/-- A reset uses up the token, and there was no other. -/
theorem Db.used_of_reset {row t : OneTimeToken} {stored : String}
    (hnewest : Newest (db.oneTimeTokens .passwordReset) row)
    (ht : t ∈ (db.reset row.userId row.id now stored).oneTimeTokens .passwordReset)
    (huser : t.userId = row.userId) :
    t.usedAt.isSome = true := by
  obtain ⟨q, hq, rfl⟩ := Db.mem_markUsed.mp ht
  by_cases hredeemed : q.id = row.id
  · rw [if_pos (decide_eq_true hredeemed)]
    rfl
  · rw [if_neg (by simpa using hredeemed)] at huser ⊢
    refine Option.isSome_iff_ne_none.mpr fun hunused => hredeemed ?_
    exact congrArg OneTimeToken.id (hnewest q hq huser hunused)

/-- A login after the reset leaves the account to its user. -/
theorem regained_of_login {old : Db} {row : OneTimeToken} {stored password refreshToken : String} {t : Instant}
    {ip : Option String} (husers : db.users = old.users) (hsessions : db.refreshTokens = old.refreshTokens)
    (huser : user ∈ old.users) (howner : row.userId = user.id)
    (hnewest : Newest (db.oneTimeTokens .passwordReset) row)
    (hmatch : svc.comparePassword password stored = some true)
    (hstores : svc.Stores user.id ((db.reset user.id row.id now stored).recordLogin user.id t ip)
      refreshToken db') :
    Regained svc user password old db' := by
  obtain ⟨tokenId, issuedAt, later, bytes, address, agent, -, hinsert⟩ := hstores
  obtain ⟨hkept, hrows, htokens⟩ := Db.insertRefreshToken?_spec hinsert
  constructor
  · refine ⟨(user.withPassword now stored).loggedIn t ip, ?_, rfl, hmatch, rfl, rfl⟩
    rw [hkept, Db.mem_recordLogin_users]
    exact ⟨_, Db.mem_reset_users.mpr ⟨user, husers ▸ huser, if_pos rfl⟩, if_pos rfl⟩
  · intro session hsession howned t' ht' hid
    rcases (Table.mem_insert? hrows).mp ht' with hold | rfl
    · obtain ⟨q, hq, hqid, -, hrevoked⟩ := Db.mem_reset_refreshTokens hold
      obtain rfl : q = session := Table.eq_of_pk (hsessions ▸ hq) hsession (hqid.symm.trans hid)
      exact hrevoked howned
    · have hold : session ∈ db.refreshTokens := hsessions ▸ hsession
      obtain ⟨kept, hkeptRow, hlater⟩ :=
        (db.evolves_revoke (fun t => t.userId = user.id ∧ t.revokedAt = none) now).refreshTokens session hold
      have hfresh := (Table.insert?_fresh hrows hkeptRow).1
      exact absurd (hlater.id.trans hid.symm) hfresh
  · intro token htoken howned
    rw [htokens] at htoken
    have hmem : token ∈ (db.reset row.userId row.id now stored).oneTimeTokens .passwordReset := howner ▸ htoken
    exact Db.used_of_reset hnewest hmem (howned.trans howner.symm)
  · intro other hother hid
    rw [hkept, Db.mem_recordLogin_users]
    exact ⟨other, Db.mem_reset_users.mpr ⟨other, husers ▸ hother, if_neg hid⟩, if_neg hid⟩

end Stages

/-- The password is accepted for a reset: by the checks of the request and by the policy, and its hash fits
its column and is a text that the server accepts. -/
structure AuthService.Choosable (svc : AuthService) (password : String) : Prop where
  length : 8 ≤ password.length
  accepted : svc.passwordAccepted password = true
  hashed : ∃ salt hash, svc.argon2 salt password = some hash ∧ varchar 255 hash = some hash ∧ '\x00' ∉ hash.toList

/-- The tokens of a recovery can be issued and stored: the one for the reset now, those of the session at some
time when a lock has passed. -/
structure AuthService.CanIssue (svc : AuthService) (user : User) (w : World) : Prop where
  reset : Expires w.now svc.config.passwordResetExpiration
  login : svc.AdmitsLogin user w.clock
  resetRoom : svc.HasOneTimeRoom .passwordReset w.db
  room : svc.HasRoom w.db

/-- Three requests one after the other, a request for a reset token, a reset with the token that the reply
carries and a login, give the account back to its user. -/
def Http.Recovers (http : Http) (svc : AuthService) (w : World) (user : User) (password : String) : Prop :=
  ∃ (forgot reset login : HttpRecord) (w' : World),
    svc.smooth.Serial (http.createRoutes svc) w [login, reset, forgot] w' ∧
    (∃ token, forgot.request = .forgotPassword user.email ∧
      forgot.result = .ok (.resetLink resetMessage (some token)) ∧
      reset.request = .resetPassword ⟨token, password, password⟩) ∧
    (∃ message, reset.result = .ok (.message message)) ∧
    (∃ client response, login.request = .login client ⟨user.email, password⟩ ∧
      login.result = .ok (.session response) ∧
      response.user.id = user.id) ∧
    Regained svc user password w.db w'.db

section WayBack

variable {http : Http} {svc : AuthService} {w : World} {user : User} {password : String}

/-- A reset token can be requested, and is the only one of the user. -/
theorem canRun_forgotReset (hemail : http.Bindable user.email) (hlifetimes : svc.config.PositiveLifetimes)
    (huser : user ∈ w.db.users) (hissue : svc.CanIssue user w) : ∃ token db,
      svc.CanRun (http.createRoutes svc (.forgotPassword user.email)) w (.ok (.resetLink resetMessage (some token)))
        ⟨db, w.clock⟩ ∧ token ≠ "" ∧ svc.StoresOneTime .passwordReset user.id w.now w.db token db := by
  obtain ⟨token, db, hrun, hstores⟩ :=
    canRun_issueOneTimeToken .passwordReset huser hlifetimes.passwordReset hissue.reset hissue.resetRoom
  have htoken : token ≠ "" := by
    obtain ⟨bytes, -, -, -, rfl, -⟩ := hstores
    exact base64UrlEncode_ne_empty bytes
  have hshown : token.isEmpty = false := by
    rw [← Bool.not_eq_true, String.isEmpty_iff]
    exact htoken
  have hfind : (Statement.selectUserByEmail user.email).run 0 w.now w.db = .ok (some user, w.db) :=
    congrArg (fun found => Except.ok (found, w.db)) (Db.userByEmail?_of_mem huser)
  have hforgot : svc.CanRun (svc.forgotPassword user.email) w (.ok token) ⟨db, w.clock⟩ := by
    simp only [AuthService.forgotPassword, selectUserByEmail]
    exact canRun_query 0 (refusal?_selectUserByEmail.mpr hemail.2) hfind hrun
  refine ⟨token, db, ?_, htoken, hstores⟩
  simp only [Http.createRoutes, Http.forgotPassword, Http.validate]
  apply canRun_check (by simp [Http.checkEmail, hemail.1])
  apply canRun_bind hforgot
  rw [hshown]
  exact canRun_done _ _

/-- A reset that passes the checks of the request runs where the operation does. -/
theorem canRun_resetRoute (http : Http) {token : String} {w' : World} (htoken : token ≠ "")
    (hlength : 8 ≤ password.length) (h : svc.CanRun (svc.resetPassword ⟨token, password, password⟩) w (.ok ()) w') :
    ∃ message,
    svc.CanRun (http.createRoutes svc (.resetPassword ⟨token, password, password⟩)) w
      (.ok (.message message)) w' := by
  have hpositive : 1 ≤ token.length := by
    rw [Nat.one_le_iff_ne_zero, ← String.length_toList, Ne, List.length_eq_zero_iff, String.toList_eq_nil_iff]
    exact htoken
  have herrors : Http.resetErrors ⟨token, password, password⟩ = [] := by
    simp [Http.resetErrors, checkLength, checkMatch, hpositive, hlength]
  refine ⟨"Password reset successful. Please login with your new password.", ?_⟩
  simp only [Http.createRoutes, Http.resetPassword, Http.validate, herrors]
  exact canRun_check rfl (canRun_bind h (canRun_done _ _))

/-- A login with the password succeeds once a lock has passed, and opens a session of its own. -/
theorem canRun_loginAfter (huser : user ∈ w.db.users) (hactive : user.status = .active)
    (hmatch : svc.comparePassword password user.passwordHash = some true) (hlength : 1 ≤ password.length)
    (hemail : http.Bindable user.email) (hlifetimes : svc.config.PositiveLifetimes)
    (hverified : svc.config.requireEmailVerification = true → user.isEmailVerified = true)
    (hlogin : svc.AdmitsLogin user w.clock) (hroom : svc.HasRoom w.db) :
    ∃ response w', svc.CanRun (http.createRoutes svc (.login ⟨none, none⟩ ⟨user.email, password⟩)) w
        (.ok (.session response)) w' ∧ response.user.id = user.id ∧
      ∃ (t : Instant) (ip : Option String),
      svc.Stores user.id (w.db.recordLogin user.id t ip) response.refreshToken w'.db := by
  obtain ⟨t, ht, hunlocked, hexpire⟩ := hlogin
  have hadmitted : (svc.config.requireEmailVerification && !user.isEmailVerified) = false := by
    cases hrequired : svc.config.requireEmailVerification with
    | false => rfl
    | true => simp [hverified hrequired]
  obtain ⟨response, w', ⟨tr, hexec⟩, hid⟩ := canRun_login (w := ⟨w.db, t⟩) huser hemail.2 hactive hunlocked hmatch
    hadmitted hlifetimes.refresh hexpire hroom
  have herrors : http.loginErrors ⟨user.email, password⟩ = [] := by
    simp [Http.loginErrors, checkEmail_eq_nil.mpr hemail.1, checkLength, hlength]
  have hroute : svc.CanRun (http.createRoutes svc (.login ⟨none, none⟩ ⟨user.email, password⟩)) ⟨w.db, t⟩
      (.ok (.session response)) w' := by
    simp only [Http.createRoutes, Http.login, Http.validate, herrors]
    exact canRun_check rfl (canRun_bind ⟨tr, hexec⟩ (canRun_done _ _))
  refine ⟨response, w', canRun_later ht hroute, hid, ?_⟩
  cases login_outcome hexec with
  | done hfound _ _ _ _ _ _ hstores =>
    rw [Db.userByEmail?_of_mem huser] at hfound
    obtain rfl := Option.some.inj hfound
    exact ⟨_, _, hstores⟩

/-- An active user whose email is verified where that is required can get back into the account. -/
theorem recovers (hargon : svc.prims.Argon2RoundTrip) (hphc : svc.prims.PhcHashes)
    (hlifetimes : svc.config.PositiveLifetimes) (hemail : http.Bindable user.email)
    (huser : user ∈ w.db.users) (hactive : user.status = .active)
    (hverified : svc.config.requireEmailVerification = true → user.isEmailVerified = true)
    (hchoosable : svc.Choosable password) (hissue : svc.CanIssue user w) : http.Recovers svc w user password := by
  obtain ⟨hlength, haccepted, salt, hash, hhash, hfits, hplain⟩ := hchoosable
  have hmatch : svc.comparePassword password hash = some true :=
    AuthService.MadeFrom.compares hargon hphc ⟨haccepted, salt, hhash⟩
  obtain ⟨token, db₁, ⟨tr₁, hforgot⟩, htoken, hstores⟩ := canRun_forgotReset hemail hlifetimes huser hissue
  obtain ⟨row, hrow, howner, hrowHash, hunused, hexpires, hnewest⟩ := hstores.row
  obtain ⟨husers, hsessions⟩ := hstores.frame
  have huser₁ : user ∈ db₁.users := husers ▸ huser
  have hearly : w.now < row.expiresAt := by
    have hpositive : 0 < seconds (svc.config.lifetime .passwordReset) :=
      Int.mul_pos (Int64.lt_iff_toInt_lt.mp hlifetimes.passwordReset) (by decide)
    rw [hexpires]
    exact Int.lt_add_of_pos_right _ hpositive
  obtain ⟨message, tr₂, hchange⟩ := canRun_resetRoute http htoken hlength
    (canRun_resetPassword (w := ⟨db₁, w.clock⟩) huser₁ hrow howner hrowHash hunused hearly haccepted hhash
      hfits hplain)
  have hroom₂ : svc.HasRoom (db₁.reset user.id row.id w.now hash) := by
    obtain ⟨id, bytes, hfree⟩ := hissue.room
    refine ⟨id, bytes, fun t ht => ?_⟩
    obtain ⟨q, hq, hid, hqHash, -⟩ := Db.mem_reset_refreshTokens ht
    rw [hid, hqHash]
    exact hfree q (hsessions ▸ hq)
  have huser₂ : user.withPassword w.now hash ∈ (db₁.reset user.id row.id w.now hash).users :=
    Db.mem_reset_users.mpr ⟨user, huser₁, if_pos rfl⟩
  have hlogin₂ : svc.AdmitsLogin (user.withPassword w.now hash) w.clock := hissue.login
  obtain ⟨response, w', ⟨tr₃, hlogin⟩, hid, t, ip, hsession⟩ :=
    canRun_loginAfter (w :=
      ⟨db₁.reset user.id row.id w.now hash, w.clock⟩) huser₂ hactive hmatch (by omega) hemail hlifetimes
      hverified hlogin₂ hroom₂
  refine ⟨_, _, _, w', .call (.call (.call .start hforgot) hchange) hlogin, ⟨token, rfl, rfl, rfl⟩, ⟨message, rfl⟩,
    ⟨_, response, rfl, rfl, hid⟩, ?_⟩
  exact regained_of_login husers hsessions huser howner hnewest hmatch hsession

end WayBack

/-- In every state that requests can reach from an empty database, locked or not and whoever is logged in, an
active user whose email is verified where that is required gets back into the account with any password that
can be chosen, where the tokens of a recovery can be issued; and the account is theirs again. -/
theorem account_recovery (http : Http) (svc : AuthService) (hargon : svc.prims.Argon2RoundTrip)
    (hphc : svc.prims.PhcHashes) (hspaceless : http.EmailsSpaceless)
    (hlifetimes : svc.config.PositiveLifetimes) (w : World) (hempty : w.db = Db.empty)
    (req : ℕ → HttpRequest) (d : HttpSystem) (hrun : svc.machine.Reaches (fun _ _ => True) (http.start svc w req) d)
    (user : User) (huser : user ∈ d.shared.db.users) (hissue : svc.CanIssue user d.shared)
    (hactive : user.status = .active)
    (hverified : svc.config.requireEmailVerification = true → user.isEmailVerified = true) (password : String)
    (hchoosable : svc.Choosable password) : http.Recovers svc d.shared user password :=
  recovers hargon hphc hlifetimes (bindable_of_run hspaceless hempty hrun user huser) huser hactive
    hverified hchoosable hissue

section Runs

open Reference

/-- The state after a registration and five logins with another password. -/
def lockedOut : HttpSystem :=
  service.executor.play (moves 0 7 1 ++ moves 1 4 2 ++ moves 2 4 2 ++ moves 3 4 2 ++ moves 4 4 2 ++ moves 5 4 2)
    (verifyingHttp.start service world mistypedLogin)

/-- The user who is locked out, for a quarter of an hour. -/
def lockedOutUser : User := { registeredUser with failedLoginAttempts := 5, lockedUntil := some 900000000 }

/-- A user who is locked out gets back into the account. -/
theorem account_recovery_locked : verifyingHttp.Recovers service lockedOut.shared lockedOutUser "Regained1" := by
  have hfacts : lockedOut.shared.db.refreshTokens.rows = [] ∧
      (lockedOut.shared.db.oneTimeTokens .passwordReset).rows = [] ∧
      lockedOutUser ∈ lockedOut.shared.db.users.rows ∧ lockedOut.shared.clock = 0 := by decide +kernel
  obtain ⟨hroom, hnone, huser, hclock⟩ := hfacts
  have hlogin : service.AdmitsLogin lockedOutUser lockedOut.shared.clock :=
    ⟨900000000, hclock ▸ Nat.zero_le _, by decide, by decide +kernel⟩
  have hissue : service.CanIssue lockedOutUser lockedOut.shared := by
    refine ⟨?_, hlogin, hasOneTimeRoom_of_empty _ hnone, hasRoom_of_empty _ hroom⟩
    rw [World.now, hclock]
    decide +kernel
  have hspaceless : verifyingHttp.EmailsSpaceless := fun email hvalid => (of_decide_eq_true hvalid).2
  have hchoosable : service.Choosable "Regained1" :=
    ⟨by decide, by decide +kernel, "salt", argon2Hash "salt" "Regained1", by decide +kernel, by decide +kernel,
      by decide +kernel⟩
  exact account_recovery verifyingHttp service argon2RoundTrip ⟨phcHashes.parses, phcHashes.spaceless⟩ hspaceless
    ⟨by decide, by decide, by decide, by decide⟩ world rfl mistypedLogin lockedOut
    (service.executor.play_reaches _ _)
    lockedOutUser huser hissue rfl (fun hrequired => nomatch hrequired) "Regained1" hchoosable

end Runs

end RustPressAuth
