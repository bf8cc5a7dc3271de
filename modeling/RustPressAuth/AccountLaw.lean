import RustPressAuth.Accounts.Book
import RustPressAuth.EmailVerification

/-!
# Accounts over sequential runs

What the service answers, from the requests and the results of the calls before: the
rows of `users` stand for the accounts of a book, so a login is admitted with the
password that was set last, by the registration, a change or a reset with the token that
was issued to the account, and with no other one, unless the logins that failed since the
last successful one have locked the account.
-/

namespace RustPressAuth

open Atomic Program Machine Relational

/-- The accounts and recovery tokens of the service. -/
abbrev AccountBook := Accounts.Book String Uuid String String

/-- The rule by which the service locks accounts. -/
def AuthConfig.lockRule (cfg : AuthConfig) : Accounts.LockRule where
  attempts := cfg.maxLoginAttempts.toInt
  lockEnd now := now + intervalMicros cfg.lockoutDuration

/-- What a call means for the accounts, by its request and its result; a failed login was counted at this
time, and one that panicked had found the password right. -/
def accountEvent (c : CallRecord) (now : Instant) : Accounts.Event String Uuid String String :=
  match c.request, c.result with
  | .register r, .ok (.user user) => .register user.email user.id r.password
  | .login r _ _, .ok _ => .letIn r.email
  | .login r _ _, .error (.err .invalidCredentials) => .fail r.email now
  | .login r _ _, .error (.panic _) => .letIn r.email
  | .forgotPassword email, .ok (.token token) => .recover email token
  | .resetPassword r, .ok _ => .reset r.token r.password
  | .changePassword userId r, .ok _ => .change userId r.newPassword
  | .verifyEmail _, .ok (.user user) => .verify user.id
  | _, _ => .pass

/-- The passwords a request carries. -/
def Request.passwords : Request → List String
  | .register r => [r.password]
  | .login r _ _ => [r.password]
  | .resetPassword r => [r.password]
  | .changePassword _ r => [r.currentPassword, r.newPassword]
  | _ => []

/-- The passwords that were used in a run. -/
def usedPasswords (past : List CallRecord) : List String := past.flatMap fun c => c.request.passwords

/-- Argon2 hashes every password into a PHC string, which verifies for this password and for no other one of
these. -/
structure AuthService.TellsApart (svc : AuthService) (passwords : List String) : Prop where
  hashes : svc.prims.HashesPasswords
  phc : svc.prims.PhcHashes
  roundTrip : svc.prims.Argon2RoundTrip
  apart : ∀ p ∈ passwords, ∀ q ∈ passwords, ∀ salt hash, svc.argon2 salt p = some hash →
    svc.prims.argon2Verify q hash = true → q = p

/-- The error that reports a refusal. -/
def AuthError.ofRefusal : Accounts.Refusal → AuthError
  | .weak => .weakPassword
  | .taken => .emailExists
  | .missing => .userNotFound
  | .locked => .accountLocked
  | .denied => .invalidCredentials
  | .unverified => .emailNotVerified

/-- The user a session was opened for. -/
def Response.sessionUser? : Response → Option Uuid
  | .session response => some response.user.id
  | _ => none

/-- A call answers what the book of the calls before it says: a registration, which also fails where Argon2
does not accept the configured costs; a login, at some instant of the call, which panics where the book admits
the user and an expiry of the session is out of range; a change of a password. -/
structure AccountLaw (svc : AuthService) (book : AccountBook) (c : CallRecord) : Prop where
  register : ∀ r, c.request = .register r → c.result.map (fun _ => ()) =
    match book.enrol svc.passwordAccepted r.email r.password with
    | .error refusal => .error (.err (.ofRefusal refusal))
    | .ok () => if svc.acceptsCosts then .ok () else .error (.err .internal)
  login : ∀ r ip ua, c.request = .login r ip ua → ∃ t : ℕ, c.before.During c.after t ∧
    match book.identify svc.config.requireEmailVerification r.email r.password t with
    | .error refusal => c.result = .error (.err (.ofRefusal refusal))
    | .ok id => c.result.map Response.sessionUser? = .ok (some id) ∨ SessionPanics svc c.before c.result c.after
  change : ∀ userId r, c.request = .changePassword userId r → c.result.map (fun _ => ()) =
    (book.renew svc.passwordAccepted userId r.currentPassword r.newPassword).mapError fun refusal =>
    .err (.ofRefusal refusal)

/-- A book is kept by the calls of a run, most recent first: each answers what the book says, and then the
book records what the call means, at some instant of the call. -/
inductive BookKept (svc : AuthService) : List CallRecord → AccountBook → Prop
  | start : BookKept svc [] .empty
  | call {past : List CallRecord} {book : AccountBook} {c : CallRecord} {t : ℕ} (hpast : BookKept svc past book)
      (hlaw : AccountLaw svc book c) (ht : c.before.During c.after t) :
      BookKept svc (c :: past) (book.apply svc.config.lockRule (accountEvent c t))

/-- What a login answers for the account it read, at the instant it read the clock. -/
def AuthService.loginAnswer (svc : AuthService) (password : String) (found : Option User) (now : Instant) :
    Except Failure Uuid :=
  match found with
  | none => .error (.err .invalidCredentials)
  | some user =>
    if user.isLocked now then .error (.err .accountLocked)
    else if user.status ≠ .active then .error (.err .accountNotActive)
    else
      match svc.comparePassword password user.passwordHash with
      | none => .error (.err .internal)
      | some false => .error (.err .invalidCredentials)
      | some true =>
        if svc.config.requireEmailVerification && !user.isEmailVerified then .error (.err .emailNotVerified)
          else .ok user.id

/-- What a change of a password answers for the account it read, where Argon2 hashes the new one. -/
def AuthService.changeAnswer (svc : AuthService) (r : ChangePasswordRequest) (found : Option User) :
    Except Failure Unit :=
  match found with
  | none => .error (.err .userNotFound)
  | some user =>
    match svc.comparePassword r.currentPassword user.passwordHash with
    | none => .error (.err .internal)
    | some false => .error (.err .invalidCredentials)
    | some true => if svc.passwordAccepted r.newPassword then .ok () else .error (.err .weakPassword)

variable {svc : AuthService} {β : Type} {w w' : World} {tr : Trace}

/-- Where no statement fails, a login answers what the account it reads says, unless it panics where that is a
session. -/
theorem login_answer {res : Except Failure AuthResponse} {r : LoginRequest} {ip ua : Option String}
    (h : svc.smooth.Exec (svc.login r ip ua) w tr res w') : ∃ t : ℕ, w.During w' t ∧
      (res.map (fun response => response.user.id) = svc.loginAnswer r.password (w.db.userByEmail? r.email) t ∨
        (∃ id, svc.loginAnswer r.password (w.db.userByEmail? r.email) t = .ok id) ∧
        SessionPanics svc w res w') := by
  simp only [AuthService.login, AuthService.verifyPassword, AuthService.incrementFailedAttempts,
    AuthService.recordSuccessfulLogin, selectUserByEmail, bind_assoc] at h
  obtain ⟨t₀, fresh, found, db, tr₁, ht₀, hrun, -, hfound⟩ := smooth_query h
  obtain ⟨rfl, rfl⟩ := Prod.mk.inj (Except.ok.inj hrun)
  rcases alone_okOr hfound with ⟨hnone, rfl, -⟩ | ⟨user, huser, hnow⟩
  · refine ⟨t₀, ⟨ht₀, (alone_precedes hfound).clock⟩, Or.inl ?_⟩
    rw [hnone]
    rfl
  obtain ⟨t, tr₂, ht, -, hlock⟩ := alone_now hnow
  refine ⟨t, ⟨Nat.le_trans ht₀ ht, (alone_precedes hlock).clock⟩, ?_⟩
  rw [huser]
  rcases alone_check hlock with ⟨hlocked, rfl, -⟩ | ⟨hunlocked, hstatus⟩
  · simp [AuthService.loginAnswer, hlocked, Except.map]
  rcases alone_check hstatus with ⟨hinactive, rfl, -⟩ | ⟨hactive, hverify⟩
  · have hne : user.status ≠ .active := by simpa using hinactive
    simp [AuthService.loginAnswer, hunlocked, hne, Except.map]
  obtain ⟨t₁, tr₃, ht₁, -, hcompared⟩ := alone_verify hverify
  have hon : user.status = .active := by simpa using hactive
  simp only [AuthService.loginAnswer, hunlocked, hon, ne_eq, not_true_eq_false, if_false]
  rcases alone_okOr hcompared with ⟨hnone, rfl, -⟩ | ⟨verified, hverified, hcount⟩
  · rw [hnone]
    exact Or.inl rfl
  rw [hverified]
  cases verified with
  | false =>
    simp only [runIf, Bool.not_false, if_true, bind_assoc] at hcount
    obtain ⟨t₂, fresh₂, n, db₂, tr₄, -, -, -, hfail⟩ := smooth_query hcount
    obtain ⟨rfl, -⟩ := alone_fail hfail
    exact Or.inl rfl
  | true =>
    rcases alone_check hcount with ⟨hunverified, rfl, -⟩ | ⟨hchecked, hrecord⟩
    · simp [hunverified, Except.map]
    obtain ⟨t₂, fresh₂, n, db₂, tr₄, ht₂, -, -, haccess⟩ := smooth_query hrecord
    simp only [hchecked, Bool.false_eq_true, if_false]
    rcases alone_issueTokens haccess with ⟨⟨hfault, t₃, ht₃, hearly⟩ | ⟨hfaults, -⟩, -⟩ |
      ⟨t₃, db₃, accessToken, refreshToken, front, tr₅, -, -, -, -, hend⟩
    · have hbegin : w.clock ≤ t₃ := by
        have hlater := ht₃.1
        simp only at ht₀ ht ht₁ ht₂ hlater
        omega
      exact Or.inr ⟨⟨user.id, rfl⟩, hfault, t₃, ⟨hbegin, ht₃.2⟩, hearly⟩
    · cases hfaults
    · obtain ⟨rfl, -⟩ := alone_ok hend
      exact Or.inl rfl

/-- Where no statement fails and Argon2 hashes every password, a change answers what the account it reads says. -/
theorem changePassword_answer (hhashes : svc.prims.HashesPasswords) {res : Except Failure Unit} {userId : Uuid}
    {r : ChangePasswordRequest} (h : svc.smooth.Exec (svc.changePassword userId r) w tr res w') :
    res = svc.changeAnswer r (w.db.user? userId) := by
  simp only [AuthService.changePassword, AuthService.verifyPassword, AuthService.validatePassword, selectUserById,
    bind_assoc] at h
  obtain ⟨t₀, fresh, found, db, tr₁, -, hrun, -, hfound⟩ := smooth_query h
  obtain ⟨rfl, rfl⟩ := Prod.mk.inj (Except.ok.inj hrun)
  rcases alone_okOr hfound with ⟨hnone, rfl, -⟩ | ⟨user, huser, hverify⟩
  · rw [hnone]
    rfl
  rw [huser]
  obtain ⟨t₁, tr₂, -, -, hcompared⟩ := alone_verify hverify
  simp only [AuthService.changeAnswer]
  rcases alone_okOr hcompared with ⟨hnone, rfl, -⟩ | ⟨verified, hverified, hmatch⟩
  · rw [hnone]
  rw [hverified]
  rcases alone_check hmatch with ⟨hwrong, rfl, -⟩ | ⟨hright, hstrong⟩
  · obtain rfl : verified = false := by simpa using hwrong
    rfl
  obtain rfl : verified = true := by simpa using hright
  rcases alone_check hstrong with ⟨hweak, rfl, -⟩ | ⟨haccepted, hhash⟩
  · obtain hweak : svc.passwordAccepted r.newPassword = false := by simpa using hweak
    simp [hweak]
  obtain haccepted : svc.passwordAccepted r.newPassword = true := by simpa using haccepted
  simp only [haccepted, if_true]
  rcases alone_hashPassword hhash with ⟨salt, hnone, rfl, -⟩ | ⟨t₂, salt, passwordHash, tr₃, -, -, -, hupdate⟩
  · have haccepts : svc.acceptsCosts = true := by
      by_contra hrefused
      rw [Bool.not_eq_true, AuthService.acceptsCosts] at hrefused
      simp only [AuthService.comparePassword, hrefused] at hverified
      split at hverified <;> cases hverified
    rw [AuthService.acceptsCosts] at haccepts
    rw [AuthService.argon2, if_pos haccepts] at hnone
    exact absurd hnone (hhashes _ _ _ _ _ haccepts)
  obtain ⟨t₃, fresh₃, n, db₃, tr₄, -, -, -, hrevoke⟩ := smooth_query hupdate
  rcases alone_revokeAllTokens hrevoke with ⟨hfaults, -⟩ | ⟨t₄, -, hres, -⟩
  · cases hfaults
  · exact hres

/-- Where no statement fails and Argon2 hashes every password, a registration is refused for a weak password or a
taken email, or fails for the configured costs. -/
theorem register_answer (hhashes : svc.prims.HashesPasswords) {res : Except Failure User} {r : RegisterRequest}
    (h : svc.smooth.Exec (svc.register r) w tr res w') :
    res.map (fun _ => ()) = if svc.passwordAccepted r.password = false then .error (.err .weakPassword)
      else if (w.db.userByEmail? r.email).isSome then .error (.err .emailExists)
      else if svc.acceptsCosts then .ok () else .error (.err .internal) := by
  simp only [AuthService.register, AuthService.validatePassword, selectUserIdByEmail, insertUser] at h
  rcases alone_check h with ⟨hweak, rfl, -⟩ | ⟨haccepted, hfind⟩
  · obtain hweak : svc.passwordAccepted r.password = false := by simpa using hweak
    simp [hweak, Except.map]
  obtain haccepted : svc.passwordAccepted r.password = true := by simpa using haccepted
  simp only [haccepted, reduceCtorEq, if_false]
  obtain ⟨t, fresh, found, db, tr₁, -, hrun, -, hfree⟩ := smooth_query hfind
  obtain ⟨rfl, rfl⟩ := Prod.mk.inj (Except.ok.inj hrun)
  rw [Option.isSome_map] at hfree
  rcases alone_check hfree with ⟨htaken, rfl, -⟩ | ⟨hnew, hhash⟩
  · rw [if_pos htaken]
    rfl
  rw [hnew]
  rcases alone_hashPassword hhash with ⟨salt, hnone, rfl, -⟩ | ⟨t₁, salt, passwordHash, tr₂, -, hmade, -, hinsert⟩
  · have hcosts : svc.acceptsCosts = false := by
      rw [← Bool.not_eq_true]
      intro haccepts
      rw [AuthService.acceptsCosts] at haccepts
      rw [AuthService.argon2, if_pos haccepts] at hnone
      exact hhashes _ _ _ _ _ haccepts hnone
    rw [hcosts]
    rfl
  · have hcosts : svc.acceptsCosts = true := by
      rw [AuthService.acceptsCosts]
      by_contra hrefused
      rw [AuthService.argon2, if_neg hrefused] at hmade
      cases hmade
    rw [hcosts]
    rw [← bind_eq_self (query _)] at hinsert
    obtain ⟨t₂, fresh₂, user, db₂, tr₃, -, -, -, hend⟩ := smooth_query hinsert
    obtain ⟨rfl, -⟩ := alone_ok hend
    rfl

/-- A row of `users` stands for an account. -/
structure AuthService.StandsFor (svc : AuthService) (passwords : List String)
    (account : Accounts.Account String Uuid String) (row : User) : Prop where
  email : row.email = account.name
  id : row.id = account.id
  known : account.password ∈ passwords
  hashed : ∃ salt, svc.argon2 salt account.password = some row.passwordHash
  verified : row.isEmailVerified = account.verified
  active : row.status = .active
  failures : row.failedLoginAttempts = account.failures
  lock : row.lockedUntil = account.lockedUntil

/-- The rows of `users` stand for the accounts of the book, and the reset tokens that were issued are for the
accounts they name. -/
structure AuthService.KeepsBook (svc : AuthService) (passwords : List String) (past : List CallRecord)
    (book : AccountBook) (db : Db) : Prop where
  agrees : book.Agrees (svc.StandsFor passwords) db.users.rows
  recovery : ∀ userId token, (userId, token) ∈ Tickets.issues (ticketHistory .passwordReset past) →
    book.recovery.lookup token = some userId

variable {passwords : List String} {past : List CallRecord} {book : AccountBook} {db db' : Db}

/-- A hash that is stored was not cut. -/
theorem AuthService.TellsApart.hashed (hapart : svc.TellsApart passwords) {password stored : String}
    (h : svc.hashesTo password stored) : ∃ salt, svc.argon2 salt password = some stored := by
  obtain ⟨salt, hash, hargon, hstored⟩ := h
  have hmade : ∃ m t p, svc.prims.argon2Hash m t p salt password = some hash := by
    unfold AuthService.argon2 at hargon
    split at hargon
    · exact ⟨_, _, _, hargon⟩
    · cases hargon
  obtain ⟨m, t, p, hmade⟩ := hmade
  have hwhole := varchar_getD (hapart.phc.spaceless _ _ _ _ _ _ hmade) 255
  rw [hstored, Option.getD_some] at hwhole
  exact ⟨salt, hwhole ▸ hargon⟩

/-- A password is compared with a row by the password of its account. -/
theorem AuthService.TellsApart.compares (hapart : svc.TellsApart passwords)
    {account : Accounts.Account String Uuid String} {row : User} (hrow : svc.StandsFor passwords account row)
    {password : String} (hpassword : password ∈ passwords) :
    svc.comparePassword password row.passwordHash = some (decide (password = account.password)) := by
  obtain ⟨salt, hargon⟩ := hrow.hashed
  have hmade := hargon
  unfold AuthService.argon2 at hmade
  split at hmade
  · rename_i hparams
    have hparses := hapart.phc.parses _ _ _ _ _ _ hmade
    have hverify : svc.prims.argon2Verify password row.passwordHash = decide (password = account.password) := by
      by_cases hsame : password = account.password
      · rw [hsame, hapart.roundTrip _ _ _ _ _ _ hmade, decide_eq_true rfl]
      · rw [decide_eq_false hsame, ← Bool.not_eq_true]
        exact fun hverifies => hsame (hapart.apart _ hrow.known _ hpassword _ _ hargon hverifies)
    simp only [AuthService.comparePassword, hparses, hparams, hverify, Bool.not_true, Bool.false_eq_true, if_false]
  · cases hmade

section Lookups

variable (h : book.Agrees (svc.StandsFor passwords) db.users.rows)

include h

/-- The account with an email and the row with that email. -/
theorem rel_userByEmail (email : String) :
    Option.Rel (svc.StandsFor passwords) (book.named? email) (db.userByEmail? email) := by
  apply h.find
  intro a row hrow
  rw [hrow.email]

/-- The account with an id and the row with that id. -/
theorem rel_user (id : Uuid) : Option.Rel (svc.StandsFor passwords) (book.byId? id) (db.user? id) := by
  apply h.find
  intro a row hrow
  rw [hrow.id]

/-- The row of one user and the account it stands for are changed together. -/
theorem agrees_updateUser {id : Uuid} {f : User → User} (hid : ∀ u, (f u).id = u.id)
    (hemail : ∀ u, (f u).email = u.email)
    {g : Accounts.Account String Uuid String → Accounts.Account String Uuid String}
    (hkeep : ∀ a row, svc.StandsFor passwords a row → svc.StandsFor passwords (g a) (f row)) :
    (book.update id g).Agrees (svc.StandsFor passwords) (db.updateUser id f hid hemail).users.rows := by
  refine Accounts.Book.Agrees.update h (p := fun u => u.id = id) ?_ fun a row hrow _ => hkeep a row hrow
  intro a row hrow
  rw [decide_eq_true_eq, hrow.id]

/-- The row of the user with an email and the account of that name are changed together. -/
theorem agrees_updateNamed {user : User} {email : String} (huser : db.userByEmail? email = some user)
    {f : User → User} (hid : ∀ u, (f u).id = u.id) (hemail : ∀ u, (f u).email = u.email)
    {g : Accounts.Account String Uuid String → Accounts.Account String Uuid String}
    (hkeep : ∀ a row, svc.StandsFor passwords a row → svc.StandsFor passwords (g a) (f row)) :
    (book.updateNamed email g).Agrees (svc.StandsFor passwords)
      (db.updateUser user.id f hid hemail).users.rows := by
  have hrel := rel_userByEmail h email
  rw [huser] at hrel
  unfold Accounts.Book.updateNamed
  cases hname : book.named? email with
  | none =>
    rw [hname] at hrel
    cases hrel
  | some account =>
    rw [hname] at hrel
    obtain ⟨hrow⟩ := hrel
    rw [hrow.id]
    exact agrees_updateUser h hid hemail hkeep

end Lookups

/-- The rows after a user was inserted. -/
theorem insertUser?_rows {user : User} (h : db.insertUser? user = some db') :
    db'.users.rows = db.users.rows ++ [user] := by
  have hinsert := (Db.insertUser?_spec h).1
  unfold Table.insert? at hinsert
  split at hinsert
  · rw [← Option.some.inj hinsert]
  · cases hinsert

/-- The row of a new user stands for the account that is registered. -/
theorem standsFor_newUser (hapart : svc.TellsApart passwords) {password stored email name : String} {fresh : Uuid}
    {now : Instant} (hknown : password ∈ passwords) (hhashed : svc.hashesTo password stored) :
    svc.StandsFor passwords (.new email fresh password) (newUser fresh now email stored name) where
  email := rfl
  id := rfl
  known := hknown
  hashed := hapart.hashed hhashed
  verified := rfl
  active := rfl
  failures := rfl
  lock := rfl

/-- The row of an account and its password are replaced together. -/
theorem agrees_replacePassword (hapart : svc.TellsApart passwords) {userId : Uuid}
    {password stored : String} {now : Instant} (h : book.Agrees (svc.StandsFor passwords) db.users.rows)
    (hknown : password ∈ passwords) (hhashed : svc.hashesTo password stored) :
    (book.setPassword userId password).Agrees
      (svc.StandsFor passwords) (db.replacePassword userId now stored).users.rows :=
  agrees_updateUser h (User.withPassword_id now stored) (User.withPassword_email now stored)
    fun _ _ hrow => { hrow with known := hknown, hashed := hapart.hashed hhashed }

/-- A failed login is counted in the row and in the account. -/
theorem StandsFor.failed {account : Accounts.Account String Uuid String} {row : User}
    (h : svc.StandsFor passwords account row) (now : Instant) :
    svc.StandsFor passwords (account.failed svc.config.lockRule now)
      (row.incremented now svc.config.maxLoginAttempts svc.config.lockoutDuration) where
  email := h.email
  id := h.id
  known := h.known
  hashed := h.hashed
  verified := h.verified
  active := h.active
  failures := congrArg (· + 1) h.failures
  lock := by
    simp only [User.incremented, Accounts.Account.failed, AuthConfig.lockRule, h.failures, h.lock, ge_iff_le]
    rfl

/-- A successful login clears the failures of the row and of the account. -/
theorem StandsFor.cleared {account : Accounts.Account String Uuid String} {row : User}
    (h : svc.StandsFor passwords account row) (now : Instant) (ipAddress : Option String) :
    svc.StandsFor passwords account.cleared (row.loggedIn now ipAddress) :=
  { h with failures := rfl, lock := rfl }

/-- A login is counted or recorded in the book as in the row. -/
theorem agrees_login {res : Except Failure AuthResponse} {r : LoginRequest} {ip ua : Option String}
    (hexec : svc.smooth.Exec (svc.login r ip ua) w tr res w')
    (h : book.Agrees (svc.StandsFor passwords) w.db.users.rows) :
    ∃ t : ℕ, w.During w' t ∧ (book.apply svc.config.lockRule
      (accountEvent ⟨.login r ip ua, w, tr, res.map Response.session, w'⟩ t)).Agrees (svc.StandsFor passwords)
        w'.db.users.rows := by
  have hbegin : w.During w' w.clock := ⟨Nat.le_refl _, (alone_precedes hexec).clock⟩
  cases login_outcome hexec with
  | unanswered hfaults => cases hfaults
  | unknown hnone _ hdb =>
    refine ⟨w.clock, hbegin, ?_⟩
    have hrel := rel_userByEmail h r.email
    rw [hnone] at hrel
    show (book.updateNamed r.email _).Agrees _ _
    rw [hdb, Accounts.Book.updateNamed]
    cases hname : book.named? r.email with
    | none => exact h
    | some account =>
      rw [hname] at hrel
      cases hrel
  | locked _ _ _ _ hdb => exact ⟨w.clock, hbegin, hdb ▸ h⟩
  | @refused e _ _ _ _ _ _ he _ hdb =>
    refine ⟨w.clock, hbegin, ?_⟩
    have hpass : accountEvent ⟨.login r ip ua, w, tr, .error (.err e), w'⟩ w.clock = .pass := by
      cases e with
      | invalidCredentials => exact absurd rfl he
      | _ => rfl
    show (book.apply _ (accountEvent ⟨.login r ip ua, w, tr, .error (.err e), w'⟩ w.clock)).Agrees _ _
    rw [hpass, hdb]
    exact h
  | @wrong _ user t t₁ huser _ _ _ _ ht₁ hdb =>
    refine ⟨t₁, ht₁, ?_⟩
    rw [hdb]
    exact agrees_updateNamed h huser (f := User.incremented _ _ _) (fun _ => rfl) (fun _ => rfl)
      fun _ _ hrow => StandsFor.failed hrow t₁
  | interrupted hfaults => cases hfaults
  | panicked huser _ _ _ _ _ _ hdb =>
    refine ⟨w.clock, hbegin, ?_⟩
    rw [hdb]
    exact agrees_updateNamed h huser (User.loggedIn_id _ _) (User.loggedIn_email _ _)
      fun _ _ hrow => StandsFor.cleared hrow _ _
  | done huser _ _ _ _ _ _ hstores =>
    refine ⟨w.clock, hbegin, ?_⟩
    obtain ⟨tokenId, issuedAt, now, bytes, ip', ua', -, hinsert⟩ := hstores
    rw [(Db.insertRefreshToken?_spec hinsert).1]
    exact agrees_updateNamed h huser (User.loggedIn_id _ _) (User.loggedIn_email _ _)
      fun _ _ hrow => StandsFor.cleared hrow _ _

/-- A call that is no login does to the accounts what its event says, at whatever time. -/
theorem agrees_other (hapart : svc.TellsApart passwords) {request : Request} {res : Except Failure Response}
    (hother : ∀ r ip ua, request ≠ .login r ip ua) (hexec : svc.smooth.Exec (svc.serve request) w tr res w')
    (hknown : ∀ p ∈ request.passwords, p ∈ passwords) (hfresh : FreshTokens svc (⟨request, w, tr, res, w'⟩ :: past))
    (hrep : Represents svc (ticketHistory .passwordReset past) (w.db.oneTimeTokens .passwordReset))
    (hbook : svc.KeepsBook passwords past book w.db) (now : Instant) :
    (book.apply svc.config.lockRule (accountEvent ⟨request, w, tr, res, w'⟩ now)).Agrees (svc.StandsFor passwords)
      w'.db.users.rows := by
  have hagrees := hbook.agrees
  cases request with
  | login r ip ua => exact absurd rfl (hother r ip ua)
  | register r =>
    obtain ⟨res, hregister, rfl⟩ := alone_answer hexec
    cases register_outcome hregister with
    | refused hdb =>
      rw [hdb]
      exact hagrees
    | created hnew hhashed hinsert =>
      rw [insertUser?_rows hinsert]
      subst hnew
      exact hagrees.register (standsFor_newUser hapart (hknown _ (List.mem_singleton_self _)) hhashed)
  | forgotPassword email =>
    rw [users_of_exec rfl hexec]
    obtain ⟨res, -, rfl⟩ := alone_answer hexec
    cases res with
    | error e => exact hagrees
    | ok token => exact hagrees.recover email token
  | resetPassword r =>
    obtain ⟨res, hreset, rfl⟩ := alone_answer hexec
    cases resetPassword_outcome hreset with
    | weak _ hdb => exact hdb ▸ hagrees
    | unfound _ _ hdb => exact hdb ▸ hagrees
    | unhashed _ _ hdb => exact hdb ▸ hagrees
    | failedEarly hfaults => cases hfaults
    | unmarked _ _ _ hfaults => cases hfaults
    | unrevoked _ _ _ hfaults => cases hfaults
    | @done _ t t₁ t₂ t₃ tokenId userId stored _ _ hfound hstored hdb =>
      have hlatest := (redeemable_of_found hrep (hfresh.presented rfl) hfound).1.latest
      have htoken := hbook.recovery userId r.token (Tickets.mem_issues_of_latest hlatest)
      have happly : book.apply svc.config.lockRule (.reset r.token r.password) =
        book.setPassword userId r.password := by
        simp only [Accounts.Book.apply, htoken]
      show (book.apply svc.config.lockRule (.reset r.token r.password)).Agrees _ _
      rw [happly, hdb]
      exact agrees_replacePassword hapart hagrees (hknown _ (List.mem_singleton_self _)) hstored
  | changePassword userId r =>
    obtain ⟨res, hchange, rfl⟩ := alone_answer hexec
    cases changePassword_outcome hchange with
    | refused _ hdb => exact hdb ▸ hagrees
    | failedEarly hfaults => cases hfaults
    | unrevoked _ hfaults => cases hfaults
    | done _ _ _ hstored hdb =>
      rw [hdb]
      exact agrees_replacePassword hapart hagrees (hknown _ (by simp [Request.passwords])) hstored
  | verifyEmail token =>
    obtain ⟨res, hverify, rfl⟩ := alone_answer hexec
    cases verifyEmail_outcome hverify with
    | unfound _ _ hdb => exact hdb ▸ hagrees
    | done _ _ huser hdb =>
      rw [hdb]
      obtain rfl := of_decide_eq_true (Table.find?_some huser).2
      exact agrees_updateUser hagrees (User.verified_id _) (User.verified_email _)
        fun _ _ hrow => { hrow with verified := rfl, active := rfl }
  | _ =>
    rw [users_of_exec rfl hexec]
    exact hagrees

/-- The event of any other call issues no recovery token. -/
theorem accountEvent_ne_recover {c : CallRecord} {now : Instant}
    (hother : ∀ email, c.request ≠ .forgotPassword email) (name token : String) :
    accountEvent c now ≠ .recover name token := by
  obtain ⟨request, w, tr, res, w'⟩ := c
  unfold accountEvent
  split
  case h_5 heq _ => exact absurd heq (hother _)
  all_goals simp

/-- A reset token is for the account it was issued to. -/
theorem recovery_of_exec {request : Request} {res : Except Failure Response}
    (hexec : svc.smooth.Exec (svc.serve request) w tr res w')
    (hfresh : FreshTokens svc (⟨request, w, tr, res, w'⟩ :: past))
    (hbook : svc.KeepsBook passwords past book w.db) (now : Instant) (userId : Uuid) (token : String)
    (hissued :
      (userId, token) ∈ Tickets.issues (ticketHistory .passwordReset (⟨request, w, tr, res, w'⟩ :: past))) :
    (book.apply svc.config.lockRule (accountEvent ⟨request, w, tr, res, w'⟩ now)).recovery.lookup
    token = some userId := by
  rw [ticketHistory, List.map_cons] at hissued
  by_cases hforgot : ∃ email, request = .forgotPassword email
  · obtain ⟨email, rfl⟩ := hforgot
    obtain ⟨res, hforgot, rfl⟩ := alone_answer hexec
    have hrel := rel_userByEmail hbook.agrees email
    rcases forgotPassword_outcome hforgot with ⟨hnone, rfl, -⟩ |
      ⟨user, huser, ⟨⟨fault, rfl⟩, -⟩ | ⟨new, issuedAt, rfl, -⟩⟩
    · rw [hnone] at hrel
      cases hname : book.named? email with
      | some account =>
        rw [hname] at hrel
        cases hrel
      | none =>
        simp only [ticketEvent, Except.map, hnone] at hissued
        simp only [accountEvent, Except.map, Accounts.Book.apply, hname]
        exact hbook.recovery userId token hissued
    · exact hbook.recovery userId token hissued
    · rw [huser] at hrel
      cases hname : book.named? email with
      | none =>
        rw [hname] at hrel
        cases hrel
      | some account =>
        rw [hname] at hrel
        obtain ⟨hrow⟩ := hrel
        have hnodup := hfresh.nodup .passwordReset
        simp only [issuedFor, ticketHistory, List.map_cons, ticketEvent, Except.map, huser,
          Tickets.issues] at hnodup hissued
        simp only [accountEvent, Except.map, Accounts.Book.apply, hname, List.lookup_cons]
        rcases List.mem_cons.mp hissued with heq | hold
        · obtain ⟨rfl, rfl⟩ := Prod.mk.inj heq
          rw [beq_self_eq_true, hrow.id]
        · have hne : token ≠ new := by
            rintro rfl
            exact (List.nodup_cons.mp hnodup).1 (List.mem_map_of_mem hold)
          rw [beq_false_of_ne hne]
          exact hbook.recovery userId token hold
  · have hother (name token : String) := @accountEvent_ne_recover ⟨request, w, tr, res, w'⟩ now
      (fun email heq => hforgot ⟨email, heq⟩) name token
    rw [Accounts.Book.lookup_apply _ _ _ _ fun name => hother name token]
    apply hbook.recovery userId token
    unfold ticketEvent at hissued
    split at hissued
    · rename_i heq _
      exact absurd ⟨_, heq⟩ hforgot
    all_goals first | exact hissued | contradiction

/-- A call keeps the book, at some instant of the call. -/
theorem keepsBook_of_exec (hapart : svc.TellsApart passwords) {request : Request} {res : Except Failure Response}
    (hexec : svc.smooth.Exec (svc.serve request) w tr res w') (hknown : ∀ p ∈ request.passwords, p ∈ passwords)
    (hfresh : FreshTokens svc (⟨request, w, tr, res, w'⟩ :: past))
    (hrep : Represents svc (ticketHistory .passwordReset past) (w.db.oneTimeTokens .passwordReset))
    (hbook : svc.KeepsBook passwords past book w.db) : ∃ t : ℕ, w.During w' t ∧
      svc.KeepsBook passwords (⟨request, w, tr, res, w'⟩ :: past)
        (book.apply svc.config.lockRule (accountEvent ⟨request, w, tr, res, w'⟩ t)) w'.db := by
  by_cases hlogin : ∃ r ip ua, request = .login r ip ua
  · obtain ⟨r, ip, ua, rfl⟩ := hlogin
    obtain ⟨res, hexec', rfl⟩ := alone_answer hexec
    obtain ⟨t, ht, hagrees⟩ := agrees_login hexec' hbook.agrees
    exact ⟨t, ht, hagrees, recovery_of_exec hexec hfresh hbook t⟩
  · have hother : ∀ r ip ua, request ≠ .login r ip ua := fun r ip ua heq => hlogin ⟨r, ip, ua, heq⟩
    exact ⟨w.clock, ⟨Nat.le_refl _, (alone_precedes hexec).clock⟩,
      agrees_other hapart hother hexec hknown hfresh hrep hbook _, recovery_of_exec hexec hfresh hbook _⟩

section Answers

variable (hapart : svc.TellsApart passwords) (h : book.Agrees (svc.StandsFor passwords) db.users.rows)

include hapart h

/-- A login answers by the account. -/
theorem loginAnswer_eq {password : String} (hknown : password ∈ passwords) (email : String) (now : Instant) :
    svc.loginAnswer password (db.userByEmail? email) now =
      (book.identify svc.config.requireEmailVerification email password now).mapError fun refusal =>
        .err (.ofRefusal refusal) := by
  have hrel := rel_userByEmail h email
  unfold Accounts.Book.identify
  cases huser : db.userByEmail? email with
  | none =>
    rw [huser] at hrel
    cases hname : book.named? email with
    | none => rfl
    | some account =>
      rw [hname] at hrel
      cases hrel
  | some row =>
    rw [huser] at hrel
    cases hname : book.named? email with
    | none =>
      rw [hname] at hrel
      cases hrel
    | some account =>
      rw [hname] at hrel
      obtain ⟨hrow⟩ := hrel
      have hlock : row.isLocked now = account.isLocked now := by
        rw [User.isLocked, Accounts.Account.isLocked, hrow.lock]
        cases account.lockedUntil <;> rfl
      simp only [AuthService.loginAnswer, hrow.active, hapart.compares hrow hknown, hlock]
      by_cases hlocked : account.isLocked now = true
      · simp [hlocked, Except.mapError, AuthError.ofRefusal]
      by_cases hright : password = account.password
      · by_cases hrefused : svc.config.requireEmailVerification = true ∧ account.verified = false
        · simp [hlocked, hright, hrefused, hrow.verified, Except.mapError, AuthError.ofRefusal]
        · have hpasses : (svc.config.requireEmailVerification && !row.isEmailVerified) = false := by
            rw [hrow.verified]
            simpa using hrefused
          simp [hlocked, hright, hrefused, hpasses, hrow.id, Except.mapError]
      · simp [hlocked, hright, Except.mapError, AuthError.ofRefusal]

/-- A change of a password answers by the account. -/
theorem changeAnswer_eq {r : ChangePasswordRequest} (hknown : r.currentPassword ∈ passwords) (userId : Uuid) :
    svc.changeAnswer r (db.user? userId) = (book.renew svc.passwordAccepted userId r.currentPassword
      r.newPassword).mapError fun refusal => .err (.ofRefusal refusal) := by
  have hrel := rel_user h userId
  unfold Accounts.Book.renew
  cases huser : db.user? userId with
  | none =>
    rw [huser] at hrel
    cases hname : book.byId? userId with
    | none => rfl
    | some account =>
      rw [hname] at hrel
      cases hrel
  | some row =>
    rw [huser] at hrel
    cases hname : book.byId? userId with
    | none =>
      rw [hname] at hrel
      cases hrel
    | some account =>
      rw [hname] at hrel
      obtain ⟨hrow⟩ := hrel
      simp only [AuthService.changeAnswer, hapart.compares hrow hknown]
      by_cases hright : r.currentPassword = account.password
      · cases svc.passwordAccepted r.newPassword with
        | true => simp [hright, Except.mapError]
        | false => simp [hright, Except.mapError, AuthError.ofRefusal]
      · simp [hright, Except.mapError, AuthError.ofRefusal]

end Answers

/-- A call answers what the book says whose accounts the rows stand for. -/
theorem accountLaw_of_exec (hapart : svc.TellsApart passwords) {request : Request} {res : Except Failure Response}
    (hexec : svc.smooth.Exec (svc.serve request) w tr res w') (hknown : ∀ p ∈ request.passwords, p ∈ passwords)
    (h : book.Agrees (svc.StandsFor passwords) w.db.users.rows) :
    AccountLaw svc book ⟨request, w, tr, res, w'⟩ where
  register := by
    rintro r rfl
    obtain ⟨res, hregister, rfl⟩ := alone_answer hexec
    have hanswer := register_answer hapart.hashes hregister
    have htaken := Relational.isSome_of_rel (rel_userByEmail h r.email)
    calc (res.map Response.user).map (fun _ => ())
        = res.map (fun _ => ()) := by cases res <;> rfl
      _ = _ := hanswer
      _ = _ := by
        rw [Accounts.Book.enrol, htaken]
        split
        · rfl
        · split <;> rfl
  login := by
    rintro r ip ua rfl
    obtain ⟨res, hlogin, rfl⟩ := alone_answer hexec
    obtain ⟨t, ht, hanswer⟩ := login_answer hlogin
    refine ⟨t, ht, ?_⟩
    rw [loginAnswer_eq hapart h (hknown _ (List.mem_singleton_self _))] at hanswer
    cases hidentify : book.identify svc.config.requireEmailVerification r.email r.password t with
    | error refusal =>
      rw [hidentify] at hanswer
      rcases hanswer with hresult | ⟨⟨id, hadmitted⟩, -⟩
      · cases res with
        | ok response => cases hresult
        | error e =>
          obtain rfl := Except.error.inj hresult
          rfl
      · cases hadmitted
    | ok id =>
      rw [hidentify] at hanswer
      rcases hanswer with hresult | ⟨-, ⟨fault, rfl⟩, hearly⟩
      · cases res with
        | ok response => exact Or.inl (congrArg (Except.map some) hresult)
        | error e => cases hresult
      · exact Or.inr ⟨⟨fault, rfl⟩, hearly⟩
  change := by
    rintro userId r rfl
    obtain ⟨res, hchange, rfl⟩ := alone_answer hexec
    have hanswer := changePassword_answer hapart.hashes hchange
    rw [changeAnswer_eq hapart h (hknown _ (by simp [Request.passwords]))] at hanswer
    rw [← hanswer]
    cases res <;> rfl

/-- Along every sequential run from an empty database a book is kept, and the rows stand for its accounts. -/
theorem bookKept_of_serial {first : World} (hapart : svc.TellsApart passwords) (hempty : first.db = Db.empty)
    (hrun : svc.smooth.Serial svc.serve first past w) (hfresh : FreshTokens svc past)
    (hknown : ∀ p ∈ usedPasswords past, p ∈ passwords) :
    ∃ book, BookKept svc past book ∧ svc.KeepsBook passwords past book w.db := by
  induction hrun with
  | start =>
    rw [hempty]
    exact ⟨_, .start, .empty, fun userId token hissued => absurd hissued List.not_mem_nil⟩
  | @call past v w' request tr res hpast hexec ih =>
    obtain ⟨book, hkept, hbook⟩ := ih hfresh.earlier fun p hp => hknown p (List.mem_append_right _ hp)
    have hown : ∀ p ∈ request.passwords, p ∈ passwords := fun p hp => hknown p (List.mem_append_left _ hp)
    have hrep := represents_of_serial .passwordReset (by rw [hempty]; rfl) hpast hfresh.earlier
    obtain ⟨t, ht, hafter⟩ := keepsBook_of_exec hapart hexec hown hfresh hrep hbook
    exact ⟨_, .call hkept (accountLaw_of_exec hapart hexec hown hbook.agrees) ht, hafter⟩

section Runs

open Reference Serial

/-- The reference hashes verify for the password they were made from only. -/
theorem Reference.tellsApart (passwords : List String) : service.TellsApart passwords where
  hashes memoryCost timeCost parallelism salt password _ := by simp [service, primitives]
  phc := phcHashes
  roundTrip := argon2RoundTrip
  apart p _ q _ salt hash hmade hverifies := by
    unfold AuthService.argon2 at hmade
    split at hmade
    · obtain rfl : argon2Hash salt p = hash := Option.some.inj hmade
      have hdecode := (Codec.string.pair Codec.string).decode_encode (salt, p) []
      rw [List.append_nil] at hdecode
      have hsame : (p == q) = true := by
        simpa [service, primitives, argon2Verify, argon2Hash, parse_render, hdecode] using hverifies
      exact (beq_iff_eq.mp hsame).symm
    · cases hmade

/-- A user registers, gives a wrong password, recovers the account with a reset token and logs in with the new
password, most recent call first. -/
def recoveryCalls : List (Request × List Choice) :=
  [(.login ⟨"a@b.c", "Hijklmn2"⟩ none none, List.replicate 12 (choice 4)),
    (.resetPassword ⟨base64UrlEncode (choice 2).bytes.toList, "Hijklmn2", "Hijklmn2"⟩, List.replicate 5 (choice 3)),
    (.forgotPassword "a@b.c", List.replicate 5 (choice 2)),
    (.login ⟨"a@b.c", "Hijklmn2"⟩ none none, List.replicate 4 (choice 4)),
    (.register ⟨"a@b.c", "Abcdefg1", "Abcdefg1", "A"⟩, List.replicate 3 (choice 1))]

/-- The results of the two logins are these, and all tokens are fresh. -/
def admitsNewPassword (calls : List CallRecord) (_ : World) : Bool :=
  FreshTokens service calls ∧ (calls.map fun c => c.result.toOption.bind Response.sessionUser?) =
    [some 1, none, none, none, none]

end Runs

end RustPressAuth
