import RustPressAuth.AccountOutcomes
import RustPressAuth.SessionOutcomes

/-!
# Accounting of failed logins

Two columns of a user row drive the lockout: the counter of failed logins and the end of
the lock. Only two statements touch them after registration. Along every interleaved run
the counter is the number of increments executed since the last successful login, and
the lock is set by the last of them, once there are enough. It ends one lockout duration
later where Postgres computes that instant exactly. Where it is out of range, the increment
that should set the lock fails.

In a sequential run the increments are the logins with a wrong password, so the account
is locked by the one that reaches the maximum, and stays so until the lock has expired.
-/

namespace RustPressAuth

open Atomic Program Machine Relational

/-- The end of the lock after failures at these times, most recent first. -/
def AuthConfig.lockEnd (cfg : AuthConfig) : List Instant → Option Instant
  | [] => none
  | last :: earlier =>
    if cfg.maxLoginAttempts.toInt ≤ earlier.length + 1 then some (last + intervalMicros cfg.lockoutDuration)
    else none

/-- The row accounts for failures at these times, most recent first. -/
structure Accounted (cfg : AuthConfig) (times : List Instant) (row : User) : Prop where
  failures : row.failedLoginAttempts = times.length
  lock : row.lockedUntil = cfg.lockEnd times

/-- A login failed, and the failure of `u` was counted. -/
def countsFailure (u : Uuid) : Entry → Bool
  | ⟨.sql (.incrementFailedAttempts id _ _), .ok _⟩ => id == u
  | _ => false

/-- The failures of `u` were cleared: a login succeeded, or the row of `u` was created. -/
def clearsFailures (u : Uuid) : Entry → Bool
  | ⟨.sql (.recordSuccessfulLogin id _), .ok _⟩ => id == u
  | ⟨.sql (.insertUser _ _ _), .ok (user : User)⟩ => user.id == u
  | _ => false

/-- The times of the failures of `u` since the last successful login, most recent first. -/
def failureTimes (u : Uuid) : List LogEvent → List Instant
  | [] => []
  | e :: older =>
    if countsFailure u e.entry then e.before.now :: failureTimes u older
    else if clearsFailures u e.entry then [] else failureTimes u older

variable {cfg : AuthConfig} {times : List Instant} {row : User} {now : Instant}

/-- There is no lock exactly if there is no failure or too few. -/
theorem lockEnd_eq_none :
    cfg.lockEnd times = none ↔ times = [] ∨ (times.length : ℤ) < cfg.maxLoginAttempts.toInt := by
  cases times with
  | nil => simp [AuthConfig.lockEnd]
  | cons last earlier =>
    simp only [AuthConfig.lockEnd, List.length_cons, reduceCtorEq, false_or, Int.natCast_add, Int.natCast_one]
    split
    · simp only [reduceCtorEq, false_iff]
      omega
    · simp only [true_iff]
      omega

/-- One more failure. -/
theorem Accounted.incremented (h : Accounted cfg times row) :
    Accounted cfg (now :: times) (row.incremented now cfg.maxLoginAttempts cfg.lockoutDuration) := by
  constructor
  · simp [User.incremented, h.failures]
  · have hlock := h.lock
    simp only [User.incremented, AuthConfig.lockEnd, h.failures, ge_iff_le]
    split
    · rfl
    · rename_i hfew
      rw [hlock, lockEnd_eq_none]
      exact Or.inr (by omega)

/-- After a login no failure is accounted for. -/
theorem Accounted.loggedIn (ipAddress : Option String) : Accounted cfg [] (row.loggedIn now ipAddress) := ⟨rfl, rfl⟩

/-- For a new user no failure is accounted for. -/
theorem Accounted.newUser {fresh : Uuid} {email passwordHash name : String} :
    Accounted cfg [] (newUser fresh now email passwordHash name) := ⟨rfl, rfl⟩

/-- Rows with the same two columns account for the same failures. -/
theorem Accounted.congr {row' : User} (h : Accounted cfg times row)
    (hfailures : row'.failedLoginAttempts = row.failedLoginAttempts) (hlock : row'.lockedUntil = row.lockedUntil) :
    Accounted cfg times row' := ⟨hfailures.trans h.failures, hlock.trans h.lock⟩

/-- The statement changes neither column of the row. -/
def Statement.KeepsLockout (s : Statement) (now : Instant) (row : User) : Prop :=
  (s.onUser now row).failedLoginAttempts = row.failedLoginAttempts ∧
    (s.onUser now row).lockedUntil = row.lockedUntil

/-- All statements but two leave both columns of every row alone. -/
theorem Statement.keepsLockout {s : Statement} (hincrement : ∀ m d, s ≠ .incrementFailedAttempts row.id m d)
    (hrecord : ∀ ip, s ≠ .recordSuccessfulLogin row.id ip) : s.KeepsLockout now row := by
  cases s with
  | incrementFailedAttempts id m d =>
    have hid : row.id ≠ id := fun h => hincrement m d (h ▸ rfl)
    simp [KeepsLockout, onUser, hid]
  | recordSuccessfulLogin id ip =>
    have hid : row.id ≠ id := fun h => hrecord ip (h ▸ rfl)
    simp [KeepsLockout, onUser, hid]
  | updatePassword passwordHash id =>
    simp only [KeepsLockout, onUser]
    split <;> exact ⟨rfl, rfl⟩
  | verifyUserEmail id =>
    simp only [KeepsLockout, onUser]
    split <;> exact ⟨rfl, rfl⟩
  | _ => exact ⟨rfl, rfl⟩

section Step

variable {svc : AuthService} {u : Uuid} {w w' : World}

/-- All rows of `u` account for these failures. -/
def AllAccounted (cfg : AuthConfig) (u : Uuid) (times : List Instant) (db : Db) : Prop :=
  ∀ row ∈ db.users, row.id = u → Accounted cfg times row

/-- The failures after an event at a time. -/
def failuresAfter (u : Uuid) (now : Instant) (x : Entry) (times : List Instant) : List Instant :=
  if countsFailure u x then now :: times else if clearsFailures u x then [] else times

/-- Statements that neither count nor clear leave the failures as they are. -/
theorem failuresAfter_eq {x : Entry} (hcounts : countsFailure u x = false) (hclears : clearsFailures u x = false) :
    failuresAfter u now x times = times := by
  simp [failuresAfter, hcounts, hclears]

/-- A statement that ran counts a failure exactly if it is the one that does. -/
theorem countsFailure_executed {s : Statement} {v : s.Row} :
    countsFailure u (executed s v) = true ↔ ∃ m d, s = .incrementFailedAttempts u m d := by
  cases s <;> simp [countsFailure]

/-- A statement that ran, other than an INSERT, clears the failures exactly if it is the one of a login. -/
theorem clearsFailures_executed {s : Statement} {v : s.Row} (hinsert : ∀ e h n, s ≠ .insertUser e h n) :
    clearsFailures u (executed s v) = true ↔ ∃ ip, s = .recordSuccessfulLogin u ip := by
  cases s with
  | insertUser e h n => exact absurd rfl (hinsert e h n)
  | _ => simp [clearsFailures]

/-- A new row of `u` accounts for no failures; another one does not matter. -/
theorem AllAccounted.insert {db db' : Db} {fresh : Uuid} {email passwordHash name : String}
    (h : AllAccounted cfg u times db)
    (hinsert : db.users.insert? (newUser fresh now email passwordHash name) = some db'.users) :
    AllAccounted cfg u (if fresh = u then [] else times) db' := by
  intro row hrow hid
  rcases (Table.mem_insert? hinsert).mp hrow with hold | rfl
  · have hne : row.id ≠ fresh := (Table.insert?_fresh hinsert hold).1
    rw [if_neg (fun heq => hne (hid.trans heq.symm))]
    exact h row hold hid
  · have hu : fresh = u := hid
    rw [if_pos hu]
    exact Accounted.newUser

/-- A statement that does not fail keeps the rows of `u` accounted. -/
theorem AllAccounted.run {s : Statement} {fresh : Uuid} {db db' : Db} {v : s.Row}
    (h : AllAccounted cfg u times db) (hrun : s.run fresh now db = .ok (v, db'))
    (hparams : ∀ id m d, s = .incrementFailedAttempts id m d → m = cfg.maxLoginAttempts ∧ d = cfg.lockoutDuration) :
    AllAccounted cfg u (failuresAfter u now (executed s v) times) db' := by
  by_cases hinsert : ∃ email passwordHash name, s = .insertUser email passwordHash name
  · obtain ⟨email, passwordHash, name, rfl⟩ := hinsert
    obtain ⟨email', hash', name', rfl, hinsert⟩ := insertUser_run hrun
    simpa [failuresAfter, countsFailure, clearsFailures, newUser] using h.insert hinsert
  have hnoInsert : ∀ e p n, s ≠ .insertUser e p n := fun e p n heq => hinsert ⟨e, p, n, heq⟩
  intro row' hrow' hid
  rcases (Statement.run_users hrun).mp hrow' with ⟨row, hrow, rfl⟩ | hnew
  · rw [Statement.onUser_id] at hid
    have hold := h row hrow hid
    subst hid
    by_cases hincrement : ∃ m d, s = .incrementFailedAttempts row.id m d
    · obtain ⟨m, d, rfl⟩ := hincrement
      obtain ⟨rfl, rfl⟩ := hparams _ _ _ rfl
      simpa [failuresAfter, countsFailure, Statement.onUser] using hold.incremented
    have hcounts : countsFailure row.id (executed s v) = false := by
      rw [Bool.eq_false_iff, ne_eq, countsFailure_executed]
      exact hincrement
    by_cases hrecord : ∃ ip, s = .recordSuccessfulLogin row.id ip
    · obtain ⟨ip, rfl⟩ := hrecord
      simpa [failuresAfter, countsFailure, clearsFailures, Statement.onUser] using Accounted.loggedIn _
    have hclears : clearsFailures row.id (executed s v) = false := by
      rw [Bool.eq_false_iff, ne_eq, clearsFailures_executed hnoInsert]
      exact hrecord
    obtain ⟨hfailures, hlock⟩ : s.KeepsLockout now row :=
      Statement.keepsLockout (fun m d heq => hincrement ⟨m, d, heq⟩) (fun ip heq => hrecord ⟨ip, heq⟩)
    rw [failuresAfter_eq hcounts hclears]
    exact hold.congr hfailures hlock
  · cases s with
    | insertUser e p n => exact absurd rfl (hnoInsert e p n)
    | _ => cases hnew

/-- An action keeps the rows of `u` accounted. -/
theorem AllAccounted.perform {a : Action} {r : a.Reply} (h : AllAccounted svc.config u times w.db)
    (hperform : svc.machine.perform a w r w')
    (hparams : ∀ id m d, a = .sql (.incrementFailedAttempts id m d) →
      m = svc.config.maxLoginAttempts ∧ d = svc.config.lockoutDuration) :
    AllAccounted svc.config u (failuresAfter u w.now ⟨a, r⟩ times) w'.db := by
  cases a with
  | sql s =>
    rcases AuthService.perform_sql hperform with ⟨e, rfl, rfl⟩ | ⟨v, fresh, db, rfl, hrun, rfl⟩
    · cases s <;> exact h
    · exact h.run hrun fun id m d heq => hparams id m d (congrArg Action.sql heq)
  | _ =>
    rw [AuthService.perform_local hperform (by simp)]
    exact h

/-- A move of the environment keeps the rows of `u` accounted. -/
theorem AllAccounted.idle (h : AllAccounted cfg u times w.db) (hidle : svc.machine.idle w w') :
    AllAccounted cfg u times w'.db := by
  obtain ⟨m, rfl⟩ := hidle
  cases m with
  | tick elapsed => exact h
  | setStatus id status =>
    intro row' hrow' hid
    have hrow := (Db.mem_updateUser (f := fun user => { user with status := status }) (fun _ => rfl)
      (fun _ => rfl)).mp hrow'
    obtain ⟨row, hrow, rfl⟩ := hrow
    split at hid <;> split <;> exact (h row hrow hid).congr rfl rfl

end Step

section Run

variable {svc : AuthService} {u : Uuid} {w : World} {req : ℕ → Request} {d d' : System}

/-- The increments of a call have the parameters of the configuration. -/
theorem increment_params {r : Request} {h : Trace} {a : Action} (hguard : ActionGuard svc r h a) {id : Uuid}
    {m : Int32} {n : Int64} (ha : a = .sql (.incrementFailedAttempts id m n)) :
    m = svc.config.maxLoginAttempts ∧ n = svc.config.lockoutDuration := by
  subst ha
  obtain ⟨_, _, _, _, _, _, -, -, -, hm, hn, -⟩ := hguard
  exact ⟨hm, hn⟩

/-- The times of the failures after an event are those it makes of the earlier ones. -/
theorem failureTimes_cons (e : LogEvent) (older : List LogEvent) :
    failureTimes u (e :: older) = failuresAfter u e.before.now e.entry (failureTimes u older) := rfl

/-- In every run, the rows of a user whose failures were clear account for its failures. -/
theorem allAccounted_of_run {ok : System → System → Prop} (hclear : AllAccounted svc.config u [] w.db)
    (hrun : svc.machine.Reaches ok (svc.start w req) d) :
    AllAccounted svc.config u (failureTimes u d.log) d.shared.db := by
  have hind : Machine.Inductive svc.machine ok (fun i => svc.protocol (req i))
      (fun c => AllAccounted svc.config u (failureTimes u c.log) c.shared.db) := by
    constructor
    · intro c i a next r s hinv _ hguard _ hperform _
      apply hinv.perform hperform
      intro id m n ha
      exact increment_params hguard ha
    · intro c s hinv hidle _
      exact hinv.idle hidle
  exact hrun.invariant hind start_obeys hclear

end Run

/-- The call is a login to the account of `u` that was refused for its password. -/
def wrongPassword (u : Uuid) (c : CallRecord) : Bool :=
  match c.request with
  | .login r _ _ =>
    c.result = .error (.err .invalidCredentials) && (c.before.db.userByEmail? r.email).any fun user => user.id = u
  | _ => false

/-- The call recorded a successful login of `u`, or registered `u`. -/
def startsAfresh (u : Uuid) (c : CallRecord) : Bool :=
  match c.request, c.result with
  | .register _, .ok (.user user) => user.id = u
  | _, _ => u ∈ loginsRecorded c.trace

/-- The times of the logins with a wrong password since `u` last started afresh, most recent first. -/
def WrongLogins (u : Uuid) : List CallRecord → List Instant → Prop
  | [], times => times = []
  | c :: past, times =>
    if wrongPassword u c then
      ∃ (t : ℕ) (earlier : List Instant), times = (t : ℤ) :: earlier ∧ c.before.During c.after t ∧
      WrongLogins u past earlier
    else if startsAfresh u c then times = [] else WrongLogins u past times

section Serial

variable {svc : AuthService} {faults : Bool} {u : Uuid} {db db' : Db} {w w' : World}

/-- Only the table of users matters. -/
theorem AllAccounted.of_users (h : AllAccounted cfg u times db) (husers : db'.users = db.users) :
    AllAccounted cfg u times db' := by
  intro row hrow hid
  rw [husers] at hrow
  exact h row hrow hid

/-- A change of the row of one user accounts for other failures of that user only. -/
theorem AllAccounted.updateUser {times' : List Instant} {f : User → User} {hid : ∀ row, (f row).id = row.id}
    {hemail : ∀ row, (f row).email = row.email} (h : AllAccounted cfg u times db) (id : Uuid)
    (hf : ∀ row, Accounted cfg times row → Accounted cfg times' (f row)) :
    AllAccounted cfg u (if id = u then times' else times) (db.updateUser id f hid hemail) := by
  intro row' hrow' hu
  obtain ⟨row, hrow, rfl⟩ := (Db.mem_updateUser hid hemail).mp hrow'
  by_cases hrowId : row.id = id
  · rw [if_pos hrowId] at hu ⊢
    rw [hid] at hu
    rw [if_pos (hrowId.symm.trans hu)]
    exact hf row (h row hrow hu)
  · rw [if_neg hrowId] at hu ⊢
    rw [if_neg (fun heq => hrowId (hu.trans heq.symm))]
    exact h row hrow hu

/-- A failure that is counted is accounted for. -/
theorem AllAccounted.countFailure (h : AllAccounted cfg u times db) (id : Uuid) (now : Instant) :
    AllAccounted cfg u (if id = u then now :: times else times) (db.countFailure cfg id now) :=
  h.updateUser id fun _ hrow => hrow.incremented

/-- A login that is recorded is accounted for. -/
theorem AllAccounted.recordLogin (h : AllAccounted cfg u times db) (id : Uuid) (now : Instant)
    (ipAddress : Option String) :
    AllAccounted cfg u (if id = u then [] else times) (db.recordLogin id now ipAddress) :=
  h.updateUser id fun _ _ => Accounted.loggedIn ipAddress

section Records

variable {past : List CallRecord} {c : CallRecord}

/-- What a call does to the times of the wrong logins. -/
def CountsCall (u : Uuid) (c : CallRecord) (times times' : List Instant) : Prop :=
  if wrongPassword u c then ∃ t : ℕ, times' = (t : ℤ) :: times ∧ c.before.During c.after t
  else if startsAfresh u c then times' = [] else times' = times

/-- A call that is neither a wrong login nor a fresh start leaves the failures as they are. -/
theorem CountsCall.same (hwrong : wrongPassword u c = false) (hfresh : startsAfresh u c = false) :
    CountsCall u c times times := by
  simp [CountsCall, hwrong, hfresh]

/-- A call that starts afresh leaves no failures. -/
theorem CountsCall.afresh (hwrong : wrongPassword u c = false) (hfresh : startsAfresh u c = true) :
    CountsCall u c times [] := by
  simp [CountsCall, hwrong, hfresh]

/-- A wrong login adds a failure at a time of the call. -/
theorem CountsCall.wrong {t : ℕ} (hwrong : wrongPassword u c = true) (ht : c.before.During c.after t) :
    CountsCall u c times ((t : ℤ) :: times) := by
  simp only [CountsCall, hwrong, if_true]
  exact ⟨t, rfl, ht⟩

/-- One more call. -/
theorem WrongLogins.call {times' : List Instant} (h : WrongLogins u past times)
    (hcall : CountsCall u c times times') :
    WrongLogins u (c :: past) times' := by
  rw [CountsCall] at hcall
  rw [WrongLogins]
  split at hcall
  · rename_i hwrong
    obtain ⟨t, rfl, ht⟩ := hcall
    rw [if_pos hwrong]
    exact ⟨t, times, rfl, ht, h⟩
  · rename_i hwrong
    rw [if_neg hwrong]
    split at hcall
    · rename_i hfresh
      rw [if_pos hfresh]
      exact hcall
    · rename_i hfresh
      rw [if_neg hfresh, hcall]
      exact h

/-- After the call the rows of `u` account for what the call did to the times. -/
def AccountsCall (svc : AuthService) (u : Uuid) (c : CallRecord) (times : List Instant) : Prop :=
  ∃ times', CountsCall u c times times' ∧ AllAccounted svc.config u times' c.after.db

/-- A call that leaves the users as they are and is neither kind of login. -/
theorem AccountsCall.same (h : AllAccounted svc.config u times c.before.db) (hwrong : wrongPassword u c = false)
    (hfresh : startsAfresh u c = false) (hdb : c.after.db = c.before.db) : AccountsCall svc u c times :=
  ⟨times, .same hwrong hfresh, h.of_users (by rw [hdb])⟩

/-- A call that recorded the login of a user. -/
theorem AccountsCall.recorded {id : Uuid} {now : Instant} {ipAddress : Option String}
    (h : AllAccounted svc.config u times c.before.db) (hwrong : wrongPassword u c = false)
    (hfresh : startsAfresh u c = decide (u = id))
    (husers : c.after.db.users = (c.before.db.recordLogin id now ipAddress).users) :
    AccountsCall svc u c times := by
  have hrecorded := (h.recordLogin id now ipAddress).of_users husers
  by_cases hid : id = u
  · rw [if_pos hid] at hrecorded
    exact ⟨[], .afresh hwrong (by simp [hfresh, hid]), hrecorded⟩
  · rw [if_neg hid] at hrecorded
    exact ⟨times, .same hwrong (by simp [hfresh, Ne.symm hid]), hrecorded⟩

/-- A login leaves the rows of `u` accounted. -/
theorem AccountsCall.login {r : LoginRequest} {ipAddress userAgent : Option String} {tr : Trace}
    {res : Except Failure AuthResponse} (h : AllAccounted svc.config u times w.db)
    (houtcome : LoginOutcome svc faults r w tr res w') :
    AccountsCall svc u ⟨.login r ipAddress userAgent, w, tr, res.map .session, w'⟩ times := by
  cases houtcome with
  | unanswered hfaults htr hdb =>
    apply AccountsCall.same h _ _ hdb
    · simp [wrongPassword, Except.map]
    · simp [startsAfresh, htr]
  | unknown hnone htr hdb =>
    apply AccountsCall.same h _ _ hdb
    · simp [wrongPassword, hnone]
    · simp [startsAfresh, htr]
  | locked huser ht hlocked htr hdb =>
    apply AccountsCall.same h _ _ hdb
    · simp [wrongPassword, Except.map]
    · simp [startsAfresh, htr]
  | refused huser ht hunlocked he htr hdb =>
    apply AccountsCall.same h _ _ hdb
    · simp [wrongPassword, Except.map, he]
    · simp [startsAfresh, htr]
  | @wrong _ user t t₁ huser ht hunlocked hwrong htr ht₁ hdb =>
    have hcounted := h.countFailure user.id t₁
    rw [← hdb] at hcounted
    by_cases hid : user.id = u
    · rw [if_pos hid] at hcounted
      refine ⟨_, .wrong ?_ ht₁, hcounted⟩
      simp [wrongPassword, Except.map, huser, hid]
    · rw [if_neg hid] at hcounted
      refine ⟨times, .same ?_ ?_, hcounted⟩
      · simp [wrongPassword, huser, hid]
      · simp [startsAfresh, htr]
  | interrupted _ _ _ _ htr hdb | panicked _ _ _ _ htr _ _ hdb =>
    apply AccountsCall.recorded h _ _ (by rw [hdb])
    · simp [wrongPassword, Except.map]
    · simp [startsAfresh, htr]
  | done huser ht hunlocked _ _ _ htr hstores =>
    obtain ⟨tokenId, issuedAt, now, bytes, ip', ua', -, hinsert⟩ := hstores
    apply AccountsCall.recorded h _ _ (Db.insertRefreshToken?_spec hinsert).1
    · simp [wrongPassword, Except.map]
    · simp [startsAfresh, htr]

/-- A registration leaves the rows of `u` accounted. -/
theorem AccountsCall.register {r : RegisterRequest} {tr : Trace} {res : Except Failure User}
    (h : AllAccounted svc.config u times w.db) (houtcome : RegisterOutcome svc r w res w')
    (htr : loginsRecorded tr = []) :
    AccountsCall svc u ⟨.register r, w, tr, res.map .user, w'⟩ times := by
  cases houtcome with
  | refused hdb =>
    refine ⟨times, .same rfl ?_, h.of_users (by rw [hdb])⟩
    simp [startsAfresh, Except.map, htr]
  | @created user _ fresh t email passwordHash name hnew _ hinsert =>
    subst hnew
    have hinserted := h.insert (Db.insertUser?_spec hinsert).1
    by_cases hid : fresh = u
    · rw [if_pos hid] at hinserted
      refine ⟨[], .afresh rfl ?_, hinserted⟩
      simp [startsAfresh, Except.map, newUser, hid]
    · rw [if_neg hid] at hinserted
      refine ⟨times, .same rfl ?_, hinserted⟩
      simp [startsAfresh, Except.map, newUser, hid]

/-- Only logins record logins. -/
theorem loginsRecorded_of_exec {request : Request} {tr : Trace} {res : Except Failure Response}
    (hlogin : ∀ r ip ua, request ≠ .login r ip ua) (h : (svc.alone faults).Exec (svc.serve request) w tr res w') :
    loginsRecorded tr = [] := by
  rw [loginsRecorded, List.filterMap_eq_nil_iff]
  intro x hx
  obtain ⟨past, hguard⟩ := h.guard_of_mem (svc.serve_obeys request) hx
  split
  · obtain ⟨r, ua, user, now, hrequest, -, -⟩ := hguard
    exact absurd hrequest (hlogin r _ ua)
  · rfl

/-- The actions of other calls neither count nor clear failures. -/
theorem failuresAfter_of_guard {request : Request} {h : Trace} {a : Action} {r : a.Reply}
    (hlogin : ∀ r ip ua, request ≠ .login r ip ua) (hregister : ∀ r, request ≠ .register r)
    (hguard : ActionGuard svc request h a) : failuresAfter u now ⟨a, r⟩ times = times := by
  cases a with
  | sql s =>
    cases s with
    | incrementFailedAttempts id m d =>
      obtain ⟨r, ip, ua, _, _, _, hrequest, -⟩ := hguard
      exact absurd hrequest (hlogin r ip ua)
    | recordSuccessfulLogin id ip =>
      obtain ⟨r, ua, user, now, hrequest, -, -⟩ := hguard
      exact absurd hrequest (hlogin r ip ua)
    | insertUser email passwordHash name =>
      obtain ⟨r, _, hrequest, -⟩ := hguard
      exact absurd hrequest (hregister r)
    | _ => rfl
  | _ => rfl

/-- Every other call leaves the rows of `u` accounted as they were. -/
theorem AccountsCall.other {request : Request} {tr : Trace} {res : Except Failure Response}
    (h : AllAccounted svc.config u times w.db) (hlogin : ∀ r ip ua, request ≠ .login r ip ua)
    (hregister : ∀ r, request ≠ .register r) (hexec : (svc.alone faults).Exec (svc.serve request) w tr res w') :
    AccountsCall svc u ⟨request, w, tr, res, w'⟩ times := by
  have hrecorded := loginsRecorded_of_exec hlogin hexec
  refine ⟨times, .same ?_ ?_, ?_⟩
  · cases request with
    | login r ip ua => exact absurd rfl (hlogin r ip ua)
    | _ => rfl
  · cases request with
    | register r => exact absurd rfl (hregister r)
    | _ => simp [startsAfresh, hrecorded]
  · have hperform (h : Trace) (a : Action) (r : a.Reply) (v v' : World) (hguard : (svc.protocol request).guard h a)
        (hact : (svc.alone faults).perform a v r v') (hv : AllAccounted svc.config u times v.db) :
        AllAccounted svc.config u times v'.db := by
      have hafter := hv.perform hact.1 fun id m d ha => increment_params hguard ha
      rw [failuresAfter_of_guard hlogin hregister hguard] at hafter
      exact hafter
    have hidle (v v' : World) (hmove : (svc.alone faults).idle v v') (hv : AllAccounted svc.config u times v.db) :
        AllAccounted svc.config u times v'.db := by
      obtain ⟨elapsed, rfl⟩ := hmove
      exact hv
    exact Exec.invariant (M := svc.alone faults) hperform hidle hexec (svc.serve_obeys request) h

/-- Every call leaves the rows of `u` accounted. -/
theorem accountsCall_of_exec {request : Request} {tr : Trace} {res : Except Failure Response}
    (h : AllAccounted svc.config u times w.db) (hexec : (svc.alone faults).Exec (svc.serve request) w tr res w') :
    AccountsCall svc u ⟨request, w, tr, res, w'⟩ times := by
  cases request with
  | login r ip ua =>
    obtain ⟨res, hlogin, rfl⟩ := alone_answer hexec
    exact .login h (login_outcome hlogin)
  | register r =>
    have hrecorded := loginsRecorded_of_exec (by simp) hexec
    obtain ⟨res, hregister, rfl⟩ := alone_answer hexec
    exact .register h (register_outcome hregister) hrecorded
  | _ => exact .other h (by simp) (by simp) hexec

/-- In every sequential run from where the failures of `u` are clear, its rows account for the
wrong logins. -/
theorem accounted_of_serial {past : List CallRecord} {first : World}
    (hclear : AllAccounted svc.config u [] first.db) (hrun : (svc.alone faults).Serial svc.serve first past w) :
    ∃ times, WrongLogins u past times ∧ AllAccounted svc.config u times w.db := by
  induction hrun with
  | start => exact ⟨[], rfl, hclear⟩
  | call hpast hexec ih =>
    obtain ⟨times, hwrong, haccounted⟩ := ih
    obtain ⟨times', hcall, hafter⟩ := accountsCall_of_exec haccounted hexec
    exact ⟨times', hwrong.call hcall, hafter⟩

/-- While the lock of an account has not expired, a login to it is refused and changes nothing. -/
theorem login_while_locked {r : LoginRequest} {ipAddress userAgent : Option String} {tr : Trace}
    {res : Except Failure AuthResponse} {user : User} {lockedUntil : Instant}
    (hexec : (svc.alone faults).Exec (svc.login r ipAddress userAgent) w tr res w')
    (huser : w.db.userByEmail? r.email = some user) (hlock : user.lockedUntil = some lockedUntil)
    (hearly : w'.now < lockedUntil) :
    (res = .error (.err .accountLocked) ∨ faults = true ∧ ∃ e, res = .error (.err (.database e))) ∧
    w'.db = w.db := by
  have hlocked (t : ℕ) (ht : w.During w' t) : user.isLocked t = true := by
    have hbefore : (t : ℤ) ≤ w'.now := Int.ofNat_le.mpr ht.2
    simp only [User.isLocked, hlock, gt_iff_lt, decide_eq_true_eq]
    exact Int.lt_of_le_of_lt hbefore hearly
  cases login_outcome hexec with
  | unanswered hfaults htr hdb => exact ⟨Or.inr ⟨hfaults, _, rfl⟩, hdb⟩
  | unknown hnone =>
    rw [hnone] at huser
    cases huser
  | locked _ _ _ _ hdb => exact ⟨Or.inl rfl, hdb⟩
  | refused hfound ht hunlocked | wrong hfound ht hunlocked | interrupted _ hfound ht hunlocked
  | panicked hfound ht hunlocked | done hfound ht hunlocked =>
    obtain rfl := Option.some.inj (huser.symm.trans hfound)
    rw [hlocked _ ht] at hunlocked
    cases hunlocked

end Records

end Serial

/-- A lock that is set at this time ends exactly when configured: the end is in the range of Postgres, and the
duration in microseconds is exact in double precision. -/
structure AuthConfig.LocksExactly (cfg : AuthConfig) (now : Instant) : Prop where
  ends : LockEnds now cfg.lockoutDuration
  exact : intervalMicros cfg.lockoutDuration = seconds cfg.lockoutDuration

instance (cfg : AuthConfig) (now : Instant) : Decidable (cfg.LocksExactly now) :=
  decidable_of_iff (LockEnds now cfg.lockoutDuration ∧
    intervalMicros cfg.lockoutDuration = seconds cfg.lockoutDuration)
    ⟨fun h => ⟨h.1, h.2⟩, fun h => ⟨h.ends, h.exact⟩⟩

/-- A lock of at most 285 years ends exactly when configured, unless it ends after the last year of Postgres. -/
theorem AuthConfig.locksExactly_of_short {cfg : AuthConfig} {now : Instant}
    (hpositive : 0 ≤ cfg.lockoutDuration.toInt) (hshort : cfg.lockoutDuration.toInt ≤ 9007199254) (hnow : (0 : ℤ) ≤ now)
    (hends : now + seconds cfg.lockoutDuration < yearStart 294277) : cfg.LocksExactly now := by
  have hexact : intervalMicros cfg.lockoutDuration = cfg.lockoutDuration.toInt * 1000000 :=
    intervalMicros_exact hpositive hshort
  have hseconds : seconds cfg.lockoutDuration = cfg.lockoutDuration.toInt * 1000000 := rfl
  have hlow : (-210866803200000000 : ℤ) ≤ now + intervalMicros cfg.lockoutDuration :=
    Int.le_trans (by decide) (Int.add_nonneg hnow (by omega))
  exact ⟨⟨⟨by omega, by omega⟩, hlow, by rw [hexact, ← hseconds]; exact hends⟩, hexact⟩

/-- One more failure of the row at this time would set a lock only if it ends exactly when configured. -/
def AuthConfig.LocksInTime (cfg : AuthConfig) (now : Instant) (row : User) : Prop :=
  cfg.maxLoginAttempts.toInt ≤ row.failedLoginAttempts + 1 → cfg.LocksExactly now

instance (cfg : AuthConfig) (now : Instant) (row : User) : Decidable (cfg.LocksInTime now row) :=
  inferInstanceAs (Decidable (_ → _))

/-- The action is the statement that counts a failure of `u`, with any reply. -/
def triesToCount (u : Uuid) : Entry → Bool
  | ⟨.sql (.incrementFailedAttempts id _ _), _⟩ => id == u
  | _ => false

/-- Whenever the statement that counts a failure of `u` would set the lock, the lock ends exactly when
configured. -/
def locksInTime (cfg : AuthConfig) (u : Uuid) : Rule ℕ Action Action.Reply Failure Response World :=
  .ofEvent fun c e => triesToCount u e.entry = true →
    ∀ row ∈ c.shared.db.users.rows, row.id = u → cfg.LocksInTime c.shared.now row

/-- Throughout the call, if it is a login to the account of `u`, a failure would set the lock only if it ends
exactly when configured. -/
def LoginLocksInTime (cfg : AuthConfig) (u : Uuid) (c : CallRecord) : Prop :=
  match c.request with
  | .login r _ _ => ∀ row, c.before.db.userByEmail? r.email = some row → row.id = u →
      ∀ t : ℕ, c.before.During c.after t → cfg.LocksInTime t row
  | _ => True

/-- The times are too few for a lock, or a lock has exactly the configured duration. -/
def AuthConfig.FewOrExact (cfg : AuthConfig) (times : List Instant) : Prop :=
  times = [] ∨ (times.length : ℤ) < cfg.maxLoginAttempts.toInt ∨
    intervalMicros cfg.lockoutDuration = seconds cfg.lockoutDuration

/-- One more failure of an accounted row leaves few failures, or sets the lock exactly. -/
theorem Accounted.fewOrExact (h : Accounted cfg times row) {t : Instant} (hlocks : cfg.LocksInTime t row) :
    cfg.FewOrExact (now :: times) := by
  by_cases hmany : cfg.maxLoginAttempts.toInt ≤ row.failedLoginAttempts + 1
  · exact Or.inr (Or.inr (hlocks hmany).exact)
  · rw [h.failures] at hmany
    exact Or.inr (Or.inl (by rw [List.length_cons]; omega))

section Exact

variable {svc : AuthService} {u : Uuid} {w w' : World} {req : ℕ → Request} {d : System}

/-- A row of `u` was there before the action, or the action created it. -/
theorem exists_user_before {a : Action} {r : a.Reply} (hperform : svc.machine.perform a w r w')
    (hclears : clearsFailures u ⟨a, r⟩ = false) (hrow : row ∈ w'.db.users) (hid : row.id = u) :
    ∃ row' ∈ w.db.users, row'.id = u := by
  cases a with
  | sql s =>
    rcases AuthService.perform_sql hperform with ⟨e, -, rfl⟩ | ⟨v, fresh, db, rfl, hrun, rfl⟩
    · exact ⟨row, hrow, hid⟩
    · rcases (Statement.run_users hrun).mp hrow with ⟨row', hrow', rfl⟩ | hnew
      · exact ⟨row', hrow', (Statement.onUser_id _ s row').symm.trans hid⟩
      · cases s with
        | insertUser email passwordHash name =>
          obtain ⟨email', hash', name', rfl, -⟩ := insertUser_run hrun
          cases hnew
          simp only [clearsFailures, newUser, beq_eq_false_iff_ne] at hclears hid
          exact absurd hid hclears
        | _ => cases hnew
  | _ =>
    rw [AuthService.perform_local hperform (by simp)] at hrow
    exact ⟨row, hrow, hid⟩

/-- An action that counts a failure is the statement, and clears none. -/
theorem triesToCount_of_counts {x : Entry} (h : countsFailure u x = true) :
    triesToCount u x = true ∧ clearsFailures u x = false := by
  unfold countsFailure at h
  split at h
  · exact ⟨h, rfl⟩
  · cases h

/-- In every run that keeps the rule, the failures are too few for a lock, or a lock has exactly the configured
duration. -/
theorem fewOrExact_of_run (hclear : AllAccounted svc.config u [] w.db)
    (hrun : svc.machine.Reaches (locksInTime svc.config u).Keeps (svc.start w req) d)
    (hrow : row ∈ d.shared.db.users) (hid : row.id = u) : svc.config.FewOrExact (failureTimes u d.log) := by
  induction hrun generalizing row with
  | refl => exact Or.inl rfl
  | @tail c d hrun hlast ih =>
    obtain ⟨hstep, hkeeps⟩ := hlast
    cases hstep with
    | idle hidle =>
      obtain ⟨m, rfl⟩ := hidle
      cases m with
      | tick elapsed => exact ih hrow hid
      | setStatus id status =>
        obtain ⟨row', hrow', rfl⟩ :=
          (Db.mem_updateUser (f := fun user => { user with status := status }) (fun _ => rfl)
          (fun _ => rfl)).mp hrow
        split at hid <;> exact ih hrow' hid
    | @call i a next r s hcall hperform =>
      rw [Config.advance, failureTimes_cons]
      by_cases hcounts : countsFailure u ⟨a, r⟩ = true
      · obtain ⟨htries, hnot⟩ := triesToCount_of_counts hcounts
        obtain ⟨row', hrow', hid'⟩ := exists_user_before hperform hnot hrow hid
        have hlocks := (hkeeps.event _ rfl) htries row' hrow' hid'
        have haccounted := allAccounted_of_run hclear hrun row' hrow' hid'
        rw [failuresAfter, Event.entry, if_pos hcounts]
        exact haccounted.fewOrExact hlocks
      rw [Bool.not_eq_true] at hcounts
      by_cases hclears : clearsFailures u ⟨a, r⟩ = true
      · rw [failuresAfter, Event.entry, hcounts, if_neg Bool.false_ne_true, if_pos hclears]
        exact Or.inl rfl
      · rw [Bool.not_eq_true] at hclears
        obtain ⟨row', hrow', hid'⟩ := exists_user_before hperform hclears hrow hid
        rw [Event.entry, failuresAfter_eq hcounts hclears]
        exact ih hrow' hid'

/-- In every sequential run whose logins lock in time, the rows of `u` account for the wrong logins, which are too
few for a lock, or a lock has exactly the configured duration. -/
theorem exact_of_serial {faults : Bool} {past : List CallRecord} {first : World}
    (hclear : AllAccounted svc.config u [] first.db) (hrun : (svc.alone faults).Serial svc.serve first past w)
    (hlocks : ∀ c ∈ past, LoginLocksInTime svc.config u c) :
    ∃ times, WrongLogins u past times ∧ AllAccounted svc.config u times w.db ∧ svc.config.FewOrExact times := by
  induction hrun with
  | start => exact ⟨[], rfl, hclear, Or.inl rfl⟩
  | @call past v w' request tr res hpast hexec ih =>
    obtain ⟨times, hwrong, haccounted, hexact⟩ := ih fun c hc => hlocks c (List.mem_cons_of_mem _ hc)
    obtain ⟨times', hcall, hafter⟩ := accountsCall_of_exec haccounted hexec
    refine ⟨times', hwrong.call hcall, hafter, ?_⟩
    have hthis := hlocks _ List.mem_cons_self
    rw [CountsCall] at hcall
    split at hcall
    · rename_i hrefused
      obtain ⟨t, rfl, ht⟩ := hcall
      cases request with
      | login r ip ua =>
        obtain ⟨-, hany⟩ := Bool.and_eq_true_iff.mp hrefused
        obtain ⟨row, hread, hid⟩ := (Option.any_eq_true _ _).mp hany
        have hid := of_decide_eq_true hid
        exact (haccounted row (Table.find?_some hread).1 hid).fewOrExact (hthis row hread hid t ht)
      | _ => cases hrefused
    · split at hcall
      · exact Or.inl hcall
      · rw [hcall]
        exact hexact

end Exact

/-- The two columns of the row are determined by the failures at these times, most recent first. -/
structure DeterminesLockout (cfg : AuthConfig) (times : List Instant) (row : User) : Prop where
  failures : row.failedLoginAttempts = times.length
  unlocked : row.lockedUntil = none ↔ times = [] ∨ (times.length : ℤ) < cfg.maxLoginAttempts.toInt
  locked : ∀ last earlier, times = last :: earlier → cfg.maxLoginAttempts.toInt ≤ times.length →
    row.lockedUntil = some (last + seconds cfg.lockoutDuration)

/-- An accounted row is determined by its failures, where they are too few for a lock or a lock is exact. -/
theorem Accounted.determines (h : Accounted cfg times row) (hexact : cfg.FewOrExact times) :
    DeterminesLockout cfg times row where
  failures := h.failures
  unlocked := by rw [h.lock, lockEnd_eq_none]
  locked last earlier htimes hmany := by
    obtain hempty | hfew | hexact := hexact
    · rw [hempty] at htimes
      cases htimes
    · omega
    · subst htimes
      simp only [List.length_cons, Int.natCast_add, Int.natCast_one] at hmany
      rw [h.lock, AuthConfig.lockEnd, if_pos hmany, hexact]

/-- No failure of the row is lost: below the largest INTEGER, the statement that counts one more runs without
an error whenever the lock it would set ends exactly when configured, and the row is as one more failure
determines it. -/
def CountsNext (cfg : AuthConfig) (times : List Instant) (db : Db) (row : User) : Prop :=
  row.failedLoginAttempts < integerMax → ∀ now, cfg.LocksInTime now row → ∀ fresh, ∃ n db',
    (Statement.incrementFailedAttempts row.id cfg.maxLoginAttempts cfg.lockoutDuration).run fresh now db =
    .ok (n, db') ∧
      ∃ row' ∈ db'.users, row'.id = row.id ∧ DeterminesLockout cfg (now :: times) row'

/-- The statement that counts a failure runs on a row whose counter is not full and whose lock ends in range. -/
theorem incrementFault?_eq_none {maxLoginAttempts : Int32} {lockoutDuration : Int64}
    (hroom : row.failedLoginAttempts < integerMax)
    (hends : maxLoginAttempts.toInt ≤ row.failedLoginAttempts + 1 → LockEnds now lockoutDuration) :
    row.incrementFault? now maxLoginAttempts lockoutDuration = none := by
  rw [User.incrementFault?, if_neg (by omega)]
  split
  · rename_i hmany
    rw [lockEndAfter_eq_ok.mpr ⟨hends hmany, rfl⟩]
  · rfl

/-- From an accounted row the next failure is counted. -/
theorem Accounted.countsNext {db : Db} (h : Accounted cfg times row) (hrow : row ∈ db.users) :
    CountsNext cfg times db row := by
  intro hroom now hlocks fresh
  have hfind : db.user? row.id = some row :=
    Table.find?_eq_some_of_only hrow (by simp) fun q hq hid => Table.eq_of_pk hq hrow (of_decide_eq_true hid)
  have hfault := incrementFault?_eq_none hroom fun hmany =>
    (hlocks hmany).ends
  refine ⟨db.userCount row.id, db.countFailure cfg row.id now, ?_,
    row.incremented now cfg.maxLoginAttempts cfg.lockoutDuration, ?_, rfl,
    h.incremented.determines (h.fewOrExact hlocks)⟩
  · rw [Statement.run, hfind, Option.bind_some, hfault]
    rfl
  · exact (Db.mem_updateUser (f := User.incremented now cfg.maxLoginAttempts cfg.lockoutDuration) (fun _ => rfl)
      (fun _ => rfl)).mpr ⟨row, hrow, if_pos rfl⟩

/-- The step leaves both columns of the row of `u` as they are. -/
def KeepsColumns (u : Uuid) (db db' : Db) : Prop :=
  ∀ row ∈ db.users, row.id = u → ∃ row' ∈ db'.users, row'.id = u ∧
    row'.failedLoginAttempts = row.failedLoginAttempts ∧ row'.lockedUntil = row.lockedUntil

/-- A step that neither counts nor clears failures of `u` leaves its columns as they are. -/
theorem keepsColumns_of_step {svc : AuthService} {u : Uuid} {w : World} {req : ℕ → Request} {d d' : System}
    (hclear : AllAccounted svc.config u [] w.db)
    (hrun : svc.machine.Reaches (fun _ _ => True) (svc.start w req) d) (hstep : svc.machine.Step d d')
    (hquiet : ∀ e, d'.log = e :: d.log → countsFailure u e.entry = false ∧ clearsFailures u e.entry = false) :
    KeepsColumns u d.shared.db d'.shared.db := by
  intro row hrow hid
  have hrun' : svc.machine.Reaches (fun _ _ => True) (svc.start w req) d' := hrun.tail ⟨hstep, trivial⟩
  have hbefore := allAccounted_of_run hclear hrun row hrow hid
  obtain ⟨row', hrow', hlater⟩ := (Reaches.monotone svc.machine_monotone
    (Relation.ReflTransGen.single ⟨hstep, trivial⟩ : svc.machine.Reaches (fun _ _ => True) d d')).db.users row hrow
  have hid' : row'.id = u := hlater.id.trans hid
  have hafter := allAccounted_of_run hclear hrun' row' hrow' hid'
  have htimes : failureTimes u d'.log = failureTimes u d.log := by
    cases hstep with
    | idle hidle => rfl
    | call hcall hperform =>
      obtain ⟨hcounts, hclears⟩ := hquiet _ rfl
      rw [Config.advance, failureTimes_cons, failuresAfter_eq hcounts hclears]
  rw [htimes] at hafter
  exact ⟨row', hrow', hid', hafter.failures.trans hbefore.failures.symm, hafter.lock.trans hbefore.lock.symm⟩

section Runs

open Reference

/-- A user registers and five times gives a wrong password, most recent call first. -/
def fiveWrongLogins : List (Request × List Choice) :=
  List.replicate 5 (.login ⟨"a@b.c", "wrong"⟩ none none, List.replicate 4 (choice 2)) ++
    [(.register ⟨"a@b.c", "Abcdefg1", "Abcdefg1", "A"⟩, List.replicate 3 (choice 1))]

/-- The user with id 1 is locked, and all logins took no time, at the epoch. -/
def isLockedOut (past : List CallRecord) (w : World) : Bool :=
  (w.db.users.rows.any fun row => row.id = 1 && row.lockedUntil.isSome) && past.all fun c => c.after.clock = 0

/-- The service with another duration of locks. -/
def lockingFor (lockoutDuration : Int64) : AuthService :=
  ⟨{ config with lockoutDuration := lockoutDuration }, primitives⟩

/-- The requests of the run as calls of the interleaved system: the registration, then the logins. -/
def wrongLoginRequests : ℕ → Request
  | 0 => .register ⟨"a@b.c", "Abcdefg1", "Abcdefg1", "A"⟩
  | _ => .login ⟨"a@b.c", "wrong"⟩ none none

/-- The state after the registration and five logins with a wrong password, one after the other, at the epoch. -/
def afterFiveWrong (lockoutDuration : Int64) : System :=
  (lockingFor lockoutDuration).executor.play
    (moves 0 3 1 ++ moves 1 4 2 ++ moves 2 4 2 ++ moves 3 4 2 ++ moves 4 4 2 ++ moves 5 4 2)
    ((lockingFor lockoutDuration).start world wrongLoginRequests)

end Runs

end RustPressAuth
