import RustPressAuth.Atomic.Sequential
import RustPressAuth.CallProtocol
import RustPressAuth.Effects

/-!
# Calls that run alone

The machine for sequential runs: between the actions of a call only time passes, and
statements fail only where that is admitted. One lemma for each kind of action says how
a run goes on after it, with the clock at the time it was performed.
-/

namespace RustPressAuth

open Atomic Program Machine

/-- The reply is the error of a statement. -/
def Action.failed : (a : Action) → a.Reply → Bool
  | .sql _, .error _ => true
  | _, _ => false

/-- The instant lies within the call. -/
def World.During (w w' : World) (t : ℕ) : Prop := w.clock ≤ t ∧ t ≤ w'.clock

/-- A call of a sequential run. -/
abbrev CallRecord := Machine.Record Request Action Action.Reply Failure Response World

namespace AuthService

variable (svc : AuthService)

/-- One call at a time; statements fail only where `faults` admits it. -/
def alone (faults : Bool) : Machine Action Action.Reply World where
  perform a w r w' := svc.machine.perform a w r w' ∧ (a.failed r = true → faults = true)
  idle w w' := ∃ elapsed, w' = { w with clock := w.clock + elapsed }

/-- One call at a time; no statement fails. -/
abbrev smooth : Machine Action Action.Reply World := svc.alone false

/-- A failed statement is admitted only with faults. -/
def admits (faults : Bool) (a : Action) (r : a.Reply) : Bool := !a.failed r || faults

/-- An admitted action of the machine is one of the machine for calls that run alone. -/
theorem alone_perform {faults : Bool} (a : Action) (w : World) (r : a.Reply) (w' : World)
    (h : svc.machine.perform a w r w') (hadmitted : admits faults a r = true) :
    (svc.alone faults).perform a w r w' := by
  refine ⟨h, fun hfailed => ?_⟩
  simpa [admits, hfailed] using hadmitted

end AuthService

variable {svc : AuthService} {faults : Bool} {α β : Type} {w w' : World} {tr : Trace} {res : Except Failure β}

/-- While a call waits, only the clock moves on. -/
theorem alone_waits : (svc.alone faults).Waits w w' ↔ w'.db = w.db ∧ w.clock ≤ w'.clock := by
  constructor
  · intro h
    induction h with
    | refl => exact ⟨rfl, Nat.le_refl _⟩
    | tail _ hidle ih =>
      obtain ⟨elapsed, rfl⟩ := hidle
      exact ⟨ih.1, Nat.le_trans ih.2 (Nat.le_add_right _ _)⟩
  · rintro ⟨hdb, hclock⟩
    refine .single ⟨w'.clock - w.clock, ?_⟩
    obtain ⟨db, clock⟩ := w'
    simp only at hdb hclock ⊢
    rw [hdb, Nat.add_sub_cancel' hclock]

/-- Rows persist and the clock does not go back, while calls run alone. -/
theorem AuthService.alone_monotone (svc : AuthService) (faults : Bool) :
    (svc.alone faults).Monotone World.Precedes :=
  { svc.machine_monotone with
    perform := fun a w r w' hperform => svc.machine_monotone.perform a w r w' hperform.1
    idle := by
      rintro w w' ⟨elapsed, rfl⟩
      exact ⟨Db.Evolves.refl _, Nat.le_add_right _ _⟩ }

/-- A call that runs alone goes on from the world it starts in. -/
theorem alone_precedes {p : AuthM β} (h : (svc.alone faults).Exec p w tr res w') : w.Precedes w' :=
  h.monotone (svc.alone_monotone faults)

/-- A sequential run is a run of the interleaved system, with the same calls, results and last world. -/
theorem serial_reaches {past : List CallRecord} (h : (svc.alone faults).Serial svc.serve w past w')
    (req : ℕ → Request) (hreq : ∀ i c, past.reverse[i]? = some c → req i = c.request) :
    ∃ d, svc.machine.Reaches (fun _ _ => True) (svc.start w req) d ∧ d.shared = w' ∧
      ∀ i c, past.reverse[i]? = some c → d.calls i = .done c.result := by
  have hperform (a : Action) (v : World) (r : a.Reply) (v' : World) (hact : (svc.alone faults).perform a v r v') :
      svc.machine.perform a v r v' := hact.1
  have hidle (v v' : World) (hmove : (svc.alone faults).idle v v') : svc.machine.idle v v' := by
    obtain ⟨elapsed, rfl⟩ := hmove
    exact ⟨.tick elapsed, rfl⟩
  obtain ⟨d, hrun, hshared, hdone, -⟩ := (h.mono hperform hidle).reaches req hreq
  exact ⟨d, hrun, hshared, hdone⟩

/-- A computation that has ended only waits. -/
theorem alone_ok {v : β} (h : (svc.alone faults).Exec (pure v) w tr res w') :
    res = .ok v ∧ w'.db = w.db ∧ tr = [] := by
  obtain ⟨hwaits, htr, hres⟩ := exec_done.mp h
  exact ⟨hres, (alone_waits.mp hwaits).1, htr⟩

/-- A failure ends the call and changes nothing. -/
theorem alone_fail {e : Failure} (h : (svc.alone faults).Exec (fail e : AuthM β) w tr res w') :
    res = .error e ∧ w'.db = w.db ∧ tr = [] := by
  obtain ⟨hwaits, htr, hres⟩ := exec_done.mp h
  exact ⟨hres, (alone_waits.mp hwaits).1, htr⟩

/-- After an action that is no statement the database is as before. -/
theorem alone_act {a : Action} {next : a.Reply → AuthM β} (h : (svc.alone faults).Exec (.act a next) w tr res w')
    (hlocal : ∀ s, a ≠ .sql s) : ∃ (t : ℕ) (choice : Choice) (tr' : Trace), w.clock ≤ t ∧
      tr = ⟨a, (svc.exec ⟨w.db, t⟩ choice a).1⟩ :: tr' ∧
      (svc.alone faults).Exec (next (svc.exec ⟨w.db, t⟩ choice a).1) ⟨w.db, t⟩ tr' res w' := by
  obtain ⟨⟨db, t⟩, r, w₁, tr', hwaits, ⟨hperform, -⟩, hrest, rfl⟩ := exec_act.mp h
  obtain ⟨rfl, hclock⟩ := alone_waits.mp hwaits
  have hw := AuthService.perform_local hperform hlocal
  obtain ⟨choice, hexec⟩ := hperform
  subst hw
  refine ⟨t, choice, tr', hclock, ?_⟩
  rw [hexec]
  exact ⟨rfl, hrest⟩

/-- The clock is read, at some time from then on. -/
theorem alone_now {f : Instant → AuthM β} (h : (svc.alone faults).Exec (utcNow >>= f) w tr res w') :
    ∃ (t : ℕ) (tr' : Trace), w.clock ≤ t ∧ tr = did .now (t : ℤ) :: tr' ∧
      (svc.alone faults).Exec (f t) ⟨w.db, t⟩ tr' res w' := by
  obtain ⟨t, choice, tr', hclock, htr, hrest⟩ := alone_act h (by simp)
  exact ⟨t, tr', hclock, htr, hrest⟩

/-- An id is drawn. -/
theorem alone_uuid {f : Uuid → AuthM β} (h : (svc.alone faults).Exec (newUuid >>= f) w tr res w') :
    ∃ (t : ℕ) (id : Uuid) (tr' : Trace), w.clock ≤ t ∧ tr = did .uuid id :: tr' ∧
      (svc.alone faults).Exec (f id) ⟨w.db, t⟩ tr' res w' := by
  obtain ⟨t, choice, tr', hclock, htr, hrest⟩ := alone_act h (by simp)
  exact ⟨t, choice.uuid, tr', hclock, htr, hrest⟩

/-- Random bytes are drawn. -/
theorem alone_bytes {f : Vector UInt8 32 → AuthM β} (h : (svc.alone faults).Exec (randomBytes >>= f) w tr res w') :
    ∃ (t : ℕ) (bytes : Vector UInt8 32) (tr' : Trace), w.clock ≤ t ∧ tr = did .randomBytes bytes :: tr' ∧
      (svc.alone faults).Exec (f bytes) ⟨w.db, t⟩ tr' res w' := by
  obtain ⟨t, choice, tr', hclock, htr, hrest⟩ := alone_act h (by simp)
  exact ⟨t, choice.bytes, tr', hclock, htr, hrest⟩

/-- A salt is drawn. -/
theorem alone_salt {f : String → AuthM β} (h : (svc.alone faults).Exec (newSalt >>= f) w tr res w') :
    ∃ (t : ℕ) (salt : String) (tr' : Trace), w.clock ≤ t ∧ tr = did .salt salt :: tr' ∧
      (svc.alone faults).Exec (f salt) ⟨w.db, t⟩ tr' res w' := by
  obtain ⟨t, choice, tr', hclock, htr, hrest⟩ := alone_act h (by simp)
  exact ⟨t, choice.salt, tr', hclock, htr, hrest⟩

/-- A payload is signed. -/
theorem alone_sign {payload : Payload} {f : String → AuthM β}
    (h : (svc.alone faults).Exec (sign payload >>= f) w tr res w') :
    ∃ (t : ℕ) (tr' : Trace), w.clock ≤ t ∧
      tr = did (.sign payload) (svc.prims.jwtEncode svc.config.jwtSecret payload) :: tr' ∧
      (svc.alone faults).Exec (f (svc.prims.jwtEncode svc.config.jwtSecret payload)) ⟨w.db, t⟩ tr' res w' := by
  obtain ⟨t, choice, tr', hclock, htr, hrest⟩ := alone_act h (by simp)
  exact ⟨t, tr', hclock, htr, hrest⟩

/-- A password is compared. -/
theorem alone_verify {password hash : String} {f : Option Bool → AuthM β}
    (h : (svc.alone faults).Exec (perform (.verifyPassword password hash) >>= f) w tr res w') :
    ∃ (t : ℕ) (tr' : Trace), w.clock ≤ t ∧
      tr = did (.verifyPassword password hash) (svc.comparePassword password hash) :: tr' ∧
      (svc.alone faults).Exec (f (svc.comparePassword password hash)) ⟨w.db, t⟩ tr' res w' := by
  obtain ⟨t, choice, tr', hclock, htr, hrest⟩ := alone_act h (by simp)
  exact ⟨t, tr', hclock, htr, hrest⟩

/-- A statement fails and ends the call, or runs on the database and the call goes on with its rows. -/
theorem alone_query {s : Statement} {f : s.Row → AuthM β}
    (h : (svc.alone faults).Exec (query s >>= f) w tr res w') :
    (faults = true ∧ ∃ e : DbError, tr = [⟨.sql s, .error e⟩] ∧ res = .error (.err (.database e)) ∧ w'.db = w.db) ∨
      ∃ (t : ℕ) (fresh : Uuid) (rows : s.Row) (db : Db) (tr' : Trace), w.clock ≤ t ∧
        s.run fresh t w.db = .ok (rows, db) ∧ tr = executed s rows :: tr' ∧
        (svc.alone faults).Exec (f rows) ⟨db, t⟩ tr' res w' := by
  obtain ⟨⟨db, t⟩, r, w₁, tr', hwaits, ⟨hperform, hfailed⟩, hrest, rfl⟩ := exec_act.mp h
  obtain ⟨rfl, hclock⟩ := alone_waits.mp hwaits
  cases r with
  | error e =>
    obtain ⟨hres, hdb, rfl⟩ := alone_fail hrest
    rcases AuthService.perform_sql hperform with ⟨e', -, rfl⟩ | ⟨rows, fresh, db', hok, -, -⟩
    · exact Or.inl ⟨hfailed rfl, e, rfl, hres, hdb⟩
    · cases hok
  | ok rows =>
    obtain ⟨fresh, db', hrun, rfl⟩ := AuthService.perform_ok hperform
    exact Or.inr ⟨t, fresh, rows, db', tr', hclock, hrun, rfl, hrest⟩

/-- A statement that ends the call. -/
theorem alone_lastQuery {s : Statement} {res : Except Failure s.Row}
    (h : (svc.alone faults).Exec (query s) w tr res w') :
    (∃ e : DbError, res = .error (.err (.database e)) ∧ w'.db = w.db) ∨
      ∃ (t : ℕ) (fresh : Uuid) (rows : s.Row), w.clock ≤ t ∧ s.run fresh t w.db = .ok (rows, w'.db) ∧
      res = .ok rows := by
  have hbind : (svc.alone faults).Exec (query s >>= pure) w tr res w' := by
    rw [bind_eq_self]
    exact h
  rcases alone_query hbind with ⟨-, e, -, hres, hdb⟩ | ⟨t, fresh, rows, db, tr', hclock, hrun, -, hend⟩
  · exact Or.inl ⟨e, hres, hdb⟩
  · obtain ⟨hres, hdb, -⟩ := alone_ok hend
    exact Or.inr ⟨t, fresh, rows, hclock, hdb ▸ hrun, hres⟩

/-- Where no statement fails, the call goes on with the rows. -/
theorem smooth_query {s : Statement} {f : s.Row → AuthM β} (h : svc.smooth.Exec (query s >>= f) w tr res w') :
    ∃ (t : ℕ) (fresh : Uuid) (rows : s.Row) (db : Db) (tr' : Trace), w.clock ≤ t ∧
      s.run fresh t w.db = .ok (rows, db) ∧ tr = executed s rows :: tr' ∧
      svc.smooth.Exec (f rows) ⟨db, t⟩ tr' res w' := by
  rcases alone_query h with ⟨hfaults, -⟩ | hrest
  · cases hfaults
  · exact hrest

/-- Where no statement fails, the server accepts the parameters of those that are executed. -/
theorem smooth_accepted {s : Statement} {f : s.Row → AuthM β} (h : svc.smooth.Exec (query s >>= f) w tr res w') :
    s.refusal? = none := by
  obtain ⟨w₁, r, w₂, tr', -, ⟨hperform, hsmooth⟩, -, -⟩ := exec_act.mp h
  cases r with
  | error e => cases hsmooth rfl
  | ok rows => exact AuthService.perform_accepted hperform

/-- A value that is missing ends the call with the error. -/
theorem alone_okOr {o : Option α} {e : AuthError} {f : α → AuthM β}
    (h : (svc.alone faults).Exec (okOr o e >>= f) w tr res w') :
    (o = none ∧ res = .error (.err e) ∧ w'.db = w.db ∧ tr = []) ∨ ∃ v, o = some v ∧
    (svc.alone faults).Exec (f v) w tr res w' := by
  cases o with
  | none => exact Or.inl ⟨rfl, alone_fail h⟩
  | some v => exact Or.inr ⟨v, rfl, h⟩

/-- The computation of an expiry panics, or the call goes on with the expiry. -/
theorem alone_expiresAfter {now : Instant} {n : Int64} {f : Instant → AuthM β}
    (h : (svc.alone faults).Exec (expiresAfter now n >>= f) w tr res w') :
    (¬ Expires now n ∧ (∃ fault, res = .error (.panic fault)) ∧ w'.db = w.db ∧ tr = []) ∨
      Expires now n ∧ (svc.alone faults).Exec (f (now + seconds n)) w tr res w' := by
  by_cases hexpires : Expires now n
  · rw [expiresAfter_of now n hexpires] at h
    exact Or.inr ⟨hexpires, h⟩
  · obtain ⟨fault, hpanic⟩ := expiresAfter_of_not now n hexpires
    rw [hpanic] at h
    obtain ⟨hres, hdb, htr⟩ := alone_fail h
    exact Or.inl ⟨hexpires, ⟨fault, hres⟩, hdb, htr⟩

/-- A check that ends the call, or lets it go on. -/
theorem alone_check {condition : Bool} {e : Failure} {f : Unit → AuthM β}
    (h : (svc.alone faults).Exec (runIf condition (fail e) >>= f) w tr res w') :
    (condition = true ∧ res = .error e ∧ w'.db = w.db ∧ tr = []) ∨
      condition = false ∧ (svc.alone faults).Exec (f ()) w tr res w' := by
  cases condition with
  | true => exact Or.inl ⟨rfl, alone_fail h⟩
  | false => exact Or.inr ⟨rfl, h⟩

/-- Tagging the value of a computation tags its result. -/
theorem alone_answer {tag : β → Response} {p : AuthM β} {response : Except Failure Response}
    (h : (svc.alone faults).Exec (answer tag p) w tr response w') :
    ∃ res, (svc.alone faults).Exec p w tr res w' ∧ response = res.map tag := by
  rcases exec_bind.mp h with ⟨e, herror, hres⟩ | ⟨v, w₁, tr₁, tr₂, hp, hpure, htr⟩
  · exact ⟨.error e, herror, hres⟩
  · obtain ⟨hwaits, rfl, hres⟩ := exec_done.mp hpure
    rw [List.append_nil] at htr
    subst htr
    exact ⟨.ok v, hp.then_waits hwaits, hres⟩

/-- An action is performed at once, at the time of the world it starts in, with a choice of all it leaves open. -/
theorem alone_act_of {a : Action} {next : a.Reply → AuthM β} {r : a.Reply} {w₁ : World} (choice : Choice)
    (hexec : svc.exec w choice a = (r, w₁)) (hfailed : a.failed r = true → faults = true)
    (h : (svc.alone faults).Exec (next r) w₁ tr res w') :
    (svc.alone faults).Exec (.act a next) w (⟨a, r⟩ :: tr) res w' := .act ⟨⟨choice, hexec⟩, hfailed⟩ h

/-- The clock is read at once. -/
theorem alone_now_of {f : Instant → AuthM β} (h : (svc.alone faults).Exec (f w.now) w tr res w') :
    (svc.alone faults).Exec (utcNow >>= f) w (did .now w.now :: tr) res w' := by
  refine alone_act_of {} rfl (fun hfailed => ?_) h
  cases hfailed

/-- A salt is drawn at once. -/
theorem alone_salt_of {f : String → AuthM β} {salt : String} (h : (svc.alone faults).Exec (f salt) w tr res w') :
    (svc.alone faults).Exec (newSalt >>= f) w (did .salt salt :: tr) res w' := by
  refine alone_act_of { salt := salt } rfl (fun hfailed => ?_) h
  cases hfailed

/-- A password is compared at once. -/
theorem alone_verify_of {password hash : String} {f : Option Bool → AuthM β}
    (h : (svc.alone faults).Exec (f (svc.comparePassword password hash)) w tr res w') :
    (svc.alone faults).Exec (perform (.verifyPassword password hash) >>= f) w
      (did (.verifyPassword password hash) (svc.comparePassword password hash) :: tr) res w' := by
  refine alone_act_of {} rfl (fun hfailed => ?_) h
  cases hfailed

/-- A statement whose parameters are accepted runs and the call goes on. -/
theorem alone_query_of {s : Statement} {f : s.Row → AuthM β} {fresh : Uuid} {rows : s.Row} {db : Db}
    (hbound : s.refusal? = none) (hrun : s.run fresh w.now w.db = .ok (rows, db))
    (h : (svc.alone faults).Exec (f rows) ⟨db, w.clock⟩ tr res w') :
    (svc.alone faults).Exec (query s >>= f) w (executed s rows :: tr) res w' := by
  refine alone_act_of { uuid := fresh } (by simp only [AuthService.exec, Option.or, hbound, hrun])
    (fun hfailed => ?_) h
  cases hfailed

/-- A statement fails and ends the call, where that is admitted. -/
theorem alone_query_error {s : Statement} {f : s.Row → AuthM β} {fresh : Uuid} {e : DbError}
    (hbound : s.refusal? = none) (hrun : s.run fresh w.now w.db = .error e) :
    (svc.alone true).Exec (query s >>= f) w [⟨.sql s, .error e⟩] (.error (.err (.database e))) w :=
  alone_act_of { uuid := fresh } (by simp only [AuthService.exec, Option.or, hbound, hrun]) (fun _ => rfl) .done

/-- An expiry within the bounds lets the call go on. -/
theorem alone_expiresAfter_of {now : Instant} {n : Int64} {f : Instant → AuthM β} (hexpires : Expires now n)
    (h : (svc.alone faults).Exec (f (now + seconds n)) w tr res w') :
    (svc.alone faults).Exec (expiresAfter now n >>= f) w tr res w' := by
  rw [expiresAfter_of now n hexpires]
  exact h

/-- A value that is there is passed on. -/
theorem alone_okOr_of {o : Option α} {v : α} {e : AuthError} {f : α → AuthM β} (hsome : o = some v)
    (h : (svc.alone faults).Exec (f v) w tr res w') : (svc.alone faults).Exec (okOr o e >>= f) w tr res w' := by
  subst hsome
  exact h

/-- A check that passes lets the call go on. -/
theorem alone_check_of {condition : Bool} {block : AuthM Unit} {f : Unit → AuthM β} (hpass : condition = false)
    (h : (svc.alone faults).Exec (f ()) w tr res w') :
    (svc.alone faults).Exec (runIf condition block >>= f) w tr res w' := by
  subst hpass
  exact h

/-- A part of the database that no statement of a call changes stays as it is. -/
theorem alone_keeps {γ : Type} {request : Request} {res : Except Failure Response} (part : Db → γ)
    (hpart : ∀ past s, StatementGuard svc request past s → ∀ fresh now db v db',
      s.run fresh now db = .ok (v, db') → part db' = part db)
    (h : (svc.alone faults).Exec (svc.serve request) w tr res w') : part w'.db = part w.db := by
  have hperform (past : Trace) (a : Action) (r : a.Reply) (v v' : World)
    (hguard : (svc.protocol request).guard past a)
      (hact : (svc.alone faults).perform a v r v') (hv : part v.db = part w.db) : part v'.db = part w.db := by
    cases a with
    | sql s =>
      rcases AuthService.perform_sql hact.1 with ⟨e, -, rfl⟩ | ⟨rows, fresh, db, -, hrun, rfl⟩
      · exact hv
      · exact (hpart past s hguard fresh v.now v.db rows db hrun).trans hv
    | _ => rw [AuthService.perform_local hact.1 (by simp)]; exact hv
  have hidle (v v' : World) (hmove : (svc.alone faults).idle v v') (hv : part v.db = part w.db) :
    part v'.db = part w.db := by
    obtain ⟨elapsed, rfl⟩ := hmove
    exact hv
  exact Exec.invariant (M := svc.alone faults) hperform hidle h (svc.serve_obeys request) rfl

/-- The operations that write to `users`. -/
def Request.writesUsers : Request → Bool
  | .register _ | .login .. | .resetPassword _ | .changePassword .. | .verifyEmail _ => true
  | _ => false

/-- The operations that write to `refresh_tokens`. -/
def Request.writesRefreshTokens : Request → Bool
  | .login .. | .logout _ | .refreshTokens .. | .resetPassword _ | .changePassword .. => true
  | _ => false

/-- The operations that write to a table of one-time tokens. -/
def Request.writesOneTimeTokens : Request → Bool
  | .forgotPassword _ | .resetPassword _ | .createEmailVerification _ | .resendVerification _ |
      .verifyEmail _ => true
  | _ => false

/-- A request that authorizes a user is one that writes refresh tokens. -/
theorem Authorized.writesRefreshTokens {request : Request} {user : User} {past : Trace}
    (h : Authorized svc request user past) : request.writesRefreshTokens = true := by
  cases h <;> rfl

/-- Only these operations execute a statement that writes to the table. -/
theorem Request.writesRefreshTokens_of_guard {request : Request} {past : Trace} {s : Statement}
    (hguard : StatementGuard svc request past s) (hwrites : s.writesRefreshTokens = true) :
    request.writesRefreshTokens = true := by
  cases s with
  | insertRefreshToken =>
    obtain ⟨_, _, _, _, ⟨_, ⟨_, _, _, hauth, -⟩, -⟩, -⟩ := hguard
    exact hauth.writesRefreshTokens
  | revokeRefreshToken =>
    rcases hguard with ⟨_, _, _, _, _, rfl, -⟩ | ⟨_, _, _, _, _, _, _, _, _, _, rfl, -⟩
    · rfl
    · rfl
  | revokeAllTokens =>
    rcases hguard with ⟨_, _, _, _, _, _, _, rfl, -⟩ | ⟨_, rfl, -⟩ | ⟨_, rfl, -⟩
    · rfl
    · rfl
    · rfl
  | _ => cases hwrites

/-- Any other operation leaves the table as it is. -/
theorem refreshTokens_of_exec {request : Request} {res : Except Failure Response}
    (hrequest : request.writesRefreshTokens = false) (h : (svc.alone faults).Exec (svc.serve request) w tr res w') :
    w'.db.refreshTokens = w.db.refreshTokens := by
  apply alone_keeps Db.refreshTokens _ h
  intro past s hguard fresh now db v db' hrun
  apply (Statement.run_frame hrun).1
  by_contra hwrites
  rw [Request.writesRefreshTokens_of_guard hguard (Bool.not_eq_false _ ▸ hwrites)] at hrequest
  cases hrequest

/-- Only these operations execute a statement that writes to `users`. -/
theorem Request.writesUsers_of_guard {request : Request} {past : Trace} {s : Statement}
    (hguard : StatementGuard svc request past s) (hwrites : s.writesUsers = true) : request.writesUsers = true := by
  cases s with
  | insertUser =>
    obtain ⟨_, _, rfl, -⟩ := hguard
    rfl
  | incrementFailedAttempts =>
    obtain ⟨_, _, _, _, _, _, rfl, -⟩ := hguard
    rfl
  | recordSuccessfulLogin =>
    obtain ⟨_, _, _, _, rfl, -⟩ := hguard
    rfl
  | updatePassword =>
    rcases hguard with ⟨_, _, rfl, -⟩ | ⟨_, rfl, -⟩
    · rfl
    · rfl
  | verifyUserEmail =>
    obtain ⟨_, _, rfl, -⟩ := hguard
    rfl
  | _ => cases hwrites

/-- Any other operation leaves the table as it is. -/
theorem users_of_exec {request : Request} {res : Except Failure Response} (hrequest : request.writesUsers = false)
    (h : (svc.alone faults).Exec (svc.serve request) w tr res w') : w'.db.users = w.db.users := by
  apply alone_keeps Db.users _ h
  intro past s hguard fresh now db v db' hrun
  apply Statement.run_keepsUsers hrun
  by_contra hwrites
  rw [Request.writesUsers_of_guard hguard (Bool.not_eq_false _ ▸ hwrites)] at hrequest
  cases hrequest

/-- The table of one-time tokens a statement writes to. -/
def Statement.tokens? : Statement → Option Purpose
  | .invalidateTokens purpose _ | .insertOneTimeToken purpose .. | .markTokenUsed purpose _ => some purpose
  | _ => none

/-- The operations that write to the one-time tokens of a purpose. -/
def Request.writesTokens (purpose : Purpose) : Request → Bool
  | .forgotPassword _ | .resetPassword _ => purpose = .passwordReset
  | .createEmailVerification _ | .resendVerification _ | .verifyEmail _ => purpose = .emailVerification
  | _ => false

/-- Other statements leave the table as it is. -/
theorem Statement.run_otherTokens {purpose : Purpose} {s : Statement} {fresh : Uuid} {now : Instant}
    {db db' : Db} {v : s.Row} (h : s.run fresh now db = .ok (v, db')) (hother : s.tokens? ≠ some purpose) :
    db'.oneTimeTokens purpose = db.oneTimeTokens purpose := by
  cases s with
  | invalidateTokens p id =>
    cases h
    exact Function.update_of_ne (fun hp => hother (congrArg some hp.symm)) _ _
  | markTokenUsed p id =>
    cases h
    exact Function.update_of_ne (fun hp => hother (congrArg some hp.symm)) _ _
  | insertOneTimeToken p id tokenHash expiresAt =>
    simp only [Statement.run, except_bind_eq_ok, orError_eq_ok] at h
    obtain ⟨hash, -, db₁, hinsert, heq⟩ := h
    cases heq
    exact (Db.insertOneTimeToken?_spec hinsert).2.2.2 purpose fun hp => hother (congrArg some hp.symm)
  | _ => rw [(Statement.run_frame h).2 rfl]

/-- A request that issues one-time tokens is one that writes them. -/
theorem Issues.writesTokens {request : Request} {purpose : Purpose} {userId : Uuid} {past : Trace}
    (h : Issues request purpose userId past) :
    request.writesTokens purpose = true := by
  cases h <;> rfl

/-- Only these operations execute a statement that writes to the table. -/
theorem Request.writesTokens_of_guard {request : Request} {purpose : Purpose} {past : Trace} {s : Statement}
    (hguard : StatementGuard svc request past s) (hwrites : s.tokens? = some purpose) :
    request.writesTokens purpose = true := by
  cases s with
  | invalidateTokens p id =>
    obtain rfl := Option.some.inj hwrites
    obtain ⟨_, _, _, hissues, -⟩ := hguard
    exact hissues.writesTokens
  | insertOneTimeToken p id tokenHash expiresAt =>
    obtain rfl := Option.some.inj hwrites
    obtain ⟨_, _, ⟨_, _, ⟨_, hissues, -⟩, -⟩, -⟩ := hguard
    exact hissues.writesTokens
  | markTokenUsed p id =>
    obtain rfl := Option.some.inj hwrites
    rcases hguard with ⟨_, _, rfl, rfl, -⟩ | ⟨_, _, _, _, rfl, rfl, -⟩
    · rfl
    · rfl
  | _ => cases hwrites

/-- Any other operation leaves the table as it is. -/
theorem tokens_of_exec {purpose : Purpose} {request : Request} {res : Except Failure Response}
    (hrequest : request.writesTokens purpose = false)
    (h : (svc.alone faults).Exec (svc.serve request) w tr res w') :
    w'.db.oneTimeTokens purpose = w.db.oneTimeTokens purpose := by
  apply alone_keeps (fun db => db.oneTimeTokens purpose) _ h
  intro past s hguard fresh now db v db' hrun
  apply Statement.run_otherTokens hrun
  intro hwrites
  rw [Request.writesTokens_of_guard hguard hwrites] at hrequest
  cases hrequest

/-- An operation that writes to neither of the two tables. -/
theorem oneTimeTokens_of_exec {request : Request} {res : Except Failure Response}
    (hrequest : request.writesOneTimeTokens = false) (h : (svc.alone faults).Exec (svc.serve request) w tr res w') :
    w'.db.oneTimeTokens = w.db.oneTimeTokens := by
  funext purpose
  apply tokens_of_exec _ h
  cases request <;> first | rfl | cases hrequest

end RustPressAuth
