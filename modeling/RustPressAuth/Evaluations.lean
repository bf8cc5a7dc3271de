import RustPressAuth.Guessing

/-!
# Every evaluation of a password

Two operations compare a presented password with a stored hash. A login reads the status
and the lock of the account before, and counts a wrong password after it. A change of
the password does neither, so it evaluates passwords of locked and of suspended accounts
and counts none. Where it compares only the right password of an active, unlocked
account, every evaluation of a run is gated and counted; and when the calls are made
one after the other, no more wrong passwords are evaluated than the maximum.
-/

namespace RustPressAuth

open Atomic Program Machine Relational

variable {svc : AuthService} {w : World} {req : ℕ → Request} {d : System} {u : Uuid}

/-- The failure of a login of the user was counted: its counter is one higher, and the lock is set when
the counter reaches the maximum. -/
structure Counts (svc : AuthService) (id : Uuid) (e : LogEvent) : Prop where
  statement : ∃ n : ℕ, e.entry =
    executed (.incrementFailedAttempts id svc.config.maxLoginAttempts svc.config.lockoutDuration) n
  effect : ∃ s, svc.machine.perform e.action e.before e.reply s ∧ ∀ row ∈ e.before.db.users, row.id = id →
    row.incremented e.before.now svc.config.maxLoginAttempts svc.config.lockoutDuration ∈ s.db.users

/-- The comparison of a password is gated and counted: the call has read a user with the compared hash who
is active and not locked, and a wrong password is counted by the time the call has ended. -/
def GatedAndCounted (svc : AuthService) (d : System) (e : LogEvent) (older : List LogEvent) (hash : String)
    (verified : Option Bool) : Prop :=
  ∃ f ∈ older, ∃ user, f.caller = e.caller ∧ readUser? f.entry = some user ∧ user ∈ f.before.db.users ∧
    user.passwordHash = hash ∧ user.status = .active ∧
    (∃ t, f.before.now ≤ t ∧ t ≤ e.before.now ∧ user.isLocked t = false) ∧
    (verified = some false → (d.calls e.caller).Ended →
      ∃ g newer, (g :: newer) <:+ d.log ∧ e ∈ newer ∧ g.caller = e.caller ∧ Counts svc user.id g)

/-- Every comparison of a presented password with a stored hash is gated and counted. -/
def EvaluationsGated (svc : AuthService) (d : System) : Prop :=
  ∀ e older, (e :: older) <:+ d.log → ∀ password hash verified,
    e.entry = did (.verifyPassword password hash) verified → GatedAndCounted svc d e older hash verified

/-- A change of the password compares only the right password, of a user that it read active and that is
not locked; no statement fails that counts a failure. -/
def guarded (request : Request) (h : Trace) (now : Instant) : Entry → Bool
  | ⟨.verifyPassword _ _, verified⟩ =>
    match request with
    | .changePassword _ _ =>
      verified != some false && (h.filterMap readUser?).all fun user => user.status == .active && !user.isLocked now
    | _ => true
  | ⟨.sql (.incrementFailedAttempts _ _ _), .error _⟩ => false
  | _ => true

/-- All events are guarded. -/
def evaluationsGuarded (req : ℕ → Request) : Rule ℕ Action Action.Reply Failure Response World :=
  .ofEvent fun c e => guarded (req e.caller) (ownHistory e.caller c.log) c.shared.now e.entry = true

/-- All events are guarded, and a call moves only when no other call is in flight. -/
def evaluationsInTurn (req : ℕ → Request) : Rule ℕ Action Action.Reply Failure Response World :=
  .ofEvent fun c e => (evaluationsGuarded req).event c e ∧ ∀ f ∈ c.log, f.caller ≠ e.caller → ¬ c.Running f.caller

/-- The wrong passwords of `u` that any operation evaluated since its failures were last cleared. -/
def wrongGuesses (u : Uuid) : List LogEvent → ℕ
  | [] => 0
  | e :: older =>
    if clearsFailures u e.entry then 0
    else if isWrong e.entry &&
        (ownHistory e.caller older).any (fun x => (readUser? x).any fun user => user.id == u) then
      wrongGuesses u older + 1
    else wrongGuesses u older

/-- Before the lock set by the failure that reached the maximum has expired, no more wrong passwords were
evaluated than the maximum. -/
def GuessesWithinLimit (cfg : AuthConfig) (u : Uuid) (d : System) : Prop :=
  (∀ t, cfg.policy.lockingFailure (failureTimes u d.log) = some t → d.shared.now < t + cfg.policy.duration) →
    (wrongGuesses u d.log : ℤ) ≤ cfg.maxLoginAttempts.toInt

/-- A read of a user is an event on a table that holds it. -/
theorem exists_read {ok : System → System → Prop} (hrun : svc.machine.Reaches ok (svc.start w req) d)
    {e : LogEvent} {older : List LogEvent} (he : (e :: older) <:+ d.log) {x : Entry} {h : Trace} {user : User}
    (hsuffix : (x :: h) <:+ ownHistory e.caller older) (hread : readUser? x = some user) :
    ∃ f ∈ older, f.caller = e.caller ∧ readUser? f.entry = some user ∧ user ∈ f.before.db.users ∧
      f.before.now ≤ e.before.now := by
  obtain ⟨f, olderF, hf, hcaller, hentry, -⟩ := exists_event_of_suffix hsuffix
  obtain ⟨mid, next, s, hat, -⟩ := hrun.performedAt rfl ((hf.trans (List.suffix_cons _ _)).trans he)
  have hmem := hf.subset List.mem_cons_self
  have hle := hrun.before_le svc.machine_monotone rfl he hmem
  rw [← hentry] at hread
  exact ⟨f, hmem, hcaller, hread, readUser?_row hat.perform hread, hle.now_le⟩

/-- A statement that counts a failure and does not fail does so. -/
theorem counts_of_event {ok : System → System → Prop} (hrun : svc.machine.Reaches ok (svc.start w req) d)
    {g : LogEvent} {newer : List LogEvent} (hg : (g :: newer) <:+ d.log) {id : Uuid} {m : Int32} {t : Int64} {n : ℕ}
    (hentry : g.entry = executed (.incrementFailedAttempts id m t) n) : Counts svc id g := by
  have hguard := guard_of_run hrun hg
  obtain ⟨mid, next, s, hat, -⟩ := hrun.performedAt rfl hg
  have hperform := perform_of_entry hentry hat.perform
  obtain ⟨i, before, a, r⟩ := g
  cases hentry
  obtain ⟨r, ip, ua, user, now, h', -, -, -, rfl, rfl, -⟩ := hguard
  obtain ⟨fresh, db, hstatement, hs⟩ := AuthService.perform_ok hperform
  refine ⟨⟨n, rfl⟩, s, hat.perform, fun row hrow hid => ?_⟩
  rw [hs, incrementFailedAttempts_run hstatement]
  exact (Db.mem_updateUser (f := User.incremented _ _ _) (fun _ => rfl) (fun _ => rfl)).mpr ⟨row, hrow, if_pos hid⟩

/-- A login whose password was wrong has counted the failure by the time it has ended. -/
theorem counted_after_wrong (hrun : svc.machine.Reaches (evaluationsGuarded req).Keeps (svc.start w req) d)
    {e : LogEvent} {older : List LogEvent} (he : (e :: older) <:+ d.log) {password hash : String}
    (hentry : e.entry = did (.verifyPassword password hash) (some false)) {r : LoginRequest} {ip ua : Option String}
    {user : User} {t : Instant} (hlogin : req e.caller = .login r ip ua)
    (hchecked : LoginChecked r.email user t (ownHistory e.caller older)) (hended : (d.calls e.caller).Ended) :
    ∃ g newer, (g :: newer) <:+ d.log ∧ e ∈ newer ∧ g.caller = e.caller ∧ Counts svc user.id g := by
  obtain ⟨mid, next, s, hat, rfl⟩ := hrun.performedAt rfl he
  have hleads := (hat.run.leadsTo rfl e.caller)
  rw [hat.call] at hleads
  have hafter := hleads.act (r := e.reply)
  obtain ⟨i, before, a, reply⟩ := e
  cases hentry
  simp only [AuthService.start, Config.start, hlogin] at hafter
  obtain ⟨m, n, rest, hnext⟩ := login_after_wrong hchecked hafter
  have hcall : (mid.advance i (.verifyPassword password hash) (some false) s (next (some false))).calls i =
      .act (.sql (.incrementFailedAttempts user.id m n)) rest := by
    rw [← hnext]
    exact Function.update_self _ _ _
  rcases hat.rest.next_performed hcall with hwaits | ⟨s', reply, newer, hg, hsince⟩
  · simp only at hended
    rw [hwaits] at hended
    obtain ⟨res, hres⟩ := hended
    cases hres
  · have hbefore : (⟨i, mid.shared, .verifyPassword password hash, some false⟩ : LogEvent) ∈ newer :=
      hsince.subset List.mem_cons_self
    rw [hat.before] at hbefore
    refine ⟨_, newer, hg, hbefore, rfl, ?_⟩
    cases reply with
    | ok v => exact counts_of_event hrun hg rfl
    | error failure =>
      obtain ⟨mid', next', s'', hat', -⟩ := hrun.performedAt rfl hg
      have hguarded : guarded _ _ _ _ = true := hat'.event_ok
      cases hguarded

/-- In a guarded run every comparison is gated and counted. -/
theorem evaluationsGated_of_run (hrun : svc.machine.Reaches (evaluationsGuarded req).Keeps (svc.start w req) d) :
    EvaluationsGated svc d := by
  intro e older he password hash verified hentry
  have hguard := guard_of_run hrun he
  have haction : e.action = .verifyPassword password hash := congrArg Sigma.fst hentry
  rw [haction] at hguard
  rcases hguard with ⟨r, ip, ua, user, t, hlogin, hchecked, -, rfl⟩ | ⟨id, r, user, hchange, -, rfl, htrace⟩
  · have hown := hchecked.trace
    have hclock :
        did .now t :: [executed (.selectUserByEmail r.email) (some user)] <:+ ownHistory e.caller older := by
      rw [hown]
    obtain ⟨n, olderN, hn, hcaller, hnow, hrest⟩ := exists_event_of_suffix hclock
    have hn' := (hn.trans (List.suffix_cons _ _)).trans he
    have hread : [executed (.selectUserByEmail r.email) (some user)] <:+ ownHistory n.caller olderN := by
      rw [hcaller, hrest]
    obtain ⟨f, hf, hfcaller, hfread, hrow, hle⟩ := exists_read hrun hn' hread rfl
    obtain ⟨mid, next, s, hat, -⟩ := hrun.performedAt rfl hn'
    obtain ⟨choice, hexec⟩ := perform_of_entry hnow hat.perform
    have htime : n.before.now = t := (Prod.mk.inj hexec).1
    have hlater := (hrun.before_le svc.machine_monotone rfl he (hn.subset List.mem_cons_self)).now_le
    refine ⟨f, (List.suffix_cons n olderN).trans hn |>.subset hf, user, hfcaller.trans hcaller, hfread, hrow, rfl,
      hchecked.active, ⟨t, htime ▸ hle, htime ▸ hlater, hchecked.unlocked⟩, ?_⟩
    intro heq hended
    subst heq
    exact counted_after_wrong hrun he hentry hlogin hchecked hended
  · have hread : [executed (.selectUserById id) (some user)] <:+ ownHistory e.caller older := by
      rw [htrace]
    obtain ⟨f, hf, hfcaller, hfread, hrow, hle⟩ := exists_read hrun he hread rfl
    obtain ⟨mid, next, s, hat, rfl⟩ := hrun.performedAt rfl he
    have hguarded : guarded (req e.caller) (ownHistory e.caller mid.log) mid.shared.now e.entry = true :=
      hat.event_ok
    rw [htrace, hentry, hchange, hat.before] at hguarded
    simp only [guarded, readUser?, List.filterMap_cons, List.filterMap_nil, List.all_cons, List.all_nil,
      Bool.and_true, Bool.and_eq_true, bne_iff_ne, ne_eq, beq_iff_eq, Bool.not_eq_true'] at hguarded
    obtain ⟨hright, hactive, hunlocked⟩ := hguarded
    exact ⟨f, hf, user, hfcaller, hfread, hrow, rfl, hactive, ⟨_, hle, Int.le_refl _, hunlocked⟩,
      fun hwrong => absurd hwrong hright⟩

/-- A call in flight performed the last event when no other one moves meanwhile. -/
theorem last_of_inTurn (hrun : svc.machine.Reaches (evaluationsInTurn req).Keeps (svc.start w req) d) {i : ℕ}
    (hrunning : d.Running i) : ∃ f older, d.log = f :: older ∧ f.caller = i := by
  cases hlog : d.log with
  | nil => exact absurd (by rw [hlog]; rfl) hrunning.1
  | cons f older =>
    by_contra hother
    have hcaller : f.caller ≠ i := fun h => hother ⟨f, older, rfl, h⟩
    have hown : ownHistory i older ≠ [] := by
      have hnonempty := hrunning.1
      rwa [hlog, ownHistory_cons, if_neg hcaller] at hnonempty
    obtain ⟨x, hx⟩ := List.exists_mem_of_ne_nil _ hown
    obtain ⟨g, hg, rfl, -⟩ := mem_ownHistory.mp hx
    obtain ⟨mid, next, s, hat, rfl⟩ := hrun.performedAt rfl (hlog ▸ List.suffix_rfl : (f :: older) <:+ d.log)
    have hended := Config.ended_of_not_running hg (hat.event_ok.2 g hg hcaller.symm)
    apply hrunning.2
    rw [hat.toLast.calls_of_ended hended]
    exact hended

/-- Right after a user was read, the lock that was read is the stored one. -/
theorem lock_of_last_read (hclear : AllAccounted svc.config u [] w.db) {ok : System → System → Prop}
    (hrun : svc.machine.Reaches ok (svc.start w req) d) {f : LogEvent} {older : List LogEvent}
    (hlog : d.log = f :: older) {email : String} {user row : User}
    (hread : f.entry = executed (.selectUserByEmail email) (some user))
    (huser : user.id = u) (hrow : row ∈ d.shared.db.users) (hid : row.id = u) :
    row.lockedUntil = user.lockedUntil := by
  obtain ⟨mid, next, s, hat, rfl⟩ := hrun.performedAt rfl (hlog ▸ List.suffix_rfl : (f :: older) <:+ d.log)
  have hmem : user ∈ mid.shared.db.users := by
    rw [hat.before]
    exact readUser?_row hat.perform (show readUser? f.entry = some user by rw [hread]; rfl)
  have hbefore := (allAccounted_of_run hclear hat.run user hmem huser).lock
  have hafter := (allAccounted_of_run hclear hrun row hrow hid).lock
  rw [hlog, failureTimes_cons, hread, failuresAfter_eq rfl rfl, ← hbefore] at hafter
  exact hafter

/-- While only one call is in flight, no other login is pending. -/
theorem pendingLogins_of_turn {i : ℕ} (hturn : ∀ g ∈ d.log, g.caller ≠ i → ¬ d.Running g.caller)
    (hbefore : passesCheck u (ownHistory i d.log) = false) : pendingLogins u d = ∅ := by
  apply Finset.eq_empty_of_forall_notMem
  intro j hj
  obtain ⟨hpassed, -, hflight⟩ := mem_pendingLogins.mp hj
  have hne : j ≠ i := by
    intro heq
    subst heq
    exact Bool.false_ne_true (hbefore.symm.trans hpassed)
  have hown : ownHistory j d.log ≠ [] := by
    intro hnil
    rw [hnil] at hpassed
    cases hpassed
  obtain ⟨x, hx⟩ := List.exists_mem_of_ne_nil _ hown
  obtain ⟨g, hg, rfl, -⟩ := mem_ownHistory.mp hx
  exact hturn g hg hne ⟨hown, hflight⟩

/-- A call that moves while no other is in flight keeps the rule under which guesses are bounded. -/
theorem guess_in_turn (hclear : AllAccounted svc.config u [] w.db)
    (hrun : svc.machine.Reaches (evaluationsInTurn req).Keeps (svc.start w req) d) {i : ℕ} {a : Action}
    {next : a.Reply → Program Action Action.Reply Failure Response} {r : a.Reply} {s : World}
    (hcall : d.calls i = .act a next) (hperform : svc.machine.perform a d.shared r s)
    (hrule : (evaluationsInTurn req).event d ⟨i, d.shared, a, r⟩) :
    (guessesApart svc.config u).event d ⟨i, d.shared, a, r⟩ := by
  obtain ⟨hguarded, hturn⟩ := hrule
  have hgoesOn : ¬ (d.calls i).Ended := by
    rw [hcall]
    rintro ⟨res, hres⟩
    cases hres
  constructor
  · intro hpasses hbefore row hrow hid
    refine ⟨?_, Or.inl (pendingLogins_of_turn hturn hbefore)⟩
    obtain ⟨t, email, user, hentry, hown, huser⟩ := passesCheck_now hpasses hbefore
    have hrunning : d.Running i := ⟨by rw [hown]; simp, hgoesOn⟩
    obtain ⟨f, older, hlog, hcaller⟩ := last_of_inTurn hrun hrunning
    have hread : f.entry = executed (.selectUserByEmail email) (some user) := by
      simp only at hown
      rw [hlog, ownHistory_cons, if_pos hcaller] at hown
      exact (List.cons.inj hown).1
    have hlock := lock_of_last_read hclear hrun hlog hread huser hrow hid
    have hunlocked : user.isLocked t = false := by
      by_contra hlocked
      simp only at hpasses hown
      rw [hentry, hown] at hpasses
      simp [passesCheck, checkedUser?, hlocked] at hpasses
    cases hentry
    obtain ⟨choice, hexec⟩ := hperform
    rw [(Prod.mk.inj hexec).1, User.isLocked, hlock]
    exact hunlocked
  · cases hfails : failsToCount u (Event.entry ⟨i, d.shared, a, r⟩) with
    | false => rfl
    | true =>
      unfold failsToCount at hfails
      split at hfails
      · rename_i id m n e hentry
        cases hentry
        cases (show guarded _ _ _ _ = true from hguarded)
      · cases hfails

/-- Runs in which calls do not overlap keep the rule under which guesses are bounded. -/
theorem guessesApart_of_inTurn (hclear : AllAccounted svc.config u [] w.db)
    (hrun : svc.machine.Reaches (evaluationsInTurn req).Keeps (svc.start w req) d) :
    svc.machine.Reaches (guessesApart svc.config u).Keeps (svc.start w req) d := by
  induction hrun with
  | refl => exact .refl
  | @tail b d hrun hstep ih =>
    obtain ⟨hmove, hkeeps⟩ := hstep
    refine ih.tail ⟨hmove, ?_⟩
    cases hmove with
    | idle hidle => exact ⟨fun e he => absurd he.symm (List.cons_ne_self e b.log), fun _ => trivial⟩
    | @call i a next r s hcall hperform =>
      constructor
      · intro e he
        obtain ⟨rfl, -⟩ := List.cons.inj he
        exact guess_in_turn hclear hrun hcall hperform (hkeeps.event _ rfl)
      · intro hsame
        exact absurd hsame (List.cons_ne_self _ _)

/-- In a guarded run only logins that passed their check evaluate wrong passwords. -/
theorem wrongGuesses_eq (hrun : svc.machine.Reaches (evaluationsGuarded req).Keeps (svc.start w req) d)
    {log : List LogEvent} (hlog : log <:+ d.log) : wrongGuesses u log = wrongEvaluations u log := by
  induction log with
  | nil => rfl
  | cons e older ih =>
    have ih := ih ((List.suffix_cons e older).trans hlog)
    have hsame : isWrong e.entry = true →
        (ownHistory e.caller older).any (fun x => (readUser? x).any fun user => user.id == u) =
          passesCheck u (ownHistory e.caller older) := by
      intro hwrong
      obtain ⟨password, hash, hentry⟩ := isWrong_iff.mp hwrong
      have hguard := guard_of_run hrun hlog
      have haction : e.action = .verifyPassword password hash := congrArg Sigma.fst hentry
      rw [haction] at hguard
      rcases hguard with ⟨r, ip, ua, user, t, -, hchecked, -, -⟩ | ⟨id, r, user, hchange, -, -, htrace⟩
      · rw [hchecked.passes, hchecked.trace]
        simp [readUser?]
      · obtain ⟨mid, next, s, hat, rfl⟩ := hrun.performedAt rfl hlog
        have hguarded :
          guarded (req e.caller) (ownHistory e.caller mid.log) mid.shared.now e.entry = true := hat.event_ok
        rw [hentry, hchange] at hguarded
        cases hguarded
    rw [wrongGuesses, wrongEvaluations, ih]
    cases hwrong : isWrong e.entry with
    | false => rfl
    | true => rw [hsame hwrong]

/-- In every run in which a change of the password compares only the right password of an active, unlocked
account, every evaluation is gated and counted; and where the calls do not overlap, no more wrong passwords
of an account are evaluated than the maximum before its lock expires. -/
theorem evaluations_gated (svc : AuthService) (w : World) (req : ℕ → Request) :
    (∀ d, svc.machine.Reaches (evaluationsGuarded req).Keeps (svc.start w req) d → EvaluationsGated svc d) ∧
    ∀ u d, 1 ≤ svc.config.maxLoginAttempts.toInt →
      (∀ row ∈ w.db.users, row.id = u → row.failedLoginAttempts = 0 ∧ row.lockedUntil = none) →
      svc.machine.Reaches (evaluationsInTurn req).Keeps (svc.start w req) d →
      GuessesWithinLimit svc.config u d := by
  constructor
  · intro d hrun
    exact evaluationsGated_of_run hrun
  · intro u d hmax hclear hrun hearly
    have haccounted : AllAccounted svc.config u [] w.db := fun row hrow hid =>
      ⟨(hclear row hrow hid).1, (hclear row hrow hid).2⟩
    have hguarded : svc.machine.Reaches (evaluationsGuarded req).Keeps (svc.start w req) d :=
      hrun.mono fun c d hkeeps => ⟨fun e he => (hkeeps.event e he).1, fun _ => trivial⟩
    rw [wrongGuesses_eq hguarded List.suffix_rfl]
    exact (gate_sound hmax haccounted (guessesApart_of_inTurn haccounted hrun)).bound hmax hearly

section Runs

open Reference

instance (req : ℕ → Request) (c : System) (e : LogEvent) : Decidable ((evaluationsGuarded req).event c e) :=
  inferInstanceAs (Decidable (guarded _ _ _ _ = true))

instance (req : ℕ → Request) (c : System) (e : LogEvent) : Decidable ((evaluationsInTurn req).event c e) :=
  inferInstanceAs (Decidable ((evaluationsGuarded req).event c e ∧ ∀ f ∈ c.log, _ → ¬ c.Running f.caller))

/-- A user registers and mistypes the password once before changing it; then come guesses at the password. -/
def evaluationRequests : ℕ → Request
  | 0 => .register ⟨"a@b.c", "Abcdefg1", "Abcdefg1", "A"⟩
  | 2 => .changePassword 1 ⟨"Abcdefg1", "Hijklmn2", "Hijklmn2"⟩
  | 8 => .changePassword 1 ⟨"guess", "Hijklmn2", "Hijklmn2"⟩
  | _ => .login ⟨"a@b.c", "guess"⟩ none none

/-- A wrong login, then a change of the password, one after the other. -/
def evaluationsGuardedMoves : List (Machine.Move ℕ Choice EnvMove) := moves 0 3 1 ++ moves 1 4 2 ++ moves 2 5 3

/-- Five wrong logins lock the account; then a change of the password evaluates one more guess. -/
def guessesByChange : List (Machine.Move ℕ Choice EnvMove) :=
  moves 0 3 1 ++ moves 3 4 2 ++ moves 4 4 2 ++ moves 5 4 2 ++ moves 6 4 2 ++ moves 7 4 2 ++ moves 8 2 3

/-- A wrong login is gated and counted where the calls come one after the other. -/
theorem evaluations_gated_in_turn : ∃ d, service.machine.Reaches (evaluationsInTurn evaluationRequests).Keeps
    (service.start world evaluationRequests) d ∧ (d.calls 2).succeeded = true ∧ wrongGuesses 1 d.log = 1 ∧
      EvaluationsGated service d ∧ GuessesWithinLimit config 1 d := by
  have hfacts : service.executor.Allows (evaluationsInTurn evaluationRequests)
    (fun _ => False) evaluationsGuardedMoves
        (service.start world evaluationRequests) ∧
      ((service.executor.play evaluationsGuardedMoves (service.start world evaluationRequests)).calls 2).succeeded =
        true ∧
      wrongGuesses 1 (service.executor.play evaluationsGuardedMoves (service.start world evaluationRequests)).log =
        1 := by
    decide +kernel
  obtain ⟨hallows, hchanged, hwrong⟩ := hfacts
  have hrun := hallows.reaches fun _ _ h => h.elim
  have hguarded := hrun.mono fun c d hkeeps =>
    (⟨fun e he => (hkeeps.event e he).1, fun _ => trivial⟩ : (evaluationsGuarded evaluationRequests).Keeps c d)
  obtain ⟨hgated, hbounded⟩ := evaluations_gated service world evaluationRequests
  refine ⟨_, hrun, hchanged, hwrong, hgated _ hguarded, ?_⟩
  exact hbounded 1 _ (by decide) (fun row hrow => absurd hrow (Table.not_mem_empty row)) hrun

/-- The state after these calls. -/
def sixGuesses : System := service.executor.play guessesByChange (service.start world evaluationRequests)

/-- The statement that counts a failure. -/
def isIncrement : Entry → Bool
  | ⟨.sql (.incrementFailedAttempts _ _ _), _⟩ => true
  | _ => false

/-- A sixth wrong password is evaluated while the account is locked, and is not counted. -/
theorem guess_by_change_uncounted : ∃ d, service.machine.Reaches (fun _ _ => True)
    (service.start world evaluationRequests) d ∧ ¬ EvaluationsGated service d ∧
    ¬ GuessesWithinLimit config 1 d := by
  have hfacts : (sixGuesses.calls 8).Ended ∧ (∀ g ∈ sixGuesses.log, g.caller = 8 → isIncrement g.entry = false) ∧
      (sixGuesses.log.head?.any fun e => e.caller == 8 && isWrong e.entry) = true ∧
      config.policy.lockingFailure (failureTimes 1 sixGuesses.log) = some 0 ∧
      sixGuesses.shared.now < 0 + config.policy.duration ∧ wrongGuesses 1 sixGuesses.log = 6 := by decide +kernel
  obtain ⟨hended, huncounted, hlast, hlock, hnow, hmany⟩ := hfacts
  refine ⟨sixGuesses, service.executor.play_reaches guessesByChange _, fun hgated => ?_, fun hwithin => ?_⟩
  · obtain ⟨e, hhead, hwrong⟩ := (Option.any_eq_true _ _).mp hlast
    obtain ⟨older, hlog⟩ := List.head?_eq_some_iff.mp hhead
    obtain ⟨hcaller, hwrong⟩ := Bool.and_eq_true_iff.mp hwrong
    obtain ⟨password, hash, hentry⟩ := isWrong_iff.mp hwrong
    rw [beq_iff_eq] at hcaller
    obtain ⟨f, -, user, -, -, -, -, -, -, hcounts⟩ :=
      hgated e older (hlog ▸ List.suffix_rfl) password hash (some false) hentry
    obtain ⟨g, newer, hg, -, hown, ⟨n, hstatement⟩, -⟩ := hcounts rfl (hcaller ▸ hended)
    have hnone := huncounted g (hg.subset List.mem_cons_self) (hown.trans hcaller)
    rw [hstatement] at hnone
    cases hnone
  · have hbound := hwithin fun t ht => Option.some.inj (hlock.symm.trans ht) ▸ hnow
    rw [hmany] at hbound
    exact absurd hbound (by decide)

end Runs

end RustPressAuth
