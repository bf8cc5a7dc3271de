import Mathlib.Data.Finset.Card
import Mathlib.Data.Finset.Dedup
import RustPressAuth.Lockout
import RustPressAuth.Throttle.Gate

/-!
# How many passwords can be tried

A login reads the lock of the account at its beginning and counts a failure at its end,
with the evaluation of the password in between. Logins that have passed the check
together are evaluated together, beyond the maximum; and one with the right password
records its success and clears a lock that was set meanwhile. The bound holds in every
run in which a login passes its check only while the stored row is not locked, and only
when no other one is pending or the pending ones leave room below the maximum.
-/

namespace RustPressAuth

open Atomic Program Machine Relational Throttle

/-- The user whose lock and status a login has checked, when both allow it to go on. -/
def checkedUser? (h : Trace) : Option User :=
  match h.reverse with
  | ⟨.sql (.selectUserByEmail _), .ok (some user)⟩ :: ⟨.now, (t : Instant)⟩ :: _ =>
    if !user.isLocked t && user.status == .active then some user else none
  | _ => none

/-- The login has passed its check of the account of `u`. -/
def passesCheck (u : Uuid) (h : Trace) : Bool := (checkedUser? h).any fun user => user.id == u

/-- The success of a login of `u` was recorded. -/
def recordsSuccess (u : Uuid) : Entry → Bool
  | ⟨.sql (.recordSuccessfulLogin id _), .ok _⟩ => id == u
  | _ => false

/-- A failure of `u` could not be counted. -/
def failsToCount (u : Uuid) : Entry → Bool
  | ⟨.sql (.incrementFailedAttempts id _ _), .error _⟩ => id == u
  | _ => false

/-- A password was evaluated and found wrong. -/
def isWrong : Entry → Bool
  | ⟨.verifyPassword _ _, some false⟩ => true
  | _ => false

/-- The login has passed its check of `u`, has reported neither failure nor success, and has not ended. -/
def PendingLogin (u : Uuid) (c : System) (i : ℕ) : Prop :=
  passesCheck u (ownHistory i c.log) = true ∧
    (ownHistory i c.log).any (fun x => countsFailure u x || recordsSuccess u x) = false ∧ ¬ (c.calls i).Ended

instance (u : Uuid) (c : System) : DecidablePred (PendingLogin u c) :=
  fun i => inferInstanceAs (Decidable (_ ∧ _ ∧ ¬ (c.calls i).Ended))

/-- The logins that are pending. -/
def pendingLogins (u : Uuid) (c : System) : Finset ℕ :=
  (c.log.map Event.caller).toFinset.filter (PendingLogin u c)

/-- The pending logins whose password was found wrong. -/
def waitingLogins (u : Uuid) (c : System) : Finset ℕ :=
  (pendingLogins u c).filter fun i => (ownHistory i c.log).head?.any isWrong = true

/-- The wrong passwords that logins of `u` evaluated since its failures were last cleared. -/
def wrongEvaluations (u : Uuid) : List LogEvent → ℕ
  | [] => 0
  | e :: older =>
    if clearsFailures u e.entry then 0
    else if isWrong e.entry && passesCheck u (ownHistory e.caller older) then wrongEvaluations u older + 1
    else wrongEvaluations u older

/-- The lockout policy of a configuration. -/
def AuthConfig.policy (cfg : AuthConfig) : Policy where
  limit := cfg.maxLoginAttempts.toInt
  duration := intervalMicros cfg.lockoutDuration

/-- Guessing is bounded: before the lock set by the failure that reached the maximum has expired, no
more wrong passwords were evaluated than the maximum, and no success was recorded during a lock. -/
structure GuessingBounded (cfg : AuthConfig) (u : Uuid) (d : System) : Prop where
  guesses : (∀ t, cfg.policy.lockingFailure (failureTimes u d.log) = some t →
    d.shared.now < t + cfg.policy.duration) →
    (wrongEvaluations u d.log : ℤ) ≤ cfg.maxLoginAttempts.toInt
  success : ∀ e ∈ d.log, recordsSuccess u e.entry = true →
    ∀ row ∈ e.before.db.users, row.id = u → row.isLocked e.before.now = false

/-- When a login passes its check of `u`, the stored row is not locked, and no other login is pending
or the failures and the pending logins leave room below the maximum; failures are counted without
an error. -/
def guessesApart (cfg : AuthConfig) (u : Uuid) : Rule ℕ Action Action.Reply Failure Response World :=
  .ofEvent fun c e =>
    (passesCheck u (e.entry :: ownHistory e.caller c.log) = true →
      passesCheck u (ownHistory e.caller c.log) = false →
      ∀ row ∈ c.shared.db.users.rows, row.id = u → row.isLocked c.shared.now = false ∧
        (pendingLogins u c = ∅ ∨ row.failedLoginAttempts + (pendingLogins u c).card < cfg.maxLoginAttempts.toInt)) ∧
    failsToCount u e.entry = false

variable {svc : AuthService} {cfg : AuthConfig} {u : Uuid} {c d : System} {h : Trace} {x : Entry}

/-- After its first two actions, the outcome of the check stays. -/
theorem checkedUser?_cons {y z : Entry} : checkedUser? (x :: (h ++ [z, y])) = checkedUser? (h ++ [z, y]) := by
  simp only [checkedUser?, List.reverse_cons, List.reverse_append, List.reverse_nil, List.nil_append,
    List.cons_append]
  split
  · rename_i heq
    obtain ⟨rfl, hrest⟩ := List.cons.inj heq
    obtain ⟨rfl, -⟩ := List.cons.inj hrest
    rfl
  · rename_i hother
    split
    · rename_i heq
      obtain ⟨rfl, hrest⟩ := List.cons.inj heq
      obtain ⟨rfl, -⟩ := List.cons.inj hrest
      exact absurd rfl (hother _ _ _ _)
    · rfl

/-- A login passes its check when it reads the clock, right after it read the user. -/
theorem passesCheck_now (hpasses : passesCheck u (x :: h) = true) (hbefore : passesCheck u h = false) :
    ∃ t email user, x = did .now t ∧ h = [executed (.selectUserByEmail email) (some user)] ∧ user.id = u := by
  rcases List.eq_nil_or_concat' h with rfl | ⟨h', y, rfl⟩
  · simp [passesCheck, checkedUser?] at hpasses
  rcases List.eq_nil_or_concat' h' with rfl | ⟨h', z, rfl⟩
  · simp only [passesCheck, checkedUser?, List.nil_append, List.reverse_cons, List.reverse_nil] at hpasses
    split at hpasses
    · rename_i email user t rest heq
      cases heq
      split at hpasses
      · exact ⟨t, email, user, rfl, rfl, by simpa using hpasses⟩
      · simp at hpasses
    · simp at hpasses
  · rw [List.append_assoc] at hpasses hbefore
    rw [passesCheck, List.cons_append, List.nil_append, checkedUser?_cons] at hpasses
    rw [passesCheck, List.cons_append, List.nil_append, hpasses] at hbefore
    cases hbefore

/-- A login that is past its check has passed it for the user it read. -/
theorem LoginChecked.passes {email : String} {user : User} {t : Instant} (hchecked : LoginChecked email user t h) :
    passesCheck u h = (user.id == u) := by
  rw [hchecked.trace]
  simp [passesCheck, checkedUser?, hchecked.unlocked, hchecked.active]

/-- A login that has compared a password has passed the check of the user it read. -/
theorem LoginVerified.passes {r : LoginRequest} {user : User} {t : Instant}
    (hverified : LoginVerified svc r user t h) :
    passesCheck u h = (user.id == u) := by
  rw [hverified.trace]
  simp [passesCheck, checkedUser?, hverified.unlocked, hverified.active]

/-- After its first two actions, whether a call passes its check stays. -/
theorem passesCheck_cons (hpasses : passesCheck u h = true) : passesCheck u (x :: h) = true := by
  rcases List.eq_nil_or_concat' h with rfl | ⟨h', y, rfl⟩
  · cases hpasses
  rcases List.eq_nil_or_concat' h' with rfl | ⟨h', z, rfl⟩
  · simp [passesCheck, checkedUser?] at hpasses
  · rw [List.append_assoc] at hpasses ⊢
    rw [passesCheck, List.cons_append, List.nil_append, checkedUser?_cons]
    exact hpasses

/-- Only logins that have passed their check compare a password after it. -/
theorem loginChecked_of_guard {r : Request} {password hash : String} (hpasses : passesCheck u h = true)
    (hguard : ActionGuard svc r h (.verifyPassword password hash)) :
    ∃ req ip ua user t, r = .login req ip ua ∧ LoginChecked req.email user t h ∧ user.id = u := by
  rcases hguard with ⟨req, ip, ua, user, t, rfl, hchecked, -, -⟩ | ⟨id, req, user, -, -, -, rfl⟩
  · rw [hchecked.passes, beq_iff_eq] at hpasses
    exact ⟨req, ip, ua, user, t, rfl, hchecked, hpasses⟩
  · simp [passesCheck, checkedUser?] at hpasses

/-- A login whose password was wrong goes on to count the failure. -/
theorem login_after_wrong {r : LoginRequest} {ip ua : Option String} {password hash : String} {user : User}
    {t : Instant} {p : Program Action Action.Reply Failure Response} (hchecked : LoginChecked r.email user t h)
    (hleads : (svc.serve (.login r ip ua)).LeadsTo (did (.verifyPassword password hash) (some false) :: h) p) :
    ∃ m n next, p = .act (.sql (.incrementFailedAttempts user.id m n)) next := by
  rw [hchecked.trace] at hleads
  simp only [leadsTo_cons, leadsTo_nil] at hleads
  obtain ⟨next₃, ⟨next₂, ⟨next₁, hselect, hnow⟩, hverify⟩, rfl⟩ := hleads
  cases hselect
  cases hnow
  simp only [bind_eq, Program.bind, runIf, hchecked.unlocked, hchecked.active, bne_self_eq_false,
    Bool.false_eq_true, if_false] at hverify
  cases hverify
  exact ⟨_, _, _, rfl⟩

/-- The pending logins are those that are pending. -/
theorem mem_pendingLogins {i : ℕ} : i ∈ pendingLogins u c ↔ PendingLogin u c i := by
  simp only [pendingLogins, Finset.mem_filter, List.mem_toFinset, List.mem_map, and_iff_right_iff_imp]
  intro hpending
  have hsome : ownHistory i c.log ≠ [] := by
    intro hnil
    have hpasses := hpending.1
    rw [hnil] at hpasses
    cases hpasses
  obtain ⟨x, hx⟩ := List.exists_mem_of_ne_nil _ hsome
  obtain ⟨e, he, hcaller, -⟩ := mem_ownHistory.mp hx
  exact ⟨e, he, hcaller⟩

/-- The policy of the configuration locks as the service does. -/
theorem lockEnd_policy (times : List Instant) : cfg.policy.lockEnd times = cfg.lockEnd times := by
  cases times <;> rfl

/-- The gate of the account of `u`. -/
def gate (u : Uuid) (c : System) : Gate where
  times := failureTimes u c.log
  pending := (pendingLogins u c).card
  waiting := (waitingLogins u c).card
  wrong := wrongEvaluations u c.log
  within := Finset.card_filter_le _ _

/-- Whether a member is added or removed decides how the size of a set changes. -/
theorem card_of_agree {S T : Finset ℕ} {i : ℕ} (hagree : ∀ j, j ≠ i → (j ∈ T ↔ j ∈ S)) :
    T.card + (if i ∈ S then 1 else 0) = S.card + (if i ∈ T then 1 else 0) := by
  have herase : T.erase i = S.erase i := by
    ext j
    simp only [Finset.mem_erase, ne_eq, and_congr_right_iff]
    exact hagree j
  have hcard (U : Finset ℕ) : U.card = (U.erase i).card + (if i ∈ U then 1 else 0) := by
    by_cases hi : i ∈ U
    · rw [if_pos hi, Finset.card_erase_add_one hi]
    · rw [if_neg hi, Finset.erase_eq_of_notMem hi, Nat.add_zero]
  rw [hcard T, hcard S, herase]
  omega

/-- An entry is a wrong guess exactly if it is a comparison that fails. -/
theorem isWrong_iff : isWrong x = true ↔ ∃ password hash, x = did (.verifyPassword password hash) (some false) := by
  constructor
  · intro hwrong
    unfold isWrong at hwrong
    split at hwrong
    · exact ⟨_, _, rfl⟩
    · cases hwrong
  · rintro ⟨password, hash, rfl⟩
    rfl

/-- An action other than reading the clock does not make a call pass its check. -/
theorem passes_before (hpasses : passesCheck u (x :: h) = true) (hx : ∀ t, x ≠ did .now t) :
    passesCheck u h = true := by
  by_contra hbefore
  obtain ⟨t, email, user, hnow, -, -⟩ := passesCheck_now hpasses (Bool.eq_false_iff.mpr hbefore)
  exact hx t hnow

section Advance

variable {i : ℕ} {a : Action} {r : a.Reply} {s : World} {rest : Program Action Action.Reply Failure Response}

/-- Other calls stay pending, or not, as they were. -/
theorem pendingLogin_other {j : ℕ} (hij : j ≠ i) : PendingLogin u (c.advance i a r s rest) j ↔
    PendingLogin u c j := by
  simp only [PendingLogin, Config.advance, ownHistory_cons, if_neg (Ne.symm hij), Function.update_of_ne hij]

/-- A login is pending after its own action exactly if it has passed a check by then, has neither counted nor
cleared failures, and goes on. -/
theorem pendingLogin_self : PendingLogin u (c.advance i a r s rest) i ↔
    passesCheck u (⟨a, r⟩ :: ownHistory i c.log) = true ∧
      (countsFailure u ⟨a, r⟩ = false ∧ recordsSuccess u ⟨a, r⟩ = false) ∧
      (ownHistory i c.log).any (fun x => countsFailure u x || recordsSuccess u x) = false ∧ ¬ rest.Ended := by
  simp only [PendingLogin, Config.advance, ownHistory_cons, if_true, Event.entry_mk, Function.update_self,
    List.any_cons, Bool.or_eq_false_iff, and_assoc]

/-- How the numbers of pending and of waiting logins change when a call moves. -/
theorem pending_advance (u : Uuid) (c : System) (i : ℕ) (r : a.Reply) (s : World)
    (rest : Program Action Action.Reply Failure Response) :
    (gate u (c.advance i a r s rest)).pending + (if PendingLogin u c i then 1 else 0) =
    (gate u c).pending + (if PendingLogin u (c.advance i a r s rest) i then 1 else 0) := by
  have hcard := card_of_agree (S := pendingLogins u c) (T := pendingLogins u (c.advance i a r s rest)) (i := i)
    (fun j hij => by rw [mem_pendingLogins, mem_pendingLogins, pendingLogin_other hij])
  simp only [mem_pendingLogins] at hcard
  exact hcard

/-- An action moves only its own call in or out of those that wait. -/
theorem waiting_advance (u : Uuid) (c : System) (i : ℕ) (r : a.Reply) (s : World)
    (rest : Program Action Action.Reply Failure Response) :
    (gate u (c.advance i a r s rest)).waiting + (if i ∈ waitingLogins u c then 1 else 0) =
    (gate u c).waiting + (if i ∈ waitingLogins u (c.advance i a r s rest) then 1 else 0) := by
  have hagree (j : ℕ) (hij : j ≠ i) : j ∈ waitingLogins u (c.advance i a r s rest) ↔ j ∈ waitingLogins u c := by
    simp only [waitingLogins, Finset.mem_filter, mem_pendingLogins, pendingLogin_other hij]
    simp only [Config.advance, ownHistory_cons, if_neg (Ne.symm hij)]
  exact card_of_agree hagree

/-- A call that moves without becoming pending adds no pending login. -/
theorem pending_le (hbefore : PendingLogin u (c.advance i a r s rest) i → PendingLogin u c i) :
    (gate u (c.advance i a r s rest)).pending ≤ (gate u c).pending := by
  have hpending := pending_advance u c i r s rest
  by_cases hafter : PendingLogin u (c.advance i a r s rest) i
  · rw [if_pos hafter, if_pos (hbefore hafter)] at hpending
    omega
  · rw [if_neg hafter] at hpending
    omega

/-- A call that was not waiting takes no waiting login away. -/
theorem waiting_le (hbefore : i ∉ waitingLogins u c) :
    (gate u c).waiting ≤ (gate u (c.advance i a r s rest)).waiting := by
  have hwaiting := waiting_advance u c i r s rest
  rw [if_neg hbefore] at hwaiting
  omega

/-- A call takes at most itself away. -/
theorem waiting_le_succ : (gate u c).waiting ≤ (gate u (c.advance i a r s rest)).waiting + 1 := by
  have hwaiting := waiting_advance u c i r s rest
  split at hwaiting <;> omega

end Advance

/-- A call moves, in a run that keeps the rule. -/
structure AllowedStep (svc : AuthService) (u : Uuid) (w : World) (req : ℕ → Request) (c : System) (i : ℕ)
    (a : Action) (next : a.Reply → Program Action Action.Reply Failure Response) (r : a.Reply)
    (s : World) : Prop where
  clear : AllAccounted svc.config u [] w.db
  run : svc.machine.Reaches (guessesApart svc.config u).Keeps (svc.start w req) c
  call : c.calls i = .act a next
  perform : svc.machine.perform a c.shared r s
  allowed : (guessesApart svc.config u).event c ⟨i, c.shared, a, r⟩

namespace AllowedStep

variable {w : World} {req : ℕ → Request} {i : ℕ} {a : Action}
  {next : a.Reply → Program Action Action.Reply Failure Response} {r : a.Reply} {s : World}

/-- The action is one that the protocol allows. -/
theorem guard (hstep : AllowedStep svc u w req c i a next r s) :
    ActionGuard svc (req i) (ownHistory i c.log) a := by
  have hobeys := hstep.run.obeys (fun i => svc.protocol (req i)) start_obeys i
  rw [hstep.call] at hobeys
  exact hobeys.1

/-- The call can go on. -/
theorem goesOn (hstep : AllowedStep svc u w req c i a next r s) : ¬ (c.calls i).Ended := by
  rw [hstep.call]
  rintro ⟨res, hres⟩
  cases hres

/-- The call has come to what is left of it by its history. -/
theorem leadsTo (hstep : AllowedStep svc u w req c i a next r s) :
    (svc.serve (req i)).LeadsTo (⟨a, r⟩ :: ownHistory i c.log) (next r) := by
  have hleads := hstep.run.leadsTo rfl i
  rw [hstep.call] at hleads
  exact hleads.act

/-- A waiting login counts its failure next. -/
theorem increments (hstep : AllowedStep svc u w req c i a next r s) (hwaiting : i ∈ waitingLogins u c) :
    countsFailure u ⟨a, r⟩ = true := by
  obtain ⟨hpending, hlast⟩ := Finset.mem_filter.mp hwaiting
  have hpasses := (mem_pendingLogins.mp hpending).1
  have hleads := hstep.run.leadsTo rfl i
  obtain ⟨x, h, hown⟩ : ∃ x h, ownHistory i c.log = x :: h := by
    cases hown : ownHistory i c.log with
    | nil => simp [hown] at hlast
    | cons x h => exact ⟨x, h, rfl⟩
  rw [hown] at hlast hpasses
  obtain ⟨password, hash, rfl⟩ := isWrong_iff.mp (by simpa using hlast)
  have hbefore := passes_before hpasses (by simp)
  have hsuffix : did (.verifyPassword password hash) (some false) :: h <:+ ownHistory i c.log := by
    rw [hown]
  obtain ⟨e, older, he, hcaller, hentry, hrest⟩ := exists_event_of_suffix hsuffix
  have hguard := guard_of_run hstep.run he
  rw [hcaller, hrest] at hguard
  obtain ⟨j, s', a', r'⟩ := e
  cases hentry
  obtain ⟨req', ip, ua, user, t, hreq, hchecked, hid⟩ := loginChecked_of_guard hbefore hguard
  rw [hown] at hleads
  simp only [AuthService.start, Config.start, hreq] at hleads
  obtain ⟨m, n, next', hcalls⟩ := login_after_wrong hchecked hleads
  rw [hstep.call] at hcalls
  cases hcalls
  cases r with
  | ok v => simpa [countsFailure] using hid
  | error e =>
    have hcounted := hstep.allowed.2
    simp [failsToCount, hid] at hcounted

/-- A login becomes pending only when it passes its check. -/
theorem pending_before (hstep : AllowedStep svc u w req c i a next r s)
    (hafter : PendingLogin u (c.advance i a r s (next r)) i)
    (hpasses : passesCheck u (ownHistory i c.log) = true) : PendingLogin u c i :=
  ⟨hpasses, (pendingLogin_self.mp hafter).2.2.1, hstep.goesOn⟩

/-- When a login passes its check, the lock has expired, and there is room for it. -/
theorem pass (hstep : AllowedStep svc u w req c i a next r s) (hbefore : ¬ PendingLogin u c i)
    (hafter : PendingLogin u (c.advance i a r s (next r)) i) :
    Throttle.Move svc.config.policy c.shared.now (gate u c) (gate u (c.advance i a r s (next r))) := by
  have hnot : passesCheck u (ownHistory i c.log) = false := by
    by_contra hpasses
    exact hbefore (hstep.pending_before hafter (Bool.not_eq_false _ ▸ hpasses))
  have hpasses := (pendingLogin_self.mp hafter).1
  have hnow := hstep.allowed.1 hpasses hnot
  obtain ⟨t, email, user, hentry, hown, hid⟩ := passesCheck_now hpasses hnot
  have hsuffix : [executed (.selectUserByEmail email) (some user)] <:+ ownHistory i c.log := by
    rw [hown]
  obtain ⟨e, -, -, -, -, row, hrow, hlater⟩ := user_of_read hstep.run hsuffix rfl
  have hrowId : row.id = u := hlater.id.trans hid
  have haccounted := allAccounted_of_run hstep.clear hstep.run row hrow hrowId
  obtain ⟨hunlocked, hroom⟩ := hnow row hrow hrowId
  have hpending := pending_advance u c i r s (next r)
  have hnotWaiting : i ∉ waitingLogins u c := fun h => hbefore (mem_pendingLogins.mp (Finset.mem_filter.mp h).1)
  rw [if_neg hbefore, if_pos hafter] at hpending
  cases hentry
  apply Throttle.Move.pass
  · intro t' ht'
    rw [lockEnd_policy] at ht'
    have hlock : row.lockedUntil = some t' := haccounted.lock.trans ht'
    simpa [User.isLocked, hlock] using hunlocked
  · rcases hroom with hnone | hfew
    · exact Or.inl (Finset.card_eq_zero.mpr hnone)
    · rw [haccounted.failures] at hfew
      exact Or.inr hfew
  · rfl
  · exact hpending
  · exact waiting_le hnotWaiting
  · rfl

/-- A login that counts its failure is pending no more. -/
theorem fail (hstep : AllowedStep svc u w req c i a next r s) (hcounts : countsFailure u ⟨a, r⟩ = true) :
    Throttle.Move svc.config.policy c.shared.now (gate u c) (gate u (c.advance i a r s (next r))) := by
  have hpending := pending_advance u c i r s (next r)
  have hguard := hstep.guard
  have hgoesOn := hstep.goesOn
  have hafter : ¬ PendingLogin u (c.advance i a r s (next r)) i := by
    rw [pendingLogin_self, hcounts]
    simp
  unfold countsFailure at hcounts
  split at hcounts
  · rename_i id m n v hentry
    cases hentry
    obtain ⟨req', ip, ua, user, t, h, -, hchecked, rfl, -, -, hown⟩ := hguard
    have hpasses : passesCheck u h = true := by
      rw [hchecked.passes]
      exact hcounts
    have hbefore : PendingLogin u c i := by
      refine ⟨?_, ?_, hgoesOn⟩
      · rw [hown]
        exact passesCheck_cons hpasses
      · rw [hown, hchecked.trace]
        rfl
    rw [if_pos hbefore, if_neg hafter] at hpending
    apply Throttle.Move.fail
    · show failuresAfter u _ _ _ = _
      simp [failuresAfter, countsFailure, hcounts]
      rfl
    · exact hpending
    · exact waiting_le_succ
    · rfl
  · cases hcounts

/-- A recorded success, or a new row, clears the failures. -/
theorem succeed (hcounts : countsFailure u ⟨a, r⟩ = false) (hclears : clearsFailures u ⟨a, r⟩ = true)
    (hbefore : PendingLogin u (c.advance i a r s (next r)) i → PendingLogin u c i) :
    Throttle.Move svc.config.policy c.shared.now (gate u c) (gate u (c.advance i a r s (next r))) := by
  apply Throttle.Move.succeed
  · show failuresAfter u _ _ _ = _
    simp [failuresAfter, hcounts, hclears]
  · exact pending_le hbefore
  · show (if clearsFailures u ⟨a, r⟩ then 0 else _) = 0
    rw [if_pos hclears]

/-- A pending login that finds its password wrong waits to count the failure. -/
theorem evaluate (hstep : AllowedStep svc u w req c i a next r s) (hwrong : isWrong ⟨a, r⟩ = true)
    (hpasses : passesCheck u (ownHistory i c.log) = true) :
    Throttle.Move svc.config.policy c.shared.now (gate u c) (gate u (c.advance i a r s (next r))) := by
  have hguard := hstep.guard
  have hgoesOn := hstep.goesOn
  have hleads := hstep.leadsTo
  have hpending := pending_advance u c i r s (next r)
  have hwaiting := waiting_advance u c i r s (next r)
  obtain ⟨password, hash, hentry⟩ := isWrong_iff.mp hwrong
  cases hentry
  obtain ⟨req', ip, ua, user, t, hreq, hchecked, hid⟩ := loginChecked_of_guard hpasses hguard
  rw [hreq] at hleads
  obtain ⟨m, n, next', hrest⟩ := login_after_wrong hchecked hleads
  have hquiet : (ownHistory i c.log).any (fun x => countsFailure u x || recordsSuccess u x) = false := by
    rw [hchecked.trace]
    rfl
  have hbefore : PendingLogin u c i := ⟨hpasses, hquiet, hgoesOn⟩
  have hafter :
    PendingLogin u (c.advance i (.verifyPassword password hash) (some false) s (next (some false))) i := by
    refine pendingLogin_self.mpr ⟨passesCheck_cons hpasses, ⟨rfl, rfl⟩, hquiet, ?_⟩
    rw [hrest]
    rintro ⟨res, hres⟩
    cases hres
  have hnotWaiting : i ∉ waitingLogins u c := by
    intro h
    have hlast := (Finset.mem_filter.mp h).2
    rw [hchecked.trace] at hlast
    cases hlast
  have hnowWaiting : i ∈ waitingLogins u
      (c.advance i (.verifyPassword password hash) (some false) s (next (some false))) := by
    apply Finset.mem_filter.mpr
    refine ⟨mem_pendingLogins.mpr hafter, ?_⟩
    simp [Config.advance, isWrong]
  rw [if_pos hbefore, if_pos hafter] at hpending
  rw [if_neg hnotWaiting, if_pos hnowWaiting] at hwaiting
  apply Throttle.Move.evaluate
  · rfl
  · omega
  · exact hwaiting
  · show (if isWrong _ && passesCheck u (ownHistory i c.log) then _ else _) = _
    rw [hpasses]
    rfl

/-- Every other step leaves the failures as they are. -/
theorem leave (hstep : AllowedStep svc u w req c i a next r s) (hcounts : countsFailure u ⟨a, r⟩ = false)
    (hclears : clearsFailures u ⟨a, r⟩ = false)
    (hwrong : isWrong ⟨a, r⟩ = true → passesCheck u (ownHistory i c.log) = false)
    (hbefore : PendingLogin u (c.advance i a r s (next r)) i → PendingLogin u c i) :
    Throttle.Move svc.config.policy c.shared.now (gate u c) (gate u (c.advance i a r s (next r))) := by
  have hnotWaiting : i ∉ waitingLogins u c := by
    intro h
    rw [hstep.increments h] at hcounts
    cases hcounts
  apply Throttle.Move.leave
  · exact failuresAfter_eq hcounts hclears
  · exact pending_le hbefore
  · exact waiting_le hnotWaiting
  · show (if clearsFailures u ⟨a, r⟩ then _
      else if isWrong ⟨a, r⟩ && passesCheck u (ownHistory i c.log) then _ else _) = _
    rw [hclears, if_neg Bool.false_ne_true, if_neg]
    · rfl
    · intro h
      obtain ⟨hiswrong, hpasses⟩ := Bool.and_eq_true_iff.mp h
      rw [hwrong hiswrong] at hpasses
      cases hpasses

/-- Every allowed step of a call is a move at the gate. -/
theorem move (hstep : AllowedStep svc u w req c i a next r s) :
    Throttle.Move svc.config.policy c.shared.now (gate u c) (gate u (c.advance i a r s (next r))) := by
  by_cases hnew : ¬ PendingLogin u c i ∧ PendingLogin u (c.advance i a r s (next r)) i
  · exact hstep.pass hnew.1 hnew.2
  have hbefore (hafter : PendingLogin u (c.advance i a r s (next r)) i) : PendingLogin u c i := by
    by_contra h
    exact hnew ⟨h, hafter⟩
  by_cases hcounts : countsFailure u ⟨a, r⟩ = true
  · exact hstep.fail hcounts
  rw [Bool.not_eq_true] at hcounts
  by_cases hclears : clearsFailures u ⟨a, r⟩ = true
  · exact succeed hcounts hclears hbefore
  rw [Bool.not_eq_true] at hclears
  by_cases hwrong : isWrong ⟨a, r⟩ = true ∧ passesCheck u (ownHistory i c.log) = true
  · exact hstep.evaluate hwrong.1 hwrong.2
  · apply hstep.leave hcounts hclears _ hbefore
    intro h
    exact Bool.eq_false_iff.mpr fun hpasses => hwrong ⟨h, hpasses⟩

end AllowedStep

section Run

variable {w : World} {req : ℕ → Request}

/-- In every run that keeps the rule, the gate of the account stays sound. -/
theorem gate_sound (hmax : 1 ≤ svc.config.maxLoginAttempts.toInt) (hclear : AllAccounted svc.config u [] w.db)
    (hrun : svc.machine.Reaches (guessesApart svc.config u).Keeps (svc.start w req) d) :
    Sound svc.config.policy d.shared.now (gate u d) := by
  induction hrun with
  | refl => exact Sound.start hmax rfl rfl rfl
  | @tail c d hrun hlast ih =>
    obtain ⟨hstep, hkeeps⟩ := hlast
    have hlater : c.shared.Precedes d.shared := Reaches.monotone svc.machine_monotone
      (Relation.ReflTransGen.single ⟨hstep, trivial⟩ : svc.machine.Reaches (fun _ _ => True) c d)
    have hnow : c.shared.now ≤ d.shared.now := Int.ofNat_le.mpr hlater.clock
    apply Sound.later _ hnow
    cases hstep with
    | idle hidle => exact ih
    | call hcall hperform =>
      have hallowed : AllowedStep svc u w req _ _ _ _ _ _ := ⟨hclear, hrun, hcall, hperform, hkeeps.event _ rfl⟩
      exact ih.move hmax hallowed.move

/-- A login that records its success has passed its check and is pending. -/
theorem pending_of_success (hrun : svc.machine.Reaches (guessesApart svc.config u).Keeps (svc.start w req) d)
    {e : LogEvent} {older : List LogEvent} (he : (e :: older) <:+ d.log)
    (hsuccess : recordsSuccess u e.entry = true) :
    ∃ mid, svc.machine.Reaches (guessesApart svc.config u).Keeps (svc.start w req) mid ∧ mid.shared = e.before ∧
      PendingLogin u mid e.caller := by
  obtain ⟨mid, next, s, hat, rfl⟩ := hrun.performedAt rfl he
  have hguard := guard_of_run hrun he
  refine ⟨mid, hat.run, hat.before, ?_⟩
  have hgoesOn : ¬ (mid.calls e.caller).Ended := by
    rw [hat.call]
    rintro ⟨res, hres⟩
    cases hres
  obtain ⟨i, s', a, r⟩ := e
  unfold recordsSuccess at hsuccess
  split at hsuccess
  · rename_i id ip n hentry
    cases hentry
    obtain ⟨req', ua, user, t, -, rfl, hverified⟩ := hguard
    refine ⟨?_, ?_, hgoesOn⟩
    · rw [hverified.passes]
      exact hsuccess
    · rw [hverified.trace]
      rfl
  · cases hsuccess

/-- From where the failures of `u` are clear, guessing its password is bounded in every run in which
logins pass their check only while the row is not locked and there is room below the maximum. -/
theorem guessing_bounded (svc : AuthService) (u : Uuid) (w : World) (req : ℕ → Request) (d : System)
    (hmax : 1 ≤ svc.config.maxLoginAttempts.toInt)
    (hclear : ∀ row ∈ w.db.users, row.id = u → row.failedLoginAttempts = 0 ∧ row.lockedUntil = none)
    (hrun : svc.machine.Reaches (guessesApart svc.config u).Keeps (svc.start w req) d) :
    GuessingBounded svc.config u d := by
  have haccounted : AllAccounted svc.config u [] w.db := fun row hrow hid =>
    ⟨(hclear row hrow hid).1, (hclear row hrow hid).2⟩
  constructor
  · intro hearly
    exact (gate_sound hmax haccounted hrun).bound hmax hearly
  · intro e he hsuccess row hrow hid
    obtain ⟨older, hsuffix⟩ := exists_suffix_of_mem he
    obtain ⟨mid, hmid, hbefore, hpending⟩ := pending_of_success hrun hsuffix hsuccess
    rw [← hbefore] at hrow ⊢
    have hsome : (gate u mid).pending ≠ 0 := Finset.card_ne_zero_of_mem (mem_pendingLogins.mpr hpending)
    have hquiet := (gate_sound hmax haccounted hmid).quiet hsome
    have hlock := (allAccounted_of_run haccounted hmid row hrow hid).lock
    cases hend : row.lockedUntil with
    | none => rw [User.isLocked, hend]
    | some t =>
      rw [hend] at hlock
      have hpast := hquiet t ((lockEnd_policy _).trans hlock.symm)
      simpa [User.isLocked, hend] using hpast

end Run

section Runs

open Reference

instance (cfg : AuthConfig) (u : Uuid) (c : System) (e : LogEvent) : Decidable ((guessesApart cfg u).event c e) :=
  inferInstanceAs (Decidable ((_ → _ → ∀ row ∈ c.shared.db.users.rows, _ → _ ∧ _) ∧ _))

/-- A user registers; then logins with a wrong password, and one with the right one. -/
def guessRequests : ℕ → Request
  | 0 => .register ⟨"a@b.c", "Abcdefg1", "Abcdefg1", "A"⟩
  | 7 => .login ⟨"a@b.c", "Abcdefg1"⟩ none none
  | _ => .login ⟨"a@b.c", "wrong"⟩ none none

/-- Two guesses at once, then three more one after the other. -/
def guessesInTurn : List (Machine.Move ℕ Choice EnvMove) :=
  moves 0 3 1 ++ moves 1 3 2 ++ moves 2 4 2 ++ moves 1 1 2 ++ moves 3 4 2 ++ moves 4 4 2 ++ moves 5 4 2

/-- Six guesses and the right password are evaluated before the first failure is counted. -/
def guessesAtOnce : List (Machine.Move ℕ Choice EnvMove) :=
  moves 0 3 1 ++ moves 1 3 2 ++ moves 2 3 2 ++ moves 3 3 2 ++ moves 4 3 2 ++ moves 5 3 2 ++ moves 6 3 2 ++
    moves 7 3 2

/-- Five wrong passwords one after the other lock the account within the bound. -/
theorem guessing_bounded_in_turn : ∃ d, service.machine.Reaches (guessesApart config 1).Keeps
    (service.start world guessRequests) d ∧ GuessingBounded config 1 d ∧ wrongEvaluations 1 d.log = 5 := by
  have hfacts : service.executor.Allows (guessesApart config 1) (fun _ => False) guessesInTurn
        (service.start world guessRequests) ∧
      wrongEvaluations 1 (service.executor.play guessesInTurn (service.start world guessRequests)).log = 5 := by
    decide +kernel
  obtain ⟨hallows, hmany⟩ := hfacts
  have hrun := hallows.reaches fun _ _ h => h.elim
  refine ⟨_, hrun, ?_, hmany⟩
  exact guessing_bounded service 1 world guessRequests _ (by decide)
    (fun row hrow => absurd hrow (Table.not_mem_empty row)) hrun

/-- Six guesses are evaluated before any is counted; and a success is recorded during the lock that
the first five of them set. -/
theorem guesses_outrun_lockout :
    ∃ d d', service.machine.Reaches (fun _ _ => True) (service.start world guessRequests) d ∧
    service.machine.Reaches (fun _ _ => True) d d' ∧ ¬ GuessingBounded config 1 d ∧
    ∃ e ∈ d'.log, recordsSuccess 1 e.entry = true ∧
      ∃ row ∈ e.before.db.users.rows, row.id = 1 ∧ row.isLocked e.before.now = true := by
  have hfacts : failureTimes 1 (service.executor.play guessesAtOnce (service.start world guessRequests)).log = [] ∧
      wrongEvaluations 1 (service.executor.play guessesAtOnce (service.start world guessRequests)).log = 6 ∧
      ∃ e ∈ (service.executor.play (moves 1 1 2 ++ moves 2 1 2 ++ moves 3 1 2 ++ moves 4 1 2 ++
        moves 5 1 2 ++ moves 7 1 2)
        (service.executor.play guessesAtOnce (service.start world guessRequests))).log,
        recordsSuccess 1 e.entry = true ∧
        ∃ row ∈ e.before.db.users.rows, row.id = 1 ∧ row.isLocked e.before.now = true := by decide +kernel
  obtain ⟨hnone, hmany, hsuccess⟩ := hfacts
  refine ⟨_, _, service.executor.play_reaches guessesAtOnce _, service.executor.play_reaches _ _,
    fun hbounded => ?_, hsuccess⟩
  have hbound := hbounded.guesses (by
    rw [hnone]
    intro t ht
    cases ht)
  rw [hmany] at hbound
  exact absurd hbound (by decide)

end Runs

end RustPressAuth
