import Mathlib.Data.List.Infix
import RustPressAuth.Lockout

/-!
# The count after a lock has expired

When a lock expires, neither the counter nor the end of the lock is reset; both are cleared by
the next success only. So the first wrong password after the expiry locks the account again,
however many attempts are configured. Once a login has succeeded the count is fresh, and the
account is locked again by as many wrong passwords as configured.
-/

namespace RustPressAuth

open Atomic Program Machine Relational

/-- The account of `u` has a lock that ends later than the instant. -/
def LockedBeyond (u : Uuid) (t : Instant) (db : Db) : Prop :=
  ∃ row ∈ db.users, row.id = u ∧ ∃ lockedUntil, row.lockedUntil = some lockedUntil ∧ t < lockedUntil

/-- The call is a success of `u`, which clears the count. -/
def clearsCount (u : Uuid) (c : CallRecord) : Bool := !wrongPassword u c && startsAfresh u c

/-- The number of logins with a wrong password since the last success, or else since the first of the calls. -/
def wrongSince (u : Uuid) : List CallRecord → ℕ
  | [] => 0
  | c :: past => if wrongPassword u c then wrongSince u past + 1 else if clearsCount u c then 0
      else wrongSince u past

/-- After a lock that ended at the instant, the count starts afresh: at every point of the calls the account
has been locked again if and only if as many wrong passwords as configured were given without a success in
between. -/
def CountsAfresh (svc : AuthService) (u : Uuid) (t : Instant) (newer : List CallRecord) : Prop :=
  ∀ c past, (c :: past) <:+ newer →
    (LockedBeyond u t c.after.db ↔ svc.config.maxLoginAttempts.toInt ≤ wrongSince u (c :: past))

/-- Every wrong password comes after a success. -/
def WrongAfterSuccess (u : Uuid) (newer : List CallRecord) : Prop :=
  ∀ c past, (c :: past) <:+ newer → wrongPassword u c = true → past.any (clearsCount u) = true

instance (u : Uuid) (newer : List CallRecord) : Decidable (WrongAfterSuccess u newer) :=
  decidable_of_iff (∀ s ∈ newer.tails, ∀ c ∈ s.head?, wrongPassword u c = true →
    s.tail.any (clearsCount u) = true) <| by
    constructor
    · intro h c past hsuffix
      exact h (c :: past) ((List.mem_tails _ _).mpr hsuffix) c rfl
    · intro h s hs c hc
      obtain ⟨past, rfl⟩ := List.head?_eq_some_iff.mp hc
      exact h c past ((List.mem_tails _ _).mp hs)

section Counting

variable {u : Uuid} {c : CallRecord} {past : List CallRecord}

/-- Where wrong passwords were given without a success, the first of them was given at some point. -/
theorem exists_first_wrong (hwrong : 0 < wrongSince u past) (hsuccess : past.any (clearsCount u) = false) :
    ∃ c earlier, (c :: earlier) <:+ past ∧ wrongPassword u c = true ∧ wrongSince u (c :: earlier) = 1 ∧
      (c :: earlier).any (clearsCount u) = false := by
  induction past with
  | nil => exact absurd hwrong (Nat.lt_irrefl 0)
  | cons c past ih =>
    obtain ⟨hc, hpast⟩ := Bool.or_eq_false_iff.mp (List.any_cons ▸ hsuccess)
    by_cases hmore : 0 < wrongSince u past
    · obtain ⟨c', earlier, hsuffix, hfirst⟩ := ih hmore hpast
      exact ⟨c', earlier, hsuffix.trans (List.suffix_cons _ _), hfirst⟩
    · have hnone : wrongSince u past = 0 := by omega
      have hcall : wrongPassword u c = true := by
        by_contra hright
        rw [wrongSince, if_neg hright, hc, hnone] at hwrong
        exact absurd hwrong (Nat.lt_irrefl 0)
      refine ⟨c, past, List.suffix_refl _, hcall, ?_, hsuccess⟩
      rw [wrongSince, if_pos hcall, hnone]

/-- What holds of a run holds of its beginnings. -/
theorem WrongAfterSuccess.earlier {newer : List CallRecord} (h : WrongAfterSuccess u newer)
    (hsuffix : past <:+ newer) :
    WrongAfterSuccess u past := fun c earlier hearlier => h c earlier (hearlier.trans hsuffix)

/-- Where every wrong password comes after a success, no wrong password was given without one. -/
theorem WrongAfterSuccess.success (h : WrongAfterSuccess u past) (hwrong : 0 < wrongSince u past) :
    past.any (clearsCount u) = true := by
  by_contra hsuccess
  obtain ⟨c, earlier, hsuffix, hcall, -, hnone⟩ := exists_first_wrong hwrong (Bool.eq_false_iff.mpr hsuccess)
  obtain ⟨-, hearlier⟩ := Bool.or_eq_false_iff.mp (List.any_cons ▸ hnone)
  rw [h c earlier hsuffix hcall] at hearlier
  cases hearlier

end Counting

section Run

variable {svc : AuthService} {u : Uuid} {faults : Bool} {v w : World} {newer : List CallRecord} {t : Instant}
  {before : List Instant}

/-- One further call adds its time when its password was wrong, and clears all times when it is a success. -/
theorem CountsCall.further {c : CallRecord} {added times : List Instant}
    (hcall : CountsCall u c (if newer.any (clearsCount u) then added else added ++ before) times)
    (hlength : added.length = wrongSince u newer) (hlater : ∀ s ∈ added, t ≤ s) (hbegin : t ≤ c.before.now) :
    ∃ added' : List Instant, added'.length = wrongSince u (c :: newer) ∧ (∀ s ∈ added', t ≤ s) ∧
      times = if (c :: newer).any (clearsCount u) then added' else added' ++ before := by
  rw [CountsCall] at hcall
  cases hwrong : wrongPassword u c with
  | true =>
    rw [if_pos hwrong] at hcall
    obtain ⟨failedAt, rfl, hduring⟩ := hcall
    refine ⟨(failedAt : ℤ) :: added, by simp [wrongSince, hwrong, hlength], ?_, ?_⟩
    · intro s hs
      rcases List.mem_cons.mp hs with rfl | hold
      · exact Int.le_trans hbegin (Int.ofNat_le.mpr hduring.1)
      · exact hlater s hold
    · simp only [List.any_cons, clearsCount, hwrong, Bool.not_true, Bool.false_and, Bool.false_or]
      split <;> rfl
  | false =>
    rw [if_neg (by simp [hwrong])] at hcall
    cases hfresh : startsAfresh u c with
    | true =>
      rw [if_pos hfresh] at hcall
      refine ⟨[], by simp [wrongSince, clearsCount, hwrong, hfresh], fun s hs => absurd hs List.not_mem_nil, ?_⟩
      simp [clearsCount, hwrong, hfresh, hcall]
    | false =>
      rw [if_neg (by simp [hfresh])] at hcall
      refine ⟨added, by simp [wrongSince, clearsCount, hwrong, hfresh, hlength], hlater, ?_⟩
      simp [clearsCount, hwrong, hfresh, hcall]

/-- Further calls add the times of their wrong passwords to those of earlier ones, unless a success clears these. -/
theorem accounted_further (hbefore : AllAccounted svc.config u before v.db)
    (hrun : (svc.alone faults).Serial svc.serve v newer w) : v.Precedes w ∧
      ∃ added : List Instant, added.length = wrongSince u newer ∧ (∀ s ∈ added, v.now ≤ s) ∧
        AllAccounted svc.config u (if newer.any (clearsCount u) then added else added ++ before) w.db := by
  induction hrun with
  | start => exact ⟨World.Precedes.refl v, [], rfl, fun s hs => absurd hs List.not_mem_nil, hbefore⟩
  | call hpast hexec ih =>
    obtain ⟨hgrows, added, hlength, hlater, haccounted⟩ := ih
    obtain ⟨times, hcounts, hafter⟩ := accountsCall_of_exec haccounted hexec
    obtain ⟨added', hlength', hlater', rfl⟩ := hcounts.further hlength hlater hgrows.now_le
    exact ⟨World.Precedes.trans _ _ _ hgrows (alone_precedes hexec), added', hlength', hlater', hafter⟩

/-- The lock of an account is that of its row. -/
theorem lockedBeyond_of_row {db : Db} {row : User} (hrow : row ∈ db.users) (hid : row.id = u) :
    LockedBeyond u t db ↔ ∃ lockedUntil, row.lockedUntil = some lockedUntil ∧ t < lockedUntil := by
  constructor
  · rintro ⟨other, hother, hotherId, hlocked⟩
    obtain rfl := Table.eq_of_pk hother hrow (hotherId.trans hid.symm)
    exact hlocked
  · exact fun hlocked => ⟨row, hrow, hid, hlocked⟩

/-- A failure locks the account past any time before it when there are as many as configured. -/
theorem lockEnd_beyond {last : Instant} {times : List Instant} (hduration : 0 < svc.config.lockoutDuration.toInt)
    (hlast : t ≤ last) : (∃ lockedUntil, svc.config.lockEnd (last :: times) = some lockedUntil ∧ t < lockedUntil) ↔
      svc.config.maxLoginAttempts.toInt ≤ times.length + 1 := by
  have hpositive : 0 < intervalMicros svc.config.lockoutDuration := intervalMicros_pos.mpr hduration
  have hlonger : t < last + intervalMicros svc.config.lockoutDuration :=
    Int.lt_of_le_of_lt hlast (Int.lt_add_of_pos_right _ hpositive)
  rw [AuthConfig.lockEnd]
  split
  · rename_i hmany
    exact iff_of_true ⟨_, rfl, hlonger⟩ hmany
  · rename_i hfew
    exact iff_of_false (by simp) hfew

/-- After a lock that has expired, the account is locked again if and only if a wrong password was given since
the last success, and there was no success or as many wrong passwords as configured. -/
theorem lockedBeyond_iff (hduration : 0 < svc.config.lockoutDuration.toInt)
    (hbefore : AllAccounted svc.config u before v.db) {row : User} (hrow : row ∈ v.db.users) (hid : row.id = u)
    (hlock : row.lockedUntil = some t) (hpassed : t ≤ v.now)
    (hrun : (svc.alone faults).Serial svc.serve v newer w) :
    LockedBeyond u t w.db ↔ 0 < wrongSince u newer ∧ (svc.config.maxLoginAttempts.toInt ≤ wrongSince u newer ∨
      newer.any (clearsCount u) = false) := by
  obtain ⟨hgrows, added, hlength, hlater, hafter⟩ := accounted_further hbefore hrun
  obtain ⟨row', hrow', hsame⟩ := hgrows.db.users row hrow
  have hid' : row'.id = u := hsame.id.trans hid
  have hold := (hbefore row hrow hid).lock
  rw [lockedBeyond_of_row hrow' hid', (hafter row' hrow' hid').lock, ← hlength]
  rw [hlock] at hold
  cases added with
  | nil =>
    simp only [List.length_nil, Nat.lt_irrefl, false_and, iff_false]
    rintro ⟨lockedUntil, heq, hlonger⟩
    split at heq
    · cases heq
    · rw [List.nil_append, ← hold] at heq
      obtain rfl := Option.some.inj heq
      exact Int.lt_irrefl _ hlonger
  | cons last earlier =>
    have hlast : t ≤ last := Int.le_trans hpassed (hlater last List.mem_cons_self)
    cases hsuccess : newer.any (clearsCount u) with
    | true =>
      rw [if_pos rfl, lockEnd_beyond hduration hlast]
      simp
    | false =>
      have hmany : svc.config.maxLoginAttempts.toInt ≤ before.length := by
        by_contra hfew
        rw [lockEnd_eq_none.mpr (Or.inr (Int.not_le.mp hfew))] at hold
        cases hold
      rw [if_neg (by simp), List.cons_append, lockEnd_beyond hduration hlast, List.length_append]
      refine iff_of_true ?_ ⟨Nat.succ_pos _, Or.inr rfl⟩
      omega

/-- After a lock that has expired, the count starts afresh if and only if one attempt is configured, or the
first wrong password comes after a success. -/
theorem expired_lock_starts_afresh (svc : AuthService) (u : Uuid) (first : World)
    (hclear : ∀ row ∈ first.db.users, row.id = u → row.failedLoginAttempts = 0 ∧ row.lockedUntil = none)
    (hmax : 1 ≤ svc.config.maxLoginAttempts.toInt) (hduration : 0 < svc.config.lockoutDuration.toInt)
    (faults : Bool) (older newer : List CallRecord) (v w : World)
    (holder : (svc.alone faults).Serial svc.serve first older v) (row : User) (hrow : row ∈ v.db.users)
    (hid : row.id = u) (t : Instant) (hlock : row.lockedUntil = some t)
    (hpassed : t ≤ v.now) (hnewer : (svc.alone faults).Serial svc.serve v newer w) :
    CountsAfresh svc u t newer ↔ svc.config.maxLoginAttempts.toInt = 1 ∨ WrongAfterSuccess u newer := by
  obtain ⟨before, -, hbefore⟩ := accounted_of_serial
    (fun row hrow hid => ⟨(hclear row hrow hid).1, (hclear row hrow hid).2⟩) holder
  have hbeyond {c : CallRecord} {past : List CallRecord} (hsuffix : (c :: past) <:+ newer) :=
    lockedBeyond_iff hduration hbefore hrow hid hlock hpassed (hnewer.of_suffix hsuffix)
  constructor
  · intro hafresh
    by_contra hneither
    obtain ⟨hseveral, hunprotected⟩ := not_or.mp hneither
    apply hunprotected
    intro c past hsuffix hwrong
    by_contra hsuccess
    have hnone : (c :: past).any (clearsCount u) = false := by
      rw [List.any_cons, Bool.eq_false_iff.mpr hsuccess, clearsCount, hwrong]
      rfl
    have hsome : 0 < wrongSince u (c :: past) := by
      rw [wrongSince, if_pos hwrong]
      exact Nat.succ_pos _
    obtain ⟨c', earlier, hearlier, -, hone, hnone'⟩ := exists_first_wrong hsome hnone
    have hpoint := hearlier.trans hsuffix
    have hlocked := (hbeyond hpoint).mpr ⟨by omega, Or.inr hnone'⟩
    have hmany := (hafresh c' earlier hpoint).mp hlocked
    omega
  · intro hcondition c past hsuffix
    rw [hbeyond hsuffix]
    constructor
    · rintro ⟨hsome, hmany | hnone⟩
      · exact hmany
      · rcases hcondition with hone | hprotected
        · omega
        · have hsuccess := (hprotected.earlier hsuffix).success hsome
          rw [hnone] at hsuccess
          cases hsuccess
    · intro hmany
      exact ⟨by omega, Or.inl hmany⟩

end Run

section Runs

open Reference

/-- Make the calls a quarter of an hour after the account was locked. -/
def afterQuarter (calls : List (Request × List Choice)) (test : World → List CallRecord → World → Bool) : Bool :=
  (service.executor.serial (AuthService.admits false) service.serve fiveWrongLogins world).any fun older =>
    let v : World := { older.2 with clock := older.2.clock + 900000000 }
    !older.1.isEmpty &&
      (service.executor.serial (AuthService.admits false) service.serve calls v).any fun newer =>
      test v newer.1 newer.2

/-- A test that is passed a quarter of an hour later is passed by a sequential run. -/
theorem exists_afterQuarter {calls : List (Request × List Choice)} {test : World → List CallRecord → World → Bool}
    (h : afterQuarter calls test = true) : ∃ older v newer w, service.smooth.Serial service.serve world older v ∧
      service.smooth.Serial service.serve v newer w ∧ test v newer w = true := by
  obtain ⟨⟨older, s⟩, holder, hlater⟩ := (Option.any_eq_true _ _).mp h
  obtain ⟨hcalled, hcalls⟩ := Bool.and_eq_true_iff.mp hlater
  obtain ⟨⟨newer, w⟩, hnewer, htest⟩ := (Option.any_eq_true _ _).mp hcalls
  have hrun := Executor.serial_run service.alone_perform holder
  cases older with
  | nil => cases hcalled
  | cons c past =>
    have hwaits : service.smooth.Waits s { s with clock := s.clock + 900000000 } :=
      alone_waits.mpr ⟨rfl, Nat.le_add_right _ _⟩
    exact ⟨_, _, newer, w, hrun.then_waits hwaits, Executor.serial_run service.alone_perform hnewer, htest⟩

/-- A login with a wrong password. -/
def wrongLogin : Request × List Choice := (.login ⟨"a@b.c", "wrong"⟩ none none, List.replicate 4 (choice 2))

/-- A login with the right password. -/
def rightLogin : Request × List Choice := (.login ⟨"a@b.c", "Abcdefg1"⟩ none none, List.replicate 12 (choice 3))

/-- The user with id 1 has a lock that ends at the instant. -/
def lockEnds (t : Instant) (w : World) : Bool :=
  w.db.users.rows.any fun row => row.id = 1 && row.lockedUntil = some t

/-- The user whose lock ends at this time is in the table. -/
theorem exists_of_lockEnds {t : Instant} {w : World} (h : lockEnds t w = true) :
    ∃ row ∈ w.db.users, row.id = 1 ∧ row.lockedUntil = some t := by
  obtain ⟨row, hrow, hlock⟩ := List.any_eq_true.mp h
  obtain ⟨hid, hends⟩ := Bool.and_eq_true_iff.mp hlock
  exact ⟨row, hrow, of_decide_eq_true hid, of_decide_eq_true hends⟩

/-- After the lock a login with the right password, and then five with a wrong one. -/
def fiveAfterSuccess : List (Request × List Choice) := List.replicate 5 wrongLogin ++ [rightLogin]

/-- After a lock has expired the user logs in, and five wrong passwords lock the account again. -/
theorem expired_lock_starts_afresh_success : ∃ older v newer w, service.smooth.Serial service.serve world older v ∧
    service.smooth.Serial service.serve v newer w ∧ wrongSince 1 newer = 5 ∧
    CountsAfresh service 1 900000000 newer := by
  have hpasses : (afterQuarter fiveAfterSuccess fun v newer _ => lockEnds 900000000 v &&
      decide (900000000 ≤ v.now ∧ wrongSince 1 newer = 5 ∧ WrongAfterSuccess 1 newer)) = true := by decide +kernel
  obtain ⟨older, v, newer, w, holder, hnewer, htest⟩ := exists_afterQuarter hpasses
  obtain ⟨hlocked, hcounts⟩ := Bool.and_eq_true_iff.mp htest
  obtain ⟨hpassed, hfive, hprotected⟩ := of_decide_eq_true hcounts
  obtain ⟨row, hrow, hid, hlock⟩ := exists_of_lockEnds hlocked
  have hafresh :=
    (expired_lock_starts_afresh service 1 world (fun row hrow => absurd hrow (Table.not_mem_empty row))
    (by decide) (by decide) false older newer v w holder row hrow hid 900000000 hlock hpassed hnewer).mpr
    (Or.inr hprotected)
  exact ⟨older, v, newer, w, holder, hnewer, hfive, hafresh⟩

/-- Five attempts are configured, but the first wrong password after the lock has expired locks the account
again. -/
theorem locked_by_one_wrong_login : config.maxLoginAttempts = 5 ∧ ∃ older v newer w,
    service.smooth.Serial service.serve world older v ∧
    (∃ row ∈ v.db.users, row.id = 1 ∧ row.lockedUntil = some 900000000) ∧ 900000000 ≤ v.now ∧
    service.smooth.Serial service.serve v newer w ∧ wrongSince 1 newer = 1 ∧ LockedBeyond 1 900000000 w.db ∧
    ¬ CountsAfresh service 1 900000000 newer := by
  have hpasses : (afterQuarter [wrongLogin] fun v newer w => lockEnds 900000000 v && lockEnds 1800000000 w &&
      decide (900000000 ≤ v.now ∧ wrongSince 1 newer = 1)) = true := by decide +kernel
  obtain ⟨older, v, newer, w, holder, hnewer, htest⟩ := exists_afterQuarter hpasses
  obtain ⟨hlocks, hcounts⟩ := Bool.and_eq_true_iff.mp htest
  obtain ⟨hbefore, hafter⟩ := Bool.and_eq_true_iff.mp hlocks
  obtain ⟨hpassed, hone⟩ := of_decide_eq_true hcounts
  obtain ⟨row, hrow, hid, hlock⟩ := exists_of_lockEnds hafter
  have hlocked : LockedBeyond 1 900000000 w.db := ⟨row, hrow, hid, _, hlock, by decide⟩
  refine ⟨rfl, older, v, newer, w, holder, exists_of_lockEnds hbefore, hpassed, hnewer, hone, hlocked, ?_⟩
  intro hafresh
  cases hnewer with
  | start => cases hone
  | call hpast hexec =>
    have hmany := (hafresh _ _ (List.suffix_refl _)).mp hlocked
    rw [hone] at hmany
    revert hmany
    decide

end Runs

end RustPressAuth
