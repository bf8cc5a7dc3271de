import Mathlib.Data.List.Basic
import Mathlib.Logic.Function.Basic

/-!
# The generic cell rate algorithm

A rate admits one cell in each period, and up to a burst of them at once. The algorithm
keeps the time at which the next cell is due if cells came evenly; an arrival conforms
unless it is earlier than this time by more than the tolerance, and an arrival that
conforms moves the time on by one period.

In a window of whatever length the admitted arrivals are at most the burst and the
periods that fit into the window, and some arrivals reach this number. Arrivals in time
order, with one at every instant of a window, have one admitted in each of its periods.
A limiter of many keys treats each of them alone.
-/

namespace Throttle

/-- One cell in each period, and a burst of several. -/
structure CellRate where
  period : ℕ
  burst : ℕ
  period_pos : 0 < period
  burst_pos : 0 < burst

namespace CellRate

variable (rate : CellRate)

/-- How much earlier than due a cell may arrive. -/
def tolerance : ℕ := (rate.burst - 1) * rate.period

/-- The arrivals that are admitted, when the next cell is due at a time. -/
def admitted (due : ℕ) : List ℕ → List ℕ
  | [] => []
  | arrival :: rest =>
    if due ≤ arrival + rate.tolerance then arrival :: admitted (max due arrival + rate.period) rest
    else admitted due rest

/-- How many of these times are not before the first bound and before the second. -/
def countIn (first last : ℕ) (times : List ℕ) : ℕ :=
  times.countP fun t => decide (first ≤ t ∧ t < last)

variable {rate} {due first last middle start width arrival cells : ℕ} {times later : List ℕ}

/-- The tolerance and one more period are the periods of a burst. -/
theorem tolerance_add_period : rate.tolerance + rate.period = rate.burst * rate.period := by
  have hburst := rate.burst_pos
  rw [tolerance, ← Nat.succ_mul]
  congr 1
  omega

/-- A conforming arrival is admitted and moves the due time on. -/
theorem admitted_conforming (h : due ≤ arrival + rate.tolerance) :
    rate.admitted due (arrival :: times) = arrival :: rate.admitted (max due arrival + rate.period) times := by
  rw [admitted, if_pos h]

/-- An early arrival is not admitted and changes nothing. -/
theorem admitted_early (h : ¬due ≤ arrival + rate.tolerance) :
    rate.admitted due (arrival :: times) = rate.admitted due times := by
  rw [admitted, if_neg h]

/-- An arrival in the window counts. -/
theorem countIn_inside (h : first ≤ arrival ∧ arrival < last) :
    countIn first last (arrival :: times) = countIn first last times + 1 := by
  rw [countIn, List.countP_cons_of_pos (by simpa using h)]
  rfl

/-- An arrival outside the window does not count. -/
theorem countIn_outside (h : ¬(first ≤ arrival ∧ arrival < last)) :
    countIn first last (arrival :: times) = countIn first last times := by
  rw [countIn, List.countP_cons_of_neg (by simpa using h)]
  rfl

/-- If some of the window's arrivals are admitted, a period for each of them fits before the due time that the
last of them may meet. -/
theorem room_of_countIn (hsome : countIn start (start + width + 1) (rate.admitted due times) ≠ 0) :
    max due start + countIn start (start + width + 1) (rate.admitted due times) * rate.period ≤
      start + width + rate.burst * rate.period := by
  have hburst := rate.tolerance_add_period
  induction times generalizing due with
  | nil => exact absurd rfl hsome
  | cons arrival rest ih =>
    by_cases hconforms : due ≤ arrival + rate.tolerance
    · rw [admitted_conforming hconforms] at hsome ⊢
      by_cases hinside : start ≤ arrival ∧ arrival < start + width + 1
      · rw [countIn_inside hinside, Nat.succ_mul]
        by_cases hnone : countIn start (start + width + 1) (rate.admitted (max due arrival + rate.period) rest) = 0
        · rw [hnone, Nat.zero_mul]
          omega
        · have hroom := ih hnone
          omega
      · rw [countIn_outside hinside] at hsome ⊢
        have hroom := ih hsome
        omega
    · rw [admitted_early hconforms] at hsome ⊢
      exact ih hsome

/-- A window admits at most the burst and one for each period that fits into it. -/
theorem countIn_le (due start width : ℕ) (times : List ℕ) :
    countIn start (start + width + 1) (rate.admitted due times) ≤ rate.burst + width / rate.period := by
  by_cases hnone : countIn start (start + width + 1) (rate.admitted due times) = 0
  · rw [hnone]
    exact Nat.zero_le _
  · have hroom := room_of_countIn hnone
    have hcells : countIn start (start + width + 1) (rate.admitted due times) * rate.period ≤
        width + rate.burst * rate.period := by omega
    rw [Nat.add_comm rate.burst, ← Nat.add_mul_div_right width rate.burst rate.period_pos]
    exact (Nat.le_div_iff_mul_le rate.period_pos).mpr hcells

/-- A burst at one instant, then further times. -/
def burstThen (burst : ℕ) (later : List ℕ) : List ℕ := List.replicate burst 0 ++ later

/-- A burst at the start is admitted as a whole. -/
theorem admitted_burstThen (due : ℕ) (hcells : due + cells ≤ rate.burst) (later : List ℕ) :
    rate.admitted (due * rate.period) (burstThen cells later) =
      burstThen cells (rate.admitted ((due + cells) * rate.period) later) := by
  induction cells generalizing due with
  | zero => rfl
  | succ cells ih =>
    have hconforms : due * rate.period ≤ 0 + rate.tolerance := by
      rw [Nat.zero_add, tolerance]
      exact Nat.mul_le_mul_right _ (by omega)
    have hrest := ih (due + 1) (by omega)
    rw [Nat.succ_mul, Nat.add_right_comm] at hrest
    have hnext : max (due * rate.period) 0 + rate.period = due * rate.period + rate.period := by omega
    simp only [burstThen, List.replicate_succ, List.cons_append] at hrest ⊢
    rw [admitted_conforming hconforms, hnext, hrest]
    rfl

/-- After a burst one arrival in each period is admitted. -/
theorem admitted_ticks (first cells : ℕ) :
    rate.admitted ((rate.burst + first) * rate.period) ((List.range' (first + 1) cells).map (· * rate.period)) =
      (List.range' (first + 1) cells).map (· * rate.period) := by
  have hburst := rate.tolerance_add_period
  induction cells generalizing first with
  | zero => rfl
  | succ cells ih =>
    have hdue : (rate.burst + first) * rate.period = rate.burst * rate.period + first * rate.period :=
      Nat.add_mul _ _ _
    have htick : (first + 1) * rate.period = first * rate.period + rate.period := Nat.succ_mul _ _
    have hnext : max ((rate.burst + first) * rate.period) ((first + 1) * rate.period) + rate.period =
        (rate.burst + (first + 1)) * rate.period := by
      rw [Nat.add_mul rate.burst (first + 1)]
      omega
    rw [List.range'_succ, List.map_cons, admitted_conforming (by omega), hnext, ih (first + 1)]

/-- Times that all lie between the bounds are all counted. -/
theorem countIn_eq_length (h : ∀ t ∈ times, first ≤ t ∧ t < last) : countIn first last times = times.length := by
  rw [countIn, List.countP_eq_length]
  intro t ht
  simpa using h t ht

/-- A burst at the start, and one arrival in each period after it, are as many as a window can admit. -/
theorem countIn_burstThen_ticks (rate : CellRate) (width : ℕ) :
    countIn 0 (width + 1) (rate.admitted 0
      (burstThen rate.burst ((List.range' 1 (width / rate.period)).map (· * rate.period)))) =
      rate.burst + width / rate.period := by
  have hfull : 0 + rate.burst ≤ rate.burst := by omega
  have hburst := admitted_burstThen 0 hfull ((List.range' 1 (width / rate.period)).map (· * rate.period))
  have hticks := rate.admitted_ticks 0 (width / rate.period)
  rw [Nat.add_zero, Nat.zero_add] at hticks
  rw [Nat.zero_mul, Nat.zero_add, hticks] at hburst
  rw [hburst, countIn_eq_length]
  · simp only [burstThen, List.length_append, List.length_replicate, List.length_map, List.length_range']
  · intro t ht
    refine ⟨Nat.zero_le t, Nat.lt_succ_of_le ?_⟩
    rcases List.mem_append.mp ht with hstart | hlater
    · rw [List.eq_of_mem_replicate hstart]
      exact Nat.zero_le width
    · obtain ⟨i, hi, rfl⟩ := List.mem_map.mp hlater
      have hcell : i ≤ width / rate.period := by
        have hrange := List.mem_range'_1.mp hi
        omega
      calc i * rate.period ≤ width / rate.period * rate.period := Nat.mul_le_mul_right _ hcell
        _ ≤ width := Nat.div_mul_le_self width rate.period

/-- Of arrivals in time order one is admitted in a period, if the last instant of the period has an arrival. -/
theorem exists_admitted (hsorted : times.Pairwise (· ≤ ·)) (hdue : due < start + rate.burst * rate.period)
    (hlast : start + rate.period - 1 ∈ times) :
    ∃ t ∈ rate.admitted due times, start ≤ t ∧ t < start + rate.period := by
  have hburst := rate.tolerance_add_period
  have hperiod := rate.period_pos
  induction times generalizing due with
  | nil => exact absurd hlast List.not_mem_nil
  | cons arrival rest ih =>
    obtain ⟨hafter, hrest⟩ := List.pairwise_cons.mp hsorted
    have hbefore : arrival ≤ start + rate.period - 1 := by
      rcases List.mem_cons.mp hlast with heq | hmem
      · omega
      · exact hafter _ hmem
    by_cases hconforms : due ≤ arrival + rate.tolerance
    · rw [admitted_conforming hconforms]
      by_cases hinside : start ≤ arrival
      · exact ⟨arrival, List.mem_cons_self, hinside, by omega⟩
      · have hmem : start + rate.period - 1 ∈ rest := (List.mem_cons.mp hlast).resolve_left (by omega)
        have hnext : max due arrival + rate.period < start + rate.burst * rate.period := by omega
        obtain ⟨t, ht, hin⟩ := ih hrest hnext hmem
        exact ⟨t, List.mem_cons_of_mem _ ht, hin⟩
    · rw [admitted_early hconforms]
      exact ih hrest hdue ((List.mem_cons.mp hlast).resolve_left (by omega))

/-- A window with an arrival counts at least one. -/
theorem countIn_pos (hmem : arrival ∈ times) (hin : first ≤ arrival ∧ arrival < last) :
    0 < countIn first last times := by
  rw [countIn, List.countP_pos_iff]
  exact ⟨arrival, hmem, by simpa using hin⟩

/-- Two windows that meet are counted one after the other. -/
theorem countIn_add (middle : ℕ) (hfirst : first ≤ middle) (hlast : middle ≤ last) (times : List ℕ) :
    countIn first last times = countIn first middle times + countIn middle last times := by
  induction times with
  | nil => rfl
  | cons t rest ih =>
    by_cases hbefore : first ≤ t ∧ t < middle
    · have hnot : ¬(middle ≤ t ∧ t < last) := by omega
      rw [countIn_inside hbefore, countIn_outside hnot, countIn_inside ⟨hbefore.1, by omega⟩, ih]
      omega
    · rw [countIn_outside hbefore]
      by_cases hbehind : middle ≤ t ∧ t < last
      · rw [countIn_inside hbehind, countIn_inside ⟨by omega, hbehind.2⟩, ih]
        omega
      · have hnot : ¬(first ≤ t ∧ t < last) := by omega
        rw [countIn_outside hbehind, countIn_outside hnot, ih]

/-- Arrivals in time order, with one at every instant of some periods, have one admitted in each period. -/
theorem periods_le_countIn (hsorted : times.Pairwise (· ≤ ·)) (hdue : due < start + rate.burst * rate.period)
    (hwaiting : ∀ t, start ≤ t → t < start + cells * rate.period → t ∈ times) :
    cells ≤ countIn start (start + cells * rate.period) (rate.admitted due times) := by
  have hperiod := rate.period_pos
  induction cells with
  | zero => exact Nat.zero_le _
  | succ cells ih =>
    have hnext : (cells + 1) * rate.period = cells * rate.period + rate.period := Nat.succ_mul _ _
    have hearlier := ih fun t hstart hend => hwaiting t hstart (by omega)
    have hlater : due < start + cells * rate.period + rate.burst * rate.period := by omega
    have hlast := hwaiting (start + cells * rate.period + rate.period - 1) (by omega) (by omega)
    obtain ⟨t, ht, hin⟩ := exists_admitted hsorted hlater hlast
    have hone := countIn_pos ht hin
    rw [hnext, ← Nat.add_assoc, countIn_add (start + cells * rate.period) (by omega) (by omega)]
    omega

/-- A window with an arrival at every instant admits at least one for each period that fits into it. -/
theorem div_le_countIn (hsorted : times.Pairwise (· ≤ ·)) (hdue : due < start + rate.burst * rate.period)
    (hwaiting : ∀ t, start ≤ t → t < start + width → t ∈ times) :
    width / rate.period ≤ countIn start (start + width) (rate.admitted due times) := by
  have hfits : width / rate.period * rate.period ≤ width := Nat.div_mul_le_self width rate.period
  have hperiods :=
    periods_le_countIn hsorted hdue fun t hstart (hend : t < start + width / rate.period * rate.period) =>
    hwaiting t hstart (by omega)
  rw [countIn_add (start + width / rate.period * rate.period) (by omega) (by omega)]
  omega

/-- After a burst, arrivals at every instant of a window are admitted once for each period only. -/
theorem countIn_burstThen_instants (rate : CellRate) (hwidth : 0 < width) :
    countIn 1 (1 + width) (rate.admitted 0 (burstThen rate.burst (List.range' 1 width))) ≤ width / rate.period := by
  have hfull : 0 + rate.burst ≤ rate.burst := by omega
  have hburst := admitted_burstThen 0 hfull (List.range' 1 width)
  rw [Nat.zero_mul, Nat.zero_add] at hburst
  have hskip : ∀ later, countIn 1 (1 + width) (burstThen rate.burst later) = countIn 1 (1 + width) later := by
    intro later
    rw [countIn, burstThen, List.countP_append, List.countP_replicate]
    simp [countIn]
  rw [hburst, hskip]
  by_cases hnone : countIn 1 (1 + width) (rate.admitted (rate.burst * rate.period) (List.range' 1 width)) = 0
  · rw [hnone]
    exact Nat.zero_le _
  · have hend : 1 + width = 1 + (width - 1) + 1 := by omega
    rw [hend] at hnone ⊢
    have hroom := room_of_countIn hnone
    rw [Nat.le_div_iff_mul_le rate.period_pos]
    omega

/-- When the next cell is due after these arrivals. -/
def dueAfter (rate : CellRate) (due : ℕ) : List ℕ → ℕ
  | [] => due
  | arrival :: rest =>
    if due ≤ arrival + rate.tolerance then dueAfter rate (max due arrival + rate.period) rest
    else dueAfter rate due rest

/-- A conforming arrival moves the due time on. -/
theorem dueAfter_conforming (h : due ≤ arrival + rate.tolerance) :
    rate.dueAfter due (arrival :: times) = rate.dueAfter (max due arrival + rate.period) times := by
  rw [dueAfter, if_pos h]

/-- An early arrival leaves the due time as it is. -/
theorem dueAfter_early (h : ¬due ≤ arrival + rate.tolerance) :
    rate.dueAfter due (arrival :: times) = rate.dueAfter due times := by
  rw [dueAfter, if_neg h]

/-- What is admitted of later arrivals depends on the earlier ones through the due time only. -/
theorem admitted_append :
    rate.admitted due (times ++ later) = rate.admitted due times ++
      rate.admitted (rate.dueAfter due times) later := by
  induction times generalizing due with
  | nil => rfl
  | cons arrival times ih =>
    by_cases h : due ≤ arrival + rate.tolerance
    · rw [List.cons_append, admitted_conforming h, admitted_conforming h, dueAfter_conforming h, ih,
        List.cons_append]
    · rw [List.cons_append, admitted_early h, admitted_early h, dueAfter_early h, ih]

/-- The due time after more arrivals is reached from the one before them. -/
theorem dueAfter_append : rate.dueAfter due (times ++ later) = rate.dueAfter (rate.dueAfter due times) later := by
  induction times generalizing due with
  | nil => rfl
  | cons arrival times ih =>
    by_cases h : due ≤ arrival + rate.tolerance
    · rw [List.cons_append, dueAfter_conforming h, dueAfter_conforming h, ih]
    · rw [List.cons_append, dueAfter_early h, dueAfter_early h, ih]

/-- One more arrival, which conforms. -/
theorem concat_conforming (h : rate.dueAfter due times ≤ arrival + rate.tolerance) :
    rate.admitted due (times ++ [arrival]) = rate.admitted due times ++ [arrival] ∧
      rate.dueAfter due (times ++ [arrival]) = max (rate.dueAfter due times) arrival + rate.period := by
  rw [admitted_append, dueAfter_append, admitted_conforming h, dueAfter_conforming h]
  exact ⟨rfl, rfl⟩

/-- One more arrival, which comes too early. -/
theorem concat_early (h : ¬rate.dueAfter due times ≤ arrival + rate.tolerance) :
    rate.admitted due (times ++ [arrival]) = rate.admitted due times ∧
      rate.dueAfter due (times ++ [arrival]) = rate.dueAfter due times := by
  rw [admitted_append, dueAfter_append, admitted_early h, dueAfter_early h]
  exact ⟨List.append_nil _, rfl⟩

/-- A cell is due at most a burst of periods after the last one that was admitted. -/
theorem dueAfter_le : rate.dueAfter due times = due ∨
    ∃ t ∈ rate.admitted due times, rate.dueAfter due times ≤ t + rate.burst * rate.period := by
  induction times generalizing due with
  | nil => exact Or.inl rfl
  | cons arrival times ih =>
    by_cases h : due ≤ arrival + rate.tolerance
    · rw [dueAfter_conforming h, admitted_conforming h]
      right
      rcases @ih (max due arrival + rate.period) with heq | ⟨t, ht, hle⟩
      · refine ⟨arrival, List.mem_cons_self, ?_⟩
        have hburst := rate.tolerance_add_period
        rw [heq]
        omega
      · exact ⟨t, List.mem_cons_of_mem _ ht, hle⟩
    · rw [dueAfter_early h, admitted_early h]
      exact ih

section Keys

variable {Key : Type} [DecidableEq Key] {key : Key}

/-- The times of the requests with a key. -/
def timesOf (key : Key) (requests : List (Key × ℕ)) : List ℕ :=
  (requests.filter fun request => decide (request.1 = key)).map Prod.snd

/-- No requests, no times. -/
@[simp] theorem timesOf_nil : timesOf key [] = [] := rfl

/-- A request of the key adds its time. -/
theorem timesOf_same (arrival : ℕ) (rest : List (Key × ℕ)) :
    timesOf key ((key, arrival) :: rest) = arrival :: timesOf key rest := by
  simp [timesOf]

/-- A request of another key adds no time. -/
theorem timesOf_other {key' : Key} (h : key' ≠ key) (arrival : ℕ) (rest : List (Key × ℕ)) :
    timesOf key ((key', arrival) :: rest) = timesOf key rest := by
  simp [timesOf, h]

/-- The times of more requests follow the earlier ones. -/
theorem timesOf_append (requests later : List (Key × ℕ)) :
    timesOf key (requests ++ later) = timesOf key requests ++ timesOf key later := by
  simp [timesOf]

/-- Requests with one key. -/
theorem timesOf_map (key : Key) (times : List ℕ) : timesOf key (times.map fun t => (key, t)) = times := by
  induction times with
  | nil => rfl
  | cons t rest ih => rw [List.map_cons, timesOf_same, ih]

end Keys

end CellRate

open CellRate

/-- A limiter of keys. A check at a time is admitted, or answered with the earliest time at which it would be. -/
structure Limiter (Key γ : Type) where
  check : γ → Key → ℕ → Option ℕ × γ

namespace Limiter

variable {Key γ : Type} (limiter : Limiter Key γ)

/-- The state after some checks. -/
def after (g : γ) : List (Key × ℕ) → γ
  | [] => g
  | (key, time) :: rest => after (limiter.check g key time).2 rest

/-- The checks that are admitted. -/
def passed (g : γ) : List (Key × ℕ) → List (Key × ℕ)
  | [] => []
  | (key, time) :: rest =>
    match limiter.check g key time with
    | (none, g') => (key, time) :: passed g' rest
    | (some _, g') => passed g' rest

/-- A limiter after more requests is reached from the one before them. -/
theorem after_append (g : γ) (past later : List (Key × ℕ)) :
    limiter.after g (past ++ later) = limiter.after (limiter.after g past) later := by
  induction past generalizing g with
  | nil => rfl
  | cons check past ih => exact ih _

/-- After some checks and one more. -/
theorem after_concat (g : γ) (past : List (Key × ℕ)) (key : Key) (time : ℕ) :
    limiter.after g (past ++ [(key, time)]) = (limiter.check (limiter.after g past) key time).2 :=
  limiter.after_append g past _

/-- All of these checks are admitted. -/
def Admits (g : γ) : List (Key × ℕ) → Prop
  | [] => True
  | (key, time) :: rest => (limiter.check g key time).1 = none ∧ Admits (limiter.check g key time).2 rest

/-- Some checks and one more are admitted. -/
theorem admits_concat (g : γ) (past : List (Key × ℕ)) (key : Key) (time : ℕ) :
    limiter.Admits g (past ++ [(key, time)]) ↔
      limiter.Admits g past ∧ (limiter.check (limiter.after g past) key time).1 = none := by
  induction past generalizing g with
  | nil => simp [Admits, after]
  | cons check past ih => simp only [List.cons_append, Admits, after, ih, and_assoc]

/-- A limiter that may be left out: then it admits everything. -/
def option : Limiter Key (Option γ) where
  check
    | some g, key, time => ((limiter.check g key time).1, some (limiter.check g key time).2)
    | none, _, _ => (none, none)

/-- An optional limiter that is there goes on as the limiter. -/
theorem option_after (g : γ) (past : List (Key × ℕ)) :
    limiter.option.after (some g) past = some (limiter.after g past) := by
  induction past generalizing g with
  | nil => rfl
  | cons check past ih => exact ih _

variable [DecidableEq Key]

/-- From this state on each key is limited to the rate, as if its checks were the only ones. -/
def Keeps (rate : CellRate) (g : γ) : Prop :=
  ∀ past key time, (limiter.check (limiter.after g past) key time).1 =
    if rate.dueAfter 0 (timesOf key past) ≤ time + rate.tolerance then none
    else some (rate.dueAfter 0 (timesOf key past) - rate.tolerance)

variable {limiter} {rate : CellRate} {g : γ}

/-- An optional limiter that is there keeps the rate of the limiter. -/
theorem Keeps.option (h : limiter.Keeps rate g) : limiter.option.Keeps rate (some g) := by
  intro past key time
  rw [option_after]
  exact h past key time

/-- A limiter that keeps a rate admits of the checks of a key what the cell rate admits. -/
theorem Keeps.timesOf_passed_after (h : limiter.Keeps rate g) (key : Key) (past later : List (Key × ℕ)) :
    timesOf key (limiter.passed (limiter.after g past) later) =
      rate.admitted (rate.dueAfter 0 (timesOf key past)) (timesOf key later) := by
  induction later generalizing past with
  | nil => rfl
  | cons check later ih =>
    obtain ⟨key', time⟩ := check
    have hanswer := h past key' time
    have hrest := ih (past ++ [(key', time)])
    rw [after_concat, timesOf_append] at hrest
    rw [passed]
    rcases hcheck : limiter.check (limiter.after g past) key' time with ⟨answer, g'⟩
    rw [hcheck] at hanswer hrest
    by_cases hkey : key' = key
    · subst hkey
      rw [timesOf_same]
      by_cases hconforms : rate.dueAfter 0 (timesOf key' past) ≤ time + rate.tolerance
      · rw [if_pos hconforms] at hanswer
        subst hanswer
        rw [timesOf_same, timesOf_nil, (concat_conforming hconforms).2] at hrest
        rw [admitted_conforming hconforms, ← hrest, timesOf_same]
      · rw [if_neg hconforms] at hanswer
        subst hanswer
        rw [timesOf_same, timesOf_nil, (concat_early hconforms).2] at hrest
        rw [admitted_early hconforms, ← hrest]
    · rw [timesOf_other hkey, timesOf_nil, List.append_nil] at hrest
      rw [timesOf_other hkey, ← hrest]
      cases answer with
      | none => exact timesOf_other hkey _ _
      | some earliest => rfl

/-- From the state on in which it keeps the rate, each key is admitted what the cell rate admits. -/
theorem Keeps.timesOf_passed (h : limiter.Keeps rate g) (key : Key) (requests : List (Key × ℕ)) :
    timesOf key (limiter.passed g requests) = rate.admitted 0 (timesOf key requests) :=
  h.timesOf_passed_after key [] requests

/-- The textbook limiter: the rate, and for each key when its next cell is due. -/
def textbook (Key : Type) [DecidableEq Key] : Limiter Key (CellRate × (Key → ℕ)) where
  check state key time :=
    if state.2 key ≤ time + state.1.tolerance then
      (none, state.1, Function.update state.2 key (max (state.2 key) time + state.1.period))
    else (some (state.2 key - state.1.tolerance), state)

/-- It knows when the next cell of each key is due. -/
theorem textbook_after (rate : CellRate) (due : Key → ℕ) (past : List (Key × ℕ)) :
    (textbook Key).after (rate, due) past = (rate, fun key => rate.dueAfter (due key) (timesOf key past)) := by
  induction past generalizing due with
  | nil => rfl
  | cons check past ih =>
    obtain ⟨key', time⟩ := check
    rw [after, textbook]
    by_cases hconforms : due key' ≤ time + rate.tolerance
    · simp only [hconforms, if_true]
      rw [← textbook, ih]
      refine congrArg (Prod.mk rate) (funext fun key => ?_)
      by_cases hkey : key' = key
      · subst hkey
        rw [timesOf_same, dueAfter_conforming hconforms, Function.update_self]
      · rw [timesOf_other hkey, Function.update_of_ne (Ne.symm hkey)]
    · simp only [hconforms, if_false]
      rw [← textbook, ih]
      refine congrArg (Prod.mk rate) (funext fun key => ?_)
      by_cases hkey : key' = key
      · subst hkey
        rw [timesOf_same, dueAfter_early hconforms]
      · rw [timesOf_other hkey]

/-- The textbook limiter keeps its rate. -/
theorem textbook_keeps (rate : CellRate) : (textbook Key).Keeps rate (rate, fun _ => 0) := by
  intro past key time
  rw [textbook_after]
  by_cases hconforms : rate.dueAfter 0 (timesOf key past) ≤ time + rate.tolerance
  · simp only [textbook, hconforms, if_true]
  · simp only [textbook, hconforms, if_false]

end Limiter

end Throttle
