import Mathlib.Data.Finset.Card
import RustPressAuth.Atomic.Gated
import RustPressAuth.Throttle.CellRate

/-!
# A limiter of many keys in front of calls

A limiter is a gate: a call that asks for its key is checked at a time that was read from
the clock by then. Calls that come in together may be checked in another order than that of
the times that were read for them. A call that is refused is told how long to wait, by the
clock when it is answered.

Whatever the calls behind it and however they interleave, a limiter that keeps a rate
admits in no window more calls of a key than the burst and the periods that fit into the
window; and it refuses a call only after another one of the same key was admitted, less
than a period earlier.
-/

namespace Throttle

open Atomic CellRate

variable {ι Key A : Type} {R : A → Type} {ε β σ γ : Type}

/-- What a limiter answers to a call: the time at which the key was checked, and how long to wait where it is
refused. -/
structure Verdict where
  time : ℕ
  wait : Option ℕ
deriving DecidableEq, Repr

/-- The limiter as a gate, with a clock to read. -/
def Limiter.gate (limiter : Limiter Key γ) (clock : σ → ℕ) : Gatekeeper Key Verdict σ γ where
  answer key s g verdict g' := verdict.time ≤ clock s ∧ (limiter.check g key verdict.time).2 = g' ∧
    verdict.wait = (limiter.check g key verdict.time).1.map (· - clock s)

/-- An event of a run behind a limiter. -/
abbrev LimitedEvent (ι Key : Type) {A : Type} (R : A → Type) (σ γ : Type) :=
  Event ι (GatedAction Key A) (GatedReply Verdict R) (σ × γ)

/-- The key that was checked, and the time. -/
def checkOf (e : LimitedEvent ι Key R σ γ) : Option (Key × ℕ) :=
  match e with
  | ⟨_, _, .ask key, verdict⟩ => some (key, Verdict.time verdict)
  | ⟨_, _, .own _, _⟩ => none

/-- The checks of a log, in the order in which they were made. -/
def checks (log : List (LimitedEvent ι Key R σ γ)) : List (Key × ℕ) := (log.filterMap checkOf).reverse

/-- A check is recorded with its key and its time. -/
theorem checks_ask {i : ι} {s : σ × γ} {key : Key} {verdict : Verdict} {log : List (LimitedEvent ι Key R σ γ)} :
    checks (⟨i, s, .ask key, verdict⟩ :: log) = checks log ++ [(key, verdict.time)] := by
  simp only [checks, List.filterMap_cons, checkOf, List.reverse_cons]

/-- Other actions are no checks. -/
theorem checks_own {i : ι} {s : σ × γ} {a : A} {r : R a} {log : List (LimitedEvent ι Key R σ γ)} :
    checks (⟨i, s, .own a, r⟩ :: log) = checks log := by
  simp only [checks, List.filterMap_cons, checkOf]

variable [DecidableEq Key]

/-- The time at which a key was checked and admitted. -/
def admittedAt (key : Key) (e : LimitedEvent ι Key R σ γ) : Option ℕ :=
  match e with
  | ⟨_, _, .ask key', verdict⟩ => if key' = key ∧
      Verdict.wait verdict = none then some (Verdict.time verdict) else none
  | ⟨_, _, .own _, _⟩ => none

variable {key : Key} {rate : CellRate} {limiter : Limiter Key γ} {clock : σ → ℕ} {g : γ}
    {e : LimitedEvent ι Key R σ γ} {t : ℕ}

/-- An event admits a key at a time exactly if it is a check of the key that found no wait. -/
theorem admittedAt_eq_some : admittedAt key e = some t ↔ e.entry = ⟨.ask key, ⟨t, none⟩⟩ := by
  obtain ⟨i, before, action, reply⟩ := e
  cases action with
  | ask key' =>
    obtain ⟨time, wait⟩ := reply
    simp only [admittedAt, Option.ite_none_right_eq_some, Option.some.injEq, Event.entry_mk]
    constructor
    · rintro ⟨⟨rfl, rfl⟩, rfl⟩
      rfl
    · intro heq
      cases heq
      exact ⟨⟨rfl, rfl⟩, rfl⟩
  | own a =>
    simp only [admittedAt, Event.entry_mk, reduceCtorEq, false_iff]
    intro heq
    cases heq

/-- The times at which a key was admitted, in the order in which it was checked. -/
def admittedTimes (key : Key) (log : List (LimitedEvent ι Key R σ γ)) : List ℕ :=
  (log.filterMap (admittedAt key)).reverse

/-- A check adds its time to those of its key when it found no wait. -/
theorem admittedTimes_ask {i : ι} {s : σ × γ} {key' : Key} {verdict : Verdict}
    {log : List (LimitedEvent ι Key R σ γ)} :
    admittedTimes key (⟨i, s, .ask key', verdict⟩ :: log) =
      admittedTimes key log ++ if key' = key ∧ verdict.wait = none then [verdict.time] else [] := by
  by_cases h : key' = key ∧ verdict.wait = none
  · simp [admittedTimes, admittedAt, h]
  · simp only [admittedTimes, List.filterMap_cons, admittedAt, if_neg h, List.append_nil]

/-- Other actions admit nobody. -/
theorem admittedTimes_own {i : ι} {s : σ × γ} {a : A} {r : R a} {log : List (LimitedEvent ι Key R σ γ)} :
    admittedTimes key (⟨i, s, .own a, r⟩ :: log) = admittedTimes key log := by
  simp only [admittedTimes, List.filterMap_cons, admittedAt]

variable [DecidableEq ι] {M : Machine A R σ}
  {ok : Config ι (GatedAction Key A) (GatedReply Verdict R) ε β (σ × γ) →
    Config ι (GatedAction Key A) (GatedReply Verdict R) ε β (σ × γ) → Prop}
  {c d : Config ι (GatedAction Key A) (GatedReply Verdict R) ε β (σ × γ)}

/-- The limiter is in the state after the checks of the log, and has admitted of every key what its cell rate
admits. -/
structure Metered (limiter : Limiter Key γ) (rate : CellRate) (g : γ)
    (d : Config ι (GatedAction Key A) (GatedReply Verdict R) ε β (σ × γ)) : Prop where
  state : d.shared.2 = limiter.after g (checks d.log)
  admitted : ∀ key, admittedTimes key d.log = rate.admitted 0 (timesOf key (checks d.log))

/-- What the limiter answers keeps it metered. -/
theorem Metered.ask (hkeeps : limiter.Keeps rate g) (h : Metered limiter rate g d) {i : ι} {key : Key}
    {verdict : Verdict} {s' : σ × γ} {rest : Program (GatedAction Key A) (GatedReply Verdict R) ε β}
    (hanswer : (limiter.gate clock).answer key d.shared.1 d.shared.2 verdict s'.2) :
    Metered limiter rate g (d.advance i (.ask key) verdict s' rest) := by
  obtain ⟨-, hstate, hwait⟩ := hanswer
  rw [h.state] at hstate hwait
  rw [hkeeps] at hwait
  constructor
  · simp only [Config.advance, checks_ask, Limiter.after_concat]
    exact hstate.symm
  · intro key'
    simp only [Config.advance, checks_ask, admittedTimes_ask, timesOf_append]
    rw [h.admitted]
    by_cases hkey : key = key'
    · subst hkey
      rw [timesOf_same, timesOf_nil]
      by_cases hconforms : rate.dueAfter 0 (timesOf key (checks d.log)) ≤ verdict.time + rate.tolerance
      · rw [if_pos hconforms] at hwait
        rw [if_pos ⟨rfl, hwait⟩, (concat_conforming hconforms).1]
      · rw [if_neg hconforms] at hwait
        rw [if_neg (by simp [hwait]), (concat_early hconforms).1, List.append_nil]
    · rw [timesOf_other hkey, timesOf_nil, if_neg fun hsame => hkey hsame.1]
      simp only [List.append_nil]

/-- In every run a limiter that keeps the rate is metered. -/
theorem metered_of_run (hkeeps : limiter.Keeps rate g) (hrun : (M.gated (limiter.gate clock)).Reaches ok c d)
    (hnew : c.log = []) (hstate : c.shared.2 = g) : Metered limiter rate g d := by
  induction hrun with
  | refl =>
    constructor
    · rw [hnew, hstate]
      rfl
    · intro key
      rw [hnew]
      rfl
  | tail _ hstep ih =>
    cases hstep.1 with
    | idle hidle => exact ⟨hidle.2.trans ih.state, ih.admitted⟩
    | @call i b next r s' hcall hperform =>
      cases b with
      | ask key => exact ih.ask hkeeps hperform.2
      | own a =>
        constructor
        · simp only [Config.advance, checks_own]
          exact hperform.2.trans ih.state
        · intro key
          simp only [Config.advance, checks_own, admittedTimes_own]
          exact ih.admitted key

omit [DecidableEq Key] in
/-- The time of a check was read from the clock by then. -/
theorem checked_in_time (hrun : (M.gated (limiter.gate clock)).Reaches ok c d) (hnew : c.log = []) (he : e ∈ d.log)
    {verdict : Verdict} (hentry : e.entry = ⟨.ask key, verdict⟩) : verdict.time ≤ clock e.before.1 := by
  obtain ⟨mid, next, s', hat⟩ := hrun.performedAt_of_mem hnew he
  exact (Machine.perform_of_entry hentry hat.perform).2.1

/-- In no window are more calls of a key admitted than the burst and the periods that fit into it. -/
theorem admitted_in_window (hkeeps : limiter.Keeps rate g) (hrun : (M.gated (limiter.gate clock)).Reaches ok c d)
    (hnew : c.log = []) (hstate : c.shared.2 = g) {start width : ℕ} {calls : Finset ι}
    (hcalls : ∀ i ∈ calls, ∃ e ∈ d.log, e.caller = i ∧
      ∃ t, e.entry = ⟨.ask key, ⟨t, none⟩⟩ ∧ start ≤ t ∧ t ≤ start + width) :
    calls.card ≤ rate.burst + width / rate.period := by
  let inside (e : LimitedEvent ι Key R σ γ) : Bool :=
    ((admittedAt key e).map fun t => decide (start ≤ t ∧ t < start + width + 1)).getD false
  have hcallers : calls ⊆ ((d.log.filter inside).map Event.caller).toFinset := by
    intro i hi
    obtain ⟨e, he, hcaller, t, hentry, hstart, hend⟩ := hcalls i hi
    rw [List.mem_toFinset]
    refine List.mem_map.mpr ⟨e, List.mem_filter.mpr ⟨he, ?_⟩, hcaller⟩
    simp only [inside, admittedAt_eq_some.mpr hentry, Option.map_some, Option.getD_some, decide_eq_true_eq]
    exact ⟨hstart, Nat.lt_succ_of_le hend⟩
  have hcount : (d.log.filter inside).length =
      countIn start (start + width + 1) (d.log.filterMap (admittedAt key)) := by
    rw [countIn, List.countP_filterMap, ← List.countP_eq_length_filter]
  calc calls.card ≤ ((d.log.filter inside).map Event.caller).toFinset.card := Finset.card_le_card hcallers
    _ ≤ ((d.log.filter inside).map Event.caller).length := List.toFinset_card_le _
    _ = countIn start (start + width + 1) (d.log.filterMap (admittedAt key)) := by rw [List.length_map, hcount]
    _ = countIn start (start + width + 1) (admittedTimes key d.log) := by
        rw [admittedTimes, countIn, countIn, List.countP_reverse]
    _ ≤ rate.burst + width / rate.period := by
        rw [(metered_of_run hkeeps hrun hnew hstate).admitted key]
        exact countIn_le 0 start width _

/-- A call is refused only after one of the same key was admitted, less than a period earlier, and is told to
wait no longer than a period after that one. -/
theorem admitted_before_refused (hkeeps : limiter.Keeps rate g)
    (hrun : (M.gated (limiter.gate clock)).Reaches ok c d) (hnew : c.log = []) (hstate : c.shared.2 = g)
    {older : List (LimitedEvent ι Key R σ γ)} (hsuffix : e :: older <:+ d.log)
    {wait : ℕ} (hentry : e.entry = ⟨.ask key, ⟨t, some wait⟩⟩) :
    ∃ f ∈ older, ∃ t', f.entry = ⟨.ask key, ⟨t', none⟩⟩ ∧ t < t' + rate.period ∧
      wait ≤ t' + rate.period - clock e.before.1 := by
  obtain ⟨mid, next, s', hat, rfl⟩ := hrun.performedAt hnew hsuffix
  have hmetered := metered_of_run hkeeps hat.run hnew hstate
  obtain ⟨-, -, hwait⟩ := (Machine.perform_of_entry hentry hat.perform).2
  rw [← hat.before, hmetered.state, hkeeps] at hwait
  rw [← hat.before]
  by_cases hconforms : rate.dueAfter 0 (timesOf key (checks mid.log)) ≤ t + rate.tolerance
  · rw [if_pos hconforms] at hwait
    cases hwait
  · rw [if_neg hconforms, Option.map_some] at hwait
    have hleft := Option.some.inj hwait
    rcases @dueAfter_le rate 0 (timesOf key (checks mid.log)) with hnever | ⟨t', ht', hle⟩
    · rw [hnever] at hconforms
      exact absurd (Nat.zero_le _) hconforms
    · rw [← hmetered.admitted key, admittedTimes, List.mem_reverse, List.mem_filterMap] at ht'
      obtain ⟨f, hf, hadmitted⟩ := ht'
      have hburst := rate.tolerance_add_period
      exact ⟨f, hf, t', admittedAt_eq_some.mp hadmitted, by omega, by omega⟩

end Throttle
