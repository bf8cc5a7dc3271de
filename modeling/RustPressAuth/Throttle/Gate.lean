import Mathlib.Algebra.Order.Group.Int
import Mathlib.Data.List.Basic

/-!
# A gate that locks after too many failures

Attempts pass a gate, are evaluated, and fail or succeed later; a failure is counted when
it is reported, not when it happens. From `limit` failures on, each further one locks
the gate for a duration. Attempts that have passed and are not reported yet are pending.

When an attempt passes only while the gate is open, and only when it is the only pending
one or the failures and the pending attempts leave room below the limit, then wrong
evaluations never outrun the limit before the lock set by its last failure has expired,
and nothing is pending while the gate is locked.
-/

namespace Throttle

/-- A gate: how many failures lock it, and for how long. -/
structure Policy where
  limit : ℤ
  duration : ℤ

/-- The end of the lock after failures at these times, most recent first. -/
def Policy.lockEnd (policy : Policy) : List ℤ → Option ℤ
  | [] => none
  | last :: earlier => if policy.limit ≤ earlier.length + 1 then some (last + policy.duration) else none

/-- The time of the failure that reached the limit. -/
def Policy.lockingFailure (policy : Policy) (times : List ℤ) : Option ℤ :=
  times.reverse[policy.limit.toNat - 1]?

/-- The failures since the last success, most recent first; the attempts that have passed and are
not reported; those of them that are evaluated and wrong; the wrong evaluations since the last
success. -/
structure Gate where
  times : List ℤ
  pending : ℕ
  waiting : ℕ
  wrong : ℕ
  within : waiting ≤ pending

/-- What can happen at a gate, at a time. -/
inductive Move (policy : Policy) (now : ℤ) (g g' : Gate) : Prop
  | pass (hopen : ∀ t, policy.lockEnd g.times = some t → t ≤ now)
      (hroom : g.pending = 0 ∨ (g.times.length : ℤ) + g.pending < policy.limit) (htimes : g'.times = g.times)
      (hpending : g'.pending = g.pending + 1) (hwaiting : g.waiting ≤ g'.waiting) (hwrong : g'.wrong = g.wrong)
  | evaluate (htimes : g'.times = g.times) (hpending : g'.pending = g.pending)
      (hwaiting : g'.waiting = g.waiting + 1) (hwrong : g'.wrong = g.wrong + 1)
  | fail (htimes : g'.times = now :: g.times) (hpending : g'.pending + 1 = g.pending)
      (hwaiting : g.waiting ≤ g'.waiting + 1) (hwrong : g'.wrong = g.wrong)
  | succeed (htimes : g'.times = []) (hpending : g'.pending ≤ g.pending) (hwrong : g'.wrong = 0)
  | leave (htimes : g'.times = g.times) (hpending : g'.pending ≤ g.pending) (hwaiting : g.waiting ≤ g'.waiting)
      (hwrong : g'.wrong = g.wrong)

/-- The invariant of a gate. -/
structure Sound (policy : Policy) (now : ℤ) (g : Gate) : Prop where
  slots : (g.times.length : ℤ) + g.pending ≤ policy.limit ∨ (policy.limit ≤ g.times.length ∧ g.pending ≤ 1)
  quiet : g.pending ≠ 0 → ∀ t, policy.lockEnd g.times = some t → t ≤ now
  expired : (policy.limit < g.times.length ∨ (policy.limit = g.times.length ∧ g.pending ≠ 0)) →
    ∀ t, policy.lockingFailure g.times = some t → t + policy.duration ≤ now
  counted : g.wrong ≤ g.times.length + g.waiting

variable {policy : Policy} {now now' t : ℤ} {g g' : Gate} {times : List ℤ}

/-- The lock after one more failure ends at a time exactly if the failures reach the limit and the time is the
one the policy gives the last of them. -/
theorem lockEnd_cons (last : ℤ) : policy.lockEnd (last :: times) = some t ↔
    policy.limit ≤ times.length + 1 ∧ last + policy.duration = t := by
  simp only [Policy.lockEnd, Option.ite_none_right_eq_some, Option.some.injEq]

/-- A further failure is not the one that reached the limit, once it is reached. -/
theorem lockingFailure_cons (hlimit : 1 ≤ policy.limit) (hmany : policy.limit ≤ times.length) :
    policy.lockingFailure (now :: times) = policy.lockingFailure times := by
  have hindex : policy.limit.toNat - 1 < times.reverse.length := by
    rw [List.length_reverse]
    omega
  rw [Policy.lockingFailure, Policy.lockingFailure, List.reverse_cons, List.getElem?_append_left hindex]

/-- With exactly as many failures as the limit, the last one reached it. -/
theorem lockEnd_of_limit (hlimit : 1 ≤ policy.limit) (hmany : policy.limit = times.length)
    (ht : policy.lockingFailure times = some t) : policy.lockEnd times = some (t + policy.duration) := by
  cases times with
  | nil =>
    rw [List.length_nil] at hmany
    omega
  | cons last earlier =>
    rw [List.length_cons] at hmany
    have hindex : policy.limit.toNat - 1 = earlier.reverse.length := by
      rw [List.length_reverse]
      omega
    rw [Policy.lockingFailure, List.reverse_cons, hindex, List.getElem?_concat_length] at ht
    obtain rfl := Option.some.inj ht
    exact (lockEnd_cons last).mpr ⟨by omega, rfl⟩

/-- A new gate is sound. -/
theorem Sound.start (hlimit : 1 ≤ policy.limit) (htimes : g.times = []) (hpending : g.pending = 0)
    (hwrong : g.wrong = 0) : Sound policy now g := by
  constructor
  · rw [htimes, hpending]
    exact Or.inl (by simp; omega)
  · intro h
    exact absurd hpending h
  · rw [htimes, List.length_nil]
    intro h
    omega
  · rw [hwrong]
    exact Nat.zero_le _

/-- Time passes. -/
theorem Sound.later (h : Sound policy now g) (hle : now ≤ now') : Sound policy now' g where
  slots := h.slots
  quiet hpending t ht := le_trans (h.quiet hpending t ht) hle
  expired hmany t ht := le_trans (h.expired hmany t ht) hle
  counted := h.counted

/-- Every move keeps the gate sound. -/
theorem Sound.move (hlimit : 1 ≤ policy.limit) (h : Sound policy now g) (hmove : Move policy now g g') :
    Sound policy now g' := by
  have hslots := h.slots
  have hcounted := h.counted
  have hwithin := g.within
  cases hmove with
  | pass hopen hroom htimes hpending hwaiting hwrong =>
    constructor
    · rw [htimes]
      omega
    · intro _ t ht
      rw [htimes] at ht
      exact hopen t ht
    · intro hmany t ht
      rw [htimes] at hmany ht
      by_cases hmore : policy.limit < g.times.length
      · exact h.expired (Or.inl hmore) t ht
      · have hequal : policy.limit = g.times.length := by omega
        exact hopen _ (lockEnd_of_limit hlimit hequal ht)
    · rw [htimes, hwrong]
      omega
  | evaluate htimes hpending hwaiting hwrong =>
    constructor
    · rw [htimes, hpending]
      exact hslots
    · rw [htimes, hpending]
      exact h.quiet
    · rw [htimes, hpending]
      exact h.expired
    · rw [htimes]
      omega
  | fail htimes hpending hwaiting hwrong =>
    constructor
    · rw [htimes, List.length_cons]
      omega
    · intro hstill t ht
      rw [htimes, lockEnd_cons] at ht
      omega
    · intro hmany t ht
      rw [htimes, List.length_cons] at hmany
      rw [htimes, lockingFailure_cons hlimit (by omega)] at ht
      exact h.expired (by omega) t ht
    · rw [htimes, List.length_cons]
      omega
  | succeed htimes hpending hwrong =>
    constructor
    · rw [htimes, List.length_nil]
      omega
    · intro _ t ht
      rw [htimes] at ht
      cases ht
    · rw [htimes, List.length_nil]
      omega
    · rw [hwrong]
      exact Nat.zero_le _
  | leave htimes hpending hwaiting hwrong =>
    constructor
    · rw [htimes]
      omega
    · intro hstill t ht
      rw [htimes] at ht
      exact h.quiet (by omega) t ht
    · intro hmany t ht
      rw [htimes] at hmany ht
      exact h.expired (by omega) t ht
    · rw [htimes]
      omega

/-- Before the lock set at the limit has expired, no more wrong evaluations than the limit. -/
theorem Sound.bound (hlimit : 1 ≤ policy.limit) (h : Sound policy now g)
    (hearly : ∀ t, policy.lockingFailure g.times = some t → now < t + policy.duration) :
    (g.wrong : ℤ) ≤ policy.limit := by
  have hslots := h.slots
  have hcounted := h.counted
  have hwithin := g.within
  by_contra hmany
  have hreached : policy.limit < g.times.length ∨ (policy.limit = g.times.length ∧ g.pending ≠ 0) := by omega
  have hindex : policy.limit.toNat - 1 < g.times.reverse.length := by
    rw [List.length_reverse]
    omega
  have hlast : policy.lockingFailure g.times = some g.times.reverse[policy.limit.toNat - 1] :=
    List.getElem?_eq_getElem hindex
  have hearly' := hearly _ hlast
  have hexpired := h.expired hreached _ hlast
  omega

end Throttle
