import Mathlib.Algebra.Group.Nat.Defs
import Mathlib.Data.Int.Notation
import Mathlib.Data.Nat.Notation

/-!
# Rounding integers to a number of significant bits

A floating-point format with a precision of `p` bits represents an integer exactly when the
integer has at most `p` significant bits. Other integers are rounded to the nearest multiple
of a power of two, of two multiples to the one with an even factor. Rounding is monotone and
keeps what is representable; bounds on rounded values follow from these two.
-/

namespace Numeric

/-- The multiple of `2 ^ k` nearest to a number. -/
def roundShift (k z : ℕ) : ℕ :=
  if 2 * (z % 2 ^ k) < 2 ^ k ∨ (2 * (z % 2 ^ k) = 2 ^ k ∧ z / 2 ^ k % 2 = 0) then z / 2 ^ k * 2 ^ k
  else (z / 2 ^ k + 1) * 2 ^ k

/-- A natural number rounded to `p` significant bits. -/
def roundNat (p z : ℕ) : ℕ := roundShift (z.log2 + 1 - p) z

/-- An integer rounded to `p` significant bits. -/
def round (p : ℕ) : ℤ → ℤ
  | .ofNat z => roundNat p z
  | .negSucc z => -(roundNat p (z + 1) : ℤ)

variable {k p l z z' : ℕ}

/-- Multiples are kept. -/
theorem roundShift_mul (k m : ℕ) : roundShift k (m * 2 ^ k) = m * 2 ^ k := by
  have hpos : 0 < 2 ^ k := Nat.two_pow_pos k
  rw [roundShift, Nat.mul_mod_left, Nat.mul_div_cancel m hpos, if_pos (Or.inl (by omega))]

/-- A power of two that is a multiple of the unit is not rounded. -/
theorem roundShift_two_pow (h : k ≤ l) : roundShift k (2 ^ l) = 2 ^ l := by
  have hmultiple : 2 ^ l = 2 ^ (l - k) * 2 ^ k := by rw [← Nat.pow_add, Nat.sub_add_cancel h]
  rw [hmultiple, roundShift_mul]

/-- A rounded number lies between the multiples around the number. -/
theorem le_roundShift (k z : ℕ) : z / 2 ^ k * 2 ^ k ≤ roundShift k z := by
  unfold roundShift
  split
  · exact Nat.le_refl _
  · exact Nat.mul_le_mul_right _ (Nat.le_succ _)

/-- Rounding goes at most to the next multiple of the unit. -/
theorem roundShift_le (k z : ℕ) : roundShift k z ≤ (z / 2 ^ k + 1) * 2 ^ k := by
  unfold roundShift
  split
  · exact Nat.mul_le_mul_right _ (Nat.le_succ _)
  · exact Nat.le_refl _

/-- Rounding to multiples of a unit is monotone. -/
theorem roundShift_mono (h : z ≤ z') : roundShift k z ≤ roundShift k z' := by
  rcases Nat.lt_or_ge (z / 2 ^ k) (z' / 2 ^ k) with hless | hge
  · calc roundShift k z ≤ (z / 2 ^ k + 1) * 2 ^ k := roundShift_le k z
      _ ≤ z' / 2 ^ k * 2 ^ k := Nat.mul_le_mul_right _ hless
      _ ≤ roundShift k z' := le_roundShift k z'
  · have hsame : z / 2 ^ k = z' / 2 ^ k := Nat.le_antisymm (Nat.div_le_div_right h) hge
    have hz := Nat.div_add_mod z (2 ^ k)
    have hz' := Nat.div_add_mod z' (2 ^ k)
    rw [hsame] at hz
    have hremainder : z % 2 ^ k ≤ z' % 2 ^ k := by omega
    have hstep : z' / 2 ^ k * 2 ^ k ≤ (z' / 2 ^ k + 1) * 2 ^ k := Nat.mul_le_mul_right _ (Nat.le_succ _)
    unfold roundShift
    rw [hsame]
    split
    · split
      · exact Nat.le_refl _
      · exact hstep
    · exact Nat.le_of_eq (if_neg (by omega)).symm

/-- A number with few bits is kept. -/
theorem roundNat_of_lt (h : z < 2 ^ p) : roundNat p z = z := by
  rcases Nat.eq_zero_or_pos z with rfl | hpos
  · have hzero := roundShift_mul (Nat.log2 0 + 1 - p) 0
    rwa [Nat.zero_mul] at hzero
  · have hlog : z.log2 < p := (Nat.log2_lt (by omega)).mpr h
    have hshift : z.log2 + 1 - p = 0 := by omega
    have hkept := roundShift_mul 0 z
    rw [Nat.pow_zero, Nat.mul_one] at hkept
    rw [roundNat, hshift, hkept]

/-- Rounding natural numbers is monotone. -/
theorem roundNat_mono (hp : 0 < p) (h : z ≤ z') : roundNat p z ≤ roundNat p z' := by
  rcases Nat.eq_zero_or_pos z with rfl | hpos
  · rw [roundNat_of_lt (Nat.two_pow_pos p)]
    exact Nat.zero_le _
  have hlog : z.log2 ≤ z'.log2 := by
    rw [Nat.le_log2 (by omega)]
    exact Nat.le_trans (Nat.log2_self_le (by omega)) h
  rcases Nat.lt_or_ge z.log2 z'.log2 with hless | hge
  · calc
      roundNat p z ≤ roundShift (z.log2 + 1 - p) (2 ^ (z.log2 + 1)) :=
      roundShift_mono (Nat.le_of_lt Nat.lt_log2_self)
      _ = 2 ^ (z.log2 + 1) := roundShift_two_pow (by omega)
      _ ≤ 2 ^ z'.log2 := Nat.pow_le_pow_right (by omega) hless
      _ = roundShift (z'.log2 + 1 - p) (2 ^ z'.log2) := (roundShift_two_pow (by omega)).symm
      _ ≤ roundNat p z' := roundShift_mono (Nat.log2_self_le (by omega))
  · rw [roundNat, roundNat, Nat.le_antisymm hlog hge]
    exact roundShift_mono h

/-- A natural number is rounded as one. -/
theorem round_natCast (p z : ℕ) : round p (z : ℤ) = roundNat p z := rfl

/-- An integer is not rounded past zero. -/
theorem round_nonpos {z : ℤ} (h : z ≤ 0) : round p z ≤ 0 := by
  cases z with
  | ofNat z =>
    obtain rfl : z = 0 := Int.ofNat_eq_zero.mp (Int.le_antisymm h (Int.natCast_nonneg z))
    rw [Int.ofNat_eq_natCast, round_natCast, roundNat_of_lt (Nat.two_pow_pos p)]
    exact Int.le_refl _
  | negSucc z =>
    rw [round]
    omega

/-- Rounding is monotone on the positive integers. -/
theorem round_mono (hp : 0 < p) {x y : ℤ} (hx : 0 ≤ x) (h : x ≤ y) : round p x ≤ round p y := by
  obtain ⟨m, rfl⟩ := Int.eq_ofNat_of_zero_le hx
  obtain ⟨n, rfl⟩ := Int.eq_ofNat_of_zero_le (Int.le_trans hx h)
  rw [round_natCast, round_natCast]
  exact Int.ofNat_le.mpr (roundNat_mono hp (Int.ofNat_le.mp h))

end Numeric
