import Mathlib.Tactic.ByContra
import RustPressAuth.Config
import RustPressAuth.Numeric.Rounding

/-!
# Expiries and the ends of locks

Durations of the configuration are added to the current time. For expiries `chrono` does
it, and panics out of its range; for locks Postgres does it, multiplying an interval in
double precision, and reports an error out of its range. A panic ends the call that
computes the expiry without a result.
-/

namespace RustPressAuth

/-- What goes wrong in time arithmetic: `chrono` panics, or Postgres reports an error. -/
inductive TimeFault where
  /-- `Duration::seconds` panics. -/
  | durationOutOfBounds
  /-- `DateTime + Duration` panics. -/
  | dateTimeOverflow
  /-- `interval out of range`. -/
  | intervalOutOfRange
  /-- `timestamp out of range`. -/
  | timestampOutOfRange
deriving DecidableEq, Repr

/-- How a call ends without a value. -/
inductive Failure where
  /-- It returns an error. -/
  | err (e : AuthError)
  /-- It panics in time arithmetic. -/
  | panic (fault : TimeFault)
deriving DecidableEq, Repr

/-- The first instant of a year of the proleptic Gregorian calendar. -/
def yearStart (year : ℤ) : ℤ :=
  (365 * (year - 1) + (year - 1) / 4 - (year - 1) / 100 + (year - 1) / 400 - 719162) * 86400000000

example : yearStart 1970 = 0 := by decide

/-- `Duration::seconds`, bounded by `i64::MAX` milliseconds. -/
def durationSeconds (n : Int64) : Except TimeFault ℤ :=
  if -9223372036854775 ≤ n.toInt ∧ n.toInt ≤ 9223372036854775 then .ok (seconds n) else .error .durationOutOfBounds

/-- `DateTime<Utc> + Duration`, in the years from -262143 to 262142. -/
def addDuration (t : ℤ) (duration : ℤ) : Except TimeFault ℤ :=
  if yearStart (-262143) ≤ t + duration ∧ t + duration < yearStart 262143 then .ok (t + duration)
  else .error .dateTimeOverflow

/-- `Utc::now() + Duration::seconds(n)`. -/
def expiry (now : ℤ) (n : Int64) : Except TimeFault ℤ := do
  let duration ← durationSeconds n
  addDuration now duration

/-- A value of the type TIMESTAMPTZ: from November 24, 4714 BC to the end of the year 294276. -/
def timestamptz (t : ℤ) : Except TimeFault ℤ :=
  if -210866803200000000 ≤ t ∧ t < yearStart 294277 then .ok t else .error .timestampOutOfRange

/-- The microseconds of `INTERVAL '1 second' * n`, computed in double precision. -/
def intervalMicros (n : Int64) : ℤ := Numeric.round 53 (1000000 * Numeric.round 53 n.toInt)

/-- `INTERVAL '1 second' * n`. -/
def intervalSeconds (n : Int64) : Except TimeFault ℤ :=
  if -9223372036854775808 ≤ intervalMicros n ∧ intervalMicros n < 9223372036854775808 then .ok (intervalMicros n)
  else .error .intervalOutOfRange

/-- `NOW() + INTERVAL '1 second' * n`. -/
def lockEndAfter (now : ℤ) (n : Int64) : Except TimeFault ℤ := do
  let interval ← intervalSeconds n
  timestamptz (now + interval)

/-- A computation that may fail succeeds through a successful first part. -/
theorem except_bind_eq_ok {ε α β : Type} {x : Except ε α} {f : α → Except ε β} {b : β} :
    (x >>= f) = .ok b ↔ ∃ a, x = .ok a ∧ f a = .ok b := by
  cases x with
  | error e => simp [bind, Except.bind]
  | ok a => simp [bind, Except.bind]

/-- A checked value is returned exactly when the check passes. -/
theorem except_ite_eq_ok {ε α : Type} {p : Prop} [Decidable p] {v t : α} {e : ε} :
    (if p then Except.ok v else Except.error e) = .ok t ↔ p ∧ v = t := by
  by_cases hp : p
  · simp [hp]
  · simp [hp]

/-- The start of the year 3000. -/
theorem yearStart_3000 : yearStart 3000 = 32503680000000000 := by decide

/-- The end of the years of `chrono`. -/
theorem yearStart_262143 : yearStart 262143 = 8210266876800000000 := by decide

/-- The end of the timestamps of Postgres. -/
theorem yearStart_294277 : yearStart 294277 = 9224318016000000000 := by decide

/-- The start of the years of `chrono`. -/
theorem yearStart_first : yearStart (-262143) = -8334601228800000000 := by decide

variable {now t : ℤ} {n : Int64}

/-- The expiry after a duration lies within the bounds of `chrono`. -/
def Expires (now : ℤ) (n : Int64) : Prop :=
  (-9223372036854775 ≤ n.toInt ∧ n.toInt ≤ 9223372036854775) ∧
    yearStart (-262143) ≤ now + seconds n ∧ now + seconds n < yearStart 262143

instance : Decidable (Expires now n) := inferInstanceAs (Decidable (_ ∧ _))

/-- An expiry is the current time and the duration, within the bounds of `chrono`. -/
theorem expiry_eq_ok : expiry now n = .ok t ↔ Expires now n ∧ t = now + seconds n := by
  rw [expiry, except_bind_eq_ok]
  constructor
  · rintro ⟨duration, hduration, hsum⟩
    obtain ⟨hbounds, rfl⟩ := except_ite_eq_ok.mp hduration
    obtain ⟨hyears, rfl⟩ := except_ite_eq_ok.mp hsum
    exact ⟨⟨hbounds, hyears⟩, rfl⟩
  · rintro ⟨⟨hbounds, hyears⟩, rfl⟩
    exact ⟨seconds n, if_pos hbounds, if_pos hyears⟩

/-- Out of these bounds the computation panics. -/
theorem expiry_eq_error (h : ¬ Expires now n) : ∃ fault, expiry now n = .error fault := by
  cases hexpiry : expiry now n with
  | error fault => exact ⟨fault, rfl⟩
  | ok t => exact absurd (expiry_eq_ok.mp hexpiry).1 h

/-- Some time on no expiry can be computed any more. -/
theorem exists_not_expires (clock : ℕ) (n : Int64) : ∃ t : ℕ, clock ≤ t ∧ ¬ Expires t n := by
  refine ⟨clock + 9223380247121652608000000, Nat.le_add_right _ _, fun hexpires => ?_⟩
  have hlow := Int64.le_toInt n
  have hlate := hexpires.2.2
  rw [yearStart_262143] at hlate
  unfold seconds at hlate
  omega

/-- A lock of this duration ends within the bounds of Postgres. -/
def LockEnds (now : ℤ) (n : Int64) : Prop :=
  (-9223372036854775808 ≤ intervalMicros n ∧ intervalMicros n < 9223372036854775808) ∧
    -210866803200000000 ≤ now + intervalMicros n ∧ now + intervalMicros n < yearStart 294277

instance : Decidable (LockEnds now n) := inferInstanceAs (Decidable (_ ∧ _))

/-- The end of a lock is the current time and the interval, within the bounds of Postgres. -/
theorem lockEndAfter_eq_ok : lockEndAfter now n = .ok t ↔ LockEnds now n ∧ t = now + intervalMicros n := by
  rw [lockEndAfter, except_bind_eq_ok]
  constructor
  · rintro ⟨interval, hinterval, hsum⟩
    obtain ⟨hbounds, rfl⟩ := except_ite_eq_ok.mp hinterval
    obtain ⟨hyears, rfl⟩ := except_ite_eq_ok.mp hsum
    exact ⟨⟨hbounds, hyears⟩, rfl⟩
  · rintro ⟨⟨hbounds, hyears⟩, rfl⟩
    exact ⟨intervalMicros n, if_pos hbounds, if_pos hyears⟩

/-- An interval of at most 285 years is computed exactly. -/
theorem intervalMicros_exact (hpositive : 0 ≤ n.toInt) (hexact : n.toInt ≤ 9007199254) :
    intervalMicros n = n.toInt * 1000000 := by
  obtain ⟨m, hm⟩ := Int.eq_ofNat_of_zero_le hpositive
  have hbound : 1000000 * m < 2 ^ 53 := by omega
  have hmicros : (1000000 : ℤ) * m = ((1000000 * m : ℕ) : ℤ) := by simp
  rw [intervalMicros, hm, Numeric.round_natCast, Numeric.roundNat_of_lt (by omega), hmicros, Numeric.round_natCast,
    Numeric.roundNat_of_lt hbound]
  omega

/-- Longer durations give longer intervals. -/
theorem le_intervalMicros {m : ℤ} (hpositive : 0 ≤ m) (h : m ≤ n.toInt) :
    Numeric.round 53 (1000000 * Numeric.round 53 m) ≤ intervalMicros n := by
  have hround := Numeric.round_mono (p := 53) (by decide) hpositive h
  have hzero : 0 ≤ Numeric.round 53 m := Numeric.round_mono (p := 53) (by decide) (Int.le_refl 0) hpositive
  exact Numeric.round_mono (by decide) (by omega) (by omega)

/-- An interval is at most the rounded microseconds of a bound of its seconds. -/
theorem intervalMicros_le {m : ℤ} (hpositive : 0 ≤ n.toInt) (h : n.toInt ≤ m) :
    intervalMicros n ≤ Numeric.round 53 (1000000 * Numeric.round 53 m) := by
  have hround := Numeric.round_mono (p := 53) (by decide) hpositive h
  have hzero : 0 ≤ Numeric.round 53 n.toInt := Numeric.round_mono (p := 53) (by decide) (Int.le_refl 0) hpositive
  exact Numeric.round_mono (by decide) (by omega) (by omega)

/-- An interval is positive exactly when its duration is. -/
theorem intervalMicros_pos : 0 < intervalMicros n ↔ 1 ≤ n.toInt := by
  constructor
  · intro hpositive
    by_contra hnot
    have hinner : Numeric.round 53 n.toInt ≤ 0 := Numeric.round_nonpos (by omega)
    have houter : intervalMicros n ≤ 0 := Numeric.round_nonpos (by omega)
    omega
  · intro hpositive
    have hsecond := le_intervalMicros (by decide) hpositive
    have hmicros : Numeric.round 53 (1000000 * Numeric.round 53 1) = 1000000 := by decide
    omega

end RustPressAuth
