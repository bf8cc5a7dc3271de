import RustPressAuth.Reference
import RustPressAuth.Times

/-!
# The time arithmetic of a configuration

Five durations of the configuration are added to the current time: four by `chrono`, which
panics out of range, and the lockout by Postgres, which multiplies an interval in double
precision and reports an error out of range. A validated configuration bounds two of the
five durations from below and none from above. The limits here are exact for all times
before the year 3000.
-/

namespace RustPressAuth

namespace AuthConfig

variable (config : AuthConfig)

/-- The first two durations of a validated configuration are positive, and the second is the longer one. -/
theorem expirations_ordered (hvalid : config.validate = .ok ()) :
    1 ≤ config.accessTokenExpiration.toInt ∧
      config.accessTokenExpiration.toInt < config.refreshTokenExpiration.toInt := by
  have haccess := accessTokenExpiration_pos hvalid
  unfold validate at hvalid
  split_ifs at hvalid with hsecret hshort hrefresh
  rw [Int64.le_iff_toInt_le] at hrefresh
  omega

/-- The expiry in `generate_access_token`. -/
def accessExp (now : ℤ) : Except TimeFault ℤ := expiry now config.accessTokenExpiration

/-- The expiry in `generate_refresh_token`, as it is stored. -/
def refreshExp (now : ℤ) : Except TimeFault ℤ := expiry now config.refreshTokenExpiration >>= timestamptz

/-- The expiry in `forgot_password`, as it is stored. -/
def resetExp (now : ℤ) : Except TimeFault ℤ := expiry now config.passwordResetExpiration >>= timestamptz

/-- The expiry in `create_email_verification`, as it is stored. -/
def verificationExp (now : ℤ) : Except TimeFault ℤ :=
  expiry now config.emailVerificationExpiration >>= timestamptz

/-- The end of the lock in `increment_failed_attempts`: `NOW() + INTERVAL '1 second' * $3`. -/
def lockEndAt (now : ℤ) : Except TimeFault ℤ := lockEndAfter now config.lockoutDuration

end AuthConfig

/-- The expiry of the one-time tokens of a purpose. -/
def Purpose.exp (config : AuthConfig) (now : ℤ) : Purpose → Except TimeFault ℤ
  | .passwordReset => config.resetExp now
  | .emailVerification => config.verificationExp now

/-- The computation gives an instant after the current time. -/
def GivesLater (now : ℤ) (result : Except TimeFault ℤ) : Prop := ∃ t, result = .ok t ∧ now < t

/-- At this time, every computation gives a later instant. -/
structure AuthConfig.SoundAt (config : AuthConfig) (now : ℤ) : Prop where
  access : GivesLater now (config.accessExp now)
  refresh : GivesLater now (config.refreshExp now)
  reset : GivesLater now (config.resetExp now)
  verification : GivesLater now (config.verificationExp now)
  lock : GivesLater now (config.lockEndAt now)

/-- Before the year 3000, every computation gives a later instant. -/
def AuthConfig.TimesSound (config : AuthConfig) : Prop := ∀ now : ℕ, (now : ℤ) < yearStart 3000 → config.SoundAt now

/-- The seconds from the year 3000 to the end of the years of `chrono`. -/
def longestExpiry : ℤ := 8177763196800

/-- The seconds from the year 3000 to the end of the timestamps of Postgres. -/
def longestLock : ℤ := 9191814336000

/-- The durations are positive and do not reach the end of time. -/
structure AuthConfig.TimesInRange (config : AuthConfig) : Prop where
  refresh : config.refreshTokenExpiration.toInt ≤ longestExpiry
  reset : 1 ≤ config.passwordResetExpiration.toInt ∧ config.passwordResetExpiration.toInt ≤ longestExpiry
  verification : 1 ≤ config.emailVerificationExpiration.toInt ∧
    config.emailVerificationExpiration.toInt ≤ longestExpiry
  lock : 1 ≤ config.lockoutDuration.toInt ∧ config.lockoutDuration.toInt ≤ longestLock

section Expiries

variable {now : ℤ} {n : Int64} {t : ℤ}

/-- Before the year 3000, an expiry is computed and later exactly when the duration is positive and does not
reach the end of the years of `chrono`. -/
theorem givesLater_expiry (hpast : 0 ≤ now) :
    GivesLater now (expiry now n) ↔ 1 ≤ n.toInt ∧ now + n.toInt * 1000000 < yearStart 262143 := by
  constructor
  · rintro ⟨t, hexpiry, hlater⟩
    obtain ⟨⟨-, -, hyears⟩, rfl⟩ := expiry_eq_ok.mp hexpiry
    rw [seconds] at hlater hyears
    exact ⟨by omega, hyears⟩
  · rintro ⟨hpositive, hyears⟩
    rw [yearStart_262143] at hyears
    refine ⟨now + seconds n, expiry_eq_ok.mpr ⟨⟨by omega, ?_, ?_⟩, rfl⟩, ?_⟩
    · rw [yearStart_first, seconds]
      omega
    · rw [yearStart_262143, seconds]
      omega
    · rw [seconds]
      omega

/-- What is later and in the years of `chrono` can be stored. -/
theorem givesLater_stored (hpast : 0 ≤ now) :
    GivesLater now (expiry now n >>= timestamptz) ↔ GivesLater now (expiry now n) := by
  constructor
  · rintro ⟨t, hstored, hlater⟩
    obtain ⟨t', hexpiry, hstore⟩ := except_bind_eq_ok.mp hstored
    obtain ⟨-, rfl⟩ := except_ite_eq_ok.mp hstore
    exact ⟨t', hexpiry, hlater⟩
  · rintro ⟨t, hexpiry, hlater⟩
    obtain ⟨⟨-, -, hyears⟩, rfl⟩ := expiry_eq_ok.mp hexpiry
    rw [yearStart_262143] at hyears
    refine ⟨_, except_bind_eq_ok.mpr ⟨_, hexpiry, if_pos ⟨by omega, ?_⟩⟩, hlater⟩
    rw [yearStart_294277]
    omega

/-- A duration in range reaches no end of the years at any time before the year 3000, and one out of range
does at the last of these times. -/
theorem expiry_in_range : (∀ now : ℕ, (now : ℤ) < yearStart 3000 → GivesLater now (expiry now n)) ↔
    1 ≤ n.toInt ∧ n.toInt ≤ longestExpiry := by
  simp only [yearStart_3000, longestExpiry]
  constructor
  · intro hsound
    obtain ⟨hpositive, hyears⟩ :=
      (givesLater_expiry (Int.natCast_nonneg _)).mp (hsound 32503679999999999 (by decide))
    rw [yearStart_262143] at hyears
    exact ⟨hpositive, by omega⟩
  · rintro ⟨hpositive, hlongest⟩ now hnow
    rw [givesLater_expiry (Int.natCast_nonneg now), yearStart_262143]
    exact ⟨hpositive, by omega⟩

end Expiries

section Locks

variable {now : ℤ} {n : Int64}

/-- A lock is set and not over exactly when its interval is positive and in range and does not reach the end of the
timestamps. -/
theorem givesLater_lock {config : AuthConfig} (hpast : 0 ≤ now) : GivesLater now (config.lockEndAt now) ↔
    1 ≤ config.lockoutDuration.toInt ∧ intervalMicros config.lockoutDuration < 9223372036854775808 ∧
      now + intervalMicros config.lockoutDuration < yearStart 294277 := by
  rw [← intervalMicros_pos]
  constructor
  · rintro ⟨t, hlock, hlater⟩
    obtain ⟨⟨hmicros, hyears⟩, rfl⟩ := lockEndAfter_eq_ok.mp hlock
    exact ⟨by omega, hmicros.2, hyears.2⟩
  · rintro ⟨hpositive, hmicros, hyears⟩
    rw [yearStart_294277] at hyears
    refine ⟨now + intervalMicros config.lockoutDuration,
      lockEndAfter_eq_ok.mpr ⟨⟨by omega, by omega, ?_⟩, rfl⟩, by omega⟩
    rw [yearStart_294277]
    exact hyears

/-- A lock is sound at all times before the year 3000 exactly when its duration is positive and in range. -/
theorem lock_in_range {config : AuthConfig} :
    (∀ now : ℕ, (now : ℤ) < yearStart 3000 → GivesLater now (config.lockEndAt now)) ↔
      1 ≤ config.lockoutDuration.toInt ∧ config.lockoutDuration.toInt ≤ longestLock := by
  simp only [yearStart_3000]
  constructor
  · intro hsound
    obtain ⟨hpositive, -, hyears⟩ :=
      (givesLater_lock (Int.natCast_nonneg _)).mp (hsound 32503679999999999 (by decide))
    rw [yearStart_294277] at hyears
    refine ⟨hpositive, ?_⟩
    by_contra hlong
    have hnext := le_intervalMicros (n := config.lockoutDuration) (m := longestLock + 1) (by decide) (by omega)
    have hmicros : Numeric.round 53 (1000000 * Numeric.round 53 (longestLock + 1)) =
      9191814336001000448 := by decide
    omega
  · rintro ⟨hpositive, hlongest⟩ now hnow
    rw [givesLater_lock (Int.natCast_nonneg now), yearStart_294277]
    have hlong := intervalMicros_le (by omega) hlongest
    have hmicros : Numeric.round 53 (1000000 * Numeric.round 53 longestLock) = 9191814336000000000 := by decide
    exact ⟨hpositive, by omega, by omega⟩

end Locks

/-- Sound time arithmetic needs durations in range. -/
theorem AuthConfig.TimesSound.timesInRange {config : AuthConfig} (h : config.TimesSound) : config.TimesInRange := by
  constructor
  · refine (expiry_in_range.mp fun now hnow => ?_).2
    exact (givesLater_stored (Int.natCast_nonneg now)).mp (h now hnow).refresh
  · refine expiry_in_range.mp fun now hnow => ?_
    exact (givesLater_stored (Int.natCast_nonneg now)).mp (h now hnow).reset
  · refine expiry_in_range.mp fun now hnow => ?_
    exact (givesLater_stored (Int.natCast_nonneg now)).mp (h now hnow).verification
  · exact lock_in_range.mp fun now hnow => (h now hnow).lock

/-- The time arithmetic of a validated configuration is sound before the year 3000 if and only if its durations are
in range. -/
theorem time_arithmetic_sound (config : AuthConfig) (hvalid : config.validate = .ok ()) :
    config.TimesSound ↔ config.TimesInRange := by
  constructor
  · exact AuthConfig.TimesSound.timesInRange
  · intro hrange now hnow
    have hpast := Int.natCast_nonneg now
    obtain ⟨haccess, hrefresh⟩ := config.expirations_ordered hvalid
    have hlongest := hrange.refresh
    constructor
    · exact expiry_in_range.mpr ⟨haccess, by omega⟩ now hnow
    · exact (givesLater_stored hpast).mpr (expiry_in_range.mpr ⟨by omega, hlongest⟩ now hnow)
    · exact (givesLater_stored hpast).mpr (expiry_in_range.mpr hrange.reset now hnow)
    · exact (givesLater_stored hpast).mpr (expiry_in_range.mpr hrange.verification now hnow)
    · exact lock_in_range.mpr hrange.lock now hnow

section Runs

open Reference

/-- The default configuration is sound. -/
theorem time_arithmetic_sound_default : config.TimesSound := by
  apply (time_arithmetic_sound config (by decide)).mpr
  constructor
  · decide
  · decide
  · decide
  · decide

/-- Validation accepts configurations under which a reset token is issued expired, a refresh token cannot be
issued, or a lock is over when it is set. -/
theorem validated_times_unsound :
    ({ config with passwordResetExpiration := 0 }.validate = .ok () ∧
      ¬ { config with passwordResetExpiration := 0 }.TimesSound) ∧
    ({ config with refreshTokenExpiration := 9223372036854775807 }.validate = .ok () ∧
      ¬ { config with refreshTokenExpiration := 9223372036854775807 }.TimesSound) ∧
    ({ config with lockoutDuration := -900 }.validate = .ok () ∧
      ¬ { config with lockoutDuration := -900 }.TimesSound) := by
  refine ⟨⟨by decide, fun hsound => ?_⟩, ⟨by decide, fun hsound => ?_⟩, ⟨by decide, fun hsound => ?_⟩⟩
  · exact absurd hsound.timesInRange.reset (by decide)
  · exact absurd hsound.timesInRange.refresh (by decide)
  · exact absurd hsound.timesInRange.lock (by decide)

end Runs

end RustPressAuth
