import RustPressAuth.Config
import RustPressAuth.Throttle.CellRate

/-!
# Rate limiting for the authentication endpoints

The limiter is configured with requests in a minute and a burst. It replenishes at an
interval, the minute divided by the requests, in whole milliseconds and at least one.
Each client address is a key of its own. The limiter itself is a crate: it is a parameter,
of which the generic cell rate algorithm is assumed, with no limiter for a period or a
burst of zero.

In a minute such a limiter admits the burst and as many requests as whole intervals fit into
the minute. Dividing twice does not always give back the requests that were configured:
rounding the interval down admits more of them, and the least interval admits fewer.
-/

namespace RustPressAuth

open Throttle Throttle.CellRate

/-- `Duration::from_millis`, in nanoseconds. -/
def fromMillis (millis : ℕ) : ℕ := millis * 1000000

/-- `Duration::from_secs`, in nanoseconds. -/
def fromSecs (secs : ℕ) : ℕ := secs * 1000000000

/-- Configuration knobs for the auth rate limiter. -/
structure RateLimitConfig where
  perMinute : UInt32
  burst : UInt32
  disabled : Bool
deriving DecidableEq, Repr

/-- A variable read at type `u32`, or a default when it is not set, does not parse or is zero. -/
def Environment.positive (env : Environment) (name : String) (default : UInt32) : UInt32 :=
  ((((env name).bind (parseInteger 0 4294967295)).map fun n => UInt32.ofNat n.toNat).filter (0 < ·)).getD default

/-- The address of a client, by which requests are limited. -/
inductive IpAddr where
  | v4 (bits : BitVec 32)
  | v6 (bits : BitVec 128)
deriving DecidableEq, Repr

/-- The crate `tower_governor`: the limiter of client addresses, and what `GovernorConfigBuilder::finish`
makes of a period in nanoseconds and a burst, a new limiter or nothing. -/
structure Governor (γ : Type) extends Limiter IpAddr γ where
  finish : ℕ → ℕ → Option γ

/-- What the crate documents. -/
structure Governor.Documented {γ : Type} (governor : Governor γ) : Prop where
  /-- A limiter is made unless the period or the burst is zero. -/
  finish_isSome : ∀ period burst, (governor.finish period burst).isSome = true ↔ 0 < period ∧ 0 < burst
  /-- A new limiter runs the generic cell rate algorithm, for each key on its own. -/
  keeps : ∀ (rate : CellRate) g, governor.finish rate.period rate.burst = some g → governor.Keeps rate g

namespace RateLimitConfig

/-- Load config from environment variables, falling back to defaults. -/
def fromEnv (env : Environment) : RateLimitConfig where
  perMinute := env.positive "AUTHPRO_LOGIN_RATE_PER_MIN" 10
  burst := env.positive "AUTHPRO_LOGIN_BURST" 5
  disabled := ((env "AUTHPRO_RATE_LIMIT_DISABLED").map fun v =>
    let v := v.toLower
    v == "true" || v == "1" || v == "yes").getD false

/-- Convert the rate to a replenishment interval. -/
def replenishInterval (cfg : RateLimitConfig) : ℕ :=
  if cfg.perMinute = 0 then fromSecs 60
  else fromMillis (max (60000 / max cfg.perMinute.toNat 1) 1)

/-- The defaults. -/
def default : RateLimitConfig where
  perMinute := 10
  burst := 5
  disabled := false

/-- The limiter that a router gets; none when it is disabled or its configuration is invalid. -/
def applyAuthRateLimit {γ : Type} (cfg : RateLimitConfig) (governor : Governor γ) : Option γ :=
  if cfg.disabled then none else governor.finish cfg.replenishInterval cfg.burst.toNat

/-- The requests that reach the router, of requests with the client's address and the time in nanoseconds. -/
def passed {γ : Type} (cfg : RateLimitConfig) (governor : Governor γ) (requests : List (IpAddr × ℕ)) :
    List (IpAddr × ℕ) :=
  match cfg.applyAuthRateLimit governor with
  | some g => governor.passed g requests
  | none => requests

/-- The configured rate is kept: in no minute do more requests of a client pass than the rate and the burst,
and in a minute in which the client has a request at every instant the rate is reached. -/
structure KeepsRate {γ : Type} (cfg : RateLimitConfig) (governor : Governor γ) : Prop where
  atMost : ∀ requests ip start,
    countIn start (start + fromSecs 60 + 1) (timesOf ip (cfg.passed governor requests)) ≤
      cfg.perMinute.toNat + cfg.burst.toNat
  atLeast : ∀ requests ip start, (timesOf ip requests).Pairwise (· ≤ ·) →
    (∀ t, start ≤ t → t < start + fromSecs 60 → t ∈ timesOf ip requests) →
    cfg.perMinute.toNat ≤ countIn start (start + fromSecs 60) (timesOf ip (cfg.passed governor requests))

variable {γ : Type} {cfg : RateLimitConfig} {governor : Governor γ} {rate : CellRate} {g : γ}

/-- A variable that must be positive is read as a positive number. -/
theorem positive_pos (env : Environment) (name : String) {default : UInt32} (hdefault : 0 < default) :
    0 < env.positive name default := by
  unfold Environment.positive
  cases hread : (((env name).bind (parseInteger 0 4294967295)).map fun n =>
    UInt32.ofNat n.toNat).filter (0 < ·) with
  | none => exact hdefault
  | some n => simpa using (Option.filter_eq_some_iff.mp hread).2

/-- What is loaded from the environment has a rate and a burst. -/
theorem fromEnv_pos (env : Environment) : 0 < (fromEnv env).perMinute ∧ 0 < (fromEnv env).burst :=
  ⟨positive_pos env _ (by decide), positive_pos env _ (by decide)⟩

/-- The interval of a rate is whole milliseconds. -/
theorem replenishInterval_eq (hrate : 0 < cfg.perMinute.toNat) :
    cfg.replenishInterval = max (60000 / cfg.perMinute.toNat) 1 * 1000000 := by
  have hsome : cfg.perMinute ≠ 0 := by
    intro hzero
    rw [hzero] at hrate
    exact absurd hrate (Nat.lt_irrefl 0)
  rw [replenishInterval, if_neg hsome, Nat.max_eq_left hrate]
  rfl

/-- An interval is not zero. -/
theorem replenishInterval_pos : 0 < cfg.replenishInterval := by
  unfold replenishInterval
  split
  · decide
  · exact Nat.mul_pos (Nat.lt_of_lt_of_le Nat.one_pos (Nat.le_max_right _ _)) (by decide)

/-- An enabled limiter with a burst is applied, and keeps the rate of its interval and burst. -/
theorem exists_limiter (hgovernor : governor.Documented) (henabled : cfg.disabled = false)
    (hburst : 0 < cfg.burst.toNat) :
    ∃ (g : γ) (rate : CellRate), cfg.applyAuthRateLimit governor = some g ∧ governor.Keeps rate g ∧
      rate.burst = cfg.burst.toNat ∧ rate.period = cfg.replenishInterval := by
  have hmade := (hgovernor.finish_isSome cfg.replenishInterval cfg.burst.toNat).mpr ⟨replenishInterval_pos, hburst⟩
  obtain ⟨g, hfinish⟩ := Option.isSome_iff_exists.mp hmade
  refine ⟨g, ⟨cfg.replenishInterval, cfg.burst.toNat, replenishInterval_pos, hburst⟩, ?_,
    hgovernor.keeps _ g hfinish, rfl, rfl⟩
  rw [applyAuthRateLimit, henabled]
  exact hfinish

/-- As many intervals fit into a minute as milliseconds of the interval do. -/
theorem intervals_in_minute (hrate : 0 < cfg.perMinute.toNat) :
    fromSecs 60 / cfg.replenishInterval = 60000 / max (60000 / cfg.perMinute.toNat) 1 := by
  rw [replenishInterval_eq hrate, fromSecs]
  exact Nat.mul_div_mul_right 60000 _ (Nat.succ_pos 999999)

/-- The requests of a client that pass are those that its own cell rate admits. -/
theorem timesOf_passed (happlied : cfg.applyAuthRateLimit governor = some g)
    (hkeeps : governor.Keeps rate g) (ip : IpAddr) (requests : List (IpAddr × ℕ)) :
    timesOf ip (cfg.passed governor requests) = rate.admitted 0 (timesOf ip requests) := by
  rw [passed, happlied]
  exact hkeeps.timesOf_passed ip requests

/-- The rate is kept if as many intervals fit into a minute as requests are configured. -/
theorem KeepsRate.of_intervals (happlied : cfg.applyAuthRateLimit governor = some g)
    (hkeeps : governor.Keeps rate g) (hburst : rate.burst = cfg.burst.toNat)
    (hintervals : fromSecs 60 / rate.period = cfg.perMinute.toNat) :
    cfg.KeepsRate governor where
  atMost requests ip start := by
    rw [timesOf_passed happlied hkeeps, ← hburst, ← hintervals, Nat.add_comm (fromSecs 60 / rate.period)]
    exact countIn_le 0 start (fromSecs 60) _
  atLeast requests ip start hsorted hwaiting := by
    have hpositive := Nat.mul_pos rate.burst_pos rate.period_pos
    rw [timesOf_passed happlied hkeeps, ← hintervals]
    exact div_le_countIn hsorted (by omega) hwaiting

/-- The address of a single client. -/
def someClient : IpAddr := .v4 0x7f000001

/-- The requests of one client at these times. -/
def fromClient (times : List ℕ) : List (IpAddr × ℕ) := times.map fun t => (someClient, t)

/-- If the rate is kept, no more intervals fit into a minute than requests are configured. -/
theorem KeepsRate.intervals_le (h : cfg.KeepsRate governor)
    (happlied : cfg.applyAuthRateLimit governor = some g) (hkeeps : governor.Keeps rate g)
    (hburst : rate.burst = cfg.burst.toNat) : fromSecs 60 / rate.period ≤ cfg.perMinute.toNat := by
  have hmost := h.atMost (fromClient (burstThen rate.burst
    ((List.range' 1 (fromSecs 60 / rate.period)).map (· * rate.period)))) someClient 0
  rw [timesOf_passed happlied hkeeps, fromClient, timesOf_map, Nat.zero_add, countIn_burstThen_ticks] at hmost
  omega

/-- If the rate is kept, no more requests are configured than intervals fit into a minute. -/
theorem KeepsRate.le_intervals (h : cfg.KeepsRate governor)
    (happlied : cfg.applyAuthRateLimit governor = some g) (hkeeps : governor.Keeps rate g) :
    cfg.perMinute.toNat ≤ fromSecs 60 / rate.period := by
  have hleast := h.atLeast (fromClient (burstThen rate.burst (List.range' 1 (fromSecs 60)))) someClient 1
  rw [timesOf_passed happlied hkeeps, fromClient, timesOf_map] at hleast
  have hsorted : (burstThen rate.burst (List.range' 1 (fromSecs 60))).Pairwise (· ≤ ·) := by
    rw [burstThen, List.pairwise_append]
    refine ⟨List.pairwise_replicate.mpr (Or.inr (Nat.le_refl 0)), ?_, ?_⟩
    · exact List.pairwise_le_range' 1
    · intro a ha b hb
      rw [List.eq_of_mem_replicate ha]
      exact Nat.zero_le b
  have hwaiting : ∀ t, 1 ≤ t → t < 1 + fromSecs 60 →
      t ∈ burstThen rate.burst (List.range' 1 (fromSecs 60)) := by
    intro t hstart hend
    exact List.mem_append_right _ (List.mem_range'_1.mpr ⟨hstart, hend⟩)
  exact Nat.le_trans (hleast hsorted hwaiting) (countIn_burstThen_instants rate (by decide))

/-- Dividing the minute twice gives back the requests exactly if the first quotient is not below one millisecond and
nothing is lost. -/
theorem twice_divided_iff {requests : ℕ} (hrequests : 0 < requests) :
    60000 / max (60000 / requests) 1 = requests ↔ requests ≤ 60000 ∧ 60000 / (60000 / requests) = requests := by
  by_cases hfew : requests ≤ 60000
  · have hone : 1 ≤ 60000 / requests := (Nat.one_le_div_iff hrequests).mpr hfew
    rw [Nat.max_eq_left hone]
    exact ⟨fun h => ⟨hfew, h⟩, fun h => h.2⟩
  · have hzero : 60000 / requests = 0 := Nat.div_eq_of_lt (by omega)
    have hleast : 60000 / max (60000 / requests) 1 = 60000 := by
      rw [hzero]
      rfl
    rw [hleast]
    omega

/-- A rate that is below the number of milliseconds in its interval is kept. -/
theorem keepsRate_of_small (hgovernor : governor.Documented) (henabled : cfg.disabled = false)
    (hrate : 0 < cfg.perMinute.toNat) (hburst : 0 < cfg.burst.toNat)
    (hsmall : cfg.perMinute.toNat * (cfg.perMinute.toNat + 1) ≤ 60000) : cfg.KeepsRate governor := by
  obtain ⟨g, rate, happlied, hkeeps, hsame, hperiod⟩ := exists_limiter hgovernor henabled hburst
  apply KeepsRate.of_intervals happlied hkeeps hsame
  rw [hperiod, intervals_in_minute hrate]
  generalize cfg.perMinute.toNat = requests at hrate hsmall
  have hlong : requests + 1 ≤ 60000 / requests := by
    rw [Nat.le_div_iff_mul_le hrate, Nat.mul_comm]
    exact hsmall
  have hlow : 60000 / requests * requests ≤ 60000 := Nat.div_mul_le_self 60000 requests
  have hhigh : 60000 < 60000 / requests * requests + requests := Nat.lt_div_mul_add hrate
  rw [Nat.max_eq_left (by omega)]
  apply Nat.div_eq_of_lt_le
  · rw [Nat.mul_comm]
    exact hlow
  · rw [Nat.succ_mul, Nat.mul_comm requests]
    omega

/-- An enabled limiter with a rate and a burst keeps the rate exactly if the rate is at most one request in a
millisecond and is the quotient of the minute by its interval in milliseconds. -/
theorem keepsRate_iff {γ : Type} (governor : Governor γ) (hgovernor : governor.Documented) (cfg : RateLimitConfig)
    (henabled : cfg.disabled = false) (hrate : 1 ≤ cfg.perMinute.toNat) (hburst : 1 ≤ cfg.burst.toNat) :
    cfg.KeepsRate governor ↔
      cfg.perMinute.toNat ≤ 60000 ∧ 60000 / (60000 / cfg.perMinute.toNat) = cfg.perMinute.toNat := by
  obtain ⟨g, rate, happlied, hkeeps, hsame, hperiod⟩ := exists_limiter hgovernor henabled hburst
  rw [← twice_divided_iff hrate, ← intervals_in_minute hrate, ← hperiod]
  constructor
  · intro h
    exact Nat.le_antisymm (h.intervals_le happlied hkeeps hsame) (h.le_intervals happlied hkeeps)
  · exact KeepsRate.of_intervals happlied hkeeps hsame

/-- The textbook limiter as the crate. -/
def textbookGovernor : Governor (CellRate × (IpAddr → ℕ)) where
  toLimiter := Limiter.textbook IpAddr
  finish period burst :=
    if h : 0 < period ∧ 0 < burst then some (⟨period, burst, h.1, h.2⟩, fun _ => 0) else none

/-- The textbook limiter does what the crate documents. -/
theorem textbookGovernor_documented : textbookGovernor.Documented where
  finish_isSome period burst := by
    simp only [textbookGovernor]
    split
    · rename_i h
      simp [h]
    · rename_i h
      simp [h]
  keeps rate g hfinish := by
    simp only [textbookGovernor, rate.period_pos, rate.burst_pos, and_self, dite_true] at hfinish
    obtain rfl := Option.some.inj hfinish
    exact Limiter.textbook_keeps rate

/-- The default limiter keeps its rate. -/
theorem default_keepsRate : default.KeepsRate textbookGovernor :=
  (keepsRate_iff textbookGovernor textbookGovernor_documented default rfl (by decide) (by decide)).mpr
    ⟨by decide, by decide⟩

/-- A rate of 40000 is replenished once in a millisecond, 60000 times in a minute. -/
theorem not_keepsRate_fortyThousand : textbookGovernor.Documented ∧
    (⟨40000, 5, false⟩ : RateLimitConfig).replenishInterval = fromMillis 1 ∧
    ¬(⟨40000, 5, false⟩ : RateLimitConfig).KeepsRate textbookGovernor := by
  refine ⟨textbookGovernor_documented, by decide, fun h => ?_⟩
  obtain ⟨g, rate, happlied, hkeeps, hsame, hperiod⟩ :=
    exists_limiter textbookGovernor_documented
      (rfl : (⟨40000, 5, false⟩ : RateLimitConfig).disabled = false) (by decide)
  have hmost := h.intervals_le happlied hkeeps hsame
  rw [hperiod, intervals_in_minute (by decide)] at hmost
  exact absurd hmost (by decide)

end RateLimitConfig

end RustPressAuth
