import Courier.Proofs.Retry.Backoff

/-! Pauses without a random part against the formula: the initial delay times a power of the factor, and no
more than the cap, all of it exact. A pause follows the formula up to one rounding for each factor, so
it jumps to the cap only when the exact growth is about there. The exception is an initial delay of
nothing: once the power has passed the grid's end, the product is no number, and the pause is the cap. -/

namespace Courier.Retry

namespace Policy

variable {p : Policy} {attempt : ℕ}

/-- The power is raised no further than this. -/
def turns (attempt : ℕ) : ℕ := Nat.min attempt (twoTo 31 - 1)

/-- The initial delay times a power of the factor, exactly. -/
def growth (p : Policy) (attempt : ℕ) : ℚ := p.initialDelay.seconds * p.multiplier.value ^ attempt

/-- The documented formula, as far as the power is raised. -/
def formula (p : Policy) (attempt : ℕ) : ℚ := min (p.growth (turns attempt)) p.maxDelay.seconds

theorem turns_lt (attempt : ℕ) : turns attempt < 2 ^ 31 := by
  have bound : turns attempt ≤ twoTo 31 - 1 := Nat.min_le_right _ _
  have whole : twoTo 31 = 2 ^ 31 := rfl
  omega

theorem cappedSecs_eq (p : Policy) (attempt : ℕ) : p.cappedSecs attempt =
    (p.initialDelay.toSecs * p.multiplier.pow (turns attempt)).min p.maxDelay.toSecs := rfl

theorem cap_lt_huge (p : Policy) : p.maxDelay.seconds < 2 ^ 1023 :=
  lt_of_lt_of_le p.maxDelay.seconds_lt (pow_le_pow_right₀ (by norm_num) (by omega))

theorem cap_le_of_huge {w : ℚ} (starts : 0 < p.initialDelay.nanos) (huge : 2 ^ 1023 < w) :
    p.maxDelay.seconds ≤ p.initialDelay.seconds * w := by
  have least := Duration.seconds_ge starts
  -- a nanosecond times 2^94 is more than any duration
  have far : (2 : ℚ) ^ 94 ≤ w :=
    le_of_lt (lt_of_le_of_lt (pow_le_pow_right₀ (by norm_num) (by omega)) huge)
  calc p.maxDelay.seconds ≤ 2 ^ 64 := le_of_lt p.maxDelay.seconds_lt
    _ ≤ 1 / Duration.nanosPerSec * 2 ^ 94 := by norm_num [Duration.nanosPerSec]
    _ ≤ p.initialDelay.seconds * w :=
        mul_le_mul least far (by positivity) p.initialDelay.seconds_nonneg

theorem growth_near (finite : p.multiplier.isFinite = true)
    (grows : Binary64.le 1 p.multiplier = true) (starts : 0 < p.initialDelay.nanos) (attempt : ℕ) :
    (∃ c : ℕ, (p.initialDelay.toSecs * p.multiplier.pow (turns attempt)).place? = some (c : Int) ∧
      Near (turns attempt + 3) (inOnes c) (p.growth (turns attempt))) ∨
    ((p.initialDelay.toSecs * p.multiplier.pow (turns attempt)).place? = some (overflow : Int) ∧
      p.maxDelay.seconds ≤ p.growth (turns attempt)) := by
  obtain ⟨factor, least⟩ := Binary64.value_grown finite grows
  have few := turns_lt attempt
  have start := p.initialDelay.toSecs_place
  have units := Duration.le_units starts
  have positive := p.initialDelay.seconds_nonneg
  have power := Binary64.pow_grown factor least (turns attempt)
  have powerLeast : 1 ≤ p.multiplier.value ^ turns attempt := one_le_pow₀ least
  have count : 2 + turns attempt + 1 = turns attempt + 3 := by omega
  generalize p.multiplier.pow (turns attempt) = y at power
  rw [growth]
  cases power with
  | infinite high =>
    right
    have nonzero : p.initialDelay.units ≠ 0 := by have := twoTo_pos 1044; omega
    rw [Binary64.mul_infinite start, if_neg nonzero]
    exact ⟨Binary64.infinite_false_place,
      cap_le_of_huge starts (Binary64.past_half high (by linarith) (by omega))⟩
  | finite place inside large near =>
    have product := Binary64.mul_place start place p.initialDelay.units_lt_overflow inside
    have normal := Nat.mul_le_mul (Nat.le_trans (twoTo_le_twoTo (by omega : 52 ≤ 1044)) units) large
    rcases product_cases p.initialDelay.units_near near positive normal with
      ⟨_, exact⟩ | ⟨full, high⟩
    · rw [count] at exact
      exact .inl ⟨_, product, exact⟩
    · right
      rw [full] at product
      have huge := Binary64.past_half high (mul_nonneg positive (by linarith)) (by omega)
      exact ⟨product, le_of_lt (lt_trans p.cap_lt_huge huge)⟩

theorem capped_near (finite : p.multiplier.isFinite = true)
    (grows : Binary64.le 1 p.multiplier = true) (starts : 0 < p.initialDelay.nanos) (attempt : ℕ) :
    ∃ c : ℕ, (p.cappedSecs attempt).place? = some (c : Int) ∧ c < overflow ∧
      Near (turns attempt + 3) (inOnes c) (p.formula attempt) := by
  have cap := p.maxDelay.toSecs_place
  have inside := p.maxDelay.units_lt_overflow
  have capNear : Near (turns attempt + 3) (inOnes p.maxDelay.units) p.maxDelay.seconds :=
    p.maxDelay.units_near.mono p.maxDelay.seconds_nonneg (by omega)
  rw [cappedSecs_eq]
  rcases growth_near finite grows starts attempt with ⟨g, place, near⟩ | ⟨place, above⟩
  · refine ⟨_, Binary64.min_place place cap, Nat.lt_of_le_of_lt (Nat.min_le_right _ _) inside, ?_⟩
    have lesser : inOnes (Nat.min g p.maxDelay.units) = min (inOnes g) (inOnes p.maxDelay.units) :=
      inOnes_min g p.maxDelay.units
    rw [lesser]
    exact near.min capNear
  · -- the growth is infinite, and the formula gives the cap as well
    refine ⟨p.maxDelay.units, ?_, inside, ?_⟩
    · rw [Binary64.min_place place cap]
      exact congrArg (fun n : ℕ => some (n : Int)) (Nat.min_eq_right (Nat.le_of_lt inside))
    · rwa [formula, min_eq_right above]

variable {jitter : Binary64} {pause : Duration}

theorem pause_steady (steady : p.useJitter = false) :
    p.pause? attempt jitter = Duration.ofSecs? (p.cappedSecs attempt) := by
  have exact : p.spread attempt = .exact := by rw [spread, steady, if_neg Bool.false_ne_true]
  rw [pause?, exact]

theorem formula_nonneg (grows : 1 ≤ p.multiplier.value) (attempt : ℕ) : 0 ≤ p.formula attempt := by
  have power : 0 ≤ p.multiplier.value ^ turns attempt := pow_nonneg (by linarith) _
  exact le_min (mul_nonneg p.initialDelay.seconds_nonneg power) p.maxDelay.seconds_nonneg

theorem formula_le (grows : 1 ≤ p.multiplier.value) (attempt : ℕ) :
    p.formula attempt ≤ p.growth attempt := by
  have power : p.multiplier.value ^ turns attempt ≤ p.multiplier.value ^ attempt :=
    pow_le_pow_right₀ grows (Nat.min_le_left _ _)
  exact le_trans (min_le_left _ _) (mul_le_mul_of_nonneg_left power p.initialDelay.seconds_nonneg)

theorem pause_near (steady : p.useJitter = false) (finite : p.multiplier.isFinite = true)
    (grows : Binary64.le 1 p.multiplier = true) (starts : 0 < p.initialDelay.nanos)
    (paused : p.pause? attempt jitter = some pause) :
    |(pause.nanos : ℚ) - Duration.nanosPerSec * p.formula attempt| ≤
      1 / 2 + Duration.nanosPerSec * p.formula attempt * ((turns attempt + 3 : ℕ) / 2 ^ 52) := by
  obtain ⟨c, place, inside, near⟩ := capped_near finite grows starts attempt
  have few := turns_lt attempt
  have least := (Binary64.value_grown finite grows).2
  have perSec : (0 : ℚ) ≤ Duration.nanosPerSec := Nat.cast_nonneg _
  rw [pause_steady steady] at paused
  have last := Duration.nanos_near place inside paused
  have scaled := mul_le_mul_of_nonneg_left (near.within (formula_nonneg least attempt) (by omega)) perSec
  rw [← abs_of_nonneg perSec, ← abs_mul, abs_of_nonneg perSec, mul_sub] at scaled
  -- the rounding to whole nanoseconds comes on top of those of the numbers
  calc |(pause.nanos : ℚ) - Duration.nanosPerSec * p.formula attempt|
      ≤ |(pause.nanos : ℚ) - Duration.nanosPerSec * inOnes c| +
        |Duration.nanosPerSec * inOnes c - Duration.nanosPerSec * p.formula attempt| :=
        abs_sub_le _ _ _
    _ ≤ _ := by
        rw [mul_assoc]
        exact add_le_add last scaled

theorem half_of_cap (steady : p.useJitter = false) (finite : p.multiplier.isFinite = true)
    (grows : Binary64.le 1 p.multiplier = true) (starts : 0 < p.initialDelay.nanos)
    (paused : p.pause? attempt jitter = some pause)
    (isCap : Duration.ofSecs? p.maxDelay.toSecs = some pause) :
    p.maxDelay.seconds / 2 ≤ p.growth attempt := by
  have least := (Binary64.value_grown finite grows).2
  have few : turns attempt + 3 ≤ 2 ^ 32 := by have := turns_lt attempt; omega
  have below := formula_le least attempt
  have notNegative := formula_nonneg least attempt
  have near := pause_near steady finite grows starts paused
  have last := Duration.nanos_near p.maxDelay.toSecs_place p.maxDelay.units_lt_overflow isCap
  have cap := p.maxDelay.units_near.within p.maxDelay.seconds_nonneg (by norm_num)
  have length := p.maxDelay.seconds_scaled
  have start : 1 / Duration.nanosPerSec ≤ p.growth attempt :=
    le_trans (Duration.seconds_ge starts)
      (le_mul_of_one_le_right p.initialDelay.seconds_nonneg (one_le_pow₀ least))
  have share : ((turns attempt + 3 : ℕ) : ℚ) / 2 ^ 52 ≤ 1 / 2 ^ 20 := by
    rw [div_le_div_iff₀ (by norm_num) (by norm_num)]
    exact_mod_cast (show (turns attempt + 3) * 2 ^ 20 ≤ 1 * 2 ^ 52 by omega)
  have off := mul_le_mul_of_nonneg_left share notNegative
  have perSec : (Duration.nanosPerSec : ℚ) = 1000000000 := by norm_num [Duration.nanosPerSec]
  rw [abs_le] at near last cap
  rw [perSec] at near last length start
  generalize ((turns attempt + 3 : ℕ) : ℚ) / 2 ^ 52 = error at near off
  refine le_of_not_gt fun short => ?_
  -- the cap is longer than two nanoseconds, and so too long for what the roundings can make up
  have long : (3 : ℚ) ≤ p.maxDelay.nanos := by
    have more : (2 : ℚ) < p.maxDelay.nanos := by linarith
    exact_mod_cast more
  norm_num at cap
  linarith

/-- Nothing stays nothing only as long as the power is a number to multiply it with. -/
theorem pause_of_nothing (steady : p.useJitter = false) (finite : p.multiplier.isFinite = true)
    (grows : Binary64.le 1 p.multiplier = true) (nothing : p.initialDelay.nanos = 0)
    (attempt : ℕ) (jitter : Binary64) :
    (p.pause? attempt jitter = some Duration.zero ∧
      p.multiplier.value ^ turns attempt < 2 ^ 1025) ∨
    (p.pause? attempt jitter = Duration.ofSecs? p.maxDelay.toSecs ∧
      2 ^ 1023 < p.multiplier.value ^ turns attempt) := by
  obtain ⟨factor, least⟩ := Binary64.value_grown finite grows
  have few := turns_lt attempt
  have start := p.initialDelay.toSecs_place
  have power := Binary64.pow_grown factor least (turns attempt)
  have powerLeast : 1 ≤ p.multiplier.value ^ turns attempt := one_le_pow₀ least
  rw [Duration.units_zero nothing] at start
  rw [pause_steady steady, cappedSecs_eq]
  generalize p.multiplier.pow (turns attempt) = y at power
  cases power with
  | infinite high =>
    -- nothing times infinity is no number, and of that and the cap the cap is left
    right
    rw [Binary64.mul_infinite start, if_pos rfl, Binary64.nan_min]
    exact ⟨rfl, Binary64.past_half high (by linarith) (by omega)⟩
  | finite place inside large near =>
    left
    have product := Binary64.mul_place start place overflow_pos inside
    rw [Nat.zero_mul, roundedUnits_zero] at product
    have capped := Binary64.min_place product p.maxDelay.toSecs_place
    rw [show Nat.min 0 p.maxDelay.units = 0 from Nat.zero_min _] at capped
    constructor
    · rw [Duration.ofSecs_place capped overflow_pos, Nat.zero_mul,
        Nat.le_zero.mp (divNearest_le_of_le (Nat.zero_le (0 * unitsPerOne)))]
      exact Duration.ofNanos_of_lt (by decide)
    · have atMost := inOnes_mono (Nat.le_of_lt inside)
      have close := near.within (by linarith) (by omega)
      have share : (turns attempt : ℚ) / 2 ^ 52 < 1 / 2 := by
        rw [div_lt_div_iff₀ (by norm_num) (by norm_num)]
        exact_mod_cast (show turns attempt * 2 < 1 * 2 ^ 52 by omega)
      rw [inOnes_overflow] at atMost
      rw [abs_le] at close
      have off := mul_lt_mul_of_pos_left share (lt_of_lt_of_le one_pos powerLeast)
      rw [pow_succ (2 : ℚ) 1024]
      generalize (2 : ℚ) ^ 1024 = top at atMost ⊢
      linarith

end Policy

/-- Without a random part a pause is never longer than the cap. It follows the formula to half a
nanosecond and as many parts in 2^52 as there are roundings, and is the cap only if the exact growth is
at least half of it. With an initial delay of nothing it is nothing, but only as long as the power is
within the grid: from there on it is the cap. -/
theorem pause_near_formula {p : Policy} (steady : p.useJitter = false)
    (finite : p.multiplier.isFinite = true) (grows : Binary64.le 1 p.multiplier = true)
    (attempt : ℕ) (jitter : Binary64) :
    (∀ most, Duration.ofSecs? p.maxDelay.toSecs = some most →
      ∃ pause, p.pause? attempt jitter = some pause ∧ pause.nanos ≤ most.nanos) ∧
    ∀ pause, p.pause? attempt jitter = some pause →
      (0 < p.initialDelay.nanos →
        |(pause.nanos : ℚ) - Duration.nanosPerSec * p.formula attempt| ≤ 1 / 2 +
          Duration.nanosPerSec * p.formula attempt * ((Policy.turns attempt + 3 : ℕ) / 2 ^ 52) ∧
        (Duration.ofSecs? p.maxDelay.toSecs = some pause →
          p.maxDelay.seconds / 2 ≤ p.growth attempt)) ∧
      (p.initialDelay.nanos = 0 →
        (pause = Duration.zero ∨ Duration.ofSecs? p.maxDelay.toSecs = some pause) ∧
        (p.multiplier.value ^ Policy.turns attempt ≤ 2 ^ 1023 → pause = Duration.zero) ∧
        (2 ^ 1025 ≤ p.multiplier.value ^ Policy.turns attempt →
          Duration.ofSecs? p.maxDelay.toSecs = some pause)) := by
  refine ⟨fun most isMost => ?_, fun pause paused => ⟨fun starts => ?_, fun nothing => ?_⟩⟩
  · have growth : p.multiplier.NotNegative := by
      obtain ⟨g, place, _⟩ := (Binary64.value_grown finite grows).1.place
      exact .inr ⟨g, place⟩
    obtain ⟨c, place, atMost⟩ := Policy.capped_place growth attempt
    rw [Policy.pause_steady steady]
    exact Duration.ofSecs_mono place p.maxDelay.toSecs_place atMost
      p.maxDelay.units_lt_overflow isMost
  · exact ⟨Policy.pause_near steady finite grows starts paused,
      Policy.half_of_cap steady finite grows starts paused⟩
  · rcases Policy.pause_of_nothing steady finite grows nothing attempt jitter with
      ⟨none, inside⟩ | ⟨cap, beyond⟩
    · rw [paused, Option.some.injEq] at none
      exact ⟨.inl none, fun _ => none, fun huge => absurd inside (not_lt_of_ge huge)⟩
    · rw [paused] at cap
      exact ⟨.inr cap.symm, fun low => absurd beyond (not_lt_of_ge low), fun _ => cap.symm⟩

/-- The default delays at the attempt at which their cap comes in: the exact growth is at least half of
it. -/
theorem pause_near_formula_default :
    (default : Policy).withoutJitter.useJitter = false ∧
    (default : Policy).withoutJitter.multiplier.isFinite = true ∧
    Binary64.le 1 (default : Policy).withoutJitter.multiplier = true ∧
    ∃ pause, (default : Policy).withoutJitter.pause? 5 0 = some pause ∧ pause.nanos = 30000000000 ∧
      (default : Policy).withoutJitter.maxDelay.seconds / 2 ≤
        (default : Policy).withoutJitter.growth 5 := by
  have finite : (default : Policy).withoutJitter.multiplier.isFinite = true := by decide +kernel
  have grows : Binary64.le 1 (default : Policy).withoutJitter.multiplier = true := by decide +kernel
  have starts : 0 < (default : Policy).withoutJitter.initialDelay.nanos := by decide +kernel
  have paused : (default : Policy).withoutJitter.pause? 5 0 = some ⟨30000000000, by decide⟩ := by
    decide +kernel
  have isCap : Duration.ofSecs? (default : Policy).withoutJitter.maxDelay.toSecs =
      some ⟨30000000000, by decide⟩ := by decide +kernel
  obtain ⟨_, followed⟩ := pause_near_formula (p := (default : Policy).withoutJitter) rfl finite grows 5 0
  exact ⟨rfl, finite, grows, _, paused, rfl, ((followed _ paused).1 starts).2 isCap⟩

/-- No delay to begin with, a factor of two and a cap of thirty seconds. -/
def idle : Policy := (Policy.new none Duration.zero (.ofSecs 30) 2).withoutJitter

/-- Here the formula gives nothing at every attempt, but at attempt 1024 the pause is the cap. -/
theorem cap_without_growth :
    idle.useJitter = false ∧ idle.multiplier.isFinite = true ∧
    Binary64.le 1 idle.multiplier = true ∧ 0 < idle.maxDelay.nanos ∧
    idle.initialDelay = Duration.zero ∧ (∀ attempt, idle.growth attempt = 0) ∧
    ∃ pause, idle.pause? 1024 0 = some pause ∧ pause.nanos = 30000000000 ∧
      Duration.ofSecs? idle.maxDelay.toSecs = some pause ∧
      idle.growth 1024 < idle.maxDelay.seconds / 2 := by
  have still : ∀ attempt, idle.growth attempt = 0 := by
    intro attempt
    rw [Policy.growth, show idle.initialDelay = Duration.zero from rfl, Duration.seconds,
      show Duration.zero.nanos = 0 from rfl, Nat.cast_zero, zero_div, zero_mul]
  refine ⟨rfl, by decide +kernel, by decide +kernel, by decide +kernel, rfl, still,
    ⟨30000000000, by decide⟩, by decide +kernel, rfl, by decide +kernel, ?_⟩
  rw [still]
  have positive : (0 : ℚ) < idle.maxDelay.nanos := by
    exact_mod_cast (by decide +kernel : 0 < idle.maxDelay.nanos)
  have perSec : (0 : ℚ) < Duration.nanosPerSec := by exact_mod_cast Duration.nanosPerSec_pos
  exact half_pos (div_pos positive perSec)

end Courier.Retry
