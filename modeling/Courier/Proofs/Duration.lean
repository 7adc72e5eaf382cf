import Courier.Duration
import Courier.Proofs.Binary64.Relative

/-! Durations in seconds. A longer duration is never fewer seconds: the seconds and the nanoseconds beyond
them are rounded apart, and where whole seconds are no longer numbers exactly, a part of a second is less
than half of the spacing. Against the exact length the number of seconds is off by two roundings, and the
way back by half a nanosecond. -/

namespace Courier.Duration

/-- Where the part of a second stands. -/
def partUnits (nanos : Nat) : Nat := roundedUnits (nanos * unitsPerOne) nanosPerSec

def wholeUnits (secs : Nat) : Nat := roundedUnits (secs * unitsPerOne) 1

/-- Where the length in seconds stands. -/
def units (d : Duration) : Nat :=
  roundedUnits (wholeUnits (d.nanos / nanosPerSec) + partUnits (d.nanos % nanosPerSec)) 1

theorem nanosPerSec_pos : 0 < nanosPerSec := by decide

theorem partUnits_lt {nanos : Nat} (less : nanos < nanosPerSec) : partUnits nanos < unitsPerOne := by
  have split : unitsPerOne = twoTo 53 * twoTo 1021 := by rw [unitsPerOne, ← twoTo_add]
  have onGrid : OnGrid ((twoTo 53 - 1) * twoTo 1021) := onGrid_mul_twoTo (Nat.sub_le _ _)
  have below : nanos * unitsPerOne ≤ (twoTo 53 - 1) * twoTo 1021 * nanosPerSec := by
    have count : nanos * twoTo 53 ≤ (twoTo 53 - 1) * nanosPerSec := by
      rw [show twoTo 53 = 9007199254740992 from rfl]
      simp only [nanosPerSec] at less ⊢
      omega
    calc nanos * unitsPerOne = nanos * twoTo 53 * twoTo 1021 := by rw [split, Nat.mul_assoc]
      _ ≤ (twoTo 53 - 1) * nanosPerSec * twoTo 1021 := Nat.mul_le_mul_right _ count
      _ = (twoTo 53 - 1) * twoTo 1021 * nanosPerSec := Nat.mul_right_comm _ _ _
  refine Nat.lt_of_le_of_lt (roundedUnits_le onGrid below) ?_
  rw [split]
  exact Nat.mul_lt_mul_of_pos_right (by decide) (twoTo_pos _)

theorem wholeUnits_le {secs k : Nat} (bound : secs ≤ twoTo k) :
    wholeUnits secs ≤ twoTo k * unitsPerOne := by
  refine roundedUnits_le (onGrid_twoTo_ones k) ?_
  rw [Nat.mul_one]
  exact Nat.mul_le_mul_right _ bound

theorem wholeUnits_mono {m n : Nat} (le : m ≤ n) : wholeUnits m ≤ wholeUnits n := by
  refine roundedUnits_mono Nat.one_pos Nat.one_pos ?_
  rw [Nat.mul_one, Nat.mul_one]
  exact Nat.mul_le_mul_right _ le

theorem partUnits_mono {m n : Nat} (le : m ≤ n) : partUnits m ≤ partUnits n :=
  roundedUnits_mono nanosPerSec_pos nanosPerSec_pos
    (Nat.mul_le_mul_right _ (Nat.mul_le_mul_right _ le))

theorem secs_lt (d : Duration) : d.nanos / nanosPerSec < twoTo 64 :=
  (Nat.div_lt_iff_lt_mul nanosPerSec_pos).mpr d.lt_limit

theorem part_lt (d : Duration) : d.nanos % nanosPerSec < nanosPerSec :=
  Nat.mod_lt _ nanosPerSec_pos

theorem toSecs_place (d : Duration) : d.toSecs.place? = some (d.units : Int) := by
  have few : nanosPerSec ≤ twoTo 53 := by decide
  have lessPart : d.nanos % nanosPerSec ≤ twoTo 53 := Nat.le_trans (Nat.le_of_lt d.part_lt) few
  have whole := Binary64.ofNat_place (d.nanos / nanosPerSec)
  have nanos := Binary64.ofNat_place (d.nanos % nanosPerSec)
  have perSec := Binary64.ofNat_place nanosPerSec
  rw [roundedUnits_ones lessPart] at nanos
  rw [roundedUnits_ones few] at perSec
  have part := Binary64.div_place nanos perSec (ones_lt_overflow lessPart (by omega))
    (ones_lt_overflow few (by omega)) (Nat.mul_pos nanosPerSec_pos unitsPerOne_pos)
  have scaled : roundedUnits (d.nanos % nanosPerSec * unitsPerOne * unitsPerOne)
      (nanosPerSec * unitsPerOne) = partUnits (d.nanos % nanosPerSec) := by
    refine roundedUnits_congr (Nat.mul_pos nanosPerSec_pos unitsPerOne_pos) nanosPerSec_pos ?_
    rw [Nat.mul_assoc, Nat.mul_comm unitsPerOne]
  rw [scaled] at part
  refine Binary64.add_place whole part ?_ ?_ (Int.natCast_add _ _).symm
  · rw [Int.natAbs_natCast]
    exact Nat.lt_of_le_of_lt (wholeUnits_le (Nat.le_of_lt d.secs_lt))
      (ones_lt_overflow (Nat.le_refl _) (by omega))
  · rw [Int.natAbs_natCast]
    exact Nat.lt_trans (partUnits_lt d.part_lt) one_lt_overflow

/-- Beyond 53 bits of seconds, parts of a second are rounded away. -/
theorem units_of_large {secs nanos : Nat} (large : twoTo 53 ≤ secs) (less : nanos < nanosPerSec) :
    roundedUnits (wholeUnits secs + partUnits nanos) 1 = wholeUnits secs := by
  have onGrid : OnGrid (wholeUnits secs) := onGrid_roundedUnits _ _
  have far : twoTo 1127 ≤ wholeUnits secs := by
    refine le_roundedUnits (onGrid_twoTo _) (twoTo_le_twoTo (by omega)) Nat.one_pos ?_
    rw [Nat.mul_one, show (1127 : Nat) = 53 + 1074 from rfl, twoTo_add]
    exact Nat.mul_le_mul_right _ large
  have coarse : twoTo 1075 ≤ spacing (wholeUnits secs) := by
    rw [← spacing_twoTo 1127]
    exact Nat.le_of_dvd (spacing_pos _) (spacing_dvd far)
  have small : 2 * partUnits nanos < spacing (wholeUnits secs) := by
    have part := partUnits_lt less
    have double : twoTo 1075 = unitsPerOne * 2 := by rw [unitsPerOne, ← twoTo_succ]
    omega
  rw [roundedUnits, gridNearest_add onGrid small]
  exact Nat.min_eq_left (roundedUnits_le_overflow _ _)

theorem units_mono {d e : Duration} (le : d.nanos ≤ e.nanos) : d.units ≤ e.units := by
  have seconds : d.nanos / nanosPerSec ≤ e.nanos / nanosPerSec := Nat.div_le_div_right le
  have whole := Nat.div_add_mod d.nanos nanosPerSec
  have whole' := Nat.div_add_mod e.nanos nanosPerSec
  rw [units, units]
  rcases Nat.lt_or_eq_of_le seconds with later | same
  · rcases Nat.lt_or_ge (d.nanos / nanosPerSec) (twoTo 53) with small | large
    · -- the next whole second is a number exactly, and lies between
      refine rounded_sum_mono ?_
      have next : wholeUnits (d.nanos / nanosPerSec + 1) ≤ wholeUnits (e.nanos / nanosPerSec) :=
        wholeUnits_mono later
      have part := partUnits_lt d.part_lt
      rw [wholeUnits, roundedUnits_ones small, Nat.succ_mul] at next
      rw [wholeUnits, roundedUnits_ones (Nat.le_of_lt small)]
      omega
    · rw [units_of_large large d.part_lt]
      calc wholeUnits (d.nanos / nanosPerSec)
          = roundedUnits (wholeUnits (d.nanos / nanosPerSec)) 1 :=
            (roundedUnits_onGrid (onGrid_roundedUnits _ _) (roundedUnits_le_overflow _ _)).symm
        _ ≤ _ := rounded_sum_mono (Nat.le_trans (wholeUnits_mono seconds) (Nat.le_add_right _ _))
  · refine rounded_sum_mono ?_
    rw [same]
    refine Nat.add_le_add_left (partUnits_mono ?_) _
    rw [same] at whole
    omega

theorem units_le {d : Duration} {k : Nat} (bound : d.nanos ≤ twoTo k * nanosPerSec) :
    d.units ≤ twoTo (k + 1) * unitsPerOne := by
  have whole : wholeUnits (d.nanos / nanosPerSec) ≤ twoTo k * unitsPerOne :=
    wholeUnits_le (Nat.div_le_of_le_mul (by rwa [Nat.mul_comm]))
  have part := Nat.le_of_lt (partUnits_lt d.part_lt)
  exact rounded_sum_le whole (Nat.le_trans part (Nat.le_mul_of_pos_left _ (twoTo_pos k)))

theorem units_high (d : Duration) : d.units ≤ twoTo 65 * unitsPerOne := by
  have bound : d.nanos ≤ twoTo 64 * nanosPerSec := Nat.le_of_lt d.lt_limit
  have high := units_le bound
  rwa [show (64 + 1 : Nat) = 65 from rfl] at high

theorem units_lt_overflow (d : Duration) : d.units < overflow :=
  Nat.lt_of_le_of_lt d.units_high (ones_lt_overflow (Nat.le_refl _) (by omega))

/-- The shortest duration is a good deal more than nothing. -/
theorem le_units {d : Duration} (positive : 0 < d.nanos) : twoTo 1044 ≤ d.units := by
  refine le_roundedUnits (onGrid_twoTo _) (twoTo_le_twoTo (by omega)) Nat.one_pos ?_
  rw [Nat.mul_one]
  by_cases whole : d.nanos / nanosPerSec = 0
  · refine Nat.le_trans ?_ (Nat.le_add_left _ _)
    have some : 0 < d.nanos % nanosPerSec := by
      have parts := Nat.div_add_mod d.nanos nanosPerSec
      rw [whole] at parts
      omega
    refine le_roundedUnits (onGrid_twoTo _) (twoTo_le_twoTo (by omega)) nanosPerSec_pos ?_
    calc twoTo 1044 * nanosPerSec ≤ twoTo 1044 * twoTo 30 := Nat.mul_le_mul_left _ (by decide)
      _ = unitsPerOne := by rw [← twoTo_add, unitsPerOne]
      _ ≤ d.nanos % nanosPerSec * unitsPerOne := Nat.le_mul_of_pos_left _ some
  · refine Nat.le_trans ?_ (Nat.le_add_right _ _)
    refine le_roundedUnits (onGrid_twoTo _) (twoTo_le_twoTo (by omega)) Nat.one_pos ?_
    calc twoTo 1044 * 1 ≤ unitsPerOne := by
          rw [Nat.mul_one]
          exact twoTo_le_unitsPerOne (by omega)
      _ ≤ d.nanos / nanosPerSec * unitsPerOne :=
          Nat.le_mul_of_pos_left _ (Nat.pos_of_ne_zero whole)

theorem units_zero {d : Duration} (nothing : d.nanos = 0) : d.units = 0 := by
  rw [units, wholeUnits, partUnits, nothing, Nat.zero_div, Nat.zero_mod, Nat.zero_mul,
    roundedUnits_zero, roundedUnits_zero, roundedUnits_zero]

theorem ofSecs_place {x : Binary64} {n : Nat} (place : x.place? = some (n : Int))
    (inside : n < overflow) : ofSecs? x = ofNanos? (divNearest (n * nanosPerSec) unitsPerOne) := by
  obtain ⟨negative, m, rfl, rfl, zero⟩ := Binary64.finite_of_place_nat place inside
  rw [ofSecs?, if_neg]
  intro refused
  rw [Bool.and_eq_true, decide_eq_true_iff] at refused
  exact refused.2 (zero refused.1)

theorem ofNanos_of_lt {n : Nat} (less : n < limit) : ofNanos? n = some ⟨n, less⟩ := dif_pos less

theorem nanos_of_ofNanos {n : Nat} {d : Duration} (made : ofNanos? n = some d) : d.nanos = n := by
  rw [ofNanos?] at made
  split at made
  · rw [← Option.some.inj made]
  · contradiction

/-- Fewer seconds are not a longer duration. -/
theorem ofSecs_mono {x y : Binary64} {m n : Nat} {e : Duration} (left : x.place? = some (m : Int))
    (right : y.place? = some (n : Int)) (le : m ≤ n) (inside : n < overflow)
    (longer : ofSecs? y = some e) : ∃ d, ofSecs? x = some d ∧ d.nanos ≤ e.nanos := by
  rw [ofSecs_place right inside] at longer
  have count : divNearest (m * nanosPerSec) unitsPerOne ≤ e.nanos := by
    rw [nanos_of_ofNanos longer]
    exact divNearest_mono unitsPerOne_pos unitsPerOne_pos
      (Nat.mul_le_mul_right _ (Nat.mul_le_mul_right _ le))
  rw [ofSecs_place left (Nat.lt_of_le_of_lt le inside)]
  generalize divNearest (m * nanosPerSec) unitsPerOne = k at count
  exact ⟨_, ofNanos_of_lt (Nat.lt_of_le_of_lt count e.lt_limit), count⟩

theorem ofSecs_some {x : Binary64} {n k : Nat} (place : x.place? = some (n : Int)) (small : k < 64)
    (bound : n ≤ twoTo k * unitsPerOne) : ∃ d, ofSecs? x = some d := by
  have inside : n < overflow :=
    Nat.lt_of_le_of_lt bound (ones_lt_overflow (Nat.le_refl _) (by omega))
  have count : divNearest (n * nanosPerSec) unitsPerOne ≤ twoTo k * nanosPerSec := by
    apply divNearest_le_of_le
    calc n * nanosPerSec ≤ twoTo k * unitsPerOne * nanosPerSec := Nat.mul_le_mul_right _ bound
      _ = twoTo k * nanosPerSec * unitsPerOne := Nat.mul_right_comm _ _ _
  have less : twoTo k * nanosPerSec < limit :=
    Nat.mul_lt_mul_of_pos_right (twoTo_lt_twoTo small) nanosPerSec_pos
  rw [ofSecs_place place inside]
  exact ⟨_, ofNanos_of_lt (Nat.lt_of_le_of_lt count less)⟩

/-! ### Against exact seconds -/

def seconds (d : Duration) : ℚ := d.nanos / nanosPerSec

theorem seconds_nonneg (d : Duration) : 0 ≤ d.seconds :=
  div_nonneg (Nat.cast_nonneg _) (Nat.cast_nonneg _)

theorem seconds_scaled (d : Duration) : nanosPerSec * d.seconds = d.nanos := by
  have positive : (0 : ℚ) < nanosPerSec := by exact_mod_cast nanosPerSec_pos
  rw [seconds, mul_div_cancel₀ _ (ne_of_gt positive)]

theorem seconds_lt (d : Duration) : d.seconds < 2 ^ 64 := by
  have positive : (0 : ℚ) < nanosPerSec := by exact_mod_cast nanosPerSec_pos
  have less : d.nanos < 2 ^ 64 * nanosPerSec := d.lt_limit
  rw [seconds, div_lt_iff₀ positive]
  exact_mod_cast less

/-- A count of ones has bits enough, unless it is nothing. -/
theorem ones_normal (n : ℕ) {den : ℕ} (few : den ≤ twoTo 30) :
    n * unitsPerOne = 0 ∨ twoTo 52 * den ≤ n * unitsPerOne := by
  rcases Nat.eq_zero_or_pos n with none | some
  · exact .inl (by rw [none, Nat.zero_mul])
  · right
    calc twoTo 52 * den ≤ twoTo 52 * twoTo 30 := Nat.mul_le_mul_left _ few
      _ = twoTo 82 := by rw [← twoTo_add]
      _ ≤ unitsPerOne := twoTo_le_unitsPerOne (by omega)
      _ ≤ n * unitsPerOne := Nat.le_mul_of_pos_left _ some

theorem wholeUnits_near {secs : ℕ} (less : secs < twoTo 64) :
    Near 1 (wholeUnits secs : ℕ) (secs * unitsPerOne) := by
  have inside : wholeUnits secs < overflow := Nat.lt_of_le_of_lt (wholeUnits_le (Nat.le_of_lt less))
    (ones_lt_overflow (Nat.le_refl _) (by omega))
  have near := near_rounded Nat.one_pos (ones_normal secs (twoTo_pos 30)) inside
  rwa [Nat.cast_one, div_one, Nat.cast_mul] at near

theorem partUnits_near {nanos : ℕ} (less : nanos < nanosPerSec) :
    Near 1 (partUnits nanos : ℕ) (nanos * unitsPerOne / nanosPerSec) := by
  have near := near_rounded nanosPerSec_pos (ones_normal nanos (by decide))
    (Nat.lt_trans (partUnits_lt less) one_lt_overflow)
  rwa [Nat.cast_mul] at near

theorem sum_normal (d : Duration) :
    wholeUnits (d.nanos / nanosPerSec) + partUnits (d.nanos % nanosPerSec) = 0 ∨
    twoTo 52 * 1 ≤ wholeUnits (d.nanos / nanosPerSec) + partUnits (d.nanos % nanosPerSec) := by
  rcases Nat.eq_zero_or_pos d.nanos with none | some
  · left
    rw [none, Nat.zero_div, Nat.zero_mod, wholeUnits, partUnits, Nat.zero_mul,
      roundedUnits_zero, roundedUnits_zero]
  · right
    refine Nat.le_of_not_lt fun small => ?_
    have below : d.units ≤ twoTo 52 := roundedUnits_le (onGrid_twoTo 52) (Nat.le_of_lt small)
    exact Nat.not_le_of_lt (twoTo_lt_twoTo (by omega)) (Nat.le_trans (le_units some) below)

/-- The seconds and what is beyond them are each rounded once, side by side, and then their sum. -/
theorem units_near (d : Duration) : Near 2 (inOnes d.units) d.seconds := by
  have one := unitsPerOne_cast_pos
  have perSec : (0 : ℚ) < nanosPerSec := by exact_mod_cast nanosPerSec_pos
  have sum := (wholeUnits_near d.secs_lt).add (partUnits_near d.part_lt)
  have rounded := near_rounded Nat.one_pos d.sum_normal d.units_lt_overflow
  rw [Nat.cast_one, div_one, Nat.cast_add] at rounded
  have scaled := (sum.trans rounded).scale (le_of_lt (one_div_pos.mpr one))
  have parts : (d.nanos : ℚ) =
      nanosPerSec * (d.nanos / nanosPerSec : ℕ) + (d.nanos % nanosPerSec : ℕ) := by
    exact_mod_cast (Nat.div_add_mod d.nanos nanosPerSec).symm
  have exact : ((d.nanos / nanosPerSec : ℕ) * (unitsPerOne : ℚ) +
      (d.nanos % nanosPerSec : ℕ) * unitsPerOne / nanosPerSec) * (1 / unitsPerOne) = d.seconds := by
    rw [seconds, parts]
    field_simp
  rwa [exact, mul_one_div] at scaled

theorem nanos_near {x : Binary64} {n : ℕ} {d : Duration} (place : x.place? = some (n : Int))
    (inside : n < overflow) (made : ofSecs? x = some d) :
    |(d.nanos : ℚ) - nanosPerSec * inOnes n| ≤ 1 / 2 := by
  have one := unitsPerOne_cast_pos
  rw [ofSecs_place place inside] at made
  have error := divNearest_error (n * nanosPerSec) unitsPerOne unitsPerOne_pos
  rw [← nanos_of_ofNanos made] at error
  have high : 2 * ((d.nanos : ℚ) * unitsPerOne) ≤ 2 * (n * nanosPerSec) + unitsPerOne := by
    exact_mod_cast error.1
  have low : 2 * ((n : ℚ) * nanosPerSec) ≤ 2 * (d.nanos * unitsPerOne) + unitsPerOne := by
    exact_mod_cast error.2
  have scaled : nanosPerSec * inOnes n * unitsPerOne = n * nanosPerSec := by
    rw [inOnes]
    field_simp
  rw [abs_le]
  constructor
  · refine le_of_mul_le_mul_right ?_ one
    linarith
  · refine le_of_mul_le_mul_right ?_ one
    linarith

theorem seconds_ge {d : Duration} (some : 0 < d.nanos) : 1 / nanosPerSec ≤ d.seconds :=
  div_le_div_of_nonneg_right (by exact_mod_cast some) (Nat.cast_nonneg _)

end Courier.Duration
