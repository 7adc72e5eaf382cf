import Courier.Proofs.Duration
import Courier.Proofs.Flow
import Mathlib.Data.List.Forall2

/-! Slower processing never raises what is asked for. Two histories of equal length, one at least as fast
as the other at every message, have averages in that order, since each operation of the update rounds
and rounding keeps the order. The division by the average turns the order round, so it matters that the
average is a number above zero and below the grid's end: it stays between two fixed powers of two. -/

namespace Courier.Flow

/-- The weight of what was known before, where the newest sample weighs `w`. -/
def oldWeight (w : Nat) : Nat := roundedUnits (unitsPerOne - w) 1

/-- The average `a` after a sample `s` of weight `w`. -/
def averaged (w a s : Nat) : Nat :=
  roundedUnits (roundedUnits (a * oldWeight w) unitsPerOne + roundedUnits (s * w) unitsPerOne) 1

theorem averaged_mono {w a b s t : Nat} (averages : a ≤ b) (samples : s ≤ t) :
    averaged w a s ≤ averaged w b t :=
  rounded_sum_mono
    (Nat.add_le_add (rounded_product_mono averages) (rounded_product_mono samples))

theorem oldWeight_le {w : Nat} : oldWeight w ≤ unitsPerOne := by
  refine roundedUnits_le onGrid_one ?_
  rw [Nat.mul_one]
  exact Nat.sub_le _ _

/-- A weight too small to be seen beside one leaves the average as it is. -/
theorem oldWeight_of_small {w : Nat} (small : w ≤ twoTo 1020) : oldWeight w = unitsPerOne := by
  refine Nat.le_antisymm oldWeight_le ?_
  calc unitsPerOne = oldWeight (twoTo 1020) := by decide +kernel
    _ ≤ oldWeight w := rounded_sum_mono (Nat.sub_le_sub_left small _)

/-- The two weights are one together, but for the rounding of the first. -/
theorem weights_le {w : Nat} (low : w ≤ unitsPerOne) : oldWeight w + w ≤ unitsPerOne + twoTo 1020 := by
  by_cases zero : w = 0
  · have old : oldWeight w ≤ unitsPerOne := oldWeight_le
    omega
  · have error := (gridNearest_error (unitsPerOne - w) 1 Nat.one_pos).1
    have fine : spacing ((unitsPerOne - w) / 1) ≤ twoTo 1021 := by
      rw [Nat.div_one, spacing]
      refine twoTo_le_twoTo ?_
      by_cases nothing : unitsPerOne - w = 0
      · rw [nothing]
        decide
      · have binade : (unitsPerOne - w).log2 < 1074 := by
          rw [log2_lt_iff nothing, ← unitsPerOne]
          omega
        omega
    have rounded : oldWeight w ≤ gridNearest (unitsPerOne - w) 1 := Nat.min_le_left _ _
    have double : twoTo 1021 = twoTo 1020 * 2 := twoTo_succ 1020
    omega

/-- The places between which averages stay. -/
structure Steady (a : Nat) : Prop where
  low : twoTo 990 ≤ a
  high : a ≤ twoTo 65 * unitsPerOne

theorem Steady.inside {a : Nat} (steady : Steady a) : a < overflow := by
  refine Nat.lt_of_le_of_lt steady.high ?_
  exact ones_lt_overflow (Nat.le_refl _) (by omega)

theorem averaged_high {w a s : Nat} (weight : w ≤ unitsPerOne) (onGrid : OnGrid w)
    (average : a ≤ twoTo 65 * unitsPerOne) (sample : s ≤ twoTo 65 * unitsPerOne) :
    averaged w a s ≤ twoTo 65 * unitsPerOne := by
  -- weighing a power of two is exact, so only the sum of the weights is off
  have weighed : ∀ {v : Nat}, OnGrid v →
      roundedUnits (twoTo 65 * unitsPerOne * v) unitsPerOne ≤ v * twoTo 65 := by
    intro v grid
    refine roundedUnits_le (onGrid_scaled grid 65) (Nat.le_of_eq ?_)
    rw [Nat.mul_comm v, Nat.mul_right_comm]
  have old := weighed (v := oldWeight w) (onGrid_roundedUnits _ _)
  have new := weighed onGrid
  have together := Nat.mul_le_mul_right (twoTo 65) (weights_le weight)
  rw [Nat.add_mul, Nat.add_mul, Nat.mul_comm unitsPerOne] at together
  have small : 2 * (twoTo 1020 * twoTo 65) < spacing (twoTo 65 * unitsPerOne) := by
    rw [unitsPerOne, ← twoTo_add, ← twoTo_add, spacing_twoTo, Nat.mul_comm 2, ← twoTo_succ]
    exact twoTo_lt_twoTo (by omega)
  calc averaged w a s ≤ averaged w (twoTo 65 * unitsPerOne) (twoTo 65 * unitsPerOne) :=
        averaged_mono average sample
    _ ≤ roundedUnits (twoTo 65 * unitsPerOne + twoTo 1020 * twoTo 65) 1 :=
        rounded_sum_mono (by omega)
    _ ≤ gridNearest (twoTo 65 * unitsPerOne + twoTo 1020 * twoTo 65) 1 := Nat.min_le_left _ _
    _ = twoTo 65 * unitsPerOne := gridNearest_add (onGrid_twoTo_ones 65) small

theorem averaged_low {w a s : Nat} (average : twoTo 990 ≤ a) (sample : twoTo 1044 ≤ s) :
    twoTo 990 ≤ averaged w a s := by
  have floor : ∀ {n den : Nat}, 0 < den → twoTo 990 * den ≤ n → twoTo 990 ≤ roundedUnits n den :=
    fun positive le => le_roundedUnits (onGrid_twoTo 990) (twoTo_le_twoTo (by omega)) positive le
  refine floor Nat.one_pos ?_
  rw [Nat.mul_one]
  rcases Nat.le_total w (twoTo 1020) with light | heavy
  · refine Nat.le_trans (floor unitsPerOne_pos ?_) (Nat.le_add_right _ _)
    rw [oldWeight_of_small light]
    exact Nat.mul_le_mul_right _ average
  · refine Nat.le_trans (floor unitsPerOne_pos ?_) (Nat.le_add_left _ _)
    calc twoTo 990 * unitsPerOne = twoTo 1044 * twoTo 1020 := by
          rw [unitsPerOne, ← twoTo_add, ← twoTo_add]
      _ ≤ s * w := Nat.mul_le_mul sample heavy

/-! ### Samples -/

theorem one_lt_limit : 1 < Duration.limit := by decide

/-- A sample as it is counted: of no time at all, one nanosecond. -/
def counted (elapsed : Duration) : Duration :=
  if elapsed.nanos = 0 then ⟨1, one_lt_limit⟩ else elapsed

theorem sampleSecs_eq (elapsed : Duration) : sampleSecs elapsed = (counted elapsed).toSecs := by
  rw [sampleSecs, counted]
  split <;> rfl

theorem counted_pos (elapsed : Duration) : 0 < (counted elapsed).nanos := by
  rw [counted]
  split
  · exact Nat.one_pos
  · omega

theorem counted_mono {quick slow : Duration} (le : quick.nanos ≤ slow.nanos) :
    (counted quick).nanos ≤ (counted slow).nanos := by
  have positive := counted_pos slow
  by_cases nothing : quick.nanos = 0
  · rw [counted, if_pos nothing]
    exact positive
  · rw [counted, counted, if_neg nothing, if_neg (by omega)]
    exact le

theorem counted_low (elapsed : Duration) : twoTo 1044 ≤ (counted elapsed).units :=
  Duration.le_units (counted_pos elapsed)

theorem counted_steady (elapsed : Duration) : Steady (counted elapsed).units :=
  ⟨Nat.le_trans (twoTo_le_twoTo (by omega)) (counted_low elapsed), Duration.units_high _⟩

theorem averaged_steady {w a : Nat} (weight : w ≤ unitsPerOne) (onGrid : OnGrid w)
    (steady : Steady a) (elapsed : Duration) : Steady (averaged w a (counted elapsed).units) :=
  ⟨averaged_low steady.low (counted_low elapsed),
    averaged_high weight onGrid steady.high (Duration.units_high _)⟩

/-! ### Two histories -/

/-- What the average comes to is asked for: the wanted time over it, rounded up. -/
def wantedUnits (d a : Nat) : Nat :=
  roundedUnits ((roundedUnits (d * unitsPerOne) a + unitsPerOne - 1) / unitsPerOne *
    unitsPerOne) 1

theorem wantedUnits_antitone {d a b : Nat} (positive : 0 < a) (le : a ≤ b) :
    wantedUnits d b ≤ wantedUnits d a := by
  have quotient : roundedUnits (d * unitsPerOne) b ≤ roundedUnits (d * unitsPerOne) a :=
    roundedUnits_mono (Nat.lt_of_lt_of_le positive le) positive (Nat.mul_le_mul_left _ le)
  refine rounded_sum_mono (Nat.mul_le_mul_right _ (Nat.div_le_div_right ?_))
  omega

theorem wanted_place (desired : Duration) {x : Binary64} {a : Nat} (place : x.place? = some (a : Int))
    (steady : Steady a) :
    (desired.toSecs / x).ceil.place? = some (wantedUnits desired.units a : Int) := by
  have positive : 0 < a := Nat.lt_of_lt_of_le (twoTo_pos 990) steady.low
  refine Binary64.ceil_place
    (Binary64.div_place desired.toSecs_place place desired.units_lt_overflow steady.inside positive) ?_
  have bound : roundedUnits (desired.units * unitsPerOne) a ≤ twoTo 1223 := by
    refine roundedUnits_le (onGrid_twoTo _) ?_
    calc desired.units * unitsPerOne ≤ twoTo 65 * unitsPerOne * unitsPerOne :=
          Nat.mul_le_mul_right _ desired.units_high
      _ = twoTo 1223 * twoTo 990 := by
          rw [unitsPerOne, ← twoTo_add, ← twoTo_add, ← twoTo_add]
      _ ≤ twoTo 1223 * a := Nat.mul_le_mul_left _ steady.low
  refine Nat.lt_of_le_of_lt bound ?_
  rw [overflow]
  exact twoTo_lt_twoTo (by omega)

/-- The averages of two histories under the same options, the first at least as fast as the second. -/
inductive Ahead (options : FlowOptions) : Flow → Flow → Prop
  | fresh : Ahead options ⟨options, none⟩ ⟨options, none⟩
  | averages {x y : Binary64} {a b : Nat} (first : x.place? = some (a : Int))
      (second : y.place? = some (b : Int)) (ordered : a ≤ b) (steady : Steady a) (steady' : Steady b) :
      Ahead options ⟨options, some x⟩ ⟨options, some y⟩

theorem averaged_place {decay x : Binary64} {w a : Nat} (weight : decay.place? = some (w : Int))
    (low : w ≤ unitsPerOne) (place : x.place? = some (a : Int)) (steady : Steady a)
    (elapsed : Duration) :
    (x * (1 - decay) + sampleSecs elapsed * decay).place? =
      some (averaged w a (counted elapsed).units : Int) := by
  have weightInside : w < overflow := Nat.lt_of_le_of_lt low one_lt_overflow
  have oldPlace : (1 - decay).place? = some (oldWeight w : Int) := by
    refine Binary64.add_place Binary64.one_place (Binary64.neg_place weight) ?_ ?_ ?_
    · rw [Int.natAbs_natCast]
      exact one_lt_overflow
    · rw [Int.natAbs_neg, Int.natAbs_natCast]
      exact weightInside
    · omega
  have sample : (sampleSecs elapsed).place? = some ((counted elapsed).units : Int) := by
    rw [sampleSecs_eq]
    exact Duration.toSecs_place _
  have old := Binary64.mul_place place oldPlace steady.inside
    (Nat.lt_of_le_of_lt oldWeight_le one_lt_overflow)
  have new := Binary64.mul_place sample weight (counted_steady elapsed).inside weightInside
  refine Binary64.add_place old new ?_ ?_ (Int.natCast_add _ _).symm
  · rw [Int.natAbs_natCast]
    exact Nat.lt_of_le_of_lt (rounded_share_le (Binary64.place_onGrid place).1 oldWeight_le)
      steady.inside
  · rw [Int.natAbs_natCast]
    exact Nat.lt_of_le_of_lt (rounded_share_le (Binary64.place_onGrid sample).1 low)
      (counted_steady elapsed).inside

/-- One message later, the history that was ahead still is. -/
theorem Ahead.record {options : FlowOptions} {w : Nat} {f g : Flow} {quick slow : Duration}
    (weight : options.decay.place? = some (w : Int)) (low : w ≤ unitsPerOne)
    (ahead : Ahead options f g) (slower : quick.nanos ≤ slow.nanos) :
    Ahead options (f.record quick) (g.record slow) := by
  have samples := Duration.units_mono (counted_mono slower)
  cases ahead with
  | fresh =>
    refine .averages ?_ ?_ samples (counted_steady quick) (counted_steady slow)
    · rw [sampleSecs_eq]
      exact Duration.toSecs_place _
    · rw [sampleSecs_eq]
      exact Duration.toSecs_place _
  | averages first second ordered steady steady' =>
    have onGrid := (Binary64.place_onGrid weight).1
    exact .averages (averaged_place weight low first steady quick)
      (averaged_place weight low second steady' slow) (averaged_mono ordered samples)
      (averaged_steady low onGrid steady quick) (averaged_steady low onGrid steady' slow)

theorem Ahead.foldl {options : FlowOptions} {w : Nat} {f g : Flow} {quick slow : List Duration}
    (weight : options.decay.place? = some (w : Int)) (low : w ≤ unitsPerOne)
    (ahead : Ahead options f g)
    (slower : List.Forall₂ (fun q s : Duration => q.nanos ≤ s.nanos) quick slow) :
    Ahead options (quick.foldl Flow.record f) (slow.foldl Flow.record g) := by
  induction slower generalizing f g with
  | nil => exact ahead
  | cons head _ ih => exact ih (ahead.record weight low head)

/-- The limit up to which a wanted number counts is settled by the options. -/
def topUnits (options : FlowOptions) : Nat :=
  roundedUnits ((new options).ceiling * unitsPerOne) 1

theorem fetchSize_of_average {options : FlowOptions} {x : Binary64} {a : Nat}
    (place : x.place? = some (a : Int)) (steady : Steady a) :
    fetchSize ⟨options, some x⟩ =
      if topUnits options ≤ wantedUnits options.desired.units a then (new options).ceiling
      else Nat.max (Nat.min (wantedUnits options.desired.units a / unitsPerOne) (UInt64.size - 1))
        1 := by
  have wanted := wanted_place options.desired place steady
  simp only [fetchSize]
  rw [Binary64.le_eq (Binary64.ofNat_place _) wanted, Binary64.toCount_place wanted]
  simp only [decide_eq_true_iff, Int.ofNat_le]
  rfl

theorem Ahead.fetchSize_le {options : FlowOptions} {f g : Flow} (ahead : Ahead options f g) :
    g.fetchSize ≤ f.fetchSize := by
  cases ahead with
  | fresh => exact Nat.le_refl _
  | @averages x y a b first second ordered steady steady' =>
    have positive : 0 < a := Nat.lt_of_lt_of_le (twoTo_pos 990) steady.low
    have wanted := wantedUnits_antitone (d := options.desired.units) positive ordered
    rw [fetchSize_of_average first steady]
    by_cases reached : topUnits options ≤ wantedUnits options.desired.units a
    · have bound := (fetchSize_bounds ⟨options, some y⟩).2
      rw [if_pos reached, ceiling_eq]
      exact bound
    · have short : ¬ topUnits options ≤ wantedUnits options.desired.units b :=
        fun above => reached (Nat.le_trans above wanted)
      rw [fetchSize_of_average second steady', if_neg reached, if_neg short]
      have counts : wantedUnits options.desired.units b / unitsPerOne ≤
          wantedUnits options.desired.units a / unitsPerOne := Nat.div_le_div_right wanted
      have cut : Nat.min (wantedUnits options.desired.units b / unitsPerOne) (UInt64.size - 1) ≤
          Nat.min (wantedUnits options.desired.units a / unitsPerOne) (UInt64.size - 1) :=
        Nat.le_min.mpr ⟨Nat.le_trans (Nat.min_le_left _ _) counts, Nat.min_le_right _ _⟩
      exact Nat.max_le.mpr ⟨Nat.le_trans cut (Nat.le_max_left _ _), Nat.le_max_right _ _⟩

theorem Ahead.average {options : FlowOptions} {f g : Flow} (ahead : Ahead options f g) {x : Binary64}
    (first : f.average = some x) :
    ∃ y, g.average = some y ∧ Binary64.lt 0 x = true ∧ x.le y = true ∧ y.isFinite = true := by
  cases ahead with
  | fresh => contradiction
  | @averages _ y a b place place' ordered steady steady' =>
    cases first
    have positive : 0 < a := Nat.lt_of_lt_of_le (twoTo_pos 990) steady.low
    refine ⟨y, rfl, ?_, ?_, ?_⟩
    · rw [Binary64.lt_eq Binary64.zero_place place]
      exact decide_eq_true (Int.ofNat_lt.mpr positive)
    · rw [Binary64.le_eq place place']
      exact decide_eq_true (Int.ofNat_le.mpr ordered)
    · exact Binary64.isFinite_of_place place' (by rw [Int.natAbs_natCast]; exact steady'.inside)

/-- Slower processing of any messages can only lower what is asked for. For every configuration whose
decay lies between zero and one, ends included, and two histories of equal length of which the first
is nowhere slower, the first asks for at least as much, and its average is at most the other's. Both
averages are numbers above zero, however long the histories are. -/
theorem fetch_size_falls_with_time (options : FlowOptions)
    (low : Binary64.le 0 options.decay = true) (high : options.decay.le 1 = true)
    (quick slow : List Duration)
    (slower : List.Forall₂ (fun q s : Duration => q.nanos ≤ s.nanos) quick slow) :
    (slow.foldl record (new options)).fetchSize ≤ (quick.foldl record (new options)).fetchSize ∧
    ∀ x, (quick.foldl record (new options)).average = some x →
      ∃ y, (slow.foldl record (new options)).average = some y ∧
        Binary64.lt 0 x = true ∧ x.le y = true ∧ y.isFinite = true := by
  obtain ⟨w, weight, most⟩ := Binary64.place_of_share low high
  have ahead : Ahead options (quick.foldl record (new options)) (slow.foldl record (new options)) :=
    Ahead.fresh.foldl weight most slower
  exact ⟨ahead.fetchSize_le, fun _ => ahead.average⟩

/-- Under the default options, half a second and then none at all against a second and then a
nanosecond: the sample of no time counts as one. -/
theorem fetch_size_falls_with_time_default :
    ([⟨1000000000, by decide⟩, ⟨1, by decide⟩].foldl record (new default)).fetchSize = 3 ∧
    ([⟨500000000, by decide⟩, ⟨0, by decide⟩].foldl record (new default)).fetchSize = 5 ∧
    ([⟨1000000000, by decide⟩, ⟨1, by decide⟩].foldl record (new default)).fetchSize ≤
      ([⟨500000000, by decide⟩, ⟨0, by decide⟩].foldl record (new default)).fetchSize := by
  refine ⟨by decide +kernel, by decide +kernel, ?_⟩
  exact (fetch_size_falls_with_time default (by decide +kernel) (by decide +kernel) _ _
    (.cons (by decide) (.cons (by decide) .nil))).1

end Courier.Flow
