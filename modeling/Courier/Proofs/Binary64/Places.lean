import Courier.Proofs.Binary64.Grid

/-! Where the result of an operation stands on the line. For numbers that are not below zero it is the
exact result, rounded; the sign of a zero makes no difference to any place. So what is proved of the
order of places holds of the comparisons and of whole counts. -/

namespace Courier

/-- Where a rounded quotient stands: on the grid, or at its end if it is beyond. -/
def roundedUnits (num den : Nat) : Nat := min (gridNearest num den) overflow

theorem overflow_eq : overflow = twoTo 1024 * unitsPerOne := by
  rw [overflow, unitsPerOne, ← twoTo_add]

theorem overflow_pos : 0 < overflow := twoTo_pos 2098

theorem unitsPerOne_pos : 0 < unitsPerOne := twoTo_pos 1074

theorem twoTo_le_unitsPerOne {k : Nat} (le : k ≤ 1074) : twoTo k ≤ unitsPerOne := by
  rw [unitsPerOne]
  exact twoTo_le_twoTo le

theorem onGrid_twoTo_ones (k : Nat) : OnGrid (twoTo k * unitsPerOne) := by
  rw [unitsPerOne, ← twoTo_add]
  exact onGrid_twoTo _

theorem onGrid_overflow : OnGrid overflow := onGrid_twoTo 2098

theorem onGrid_ones {n : Nat} (small : n ≤ twoTo 53) : OnGrid (n * unitsPerOne) :=
  onGrid_mul_twoTo small

theorem onGrid_one : OnGrid unitsPerOne := onGrid_twoTo 1074

theorem ones_lt_overflow {n k : Nat} (bound : n ≤ twoTo k) (small : k < 1024) :
    n * unitsPerOne < overflow := by
  refine Nat.lt_of_le_of_lt (Nat.mul_le_mul_right _ bound) ?_
  rw [unitsPerOne, overflow, ← twoTo_add]
  exact twoTo_lt_twoTo (by omega)

section Rounded

variable {num den num' den' g : Nat}

theorem roundedUnits_le_overflow (num den : Nat) : roundedUnits num den ≤ overflow :=
  Nat.min_le_right _ _

theorem roundedUnits_le (onGrid : OnGrid g) (le : num ≤ g * den) : roundedUnits num den ≤ g :=
  Nat.le_trans (Nat.min_le_left _ _) (gridNearest_le onGrid le)

theorem le_roundedUnits (onGrid : OnGrid g) (inside : g ≤ overflow) (positive : 0 < den)
    (le : g * den ≤ num) : g ≤ roundedUnits num den :=
  Nat.le_min.mpr ⟨le_gridNearest onGrid positive le, inside⟩

theorem roundedUnits_mono (positive : 0 < den) (positive' : 0 < den')
    (cross : num * den' ≤ num' * den) : roundedUnits num den ≤ roundedUnits num' den' := by
  have grid := gridNearest_mono positive positive' cross
  simp only [roundedUnits]
  omega

theorem rounded_sum_mono {m n : Nat} (le : m ≤ n) : roundedUnits m 1 ≤ roundedUnits n 1 :=
  roundedUnits_mono Nat.one_pos Nat.one_pos (by omega)

theorem rounded_sum_le {a b k : Nat} (left : a ≤ twoTo k * unitsPerOne)
    (right : b ≤ twoTo k * unitsPerOne) : roundedUnits (a + b) 1 ≤ twoTo (k + 1) * unitsPerOne := by
  have double : twoTo (k + 1) * unitsPerOne = twoTo k * unitsPerOne * 2 := by
    rw [twoTo_succ, Nat.mul_right_comm]
  exact roundedUnits_le (onGrid_twoTo_ones _) (by omega)

theorem rounded_product_mono {a b w : Nat} (le : a ≤ b) :
    roundedUnits (a * w) unitsPerOne ≤ roundedUnits (b * w) unitsPerOne :=
  roundedUnits_mono unitsPerOne_pos unitsPerOne_pos
    (Nat.mul_le_mul_right _ (Nat.mul_le_mul_right w le))

theorem roundedUnits_congr (positive : 0 < den) (positive' : 0 < den')
    (cross : num * den' = num' * den) : roundedUnits num den = roundedUnits num' den' :=
  Nat.le_antisymm (roundedUnits_mono positive positive' (Nat.le_of_eq cross))
    (roundedUnits_mono positive' positive (Nat.le_of_eq cross.symm))

theorem roundedUnits_onGrid (onGrid : OnGrid g) (inside : g ≤ overflow) : roundedUnits g 1 = g := by
  rw [roundedUnits, gridNearest_onGrid onGrid]
  exact Nat.min_eq_left inside

theorem onGrid_roundedUnits (num den : Nat) : OnGrid (roundedUnits num den) := by
  rw [roundedUnits]
  rcases Nat.le_total (gridNearest num den) overflow with inside | beyond
  · rw [Nat.min_eq_left inside]
    exact onGrid_gridNearest num den
  · rw [Nat.min_eq_right beyond]
    exact onGrid_overflow

/-- A share of at most one is not more than the whole. -/
theorem rounded_share_le {a w : Nat} (onGrid : OnGrid a) (share : w ≤ unitsPerOne) :
    roundedUnits (a * w) unitsPerOne ≤ a :=
  roundedUnits_le onGrid (Nat.mul_le_mul_left a share)

theorem roundedUnits_zero (den : Nat) : roundedUnits 0 den = 0 :=
  Nat.le_zero.mp (roundedUnits_le (onGrid_of_lt (twoTo_pos 53)) (Nat.zero_le _))

/-- A whole number of at most 53 bits is rounded to itself. -/
theorem roundedUnits_ones {n : Nat} (small : n ≤ twoTo 53) :
    roundedUnits (n * unitsPerOne) 1 = n * unitsPerOne :=
  roundedUnits_onGrid (onGrid_ones small) (Nat.le_of_lt (ones_lt_overflow small (by omega)))

theorem one_lt_overflow : unitsPerOne < overflow := by
  rw [← Nat.one_mul unitsPerOne]
  exact ones_lt_overflow (twoTo_pos 53) (by omega)

end Rounded

namespace Binary64

theorem infinite_place (negative : Bool) :
    (infinite negative).place? = some (signed negative overflow) := rfl

theorem finite_place (negative : Bool) (m : Magnitude) :
    (finite negative m).place? = some (signed negative m.units) := rfl

theorem signed_eq {negative : Bool} {n a : Nat} (same : signed negative n = a) :
    n = a ∧ (negative = true → n = 0) := by
  cases negative with
  | false => exact ⟨Int.ofNat.inj same, nofun⟩
  | true =>
    simp only [signed, if_true] at same
    omega

theorem signed_nat {negative : Bool} {n : Nat} (zero : negative = true → n = 0) :
    signed negative n = n := by
  cases negative with
  | false => rfl
  | true => rw [zero rfl]; rfl

theorem signed_not (negative : Bool) (n : Nat) : signed (!negative) n = -signed negative n := by
  cases negative with
  | false => rfl
  | true => exact (Int.neg_neg (n : Int)).symm

theorem round_place (negative : Bool) (num den : Nat) :
    (round negative num den).place? = some (signed negative (roundedUnits num den)) := by
  rw [round]
  split
  · rename_i inside
    rw [roundedUnits, Nat.min_eq_left (Nat.le_of_lt inside)]
    rfl
  · rename_i beyond
    rw [roundedUnits, Nat.min_eq_right (Nat.le_of_not_lt beyond)]
    rfl

theorem round_place_nat {negative : Bool} {num den : Nat} (zero : negative = true → num = 0) :
    (round negative num den).place? = some (roundedUnits num den : Int) := by
  rw [round_place, signed_nat]
  intro minus
  rw [zero minus]
  exact roundedUnits_zero den

theorem place_onGrid {x : Binary64} {n : Nat} (place : x.place? = some (n : Int)) :
    OnGrid n ∧ n ≤ overflow := by
  cases x with
  | nan => cases place
  | infinite negative =>
    rw [infinite_place, Option.some.injEq] at place
    rw [← (signed_eq place).1]
    exact ⟨onGrid_overflow, Nat.le_refl _⟩
  | finite negative m =>
    rw [finite_place, Option.some.injEq] at place
    rw [← (signed_eq place).1]
    exact ⟨m.onGrid, Nat.le_of_lt m.lt_overflow⟩

theorem finite_of_place {x : Binary64} {z : Int} (place : x.place? = some z)
    (inside : z.natAbs < overflow) : ∃ negative m, x = finite negative m ∧ signed negative m.units = z := by
  cases x with
  | nan => cases place
  | infinite negative =>
    rw [infinite_place, Option.some.injEq] at place
    cases negative <;> simp only [signed, if_true, Bool.false_eq_true, if_false] at place <;> omega
  | finite negative m => exact ⟨negative, m, rfl, Option.some.inj place⟩

theorem finite_of_place_nat {x : Binary64} {n : Nat} (place : x.place? = some (n : Int))
    (inside : n < overflow) :
    ∃ negative m, x = finite negative m ∧ m.units = n ∧ (negative = true → m.units = 0) := by
  obtain ⟨negative, m, same, count⟩ := finite_of_place place (by rwa [Int.natAbs_natCast])
  exact ⟨negative, m, same, signed_eq count⟩

theorem isFinite_of_place {x : Binary64} {z : Int} (place : x.place? = some z)
    (inside : z.natAbs < overflow) : x.isFinite = true := by
  obtain ⟨negative, m, rfl, _⟩ := finite_of_place place inside
  rfl

theorem inside_of_isFinite {x : Binary64} {z : Int} (place : x.place? = some z)
    (finite : x.isFinite = true) : z.natAbs < overflow := by
  cases x with
  | nan => cases place
  | infinite negative => contradiction
  | finite negative m =>
    rw [finite_place, Option.some.injEq] at place
    rw [← place]
    have bound := m.lt_overflow
    cases negative <;> simp only [signed, if_true, Bool.false_eq_true, if_false] <;> omega

section Order

variable {x y : Binary64} {a b : Int}

theorem le_eq (left : x.place? = some a) (right : y.place? = some b) :
    x.le y = decide (a ≤ b) := by
  simp only [le, left, right]

theorem lt_eq (left : x.place? = some a) (right : y.place? = some b) :
    x.lt y = decide (a < b) := by
  simp only [lt, left, right]

theorem places_of_le (ordered : x.le y = true) :
    ∃ a b, x.place? = some a ∧ y.place? = some b ∧ a ≤ b := by
  simp only [le] at ordered
  split at ordered
  · rename_i a b left right
    exact ⟨a, b, left, right, of_decide_eq_true ordered⟩
  · contradiction

theorem neg_place (place : x.place? = some a) : (-x).place? = some (-a) := by
  cases x with
  | nan => cases place
  | infinite negative =>
    rw [infinite_place, Option.some.injEq] at place
    rw [← place, ← signed_not]
    exact infinite_place (!negative)
  | finite negative m =>
    rw [finite_place, Option.some.injEq] at place
    rw [← place, ← signed_not]
    exact finite_place (!negative) m

end Order

section Arithmetic

variable {x y : Binary64} {a b : Nat}

theorem ofNat_place (n : Nat) :
    (ofNat n).place? = some (roundedUnits (n * unitsPerOne) 1 : Int) :=
  round_place_nat nofun

theorem zero_place : (0 : Binary64).place? = some ((0 : Nat) : Int) := by
  refine (ofNat_place 0).trans ?_
  rw [Nat.zero_mul, roundedUnits_zero]

theorem one_place : (1 : Binary64).place? = some (unitsPerOne : Int) := by
  refine (ofNat_place 1).trans ?_
  rw [roundedUnits_ones (twoTo_pos 53), Nat.one_mul]

theorem place_of_share (low : Binary64.le 0 x = true) (high : x.le 1 = true) :
    ∃ w : Nat, x.place? = some (w : Int) ∧ w ≤ unitsPerOne := by
  obtain ⟨z, w, zero, place, least⟩ := places_of_le low
  obtain ⟨w', o, place', one, most⟩ := places_of_le high
  rw [zero_place] at zero
  rw [one_place] at one
  rw [place] at place'
  cases zero
  cases one
  cases place'
  obtain ⟨n, rfl⟩ := Int.eq_ofNat_of_zero_le least
  exact ⟨n, place, Int.ofNat_le.mp most⟩

theorem place_of_one_le (least : Binary64.le 1 x = true) :
    ∃ n : Nat, x.place? = some (n : Int) ∧ unitsPerOne ≤ n := by
  obtain ⟨o, z, one, place, above⟩ := places_of_le least
  rw [one_place] at one
  cases one
  obtain ⟨n, rfl⟩ := Int.eq_ofNat_of_zero_le (a := z) (by omega)
  exact ⟨n, place, Int.ofNat_le.mp above⟩

theorem isNaN_of_place {z : Int} (place : x.place? = some z) : x.isNaN = false := by
  cases x with
  | nan => cases place
  | infinite negative => rfl
  | finite negative m => rfl

theorem nan_min (x : Binary64) : nan.min x = x := rfl

/-- What is not below zero is not raised to zero. -/
theorem max_zero (place : x.place? = some (a : Int)) : x.max 0 = x := by
  rw [Binary64.max, isNaN_of_place place, isNaN_of_place zero_place, lt_eq place zero_place]
  simp only [Bool.false_eq_true, if_false, decide_eq_true_iff]
  rw [if_neg (by omega)]

theorem min_place (left : x.place? = some (a : Int)) (right : y.place? = some (b : Int)) :
    (x.min y).place? = some (Nat.min a b : Int) := by
  rw [Binary64.min, isNaN_of_place left, isNaN_of_place right, lt_eq right left]
  simp only [Bool.false_eq_true, if_false, decide_eq_true_iff, Int.ofNat_lt]
  split
  · rename_i less
    exact right.trans (congrArg (fun n : Nat => some (n : Int)) (Nat.min_eq_right (Nat.le_of_lt less)).symm)
  · rename_i above
    exact left.trans (congrArg (fun n : Nat => some (n : Int)) (Nat.min_eq_left (Nat.le_of_not_lt above)).symm)

theorem add_place {a b : Int} {n : Nat} (left : x.place? = some a) (right : y.place? = some b)
    (leftInside : a.natAbs < overflow) (rightInside : b.natAbs < overflow) (sum : a + b = n) :
    (x + y).place? = some (roundedUnits n 1 : Int) := by
  obtain ⟨s, m, rfl, rfl⟩ := finite_of_place left leftInside
  obtain ⟨t, k, rfl, rfl⟩ := finite_of_place right rightInside
  change (add (finite s m) (finite t k)).place? = _
  simp only [add, sum]
  split
  · rename_i zero
    rw [Int.natCast_eq_zero.mp zero]
    exact round_place_nat fun _ => rfl
  · rw [Int.natAbs_natCast]
    exact round_place_nat fun minus => by have := of_decide_eq_true minus; omega

theorem mul_place (left : x.place? = some (a : Int)) (right : y.place? = some (b : Int))
    (leftInside : a < overflow) (rightInside : b < overflow) :
    (x * y).place? = some (roundedUnits (a * b) unitsPerOne : Int) := by
  obtain ⟨s, m, rfl, rfl, zero⟩ := finite_of_place_nat left leftInside
  obtain ⟨t, k, rfl, rfl, zero'⟩ := finite_of_place_nat right rightInside
  change (mul (finite s m) (finite t k)).place? = _
  rw [mul]
  refine round_place_nat fun minus => ?_
  cases s with
  | true => rw [zero rfl, Nat.zero_mul]
  | false =>
    cases t with
    | true => rw [zero' rfl, Nat.mul_zero]
    | false => cases minus

theorem div_place (left : x.place? = some (a : Int)) (right : y.place? = some (b : Int))
    (leftInside : a < overflow) (rightInside : b < overflow) (positive : 0 < b) :
    (x / y).place? = some (roundedUnits (a * unitsPerOne) b : Int) := by
  obtain ⟨s, m, rfl, rfl, zero⟩ := finite_of_place_nat left leftInside
  obtain ⟨t, k, rfl, rfl, zero'⟩ := finite_of_place_nat right rightInside
  change (div (finite s m) (finite t k)).place? = _
  rw [div, if_neg (Nat.ne_of_gt positive)]
  refine round_place_nat fun minus => ?_
  cases s with
  | true => rw [zero rfl, Nat.zero_mul]
  | false =>
    cases t with
    | true => exact absurd (zero' rfl) (Nat.ne_of_gt positive)
    | false => cases minus

theorem ceil_place (place : x.place? = some (a : Int)) (inside : a < overflow) :
    x.ceil.place? =
      some (roundedUnits ((a + unitsPerOne - 1) / unitsPerOne * unitsPerOne) 1 : Int) := by
  obtain ⟨s, m, rfl, rfl, zero⟩ := finite_of_place_nat place inside
  cases s with
  | false => exact round_place_nat nofun
  | true =>
    have one := unitsPerOne_pos
    rw [zero rfl, Nat.zero_add, Nat.div_eq_of_lt (by omega), Nat.zero_mul]
    rw [ceil, zero rfl, Nat.zero_div, Nat.zero_mul]
    exact round_place_nat fun _ => rfl

theorem toCount_place (place : x.place? = some (a : Int)) :
    x.toCount = Nat.min (a / unitsPerOne) (UInt64.size - 1) := by
  cases x with
  | nan => cases place
  | infinite negative =>
    rw [infinite_place, Option.some.injEq] at place
    obtain ⟨rfl, zero⟩ := signed_eq place
    cases negative with
    | true => exact absurd (zero rfl) (Nat.ne_of_gt overflow_pos)
    | false =>
      rw [overflow_eq, Nat.mul_div_cancel _ unitsPerOne_pos]
      have room : UInt64.size - 1 ≤ twoTo 1024 :=
        Nat.le_trans (by decide : UInt64.size - 1 ≤ twoTo 64) (twoTo_le_twoTo (by omega))
      exact (Nat.min_eq_right room).symm
  | finite negative m =>
    obtain ⟨rfl, zero⟩ := signed_eq (Option.some.inj place)
    cases negative with
    | false => rfl
    | true => rw [zero rfl, Nat.zero_div]; rfl

end Arithmetic

end Binary64

end Courier
