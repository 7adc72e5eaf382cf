import Courier.Proofs.Binary64.Power
import Mathlib.Algebra.Order.Ring.Pow
import Mathlib.Data.Rat.Cast.Order
import Mathlib.Tactic.FieldSimp
import Mathlib.Tactic.GCongr
import Mathlib.Tactic.Linarith
import Mathlib.Tactic.Positivity
import Mathlib.Tactic.Ring

/-! Relative errors against exact values. One rounding is off by at most one part in 2^53, so what has come
about by `k` roundings lies between two powers of that. The errors of a power by repeated squaring add
up to as many roundings as the exponent says, although there are far fewer products. -/

namespace Courier

/-- The relative error of one rounding. -/
def slip : ℚ := 1 / 2 ^ 53

theorem slip_pos : 0 < slip := by norm_num [slip]

theorem slip_lt_one : slip < 1 := by norm_num [slip]

theorem one_sub_slip_nonneg : 0 ≤ 1 - slip := by linarith [slip_lt_one]

theorem one_le_one_add_slip : 1 ≤ 1 + slip := by linarith [slip_pos]

theorem twoTo_cast (n : ℕ) : ((twoTo n : ℕ) : ℚ) = 2 ^ n := by
  rw [twoTo, Nat.pow_eq, Nat.cast_pow]
  rfl

/-- `a` came about by `k` roundings from the exact `v`. -/
structure Near (k : ℕ) (a v : ℚ) : Prop where
  low : v * (1 - slip) ^ k ≤ a
  high : a ≤ v * (1 + slip) ^ k

namespace Near

variable {j k : ℕ} {a b c v w : ℚ}

theorem refl (v : ℚ) : Near 0 v v := ⟨by simp, by simp⟩

theorem mono (near : Near j a v) (positive : 0 ≤ v) (le : j ≤ k) : Near k a v := by
  constructor
  · refine le_trans (mul_le_mul_of_nonneg_left ?_ positive) near.low
    exact pow_le_pow_of_le_one one_sub_slip_nonneg (by linarith [slip_pos]) le
  · refine le_trans near.high (mul_le_mul_of_nonneg_left ?_ positive)
    exact pow_le_pow_right₀ one_le_one_add_slip le

theorem trans (first : Near j a v) (second : Near k b a) : Near (j + k) b v := by
  constructor
  · calc v * (1 - slip) ^ (j + k) = v * (1 - slip) ^ j * (1 - slip) ^ k := by rw [pow_add]; ring
      _ ≤ a * (1 - slip) ^ k :=
          mul_le_mul_of_nonneg_right first.low (pow_nonneg one_sub_slip_nonneg k)
      _ ≤ b := second.low
  · calc b ≤ a * (1 + slip) ^ k := second.high
      _ ≤ v * (1 + slip) ^ j * (1 + slip) ^ k :=
          mul_le_mul_of_nonneg_right first.high (by have := slip_pos; positivity)
      _ = v * (1 + slip) ^ (j + k) := by rw [pow_add]; ring

theorem scale (near : Near k a v) (positive : 0 ≤ c) : Near k (a * c) (v * c) := by
  constructor
  · calc v * c * (1 - slip) ^ k = v * (1 - slip) ^ k * c := by ring
      _ ≤ a * c := mul_le_mul_of_nonneg_right near.low positive
  · calc a * c ≤ v * (1 + slip) ^ k * c := mul_le_mul_of_nonneg_right near.high positive
      _ = v * c * (1 + slip) ^ k := by ring

theorem mul (left : Near j a v) (right : Near k b w) (positive : 0 ≤ v) (positive' : 0 ≤ b) :
    Near (j + k) (a * b) (v * w) := by
  have first : Near k (v * b) (v * w) := by
    have scaled := right.scale positive
    rwa [mul_comm b, mul_comm w] at scaled
  rw [Nat.add_comm]
  exact first.trans (left.scale positive')

theorem add (left : Near k a v) (right : Near k b w) : Near k (a + b) (v + w) := by
  constructor
  · rw [add_mul]
    exact add_le_add left.low right.low
  · rw [add_mul]
    exact add_le_add left.high right.high

theorem min (left : Near k a v) (right : Near k b w) : Near k (min a b) (min v w) := by
  have down : 0 ≤ (1 - slip) ^ k := pow_nonneg one_sub_slip_nonneg k
  have up : 0 ≤ (1 + slip) ^ k := by have := slip_pos; positivity
  constructor
  · rw [min_mul_of_nonneg _ _ down]
    exact min_le_min left.low right.low
  · rw [min_mul_of_nonneg _ _ up]
    exact min_le_min left.high right.high

theorem raised_le {k : ℕ} (few : k ≤ 2 ^ 52) : (1 + slip) ^ k ≤ 1 + k / 2 ^ 52 := by
  induction k with
  | zero => simp
  | succ k ih =>
    have share : (k : ℚ) ≤ 2 ^ 52 := by exact_mod_cast Nat.le_of_succ_le few
    calc (1 + slip) ^ (k + 1) = (1 + slip) ^ k * (1 + slip) := pow_succ _ _
      _ ≤ (1 + k / 2 ^ 52) * (1 + slip) := by
          refine mul_le_mul_of_nonneg_right (ih (Nat.le_of_succ_le few)) ?_
          linarith [one_le_one_add_slip]
      _ ≤ 1 + (k + 1 : ℕ) / 2 ^ 52 := by
          rw [slip, Nat.cast_succ]
          linarith

theorem within (near : Near k a v) (positive : 0 ≤ v) (few : k ≤ 2 ^ 52) :
    |a - v| ≤ v * (k / 2 ^ 52) := by
  have up : a ≤ v * (1 + k / 2 ^ 52) :=
    le_trans near.high (mul_le_mul_of_nonneg_left (raised_le few) positive)
  have bernoulli : 1 + (k : ℚ) * -slip ≤ (1 + -slip) ^ k :=
    one_add_mul_le_pow (by linarith [slip_lt_one]) k
  rw [← sub_eq_add_neg] at bernoulli
  have lowered : 1 - (k : ℚ) / 2 ^ 52 ≤ (1 - slip) ^ k := by
    refine le_trans ?_ bernoulli
    have share : (0 : ℚ) ≤ k := Nat.cast_nonneg k
    rw [slip]
    linarith
  have down : v * (1 - k / 2 ^ 52) ≤ a :=
    le_trans (mul_le_mul_of_nonneg_left lowered positive) near.low
  rw [abs_le]
  constructor <;> linarith

end Near

section Rounded

variable {num den : ℕ}

theorem unitsPerOne_cast_pos : (0 : ℚ) < unitsPerOne := by
  exact_mod_cast unitsPerOne_pos

theorem rounded_le (positive : 0 < den) (normal : num = 0 ∨ twoTo 52 * den ≤ num) :
    ((roundedUnits num den : ℕ) : ℚ) ≤ num / den * (1 + slip) := by
  rcases normal with rfl | normal
  · rw [roundedUnits_zero]
    simp
  · have denPos : (0 : ℚ) < den := by exact_mod_cast positive
    have relative := (gridNearest_relative positive normal).1
    have cast : (2 : ℚ) ^ 53 * ((gridNearest num den : ℕ) * den) ≤ (2 ^ 53 + 1) * num := by
      rw [← twoTo_cast]
      exact_mod_cast relative
    calc ((roundedUnits num den : ℕ) : ℚ) ≤ (gridNearest num den : ℕ) := by
          exact_mod_cast Nat.min_le_left _ _
      _ ≤ num / den * (1 + slip) := by
          rw [slip, div_mul_eq_mul_div, le_div_iff₀ denPos]
          linarith

theorem near_rounded (positive : 0 < den) (normal : num = 0 ∨ twoTo 52 * den ≤ num)
    (inside : roundedUnits num den < overflow) : Near 1 (roundedUnits num den : ℕ) (num / den) := by
  refine ⟨?_, by rw [pow_one]; exact rounded_le positive normal⟩
  rcases normal with rfl | normal
  · simp
  · have denPos : (0 : ℚ) < den := by exact_mod_cast positive
    have relative := (gridNearest_relative positive normal).2
    have same : roundedUnits num den = gridNearest num den := by
      rw [roundedUnits] at inside ⊢
      omega
    have cast : ((2 : ℚ) ^ 53 - 1) * num ≤ 2 ^ 53 * ((gridNearest num den : ℕ) * den) := by
      have less : 1 ≤ twoTo 53 := twoTo_pos 53
      have whole : (((twoTo 53 - 1) * num : ℕ) : ℚ) ≤ (twoTo 53 * (gridNearest num den * den) : ℕ) := by
        exact_mod_cast relative
      rw [Nat.cast_mul, Nat.cast_sub less, Nat.cast_mul, Nat.cast_mul, twoTo_cast] at whole
      exact_mod_cast whole
    rw [same, pow_one, slip, div_mul_eq_mul_div, div_le_iff₀ denPos]
    linarith

end Rounded

/-- The number that stands at a place. -/
def inOnes (units : ℕ) : ℚ := units / unitsPerOne

section Ones

variable {a b : ℕ}

theorem inOnes_mono (le : a ≤ b) : inOnes a ≤ inOnes b :=
  div_le_div_of_nonneg_right (by exact_mod_cast le) (le_of_lt unitsPerOne_cast_pos)

theorem inOnes_nonneg (a : ℕ) : 0 ≤ inOnes a :=
  div_nonneg (Nat.cast_nonneg a) (le_of_lt unitsPerOne_cast_pos)

theorem inOnes_min (a b : ℕ) : inOnes (Nat.min a b) = min (inOnes a) (inOnes b) := by
  rcases Nat.le_total a b with le | le
  · rw [min_eq_left (inOnes_mono le)]
    exact congrArg inOnes (Nat.min_eq_left le)
  · rw [min_eq_right (inOnes_mono le)]
    exact congrArg inOnes (Nat.min_eq_right le)

theorem inOnes_ones (n : ℕ) : inOnes (n * unitsPerOne) = n := by
  rw [inOnes, Nat.cast_mul, mul_div_cancel_right₀ _ (ne_of_gt unitsPerOne_cast_pos)]

theorem one_le_inOnes (large : unitsPerOne ≤ a) : 1 ≤ inOnes a := by
  have one := inOnes_ones 1
  rw [Nat.one_mul, Nat.cast_one] at one
  rw [← one]
  exact inOnes_mono large

theorem inOnes_overflow : inOnes overflow = 2 ^ 1024 := by
  rw [overflow_eq, inOnes_ones, twoTo_cast]

theorem product_high (normal : twoTo 52 * unitsPerOne ≤ a * b) :
    inOnes (roundedUnits (a * b) unitsPerOne) ≤ inOnes a * inOnes b * (1 + slip) := by
  have one := unitsPerOne_cast_pos
  rw [inOnes, div_le_iff₀ one]
  calc ((roundedUnits (a * b) unitsPerOne : ℕ) : ℚ)
      ≤ (a * b : ℕ) / unitsPerOne * (1 + slip) := rounded_le unitsPerOne_pos (.inr normal)
    _ = inOnes a * inOnes b * (1 + slip) * unitsPerOne := by
        rw [inOnes, inOnes, Nat.cast_mul]
        field_simp

theorem product_near (normal : twoTo 52 * unitsPerOne ≤ a * b)
    (inside : roundedUnits (a * b) unitsPerOne < overflow) :
    Near 1 (inOnes (roundedUnits (a * b) unitsPerOne)) (inOnes a * inOnes b) := by
  have one := unitsPerOne_cast_pos
  have near := (near_rounded unitsPerOne_pos (.inr normal) inside).scale
    (le_of_lt (one_div_pos.mpr one))
  have exact : ((a * b : ℕ) : ℚ) / unitsPerOne * (1 / unitsPerOne) = inOnes a * inOnes b := by
    rw [inOnes, inOnes, Nat.cast_mul]
    field_simp
  rwa [exact, mul_one_div] at near

theorem product_cases {j k : ℕ} {v w : ℚ} (left : Near j (inOnes a) v) (right : Near k (inOnes b) w)
    (positive : 0 ≤ v) (normal : twoTo 52 * unitsPerOne ≤ a * b) :
    (roundedUnits (a * b) unitsPerOne < overflow ∧
      Near (j + k + 1) (inOnes (roundedUnits (a * b) unitsPerOne)) (v * w)) ∨
    (roundedUnits (a * b) unitsPerOne = overflow ∧ 2 ^ 1024 ≤ v * w * (1 + slip) ^ (j + k + 1)) := by
  have exact := left.mul right positive (inOnes_nonneg b)
  rcases Nat.lt_or_ge (roundedUnits (a * b) unitsPerOne) overflow with inside | outside
  · exact .inl ⟨inside, exact.trans (product_near normal inside)⟩
  · -- only the upper bound is left here: what is cut off at the end says nothing about how far it went
    have full : roundedUnits (a * b) unitsPerOne = overflow :=
      Nat.le_antisymm (roundedUnits_le_overflow _ _) outside
    have bound := product_high normal
    rw [full, inOnes_overflow] at bound
    refine .inr ⟨full, le_trans bound ?_⟩
    calc inOnes a * inOnes b * (1 + slip)
        ≤ v * w * (1 + slip) ^ (j + k) * (1 + slip) :=
          mul_le_mul_of_nonneg_right exact.high (by linarith [one_le_one_add_slip])
      _ = v * w * (1 + slip) ^ (j + k + 1) := by rw [pow_succ _ (j + k)]; ring

end Ones

namespace Binary64

/-- A product of `k` roundings whose exact value is `v`, not below one. Once it has passed the grid's
end it stays there, and then the exact value is not much below the end. -/
inductive Grown (k : ℕ) (v : ℚ) : Binary64 → Prop
  | finite {x : Binary64} {a : ℕ} (place : x.place? = some (a : Int)) (inside : a < overflow)
      (large : unitsPerOne ≤ a) (near : Near k (inOnes a) v) : Grown k v x
  | infinite (high : 2 ^ 1024 ≤ v * (1 + slip) ^ k) : Grown k v (.infinite false)

variable {j k : ℕ} {v w : ℚ} {x y r : Binary64}

/-- So few roundings do not carry past the end what is no more than half of it. -/
theorem past_half (high : 2 ^ 1024 ≤ v * (1 + slip) ^ k) (positive : 0 ≤ v) (few : k < 2 ^ 52) :
    2 ^ 1023 < v := by
  have share : (k : ℚ) / 2 ^ 52 < 1 := by
    rw [div_lt_one (by norm_num)]
    exact_mod_cast few
  have raised := mul_le_mul_of_nonneg_left (Near.raised_le (Nat.le_of_lt few)) positive
  rw [pow_succ (2 : ℚ) 1023] at high
  have end_pos : (0 : ℚ) < 2 ^ 1023 := pow_pos (by norm_num) 1023
  generalize (2 : ℚ) ^ 1023 = half at high end_pos ⊢
  refine lt_of_not_ge fun low => ?_
  have bound : v * (1 + k / 2 ^ 52) ≤ half * (1 + k / 2 ^ 52) :=
    mul_le_mul_of_nonneg_right low (by positivity)
  have less : half * (1 + k / 2 ^ 52) < half * 2 := by
    refine mul_lt_mul_of_pos_left ?_ end_pos
    linarith
  linarith

namespace Grown

theorem place (grown : Grown k v x) : ∃ a : ℕ, x.place? = some (a : Int) ∧ unitsPerOne ≤ a := by
  cases grown with
  | finite place _ large _ => exact ⟨_, place, large⟩
  | infinite _ => exact ⟨_, infinite_false_place, Nat.le_of_lt one_lt_overflow⟩

theorem one : Grown 0 1 (1 : Binary64) := by
  have value := inOnes_ones 1
  rw [Nat.one_mul, Nat.cast_one] at value
  refine .finite one_place one_lt_overflow (Nat.le_refl _) ?_
  rw [value]
  exact Near.refl 1

/-- What has passed the end is not brought back by factors that are not below one. -/
theorem beyond (high : 2 ^ 1024 ≤ v * (1 + slip) ^ j) (left : 0 ≤ v) (right : 1 ≤ w) (le : j ≤ k) :
    2 ^ 1024 ≤ v * w * (1 + slip) ^ k := by
  have positive := slip_pos
  calc (2 : ℚ) ^ 1024 ≤ v * (1 + slip) ^ j := high
    _ ≤ v * (1 + slip) ^ k :=
        mul_le_mul_of_nonneg_left (pow_le_pow_right₀ one_le_one_add_slip le) left
    _ ≤ v * (1 + slip) ^ k * w := le_mul_of_one_le_right (by positivity) right
    _ = v * w * (1 + slip) ^ k := by ring

theorem mul (left : Grown j v x) (right : Grown k w y) (least : 1 ≤ v) (least' : 1 ≤ w) :
    Grown (j + k + 1) (v * w) (x * y) := by
  have positive : 0 ≤ v := by linarith
  have positive' : 0 ≤ w := by linarith
  obtain ⟨m, leftPlace, leftLarge⟩ := left.place
  obtain ⟨n, rightPlace, rightLarge⟩ := right.place
  have oneNe := Nat.ne_of_gt unitsPerOne_pos
  cases left with
  | infinite high =>
    rw [infinite_mul rightPlace, if_neg (by omega)]
    exact .infinite (beyond high positive least' (by omega))
  | finite place inside large near =>
    rename_i a
    cases right with
    | infinite high =>
      rw [mul_infinite leftPlace, if_neg (by omega), mul_comm v w]
      exact .infinite (beyond high positive' least (by omega))
    | finite place' inside' large' near' =>
      rename_i b
      have product := mul_place place place' inside inside'
      have ones : unitsPerOne * unitsPerOne ≤ a * b := Nat.mul_le_mul large large'
      have normal : twoTo 52 * unitsPerOne ≤ a * b :=
        Nat.le_trans (Nat.mul_le_mul_right _ (twoTo_le_unitsPerOne (by omega))) ones
      rcases product_cases near near' positive normal with ⟨within, exact⟩ | ⟨full, high⟩
      · refine .finite product within ?_ exact
        exact le_roundedUnits onGrid_one (Nat.le_of_lt one_lt_overflow) unitsPerOne_pos ones
      · rw [full] at product
        rw [infinite_of_overflow product]
        exact .infinite high

end Grown

theorem powAux_grown (n : ℕ) (product : Grown j v r) (factor : Grown k w x) (least : 1 ≤ v)
    (least' : 1 ≤ w) : Grown (j + n * (k + 1)) (v * w ^ n) (powAux r x n) := by
  -- squaring doubles the roundings and halves the exponent, so their number comes out as it would if
  -- the factors were multiplied one by one
  induction n using Nat.strongRecOn generalizing j k v w r x with
  | ind n ih =>
    match n with
    | 0 =>
      rw [powAux_zero, Nat.zero_mul, pow_zero, mul_one]
      exact product
    | 1 =>
      rw [powAux_one, Nat.one_mul, pow_one]
      exact product.mul factor least least'
    | n + 2 =>
      have squared := factor.mul factor least' least'
      have squareLeast : 1 ≤ w * w := one_le_mul_of_one_le_of_one_le least' least'
      have halves := Nat.div_add_mod (n + 2) 2
      rw [powAux_halved r x (by omega)]
      generalize half : (n + 2) / 2 = h at halves
      by_cases odd : (n + 2) % 2 = 1
      · have step := ih h (by omega) (product.mul factor least least') squared
          (one_le_mul_of_one_le_of_one_le least least') squareLeast
        have count : j + k + 1 + h * (k + k + 1 + 1) = j + (n + 2) * (k + 1) := by
          rw [← halves, odd]
          ring
        have power : v * w * (w * w) ^ h = v * w ^ (n + 2) := by
          rw [← halves, odd, pow_succ, pow_mul]
          ring
        rw [if_pos odd, ← count, ← power]
        exact step
      · have even : (n + 2) % 2 = 0 := by omega
        have step := ih h (by omega) product squared least squareLeast
        have count : j + h * (k + k + 1 + 1) = j + (n + 2) * (k + 1) := by
          rw [← halves, even]
          ring
        have power : v * (w * w) ^ h = v * w ^ (n + 2) := by
          rw [← halves, even, Nat.add_zero, pow_mul]
          ring
        rw [if_neg odd, ← count, ← power]
        exact step

/-- A power of a number not below one is off by no more than one rounding for each factor. -/
theorem pow_grown (factor : Grown 0 w x) (least : 1 ≤ w) (n : ℕ) : Grown n (w ^ n) (x.pow n) := by
  have grown := powAux_grown n Grown.one factor (le_refl 1) least
  rwa [Nat.zero_add, Nat.zero_add, Nat.mul_one, one_mul] at grown

/-- The number itself; infinities, and what is not a number, count for nothing. -/
def value : Binary64 → ℚ
  | .finite negative m => (signed negative m.units : ℚ) / unitsPerOne
  | _ => 0

theorem value_eq {x : Binary64} {n : ℕ} (place : x.place? = some (n : Int))
    (inside : n < overflow) : x.value = inOnes n := by
  obtain ⟨negative, m, rfl, same⟩ := finite_of_place place (by rwa [Int.natAbs_natCast])
  rw [value, same, inOnes, Int.cast_natCast]

theorem value_grown {x : Binary64} (finite : x.isFinite = true)
    (grows : Binary64.le 1 x = true) : Grown 0 x.value x ∧ 1 ≤ x.value := by
  obtain ⟨g, place, large⟩ := place_of_one_le grows
  have inside := inside_of_isFinite place finite
  rw [Int.natAbs_natCast] at inside
  rw [value_eq place inside]
  exact ⟨.finite place inside large (Near.refl _), one_le_inOnes large⟩

end Binary64

end Courier
