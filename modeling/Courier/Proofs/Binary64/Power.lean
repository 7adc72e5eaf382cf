import Courier.Proofs.Binary64.Places

/-! Products and powers beyond the grid's end. Of numbers that are not below zero, a product is not below
zero or is not a number at all, and so is a power. -/

namespace Courier.Binary64

/-- Not a number, or a number that is not below zero. -/
def NotNegative (x : Binary64) : Prop := x = nan ∨ ∃ n : Nat, x.place? = some (n : Int)

theorem nan_mul (x : Binary64) : nan * x = nan := rfl

theorem mul_nan (x : Binary64) : x * nan = nan := by
  cases x <;> rfl

theorem infinite_of_place {negative : Bool} {n : Nat}
    (place : (infinite negative).place? = some (n : Int)) : negative = false ∧ n = overflow := by
  rw [infinite_place, Option.some.injEq] at place
  obtain ⟨same, zero⟩ := signed_eq place
  refine ⟨?_, same.symm⟩
  cases negative with
  | false => rfl
  | true => exact absurd (zero rfl) (Nat.ne_of_gt overflow_pos)

theorem infinite_false_place : (infinite false).place? = some (overflow : Int) :=
  (infinite_place false).trans (congrArg some (signed_nat nofun))

theorem infinite_of_overflow {x : Binary64} (place : x.place? = some (overflow : Int)) :
    x = infinite false := by
  cases x with
  | nan => cases place
  | infinite negative => rw [(infinite_of_place place).1]
  | finite negative m =>
    rw [finite_place, Option.some.injEq] at place
    exact absurd (signed_eq place).1 (Nat.ne_of_lt m.lt_overflow)

theorem mul_infinite {x : Binary64} {n : Nat} (place : x.place? = some (n : Int)) :
    x * infinite false = if n = 0 then nan else infinite false := by
  cases x with
  | nan => cases place
  | infinite negative =>
    obtain ⟨rfl, same⟩ := infinite_of_place place
    rw [same, if_neg (Nat.ne_of_gt overflow_pos)]
    rfl
  | finite negative m =>
    rw [finite_place, Option.some.injEq] at place
    obtain ⟨rfl, zero⟩ := signed_eq place
    change mul (finite negative m) (infinite false) = _
    rw [mul]
    split
    · rfl
    · rename_i something
      cases negative with
      | true => exact absurd (zero rfl) something
      | false => rfl

theorem infinite_mul {x : Binary64} {n : Nat} (place : x.place? = some (n : Int)) :
    infinite false * x = if n = 0 then nan else infinite false := by
  rw [← mul_infinite place]
  cases x with
  | nan => rfl
  | infinite negative =>
    obtain ⟨rfl, _⟩ := infinite_of_place place
    rfl
  | finite negative m =>
    change mul (infinite false) (finite negative m) = mul (finite negative m) (infinite false)
    rw [mul, mul]
    cases negative <;> rfl

theorem mul_notNegative {x y : Binary64} (left : x.NotNegative) (right : y.NotNegative) :
    (x * y).NotNegative := by
  rcases left with rfl | ⟨a, place⟩
  · exact .inl (nan_mul y)
  rcases right with rfl | ⟨b, place'⟩
  · exact .inl (mul_nan x)
  have either : ∀ {n : Nat} {z : Binary64}, z = (if n = 0 then nan else infinite false) →
      z.NotNegative := by
    intro n z equal
    rw [equal]
    split
    · exact .inl rfl
    · exact .inr ⟨_, infinite_false_place⟩
  cases x with
  | nan => cases place
  | infinite negative =>
    obtain ⟨rfl, _⟩ := infinite_of_place place
    exact either (infinite_mul place')
  | finite negative m =>
    cases y with
    | nan => cases place'
    | infinite negative' =>
      obtain ⟨rfl, _⟩ := infinite_of_place place'
      exact either (mul_infinite place)
    | finite negative' k =>
      have inside := inside_of_isFinite place rfl
      have inside' := inside_of_isFinite place' rfl
      rw [Int.natAbs_natCast] at inside inside'
      exact .inr ⟨_, mul_place place place' inside inside'⟩

theorem powAux_zero (r x : Binary64) : powAux r x 0 = r := by
  rw [powAux]
  rfl

theorem powAux_one (r x : Binary64) : powAux r x 1 = r * x := by
  rw [powAux]
  rfl

theorem powAux_halved (r x : Binary64) {n : Nat} (two : 2 ≤ n) :
    powAux r x n = powAux (if n % 2 = 1 then r * x else r) (x * x) (n / 2) := by
  rw [powAux, if_neg (by omega)]

/-- What holds of the factor and the product so far, and is kept by products, holds of the power. -/
theorem powAux_rule {P : Binary64 → Prop} (product : ∀ {a b}, P a → P b → P (a * b))
    {r x : Binary64} (n : Nat) (left : P r) (right : P x) : P (powAux r x n) := by
  induction n using Nat.strongRecOn generalizing r x with
  | ind n ih =>
    match n with
    | 0 =>
      rw [powAux_zero]
      exact left
    | 1 =>
      rw [powAux_one]
      exact product left right
    | n + 2 =>
      rw [powAux_halved r x (by omega)]
      refine ih _ (by omega) ?_ (product right right)
      split
      · exact product left right
      · exact left

theorem one_notNegative : (1 : Binary64).NotNegative := .inr ⟨_, one_place⟩

theorem pow_notNegative {x : Binary64} (base : x.NotNegative) (n : Nat) : (x.pow n).NotNegative :=
  powAux_rule mul_notNegative n one_notNegative base

end Courier.Binary64
