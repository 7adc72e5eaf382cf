import Courier.Power

/-!
Binary64 numbers as exact values. A finite number is a sign and a whole count of units of 2^-1074,
the distance between neighbours near zero; at most 53 of its bits count. Every operation is the
exact one followed by one rounding to the nearest number, ties to even.
-/

namespace Courier

/-- The number of units in one. -/
def unitsPerOne : Nat := twoTo 1074

/-- The first power of two beyond the finite numbers, in units. -/
def overflow : Nat := twoTo 2098

/-- The distance, in units, between the numbers of the binade that holds `units`. -/
def spacing (units : Nat) : Nat := twoTo (units.log2 - 52)

/-- At most 53 bits of the count carry information. -/
def OnGrid (units : Nat) : Prop := units % spacing units = 0

instance (units : Nat) : Decidable (OnGrid units) := inferInstanceAs (Decidable (_ = _))

/-- The quotient rounded to the nearest whole number, an exact half to the even neighbour. -/
def divNearest (num den : Nat) : Nat :=
  let q := num / den
  let twice := 2 * (num % den)
  if den < twice ∨ (twice = den ∧ q % 2 = 1) then q + 1 else q

/-- The quotient of two counts of units rounded to the grid, as if the grid had no end. -/
def gridNearest (num den : Nat) : Nat :=
  let s := spacing (num / den)
  divNearest num (den * s) * s

theorem divNearest_le (num den : Nat) : divNearest num den ≤ num / den + 1 := by
  simp only [divNearest]
  split <;> omega

theorem le_divNearest (num den : Nat) : num / den ≤ divNearest num den := by
  simp only [divNearest]
  split <;> omega

theorem onGrid_of_lt {n : Nat} (h : n < twoTo 53) : OnGrid n := by
  have hs : n.log2 - 52 = 0 := by
    by_cases h0 : n = 0
    · simp [h0]
    · have := (log2_lt_iff h0).2 h
      omega
  have one : twoTo 0 = 1 := rfl
  simp [OnGrid, spacing, hs, one, Nat.mod_one]

/-- A count of at most 53 bits, scaled by a power of two, is on the grid. -/
theorem onGrid_mul_twoTo {m k : Nat} (h : m ≤ twoTo 53) : OnGrid (m * twoTo k) := by
  by_cases h0 : m = 0
  · simp [h0, OnGrid]
  · have hlt : m < twoTo 54 := by
      have e : twoTo 54 = twoTo 53 * 2 := twoTo_succ 53
      have := twoTo_pos 53
      omega
    have hl : m.log2 < 54 := (log2_lt_iff h0).2 hlt
    have hdvd : twoTo ((m * twoTo k).log2 - 52) ∣ m * twoTo k := by
      rw [log2_mul_twoTo h0]
      by_cases hm : m = twoTo 53
      · subst hm
        rw [← twoTo_add]
        apply twoTo_dvd_twoTo
        omega
      · have hl' : m.log2 < 53 := (log2_lt_iff h0).2 (by omega)
        exact Nat.dvd_trans (twoTo_dvd_twoTo (by omega)) (Nat.dvd_mul_left _ _)
    exact Nat.mod_eq_zero_of_dvd hdvd

theorem div_spacing_lt (q : Nat) : q / spacing q < twoTo 53 := by
  by_cases h0 : q = 0
  · simp [h0, twoTo_pos]
  · rw [spacing, Nat.div_lt_iff_lt_mul (twoTo_pos _), ← twoTo_add]
    refine Nat.lt_of_lt_of_le (lt_twoTo_log2 q) (twoTo_le_twoTo ?_)
    omega

theorem onGrid_gridNearest (num den : Nat) : OnGrid (gridNearest num den) := by
  have h : divNearest num (den * spacing (num / den)) ≤ twoTo 53 := by
    refine Nat.le_trans (divNearest_le _ _) ?_
    rw [← Nat.div_div_eq_div_mul]
    exact div_spacing_lt _
  exact onGrid_mul_twoTo h

/-- The size of a finite number, in units. -/
structure Magnitude where
  units : Nat
  onGrid : OnGrid units
  lt_overflow : units < overflow
  deriving DecidableEq

inductive Binary64
  | nan
  | infinite (negative : Bool)
  | finite (negative : Bool) (size : Magnitude)
  deriving DecidableEq

namespace Binary64

/-- The number nearest to the given quotient of counts of units; infinite beyond the grid's end. -/
def round (negative : Bool) (num den : Nat) : Binary64 :=
  if h : gridNearest num den < overflow then
    finite negative ⟨gridNearest num den, onGrid_gridNearest num den, h⟩
  else infinite negative

def ofNat (n : Nat) : Binary64 := round false (n * unitsPerOne) 1

def ofInt (n : Int) : Binary64 := round (decide (n < 0)) (n.natAbs * unitsPerOne) 1

/-- The number nearest to a fraction. -/
def ofRatio (negative : Bool) (num den : Nat) : Binary64 := round negative (num * unitsPerOne) den

instance (n : Nat) : OfNat Binary64 n := ⟨ofNat n⟩

def isNaN : Binary64 → Bool
  | nan => true
  | _ => false

def isFinite : Binary64 → Bool
  | finite .. => true
  | _ => false

def signed (negative : Bool) (n : Nat) : Int := if negative then -(n : Int) else n

/-- The place on the extended line, in units; the infinities stand at the grid's ends. -/
def place? : Binary64 → Option Int
  | nan => none
  | infinite s => some (signed s overflow)
  | finite s m => some (signed s m.units)

/-- Nothing compares with a value that is not a number. -/
def lt (a b : Binary64) : Bool :=
  match a.place?, b.place? with
  | some x, some y => x < y
  | _, _ => false

def le (a b : Binary64) : Bool :=
  match a.place?, b.place? with
  | some x, some y => x ≤ y
  | _, _ => false

/-- Equal as numbers: the two zeros are, a value that is not a number never is. -/
def same (a b : Binary64) : Bool := a.le b && b.le a

def neg : Binary64 → Binary64
  | nan => nan
  | infinite s => infinite (!s)
  | finite s m => finite (!s) m

def add : Binary64 → Binary64 → Binary64
  | nan, _ => nan
  | _, nan => nan
  | infinite s, infinite t => if s = t then infinite s else nan
  | infinite s, finite .. => infinite s
  | finite .., infinite t => infinite t
  | finite s m, finite t n =>
    let sum := signed s m.units + signed t n.units
    -- An exact zero is negative only if both summands are.
    if sum = 0 then round (s && t) 0 1 else round (decide (sum < 0)) sum.natAbs 1

def sub (a b : Binary64) : Binary64 := a.add b.neg

def mul : Binary64 → Binary64 → Binary64
  | nan, _ => nan
  | _, nan => nan
  | infinite s, infinite t => infinite (s != t)
  | infinite s, finite t n => if n.units = 0 then nan else infinite (s != t)
  | finite s m, infinite t => if m.units = 0 then nan else infinite (s != t)
  | finite s m, finite t n => round (s != t) (m.units * n.units) unitsPerOne

def div : Binary64 → Binary64 → Binary64
  | nan, _ => nan
  | _, nan => nan
  | infinite _, infinite _ => nan
  | infinite s, finite t _ => infinite (s != t)
  | finite s _, infinite t => round (s != t) 0 1
  | finite s m, finite t n =>
    if n.units = 0 then (if m.units = 0 then nan else infinite (s != t))
    else round (s != t) (m.units * unitsPerOne) n.units

instance : Add Binary64 := ⟨add⟩
instance : Sub Binary64 := ⟨sub⟩
instance : Mul Binary64 := ⟨mul⟩
instance : Div Binary64 := ⟨div⟩
instance : Neg Binary64 := ⟨neg⟩

/-- The lesser of two; of a number and a value that is none, the number. -/
def min (a b : Binary64) : Binary64 :=
  if a.isNaN then b else if b.isNaN then a else if b.lt a then b else a

/-- The greater of two; of a number and a value that is none, the number. -/
def max (a b : Binary64) : Binary64 :=
  if a.isNaN then b else if b.isNaN then a else if a.lt b then b else a

/-- A value that is not a number stays so. -/
def clamp (x low high : Binary64) : Binary64 :=
  if x.lt low then low else if high.lt x then high else x

/-- The least whole number that is not below. -/
def ceil : Binary64 → Binary64
  | nan => nan
  | infinite s => infinite s
  | finite true m => round true (m.units / unitsPerOne * unitsPerOne) 1
  | finite false m => round false ((m.units + unitsPerOne - 1) / unitsPerOne * unitsPerOne) 1

/-- The whole part as a 64-bit count: below zero and not a number give zero, too large gives the
largest. -/
def toCount : Binary64 → Nat
  | nan => 0
  | infinite true => 0
  | infinite false => UInt64.size - 1
  | finite true _ => 0
  | finite false m => Nat.min (m.units / unitsPerOne) (UInt64.size - 1)

/-- The nearest whole number as a 64-bit count, an exact half counting up; below zero and not a number
give zero, too large gives the largest. -/
def nearestCount : Binary64 → Nat
  | nan => 0
  | infinite true => 0
  | infinite false => UInt64.size - 1
  | finite true _ => 0
  | finite false m => Nat.min ((2 * m.units + unitsPerOne) / (2 * unitsPerOne)) (UInt64.size - 1)

/-- Repeated squaring from the low bit of the exponent up; each product is rounded. -/
def powAux (r x : Binary64) (n : Nat) : Binary64 :=
  if n ≤ 1 then (if n = 1 then r * x else r)
  else powAux (if n % 2 = 1 then r * x else r) (x * x) (n / 2)
  termination_by n

def pow (x : Binary64) (n : Nat) : Binary64 := powAux 1 x n

end Binary64

end Courier
