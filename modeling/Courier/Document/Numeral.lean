import Courier.Binary64.Reading

/-!
Numbers as JSON writes them, and the values they stand for. A whole number of 64 bits keeps its
value. Any other number becomes binary64 in few roundings: the leading digits that fit in 64 bits,
then one product or quotient with a power of ten. So it can miss the nearest number by a last bit.
-/

namespace Courier.Document

/-- The parts of a written number: digits only, without point, sign and exponent mark. -/
structure Numeral where
  negative : Bool
  whole : List Char
  fraction : List Char
  /-- Whether the exponent is negative, and its digits. -/
  exponent : Option (Bool × List Char)
  deriving DecidableEq

inductive Number
  | whole (n : Int)
  | real (x : Binary64)
  deriving DecidableEq

namespace Numeral

/-- Takes digits for as long as the value fits in 64 bits, and returns those that are left. -/
def absorb (n : Nat) : List Char → Nat × List Char
  | [] => (n, [])
  | d :: ds =>
    let m := 10 * n + (d.toNat - 48)
    if m < UInt64.size then absorb m ds else (n, d :: ds)

def decade (n : Nat) : Binary64 := .ofNat (tenTo n)

/-- Division by a power of ten; powers that are no binary64 number go in parts. -/
def shrink (x : Binary64) (n : Nat) : Binary64 :=
  if n ≤ 308 then x / decade n
  else if x.same 0 then x
  else shrink (x / decade 308) (n - 308)
  termination_by n

/-- Multiplication by a power of ten, refused if the result is not finite. -/
def grow? (x : Binary64) (n : Nat) : Option Binary64 :=
  if x.same 0 then some x
  else if 308 < n then none
  else if (x * decade n).isFinite then some (x * decade n) else none

def exponentValue (x : Numeral) : Int :=
  match x.exponent with
  | none => 0
  | some (negative, ds) => Binary64.signed negative (Binary64.valueOf ds)

/-- The size of a number that is not whole or too long. Digits of the whole part that do not fit
count as zeros, those of the fraction not at all. -/
def size? (x : Numeral) : Option Binary64 :=
  let (n, left) := absorb 0 x.whole
  let (n, dropped) := absorb n x.fraction
  let kept := x.fraction.length - dropped.length
  let e : Int := x.exponentValue + left.length - kept
  if 0 ≤ e then grow? (.ofNat n) e.toNat else some (shrink (.ofNat n) (-e).toNat)

/-- The value, unless it is beyond the finite numbers. A negative zero is not whole. -/
def value? (x : Numeral) : Option Number :=
  let (n, left) := absorb 0 x.whole
  if left.isEmpty && x.fraction.isEmpty && x.exponent.isNone then
    if !x.negative then some (.whole n)
    else if 0 < n && n ≤ twoTo 63 then some (.whole (-n))
    else some (.real (-(.ofNat n)))
  else x.size?.map fun y => .real (if x.negative then -y else y)

end Numeral

end Courier.Document
