import Courier.Binary64

/-!
Reading a decimal: an optional sign, then digits with an optional point and exponent, or one of the
words for infinity and not a number in any case. The result is the nearest number; a size beyond
the grid reads as infinite.
-/

namespace Courier.Binary64

def lowered (cs : List Char) : String := String.ofList (cs.map Char.toLower)

def valueOf (ds : List Char) : Nat := ds.foldl (fun n c => 10 * n + (c.toNat - 48)) 0

/-- The digits after an exponent mark, with an optional sign. -/
def exponent? : List Char → Option Int
  | '-' :: ds => if !ds.isEmpty && ds.all Char.isDigit then some (-(valueOf ds : Int)) else none
  | '+' :: ds => if !ds.isEmpty && ds.all Char.isDigit then some (valueOf ds) else none
  | ds => if !ds.isEmpty && ds.all Char.isDigit then some (valueOf ds) else none

/-- `digits` times ten to the `e`. Sizes far outside the grid are settled before any large power is
formed. -/
def ofDecimal (negative : Bool) (digits : Nat) (e : Int) : Binary64 :=
  let place := ((Nat.toDigits 10 digits).length : Int) + e
  if digits = 0 then round negative 0 1
  else if 400 < place then infinite negative
  else if place < -400 then round negative 0 1
  else ofRatio negative (digits * tenTo e.toNat) (tenTo (-e).toNat)

/-- Digits with at most one point among them and at least one digit in all. -/
def ofPlain? (negative : Bool) (cs : List Char) : Option Binary64 :=
  let whole := cs.takeWhile Char.isDigit
  let (fraction, tail) := match cs.dropWhile Char.isDigit with
    | '.' :: r => (r.takeWhile Char.isDigit, r.dropWhile Char.isDigit)
    | r => ([], r)
  if whole.isEmpty && fraction.isEmpty then none
  else
    let digits := valueOf (whole ++ fraction)
    match tail with
    | [] => some (ofDecimal negative digits (-(fraction.length : Int)))
    | c :: r =>
      if c = 'e' ∨ c = 'E' then
        (exponent? r).map fun e => ofDecimal negative digits (e - fraction.length)
      else none

def ofUnsigned? (negative : Bool) (cs : List Char) : Option Binary64 :=
  let word := lowered cs
  if word = "inf" ∨ word = "infinity" then some (infinite negative)
  else if word = "nan" then some nan
  else ofPlain? negative cs

def ofText? (s : String) : Option Binary64 :=
  match s.toList with
  | '-' :: cs => ofUnsigned? true cs
  | '+' :: cs => ofUnsigned? false cs
  | cs => ofUnsigned? false cs

end Courier.Binary64
