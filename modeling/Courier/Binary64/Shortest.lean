import Courier.Binary64

/-!
The shortest decimal of a number: the fewest significant digits that are closer to it than to any
other number, and of those the nearest. Two printed forms are built on it, one without an exponent
and one for interchange.
-/

namespace Courier.Binary64

/-- `digits` times ten to the `exponent`. -/
structure Decimal where
  digits : Nat
  exponent : Int
  deriving DecidableEq, Repr

/-- Where two decimals of the same length are equally near: the larger one, or the one with an even
last digit. -/
inductive Tie
  | up
  | even
  deriving DecidableEq

/-- Ten to the `e`, or one if that is a fraction. -/
def scale (e : Int) : Nat := tenTo e.toNat

/-- The distance to the next lower number. -/
def spacingBelow (units : Nat) : Nat :=
  if units = twoTo units.log2 ∧ 53 ≤ units.log2 then spacing units / 2 else spacing units

/-- Reading `k` times ten to the `p` gives back the number of `units`: it lies between the midpoints
to the neighbours, or on one if the number's own last bit is zero. -/
def readsBack (units k : Nat) (p : Int) : Bool :=
  let here := k * scale p * (2 * unitsPerOne)
  let low := (2 * units - spacingBelow units) * scale (-p)
  let high := (2 * units + spacing units) * scale (-p)
  if units / spacing units % 2 = 0 then low ≤ here && here ≤ high else low < here && here < high

/-- The multiple of ten to the `p` that reads back, the nearest if both neighbours do. -/
def onDecade? (tie : Tie) (units : Nat) (p : Int) : Option Nat :=
  let num := units * scale (-p)
  let den := unitsPerOne * scale p
  let k := num / den
  match readsBack units k p, readsBack units (k + 1) p with
  | false, false => none
  | true, false => some k
  | false, true => some (k + 1)
  | true, true =>
    let twice := 2 * (num % den)
    if twice < den then some k
    else if den < twice then some (k + 1)
    else match tie with
      | .up => some (k + 1)
      | .even => some (if k % 2 = 0 then k else k + 1)

/-- The place of the leading decimal digit. -/
def leadingPlace (units : Nat) : Int :=
  ((Nat.toDigits 10 (units * tenTo 400 / unitsPerOne)).length : Int) - 401

/-- Tries `count` digits and more; seventeen always suffice. -/
def searchFrom (tie : Tie) (units : Nat) (count : Nat) : Nat → Decimal
  | 0 => ⟨0, 0⟩
  | more + 1 =>
    let p := leadingPlace units - count + 1
    match onDecade? tie units p with
    | some k => ⟨k, p⟩
    | none => searchFrom tie units (count + 1) more

/-- Moves trailing zeros of the digits into the exponent. -/
def trim (d : Decimal) : Nat → Decimal
  | 0 => d
  | fuel + 1 =>
    if d.digits ≠ 0 ∧ d.digits % 10 = 0 then trim ⟨d.digits / 10, d.exponent + 1⟩ fuel else d

def shortest (tie : Tie) (units : Nat) : Decimal :=
  if units = 0 then ⟨0, 0⟩ else trim (searchFrom tie units 1 18) 20

def zeros (n : Nat) : List Char := List.replicate n '0'

def digitsOf (n : Nat) : List Char := Nat.toDigits 10 n

/-- All digits written out, whatever the exponent; a whole number has no point. -/
def positional (d : Decimal) : List Char :=
  let ds := digitsOf d.digits
  if 0 ≤ d.exponent then (if d.digits = 0 then ds else ds ++ zeros d.exponent.toNat)
  else
    let places := (-d.exponent).toNat
    if places < ds.length then ds.take (ds.length - places) ++ '.' :: ds.drop (ds.length - places)
    else '0' :: '.' :: (zeros (places - ds.length) ++ ds)

def signOf (negative : Bool) : List Char := if negative then ['-'] else []

/-- The form used in messages: never an exponent, no trailing point. -/
def toText : Binary64 → String
  | nan => "NaN"
  | infinite s => String.ofList (signOf s ++ ['i', 'n', 'f'])
  | finite s m => String.ofList (signOf s ++ positional (shortest .up m.units))

/-- The form used in documents: a whole number keeps one decimal, and an exponent is written below
a hundred-thousandth and from ten to the sixteenth on, always with its sign. -/
def toDocument : Binary64 → String
  | nan => "null"
  | infinite _ => "null"
  | finite s m =>
    let d := shortest .even m.units
    let ds := digitsOf d.digits
    let point := d.exponent + ds.length
    let body :=
      if m.units = 0 then ['0', '.', '0']
      else if 0 ≤ d.exponent ∧ point ≤ 16 then positional d ++ ['.', '0']
      else if -5 < point ∧ point ≤ 16 then positional d
      else
        let mantissa := match ds with
          | [c] => [c]
          | c :: rest => c :: '.' :: rest
          | [] => []
        let e := point - 1
        mantissa ++ 'e' :: (if e < 0 then '-' else '+') :: digitsOf e.natAbs
    String.ofList (signOf s ++ body)

end Courier.Binary64
