import Courier.Url.Percent

/-!
Numeric hosts: addresses of four octets and of eight groups of four hexadecimal digits.
-/

namespace Courier.Url

def digitValue? (base : Nat) (c : Char) : Option Nat := (hexDigit? c).filter (· < base)

def numberIn? (base : Nat) (ds : List Char) : Option Nat :=
  ds.foldlM (fun n d => (digitValue? base d).map (base * n + ·)) 0

/-- A number of a four-octet address: hexadecimal after 0x, octal after 0. -/
def addressNumber? (cs : List Char) : Option Nat :=
  match cs with
  | [] => none
  | '0' :: 'x' :: r => numberIn? 16 r
  | '0' :: 'X' :: r => numberIn? 16 r
  | '0' :: d :: r => numberIn? 8 (d :: r)
  | cs => numberIn? 10 cs

/-- The parts of a dotted name. A point at the end adds none. -/
def dotted (cs : List Char) : List (List Char) :=
  let ps := pieces (· = '.') cs
  if ps.getLast? = some [] ∧ 1 < ps.length then ps.dropLast else ps

/-- Whether a name has to be read as a four-octet address. -/
def endsInNumber (cs : List Char) : Bool :=
  match (dotted cs).getLast? with
  | some p => !p.isEmpty && (p.all Char.isDigit || (addressNumber? p).isSome)
  | none => false

/-- The address as one number. The last part fills all octets that are left. -/
def address4? (cs : List Char) : Option Nat := do
  let parts := dotted cs
  if 4 < parts.length then none
  else
    let ns ← parts.mapM addressNumber?
    let last ← ns.getLast?
    let first := ns.dropLast
    let room := Nat.pow 256 (4 - first.length)
    if last < room ∧ first.all (· < 256) then
      some (first.foldl (fun n octet => 256 * n + octet) 0 * room + last)
    else none

def decimalText (n : Nat) : List Char := Nat.toDigits 10 n

def address4Text (n : Nat) : List Char :=
  List.intercalate ['.'] ([n / 16777216, n / 65536 % 256, n / 256 % 256, n % 256].map decimalText)

/-- A decimal octet without leading zeros. -/
def octet? (cs : List Char) : Option Nat := do
  if cs.isEmpty ∨ (cs.head? = some '0' ∧ 1 < cs.length) then none
  else (numberIn? 10 cs).filter (· < 256)

/-- One group, or two of them written as four decimal octets. -/
def groups? (cs : List Char) : Option (List Nat) :=
  if cs.contains '.' then
    match (pieces (· = '.') cs).mapM octet? with
    | some [a, b, c, d] => some [256 * a + b, 256 * c + d]
    | _ => none
  else if cs.isEmpty ∨ 4 < cs.length then none
  else (numberIn? 16 cs).map fun n => [n]

/-- Groups with colons between them. Decimal octets can only come last. -/
def groupList? (cs : List Char) : Option (List Nat) :=
  if cs.isEmpty then some []
  else
    let ps := pieces (· = ':') cs
    if ps.dropLast.any fun p => p.contains '.' then none else (ps.mapM groups?).map List.flatten

/-- The parts before and after the first double colon. -/
def cutDouble? : List Char → Option (List Char × List Char)
  | ':' :: ':' :: r => some ([], r)
  | c :: r => (cutDouble? r).map fun (a, b) => (c :: a, b)
  | [] => none

/-- The eight groups of an address. A double colon stands for at least one group of zero. -/
def address6? (cs : List Char) : Option (List Nat) :=
  match cutDouble? cs with
  | none => (groupList? cs).filter (·.length = 8)
  | some (a, b) => do
    if a.contains '.' then none
    else
      let before ← groupList? a
      let after ← groupList? b
      let n := before.length + after.length
      if n < 8 then some (before ++ List.replicate (8 - n) 0 ++ after) else none

/-- Where the first longest run of at least two zero groups starts, and its length. -/
def longestZeros (gs : List Nat) : Option (Nat × Nat) :=
  (List.range 8).foldl (fun best i =>
    let n := ((gs.drop i).takeWhile (· = 0)).length
    if 2 ≤ n ∧ best.all (fun b => b.2 < n) then some (i, n) else best) none

def groupText (n : Nat) : List Char := Nat.toDigits 16 n

def address6Text (gs : List Nat) : List Char :=
  let joined (gs : List Nat) : List Char := List.intercalate [':'] (gs.map groupText)
  match longestZeros gs with
  | none => joined gs
  | some (i, n) => joined (gs.take i) ++ [':', ':'] ++ joined (gs.drop (i + n))

end Courier.Url
