/-!
Tables of characters, written as words between blanks or line ends, with code points in hexadecimal.
A word is one code point or a range, `41` or `41-5a`, and the words are in increasing order. After a
colon stand the code points that belong to it, with points between them: `bd:31.2044.32`. Those of a
range belong to each of its members, unless a plus sign says that they move along with every so many
members: `41-5a+1:61` sends the capital letters to the small ones, and `100-12e+2:101` sends every
second member to the one after it.
-/

namespace Courier.Text

structure Row where
  first : Nat
  last : Nat
  /-- Zero if all members have the same image. -/
  stride : Nat
  image : List Nat
  deriving DecidableEq

def hexValue (digits : String) : Nat :=
  digits.toList.foldl (fun n c => 16 * n + (if c.isDigit then c.toNat - 48 else c.toNat - 87)) 0

def Row.ofWord (word : String) : Row :=
  let (members, image) := match word.splitOn ":" with
    | [members, image] => (members, image)
    | _ => (word, "")
  let (range, stride) := match members.splitOn "+" with
    | [range, stride] => (range, hexValue stride)
    | _ => (members, 0)
  let image := ((image.splitOn ".").filter fun n => !n.isEmpty).map hexValue
  match range.splitOn "-" with
  | [first, last] => ⟨hexValue first, hexValue last, stride, image⟩
  | _ => ⟨hexValue range, hexValue range, stride, image⟩

/-- What belongs to a code point between the ends of the row. -/
def Row.image? (r : Row) (n : Nat) : Option (List Nat) :=
  let moved := n - r.first
  if r.stride = 0 then some r.image
  else if moved % r.stride = 0 then some (r.image.map (· + moved))
  else none

/-- Rows in increasing order. -/
structure Table where
  rows : Array Row

namespace Table

def ofText (text : String) : Table :=
  let words := (text.splitOn "\n").flatMap (·.splitOn " ")
  ⟨((words.filter fun word => !word.isEmpty).map Row.ofWord).toArray⟩

/-- The row that holds a code point, between two places of the table. -/
def search (t : Table) (n low high : Nat) : Option Row :=
  if low < high then
    let middle := (low + high) / 2
    match t.rows[middle]? with
    | none => none
    | some r =>
      if n < r.first then t.search n low middle
      else if r.last < n then t.search n (middle + 1) high
      else some r
  else none
termination_by high - low
decreasing_by all_goals omega

def numbers? (t : Table) (c : Char) : Option (List Nat) :=
  (t.search c.toNat 0 t.rows.size).bind fun r => r.image? c.toNat

def contains (t : Table) (c : Char) : Bool := (t.numbers? c).isSome

/-- The characters that belong to a character. -/
def image? (t : Table) (c : Char) : Option (List Char) := (t.numbers? c).map (·.map Char.ofNat)

/-- The number that belongs to a character, zero if there is none. -/
def number (t : Table) (c : Char) : Nat := ((t.numbers? c).getD []).headD 0

/-- The first character to which just these characters belong. -/
def preimage? (t : Table) (cs : List Char) : Option Char :=
  (t.rows.find? fun r => r.image = cs.map Char.toNat).map fun r => Char.ofNat r.first

end Table

end Courier.Text
