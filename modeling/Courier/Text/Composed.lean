import Courier.Text.Composites
import Courier.Text.Mark

/-!
One form for texts that look and mean the same. Every character is taken apart, the marks are put in
the order of their classes, and what can be one character becomes one again.
-/

namespace Courier.Text

/-! ### Syllables of two or three letters are numbered through -/

def firstSyllable : Nat := 0xac00
def firstLead : Nat := 0x1100
def firstVowel : Nat := 0x1161

/-- One before the first letter that can close a syllable. -/
def noTail : Nat := 0x11a7

def leads : Nat := 19
def vowels : Nat := 21
def tails : Nat := 28

def syllableParts? (c : Char) : Option (List Char) :=
  let n := c.toNat - firstSyllable
  if firstSyllable ≤ c.toNat ∧ n < leads * vowels * tails then
    let pair := [firstLead + n / (vowels * tails), firstVowel + n / tails % vowels].map Char.ofNat
    some (if n % tails = 0 then pair else pair ++ [Char.ofNat (noTail + n % tails)])
  else none

/-- The syllable of a lead and a vowel, or of an open syllable and a tail. -/
def syllable? (a b : Char) : Option Char :=
  let lead := a.toNat - firstLead
  let vowel := b.toNat - firstVowel
  let start := a.toNat - firstSyllable
  let tail := b.toNat - noTail
  if firstLead ≤ a.toNat ∧ lead < leads ∧ firstVowel ≤ b.toNat ∧ vowel < vowels then
    some (Char.ofNat (firstSyllable + (lead * vowels + vowel) * tails))
  else if firstSyllable ≤ a.toNat ∧ start < leads * vowels * tails ∧ start % tails = 0
      ∧ noTail < b.toNat ∧ tail < tails then
    some (Char.ofNat (a.toNat + tail))
  else none

/-! ### Apart and together -/

def parts? (c : Char) : Option (List Char) :=
  (syllableParts? c).or ((composites.image? c).or (equivalents.image? c))

/-- Takes a character apart, and its parts in turn as often as `depth` says. -/
def takenApart : Nat → Char → List Char
  | 0, c => [c]
  | depth + 1, c =>
    match parts? c with
    | none => [c]
    | some cs => cs.flatMap (takenApart depth)

/-- The parts of a character that have no parts. No character needs more than three rounds. -/
def atoms (c : Char) : List Char := takenApart 3 c

/-- Puts a character before others. A mark goes past the marks of lower classes. -/
def putBefore (c : Char) : List Char → List Char
  | [] => [c]
  | d :: rest =>
    if 0 < markClass d ∧ markClass d < markClass c then d :: putBefore c rest else c :: d :: rest

/-- Marks that follow each other are in the order of their classes; those of one class stay in the
order that they have. -/
def inOrder (cs : List Char) : List Char := cs.foldr putBefore []

def composite? (a b : Char) : Option Char := (syllable? a b).or (composites.preimage? [a, b])

/-- Joins a character with what follows. It reaches past the marks that it keeps, as long as they are
of lower classes. -/
def joinedFrom (base : Char) (kept : List Char) : List Char → List Char
  | [] => base :: kept
  | c :: rest =>
    let reached := kept.getLast?.all fun mark => markClass mark < markClass c
    match if reached then composite? base c else none with
    | some joined => joinedFrom joined kept rest
    | none =>
      if markClass c = 0 then base :: kept ++ joinedFrom c [] rest
      else joinedFrom base (kept ++ [c]) rest

def joined : List Char → List Char
  | [] => []
  | c :: rest => joinedFrom c [] rest

/-- The one form of a text. -/
def composed (cs : List Char) : List Char := joined (inOrder (cs.flatMap atoms))

end Courier.Text
