import Courier.Text.Composed
import Courier.Text.Direction
import Courier.Text.Joining
import Courier.Url.Folding
import Courier.Url.Percent
import Courier.Url.Punycode

/-!
Names of hosts in all scripts. A name is folded and composed, its labels between the points keep the
rules for marks, joiners and directions, and every label with letters beyond ASCII is written in ASCII
letters after `xn--`.
-/

namespace Courier.Url

open Courier.Text

/-- Characters that no host can hold. -/
def isForbidden (c : Char) : Bool :=
  "\x00\t\n\r #/:<>?@[\\]^|".toList.contains c

/-- Characters that no name of a host can hold. -/
def isForbiddenInName (c : Char) : Bool := isForbidden c || c < ' ' || c = '%' || c = '\x7f'

def isAscii (c : Char) : Bool := c.toNat < 128

/-! ### What a label stands for -/

/-- The one form of a name, as its characters are read. -/
def foldedName? (cs : List Char) : Option (List Char) := do
  let folded ← cs.mapM folded?
  let cs := folded.flatten
  some (if cs.all isAscii then cs else composed cs)

/-- The letters of a label. What stands after `xn--` is in ASCII letters, and has to stand for a label
that is folded and composed already and has a letter beyond ASCII. -/
def letters? (label : List Char) : Option (List Char) :=
  match label with
  | 'x' :: 'n' :: '-' :: '-' :: code => do
    let cs ← if code.all isAscii && code.length ≤ 2000 then Punycode.decode? code else none
    if foldedName? cs = some cs && cs.any (!isAscii ·) then some cs else none
  | _ => some label

/-! ### Joiners -/

/-- May a joiner stand here? It may after a virama, and one that parts letters also where the letters
around it would join. -/
def mayJoin (before : List Char) (c : Char) (after : List Char) : Bool :=
  before.head?.any isVirama ||
    (c = '\u200c' && meets joiningNext before && meets joiningLast after)

/-- The rule for joiners in what follows some characters, the last of which comes first. -/
def keepsJoiners (before : List Char) : List Char → Bool
  | [] => true
  | c :: rest =>
    ((c ≠ '\u200c' && c ≠ '\u200d') || mayJoin before c rest) && keepsJoiners (c :: before) rest

/-! ### Directions -/

inductive Direction
  | left
  | right
  | arabicNumber
  | europeanNumber
  | dependent
  | neutral
  deriving DecidableEq

def direction (c : Char) : Direction :=
  if rightward.contains c then .right
  else if arabicNumbers.contains c then .arabicNumber
  else if europeanNumbers.contains c then .europeanNumber
  else if dependents.contains c then .dependent
  else if neutrals.contains c then .neutral
  else .left

/-- Does a character make the rules for directions apply to the whole name? -/
def turns (c : Char) : Bool :=
  '\u0590' ≤ c && (direction c = .right || direction c = .arabicNumber)

/-- What may stand in a label after its first character, and what may stand at its end, apart from
marks. Numbers of both kinds do not go together. -/
def keepsDirection (label : List Char) : Bool :=
  match label.map direction with
  | [] => true
  | .left :: ds =>
    let ds := (ds.reverse.dropWhile (· = .dependent)).reverse
    ds.all (fun d => d ≠ .right && d ≠ .arabicNumber) &&
      ds.getLast?.all [.left, .europeanNumber].contains
  | .right :: ds =>
    let ds := (ds.reverse.dropWhile (· = .dependent)).reverse
    ds.all (· ≠ .left) && ds.getLast?.all [.right, .europeanNumber, .arabicNumber].contains &&
      !(ds.contains .europeanNumber && ds.contains .arabicNumber)
  | _ => false

/-! ### Whole names -/

/-- The rules for one label. -/
def keepsRules (label : List Char) : Bool :=
  label.all isAscii ||
    (!label.head?.any isMark && keepsJoiners [] label && label.length ≤ 1000)

def asciiLabel (label : List Char) : List Char :=
  if label.all isAscii then label else ['x', 'n', '-', '-'] ++ Punycode.encode label

/-- A name in small ASCII letters, if it is one. -/
def asciiName? (cs : List Char) : Option (List Char) := do
  let name ← foldedName? cs
  if name.any isForbiddenInName then none
  else
    let labels ← (pieces (· = '.') name).mapM letters?
    if labels.all keepsRules && (labels.all keepsDirection || !labels.any (·.any turns)) then
      some (['.'].intercalate (labels.map asciiLabel))
    else none

end Courier.Url
