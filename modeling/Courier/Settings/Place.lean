import Courier.Document.Value

/-!
Places in a table of settings, written as names with points between them, and how a source sets
what stands at a place.
-/

namespace Courier.Settings

open Document

/-- One step down: to an entry of a table, or to an item of a list, counted from its end if
negative. -/
inductive Step
  | key (name : String)
  | item (position : Int)
  deriving DecidableEq

structure Place where
  top : String
  steps : List Step
  deriving DecidableEq

namespace Place

def isNameChar (c : Char) : Bool := c.isAlphanum || c = '_' || c = '-'

def name? (cs : List Char) : Option (String × List Char) :=
  let s := cs.takeWhile isNameChar
  if s.isEmpty then none else some (String.ofList s, cs.dropWhile isNameChar)

def skipBlanks (cs : List Char) : List Char := cs.dropWhile fun c => c = ' ' || c = '\t'

/-- A position that fits in a signed word, with blanks around it. -/
def position? (cs : List Char) : Option (Int × List Char) := do
  let (negative, cs) := match skipBlanks cs with
    | '-' :: r => (true, r)
    | r => (false, r)
  let ds := cs.takeWhile Char.isDigit
  let n := Binary64.signed negative (Binary64.valueOf ds)
  if ds.isEmpty ∨ n < -(twoTo 63 : Int) ∨ (twoTo 63 : Int) ≤ n then none
  else some (n, skipBlanks (cs.dropWhile Char.isDigit))

/-- Each step takes at least two characters. -/
def steps? : Nat → List Char → Option (List Step)
  | _, [] => some []
  | 0, _ => none
  | bound + 1, '.' :: r => do
    let (k, r) ← name? r
    (steps? bound r).map (.key k :: ·)
  | bound + 1, '[' :: r => do
    let (i, r) ← position? r
    match r with
    | ']' :: r => (steps? bound r).map (.item i :: ·)
    | _ => none
  | _, _ => none

/-- The place that a text names. A text that is no path names an entry of the whole table. -/
def ofText (s : String) : Place :=
  let path : Option Place := do
    let (top, r) ← name? s.toList
    some ⟨top, ← steps? r.length r⟩
  path.getD ⟨s, []⟩

end Place

/-- Makes room for an item: a list grows at its end, or at its front for a position before it. -/
def roomFor (position : Int) (xs : List Value) : List Value × Nat :=
  let i := if position < 0 then position + xs.length else position
  if i < 0 then (List.replicate i.natAbs .null ++ xs, 0)
  else (xs ++ List.replicate (i.toNat + 1 - xs.length) .null, i.toNat)

/-- The value with another one laid over what stands at the end of the steps. Whatever stands in the
way is replaced. -/
def setBelow (new : Value) : List Step → Value → Value
  | [], v => v.overlay new
  | .key k :: steps, v =>
    .table (v.entries.put k (setBelow new steps ((v.entries.get? k).getD .null)))
  | .item p :: steps, v =>
    let (xs, i) := roomFor p v.items
    .list (xs.set i (setBelow new steps (xs.getD i .null)))

def setAt (new : Value) (p : Place) (root : Entries) : Entries :=
  root.put p.top (setBelow new p.steps ((root.get? p.top).getD .null))

/-- Lays a source over the table: each of its entries names a place. -/
def addSource (root source : Entries) : Entries :=
  source.foldl (fun root e => setAt e.2 (.ofText e.1) root) root

end Courier.Settings
