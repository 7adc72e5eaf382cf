import Courier.Document.Json
import Courier.Document.Yaml.Cursor

/-!
What can be said of a YAML node besides its content: the names of anchors, and tags with their
handles; and the directives that declare handles. Each reader gives its result and the place after it.
-/

namespace Courier.Document.Yaml

def isWordChar (c : Char) : Bool := c.isAlphanum || c = '_' || c = '-'

def isUriChar (c : Char) : Bool :=
  c.isAlphanum || c = '-' || "#;/?:@&=+$,_.!~*\x27()[]%".toList.contains c

def isTagChar (c : Char) : Bool := isUriChar c && !isFlowMark c && c ≠ '!'

def isAnchorChar (c : Char) : Bool :=
  !isBlank c && !isBreak c && !isFlowMark c && c ≠ '\ufeff'

/-- The name after the mark of an anchor or alias. -/
def anchorName? (c : Cursor) : Option (String × Cursor) :=
  let name := (c.pass 1).takeWhile isAnchorChar
  if name.isEmpty then none else some (String.ofList name, c.pass (name.length + 1))

/-- Tag handles start with an exclamation mark, and all but the shortest one end with another. -/
structure Tag where
  handle : String
  suffix : String
  deriving DecidableEq

/-- How many octets a character takes whose first one is this. -/
def octetCount? (first : Nat) : Option Nat :=
  if first < 0x80 then some 1
  else if 0xC0 ≤ first ∧ first < 0xE0 then some 2
  else if 0xE0 ≤ first ∧ first < 0xF0 then some 3
  else if 0xF0 ≤ first ∧ first < 0xF8 then some 4
  else none

def encodedOctet? (c : Cursor) : Option (Nat × Cursor) :=
  match c.rest with
  | '%' :: a :: b :: _ =>
    match Json.hexDigit? a, Json.hexDigit? b with
    | some x, some y => some (16 * x + y, c.pass 3)
    | _, _ => none
  | _ => none

/-- The octets of a character after its first one, put behind it as they are. -/
def moreOctets? (value : Nat) (c : Cursor) : Nat → Option (Nat × Cursor)
  | 0 => some (value, c)
  | count + 1 =>
    match encodedOctet? c with
    | some (b, c) =>
      if 0x80 ≤ b ∧ b < 0xC0 then moreOctets? (256 * value + b) c count else none
    | none => none

/-- A character written in octets after percent signs. -/
def encodedChar? (c : Cursor) : Option (Char × Cursor) := do
  let (first, c) ← encodedOctet? c
  let (value, c) ← moreOctets? first c ((← octetCount? first) - 1)
  if h : value.isValidChar then some (Char.ofNatAux value h, c) else none

/-- Characters of a kind, each as itself or encoded. -/
def uriText? (isPart : Char → Bool) (c : Cursor) : Nat → Option (List Char × Cursor)
  | 0 => none
  | bound + 1 =>
    match c.next? with
    | some d =>
      if !isPart d then some ([], c)
      else
        match if d = '%' then encodedChar? c else some (d, c.pass 1) with
        | some (e, c) => (uriText? isPart c bound).map fun (t, c) => (e :: t, c)
        | none => none
    | none => some ([], c)

/-- A handle as far as it goes: a mark, a word, and another mark if there is one. -/
def handle? (c : Cursor) : Option (List Char × Cursor) :=
  if c.next? ≠ some '!' then none
  else
    let word := (c.pass 1).takeWhile isWordChar
    let c := c.pass (word.length + 1)
    if c.next? = some '!' then some ('!' :: word ++ ['!'], c.pass 1) else some ('!' :: word, c)

def isClosedHandle (h : List Char) : Bool :=
  2 ≤ h.length && h.head? = some '!' && h.getLast? = some '!'

/-- A tag between angle brackets needs no handle. -/
def verbatimTag? (c : Cursor) : Option (Tag × Cursor) := do
  let (uri, c) ← uriText? isUriChar (c.pass 2) (c.rest.length + 1)
  if c.next? = some '>' then some (⟨"", String.ofList uri⟩, c.pass 1) else none

/-- A handle and a suffix. What starts like a handle but is not closed belongs to the suffix; a mark
alone is a tag too. -/
def shortTag? (c : Cursor) : Option (Tag × Cursor) := do
  let (h, c) ← handle? c
  let (uri, after) ← uriText? isTagChar c (c.rest.length + 1)
  if isClosedHandle h then
    if uri.isEmpty then none else some (⟨String.ofList h, String.ofList uri⟩, after)
  else
    let suffix := h.drop 1 ++ uri
    if suffix.isEmpty then some (⟨"", "!"⟩, after) else some (⟨"!", String.ofList suffix⟩, after)

/-- A tag, with a blank or the end of the line after it, or a mark of the collection that it is in. -/
def tag? (flow : Bool) (c : Cursor) : Option (Tag × Cursor) := do
  let (t, after) ← if c.second? = some '<' then verbatimTag? c else shortTag? c
  if endsWord after.next? || (flow && after.next?.any isFlowMark) then some (t, after) else none

inductive Directive
  | version
  | handle (name start : String)
  /-- Of no meaning here. -/
  | other
  deriving DecidableEq

/-- A number of at most nine digits. -/
def versionNumber? (c : Cursor) : Option Cursor :=
  let ds := c.takeWhile Char.isDigit
  if ds.isEmpty ∨ 9 < ds.length then none else some (c.pass ds.length)

def passBlanks (c : Cursor) : Cursor := c.skip (c.takeWhile isBlank).length

def version? (c : Cursor) : Option Cursor := do
  let c ← versionNumber? (passBlanks c)
  if c.next? = some '.' then versionNumber? (c.pass 1) else none

/-- What a handle stands for: it starts with a mark or a tag character. -/
def handleStart? (c : Cursor) : Option (List Char × Cursor) :=
  match c.next? with
  | some '!' =>
    (uriText? isUriChar (c.pass 1) (c.rest.length + 1)).map fun (t, c) => ('!' :: t, c)
  | some d => if isTagChar d then uriText? isUriChar c (c.rest.length + 1) else none
  | none => none

def handleDirective? (c : Cursor) : Option (Directive × Cursor) := do
  let (h, c) ← handle? (passBlanks c)
  if !isClosedHandle h && h ≠ ['!'] then none
  else
    let (start, c) ← handleStart? (passBlanks c)
    if endsWord c.next? then some (.handle (String.ofList h) (String.ofList start), c) else none

/-- A directive takes a line of its own. -/
def directive? (c : Cursor) : Option (Directive × Cursor) := do
  let name := (c.pass 1).takeWhile isWordChar
  let after := c.pass (name.length + 1)
  if name.isEmpty || !endsWord after.next? then none
  else
    let (d, after) ←
      if name = "YAML".toList then (version? after).map fun c => (Directive.version, c)
      else if name = "TAG".toList then handleDirective? after
      else some (.other, after.passLine)
    let (_, after) ← after.gap?
    if endsLine after.next? then some (d, after.lineEnd) else none

end Courier.Document.Yaml
