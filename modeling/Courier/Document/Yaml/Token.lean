import Courier.Document.Yaml.Name
import Courier.Document.Yaml.Scalar

/-!
YAML text as tokens. Indentation becomes marks for the start and end of blocks. Where a key could
start is only known to be one when its colon comes, so such places are remembered, and the mark of a
key is put in afterwards.
-/

namespace Courier.Document.Yaml

inductive Token
  | streamEnd
  | directive (d : Directive)
  | documentStart
  | documentEnd
  | blockSequenceStart
  | blockMappingStart
  | blockEnd
  | blockEntry
  | flowSequenceStart
  | flowSequenceEnd
  | flowMappingStart
  | flowMappingEnd
  | flowEntry
  | key
  | value
  | alias (name : String)
  | anchor (name : String)
  | tag (t : Tag)
  | scalar (plain : Bool) (text : String)
  deriving DecidableEq

/-- A place where a key may have started, and the number of the token there. -/
structure KeyStart where
  possible : Bool
  /-- Nothing but a key can stand there. -/
  required : Bool
  token : Nat
  line : Nat
  column : Nat
  index : Nat

namespace KeyStart

def none : KeyStart := ⟨false, false, 0, 0, 0, 0⟩

def past (k : KeyStart) : KeyStart := { k with possible := false }

end KeyStart

/-- An open indentation. One that is not of a block only keeps its content to the right of it. -/
structure Indentation where
  column : Int
  block : Bool

structure Lexer where
  place : Cursor
  tokens : Array Token
  /-- One for each open flow collection and one outside of all, innermost first. -/
  keys : List KeyStart
  /-- A key without a mark may start here. -/
  keyAllowed : Bool
  /-- Innermost first. -/
  indentations : List Indentation
  /-- Where a colon ends a key though nothing separates it from the value. -/
  adjacent : Nat
  /-- Pairs in flow collections belong to a mapping that has been opened. -/
  mappingOpen : Bool
  /-- For each open flow sequence, innermost first: is it in a pair of its own? -/
  pairs : List Bool

namespace Lexer

def start (text : List Char) : Lexer :=
  ⟨.start text, #[], [.none], true, [], 0, false, []⟩

def flowLevel (s : Lexer) : Nat := s.keys.length - 1

def inFlow (s : Lexer) : Bool := s.flowLevel ≠ 0

/-- The column of the innermost indentation. -/
def column (s : Lexer) : Int :=
  match s.indentations with
  | i :: _ => i.column
  | [] => -1

def push (s : Lexer) (t : Token) : Lexer := { s with tokens := s.tokens.push t }

def insertAt (s : Lexer) (i : Nat) (t : Token) : Lexer :=
  { s with tokens := s.tokens.insertIdxIfInBounds i t }

def moveTo (s : Lexer) (c : Cursor) : Lexer := { s with place := c }

/-! ### Indentation -/

/-- Ends the blocks that are indented deeper. -/
def endBlocks (column : Int) (s : Lexer) : Lexer :=
  if s.inFlow then s
  else
    let gone := s.indentations.takeWhile fun i => column < i.column
    { s with
      indentations := s.indentations.drop gone.length
      tokens := s.tokens ++ ((gone.filter (·.block)).map fun _ => Token.blockEnd) }

/-- Opens a block at a column that is deeper than the innermost one. Its mark goes before the token
of that number, or to the end. -/
def openBlock (column : Int) (number : Option Nat) (t : Token) (s : Lexer) : Lexer :=
  if s.inFlow then s
  else
    let indentations := match s.indentations with
      | i :: rest => if !i.block && i.column ≤ column then rest else i :: rest
      | [] => []
    let s := { s with indentations := indentations }
    if s.column < column then
      let s := { s with indentations := ⟨column, true⟩ :: s.indentations }
      match number with
      | some i => s.insertAt i t
      | none => s.push t
    else s

/-- What follows has to stand to the right of the block's column. -/
def indentContent (s : Lexer) : Lexer :=
  match s.indentations with
  | i :: rest =>
    if !s.inFlow && i.block then { s with indentations := ⟨i.column + 1, false⟩ :: i :: rest } else s
  | [] => s

def dropContentIndent (s : Lexer) : Lexer :=
  { s with indentations := s.indentations.dropWhile fun i => !i.block }

/-! ### Keys -/

def setKey (k : KeyStart) (s : Lexer) : Lexer := { s with keys := k :: s.keys.drop 1 }

def allowKey (allowed : Bool) (s : Lexer) : Lexer := { s with keyAllowed := allowed }

/-- A key may start here. -/
def noteKey (s : Lexer) : Lexer :=
  if s.keyAllowed then
    let block := s.indentations.head?.any (·.block)
    let c := s.place
    s.setKey ⟨true, !s.inFlow && s.column = c.column && block, s.tokens.size, c.line, c.column,
      c.index⟩
  else s

/-- No key has started; refused where there has to be one. -/
def forgetKey? (s : Lexer) : Option Lexer :=
  match s.keys with
  | k :: rest =>
    if k.possible && k.required then none
    else some { s with keys := k.past :: rest }
  | [] => some s

/-- Outside of flow collections a key is on one line and not too long. -/
def keyLimit : Nat := 1024

def expireKey? (s : Lexer) : Option Lexer :=
  match s.keys with
  | [k] =>
    if k.possible && (k.line < s.place.line || k.index + keyLimit < s.place.index) then s.forgetKey?
    else some s
  | _ => some s

/-! ### Single tokens -/

/-- Moves over blanks, comments and line ends. In blocks a line end allows a key, and a tab must not
stand in the indentation of a line with text. -/
def toNext? (s : Lexer) : Nat → Option Lexer
  | 0 => none
  | bound + 1 =>
    let c := s.place
    match c.next? with
    | some d =>
      if d = '\t' && !s.indentations.isEmpty && c.fresh && c.column < s.column then
        match c.gap? with
        | some (_, c) => if endsLine c.next? then (s.moveTo c).toNext? bound else none
        | none => none
      else if isBlank d then (s.moveTo (c.skip 1)).toNext? bound
      else if isBreak d then
        ({ s.moveTo c.lineEnd with keyAllowed := s.keyAllowed || !s.inFlow }).toNext? bound
      else if d = '#' then (s.moveTo c.passLine).toNext? bound
      else some s
    | none => some s

/-- A mark of one character, with the gap after it. -/
def mark? (t : Token) (s : Lexer) : Option Lexer := do
  let (_, c) ← (s.place.pass 1).gap?
  some ((s.moveTo c).push t)

/-- How deep flow collections can be nested. -/
def flowLimit : Nat := 255

def openFlow? (t : Token) (s : Lexer) : Option Lexer :=
  let s := s.noteKey.indentContent
  if flowLimit ≤ s.flowLevel then none
  else
    let s := { s with keys := .none :: s.keys, keyAllowed := true }
    let s := if t = .flowMappingStart then { s with mappingOpen := true }
      else { s with pairs := false :: s.pairs }
    s.mark? t

/-- Ends a pair that is a mapping of its own. -/
def endPair (s : Lexer) : Lexer :=
  match s.pairs with
  | true :: rest => { s with pairs := false :: rest, mappingOpen := false }.push .flowMappingEnd
  | _ => s

def closeFlow? (t : Token) (s : Lexer) : Option Lexer := do
  let s ← s.forgetKey?
  let s := { s with keys := if s.inFlow then s.keys.drop 1 else s.keys, keyAllowed := false }
  let s := if t = .flowSequenceEnd then { s.endPair with pairs := s.pairs.drop 1 } else s
  let s ← s.mark? t
  some (if s.inFlow then { s with adjacent := s.place.index } else s)

def flowEntry? (s : Lexer) : Option Lexer := do
  ((← s.forgetKey?).allowKey true).endPair.mark? .flowEntry

/-- The dash of a sequence's item. -/
def blockEntry? (s : Lexer) : Option Lexer :=
  if s.inFlow || !s.keyAllowed then none
  else do
    let column := s.place.column
    let s := s.moveTo (s.place.pass 1)
    let s := s.openBlock column none .blockSequenceStart
    let (blanks, c) ← s.place.gap?
    if blanks.contains '\t' && c.next? = some '-' && endsWord c.second? then none
    else
      let s := s.moveTo c
      let s := if c.next?.any fun d => isBreak d || isFlowMark d then s.indentContent else s
      some (((← s.forgetKey?).allowKey true).push .blockEntry)

/-- Blanks, comments and line ends after the mark of a key; one of them is needed. -/
def keyGap? (s : Lexer) (found : Bool) : Nat → Option Lexer
  | 0 => none
  | bound + 1 =>
    match s.place.next? with
    | some ' ' => (s.moveTo (s.place.skip 1)).keyGap? true bound
    | some '#' => (s.moveTo s.place.passLine).keyGap? found bound
    | some d =>
      if isBreak d then
        ({ s.moveTo s.place.lineEnd with keyAllowed := s.keyAllowed || !s.inFlow }).keyGap? true bound
      else if found && d ≠ '\t' then some s
      else none
    | none => if found then some s else none

/-- The mark of a key. -/
def key? (s : Lexer) : Option Lexer := do
  let s ←
    if s.inFlow then some { s with mappingOpen := true }
    else if s.keyAllowed then some (s.openBlock s.place.column none .blockMappingStart)
    else none
  let s := (← s.forgetKey?).allowKey (!s.inFlow)
  let s ← (s.moveTo (s.place.pass 1)).keyGap? false (s.place.rest.length + 1)
  some (s.push .key)

/-- The colon after a key. A pair in a flow sequence becomes a mapping of its own. -/
def value? (s : Lexer) : Option Lexer := do
  let k := s.keys.headD .none
  let colon := s.place
  let lone := !s.pairs.isEmpty && !s.mappingOpen
  let s := if lone then { s with pairs := true :: s.pairs.drop 1 } else s
  let after := colon.pass 1
  let s ←
    if after.next? = some '\t' then do
      let (blanks, c) ← after.gap?
      if !blanks.contains ' ' && c.next?.any (fun d => d = '-' || isWordChar d) then none
      else some (s.moveTo c)
    else some (s.moveTo after)
  if k.possible then
    if lone && k.line < colon.line then none
    else
      let s := s.insertAt k.token .key
      let s := if lone then s.insertAt k.token .flowMappingStart else s
      let s := (s.openBlock k.column (some k.token) .blockMappingStart).indentContent
      some (((s.setKey k.past).allowKey false).push .value)
  else
    let s := if lone then s.push .flowMappingStart else s
    if !s.inFlow && !s.keyAllowed then none
    else
      let s := (s.openBlock colon.column none .blockMappingStart).indentContent
      some ((s.allowKey (!s.inFlow)).push .value)

/-- An anchor, an alias or a tag can start a key too. -/
def named? (read : Cursor → Option (Token × Cursor)) (s : Lexer) : Option Lexer := do
  let (t, c) ← read s.place
  some (((s.noteKey.allowKey false).moveTo c).push t)

def quotedScalar? (quote : Char) (s : Lexer) : Option Lexer := do
  let s := s.noteKey.allowKey false
  let (text, c) ← quoted? quote s.inFlow s.column s.place
  let s ← (s.moveTo c).toNext? (c.rest.length + 1)
  some ({ s with adjacent := s.place.index }.push (.scalar false (String.ofList text)))

def plainScalar? (s : Lexer) : Option Lexer := do
  let s := (s.noteKey.allowKey false).dropContentIndent
  let (text, c) ← plain? s.inFlow s.column s.place
  some (((s.allowKey c.fresh).moveTo c).push (.scalar true (String.ofList text)))

def blockScalar? (literal : Bool) (s : Lexer) : Option Lexer := do
  let s := (s.noteKey.allowKey true).dropContentIndent
  let (text, c) ← block? literal s.column s.place
  some ((s.moveTo c).push (.scalar false (String.ofList text)))

/-- A directive or the mark of a document ends everything that is open. -/
def endDocument? (s : Lexer) : Option Lexer := do
  some ((← (s.endBlocks (-1)).forgetKey?).allowKey false)

def directive? (s : Lexer) : Option Lexer := do
  let s ← s.endDocument?
  let (d, c) ← Yaml.directive? s.place
  some ((s.moveTo c).push (.directive d))

def documentStart? (s : Lexer) : Option Lexer := do
  let s ← s.endDocument?
  some ((s.moveTo (s.place.pass 3)).push .documentStart)

def documentEnd? (s : Lexer) : Option Lexer := do
  let s ← s.endDocument?
  let (_, c) ← (s.place.pass 3).gap?
  if endsLine c.next? then some ((s.moveTo c).push .documentEnd) else none

def streamEnd? (s : Lexer) : Option Lexer :=
  if s.keys.any fun k => k.possible && k.required then none
  else (endDocument? { s with keys := s.keys.map KeyStart.past }).map (push · .streamEnd)

/-- Does a colon here end a key? -/
def colonEnds (s : Lexer) : Bool :=
  let n := s.place.second?
  endsWord n || (s.inFlow && (n.any isFlowMark || s.place.index = s.adjacent))

/-- The token that starts with a character. -/
def content? (d : Char) (s : Lexer) : Option Lexer :=
  let alone := endsWord s.place.second?
  if d = '[' then s.openFlow? .flowSequenceStart
  else if d = '\x7b' then s.openFlow? .flowMappingStart
  else if d = ']' then s.closeFlow? .flowSequenceEnd
  else if d = '\x7d' then s.closeFlow? .flowMappingEnd
  else if d = ',' then s.flowEntry?
  else if d = '-' && alone then s.blockEntry?
  else if d = '?' && alone then s.key?
  else if d = ':' && s.colonEnds then s.value?
  else if d = '*' then s.named? fun c => (anchorName? c).map fun (n, c) => (.alias n, c)
  else if d = '&' then s.named? fun c => (anchorName? c).map fun (n, c) => (.anchor n, c)
  else if d = '!' then s.named? fun c => (tag? s.inFlow c).map fun (t, c) => (.tag t, c)
  else if d = '|' && !s.inFlow then s.blockScalar? true
  else if d = '>' && !s.inFlow then s.blockScalar? false
  else if d = '\x27' || d = '"' then s.quotedScalar? d
  else if d = '%' || d = '@' || d = '\x60' then none
  else s.plainScalar?

/-- Reads one token, and all that goes with it. -/
def step? (s : Lexer) : Option Lexer := do
  let s ← s.toNext? (s.place.rest.length + 1)
  let s ← s.expireKey?
  let c := s.place
  let s := s.endBlocks c.column
  match c.next? with
  | none => s.streamEnd?
  | some d =>
    if c.column = 0 && d = '%' then s.directive?
    else if c.isMarker '-' then s.documentStart?
    else if c.isMarker '.' then s.documentEnd?
    else if c.column < s.column then none
    else s.content? d

/-- Every token but the last takes at least one character. -/
def run? (s : Lexer) : Nat → Option (List Token)
  | 0 => none
  | bound + 1 =>
    match s.step? with
    | none => none
    | some s => if s.tokens.back? = some .streamEnd then some s.tokens.toList else s.run? bound

end Lexer

def tokens? (text : List Char) : Option (List Token) := (Lexer.start text).run? (text.length + 2)

end Courier.Document.Yaml
