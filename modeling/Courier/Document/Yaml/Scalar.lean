import Courier.Document.Json
import Courier.Document.Yaml.Cursor

/-!
The texts of YAML scalars: plain, in quotes, and in blocks of lines. Each reader starts where the
scalar does and gives the text and the place after it.

A scalar can go on over several lines. Outside blocks, one line end counts as a blank, and every further
one as itself.
-/

namespace Courier.Document.Yaml

/-- What lines without text add up to: the first line end is folded into a blank. -/
def folded (emptyLines : Nat) : List Char :=
  if emptyLines = 0 then [' '] else List.replicate emptyLines '\n'

/-! ### Plain scalars -/

/-- Does the text go on with a character of a plain scalar? A colon needs something after it. -/
def goesOnPlain (flow : Bool) (c : Cursor) : Bool :=
  match c.next? with
  | some d =>
    if d = ':' ∧ (endsWord c.second? ∨ (flow ∧ c.second?.any isFlowMark)) then false
    else !(flow && isFlowMark d) && !endsWord (some d)
  | none => false

/-- The characters up to the next blank or the scalar's end. -/
def plainWord (flow : Bool) (c : Cursor) : Nat → List Char × Cursor
  | 0 => ([], c)
  | bound + 1 =>
    match c.rest with
    | d :: _ =>
      if goesOnPlain flow c then
        let (w, c) := plainWord flow (c.pass 1) bound
        (d :: w, c)
      else ([], c)
    | [] => ([], c)

/-- The blanks and line ends after a word, and what they count as. `breaks` line ends are passed
already. A tab must not stand in the indentation of a line with text. -/
def plainGap? (indent : Int) (blanks : List Char) (breaks : Nat) (c : Cursor) :
    Nat → Option (List Char × Cursor)
  | 0 => none
  | bound + 1 =>
    match c.next? with
    | none => some (if breaks = 0 then blanks else folded (breaks - 1), c)
    | some d =>
      if isBreak d then plainGap? indent [] (breaks + 1) c.lineEnd bound
      else if !isBlank d then some (if breaks = 0 then blanks else folded (breaks - 1), c)
      else if breaks = 0 then plainGap? indent (blanks ++ [d]) 0 (c.skip 1) bound
      else if d = '\t' && c.column < indent then
        match c.gap? with
        | some (_, c) => if endsLine c.next? then plainGap? indent [] breaks c bound else none
        | none => none
      else plainGap? indent [] breaks (c.skip 1) bound

/-- The words of a plain scalar. Outside of flow collections all its lines are indented. -/
def plainFrom? (flow : Bool) (indent : Int) (before : List Char) (c : Cursor) :
    Nat → Option (List Char × Cursor)
  | 0 => none
  | bound + 1 =>
    if c.isDocumentMarker || c.next? = some '#' then some ([], c)
    else if flow && c.next? = some '-' && c.second?.any isFlowMark then none
    else
      let (word, c) := plainWord flow c c.rest.length
      let text := if word.isEmpty then [] else before ++ word
      if endsWord c.next? && c.next?.isSome then
        match plainGap? indent [] 0 c (c.rest.length + 1) with
        | none => none
        | some (gap, c) =>
          if !flow && c.column < indent then some (text, c)
          else (plainFrom? flow indent gap c bound).map fun (t, c) => (text ++ t, c)
      else some (text, c)

/-- A plain scalar inside a block whose column is `indent`. -/
def plain? (flow : Bool) (indent : Int) (c : Cursor) : Option (List Char × Cursor) :=
  if flow && c.column < indent + 1 then none
  else (plainFrom? flow (indent + 1) [] c (c.rest.length + 1)).filter fun r => !r.1.isEmpty

/-! ### Scalars in quotes -/

def escaped? (c : Char) : Option Char :=
  match c with
  | '0' => some '\x00'
  | 'a' => some '\x07'
  | 'b' => some '\x08'
  | 't' => some '\t'
  | '\t' => some '\t'
  | 'n' => some '\n'
  | 'v' => some '\x0b'
  | 'f' => some '\x0c'
  | 'r' => some '\r'
  | 'e' => some '\x1b'
  | ' ' => some ' '
  | '"' => some '"'
  | '/' => some '/'
  | '\\' => some '\\'
  | 'N' => some '\u0085'
  | '_' => some '\u00a0'
  | 'L' => some '\u2028'
  | 'P' => some '\u2029'
  | _ => none

/-- How many hexadecimal digits follow the letter of an escape. -/
def escapeWidth? (c : Char) : Option Nat :=
  match c with
  | 'x' => some 2
  | 'u' => some 4
  | 'U' => some 8
  | _ => none

def codePoint? (ds : List Char) : Option Char := do
  let n : Nat ← ds.foldlM (fun n d => (Json.hexDigit? d).map (16 * n + ·)) 0
  if h : n.isValidChar then some (Char.ofNatAux n h) else none

/-- The character of an escape, from its letter on. -/
def escape? (c : Cursor) : Option (Char × Cursor) := do
  let letter ← c.next?
  let c := c.pass 1
  match escapeWidth? letter with
  | some n =>
    if c.rest.length < n then none
    else (codePoint? (c.rest.take n)).map fun d => (d, c.pass n)
  | none => (escaped? letter).map fun d => (d, c)

/-- The characters up to a blank, a line end or the closing quote. Tells whether an escaped line end
came last. -/
def quotedWord? (quote : Char) (c : Cursor) : Nat → Option (List Char × Bool × Cursor)
  | 0 => none
  | bound + 1 =>
    match c.rest with
    | [] => some ([], false, c)
    | d :: _ =>
      let add (e : Char) (c : Cursor) : Option (List Char × Bool × Cursor) :=
        (quotedWord? quote c bound).map fun (w, joined, c) => (e :: w, joined, c)
      if endsWord (some d) then some ([], false, c)
      else if d = quote then
        if quote = '\x27' && c.second? = some quote then add quote (c.pass 2)
        else some ([], false, c)
      else if d = '\\' && quote = '"' then
        if c.second?.any isBreak then some ([], true, (c.pass 1).lineEnd)
        else
          match escape? (c.pass 1) with
          | some (e, c) => add e c
          | none => none
      else add d (c.pass 1)

/-- The blanks and line ends between two words, and what they count as. After an escaped line end
only further line ends count. -/
def quotedGap? (indent : Int) (joined : Bool) (blanks : List Char) (breaks : Nat) (c : Cursor) :
    Nat → Option (List Char × Cursor)
  | 0 => none
  | bound + 1 =>
    let lines := joined || breaks ≠ 0
    let counted := if joined then List.replicate breaks '\n'
      else if breaks = 0 then blanks else folded (breaks - 1)
    match c.next? with
    | none => some (counted, c)
    | some d =>
      if isBreak d then quotedGap? indent joined [] (breaks + 1) c.lineEnd bound
      else if !isBlank d then some (counted, c)
      else if !lines then quotedGap? indent joined (blanks ++ [d]) breaks (c.skip 1) bound
      else if d = '\t' && c.column < indent then none
      else quotedGap? indent joined [] breaks (c.skip 1) bound

def quotedFrom? (quote : Char) (indent : Int) (c : Cursor) : Nat → Option (List Char × Cursor)
  | 0 => none
  | bound + 1 => do
    if c.isDocumentMarker || c.next?.isNone || c.column < indent then none
    else
      let (word, joined, c) ← quotedWord? quote c (c.rest.length + 1)
      if c.next? = some quote then some (word, c.pass 1)
      else
        let (gap, c) ← quotedGap? indent joined [] 0 c (c.rest.length + 1)
        (quotedFrom? quote indent c bound).map fun (t, c) => (word ++ gap ++ t, c)

/-- A scalar in quotes. What follows it on its line has to be a mark of the collection that it is
in, or the colon of a key; outside of flow collections a key is on one line. -/
def quoted? (quote : Char) (flow : Bool) (indent : Int) (c : Cursor) :
    Option (List Char × Cursor) := do
  let (text, after) ← quotedFrom? quote indent (c.pass 1) (c.rest.length + 1)
  let (_, after) ← after.gap?
  let fits := match after.next? with
    | some ',' => flow
    | some ']' => flow
    | some '\x7d' => flow
    | some ':' => flow || c.line = after.line
    | d => endsLine d
  if fits then some (text, after) else none

/-! ### Blocks of lines -/

/-- What becomes of the line ends after the last line of a block. -/
inductive Chomping
  | strip
  | clip
  | keep
  deriving DecidableEq

def chomping? (c : Cursor) : Option Chomping :=
  match c.next? with
  | some '+' => some .keep
  | some '-' => some .strip
  | _ => none

/-- The digit that tells the indentation of a block; zero is refused. -/
def indentation? (c : Cursor) : Option (Nat × Cursor) :=
  match c.next? with
  | some d =>
    if d = '0' then none
    else if d.isDigit then some (d.toNat - 48, c.pass 1)
    else some (0, c)
  | none => some (0, c)

/-- The marks after the first one, in any order. Zero stands for an indentation that is not told. -/
def blockHeader? (c : Cursor) : Option (Chomping × Nat × Cursor) := do
  match chomping? c with
  | some m =>
    let (n, c) ← indentation? (c.pass 1)
    some (m, n, c)
  | none =>
    let (n, c) ← indentation? c
    match if n = 0 then none else chomping? c with
    | some m => some (m, n, c.pass 1)
    | none => some (.clip, n, c)

/-- Moves over blanks up to a column and over lines that hold no more; counts those lines. -/
def emptyLines (indent : Nat) (c : Cursor) : Nat → Nat × Cursor
  | 0 => (0, c)
  | bound + 1 =>
    let c := c.skip (Nat.min (c.takeWhile (· = ' ')).length (indent - c.column))
    if c.next?.any isBreak then
      let (n, c) := emptyLines indent c.lineEnd bound
      (n + 1, c)
    else (0, c)

/-- Moves to the first text of a block whose indentation is not told; counts the lines before it and
gives the column of the widest. -/
def leadingLines (widest : Nat) (c : Cursor) : Nat → Nat × Nat × Cursor
  | 0 => (0, widest, c)
  | bound + 1 =>
    let c := c.skip (c.takeWhile (· = ' ')).length
    let widest := Nat.max widest c.column
    if c.next?.any isBreak then
      let (n, w, c) := leadingLines widest c.lineEnd bound
      (n + 1, w, c)
    else (0, widest, c)

/-- The lines of a block. In a folded block the line end between two lines that start with no blank
counts as one. `ended` tells whether a line end is pending, `empty` how many empty lines came after
it. -/
def blockLines (literal : Bool) (indent : Nat) (ended afterBlank : Bool) (empty : Nat) (c : Cursor) :
    Nat → List Char × Bool × Nat × Cursor
  | 0 => ([], ended, empty, c)
  | bound + 1 =>
    if c.column ≠ indent || c.next?.isNone || (indent = 0 && c.isMarker '.') then
      ([], ended, empty, c)
    else
      let blank := c.next?.any isBlank
      let between :=
        if !literal && ended && !afterBlank && !blank then folded empty
        else (if ended then ['\n'] else []) ++ List.replicate empty '\n'
      let line := c.lineText
      let c := c.pass line.length
      if c.next?.isNone then (between ++ line, false, 0, c)
      else
        let (n, c) := emptyLines indent c.lineEnd c.rest.length
        let (text, ended, empty, c) := blockLines literal indent true blank n c bound
        (between ++ line ++ text, ended, empty, c)

/-- What is left of a block in which no text stands. -/
def emptyBlock (m : Chomping) (ended : Bool) (empty : Nat) : List Char :=
  match m with
  | .strip => []
  | .clip => if ended then ['\n'] else []
  | .keep => if empty = 0 then (if ended then ['\n'] else []) else List.replicate empty '\n'

/-- A block inside of one whose column is `indent`, from its first mark on. -/
def block? (literal : Bool) (indent : Int) (c : Cursor) : Option (List Char × Cursor) := do
  let (chomping, told, header) ← blockHeader? (c.pass 1)
  let (_, header) ← header.gap?
  if !endsLine header.next? then none
  else
    let body := header.lineEnd
    if body.next? = some '\t' then none
    else
      let bound := body.rest.length + 1
      let (empty, column, first) :=
        if 0 < told then
          let column := if 0 ≤ indent then indent.toNat + told else told
          let (n, c) := emptyLines column body bound
          (n, column, c)
        else
          let (n, widest, c) := leadingLines 0 body bound
          (n, Nat.max widest (indent + 1).toNat, c)
      if first.next?.isNone then
        let ended := header.next?.isSome
        let kept := if first.line = c.line then [] else emptyBlock chomping ended empty
        some (kept, first)
      else if first.column < column && indent < first.column then none
      else
        let (text, ended, after, c) := blockLines literal column false false empty first bound
        let last := (if ended then ['\n'] else []) ++
          if c.next?.isNone && Nat.max column 1 ≤ c.column then ['\n'] else []
        let kept := match chomping with
          | .strip => []
          | .clip => last
          | .keep => last ++ List.replicate after '\n'
        some (text ++ kept, c)

end Courier.Document.Yaml
