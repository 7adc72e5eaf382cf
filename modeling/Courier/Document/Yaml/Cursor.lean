/-!
A place in a YAML text: what is left of the text, and the line, column and count of characters before
it. Texts end at the first NUL.
-/

namespace Courier.Document.Yaml

def isBlank (c : Char) : Bool := c = ' ' || c = '\t'

def isBreak (c : Char) : Bool := c = '\n' || c = '\r'

/-- The marks of collections in brackets and braces. -/
def isFlowMark (c : Char) : Bool := c = ',' || c = '[' || c = ']' || c = '\x7b' || c = '\x7d'

/-- Nothing more comes, or a line end does. -/
def endsLine (c : Option Char) : Bool := c.all isBreak

/-- Nothing more comes, or a blank or line end does. -/
def endsWord (c : Option Char) : Bool := c.all fun c => isBlank c || isBreak c

structure Cursor where
  rest : List Char
  line : Nat
  column : Nat
  index : Nat
  /-- Only blanks stand before it on its line. -/
  fresh : Bool

namespace Cursor

def start (text : List Char) : Cursor := ⟨text.takeWhile (· ≠ '\x00'), 0, 0, 0, true⟩

def next? (c : Cursor) : Option Char := c.rest.head?

def second? (c : Cursor) : Option Char := (c.rest.drop 1).head?

/-- Moves over blanks; a line that begins with them stays fresh. -/
def skip (n : Nat) (c : Cursor) : Cursor :=
  { c with rest := c.rest.drop n, column := c.column + n, index := c.index + n }

/-- Moves over characters that are no line ends. -/
def pass (n : Nat) (c : Cursor) : Cursor := { c.skip n with fresh := c.fresh && n = 0 }

def lineEnd (c : Cursor) : Cursor :=
  match c.rest with
  | '\r' :: '\n' :: r => ⟨r, c.line + 1, 0, c.index + 2, true⟩
  | b :: r => if isBreak b then ⟨r, c.line + 1, 0, c.index + 1, true⟩ else c
  | [] => c

/-- The characters from here on that have a property. -/
def takeWhile (p : Char → Bool) (c : Cursor) : List Char := c.rest.takeWhile p

/-- The rest of the line. -/
def lineText (c : Cursor) : List Char := c.takeWhile fun d => !isBreak d

def passLine (c : Cursor) : Cursor := c.pass c.lineText.length

/-- Moves over blanks and a comment, which needs a blank before it. Gives the blanks too. -/
def gap? (c : Cursor) : Option (List Char × Cursor) :=
  let blanks := c.takeWhile isBlank
  let after := c.skip blanks.length
  if after.next? ≠ some '#' then some (blanks, after)
  else if blanks.isEmpty then none
  else some (blanks, after.passLine)

/-- Does a line start here with three such characters on their own? -/
def isMarker (mark : Char) (c : Cursor) : Bool :=
  c.column = 0 && c.rest.take 3 = [mark, mark, mark] && endsWord (c.rest.drop 3).head?

def isDocumentMarker (c : Cursor) : Bool := c.isMarker '-' || c.isMarker '.'

end Cursor

end Courier.Document.Yaml
