import Courier.Document.Numeral

/-!
JSON text as a tree. The tree keeps numbers as they are written and says of a text whether its
escapes form characters, because a reader that skips a value asks neither.
-/

namespace Courier.Document

inductive Json
  | null
  | bool (b : Bool)
  | number (n : Numeral)
  /-- None if surrogate escapes do not pair up. -/
  | text (s : Option String)
  | list (items : List Json)
  /-- Members in the order of the text, repeated keys included. -/
  | object (members : List (Option String × Json))

namespace Json

inductive Token
  | openList
  | closeList
  | openObject
  | closeObject
  | comma
  | colon
  | null
  | bool (b : Bool)
  | number (n : Numeral)
  | text (s : Option String)

/-- What a text is made of: characters, and escapes that give a unit of UTF-16. -/
inductive Piece
  | character (c : Char)
  | unit (u : Nat)

def hexDigit? (c : Char) : Option Nat :=
  if c.isDigit then some (c.toNat - 48)
  else if 'a' ≤ c ∧ c ≤ 'f' then some (c.toNat - 87)
  else if 'A' ≤ c ∧ c ≤ 'F' then some (c.toNat - 55)
  else none

def escaped? (c : Char) : Option Char :=
  match c with
  | '"' => some '"'
  | '\\' => some '\\'
  | '/' => some '/'
  | 'b' => some '\x08'
  | 'f' => some '\x0c'
  | 'n' => some '\n'
  | 'r' => some '\r'
  | 't' => some '\t'
  | _ => none

/-- The pieces up to the closing quote, and what follows it. -/
def pieces? : List Char → Option (List Piece × List Char)
  | [] => none
  | '"' :: rest => some ([], rest)
  | '\\' :: 'u' :: a :: b :: c :: d :: rest => do
    let u := 4096 * (← hexDigit? a) + 256 * (← hexDigit? b) + 16 * (← hexDigit? c) + (← hexDigit? d)
    let (ps, rest) ← pieces? rest
    some (.unit u :: ps, rest)
  | '\\' :: c :: rest => do
    let e ← escaped? c
    let (ps, rest) ← pieces? rest
    some (.character e :: ps, rest)
  | c :: rest =>
    if c < ' ' then none
    else (pieces? rest).map fun (ps, rest) => (.character c :: ps, rest)

def isHigh (u : Nat) : Bool := 0xD800 ≤ u && u < 0xDC00

def isLow (u : Nat) : Bool := 0xDC00 ≤ u && u < 0xE000

/-- A high surrogate has to be followed by a low one, and a low one to follow a high one. -/
def characters? : List Piece → Option (List Char)
  | [] => some []
  | .character c :: rest => (characters? rest).map (c :: ·)
  | .unit u :: .unit v :: rest =>
    if isHigh u then
      if isLow v then
        (characters? rest).map (Char.ofNat (0x10000 + (u - 0xD800) * 1024 + (v - 0xDC00)) :: ·)
      else none
    else if isLow u then none
    else (characters? (.unit v :: rest)).map (Char.ofNat u :: ·)
  | .unit u :: rest =>
    if isHigh u || isLow u then none else (characters? rest).map (Char.ofNat u :: ·)

/-- At least one digit, and what follows the digits. -/
def digits? (cs : List Char) : Option (List Char × List Char) :=
  let ds := cs.takeWhile Char.isDigit
  if ds.isEmpty then none else some (ds, cs.dropWhile Char.isDigit)

def fraction? : List Char → Option (List Char × List Char)
  | '.' :: rest => digits? rest
  | rest => some ([], rest)

def exponent? : List Char → Option (Option (Bool × List Char) × List Char)
  | c :: rest =>
    if c = 'e' ∨ c = 'E' then
      let (negative, rest) := match rest with
        | '-' :: r => (true, r)
        | '+' :: r => (false, r)
        | r => (false, r)
      (digits? rest).map fun (ds, rest) => (some (negative, ds), rest)
    else some (none, c :: rest)
  | [] => some (none, [])

/-- A number: no plus sign, no zero before other digits, digits on both sides of a point. -/
def numeral? (cs : List Char) : Option (Numeral × List Char) := do
  let (negative, cs) := match cs with
    | '-' :: r => (true, r)
    | r => (false, r)
  let (whole, cs) ← digits? cs
  let (fraction, cs) ← fraction? cs
  let (exponent, cs) ← exponent? cs
  if whole.head? = some '0' ∧ 1 < whole.length then none
  else some (⟨negative, whole, fraction, exponent⟩, cs)

def isBlank (c : Char) : Bool := c = ' ' || c = '\t' || c = '\n' || c = '\r'

/-- The token at the start of the text. -/
def token? : List Char → Option (Token × List Char)
  | '[' :: r => some (.openList, r)
  | ']' :: r => some (.closeList, r)
  | '\x7b' :: r => some (.openObject, r)
  | '\x7d' :: r => some (.closeObject, r)
  | ',' :: r => some (.comma, r)
  | ':' :: r => some (.colon, r)
  | 'n' :: 'u' :: 'l' :: 'l' :: r => some (.null, r)
  | 't' :: 'r' :: 'u' :: 'e' :: r => some (.bool true, r)
  | 'f' :: 'a' :: 'l' :: 's' :: 'e' :: r => some (.bool false, r)
  | '"' :: r => (pieces? r).map fun (ps, r) => (.text ((characters? ps).map String.ofList), r)
  | cs => (numeral? cs).map fun (n, r) => (.number n, r)

/-- Each token takes at least one character, so the length of the text bounds their number. -/
def tokens? : Nat → List Char → Option (List Token)
  | 0, cs => if cs.isEmpty then some [] else none
  | bound + 1, cs =>
    match cs.dropWhile isBlank with
    | [] => some []
    | cs => do
      let (t, rest) ← token? cs
      (tokens? bound rest).map (t :: ·)

mutual

def readValue : Nat → List Token → Option (Json × List Token)
  | 0, _ => none
  | bound + 1, ts =>
    match ts with
    | .null :: r => some (.null, r)
    | .bool b :: r => some (.bool b, r)
    | .number n :: r => some (.number n, r)
    | .text s :: r => some (.text s, r)
    | .openList :: .closeList :: r => some (.list [], r)
    | .openList :: r => (readItems bound r).map fun (xs, r) => (.list xs, r)
    | .openObject :: .closeObject :: r => some (.object [], r)
    | .openObject :: r => (readMembers bound r).map fun (ms, r) => (.object ms, r)
    | _ => none

def readItems : Nat → List Token → Option (List Json × List Token)
  | 0, _ => none
  | bound + 1, ts => do
    let (x, r) ← readValue bound ts
    match r with
    | .comma :: r => (readItems bound r).map fun (xs, r) => (x :: xs, r)
    | .closeList :: r => some ([x], r)
    | _ => none

def readMembers : Nat → List Token → Option (List (Option String × Json) × List Token)
  | 0, _ => none
  | bound + 1, ts =>
    match ts with
    | .text k :: .colon :: r => do
      let (x, r) ← readValue bound r
      match r with
      | .comma :: r => (readMembers bound r).map fun (ms, r) => ((k, x) :: ms, r)
      | .closeObject :: r => some ([(k, x)], r)
      | _ => none
    | _ => none

end

/-- The tree of a text that is one JSON value with nothing but blanks around it. -/
def ofText? (s : String) : Option Json := do
  let cs := s.toList
  let ts ← tokens? cs.length cs
  match ← readValue (2 * ts.length) ts with
  | (x, []) => some x
  | _ => none

end Json

end Courier.Document
