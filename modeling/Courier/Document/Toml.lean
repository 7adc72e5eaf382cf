import Courier.Document.Calendar
import Courier.Document.Value

/-!
TOML text as a table. A table can be opened once by its own header; after that dotted keys no longer
add to it from outside. Dates and times are kept as texts.
-/

namespace Courier.Document.Toml

/-- How a table came to be; that decides what can still be added to it. -/
inductive Origin
  /-- A header names a table inside it. -/
  | implied
  | header
  | dotted
  deriving DecidableEq

inductive Node
  | leaf (v : Value)
  | table (origin : Origin) (nodes : List (String × Node))
  /-- A list of tables, one for each double header. -/
  | tables (items : List Node)

abbrev Nodes := List (String × Node)

namespace Nodes

def get? (ns : Nodes) (key : String) : Option Node :=
  (List.find? (fun n => n.1 = key) ns).map (·.2)

def put (ns : Nodes) (key : String) (n : Node) : Nodes :=
  match ns with
  | [] => [(key, n)]
  | m :: rest => if m.1 = key then (key, n) :: rest else m :: put rest key n

/-- Changes the table that a header's path leads to: the latest one in a list of tables, a new one
where there is none. -/
def change (f : Nodes → Option Nodes) (path : List String) (ns : Nodes) : Option Nodes :=
  match path with
  | [] => f ns
  | k :: path => do
    match ns.get? k with
    | none => some (ns.put k (.table .implied (← change f path [])))
    | some (.table o inner) => some (ns.put k (.table o (← change f path inner)))
    | some (.tables items) =>
      match items.getLast? with
      | some (.table o inner) =>
        some (ns.put k (.tables (items.dropLast ++ [.table o (← change f path inner)])))
      | _ => none
    | some (.leaf _) => none

def openTable (key : String) (ns : Nodes) : Option Nodes :=
  match ns.get? key with
  | none => some (ns.put key (.table .header []))
  | some (.table .implied inner) => some (ns.put key (.table .header inner))
  | _ => none

def addTable (key : String) (ns : Nodes) : Option Nodes :=
  match ns.get? key with
  | none => some (ns.put key (.tables [.table .header []]))
  | some (.tables items) => some (ns.put key (.tables (items ++ [.table .header []])))
  | _ => none

/-- Gives a value to a key that has none. Dotted keys pass only tables that have no header yet. -/
def assign (v : Value) (path : List String) (ns : Nodes) : Option Nodes :=
  match path with
  | [] => none
  | [k] => if (ns.get? k).isNone then some (ns.put k (.leaf v)) else none
  | k :: path => do
    match ns.get? k with
    | none => some (ns.put k (.table .dotted (← assign v path [])))
    | some (.table .dotted inner) => some (ns.put k (.table .dotted (← assign v path inner)))
    | some (.table .implied inner) => some (ns.put k (.table .implied (← assign v path inner)))
    | _ => none

end Nodes

mutual

def Node.value : Node → Value
  | .leaf v => v
  | .table _ ns => .table (nodeEntries ns)
  | .tables items => .list (nodeValues items)

def nodeEntries : List (String × Node) → Entries
  | [] => []
  | (k, n) :: rest => (k, n.value) :: nodeEntries rest

def nodeValues : List Node → List Value
  | [] => []
  | n :: rest => n.value :: nodeValues rest

end

def isBlank (c : Char) : Bool := c = ' ' || c = '\t'

def skipBlanks (cs : List Char) : List Char := cs.dropWhile isBlank

/-- A control character other than the tab. -/
def isControl (c : Char) : Bool := (c < ' ' && c ≠ '\t') || c = '\x7f'

/-- The end of the line that a comment is on; the comment must hold no control character. -/
def commentEnd? (cs : List Char) : Option (List Char) :=
  match cs.dropWhile fun c => !isControl c with
  | [] => some []
  | '\n' :: r => some ('\n' :: r)
  | '\r' :: '\n' :: r => some ('\n' :: r)
  | _ => none

/-- The text after blanks, line ends and comments. -/
def skipLines? : Nat → List Char → Option (List Char)
  | 0, cs => some cs
  | bound + 1, cs =>
    match skipBlanks cs with
    | '#' :: r => (commentEnd? r).bind (skipLines? bound)
    | '\n' :: r => skipLines? bound r
    | '\r' :: '\n' :: r => skipLines? bound r
    | cs => some cs

/-- A line can only go on with a comment. -/
def lineEnd? (cs : List Char) : Option (List Char) :=
  match skipBlanks cs with
  | [] => some []
  | '#' :: r => commentEnd? r
  | '\n' :: r => some r
  | '\r' :: '\n' :: r => some r
  | _ => none

def hexValue? (ds : List Char) : Option Nat :=
  ds.foldlM (fun n d => (Json.hexDigit? d).map (16 * n + ·)) 0

/-- The character of a code point; surrogates are none. -/
def scalar? (ds : List Char) : Option Char := do
  let n ← hexValue? ds
  if h : n.isValidChar then some (Char.ofNatAux n h) else none

/-- The character that an escape stands for, and what follows the escape. -/
def escape? : List Char → Option (Char × List Char)
  | 'b' :: r => some ('\x08', r)
  | 't' :: r => some ('\t', r)
  | 'n' :: r => some ('\n', r)
  | 'f' :: r => some ('\x0c', r)
  | 'r' :: r => some ('\r', r)
  | 'e' :: r => some ('\x1b', r)
  | '"' :: r => some ('"', r)
  | '\\' :: r => some ('\\', r)
  | 'x' :: r => if r.length < 2 then none else (scalar? (r.take 2)).map fun c => (c, r.drop 2)
  | 'u' :: r => if r.length < 4 then none else (scalar? (r.take 4)).map fun c => (c, r.drop 4)
  | 'U' :: r => if r.length < 8 then none else (scalar? (r.take 8)).map fun c => (c, r.drop 8)
  | _ => none

/-- A text in double quotes, from after the first. -/
def basic? : Nat → List Char → Option (List Char × List Char)
  | 0, _ => none
  | _, [] => none
  | _, '"' :: r => some ([], r)
  | bound + 1, '\\' :: r => do
    let (c, r) ← escape? r
    let (s, r) ← basic? bound r
    some (c :: s, r)
  | bound + 1, c :: r =>
    if isControl c then none else (basic? bound r).map fun (s, r) => (c :: s, r)

/-- A text in single quotes, from after the first; nothing is escaped. -/
def literal? (cs : List Char) : Option (List Char × List Char) :=
  let s := cs.takeWhile (· ≠ '\x27')
  match cs.dropWhile (· ≠ '\x27') with
  | _ :: r => if s.any isControl then none else some (s, r)
  | [] => none

/-- Three quotes end a text over several lines; up to two more before them belong to it. -/
def closing? (q : Char) (cs : List Char) : Option (List Char × List Char) :=
  let n := (cs.takeWhile (· = q)).length
  if 3 ≤ n then some (List.replicate (Nat.min (n - 3) 2) q, cs.drop (Nat.min n 5)) else none

/-- A text over several lines. With escapes, one at the end of a line joins the next line to it. -/
def multiline? (q : Char) (escapes : Bool) : Nat → List Char → Option (List Char × List Char)
  | 0, _ => none
  | bound + 1, cs =>
    match closing? q cs with
    | some done => some done
    | none =>
      match cs with
      | [] => none
      | '\\' :: r =>
        if !escapes then (multiline? q escapes bound r).map fun (s, r) => ('\\' :: s, r)
        else
          match skipBlanks r with
          | '\n' :: r => multiline? q escapes bound (r.dropWhile Char.isWhitespace)
          | '\r' :: '\n' :: r => multiline? q escapes bound (r.dropWhile Char.isWhitespace)
          | _ => do
            let (c, r) ← escape? r
            let (s, r) ← multiline? q escapes bound r
            some (c :: s, r)
      | '\r' :: '\n' :: r => (multiline? q escapes bound r).map fun (s, r) => ('\n' :: s, r)
      | c :: r =>
        if isControl c && c ≠ '\n' then none
        else (multiline? q escapes bound r).map fun (s, r) => (c :: s, r)

/-- A line end right after the opening quotes does not count. -/
def skipFirstLineEnd : List Char → List Char
  | '\n' :: r => r
  | '\r' :: '\n' :: r => r
  | r => r

def isBare (c : Char) : Bool := c.isAlphanum || c = '_' || c = '-'

/-- One part of a key: bare or quoted. -/
def keyPart? : List Char → Option (String × List Char)
  | '"' :: r => (basic? r.length r).map fun (s, r) => (String.ofList s, r)
  | '\x27' :: r => (literal? r).map fun (s, r) => (String.ofList s, r)
  | cs =>
    let s := cs.takeWhile isBare
    if s.isEmpty then none else some (String.ofList s, cs.dropWhile isBare)

/-- How deep values and tables can be nested. -/
def depthLimit : Nat := 80

/-- At most so many parts with points between them. -/
def keyParts? : Nat → List Char → Option (List String × List Char)
  | 0, _ => none
  | bound + 1, cs => do
    let (k, r) ← keyPart? (skipBlanks cs)
    match skipBlanks r with
    | '.' :: r => (keyParts? bound r).map fun (ks, r) => (k :: ks, r)
    | r => some ([k], r)

/-- A key: the names of the tables that it leads through, and its own. -/
def key? (cs : List Char) : Option (List String × List Char) := keyParts? (depthLimit + 1) cs

/-- Digits without the underscores between them. -/
def ungrouped? (isDigit : Char → Bool) : List Char → Option (List Char)
  | [] => none
  | [d] => if isDigit d then some [d] else none
  | d :: '_' :: r => if isDigit d then (ungrouped? isDigit r).map (d :: ·) else none
  | d :: r => if isDigit d then (ungrouped? isDigit r).map (d :: ·) else none

def signed64? (n : Int) : Option Value :=
  if -(twoTo 63 : Int) ≤ n ∧ n < twoTo 63 then some (.integer n) else none

def based? (base : Nat) (cs : List Char) : Option Value := do
  let isDigit (c : Char) : Bool := (Json.hexDigit? c).any (· < base)
  let ds ← ungrouped? isDigit cs
  let n : Nat := ds.foldl (fun n d => base * n + (Json.hexDigit? d).getD 0) 0
  signed64? n

/-- The digits before a point: no zero before other digits. -/
def whole? (cs : List Char) : Option (List Char) := do
  let ds ← ungrouped? Char.isDigit cs
  if ds.head? = some '0' ∧ 1 < ds.length then none else some ds

def optionalDigits? : Option (List Char) → Option (List Char)
  | none => some []
  | some cs => ungrouped? Char.isDigit cs

/-- Splits a text at the first character of a kind. -/
def split (isMark : Char → Bool) (cs : List Char) : List Char × Option (List Char) :=
  match cs.dropWhile fun c => !isMark c with
  | [] => (cs, none)
  | _ :: r => (cs.takeWhile fun c => !isMark c, some r)

def signOf : List Char → Bool × List Char
  | '-' :: r => (true, r)
  | '+' :: r => (false, r)
  | r => (false, r)

/-- A decimal number; one with a point or an exponent is a real number and has to be finite. -/
def decimal? (cs : List Char) : Option Value := do
  let (negative, cs) := signOf cs
  let (mantissa, exponent) := split (fun c => c = 'e' || c = 'E') cs
  let (whole, fraction) := split (· = '.') mantissa
  let w ← whole? whole
  if fraction.isNone ∧ exponent.isNone then
    signed64? (Binary64.signed negative (Binary64.valueOf w))
  else
    let f ← optionalDigits? fraction
    let (down, e) := signOf (exponent.getD [])
    let e ← optionalDigits? (exponent.map fun _ => e)
    let power := Binary64.signed down (Binary64.valueOf e)
    let x := Binary64.ofDecimal negative (Binary64.valueOf (w ++ f)) (power - f.length)
    if x.isFinite then some (.real x) else none

/-- A value that is written without quotes and brackets. -/
def plain? (cs : List Char) : Option Value :=
  match String.ofList cs with
  | "true" => some (.bool true)
  | "false" => some (.bool false)
  | "inf" => some (.real (.infinite false))
  | "+inf" => some (.real (.infinite false))
  | "-inf" => some (.real (.infinite true))
  | "nan" => some (.real .nan)
  | "+nan" => some (.real .nan)
  | "-nan" => some (.real .nan)
  | s =>
    match cs with
    | '0' :: 'x' :: r => based? 16 r
    | '0' :: 'o' :: r => based? 8 r
    | '0' :: 'b' :: r => based? 2 r
    | _ => if Calendar.isDate cs || Calendar.isTime cs || Calendar.isMoment cs then some (.text s) else decimal? cs

def isPlain (c : Char) : Bool := c.isAlphanum || c = '_' || c = '-' || c = '+' || c = '.' || c = ':'

/-- The characters of a plain value. A blank inside it can only stand between a date and a time. -/
def plainText (cs : List Char) : List Char :=
  let s := cs.takeWhile isPlain
  match cs.drop s.length with
  | ' ' :: d :: r =>
    if Calendar.isDate s && d.isDigit then s ++ ' ' :: (d :: r).takeWhile isPlain else s
  | _ => s

mutual

/-- A value. Lists and tables in braces can be nested `depth` levels deep. -/
def value? : Nat → Nat → List Char → Option (Value × List Char)
  | 0, _, _ => none
  | bound + 1, depth, cs =>
    let ofText (p : List Char × List Char) : Value × List Char := (.text (String.ofList p.1), p.2)
    match cs with
    | '"' :: '"' :: '"' :: r => (multiline? '"' true (r.length + 1) (skipFirstLineEnd r)).map ofText
    | '"' :: r => (basic? r.length r).map ofText
    | '\x27' :: '\x27' :: '\x27' :: r =>
      (multiline? '\x27' false (r.length + 1) (skipFirstLineEnd r)).map ofText
    | '\x27' :: r => (literal? r).map ofText
    | '[' :: r =>
      match depth with
      | 0 => none
      | depth + 1 => (items? bound depth r).map fun (vs, r) => (.list vs, r)
    | '\x7b' :: r =>
      match depth with
      | 0 => none
      | depth + 1 => (members? bound depth [] r).map fun (ns, r) => (.table (nodeEntries ns), r)
    | cs =>
      let s := plainText cs
      (plain? s).map fun v => (v, cs.drop s.length)

/-- The values of a list, over as many lines as it takes; a last comma is allowed. -/
def items? : Nat → Nat → List Char → Option (List Value × List Char)
  | 0, _, _ => none
  | bound + 1, depth, cs => do
    match ← skipLines? cs.length cs with
    | ']' :: r => some ([], r)
    | cs =>
      let (v, r) ← value? bound depth cs
      match ← skipLines? r.length r with
      | ',' :: r => (items? bound depth r).map fun (vs, r) => (v :: vs, r)
      | ']' :: r => some ([v], r)
      | _ => none

/-- The entries of a table in braces, over as many lines as it takes; a last comma is allowed. -/
def members? : Nat → Nat → Nodes → List Char → Option (Nodes × List Char)
  | 0, _, _, _ => none
  | bound + 1, depth, ns, cs => do
    match ← skipLines? cs.length cs with
    | '\x7d' :: r => some (ns, r)
    | cs =>
      let (path, r) ← key? cs
      match r with
      | '=' :: r =>
        let (v, r) ← value? bound depth (skipBlanks r)
        let ns ← ns.assign v path
        match ← skipLines? r.length r with
        | ',' :: r => members? bound depth ns r
        | '\x7d' :: r => some (ns, r)
        | _ => none
      | _ => none

end

/-- Lines are added to the table that the last header opened. -/
def lines? : Nat → List String → Nodes → List Char → Option Nodes
  | 0, _, ns, cs => if cs.isEmpty then some ns else none
  | bound + 1, path, ns, cs => do
    match ← skipLines? cs.length cs with
    | [] => some ns
    | '[' :: '[' :: r =>
      let (p, r) ← key? r
      match r with
      | ']' :: ']' :: r =>
        let ns ← ns.change (Nodes.addTable (p.getLastD "")) p.dropLast
        lines? bound p ns (← lineEnd? r)
      | _ => none
    | '[' :: r =>
      let (p, r) ← key? r
      match r with
      | ']' :: r =>
        let ns ← ns.change (Nodes.openTable (p.getLastD "")) p.dropLast
        lines? bound p ns (← lineEnd? r)
      | _ => none
    | cs =>
      let (p, r) ← key? cs
      match r with
      | '=' :: r =>
        let r := skipBlanks r
        let (v, r) ← value? (r.length + 1) depthLimit r
        let ns ← ns.change (Nodes.assign v p) path
        lines? bound path ns (← lineEnd? r)
      | _ => none

/-- A byte order mark at the start is no part of the text. -/
def withoutMark : List Char → List Char
  | '\ufeff' :: r => r
  | r => r

end Toml

def Value.ofTomlText? (text : String) : Option Value :=
  let cs := Toml.withoutMark text.toList
  (Toml.lines? (cs.length + 1) [] [] cs).map fun ns => .table (Toml.nodeEntries ns)

end Courier.Document
