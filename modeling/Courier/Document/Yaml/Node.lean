import Courier.Document.Value
import Courier.Document.Yaml.Token

/-!
YAML nodes, from the tokens of a text: what a scalar stands for, which nodes aliases mean, and the
nesting of collections. An alias is the node of the anchor that had the name last.
-/

namespace Courier.Document.Yaml

inductive Node
  | null
  /-- What a tag asks for and the text does not give. It counts as null, but not as a key. -/
  | unreadable
  | bool (b : Bool)
  | integer (n : Int)
  | real (text : String)
  | text (s : String)
  | list (items : List Node)
  | mapping (entries : List (Node × Node))

namespace Node

def integerIn? (base : Nat) (cs : List Char) : Option Int := do
  let (negative, ds) := match cs with
    | '-' :: r => (true, r)
    | '+' :: r => (false, r)
    | r => (false, r)
  if ds.isEmpty then none
  else
    let digit (c : Char) : Option Nat := (Json.hexDigit? c).filter (· < base)
    let size : Nat ← ds.foldlM (fun n c => (digit c).map (base * n + ·)) 0
    let n := Binary64.signed negative size
    if -(twoTo 63 : Int) ≤ n ∧ n < twoTo 63 then some n else none

def integer? (cs : List Char) : Option Int :=
  let based := match cs with
    | '0' :: 'x' :: r => integerIn? 16 r
    | '0' :: 'o' :: r => integerIn? 8 r
    | '+' :: r => integerIn? 10 r
    | _ => none
  based.or (integerIn? 10 cs)

/-- The words for numbers that are not finite. -/
def isEndless (s : String) : Bool :=
  [".inf", ".Inf", ".INF", "+.inf", "+.Inf", "+.INF", "-.inf", "-.Inf", "-.INF",
    ".nan", ".NaN", ".NAN"].contains s

def isReal (s : String) : Bool :=
  isEndless s || (s.toList.any Char.isDigit && (Binary64.ofText? s).isSome)

def bool? (s : String) : Option Bool :=
  if ["true", "True", "TRUE"].contains s then some true
  else if ["false", "False", "FALSE"].contains s then some false
  else none

def isNull (s : String) : Bool := ["", "~", "null", "Null", "NULL"].contains s

/-- What a plain scalar without a tag stands for. -/
def ofPlain (s : String) : Node :=
  if isNull s then null
  else match bool? s, integer? s.toList with
    | some b, _ => bool b
    | none, some n => integer n
    | none, none => if isReal s then real s else text s

/-- What a plain scalar stands for that has a tag of the common kind. -/
def ofKind (kind s : String) : Node :=
  match kind with
  | "bool" => ((bool? s).map bool).getD unreadable
  | "int" => ((integerIn? 10 s.toList).map integer).getD unreadable
  | "float" => if isReal s then real s else unreadable
  | "null" => if s ≠ "" ∧ isNull s then null else unreadable
  | _ => text s

/-- The tags whose kinds have a meaning start so. -/
def commonStart : String := "tag:yaml.org,2002:"

/-- A scalar with another tag, or in quotes or a block, is its text. -/
def ofScalar (plain : Bool) (s : String) (tag : Option Tag) : Node :=
  match plain, tag with
  | true, none => ofPlain s
  | true, some t => if t.handle = commonStart then ofKind t.suffix s else text s
  | false, _ => text s

/-- Two nodes that are the same key of a mapping. -/
def sameKey : Node → Node → Bool
  | null, null => true
  | bool a, bool b => a == b
  | integer a, integer b => a == b
  | real a, real b => a == b
  | text a, text b => a == b
  | _, _ => false

def isUnreadable : Node → Bool
  | unreadable => true
  | _ => false

/-- Keys and values by turns as entries. Keys must differ. A key that cannot be read is passed over,
and the next node is the key instead. -/
def entries? (key : Option Node) (done : List (Node × Node)) :
    List Node → Option (List (Node × Node))
  | [] => some done
  | n :: rest =>
    match key with
    | none => entries? (if isUnreadable n then none else some n) done rest
    | some k =>
      if done.any fun e => sameKey k e.1 then none else entries? none (done ++ [(k, n)]) rest

def keyName? : Node → Option String
  | bool b => some (if b then "true" else "false")
  | integer n => some (toString n)
  | real s => some s
  | text s => some s
  | _ => none

mutual

/-- The node as a value. Only scalars can be keys, and numbers have to be finite or not numbers. -/
def value? : Node → Option Value
  | null => some .null
  | unreadable => some .null
  | bool b => some (.bool b)
  | integer n => some (.integer n)
  | real s => (Binary64.ofText? s).map .real
  | text s => some (.text s)
  | list ns => (values? ns).map .list
  | mapping es => (table? [] es).map .table

def values? : List Node → Option (List Value)
  | [] => some []
  | n :: rest => do some ((← value? n) :: (← values? rest))

def table? (done : Entries) : List (Node × Node) → Option Entries
  | [] => some done
  | (k, n) :: rest => do table? (done.put (← keyName? k) (← value? n)) rest

end

end Node

/-! ### Nodes from tokens -/

/-- What is left of the tokens, and what the names in them mean. -/
structure Reading where
  rest : List Token
  /-- What tag handles stand for. -/
  handles : List (String × String)
  /-- The number of the anchor that had a name last. -/
  anchors : List (String × Nat)
  /-- The nodes of anchors that are complete. -/
  nodes : List (Nat × Node)
  /-- Anchors so far. -/
  count : Nat

namespace Reading

def drop (n : Nat) (r : Reading) : Reading := { r with rest := r.rest.drop n }

/-- The tag with what its handle stands for. A closed handle has to be declared, but for the common
one. -/
def resolve? (r : Reading) (t : Tag) : Option Tag :=
  match r.handles.lookup t.handle with
  | some start => some { t with handle := start }
  | none =>
    if t.handle = "!!" then some { t with handle := Node.commonStart }
    else if isClosedHandle t.handle.toList then none
    else some t

def setAnchor (r : Reading) (name : String) : Reading :=
  { r with anchors := (name, r.count) :: r.anchors, count := r.count + 1 }

/-- The anchor and the tag before a node, in either order. -/
def properties? (r : Reading) : Option (Option Nat × Option Tag × Reading) :=
  match r.rest with
  | .anchor n :: .tag t :: _ =>
    (r.resolve? t).map fun t => (some r.count, some t, (r.drop 2).setAnchor n)
  | .anchor n :: _ => some (some r.count, none, (r.drop 1).setAnchor n)
  | .tag t :: .anchor n :: _ =>
    (r.resolve? t).map fun t => (some r.count, some t, (r.drop 2).setAnchor n)
  | .tag t :: _ => (r.resolve? t).map fun t => (none, some t, r.drop 1)
  | _ => some (none, none, r)

/-- A node that is complete, and remembered if it has an anchor. -/
def complete (anchor : Option Nat) (n : Node) (r : Reading) : Node × Reading :=
  match anchor with
  | some i => (n, { r with nodes := (i, n) :: r.nodes })
  | none => (n, r)

/-- The node of an alias; one that stands inside its own anchor is not complete. -/
def alias? (r : Reading) (name : String) : Option (Node × Reading) :=
  (r.anchors.lookup name).map fun i => ((r.nodes.lookup i).getD .unreadable, r.drop 1)

/-- No node stands before such a token. -/
def startsWith (ts : List Token) (r : Reading) : Bool := r.rest.head?.any ts.contains

def isStart (t : Token) (r : Reading) : Bool := r.rest.head? = some t

abbrev Nodes := Option (List Node × Reading)

/-- An empty node, and then more. -/
def empty (more : Nodes) : Nodes := more.map fun (ns, r) => (.null :: ns, r)

mutual

/-- A node. Blocks can start only where `block` says so, and the items of a list may stand without
a block of their own where `bare` does. -/
def node? (block bare : Bool) (r : Reading) : Nat → Option (Node × Reading)
  | 0 => none
  | bound + 1 =>
    match r.rest with
    | .alias name :: _ => r.alias? name
    | _ =>
      match r.properties? with
      | none => none
      | some (anchor, tag, r) =>
        let list (ns : Nodes) : Option (Node × Reading) :=
          ns.map fun (ns, r) => r.complete anchor (.list ns)
        let mapping (ns : Nodes) : Option (Node × Reading) :=
          ns.bind fun (ns, r) => (Node.entries? none [] ns).map fun es =>
            r.complete anchor (.mapping es)
        match r.rest with
        | .scalar plain s :: _ => some ((r.drop 1).complete anchor (Node.ofScalar plain s tag))
        | .flowSequenceStart :: _ => list ((r.drop 1).flowItems? true bound)
        | .flowMappingStart :: _ => mapping ((r.drop 1).flowKeys? true bound)
        | t :: _ =>
          if t = .blockEntry && bare then list (r.bareItems? bound)
          else if t = .blockSequenceStart && block then list ((r.drop 1).blockItems? bound)
          else if t = .blockMappingStart && block then mapping ((r.drop 1).blockKeys? bound)
          else if anchor.isSome || tag.isSome then
            some (r.complete anchor (Node.ofScalar true "" tag))
          else none
        | [] => none

def blockItems? (r : Reading) : Nat → Nodes
  | 0 => none
  | bound + 1 =>
    match r.rest with
    | .blockEnd :: _ => some ([], r.drop 1)
    | .blockEntry :: _ =>
      if (r.drop 1).startsWith [.blockEntry, .blockEnd] then empty ((r.drop 1).blockItems? bound)
      else
        match (r.drop 1).node? true false bound with
        | some (n, r) => (r.blockItems? bound).map fun (ns, r) => (n :: ns, r)
        | none => none
    | _ => none

def bareItems? (r : Reading) : Nat → Nodes
  | 0 => none
  | bound + 1 =>
    if !r.isStart .blockEntry then some ([], r)
    else if (r.drop 1).startsWith [.blockEntry, .key, .value, .blockEnd] then
      empty ((r.drop 1).bareItems? bound)
    else
      match (r.drop 1).node? true false bound with
      | some (n, r) => (r.bareItems? bound).map fun (ns, r) => (n :: ns, r)
      | none => none

/-- Keys and values by turns, to the end of the block. -/
def blockKeys? (r : Reading) : Nat → Nodes
  | 0 => none
  | bound + 1 =>
    match r.rest with
    | .blockEnd :: _ => some ([], r.drop 1)
    | .value :: _ => empty (r.blockValue? bound)
    | .key :: _ =>
      if (r.drop 1).startsWith [.key, .value, .blockEnd] then empty ((r.drop 1).blockValue? bound)
      else
        match (r.drop 1).node? true true bound with
        | some (n, r) => (r.blockValue? bound).map fun (ns, r) => (n :: ns, r)
        | none => none
    | _ => none

def blockValue? (r : Reading) : Nat → Nodes
  | 0 => none
  | bound + 1 =>
    if !r.isStart .value then empty (r.blockKeys? bound)
    else if (r.drop 1).startsWith [.key, .value, .blockEnd] then empty ((r.drop 1).blockKeys? bound)
    else
      match (r.drop 1).node? true true bound with
      | some (n, r) => (r.blockKeys? bound).map fun (ns, r) => (n :: ns, r)
      | none => none

/-- The items of a flow sequence. All but the first stand after a comma. -/
def flowItems? (r : Reading) (first : Bool) : Nat → Nodes
  | 0 => none
  | bound + 1 =>
    if r.isStart .flowSequenceEnd then some ([], r.drop 1)
    else if !first && !r.isStart .flowEntry then none
    else
      let r := if first then r else r.drop 1
      match r.rest with
      | .flowSequenceEnd :: _ => some ([], r.drop 1)
      | .key :: _ =>
        match (r.drop 1).pair? bound with
        | some (n, r) => (r.flowItems? false bound).map fun (ns, r) => (n :: ns, r)
        | none => none
      | _ =>
        match r.node? false false bound with
        | some (n, r) => (r.flowItems? false bound).map fun (ns, r) => (n :: ns, r)
        | none => none

/-- A mapping of one entry, from its key on. Without a key, the token that shows so is passed. -/
def pair? (r : Reading) : Nat → Option (Node × Reading)
  | 0 => none
  | bound + 1 =>
    let key := if r.startsWith [.value, .flowEntry, .flowSequenceEnd] then some (.null, r.drop 1)
      else r.node? false false bound
    match key with
    | none => none
    | some (k, r) =>
      let value :=
        if !r.isStart .value then some (.null, r)
        else if (r.drop 1).startsWith [.flowEntry, .flowSequenceEnd] then some (.null, r.drop 1)
        else (r.drop 1).node? false false bound
      match value with
      | none => none
      | some (v, r) => (Node.entries? none [] [k, v]).map fun es => (.mapping es, r)

/-- Keys and values of a flow mapping by turns. -/
def flowKeys? (r : Reading) (first : Bool) : Nat → Nodes
  | 0 => none
  | bound + 1 =>
    if r.isStart .flowMappingEnd then some ([], r.drop 1)
    else if !first && !r.isStart .flowEntry then none
    else
      let r := if first then r else r.drop 1
      match r.rest with
      | .flowMappingEnd :: _ => some ([], r.drop 1)
      | .value :: _ => empty (r.flowValue? bound)
      | .key :: _ =>
        if (r.drop 1).startsWith [.value, .flowEntry, .flowMappingEnd] then
          empty ((r.drop 1).flowValue? bound)
        else
          match (r.drop 1).node? false false bound with
          | some (n, r) => (r.flowValue? bound).map fun (ns, r) => (n :: ns, r)
          | none => none
      | _ =>
        match r.node? false false bound with
        | some (n, r) => (empty (r.flowKeys? false bound)).map fun (ns, r) => (n :: ns, r)
        | none => none

def flowValue? (r : Reading) : Nat → Nodes
  | 0 => none
  | bound + 1 =>
    if !r.isStart .value then empty (r.flowKeys? false bound)
    else if (r.drop 1).startsWith [.flowEntry, .flowMappingEnd] then
      empty ((r.drop 1).flowKeys? false bound)
    else
      match (r.drop 1).node? false false bound with
      | some (n, r) => (r.flowKeys? false bound).map fun (ns, r) => (n :: ns, r)
      | none => none

end

/-- The directives before a document. The version can be told once, and only the handle of the last
directive is declared. -/
def directives? (versioned : Bool) (handles : List (String × String)) :
    List Token → Option (List (String × String) × List Token)
  | .directive .version :: rest => if versioned then none else directives? true [] rest
  | .directive (.handle name start) :: rest => directives? versioned [(name, start)] rest
  | .directive .other :: rest => directives? versioned [("", "")] rest
  | rest => some (handles, rest)

def isDocumentEnd (t : Token) : Bool := t = .documentEnd

def isDirective : Token → Bool
  | .directive _ => true
  | _ => false

/-- No document starts in what is left. -/
def isOver (ts : List Token) : Bool := ts.dropWhile isDocumentEnd = [.streamEnd]

/-- The root of the only document; nothing in a stream without one. -/
def root? (ts : List Token) : Option (Option Node) := do
  let ts := ts.dropWhile isDocumentEnd
  if isOver ts then some none
  else
    let directed := ts.head?.any isDirective
    let (handles, ts) ← directives? false [] ts
    let explicit := ts.head? = some .documentStart
    if directed && !explicit then none
    else
      let r : Reading := ⟨if explicit then ts.drop 1 else ts, handles, [], [], 0⟩
      match r.rest with
      | .streamEnd :: _ => some (some .null)
      | .documentEnd :: rest => if isOver rest then some (some .null) else none
      | _ =>
        let (n, r) ← r.node? true false (3 * ts.length + 3)
        if isOver r.rest then some (some n) else none

end Reading

end Courier.Document.Yaml
