import Courier.Document.Toml
import Courier.Document.Yaml
import Courier.Settings.Place
import Courier.Settings.Written

/-!
Settings in layers: the defaults, then a file, then the environment. A later layer wins field by
field. Values are read with some tolerance, since the environment holds only texts.
-/

namespace Courier

open Document

/-- The words that a text can use for one and zero. -/
def Document.wordCount? (s : String) : Option Nat :=
  if ["true", "on", "yes"].contains s.toLower then some 1
  else if ["false", "off", "no"].contains s.toLower then some 0
  else none

namespace Document.Value

/-- Digits, after at most one plus sign. -/
def digitsCount? (s : String) : Option Nat :=
  let ds := match s.toList with
    | '+' :: r => r
    | r => r
  if !ds.isEmpty && ds.all Char.isDigit then some (Binary64.valueOf ds) else none

/-- The value as a whole number below `limit`; real numbers are rounded. -/
def count? (limit : Nat) (v : Value) : Option Nat :=
  let n := match v with
    | bool b => some b.toNat
    | integer (.ofNat n) => some n
    | real x => some x.nearestCount
    | text s => (wordCount? s).or (digitsCount? s)
    | _ => none
  n.filter (· < limit)

def word? (v : Value) : Option UInt64 := (v.count? UInt64.size).map Nat.toUInt64

def real? : Value → Option Binary64
  | bool b => some (.ofNat b.toNat)
  | integer n => some (.ofInt n)
  | real x => some x
  | text s => ((wordCount? s).map Binary64.ofNat).or (Binary64.ofText? s)
  | _ => none

/-- Null stands for no limit. -/
def attempts? : Value → Option (Option UInt32)
  | null => some none
  | v => ((v.count? UInt64.size).filter (· < UInt32.size)).map fun n => some n.toUInt32

/-- What each named field holds, in the order of `names`: by name from a table, by position from a
list. -/
def fields? (names : List String) : Value → Option (List (Option Value))
  | table es => some (names.map (Entries.get? es))
  | list vs => some (names.zipIdx.map fun n => vs[n.2]?)
  | _ => none

end Document.Value

namespace Settings

/-- The value that a field has, or its default. -/
def fieldOr {α : Type} (d : α) (read : Value → Option α) : Option Value → Option α
  | none => some d
  | some v => read v

def retryOfValue? (v : Value) : Option RetrySettings := do
  let d : RetrySettings := default
  match ← v.fields? retryNames with
  | [a, b, c, e, f] =>
    some ⟨← fieldOr d.initialDelayMs Value.word? a, ← fieldOr d.maxDelayMs Value.word? b,
      ← fieldOr d.multiplier Value.real? c, ← fieldOr d.jitterPercent Value.real? e,
      ← fieldOr d.maxAttempts Value.attempts? f⟩
  | _ => none

def batchingOfValue? (v : Value) : Option BatchingSettings := do
  match ← v.fields? batchingNames with
  | [a] => some ⟨← fieldOr (default : BatchingSettings).maxBatchSize Value.word? a⟩
  | _ => none

def flowOfValue? (v : Value) : Option FlowSettings := do
  let d : FlowSettings := default
  match ← v.fields? flowNames with
  | [a, b, c] =>
    some ⟨← fieldOr d.desiredQueueDurationMs Value.word? a, ← fieldOr d.decay Value.real? b,
      ← fieldOr d.maxFetchSize Value.word? c⟩
  | _ => none

def ofEntries? (es : Entries) : Option Settings := do
  some ⟨← fieldOr default retryOfValue? (es.get? "retry"),
    ← fieldOr default batchingOfValue? (es.get? "batching"),
    ← fieldOr default flowOfValue? (es.get? "flow_control")⟩

/-- The text with every pair of underscores turned into a point. -/
def pointed : List Char → List Char
  | '_' :: '_' :: r => '.' :: pointed r
  | c :: r => c :: pointed r
  | [] => []

/-- The path that a variable's name stands for, if the variable is for settings at all. Names are
read in lower case. -/
def variablePath? (name : String) : Option String :=
  let cs := (name.toLower).toList
  let start := (environmentName.toLower ++ "__").toList
  if start.isPrefixOf cs then some (String.ofList (pointed (cs.drop start.length))) else none

/-- The environment as a source: every value is a text. -/
def ofEnvironment (environment : List (String × String)) : Entries :=
  environment.filterMap fun e => (variablePath? e.1).map fun path => (path, .text e.2)

/-- The table that a file and the environment make together. -/
def layered (file : Entries) (environment : List (String × String)) : Entries :=
  addSource (addSource [] file) (ofEnvironment environment)

inductive Format
  | json
  | toml
  | yaml
  deriving DecidableEq

namespace Format

/-- The ends of file names, and the formats that they stand for. -/
def extensions : List (String × Format) :=
  [("json", json), ("toml", toml), ("yaml", yaml), ("yml", yaml)]

/-- The end of a file name after its last point; a name that only starts with a point has none. -/
def extension (name : String) : String :=
  let cs := name.toList.reverse
  let e := cs.takeWhile (· ≠ '.')
  if e.length + 1 < cs.length then String.ofList e.reverse else ""

def ofName? (name : String) : Option Format := extensions.lookup (extension name)

def read? (f : Format) (text : String) : Option Value :=
  match f with
  | json => Value.ofJsonText? text
  | toml => Value.ofTomlText? text
  | yaml => Value.ofYamlText? text

end Format

/-- Why loading settings fails. -/
inductive LoadFlaw
  /-- There is no such file, or its name tells no format. -/
  | noFile (path : String)
  /-- The file is not a table in its format. -/
  | malformed (path : String)
  /-- A value cannot be read as its field needs it. -/
  | unreadable
  | invalid (flaw : SettingsFlaw)
  deriving DecidableEq

def LoadFlaw.message : LoadFlaw → String
  | noFile path => "configuration file " ++ path ++ " not found"
  | malformed path => "configuration file " ++ path ++ " is malformed"
  | unreadable => "a value has the wrong type"
  | invalid f => f.message

def LoadFlaw.fault {ε : Type} (f : LoadFlaw) : Fault ε := .configuration f.message

/-- The parts of a path between slashes. -/
def pathParts : List Char → List (List Char)
  | [] => [[]]
  | c :: rest =>
    match pathParts rest with
    | [] => [[c]]
    | p :: ps => if c = '/' then [] :: p :: ps else (c :: p) :: ps

/-- The name that a path means in the directory, and whether the path ends with the name itself. A
point stands for the directory; a path that leads out of it means no file there. -/
def fileName? (path : String) : Option (String × Bool) :=
  let parts := pathParts path.toList
  match path.startsWith "/", parts.filter fun p => !p.isEmpty && p ≠ ['.'] with
  | false, [name] =>
    if name = ['.', '.'] then none else some (String.ofList name, parts.getLast? = some name)
  | _, _ => none

/-- The file that a path means, its format and text: the file of that name, or one whose name has an
extension more. -/
def findFile? (files : List (String × String)) (path : String) : Option (Format × String) := do
  let (name, exact) ← fileName? path
  match if exact then files.lookup name else none with
  | some text => (Format.ofName? name).map fun f => (f, text)
  | none => Format.extensions.findSome? fun e =>
      (files.lookup (name ++ "." ++ e.1)).map fun text => (e.2, text)

/-- A byte order mark at the start does not belong to the text. -/
def withoutMark (text : String) : String :=
  match text.toList with
  | '\ufeff' :: r => String.ofList r
  | _ => text

def readFile (files : List (String × String)) (path : String) : Except LoadFlaw Entries :=
  match findFile? files path with
  | none => .error (.noFile path)
  | some (f, text) =>
    match f.read? (withoutMark text) with
    | some (.table es) => .ok es
    | _ => .error (.malformed path)

/-- The settings of a layered table, if all of them can be read and obey the rules. -/
def ofLayers (file : Entries) (environment : List (String × String)) : Except LoadFlaw Settings :=
  match ofEntries? (layered file environment) with
  | none => .error .unreadable
  | some s =>
    match s.flaw? with
    | some f => .error (.invalid f)
    | none => .ok s

/-- Loads settings from a file, if a path is given, and the environment. -/
def load (files : List (String × String)) (path : Option String)
    (environment : List (String × String)) : Except LoadFlaw Settings :=
  match path with
  | none => ofLayers [] environment
  | some p => do ofLayers (← readFile files p) environment

end Settings

end Courier
