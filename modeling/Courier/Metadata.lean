import Courier.Fault

/-!
Message metadata: text keys with text values. A later entry for a key takes the place of an earlier
one. Keys and values must be text that a broker can carry.
-/

namespace Courier

abbrev Metadata := List (String × String)

/-- Why a broker cannot carry an entry. -/
inductive MetadataFlaw
  | emptyKey
  | nulInKey
  | nulInValue
  deriving DecidableEq, Repr

def MetadataFlaw.reason : MetadataFlaw → String
  | emptyKey => "keys must not be empty"
  | nulInKey => "keys must not contain NUL characters"
  | nulInValue => "values must not contain NUL characters"

def hasNul (s : String) : Bool := s.toList.contains (Char.ofNat 0)

namespace Metadata

def insert (m : Metadata) (key value : String) : Metadata :=
  if m.any (·.1 = key) then m.map fun e => if e.1 = key then (key, value) else e
  else m ++ [(key, value)]

/-- An empty key is reported before a NUL in the key, and that before one in the value. -/
def entryFlaw? (e : String × String) : Option MetadataFlaw :=
  if e.1.isEmpty then some .emptyKey
  else if hasNul e.1 then some .nulInKey
  else if hasNul e.2 then some .nulInValue
  else none

/-- The first entry that cannot be carried, as a fault. -/
def flaw? {ε : Type} : Metadata → Option (Fault ε)
  | [] => none
  | e :: rest =>
    match entryFlaw? e with
    | some f => some (.invalidMetadata e.1 f.reason)
    | none => flaw? rest

/-- How metadata stands in a diagnostic. -/
def render (m : Metadata) : String :=
  "\x7b" ++ ", ".intercalate (m.map fun e => Text.quoted e.1 ++ ": " ++ Text.quoted e.2) ++ "\x7d"

end Metadata

end Courier
