import Courier.Binary64
import Courier.Document.Json

/-!
The value of a configuration document, whatever format it was written in, and how one value is laid
over another: tables merge entry by entry, everything else replaces what was there.
-/

namespace Courier.Document

inductive Value
  | null
  | bool (b : Bool)
  | integer (n : Int)
  | real (x : Binary64)
  | text (s : String)
  | list (items : List Value)
  | table (entries : List (String × Value))

abbrev Entries := List (String × Value)

namespace Entries

def get? (es : Entries) (key : String) : Option Value :=
  (List.find? (fun e => e.1 = key) es).map (·.2)

/-- Sets one entry and leaves the others where they are. -/
def put (es : Entries) (key : String) (v : Value) : Entries :=
  match es with
  | [] => [(key, v)]
  | e :: rest => if e.1 = key then (key, v) :: rest else e :: put rest key v

end Entries

namespace Value

/-- The entries of a table; anything else has none. -/
def entries : Value → Entries
  | table es => es
  | _ => []

def items : Value → List Value
  | list xs => xs
  | _ => []

mutual

def overlay (old : Value) : Value → Value
  | table es => table (overlayEntries old.entries es)
  | v => v

def overlayEntries (old : Entries) : Entries → Entries
  | [] => old
  | (key, v) :: rest =>
    overlayEntries (old.put key (overlay ((old.get? key).getD null) v)) rest

end

/-- Containers may be nested as deep as `bound`; of entries with one key the last one counts. -/
def ofJson? : Nat → Json → Option Value
  | _, .null => some null
  | _, .bool b => some (bool b)
  | _, .number n => n.value?.map fun
    | .whole k => integer k
    | .real x => real x
  | _, .text s => s.map text
  | 0, _ => none
  | bound + 1, .list xs => (xs.mapM (ofJson? bound)).map list
  | bound + 1, .object ms =>
    let add (es : Entries) (m : Option String × Json) : Option Entries := do
      some (es.put (← m.1) (← ofJson? bound m.2))
    (ms.foldlM add []).map table

def ofJsonText? (text : String) : Option Value := do ofJson? 127 (← Json.ofText? text)

end Value

end Courier.Document
