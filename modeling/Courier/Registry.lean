import Courier.Fault
import Courier.Url

/-!
Openers by URL scheme. A scheme is registered once, in any case of its letters, and stays.
-/

namespace Courier

structure Registry (Ω : Type) where
  /-- What the openers open. -/
  kind : String
  /-- Schemes in lower case, in the order of their registration. -/
  entries : List (String × Ω)

/-- The refusal of a scheme that is taken. -/
structure SchemeTaken where
  kind : String
  scheme : String
  deriving DecidableEq

def SchemeTaken.message (t : SchemeTaken) : String :=
  "pubsub: " ++ t.kind ++ " scheme " ++ Text.quoted t.scheme ++ " is already registered"

def loweredScheme (s : String) : String := String.ofList (s.toList.map Char.toLower)

namespace Registry

variable {Ω ε : Type}

def empty (kind : String) : Registry Ω := ⟨kind, []⟩

/-- The opener of a scheme that is in lower case. -/
def find? (r : Registry Ω) (scheme : String) : Option Ω :=
  (r.entries.find? (·.1 = scheme)).map (·.2)

def register (r : Registry Ω) (scheme : String) (opener : Ω) : Except SchemeTaken (Registry Ω) :=
  let s := loweredScheme scheme
  if (r.find? s).isSome then .error ⟨r.kind, s⟩
  else .ok { r with entries := r.entries ++ [(s, opener)] }

/-- The opener for a URL. -/
def lookup (r : Registry Ω) (u : Url) : Except (Fault ε) Ω :=
  match r.find? u.scheme with
  | some o => .ok o
  | none => .error (.noProvider r.kind u.scheme)

/-- Reads a URL and finds its opener. -/
def resolve (r : Registry Ω) (text : String) : Except (Fault ε) (Ω × Url) :=
  match Url.ofText text with
  | .error f => .error (.invalidUrl text f.message)
  | .ok u => (r.lookup u).map fun o => (o, u)

/-- The registered schemes, in the order of their characters. -/
def schemes (r : Registry Ω) : List String := (r.entries.map (·.1)).mergeSort fun a b => a ≤ b

end Registry

end Courier
