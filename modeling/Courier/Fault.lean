import Courier.Code
import Courier.Text.Quoted

/-!
Faults: every way in which an operation of this library can fail. A provider's own error stays
reachable as the cause of the fault that carries it.
-/

namespace Courier

/-- What a provider's error says when it is shown. -/
class Describe (ε : Type) where
  describe : ε → String

export Describe (describe)

instance : Describe String := ⟨id⟩

inductive Fault (ε : Type)
  /-- The caller's token fired. Never carried inside another fault. -/
  | canceled
  /-- Raised by this library rather than by a provider. -/
  | canonical (code : Code) (message : String)
  /-- Raised by a provider, which also chose the code. -/
  | provider (code : Code) (name : String) (cause : ε)
  /-- A metadata key or value that no broker can carry. -/
  | invalidMetadata (key reason : String)
  | invalidUrl (url reason : String)
  | noProvider (kind scheme : String)
  /-- The opener of a URL refused it. -/
  | refused (kind url message : String)
  | configuration (message : String)
  deriving DecidableEq, Repr

/-- What a provider call can end with: an error of the provider's own, or one that already is a
fault. -/
inductive Trouble (ε : Type)
  | fault (f : Fault ε)
  | native (cause : ε)
  deriving DecidableEq, Repr

namespace Fault

variable {ε : Type}

def code : Fault ε → Code
  | canceled => .canceled
  | canonical c _ => c
  | provider c _ _ => c
  | invalidMetadata .. => .invalidArgument
  | invalidUrl .. => .invalidArgument
  | noProvider .. => .notFound
  | refused .. => .invalidArgument
  | configuration _ => .invalidArgument

def isCanceled : Fault ε → Bool
  | canceled => true
  | _ => false

def cause? : Fault ε → Option ε
  | provider _ _ e => some e
  | _ => none

/-- A provider's error takes the provider's code and name; what already is a fault stays as it is. -/
def wrap (c : Code) (name : String) : Trouble ε → Fault ε
  | .fault f => f
  | .native e => provider c name e

/-- What a handle answers for ever once it has been shut down. -/
def closed (what : String) : Fault ε :=
  canonical .failedPrecondition (what ++ " closed")

def message [Describe ε] : Fault ε → String
  | canceled => "operation canceled"
  | canonical c m => "pubsub (code=" ++ c.name ++ "): " ++ m
  | provider c name e => "pubsub (code=" ++ c.name ++ ") " ++ name ++ ": " ++ describe e
  | invalidMetadata key reason =>
    "invalid message metadata " ++ Text.quoted key ++ ": " ++ reason
  | invalidUrl url reason => "invalid URL " ++ Text.quoted url ++ ": " ++ reason
  | noProvider kind scheme =>
    "no " ++ kind ++ " provider registered for scheme " ++ Text.quoted scheme
  | refused kind url m => "open " ++ kind ++ " " ++ url ++ ": " ++ m
  | configuration m => "configuration error: " ++ m

end Fault

instance {ε : Type} [Describe ε] : Describe (Trouble ε) where
  describe
    | .fault f => f.message
    | .native e => describe e

end Courier
