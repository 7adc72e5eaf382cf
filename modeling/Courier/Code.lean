/-!
The taxonomy of error codes that every provider maps its own errors onto.
-/

namespace Courier

inductive Code
  /-- The error could not be classified. -/
  | unknown
  /-- The addressed resource does not exist. -/
  | notFound
  /-- The handle or the provider is not in a state that allows the operation. -/
  | failedPrecondition
  /-- An invariant of the provider or of this library was broken. -/
  | internal
  /-- The provider does not support the operation. -/
  | unimplemented
  /-- The caller may not do this. -/
  | permissionDenied
  /-- A quota or another limit was hit. -/
  | resourceExhausted
  /-- The caller supplied an invalid value. -/
  | invalidArgument
  /-- The caller withdrew the operation. -/
  | canceled
  deriving DecidableEq, Repr

namespace Code

def all : List Code :=
  [.unknown, .notFound, .failedPrecondition, .internal, .unimplemented, .permissionDenied,
    .resourceExhausted, .invalidArgument, .canceled]

def name : Code → String
  | .unknown => "Unknown"
  | .notFound => "NotFound"
  | .failedPrecondition => "FailedPrecondition"
  | .internal => "Internal"
  | .unimplemented => "Unimplemented"
  | .permissionDenied => "PermissionDenied"
  | .resourceExhausted => "ResourceExhausted"
  | .invalidArgument => "InvalidArgument"
  | .canceled => "Canceled"

/-- Names are read exactly: no other case, no blanks. -/
def ofName? (s : String) : Option Code :=
  all.find? fun c => c.name = s

end Code

end Courier
