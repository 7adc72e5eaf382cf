/-!
Cancellation tokens. A call may carry a token; calls that carry the same token are withdrawn
together when it fires.
-/

namespace Courier

abbrev Token := String

/-- Has the token of a call fired? A call without a token is never canceled. -/
def fires (fired : List Token) (token : Option Token) : Bool :=
  match token with
  | none => false
  | some t => fired.contains t

end Courier
