import Courier.Fault

/-!
What a provider says about its own errors: whether the call that failed may be repeated, and which
code of the taxonomy an error belongs to.
-/

namespace Courier

structure Provider (ε : Type) where
  name : String
  retryable : Trouble ε → Bool
  code : Trouble ε → Code

/-- A provider's error as the caller sees it. -/
def Provider.fault {ε : Type} (p : Provider ε) (t : Trouble ε) : Fault ε :=
  Fault.wrap (p.code t) p.name t

/-- How a handle of the given kind stands in a diagnostic. -/
def handleText (kind provider : String) : String :=
  kind ++ " \x7b provider: " ++ Text.quoted provider ++ ", .. \x7d"

end Courier
