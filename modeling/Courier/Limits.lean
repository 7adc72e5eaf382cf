/-!
Limits on batches.
-/

namespace Courier

structure Limits where
  /-- How many handler calls may run at once; zero counts as one. -/
  maxHandlers : Nat
  /-- Items in one batch; zero means without limit. -/
  maxBatchSize : Nat
  deriving DecidableEq, Repr

instance : Inhabited Limits := ⟨⟨1, 100⟩⟩

/-- Calls to a provider never overlap. -/
def Limits.single (l : Limits) : Limits := { l with maxHandlers := 1 }

end Courier
