/-!
Acknowledging a message: a one-shot. A message obtained from a subscription carries an action; the
first acknowledgement takes the action away before running it, and only an action that returns marks
the message as acknowledged.
-/

namespace Courier

structure Acknowledgement (κ : Type) where
  action : Option κ
  acked : Bool
  deriving DecidableEq, Repr

/-- What one acknowledgement came to. -/
inductive AckAnswer (κ : Type)
  /-- The action ran; it returned, or it failed half-way. -/
  | ran (action : κ) (returned : Bool)
  | twice
  | notReceived
  deriving DecidableEq, Repr

namespace Acknowledgement

variable {κ : Type}

/-- A message built by the application has nothing to run. -/
def absent : Acknowledgement κ := ⟨none, false⟩

def ready (action : κ) : Acknowledgement κ := ⟨some action, false⟩

/-- `returns` tells which actions come back. -/
def ack (a : Acknowledgement κ) (returns : κ → Bool) : AckAnswer κ × Acknowledgement κ :=
  if a.acked then (.twice, a)
  else match a.action with
    | none => (.notReceived, a)
    | some k => (.ran k (returns k), ⟨none, returns k⟩)

end Acknowledgement

end Courier
