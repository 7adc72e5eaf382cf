import Courier.Outbox
import Courier.Token

/-!
Closing a handle: its fault is set first, then its outbox is drained, and then its own token fires.
The caller's token may end the wait for the drain; it is asked once more at the very end, and the
answer then is that the call was canceled.
-/

namespace Courier.Closing

variable {α ε : Type}

inductive Phase (ε : Type)
  | begun
  /-- The handle is closed. -/
  | closed
  | draining
  /-- Drained, or no longer waiting for it. -/
  | leaving
  | done (outcome : Outcome ε)

structure Call (ε : Type) where
  token : Option Token
  phase : Phase ε

def Call.live (c : Call ε) : Bool :=
  match c.phase with
  | .done _ => false
  | _ => true

def Call.outcome? (c : Call ε) : Option (Outcome ε) :=
  match c.phase with
  | .done o => some o
  | _ => none

/-- One moment of the call with number `id`. The first one is the handle's own. -/
def advance (o : Outbox.State α ε) (fired : List Token) (id : Nat) (c : Call ε) :
    Option (Outbox.State α ε × Phase ε) :=
  match c.phase with
  | .begun => some (o, .closed)
  | .closed => (o.step (.drain id .start)).map (·, .draining)
  | .draining =>
    match o.batcher.drain? id with
    | some (.looking _) => (o.step (.drain id .look)).map (·, .draining)
    | some (.resting true) => (o.step (.drain id .wake)).map (·, .draining)
    | some .finished => some (o, .leaving)
    | _ => none
  | .leaving =>
    (o.step .stop).map (·, .done (if fires fired c.token then .error .canceled else .ok ()))
  | .done _ => none

/-- The caller's token ends the wait, whether or not the drain has been asked for. -/
def cancel (o : Outbox.State α ε) (fired : List Token) (id : Nat) (c : Call ε) :
    Option (Outbox.State α ε × Phase ε) :=
  if fires fired c.token then
    match c.phase with
    | .closed => some (o, .leaving)
    | .draining => (o.step (.drain id .leave)).map (·, .leaving)
    | _ => none
  else none

/-- How a closing call moves when it is left to itself. -/
inductive Move
  | none
  | advance
  | cancel
  deriving DecidableEq

def move (o : Outbox.State α ε) (fired : List Token) (id : Nat) (c : Call ε) : Move :=
  match c.phase with
  | .draining =>
    if fires fired c.token then .cancel
    else match o.batcher.drain? id with
      | some (.resting false) => .none
      | _ => .advance
  | .done _ => .none
  | _ => .advance

end Courier.Closing
