import Courier.Batcher
import Courier.Provider
import Courier.Retry.Call

/-!
An outbox: a batcher with a single handler task whose handler call is one retried call to a
provider. A batch is taken first and then passed on; calls to the provider never overlap, and every
attempt for a batch carries the same items.

The outbox has a token of its own. Once it is stopped, a failed attempt is the last one for its
batch, and a pause between attempts may end early.
-/

namespace Courier.Outbox

variable {α ε : Type}

/-- The batch in the provider's hands, or between two attempts. -/
structure Delivery (α ε : Type) where
  number : Nat
  batch : List (Entry α)
  call : Retry.Call Unit (Trouble ε)

/-- One call to the provider, as the provider saw it, and the number of the batch it carries. -/
structure Attempt (α : Type) where
  number : Nat
  items : List α
  first : Bool
  /-- The outbox's token had fired when the call began. -/
  stopped : Bool
  deriving DecidableEq

structure State (α ε : Type) where
  batcher : Batcher.State α ε
  provider : Provider ε
  policy : Retry.Policy
  stopped : Bool
  /-- The batch that has been taken and not been passed on yet. -/
  ready : Option (Batcher.Running α)
  delivery : Option (Delivery α ε)
  /-- Every call to the provider, in order. -/
  attempts : List (Attempt α)

inductive Event (α ε : Type)
  | submit (item : α)
  | leave (ticket : Nat)
  | look
  /-- The batch that was taken is passed on: the provider is called with it for the first time. -/
  | call
  /-- The provider answers; `jitter` is what would be drawn for a pause. -/
  | returned (result : Except (Trouble ε) Unit) (jitter : Binary64)
  | brokeOff
  | resumed
  | cut
  | stop
  | drain (id : Nat) (move : Batcher.DrainMove)

namespace State

def new (limits : Limits) (provider : Provider ε) (policy : Retry.Policy) : State α ε :=
  ⟨.new limits.single, provider, policy, false, none, none, []⟩

/-- What the outcome of a retried call means for the waiters of its batch. -/
def ending? (s : State α ε) (c : Retry.Call Unit (Trouble ε)) : Option (Ending ε) :=
  match c.phase with
  | .done (.ok ()) => some (.returned (.ok ()))
  | .done (.error t) => some (.returned (.error (s.provider.fault t)))
  | .broken => some .panicked
  | _ => none

/-- The retried call in progress after one of its moments. -/
def progress? (s : State α ε) (e : Retry.Event Unit (Trouble ε)) : Option (Delivery α ε) := do
  let d ← s.delivery
  let call ← d.call.next? s.policy s.provider.retryable e
  some { d with call := call }

/-- The outcome of the batch in progress, if this moment settles it. -/
def settles? (s : State α ε) (e : Retry.Event Unit (Trouble ε)) : Option (Ending ε) :=
  (s.progress? e).bind fun d => s.ending? d.call

def attempt (s : State α ε) (d : Delivery α ε) : Attempt α :=
  ⟨d.number, d.batch.map (·.item), d.call.attempts == 1, s.stopped⟩

def advance (s : State α ε) (e : Retry.Event Unit (Trouble ε)) : Option (State α ε) := do
  let d ← s.progress? e
  match s.ending? d.call, d.call.phase with
  | some how, _ => do
    let b ← s.batcher.step (.finish d.number how)
    some { s with batcher := b, delivery := none }
  | none, .attempting => some { s with delivery := some d, attempts := s.attempts ++ [s.attempt d] }
  | none, _ => some { s with delivery := some d }

/-- A handler task takes the next batch, or ends. -/
def look (s : State α ε) : Option (State α ε) :=
  (s.batcher.step .look).map fun b =>
    { s with batcher := b, ready := b.running? s.batcher.taken.length }

def call (s : State α ε) : Option (State α ε) :=
  s.ready.map fun r =>
    let d : Delivery α ε := ⟨r.number, r.batch, .start⟩
    { s with ready := none, delivery := some d, attempts := s.attempts ++ [s.attempt d] }

def passOn (s : State α ε) (e : Batcher.Event α ε) : Option (State α ε) :=
  (s.batcher.step e).map fun b => { s with batcher := b }

def step (s : State α ε) : Event α ε → Option (State α ε)
  | .submit item => s.passOn (.submit item)
  | .leave ticket => s.passOn (.leave ticket)
  | .look => s.look
  | .call => s.call
  | .returned r jitter => s.advance (.returned r s.stopped jitter)
  | .brokeOff => s.advance .brokeOff
  | .resumed => s.advance .resumed
  | .cut => if s.stopped then s.advance .cut else none
  | .stop => some { s with stopped := true }
  | .drain id move => s.passOn (.drain id move)

/-- The items in the provider's hands, while a call to it is running. -/
def calling? (s : State α ε) : Option (List α) :=
  match s.delivery with
  | some d => match d.call.phase with
    | .attempting => some (d.batch.map (·.item))
    | _ => none
  | none => none

/-- The pause between two attempts that is running, if there is one. -/
def pausing? (s : State α ε) : Option Duration :=
  match s.delivery with
  | some d => match d.call.phase with
    | .pausing length _ => some length
    | _ => none
  | none => none

/-- The next moment that needs neither the provider nor the clock. -/
def next? (s : State α ε) : Option (Event α ε) :=
  if s.ready.isSome then some .call
  else if s.batcher.looking ≠ 0 then some .look
  else if s.stopped ∧ s.pausing?.isSome then some .cut
  else none

end State

end Courier.Outbox
