import Courier.Fault
import Courier.Limits

/-!
The batcher: items submitted one by one are handled in batches. While a handler call runs, items
that arrive wait together and make up the next batch. Handler tasks are started as needed, up to a
limit, and end when nothing is left to take.

A batcher is a state and a step for each moment at which it changes: a submission, a handler task
that looks at the queue, the end of a handler call, and the moments of a call that shuts it down.
Any order of these moments is a run.
-/

namespace Courier

/-- A submitted item and the number under which its submitter waits. -/
structure Entry (α : Type) where
  ticket : Nat
  item : α
  deriving DecidableEq

/-- What every waiter of a batch is told. -/
abbrev Outcome (ε : Type) := Except (Fault ε) Unit

/-- How a handler call ends once it has begun to run. -/
inductive Ending (ε : Type)
  | returned (outcome : Outcome ε)
  | panicked

namespace Batcher

/-- A handler call in progress, numbered from zero. -/
structure Running (α : Type) where
  number : Nat
  batch : List (Entry α)
  deriving DecidableEq

/-- A call that shuts the batcher down and waits until it is idle. It asks to be woken before it
looks, so that no wake-up between its look and its rest is lost. -/
inductive Drain
  | looking (woken : Bool)
  | resting (woken : Bool)
  | finished
  deriving DecidableEq, Repr

def Drain.wake : Drain → Drain
  | .looking _ => .looking true
  | .resting _ => .resting true
  | .finished => .finished

structure State (α ε : Type) where
  limits : Limits
  /-- Accepted and not yet taken, oldest first. -/
  pending : List (Entry α)
  /-- Handler tasks that are counted against the limit. -/
  active : Nat
  shut : Bool
  /-- Handler tasks about to look at the queue. -/
  looking : Nat
  running : List (Running α)
  drains : List (Nat × Drain)
  /-- Everything accepted, in the order of submission. -/
  accepted : List (Entry α)
  /-- Tickets of items that came after the shutdown. -/
  refused : List Nat
  /-- Everything taken, batch by batch. -/
  taken : List (List (Entry α))
  /-- What was told to whom, in order. -/
  told : List (Nat × Outcome ε)
  /-- Tickets whose handler call vanished without an answer. -/
  abandoned : List Nat
  /-- Tickets nobody waits for any more. -/
  left : List Nat

/-- The moments of a call that shuts the batcher down. -/
inductive DrainMove
  | start
  | look
  | wake
  | leave
  deriving DecidableEq, Repr

inductive Event (α ε : Type)
  | submit (item : α)
  /-- A waiter gives up; its item stays where it is. -/
  | leave (ticket : Nat)
  /-- A handler task looks at the queue: it takes a batch or ends. -/
  | look
  | finish (number : Nat) (how : Ending ε)
  /-- The handler fails before it can be waited for, and takes its task with it. -/
  | crash (number : Nat)
  | drain (id : Nat) (move : DrainMove)

def shutDownFault {ε : Type} : Fault ε := .canonical .failedPrecondition "batcher: shut down"

def panicFault {ε : Type} : Fault ε := .canonical .internal "batcher: batch handler panicked"

/-- What a waiter is told whose handler call vanished. -/
def vanishedFault {ε : Type} : Fault ε :=
  .canonical .internal "batcher: handler dropped without reporting a result"

/-- A panic is told to the waiters as an internal fault. -/
def outcomeOf {ε : Type} : Ending ε → Outcome ε
  | .returned o => o
  | .panicked => .error panicFault

/-- How many items a batch takes when `waiting` wait. -/
def batchSize (limits : Limits) (waiting : Nat) : Nat :=
  if limits.maxBatchSize = 0 then waiting else Nat.min waiting limits.maxBatchSize

def maxActive (limits : Limits) : Nat := Nat.max limits.maxHandlers 1

namespace State

variable {α ε : Type}

def new (limits : Limits) : State α ε :=
  ⟨limits, [], 0, false, 0, [], [], [], [], [], [], [], []⟩

def nextTicket (s : State α ε) : Nat := s.accepted.length + s.refused.length

def idle (s : State α ε) : Bool := s.active == 0 && s.pending.isEmpty

/-- What the submitter with this ticket was told, if anything yet. -/
def answer? (s : State α ε) (ticket : Nat) : Option (Outcome ε) :=
  (s.told.find? (·.1 = ticket)).map (·.2)

def submit (s : State α ε) (item : α) : State α ε :=
  let e : Entry α := ⟨s.nextTicket, item⟩
  if s.shut then
    { s with
      refused := s.refused ++ [e.ticket]
      told := s.told ++ [(e.ticket, .error shutDownFault)] }
  else
    let s := { s with pending := s.pending ++ [e], accepted := s.accepted ++ [e] }
    if s.active < maxActive s.limits then
      { s with active := s.active + 1, looking := s.looking + 1 }
    else s

/-- The last handler task to leave wakes every call that waits for it. -/
def endTask (s : State α ε) : State α ε :=
  let s := { s with looking := s.looking - 1, active := s.active - 1 }
  if s.active = 0 then { s with drains := s.drains.map fun d => (d.1, d.2.wake) } else s

def takeBatch (s : State α ε) : State α ε :=
  let n := batchSize s.limits s.pending.length
  let batch := s.pending.take n
  { s with
    pending := s.pending.drop n
    looking := s.looking - 1
    running := s.running ++ [⟨s.taken.length, batch⟩]
    taken := s.taken ++ [batch] }

def look (s : State α ε) : State α ε :=
  if s.pending.isEmpty then s.endTask else s.takeBatch

def running? (s : State α ε) (number : Nat) : Option (Running α) :=
  s.running.find? (·.number = number)

def drain? (s : State α ε) (id : Nat) : Option Drain :=
  (s.drains.find? (·.1 = id)).map (·.2)

def setDrain (s : State α ε) (id : Nat) (d : Drain) : State α ε :=
  { s with drains := s.drains.map fun x => if x.1 = id then (id, d) else x }

def withoutRunning (s : State α ε) (number : Nat) : List (Running α) :=
  s.running.filter (·.number ≠ number)

/-- A look marks the batcher as shut down, and ends the call if nothing is left to wait for. -/
def moveDrain (s : State α ε) (id : Nat) : DrainMove → Option (State α ε)
  | .start =>
    if (s.drain? id).isSome then none
    else some { s with drains := s.drains ++ [(id, .looking false)] }
  | .look =>
    match s.drain? id with
    | some (.looking woken) =>
      some ({ s with shut := true }.setDrain id (if s.idle then .finished else .resting woken))
    | _ => none
  | .wake =>
    match s.drain? id with
    | some (.resting true) => some (s.setDrain id (.looking false))
    | _ => none
  | .leave => some { s with drains := s.drains.filter (·.1 ≠ id) }

def step (s : State α ε) : Event α ε → Option (State α ε)
  | .submit item => some (s.submit item)
  | .leave ticket => some { s with left := s.left ++ [ticket] }
  | .look => if s.looking = 0 then none else some s.look
  | .finish number how => do
    let r ← s.running? number
    some { s with
      running := s.withoutRunning number
      looking := s.looking + 1
      told := s.told ++ r.batch.map fun e => (e.ticket, outcomeOf how) }
  | .crash number => do
    let r ← s.running? number
    some { s with
      running := s.withoutRunning number
      abandoned := s.abandoned ++ r.batch.map (·.ticket) }
  | .drain id move => s.moveDrain id move

/-- The next moment that needs nobody else: a look at the queue, then a call that shuts down and can
move. -/
def next? (s : State α ε) : Option (Event α ε) :=
  if s.looking ≠ 0 then some .look
  else s.drains.findSome? fun d => match d.2 with
    | .looking _ => some (.drain d.1 .look)
    | .resting true => some (.drain d.1 .wake)
    | _ => none

end State

end Batcher

end Courier
