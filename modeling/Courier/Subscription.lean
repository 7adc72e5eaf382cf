import Courier.Closing
import Courier.Message
import Courier.Settings

/-!
A subscription: any number of receives at once, served from a local queue. When the queue is empty,
one receive fetches a batch from the provider and the others wait for the end of that round, then
look again. Acknowledgements go out through an outbox of their own.

A receive or a shutdown is a call with a phase; each event moves one call, one message, the outbox or
a token by one moment.
-/

namespace Courier.Subscription

variable {ε : Type}

/-- A message that came in, numbered from zero in the order of arrival. -/
structure Delivery where
  serial : Nat
  parcel : Parcel
  deriving DecidableEq

/-- What the acknowledgement of a message does. -/
inductive Action
  /-- The provider's own replacement for acknowledging. -/
  | replace
  | send (ackId : AckId)
  /-- The message came without an acknowledgement token. -/
  | nothing
  deriving DecidableEq

/-- A message in the application's hands. -/
structure Held where
  serial : Nat
  parcel : Parcel
  ack : Acknowledgement Action
  deriving DecidableEq

abbrev Fetch (ε : Type) := Retry.Call (List Parcel) (Trouble ε)

/-- What becomes of the receive that owned a round, once the end of the round has been signalled. -/
inductive Sequel (ε : Type)
  | again
  | failed (fault : Fault ε)
  | collapsed
  /-- Its caller has dropped it. -/
  | gone

inductive ReceivePhase (ε : Type)
  /-- About to look at the queue, for the first time or again. -/
  | looking
  | waiting (round : Nat)
  /-- The round is in the slot, and the provider has yet to be called. -/
  | opening (round size : Nat)
  | fetching (round size : Nat) (call : Fetch ε)
  /-- The fetch brought a batch that is not in the queue yet. -/
  | storing (round : Nat) (batch : List Parcel)
  /-- The batch is in the queue and the round still owned. -/
  | stored (round : Nat)
  | failing (round : Nat) (fault : Fault ε)
  /-- The fetch broke off. -/
  | collapsing (round : Nat)
  /-- The round is out of the slot, and those who wait for it have not been told. -/
  | signalling (round : Nat) (sequel : Sequel ε)
  | done (result : Except (Fault ε) Delivery)
  | collapsed

structure Receive (ε : Type) where
  token : Option Token
  phase : ReceivePhase ε

/-- The receive goes on from here; none if there is nobody to go on. -/
def Sequel.phase? : Sequel ε → Option (ReceivePhase ε)
  | .again => some .looking
  | .failed f => some (.done (.error f))
  | .collapsed => some .collapsed
  | .gone => none

/-- The round that a receive in this phase can give back, and what follows. -/
def ReceivePhase.giveBack? : ReceivePhase ε → Option (Nat × Sequel ε)
  | .fetching r _ _ => some (r, .gone)
  | .stored r => some (r, .again)
  | .failing r f => some (r, .failed f)
  | .collapsing r => some (r, .collapsed)
  | _ => none

/-- A round of fetching: how much it asks for, and whether its end has been signalled. -/
structure Round where
  size : Nat
  ended : Bool
  deriving DecidableEq

/-- One call to the provider for messages. -/
structure FetchAttempt where
  round : Nat
  size : Nat
  canceled : Bool
  deriving DecidableEq

structure State (ε : Type) where
  provider : Provider ε
  policy : Retry.Policy
  /-- The provider replaces acknowledging by something of its own. -/
  replaced : Bool
  outbox : Outbox.State AckId ε
  queue : List Delivery
  fault : Option (Fault ε)
  /-- The round that is in flight. -/
  round : Option Nat
  flow : Flow
  fired : List Token
  receives : List (Nat × Receive ε)
  shutdowns : List (Nat × Closing.Call ε)
  /-- Every message handed out, in that order. -/
  held : List Held
  rounds : List Round
  /-- Every message that came in, in order. -/
  arrived : List Parcel
  fetches : List FetchAttempt
  /-- Processing times of the acknowledged messages, in order. -/
  samples : List Duration
  /-- How often the provider's replacement ran. -/
  replacements : Nat

inductive Event (ε : Type)
  | receive (id : Nat) (token : Option Token)
  | receiveStep (id : Nat)
  /-- A receive that waits for a round sees its token fire. -/
  | receiveCancel (id : Nat)
  /-- The caller drops the receive. -/
  | receiveLeave (id : Nat)
  /-- The owner of a round clears the slot and has yet to signal the end of the round, so that other
  calls can come between. The two in one go are a `receiveStep`, or a `receiveLeave` where the owner
  is dropped. -/
  | receiveClear (id : Nat)
  | fetched (id : Nat) (result : Except (Trouble ε) (List Parcel)) (jitter : Binary64)
  | fetchBroke (id : Nat)
  | fetchResumed (id : Nat)
  | fetchCut (id : Nat)
  /-- The application acknowledges a message after having processed it for a while; `returns` tells
  whether the provider's replacement, if that is what runs, comes back. -/
  | ack (serial : Nat) (elapsed : Duration) (returns : Bool)
  | ackLook
  | ackCall
  | ackReturned (result : Except (Trouble ε) Unit) (jitter : Binary64)
  | ackBroke
  | ackResumed
  | ackCut
  | shutdown (id : Nat) (token : Option Token)
  | shutdownStep (id : Nat)
  | shutdownCancel (id : Nat)
  | shutdownLeave (id : Nat)
  | fire (token : Token)
  /-- The handle is dropped; no call can be in progress then. -/
  | discard

def closedFault : Fault ε := .closed "Subscription"

namespace State

def new (provider : Provider ε) (replaced : Bool) (options : SubscriptionOptions) : State ε where
  provider := provider
  policy := options.retry
  replaced := replaced
  outbox := .new options.ackBatching provider options.retry
  queue := []
  fault := none
  round := none
  flow := .new options.flow
  fired := []
  receives := []
  shutdowns := []
  held := []
  rounds := []
  arrived := []
  fetches := []
  samples := []
  replacements := 0

def receive? (s : State ε) (id : Nat) : Option (Receive ε) :=
  (s.receives.find? (·.1 = id)).map (·.2)

def shutdown? (s : State ε) (id : Nat) : Option (Closing.Call ε) :=
  (s.shutdowns.find? (·.1 = id)).map (·.2)

def held? (s : State ε) (serial : Nat) : Option Held := s.held.find? (·.serial = serial)

def setReceive (s : State ε) (id : Nat) (phase : ReceivePhase ε) : State ε :=
  { s with receives := s.receives.map fun x =>
      if x.1 = id then (id, { x.2 with phase := phase }) else x }

def setShutdown (s : State ε) (id : Nat) (phase : Closing.Phase ε) : State ε :=
  { s with shutdowns := s.shutdowns.map fun x =>
      if x.1 = id then (id, { x.2 with phase := phase }) else x }

def isOver (s : State ε) (round : Nat) : Bool := s.rounds[round]?.any (·.ended)

/-- The slot is free: nobody owns a round any more. -/
def clear (s : State ε) : State ε := { s with round := none }

/-- Those who wait for a round are woken. -/
def signal (s : State ε) (round : Nat) : State ε :=
  { s with rounds := s.rounds.modify round fun r => { r with ended := true } }

/-- The end of a round, in one go. -/
def release (s : State ε) (round : Nat) : State ε := s.clear.signal round

def action (s : State ε) (p : Parcel) : Action :=
  if s.replaced then .replace
  else match p.ackId with
    | some a => .send a
    | none => .nothing

/-- Hands the first message of the queue to a receive. -/
def handOut (s : State ε) (id : Nat) (d : Delivery) (rest : List Delivery) : State ε :=
  let h : Held := ⟨d.serial, d.parcel, .ready (s.action d.parcel)⟩
  { s with queue := rest, held := s.held ++ [h] }.setReceive id (.done (.ok d))

/-- The slot is taken, and how much the round asks for is settled. -/
def beginRound (s : State ε) (id : Nat) : State ε :=
  let n := s.rounds.length
  let r : Round := ⟨s.flow.fetchSize, false⟩
  { s with round := some n, rounds := s.rounds ++ [r] }.setReceive id (.opening n r.size)

/-- The owner of a round calls the provider. -/
def ask (s : State ε) (c : Receive ε) (round size : Nat) : State ε :=
  { s with fetches := s.fetches ++ [⟨round, size, fires s.fired c.token⟩] }

/-- One look at the state: a fault ends the receive, then a message does; else it joins the round in
flight, gives up if its token has fired, or begins a round. -/
def look (s : State ε) (id : Nat) (c : Receive ε) : State ε :=
  match s.fault, s.queue, s.round with
  | some f, _, _ => s.setReceive id (.done (.error f))
  | none, d :: rest, _ => s.handOut id d rest
  | none, [], some r => s.setReceive id (.waiting r)
  | none, [], none =>
    if fires s.fired c.token then s.setReceive id (.done (.error .canceled)) else s.beginRound id

/-- New messages are numbered on from those that came before. -/
def store (s : State ε) (batch : List Parcel) : State ε :=
  { s with
    queue := s.queue ++ batch.zipIdx.map fun (p, i) => ⟨s.arrived.length + i, p⟩
    arrived := s.arrived ++ batch }

def proceed (s : State ε) (id : Nat) (sequel : Sequel ε) : State ε :=
  match sequel.phase? with
  | some phase => s.setReceive id phase
  | none => { s with receives := s.receives.filter (·.1 ≠ id) }

def moveReceive (s : State ε) (id : Nat) (c : Receive ε) : Option (State ε) :=
  match c.phase with
  | .looking => some (s.look id c)
  | .waiting r => if s.isOver r then some (s.setReceive id .looking) else none
  | .opening r size => some ((s.ask c r size).setReceive id (.fetching r size .start))
  | .fetching .. => none
  | .storing r batch => some ((s.store batch).setReceive id (.stored r))
  | .stored r => some ((s.release r).setReceive id .looking)
  | .failing r f => some ((s.release r).setReceive id (.done (.error f)))
  | .collapsing r => some ((s.release r).setReceive id .collapsed)
  | .signalling r sequel => some ((s.signal r).proceed id sequel)
  | .done _ => none
  | .collapsed => none

/-- A moment of the retried call inside a round. Another attempt asks for the same number. -/
def moveFetch (s : State ε) (id : Nat) (e : Retry.Event (List Parcel) (Trouble ε)) :
    Option (State ε) := do
  let c ← s.receive? id
  match c.phase with
  | .fetching r size call => do
    let call ← call.next? s.policy s.provider.retryable e
    match call.phase with
    | .done (.ok batch) => some (s.setReceive id (.storing r batch))
    | .done (.error t) => some (s.setReceive id (.failing r (s.provider.fault t)))
    | .broken => some (s.setReceive id (.collapsing r))
    | .attempting => some ((s.ask c r size).setReceive id (.fetching r size call))
    | .pausing .. => some (s.setReceive id (.fetching r size call))
  | _ => none

def passOn (s : State ε) (e : Outbox.Event AckId ε) : Option (State ε) :=
  (s.outbox.step e).map fun o => { s with outbox := o }

/-- A failed batch of acknowledgements becomes the fault of the subscription, unless it has one. -/
def recordFailure (s : State ε) : Option (Ending ε) → State ε
  | some (.returned (.error f)) => { s with fault := some (s.fault.getD f) }
  | _ => s

/-- A moment of the retried call that carries acknowledgements. -/
def moveAcks (s : State ε) (e : Outbox.Event AckId ε) (inner : Retry.Event Unit (Trouble ε)) :
    Option (State ε) :=
  (s.passOn e).map fun t => t.recordFailure (s.outbox.settles? inner)

/-- The action of a first acknowledgement. Its processing time counts whatever the action is. -/
def perform (s : State ε) (elapsed : Duration) (a : Action) : Option (State ε) :=
  let s := { s with flow := s.flow.record elapsed, samples := s.samples ++ [elapsed] }
  match a with
  | .replace => some { s with replacements := s.replacements + 1 }
  | .send ackId => s.passOn (.submit ackId)
  | .nothing => some s

/-- Nothing but a replacement can break off. -/
def ackAnswer (h : Held) (returns : Bool) : AckAnswer Action × Acknowledgement Action :=
  h.ack.ack fun a => a ≠ .replace || returns

def acknowledge (s : State ε) (serial : Nat) (elapsed : Duration) (returns : Bool) :
    Option (State ε) := do
  let h ← s.held? serial
  let (answer, ack) := ackAnswer h returns
  let t := { s with
    held := s.held.map fun x => if x.serial = serial then { x with ack := ack } else x }
  match answer with
  | .ran a _ => t.perform elapsed a
  | _ => some t

def moveShutdown (s : State ε) (id : Nat) (c : Closing.Call ε) : Option (State ε) :=
  let s := match c.phase with
    | .begun => { s with fault := some closedFault }
    | _ => s
  (Closing.advance s.outbox s.fired id c).map fun (o, phase) =>
    { s with outbox := o }.setShutdown id phase

def Receive.live (c : Receive ε) : Bool :=
  match c.phase with
  | .done _ => false
  | .collapsed => false
  | _ => true

/-- No call is in progress. -/
def quiet (s : State ε) : Bool :=
  s.receives.all (fun x => !Receive.live x.2) && s.shutdowns.all fun x => !x.2.live

/-- A receive can be dropped where it waits; the owner of a round gives it back. -/
def leave (s : State ε) (id : Nat) (c : Receive ε) : Option (State ε) :=
  let gone := { s with receives := s.receives.filter (·.1 ≠ id) }
  match c.phase with
  | .looking => some gone
  | .waiting _ => some gone
  | .fetching r _ _ => some (gone.release r)
  | _ => none

/-- The first of the two moments in which the owner of a round gives it back. -/
def giveBack (s : State ε) (id : Nat) (c : Receive ε) : Option (State ε) :=
  c.phase.giveBack?.map fun (r, sequel) => s.clear.setReceive id (.signalling r sequel)

def step (s : State ε) : Event ε → Option (State ε)
  | .receive id token =>
    if (s.receive? id).isSome then none
    else some { s with receives := s.receives ++ [(id, ⟨token, .looking⟩)] }
  | .receiveStep id => do s.moveReceive id (← s.receive? id)
  | .receiveCancel id => do
    let c ← s.receive? id
    match c.phase with
    | .waiting _ =>
      if fires s.fired c.token then some (s.setReceive id (.done (.error .canceled))) else none
    | _ => none
  | .receiveLeave id => do s.leave id (← s.receive? id)
  | .receiveClear id => do s.giveBack id (← s.receive? id)
  | .fetched id r jitter => do
    let c ← s.receive? id
    s.moveFetch id (.returned r (fires s.fired c.token) jitter)
  | .fetchBroke id => s.moveFetch id .brokeOff
  | .fetchResumed id => s.moveFetch id .resumed
  | .fetchCut id => do
    let c ← s.receive? id
    if fires s.fired c.token then s.moveFetch id .cut else none
  | .ack serial elapsed returns => s.acknowledge serial elapsed returns
  | .ackLook => s.passOn .look
  | .ackCall => s.passOn .call
  | .ackReturned r jitter => s.moveAcks (.returned r jitter) (.returned r s.outbox.stopped jitter)
  | .ackBroke => s.moveAcks .brokeOff .brokeOff
  | .ackResumed => s.moveAcks .resumed .resumed
  | .ackCut => s.moveAcks .cut .cut
  | .shutdown id token =>
    if (s.shutdown? id).isSome then none
    else some { s with shutdowns := s.shutdowns ++ [(id, ⟨token, .begun⟩)] }
  | .shutdownStep id => do s.moveShutdown id (← s.shutdown? id)
  | .shutdownCancel id => do
    let c ← s.shutdown? id
    let (o, phase) ← Closing.cancel s.outbox s.fired id c
    some ({ s with outbox := o }.setShutdown id phase)
  | .shutdownLeave id =>
    { s with shutdowns := s.shutdowns.filter (·.1 ≠ id) }.passOn (.drain id .leave)
  | .fire token => some { s with fired := token :: s.fired }
  | .discard => if s.quiet then s.passOn .stop else none

/-- The receive that has a call to the provider running, and how much the call asks for. -/
def calling? (s : State ε) : Option (Nat × Nat) :=
  s.receives.findSome? fun x => match x.2.phase with
    | .fetching _ size call => match call.phase with
      | .attempting => some (x.1, size)
      | _ => none
    | _ => none

/-- The pause inside a round that is running, if there is one, with the call that owns the round. -/
def pausing? (s : State ε) : Option (Nat × Duration) :=
  s.receives.findSome? fun x => match x.2.phase with
    | .fetching _ _ call => match call.phase with
      | .pausing length _ => some (x.1, length)
      | _ => none
    | _ => none

/-- A receive that goes on at once: it looks, or has to begin or to end the work of its round. -/
def ownMove? (x : Nat × Receive ε) : Option (Event ε) :=
  match x.2.phase with
  | .looking => some (.receiveStep x.1)
  | .opening .. => some (.receiveStep x.1)
  | .storing .. => some (.receiveStep x.1)
  | .stored _ => some (.receiveStep x.1)
  | .failing .. => some (.receiveStep x.1)
  | .collapsing _ => some (.receiveStep x.1)
  | .signalling .. => some (.receiveStep x.1)
  | _ => none

/-- A receive that waits and is woken. -/
def wakeMove? (s : State ε) (x : Nat × Receive ε) : Option (Event ε) :=
  match x.2.phase with
  | .waiting r =>
    if fires s.fired x.2.token then some (.receiveCancel x.1)
    else if s.isOver r then some (.receiveStep x.1) else none
  | .fetching _ _ call =>
    match call.phase with
    | .pausing .. => if fires s.fired x.2.token then some (.fetchCut x.1) else none
    | _ => none
  | _ => none

def shutdownMove? (s : State ε) (x : Nat × Closing.Call ε) : Option (Event ε) :=
  match Closing.move s.outbox s.fired x.1 x.2 with
  | .none => none
  | .advance => some (.shutdownStep x.1)
  | .cancel => some (.shutdownCancel x.1)

def ackMove? (s : State ε) : Option (Event ε) :=
  match s.outbox.next? with
  | some .look => some .ackLook
  | some .call => some .ackCall
  | some .cut => some .ackCut
  | _ => none

/-- The next moment that needs neither the provider nor the clock. The owner of a round goes on
before the receives that wait for it. -/
def next? (s : State ε) : Option (Event ε) :=
  match s.receives.findSome? ownMove?, s.ackMove?, s.receives.findSome? s.wakeMove? with
  | some e, _, _ => some e
  | none, some e, _ => some e
  | none, none, some e => some e
  | none, none, none => s.shutdowns.findSome? s.shutdownMove?

end State

end Courier.Subscription
