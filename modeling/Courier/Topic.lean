import Courier.Closing
import Courier.Message
import Courier.Settings

/-!
A topic: any number of sends at once, each of which waits for the batch that holds its message. A
shutdown closes the topic first, then drains what was accepted, and may be cut short by its own
token.

A send or a shutdown is a call with a phase; each event moves one call, the outbox or a token by one
moment.
-/

namespace Courier.Topic

variable {ε : Type}

inductive SendPhase (ε : Type)
  | begun
  /-- The token had not fired. -/
  | allowed
  /-- The topic was open and the metadata legal. -/
  | admitted
  | waiting (ticket : Nat)
  /-- The batch failed with a code that a refusal has too. -/
  | judging (ticket : Nat) (fault : Fault ε)
  /-- Ended without having submitted the message. -/
  | turnedAway (fault : Fault ε)
  /-- Ended after having submitted the message. -/
  | told (ticket : Nat) (outcome : Outcome ε)
  /-- Dropped by the caller, before or after the submission. -/
  | dropped (ticket : Option Nat)

/-- The ticket that the message was submitted under. -/
def SendPhase.ticket? : SendPhase ε → Option Nat
  | waiting k => some k
  | judging k _ => some k
  | told k _ => some k
  | dropped k => k
  | _ => none

/-- What the caller was told. -/
def SendPhase.outcome? : SendPhase ε → Option (Outcome ε)
  | turnedAway f => some (.error f)
  | told _ o => some o
  | _ => none

structure Send (ε : Type) where
  token : Option Token
  message : Message
  phase : SendPhase ε

structure State (ε : Type) where
  outbox : Outbox.State Message ε
  /-- What every later send is told. -/
  fault : Option (Fault ε)
  fired : List Token
  sends : List (Nat × Send ε)
  shutdowns : List (Nat × Closing.Call ε)

inductive Event (ε : Type)
  | send (id : Nat) (token : Option Token) (message : Message)
  | sendStep (id : Nat)
  /-- A send that waits sees its token fire. -/
  | sendCancel (id : Nat)
  /-- The caller drops the send. -/
  | sendLeave (id : Nat)
  | shutdown (id : Nat) (token : Option Token)
  | shutdownStep (id : Nat)
  | shutdownCancel (id : Nat)
  | shutdownLeave (id : Nat)
  | fire (token : Token)
  /-- The handle is dropped; no call can be in progress then. -/
  | discard
  | look
  | call
  | returned (result : Except (Trouble ε) Unit) (jitter : Binary64)
  | brokeOff
  | resumed
  | cut

def closedFault : Fault ε := .closed "Topic"

namespace State

def new (provider : Provider ε) (options : TopicOptions) : State ε :=
  ⟨.new options.batching provider options.retry, none, [], [], []⟩

def send? (s : State ε) (id : Nat) : Option (Send ε) := (s.sends.find? (·.1 = id)).map (·.2)

def shutdown? (s : State ε) (id : Nat) : Option (Closing.Call ε) :=
  (s.shutdowns.find? (·.1 = id)).map (·.2)

def setSend (s : State ε) (id : Nat) (phase : SendPhase ε) : State ε :=
  { s with sends := s.sends.map fun x => if x.1 = id then (id, { x.2 with phase := phase }) else x }

def setShutdown (s : State ε) (id : Nat) (phase : Closing.Phase ε) : State ε :=
  { s with shutdowns := s.shutdowns.map fun x =>
      if x.1 = id then (id, { x.2 with phase := phase }) else x }

def passOn (s : State ε) (e : Outbox.Event Message ε) : Option (State ε) :=
  (s.outbox.step e).map fun o => { s with outbox := o }

/-- What a waiting send is told: the outcome of its batch, or that its handler call vanished. -/
def answer? (s : State ε) (ticket : Nat) : Option (Outcome ε) :=
  match s.outbox.batcher.answer? ticket with
  | some o => some o
  | none =>
    if s.outbox.batcher.abandoned.contains ticket then some (.error Batcher.vanishedFault) else none

/-- A refusal by the batcher and a failed batch may have the same code; only once the batcher has
been shut down is the topic's own fault reported instead. -/
def afterAnswer (ticket : Nat) : Outcome ε → SendPhase ε
  | .ok () => .told ticket (.ok ())
  | .error f =>
    if f.code = .failedPrecondition then .judging ticket f else .told ticket (.error f)

def moveSend (s : State ε) (id : Nat) (c : Send ε) : Option (State ε) :=
  match c.phase with
  | .begun =>
    some (s.setSend id (if fires s.fired c.token then .turnedAway .canceled else .allowed))
  | .allowed =>
    match s.fault, c.message.metadata.flaw? with
    | some f, _ => some (s.setSend id (.turnedAway f))
    | none, some f => some (s.setSend id (.turnedAway f))
    | none, none => some (s.setSend id .admitted)
  | .admitted =>
    (s.passOn (.submit c.message)).map fun t =>
      t.setSend id (.waiting s.outbox.batcher.nextTicket)
  | .waiting ticket => (s.answer? ticket).map fun o => s.setSend id (afterAnswer ticket o)
  | .judging ticket f =>
    let told := if s.outbox.batcher.shut then s.fault.getD f else f
    some (s.setSend id (.told ticket (.error told)))
  | _ => none

def moveShutdown (s : State ε) (id : Nat) (c : Closing.Call ε) : Option (State ε) :=
  let s := match c.phase with
    | .begun => { s with fault := some closedFault }
    | _ => s
  (Closing.advance s.outbox s.fired id c).map fun (o, phase) =>
    { s with outbox := o }.setShutdown id phase

def Send.live (c : Send ε) : Bool :=
  match c.phase with
  | .turnedAway _ => false
  | .told .. => false
  | .dropped _ => false
  | _ => true

/-- No call is in progress. -/
def quiet (s : State ε) : Bool :=
  s.sends.all (fun x => !Send.live x.2) && s.shutdowns.all fun x => !x.2.live

def step (s : State ε) : Event ε → Option (State ε)
  | .send id token message =>
    if (s.send? id).isSome then none
    else some { s with sends := s.sends ++ [(id, ⟨token, message, .begun⟩)] }
  | .sendStep id => do s.moveSend id (← s.send? id)
  | .sendCancel id => do
    let c ← s.send? id
    match c.phase with
    | .waiting ticket =>
      if fires s.fired c.token then
        (s.passOn (.leave ticket)).map fun t => t.setSend id (.told ticket (.error .canceled))
      else none
    | _ => none
  | .sendLeave id => do
    let c ← s.send? id
    let t := s.setSend id (.dropped c.phase.ticket?)
    match c.phase with
    | .waiting ticket => t.passOn (.leave ticket)
    | _ => if Send.live c then some t else none
  | .shutdown id token =>
    if (s.shutdown? id).isSome then none
    else some { s with shutdowns := s.shutdowns ++ [(id, ⟨token, .begun⟩)] }
  | .shutdownStep id => do s.moveShutdown id (← s.shutdown? id)
  | .shutdownCancel id => do
    let c ← s.shutdown? id
    let (o, phase) ← Closing.cancel s.outbox s.fired id c
    some ({ s with outbox := o }.setShutdown id phase)
  | .shutdownLeave id =>
    { s with shutdowns := s.shutdowns.filter (·.1 ≠ id) }.passOn (.drain id .leave)
  | .fire token => some { s with fired := token :: s.fired }
  | .discard => if s.quiet then s.passOn .stop else none
  | .look => s.passOn .look
  | .call => s.passOn .call
  | .returned r jitter => s.passOn (.returned r jitter)
  | .brokeOff => s.passOn .brokeOff
  | .resumed => s.passOn .resumed
  | .cut => s.passOn .cut

/-- A send that can move now, and how. -/
def sendMove? (s : State ε) (x : Nat × Send ε) : Option (Event ε) :=
  match x.2.phase with
  | .waiting ticket =>
    if fires s.fired x.2.token then some (.sendCancel x.1)
    else if (s.answer? ticket).isSome then some (.sendStep x.1) else none
  | _ => if Send.live x.2 then some (.sendStep x.1) else none

def shutdownMove? (s : State ε) (x : Nat × Closing.Call ε) : Option (Event ε) :=
  match Closing.move s.outbox s.fired x.1 x.2 with
  | .none => none
  | .advance => some (.shutdownStep x.1)
  | .cancel => some (.shutdownCancel x.1)

/-- Every batch that a call handed to the provider, as the provider saw it. -/
def handedOver (s : State ε) : List (List Parcel) :=
  s.outbox.attempts.map fun a => a.items.map Message.toParcel

/-- The next moment that needs neither the provider nor the clock: calls move before the handler
task looks at the queue. -/
def next? (s : State ε) : Option (Event ε) :=
  match s.sends.findSome? s.sendMove? with
  | some e => some e
  | none =>
    match s.outbox.next? with
    | some .look => some .look
    | some .call => some .call
    | some .cut => some .cut
    | _ => s.shutdowns.findSome? s.shutdownMove?

end State

end Courier.Topic
