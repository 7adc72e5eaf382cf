import Courier.Broker
import Courier.Topic
import Courier.Subscription

/-!
A session: a broker in memory with all the handles that are open on it. What a handle asks of its
provider, the broker does: a batch of a topic is published, a fetch of a subscription listens at its
mailbox, and a batch of acknowledgements ends loans.

Every moment of a handle, of a mailbox or of the broker is an event, and any order of events is a run.
-/

namespace Courier

structure Publisher where
  topic : String
  state : Topic.State MissingTopic

structure Consumer where
  mailbox : Nat
  state : Subscription.State MissingTopic

structure Session where
  broker : Broker
  publishers : List Publisher
  consumers : List Consumer
  fired : List Token
  /-- The clock of the deadlines, in nanoseconds. -/
  now : Nat

namespace Session

inductive Event
  | createTopic (name : String)
  | deleteTopic (name : String)
  | openTopic (name : String) (options : TopicOptions)
  | openSubscription (name : String) (ackDeadline : Duration) (options : SubscriptionOptions)
  /-- A moment of a topic handle's own. -/
  | publisher (handle : Nat) (moment : Topic.Event MissingTopic)
  /-- The broker takes the batch that a topic handle hands over. -/
  | publish (handle : Nat)
  /-- A moment of a subscription handle's own. -/
  | consumer (handle : Nat) (moment : Subscription.Event MissingTopic)
  /-- A moment of the fetch that a subscription handle has running. -/
  | listen (handle : Nat) (move : Mailbox.Move)
  /-- The broker takes the acknowledgements that a subscription handle hands over. -/
  | acknowledge (handle : Nat)
  /-- A subscription is gone, and the messages obtained from it are. -/
  | abandon (handle : Nat)
  | fire (token : Token)
  | pass (nanos : Nat)

def empty : Session := ⟨.empty, [], [], [], 0⟩

def setBroker (s : Session) (b : Broker) : Session := { s with broker := b }

def setMailbox (s : Session) (number : Nat) (m : Mailbox) : Session :=
  s.setBroker (s.broker.setMailbox number m)

def setPublisher (s : Session) (handle : Nat) (p : Publisher) : Session :=
  { s with publishers := s.publishers.set handle p }

def setConsumer (s : Session) (handle : Nat) (c : Consumer) : Session :=
  { s with consumers := s.consumers.set handle c }

/-- Tokens that have fired have fired for new handles too. -/
def addPublisher (s : Session) (link : TopicLink) : Session :=
  let state := Topic.State.new Broker.provider link.options
  { s with publishers := s.publishers ++ [⟨link.topic, { state with fired := s.fired }⟩] }

def addConsumer (s : Session) (link : SubscriptionLink) : Session :=
  let state := Subscription.State.new Broker.provider false link.options
  { s with consumers := s.consumers ++ [⟨link.mailbox, { state with fired := s.fired }⟩] }

/-- Opens a topic handle that the broker has linked. -/
def openTopic (s : Session) (name : String) (options : TopicOptions) : Session :=
  let (link, b) := s.broker.openTopic name options
  (s.setBroker b).addPublisher link

def openSubscription (s : Session) (name : String) (ackDeadline : Duration)
    (options : SubscriptionOptions) : Except (Fault MissingTopic) Session :=
  (s.broker.openSubscription name ackDeadline options).map fun (link, b) =>
    (s.setBroker b).addConsumer link

/-- Only the broker answers, and a token fires for all handles at once. -/
def topicOwn : Topic.Event MissingTopic → Bool
  | .returned .. => false
  | .brokeOff => false
  | .fire _ => false
  | _ => true

def subscriptionOwn : Subscription.Event MissingTopic → Bool
  | .fetched .. => false
  | .fetchBroke _ => false
  | .ackReturned .. => false
  | .ackBroke => false
  | .fire _ => false
  | _ => true

def movePublisher (s : Session) (handle : Nat) (e : Topic.Event MissingTopic) : Option Session := do
  let p ← s.publishers[handle]?
  let t ← p.state.step e
  some (s.setPublisher handle { p with state := t })

def moveConsumer (s : Session) (handle : Nat) (e : Subscription.Event MissingTopic) :
    Option Session := do
  let c ← s.consumers[handle]?
  let t ← c.state.step e
  some (s.setConsumer handle { c with state := t })

/-- A handle that has been stopped publishes nothing. -/
def publish (s : Session) (handle : Nat) : Option Session := do
  let p ← s.publishers[handle]?
  let batch ← p.state.outbox.calling?
  if p.state.outbox.stopped then s.movePublisher handle (.returned (.error (.fault .canceled)) 0)
  else match s.broker.publish p.topic batch with
    | .ok b => (s.setBroker b).movePublisher handle (.returned (.ok ()) 0)
    | .error e => s.movePublisher handle (.returned (.error (.native e)) 0)

/-- What the end of a call for messages means for the receive that fetches. -/
def heardEvent (id : Nat) : Heard → Subscription.Event MissingTopic
  | .batch loans => .fetched id (.ok (loans.map Loan.parcel)) 0
  | .canceled => .fetched id (.error (.fault .canceled)) 0
  | .brokeOff => .fetchBroke id

/-- May the call for messages make this move? It asks for what its receive wants, and is canceled by
the token of its receive; it is dropped only together with its receive. -/
def allowed (c : Consumer) (id size : Nat) : Mailbox.Move → Bool
  | .start max => max == size
  | .cancel => (c.state.receive? id).any fun r => fires c.state.fired r.token
  | .leave => false
  | _ => true

def listen (s : Session) (handle : Nat) (move : Mailbox.Move) : Option Session := do
  let c ← s.consumers[handle]?
  let (id, size) ← c.state.calling?
  if allowed c id size move then do
    let (m, heard) ← (← s.broker.mailbox? c.mailbox).step s.now move
    let s := s.setMailbox c.mailbox m
    match heard with
    | none => some s
    | some h => s.moveConsumer handle (heardEvent id h)
  else none

/-- A receive that is dropped while it fetches takes its call for messages with it. -/
def leaveReceive (s : Session) (handle id : Nat) (moment : Subscription.Event MissingTopic) :
    Option Session := do
  let c ← s.consumers[handle]?
  if c.state.calling?.any (·.1 = id) then do
    let (m, _) ← (← s.broker.mailbox? c.mailbox).step s.now .leave
    (s.setMailbox c.mailbox m).moveConsumer handle moment
  else s.moveConsumer handle moment

def acknowledge (s : Session) (handle : Nat) : Option Session := do
  let c ← s.consumers[handle]?
  let ids ← c.state.outbox.calling?
  let m ← s.broker.mailbox? c.mailbox
  let m := (ids.filterMap AckId.number?).foldl Mailbox.ack m
  (s.setMailbox c.mailbox m).moveConsumer handle (.ackReturned (.ok ()) 0)

/-- The token fires for every handle. -/
def fire (s : Session) (token : Token) : Session :=
  { s with
    fired := token :: s.fired
    publishers := s.publishers.map fun p =>
      { p with state := { p.state with fired := token :: p.state.fired } }
    consumers := s.consumers.map fun c =>
      { c with state := { c.state with fired := token :: c.state.fired } } }

def step (s : Session) : Event → Option Session
  | .createTopic name => some (s.setBroker (s.broker.createTopic name).2)
  | .deleteTopic name => some (s.setBroker (s.broker.deleteTopic name).2)
  | .openTopic name options => some (s.openTopic name options)
  | .openSubscription name ackDeadline options =>
    match s.openSubscription name ackDeadline options with
    | .ok t => some t
    | .error _ => some s
  | .publisher handle e => if topicOwn e then s.movePublisher handle e else none
  | .publish handle => s.publish handle
  | .consumer handle (.receiveLeave id) => s.leaveReceive handle id (.receiveLeave id)
  | .consumer handle (.receiveClear id) => s.leaveReceive handle id (.receiveClear id)
  | .consumer handle e => if subscriptionOwn e then s.moveConsumer handle e else none
  | .listen handle move => s.listen handle move
  | .acknowledge handle => s.acknowledge handle
  | .abandon handle => do
    let c ← s.consumers[handle]?
    some (s.setBroker (s.broker.abandon c.mailbox))
  | .fire token => some (s.fire token)
  | .pass nanos => some { s with now := s.now + nanos }

def publisherMove? (p : Publisher) (handle : Nat) : Option Event :=
  match p.state.next?, p.state.outbox.calling? with
  | some e, _ => some (.publisher handle e)
  | none, some _ => some (.publish handle)
  | none, none => none

/-- The move of a call for messages that is left to itself. -/
def listenMove? (s : Session) (c : Consumer) (handle : Nat) : Option Event := do
  let (id, size) ← c.state.calling?
  let m ← s.broker.mailbox? c.mailbox
  match m.call, m.next? with
  | none, _ => some (.listen handle (.start size))
  | some _, some move => some (.listen handle move)
  | some _, none => if allowed c id size .cancel then some (.listen handle .cancel) else none

def consumerMove? (s : Session) (c : Consumer) (handle : Nat) : Option Event :=
  match c.state.next?, s.listenMove? c handle, c.state.outbox.calling? with
  | some e, _, _ => some (.consumer handle e)
  | none, some e, _ => some e
  | none, none, some _ => some (.acknowledge handle)
  | none, none, none => none

/-- The next moment that needs neither a caller nor the clock. -/
def next? (s : Session) : Option Event :=
  match s.publishers.zipIdx.findSome? fun (p, i) => publisherMove? p i with
  | some e => some e
  | none => s.consumers.zipIdx.findSome? fun (c, i) => s.consumerMove? c i

end Session

end Courier
