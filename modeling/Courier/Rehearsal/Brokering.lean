import Courier.Broker.Opening
import Courier.Broker.Session
import Courier.Rehearsal.Consuming

/-!
A rehearsal of the broker in memory, in virtual time. Calls are made one after another; what was put
off to a later moment happens while a receive waits. The clock of the deadlines stands still, so a
deadline has come when it is set or never does. A call that breaks off ends the rehearsal.

Handles opened by URL may belong to a broker of their own.
-/

namespace Courier.Rehearsal

/-- A handle, by the session that it is open on and its number there. -/
structure Seat where
  session : Nat
  handle : Nat

/-- A message in the application's hands. -/
structure Keepsake where
  seat : Seat
  serial : Nat

/-- What happens when the clock reaches a moment. -/
inductive Errand
  | send (seat : Seat) (message : Message)
  | cancel (token : Token)

inductive BrokeringStep
  | createTopic (name : String)
  | deleteTopic (name : String)
  | hasTopic (name : String)
  | openTopic (handle name : String)
  | openSubscription (handle name : String) (ackDeadline : Duration)
  | openTopicUrl (handle url : String)
  | openSubscriptionUrl (handle url : String)
  | schemes
  | send (handle : String) (token : Option Token) (message : Message)
  | sendLater (handle : String) (ms : Nat) (message : Message)
  | cancel (token : Token)
  | cancelLater (token : Token) (ms : Nat)
  | receive (handle : String) (keep : Option String) (timeout : Nat) (token : Option Token)
  | ack (message : String)
  | forget (message : String)
  | shutdownTopic (handle : String) (token : Option Token)
  | shutdownSubscription (handle : String) (token : Option Token)
  | drop (handle : String)
  | native (handle name : String)

inductive BrokeringResult
  | truth (value : Bool)
  | ended (outcome : Outcome MissingTopic)
  | sent (outcome : Outcome MissingTopic)
  | received (message : Subscription.Held)
  | timeout
  /-- The call broke off. -/
  | brokeOff
  | schemes (topics subscriptions : List String)
  | pressed (result : AckResult)
  /-- Whether each handle shows the broker, whether the broker has the topic, and the diagnostic. -/
  | exposed (topic subscription : Option Bool) (has : Bool) (text : String)
  | noHandle

structure Brokering where
  sessions : List Session
  /-- What handles get that are not opened by URL. -/
  options : Opening
  directory : Directory Broker MissingTopic TopicLink SubscriptionLink
  /-- The session of the handles opened by URL. -/
  home : Nat
  now : Nat
  topics : List (String × Seat)
  subscriptions : List (String × Seat)
  kept : List (String × Keepsake)
  errands : List (Nat × Errand)
  /-- When the call for messages that is running gives up, and whose it is. -/
  giveUp : Option (Nat × Seat)
  /-- Calls made on handles. -/
  calls : Nat

namespace Brokering

def session (s : Brokering) (i : Nat) : Session := s.sessions[i]?.getD .empty

def setSession (s : Brokering) (i : Nat) (t : Session) : Brokering :=
  { s with sessions := s.sessions.set i t }

/-- A call for messages that begins also sets the end of its patience. -/
def act (s : Brokering) (i : Nat) (e : Session.Event) : Brokering :=
  match (s.session i).step e with
  | none => s
  | some t =>
    let s := s.setSession i t
    match e with
    | .listen handle (.start _) =>
      { s with giveUp := some (s.now + Broker.patience, ⟨i, handle⟩) }
    | .listen _ .giveUp => { s with giveUp := none }
    | _ => s

def fire (s : Brokering) (token : Token) : Brokering :=
  (List.range s.sessions.length).foldl (fun s i => s.act i (.fire token)) s

/-- A send put off is made without anyone waiting for it. -/
def run (s : Brokering) : Errand → Brokering
  | .send seat m =>
    { s with calls := s.calls + 1 }.act seat.session
      (.publisher seat.handle (.send s.calls none m))
  | .cancel token => s.fire token

def errand? (s : Brokering) : Option Brokering :=
  match s.errands.find? (·.1 ≤ s.now) with
  | none => none
  | some (_, e) =>
    some ({ s with errands := s.errands.eraseP (·.1 ≤ s.now) }.run e)

def patienceEnds? (s : Brokering) : Option Brokering :=
  match s.giveUp with
  | some (t, seat) =>
    if t ≤ s.now then
      some ({ s with giveUp := none }.act seat.session (.listen seat.handle .giveUp))
    else none
  | none => none

def sessionMove? (s : Brokering) : Option Brokering :=
  s.sessions.zipIdx.findSome? fun (t, i) => t.next?.map (s.act i)

def next? (s : Brokering) : Option Brokering :=
  match s.sessionMove?, s.patienceEnds?, s.errand? with
  | some t, _, _ => some t
  | none, some t, _ => some t
  | none, none, t => t

def settleNow (s : Brokering) : Brokering :=
  settle next? (moments (s.calls + s.errands.length)) s

def received? (s : Brokering) (seat : Seat) (id : Nat) : Option BrokeringResult := do
  let c ← (s.session seat.session).consumers[seat.handle]?
  match (← c.state.receive? id).phase with
  | .done (.ok d) => some (.received (← c.state.held? d.serial))
  | .done (.error f) => some (.ended (.error f))
  | .collapsed => some .brokeOff
  | _ => none

/-- Waits for a receive until `goal`, when it is dropped. -/
def await (seat : Seat) (id goal : Nat) : Nat → Brokering → Brokering × BrokeringResult
  | 0, s => (s, .timeout)
  | bound + 1, s =>
    match s.received? seat id with
    | some r => (s, r)
    | none =>
      let times := s.giveUp.map (·.1) :: s.errands.map fun e => some e.1
      match (earliest times).filter (· < goal) with
      | some t => await seat id goal bound { s with now := Nat.max s.now t }.settleNow
      | none =>
        ({ s with now := goal }.act seat.session (.consumer seat.handle (.receiveLeave id)), .timeout)

def receive (s : Brokering) (seat : Seat) (timeout : Nat) (token : Option Token) :
    Brokering × BrokeringResult :=
  let id := s.calls
  let s := { s with calls := id + 1 }.act seat.session (.consumer seat.handle (.receive id token))
  s.settleNow.await seat id (waitEnd s.now timeout) (timeout + s.errands.length + 2)

/-- A message that was received is kept under a name, if there is one. -/
def keep (s : Brokering) (seat : Seat) (name : Option String) : BrokeringResult → Brokering
  | .received h =>
    match name with
    | some n => { s with kept := (n, ⟨seat, h.serial⟩) :: s.kept.filter (·.1 ≠ n) }
    | none => s
  | _ => s

def topic? (s : Brokering) (h : String) : Option Seat := (s.topics.find? (·.1 = h)).map (·.2)

def subscription? (s : Brokering) (h : String) : Option Seat :=
  (s.subscriptions.find? (·.1 = h)).map (·.2)

/-- A handle takes the place of an older one of its name. -/
def addTopic (s : Brokering) (h : String) (i : Nat) (t : Session) : Brokering :=
  { s.setSession i t with
    topics := (h, ⟨i, t.publishers.length - 1⟩) :: s.topics.filter (·.1 ≠ h) }

def addSubscription (s : Brokering) (h : String) (i : Nat) (t : Session) : Brokering :=
  { s.setSession i t with
    subscriptions := (h, ⟨i, t.consumers.length - 1⟩) :: s.subscriptions.filter (·.1 ≠ h) }

def openSubscription (s : Brokering) (h name : String) (d : Duration) :
    Brokering × BrokeringResult :=
  match (s.session 0).openSubscription name d s.options.subscription with
  | .ok t => (s.addSubscription h 0 t, .ended (.ok ()))
  | .error f => (s, .ended (.error f))

def openTopicUrl (s : Brokering) (h url : String) : Brokering × BrokeringResult :=
  let t := s.session s.home
  match s.directory.openTopic url t.broker with
  | (.ok link, b) => (s.addTopic h s.home ((t.setBroker b).addPublisher link), .ended (.ok ()))
  | (.error f, b) => (s.setSession s.home (t.setBroker b), .ended (.error f))

def openSubscriptionUrl (s : Brokering) (h url : String) : Brokering × BrokeringResult :=
  let t := s.session s.home
  match s.directory.openSubscription url t.broker with
  | (.ok link, b) => (s.addSubscription h s.home ((t.setBroker b).addConsumer link), .ended (.ok ()))
  | (.error f, b) => (s.setSession s.home (t.setBroker b), .ended (.error f))

def sendOutcome? (s : Brokering) (seat : Seat) (id : Nat) : Option (Outcome MissingTopic) := do
  let p ← (s.session seat.session).publishers[seat.handle]?
  (← p.state.send? id).phase.outcome?

def send (s : Brokering) (seat : Seat) (token : Option Token) (m : Message) :
    Brokering × BrokeringResult :=
  let id := s.calls
  let s := { s with calls := id + 1 }.act seat.session (.publisher seat.handle (.send id token m))
  let s := s.settleNow
  (s, ((s.sendOutcome? seat id).map .sent).getD .brokeOff)

def shutdownTopic (s : Brokering) (seat : Seat) (token : Option Token) :
    Brokering × BrokeringResult :=
  let id := s.calls
  let s := { s with calls := id + 1 }.act seat.session (.publisher seat.handle (.shutdown id token))
  let s := s.settleNow
  let call := (s.session seat.session).publishers[seat.handle]?.bind (·.state.shutdown? id)
  (s, ((call.bind Closing.Call.outcome?).map .ended).getD .brokeOff)

def shutdownSubscription (s : Brokering) (seat : Seat) (token : Option Token) :
    Brokering × BrokeringResult :=
  let id := s.calls
  let s := { s with calls := id + 1 }.act seat.session (.consumer seat.handle (.shutdown id token))
  let s := s.settleNow
  let call := (s.session seat.session).consumers[seat.handle]?.bind (·.state.shutdown? id)
  (s, ((call.bind Closing.Call.outcome?).map .ended).getD .brokeOff)

def held? (s : Brokering) (name : String) : Option (Seat × Subscription.Held) := do
  let (_, k) ← s.kept.find? (·.1 = name)
  let c ← (s.session k.seat.session).consumers[k.seat.handle]?
  some (k.seat, ← c.state.held? k.serial)

def ack (s : Brokering) (name : String) : Brokering × BrokeringResult :=
  match s.held? name with
  | none => (s, .pressed .notHeld)
  | some (seat, h) =>
    let t := s.act seat.session (.consumer seat.handle (.ack h.serial Consuming.briefly true))
    let acked := (t.held? name).any (·.2.ack.acked)
    (t, .pressed (.pressed h.parcel.message (Subscription.State.ackAnswer h true).1 acked))

/-- Both handles of a name show their broker; the topic speaks for both. -/
def native (s : Brokering) (h name : String) : BrokeringResult :=
  let shown (seat : Seat) : Bool := (s.session seat.session).broker.hasTopic name
  match s.topic? h, s.subscription? h with
  | some t, u =>
    .exposed (some true) (u.map fun _ => true) (shown t) (handleText "Topic" Broker.providerName)
  | none, some u =>
    .exposed none (some true) (shown u) (handleText "Subscription" Broker.providerName)
  | none, none => .noHandle

def put (s : Brokering) (ms : Nat) (e : Errand) : Brokering :=
  { s with errands := s.errands ++ [(waitEnd s.now ms, e)] }

/-- The step of a handle, if there is one. -/
def withHandle (s : Brokering) (seat : Option Seat) (f : Seat → Brokering × BrokeringResult) :
    Brokering × BrokeringResult :=
  match seat with
  | some x => f x
  | none => (s, .noHandle)

def apply (s : Brokering) : BrokeringStep → Brokering × BrokeringResult
  | .createTopic name =>
    (s.act 0 (.createTopic name), .truth ((s.session 0).broker.createTopic name).1)
  | .deleteTopic name =>
    (s.act 0 (.deleteTopic name), .truth ((s.session 0).broker.deleteTopic name).1)
  | .hasTopic name => (s, .truth ((s.session 0).broker.hasTopic name))
  | .openTopic h name =>
    (s.addTopic h 0 ((s.session 0).openTopic name s.options.topic), .ended (.ok ()))
  | .openSubscription h name d => s.openSubscription h name d
  | .openTopicUrl h url => s.openTopicUrl h url
  | .openSubscriptionUrl h url => s.openSubscriptionUrl h url
  | .schemes => (s, .schemes s.directory.topics.schemes s.directory.subscriptions.schemes)
  | .send h token m => s.withHandle (s.topic? h) fun seat => s.send seat token m
  | .sendLater h ms m =>
    s.withHandle (s.topic? h) fun seat => (s.put ms (.send seat m), .ended (.ok ()))
  | .cancel token => (s.fire token, .ended (.ok ()))
  | .cancelLater token ms => (s.put ms (.cancel token), .ended (.ok ()))
  | .receive h name timeout token =>
    s.withHandle (s.subscription? h) fun seat =>
      let (t, r) := s.receive seat timeout token
      (t.keep seat name r, r)
  | .ack name => s.ack name
  | .forget name =>
    ({ s with kept := s.kept.filter (·.1 ≠ name) }, .truth (s.kept.any (·.1 = name)))
  | .shutdownTopic h token => s.withHandle (s.topic? h) fun seat => s.shutdownTopic seat token
  | .shutdownSubscription h token =>
    s.withHandle (s.subscription? h) fun seat => s.shutdownSubscription seat token
  | .drop h =>
    ({ s with
        topics := s.topics.filter (·.1 ≠ h)
        subscriptions := s.subscriptions.filter (·.1 ≠ h) },
      .truth ((s.topic? h).isSome || (s.subscription? h).isSome))
  | .native h name => (s, s.native h name)

def step (s : Brokering) (x : BrokeringStep) : Brokering × BrokeringResult × Nat :=
  let (t, r) := s.apply x
  let t := t.settleNow
  (t, r, t.now)

/-- Every scheme is free in a new directory. -/
def directoryOf (o : Opening) : Directory Broker MissingTopic TopicLink SubscriptionLink :=
  match o.register .empty with
  | .ok d => d
  | .error _ => .empty

/-- The clock of the deadlines has been running for a while. -/
def awake : Session := { Session.empty with now := Duration.nanosPerSec }

/-- With `apart`, URLs are opened on a broker of their own, and with the usual options. -/
def start (options : Opening) (apart : Bool) : Brokering :=
  ⟨[awake, awake], options, directoryOf (if apart then default else options),
    if apart then 1 else 0, 0, [], [], [], [], none, 0⟩

def isBroken : BrokeringResult → Bool
  | .brokeOff => true
  | _ => false

/-- What every step comes to, and when; nothing if one of them breaks off. -/
def rows? (s : Brokering) : List BrokeringStep → Option (List (BrokeringResult × Nat))
  | [] => some []
  | x :: rest =>
    let (t, row) := s.step x
    if isBroken row.1 then none else (t.rows? rest).map (row :: ·)

end Brokering

end Courier.Rehearsal
