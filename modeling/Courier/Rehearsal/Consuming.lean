import Courier.Subscription
import Courier.Rehearsal.Publishing

/-!
A rehearsal of a subscription with a scripted provider, in virtual time.
-/

namespace Courier.Rehearsal

/-- What a scripted fetch can bring: set messages, or as many as were asked for out of the stock. -/
inductive Supply
  | batch (parcels : List Parcel)
  | stock

/-- What the application sees of a message it holds, and what acknowledging it came to. -/
inductive AckResult
  | notHeld
  | pressed (message : Message) (answer : AckAnswer Subscription.Action) (acked : Bool)

structure ConsumingRow where
  /-- When the provider was asked, and for how many. -/
  fetches : List (Nat × Nat)
  acks : List (Handover AckId)
  replacements : List Nat
  done : List (Nat × Except (Fault Scripted) Subscription.Held)
  shutdowns : List (Nat × Outcome Scripted)
  unblocked : List Nat
  results : List AckResult
  pending : Nat
  released : Option Bool

inductive ConsumingStep
  | receive (ids : List Nat) (token : Option Token)
  | ack (bodies : List ByteArray) (forget : Bool)
  | stock (parcels : List Parcel)
  | release (cue : Cue Supply)
  | releaseAcks (cue : Cue Unit)
  | shutdown (id : Nat) (token : Option Token)
  | cancel (token : Token)
  | abort (id : Nat)
  | advance (ms : Nat)
  | info
  | drop

/-- A fetch in progress: the receive that owns it, and where the provider's call stands. -/
structure Fetching where
  owner : Nat
  size : Nat
  engaged : Engaged Supply

structure Consuming where
  sub : Subscription.State Scripted
  now : Nat
  script : List (Cue Supply)
  ackScript : List (Cue Unit)
  stock : List Parcel
  fetching : Option Fetching
  fetchPauseEnd : Option Nat
  ackEngaged : Option (Engaged Unit)
  ackPauseEnd : Option Nat
  /-- The handle has been dropped; calls in progress keep the subscription alive. -/
  dropped : Bool
  receiving : List Nat
  closing : List Nat
  /-- Serials of the messages that the application holds. -/
  kept : List Nat
  fetches : List (Nat × Nat)
  acks : List (Handover AckId)
  replacements : List Nat
  unblocked : List Nat

namespace Consuming

open Subscription

/-- Processing a message takes a moment that is never zero. -/
def briefly : Duration := (Duration.ofNanos? 1000).getD .zero

/-- A new call for messages takes the next cue of the script. -/
def noteFetch (s : Consuming) : Consuming :=
  match s.sub.fetches.drop s.fetches.length, s.sub.calling? with
  | a :: _, some (id, _) =>
    { s with
      fetches := s.fetches ++ [(s.now, a.size)]
      fetching := some ⟨id, a.size, .ofCue s.now (s.script.headD (.gives .stock))⟩
      script := s.script.tail }
  | _, _ => s

def noteAcks (s : Consuming) : Consuming :=
  match s.sub.outbox.attempts.drop s.acks.length with
  | a :: _ =>
    { s with
      acks := s.acks ++ [⟨s.now, a.items, a.stopped⟩]
      ackEngaged := some (.ofCue s.now (s.ackScript.headD (.gives ())))
      ackScript := s.ackScript.tail }
  | [] => s

/-- The moment at which a pause of this length is over; one that is running keeps its own. -/
def pauseEnd (s : Consuming) (running : Option Nat) (length : Duration) : Nat :=
  running.getD (Rehearsal.pauseEnd s.now length)

def act (s : Consuming) (e : Event Scripted) : Consuming :=
  match s.sub.step e with
  | none => s
  | some t =>
    let s := { s with
      sub := t
      fetchPauseEnd := (t.pausing?.map Prod.snd).map (s.pauseEnd s.fetchPauseEnd)
      ackPauseEnd := t.outbox.pausing?.map (s.pauseEnd s.ackPauseEnd)
      replacements := s.replacements ++
        List.replicate (t.replacements - s.replacements.length) s.now }
    s.noteFetch.noteAcks

def canceled (s : Consuming) (id : Nat) : Bool :=
  (s.sub.receive? id).any fun c => fires s.sub.fired c.token

/-- The end of a fetch. With an empty stock it waits for its token instead. -/
def endFetch (s : Consuming) (f : Fetching) (r : Except (Trouble Scripted) Supply) : Consuming :=
  let gone := { s with fetching := none }
  match r with
  | .error t => gone.act (.fetched f.owner (.error t) 0)
  | .ok (.batch ps) => gone.act (.fetched f.owner (.ok ps) 0)
  | .ok .stock =>
    if s.stock.isEmpty then { s with fetching := some { f with engaged := .hanging false } }
    else
      { gone with stock := s.stock.drop f.size }.act
        (.fetched f.owner (.ok (s.stock.take f.size)) 0)

def fetchTurn? (s : Consuming) : Option Consuming := do
  let f ← s.fetching
  match ← f.engaged.turn? s.now (s.canceled f.owner) with
  | .goesOn e => some { s with fetching := some { f with engaged := e } }
  | .collapses => some ({ s with fetching := none }.act (.fetchBroke f.owner))
  | .ends r told =>
    some ({ s with unblocked := s.unblocked ++ if told then [s.now] else [] }.endFetch f r)

def ackTurn? (s : Consuming) : Option Consuming := do
  match ← (← s.ackEngaged).turn? s.now s.sub.outbox.stopped with
  | .goesOn e => some { s with ackEngaged := some e }
  | .collapses => some ({ s with ackEngaged := none }.act .ackBroke)
  | .ends r told =>
    let s := { s with ackEngaged := none, unblocked := s.unblocked ++ if told then [s.now] else [] }
    some (s.act (.ackReturned r 0))

def pauseTurn? (s : Consuming) : Option Consuming :=
  match s.sub.pausing? with
  | some (id, _) =>
    if s.fetchPauseEnd.any (· ≤ s.now) then some (s.act (.fetchResumed id)) else none
  | none => none

def next? (s : Consuming) : Option Consuming :=
  match s.sub.next? with
  | some e => some (s.act e)
  | none =>
    match s.fetchTurn?, s.ackTurn?, s.pauseTurn? with
    | some t, _, _ => some t
    | none, some t, _ => some t
    | none, none, some t => some t
    | none, none, none =>
      if s.ackPauseEnd.any (· ≤ s.now) then some (s.act .ackResumed)
      else if s.dropped && s.sub.quiet && !s.sub.outbox.stopped then some (s.act .discard)
      else none

def settleNow (s : Consuming) : Consuming :=
  settle next? (moments (s.script.length + s.ackScript.length + s.stock.length +
    s.sub.receives.length + s.sub.shutdowns.length + s.sub.held.length)) s

/-- Lets the clock reach `goal`, stopping wherever something is due. -/
def elapse (goal : Nat) : Nat → Consuming → Consuming
  | 0, s => { s with now := goal }
  | bound + 1, s =>
    let times := [s.fetchPauseEnd, s.ackPauseEnd, s.fetching.bind fun f => f.engaged.time?,
      s.ackEngaged.bind Engaged.time?]
    match earliest times with
    | some t =>
      if t ≤ goal then elapse goal bound { s with now := Nat.max s.now t }.settleNow
      else { s with now := goal }
    | none => { s with now := goal }

def keptWith? (s : Consuming) (body : ByteArray) : Option Held :=
  (s.kept.filterMap s.sub.held?).find? fun h => h.parcel.body = body

def ackOne (forget : Bool) (s : Consuming × List AckResult) (body : ByteArray) :
    Consuming × List AckResult :=
  match s.1.keptWith? body with
  | none => (s.1, s.2 ++ [.notHeld])
  | some h =>
    let t := s.1.act (.ack h.serial briefly true)
    let acked := (t.sub.held? h.serial).any (·.ack.acked)
    let t := if forget then { t with kept := t.kept.filter (· ≠ h.serial) } else t
    (t, s.2 ++ [.pressed h.parcel.message (State.ackAnswer h true).1 acked])

structure Applied where
  state : Consuming
  results : List AckResult
  released : Option Bool

def apply (s : Consuming) : ConsumingStep → Applied
  | .receive ids token =>
    ⟨ids.foldl (fun s id => { s with receiving := s.receiving ++ [id] }.act (.receive id token)) s,
      [], none⟩
  | .ack bodies forget =>
    let (t, results) := bodies.foldl (ackOne forget) (s, [])
    ⟨t, results, none⟩
  | .stock ps => ⟨{ s with stock := s.stock ++ ps }, [], none⟩
  | .release cue =>
    match s.fetching with
    | some f =>
      if f.engaged.isWaiting then
        ⟨{ s with fetching := some { f with engaged := .ofCue s.now cue } }, [], some true⟩
      else ⟨s, [], some false⟩
    | none => ⟨s, [], some false⟩
  | .releaseAcks cue =>
    if s.ackEngaged.any Engaged.isWaiting then
      ⟨{ s with ackEngaged := some (.ofCue s.now cue) }, [], some true⟩
    else ⟨s, [], some false⟩
  | .shutdown id token =>
    ⟨{ s with closing := s.closing ++ [id] }.act (.shutdown id token), [], none⟩
  | .cancel token => ⟨s.act (.fire token), [], none⟩
  | .abort id =>
    if s.receiving.contains id then
      let fetching := s.fetching.filter fun f => f.owner ≠ id
      ⟨{ s with receiving := s.receiving.filter (· ≠ id), fetching := fetching }.act
        (.receiveLeave id), [], none⟩
    else ⟨{ s with closing := s.closing.filter (· ≠ id) }.act (.shutdownLeave id), [], none⟩
  | .advance ms => ⟨s.settleNow.elapse (waitEnd s.now ms) (ms + 1), [], none⟩
  | .info => ⟨s, [], none⟩
  | .drop => ⟨{ s with dropped := true }, [], none⟩

/-- What a finished receive brought: a message it holds now, a fault, or nothing that is told. -/
def received? (s : Consuming) (id : Nat) : Option (Option (Except (Fault Scripted) Held)) :=
  (s.sub.receive? id).bind fun c => match c.phase with
    | .done (.ok d) => some ((s.sub.held? d.serial).map .ok)
    | .done (.error f) => some (some (.error f))
    | .collapsed => some none
    | _ => none

def shutdownOutcome? (s : Consuming) (id : Nat) : Option (Outcome Scripted) :=
  (s.sub.shutdown? id).bind Closing.Call.outcome?

def step (s : Consuming) (x : ConsumingStep) : Consuming × ConsumingRow :=
  let a := { s with unblocked := [] }.apply x
  let t := a.state.settleNow
  let done := t.receiving.filterMap fun id => (t.received? id).join.map (id, ·)
  let ended := t.closing.filterMap fun id => (t.shutdownOutcome? id).map (id, ·)
  let fresh := done.filterMap fun d => match d.2 with
    | .ok h => some h.serial
    | .error _ => none
  let t := { t with
    receiving := t.receiving.filter fun id => (t.received? id).isNone
    closing := t.closing.filter fun id => (t.shutdownOutcome? id).isNone
    kept := t.kept ++ fresh }
  (t, {
    fetches := t.fetches.drop s.fetches.length
    acks := t.acks.drop s.acks.length
    replacements := t.replacements.drop s.replacements.length
    done := byNumber done
    shutdowns := byNumber ended
    unblocked := t.unblocked
    results := a.results
    pending := t.receiving.length + t.closing.length
    released := a.released })

def start (provider : Provider Scripted) (replaced : Bool) (options : SubscriptionOptions)
    (script : List (Cue Supply)) (ackScript : List (Cue Unit)) (stock : List Parcel) : Consuming where
  sub := .new provider replaced options
  now := 0
  script := script
  ackScript := ackScript
  stock := stock
  fetching := none
  fetchPauseEnd := none
  ackEngaged := none
  ackPauseEnd := none
  dropped := false
  receiving := []
  closing := []
  kept := []
  fetches := []
  acks := []
  replacements := []
  unblocked := []

def rows (s : Consuming) : List ConsumingStep → List ConsumingRow
  | [] => []
  | x :: rest => (s.step x).2 :: (s.step x).1.rows rest

end Consuming

end Courier.Rehearsal
