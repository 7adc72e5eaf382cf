import Courier.Topic
import Courier.Rehearsal.Script
import Courier.Rehearsal.Settle

/-!
A rehearsal of a topic with a scripted provider, in virtual time.
-/

namespace Courier.Rehearsal

/-- A call to the provider as it is reported. -/
structure Handover (α : Type) where
  time : Nat
  items : List α
  canceled : Bool

structure PublishingRow where
  sends : List (Handover Message)
  done : List (Nat × Outcome Scripted)
  shutdowns : List (Nat × Outcome Scripted)
  unblocked : List Nat
  pending : Nat
  /-- Was there a call that waited to be released? -/
  released : Option Bool

structure Sending where
  id : Nat
  token : Option Token
  message : Message

inductive PublishingStep
  | send (calls : List Sending)
  | shutdown (id : Nat) (token : Option Token)
  | release (cue : Cue Unit)
  | cancel (token : Token)
  | abort (id : Nat)
  | advance (ms : Nat)
  | info
  | drop

structure Publishing where
  topic : Topic.State Scripted
  now : Nat
  script : List (Cue Unit)
  engaged : Option (Engaged Unit)
  pauseEnd : Option Nat
  /-- The handle has been dropped; calls in progress keep the topic alive. -/
  dropped : Bool
  sending : List Nat
  closing : List Nat
  sends : List (Handover Message)
  unblocked : List Nat

namespace Publishing

/-- A new call to the provider takes the next cue of the script, and a new pause sets its end. -/
def act (s : Publishing) (e : Topic.Event Scripted) : Publishing :=
  match s.topic.step e with
  | none => s
  | some t =>
    let s := { s with
      topic := t
      pauseEnd := t.outbox.pausing?.map fun d => s.pauseEnd.getD (Rehearsal.pauseEnd s.now d) }
    match t.outbox.attempts.drop s.sends.length with
    | [] => s
    | a :: _ =>
      { s with
        sends := s.sends ++ [⟨s.now, a.items, a.stopped⟩]
        engaged := some (Engaged.ofCue s.now (s.script.headD (.gives ())))
        script := s.script.tail }

/-- What the provider's call comes to, if it can move now. -/
def turn? (s : Publishing) : Option Publishing :=
  match s.engaged.bind (Engaged.turn? s.now s.topic.outbox.stopped) with
  | none => none
  | some (.goesOn e) => some { s with engaged := some e }
  | some .collapses => some ({ s with engaged := none }.act .brokeOff)
  | some (.ends r told) =>
    let s := { s with engaged := none, unblocked := s.unblocked ++ if told then [s.now] else [] }
    some (s.act (.returned r 0))

def next? (s : Publishing) : Option Publishing :=
  match s.topic.next? with
  | some e => some (s.act e)
  | none =>
    match s.turn? with
    | some t => some t
    | none =>
      if s.pauseEnd.any (· ≤ s.now) then some (s.act .resumed)
      else if s.dropped && s.topic.quiet && !s.topic.outbox.stopped then some (s.act .discard)
      else none

def settleNow (s : Publishing) : Publishing :=
  settle next? (moments (s.script.length + s.topic.sends.length + s.topic.shutdowns.length)) s

/-- Lets the clock reach `goal`, stopping wherever something is due. -/
def elapse (goal : Nat) : Nat → Publishing → Publishing
  | 0, s => { s with now := goal }
  | bound + 1, s =>
    match earliest [s.pauseEnd, s.engaged.bind Engaged.time?] with
    | some t =>
      if t ≤ goal then elapse goal bound { s with now := Nat.max s.now t }.settleNow
      else { s with now := goal }
    | none => { s with now := goal }

def apply (s : Publishing) : PublishingStep → Publishing × Option Bool
  | .send calls =>
    (calls.foldl (fun s c =>
      { s with sending := s.sending ++ [c.id] }.act (.send c.id c.token c.message)) s, none)
  | .shutdown id token => ({ s with closing := s.closing ++ [id] }.act (.shutdown id token), none)
  | .release cue =>
    if s.engaged.any Engaged.isWaiting then
      ({ s with engaged := some (Engaged.ofCue s.now cue) }, some true)
    else (s, some false)
  | .cancel token => (s.act (.fire token), none)
  | .abort id =>
    if s.sending.contains id then
      ({ s with sending := s.sending.filter (· ≠ id) }.act (.sendLeave id), none)
    else ({ s with closing := s.closing.filter (· ≠ id) }.act (.shutdownLeave id), none)
  | .advance ms => (s.settleNow.elapse (waitEnd s.now ms) (ms + 1), none)
  | .info => (s, none)
  | .drop => ({ s with dropped := true }, none)

def sendOutcome? (s : Publishing) (id : Nat) : Option (Outcome Scripted) :=
  (s.topic.send? id).bind fun c => c.phase.outcome?

def shutdownOutcome? (s : Publishing) (id : Nat) : Option (Outcome Scripted) :=
  (s.topic.shutdown? id).bind Closing.Call.outcome?

def step (s : Publishing) (x : PublishingStep) : Publishing × PublishingRow :=
  let before := s.sends.length
  let (t, released) := { s with unblocked := [] }.apply x
  let t := t.settleNow
  let done := t.sending.filterMap fun id => (t.sendOutcome? id).map (id, ·)
  let ended := t.closing.filterMap fun id => (t.shutdownOutcome? id).map (id, ·)
  let t := { t with
    sending := t.sending.filter fun id => (t.sendOutcome? id).isNone
    closing := t.closing.filter fun id => (t.shutdownOutcome? id).isNone }
  (t, ⟨t.sends.drop before, byNumber done, byNumber ended, t.unblocked,
    t.sending.length + t.closing.length, released⟩)

def start (provider : Provider Scripted) (options : TopicOptions) (script : List (Cue Unit)) :
    Publishing :=
  ⟨.new provider options, 0, script, none, none, false, [], [], [], []⟩

def rows (s : Publishing) : List PublishingStep → List PublishingRow
  | [] => []
  | x :: rest => (s.step x).2 :: (s.step x).1.rows rest

end Publishing

end Courier.Rehearsal
