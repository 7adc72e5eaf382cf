import Courier.Broker.Queue

/-!
A mailbox: the queue of a subscription, a bell that rings when messages come in, and the call for
messages that is in progress, if there is one. A ring that nobody waits for is kept as a permit; one
permit stands for any number of rings.

A call looks at the queue, and if that is empty asks the bell and falls asleep; once woken it looks
again.
-/

namespace Courier

inductive Sleeper
  | absent
  | asleep
  /-- Rung out of its sleep, but not up yet. -/
  | woken
  deriving DecidableEq, Repr

structure Bell where
  permit : Bool
  sleeper : Sleeper
  deriving DecidableEq, Repr

namespace Bell

def silent : Bell := ⟨false, .absent⟩

def ring (b : Bell) : Bell :=
  match b.sleeper with
  | .asleep => { b with sleeper := .woken }
  | _ => { b with permit := true }

/-- Who stops waiting hands on a ring that was meant for it. -/
def leave (b : Bell) : Bell :=
  match b.sleeper with
  | .woken => ⟨true, .absent⟩
  | _ => { b with sleeper := .absent }

end Bell

/-- Where a call for messages stands. -/
inductive Listening
  | looking
  /-- The queue was empty; the bell has not been asked yet. -/
  | turning
  | sleeping
  deriving DecidableEq, Repr

/-- How a call for messages ends. -/
inductive Heard
  | batch (loans : List Loan)
  | canceled
  /-- A deadline beyond the end of the clock. -/
  | brokeOff

structure Mailbox where
  queue : Queue
  bell : Bell
  /-- The call in progress, with the most it asks for. -/
  call : Option (Nat × Listening)

namespace Mailbox

/-- The moments of a call for messages. -/
inductive Move
  | start (max : Nat)
  | look
  | turn
  | wake
  /-- It has waited long enough and brings nothing. -/
  | giveUp
  | cancel
  /-- It is dropped where it sleeps. -/
  | leave
  deriving DecidableEq, Repr

def new (ackDeadline : Duration) : Mailbox := ⟨.new ackDeadline, .silent, none⟩

/-- Messages that come in ring the bell. -/
def deliver (m : Mailbox) (messages : List Message) : Mailbox :=
  { m with queue := m.queue.put messages, bell := m.bell.ring }

def ack (m : Mailbox) (ackId : Nat) : Mailbox := { m with queue := m.queue.ack ackId }

def look (m : Mailbox) (max now : Nat) : Mailbox × Option Heard :=
  match m.queue.take max now with
  | (none, q) => ({ m with queue := q, call := none }, some .brokeOff)
  | (some [], q) => ({ m with queue := q, call := some (max, .turning) }, none)
  | (some given, q) => ({ m with queue := q, call := none }, some (.batch given))

/-- A permit spares the sleep. -/
def turn (m : Mailbox) (max : Nat) : Mailbox :=
  if m.bell.permit then { m with bell := .silent, call := some (max, .looking) }
  else { m with bell := ⟨false, .asleep⟩, call := some (max, .sleeping) }

/-- Ends the call where it is neither looking nor done. -/
def quit (m : Mailbox) (heard : Option Heard) : Option (Mailbox × Option Heard) :=
  match m.call with
  | some (_, .turning) => some ({ m with call := none }, heard)
  | some (_, .sleeping) => some ({ m with call := none, bell := m.bell.leave }, heard)
  | _ => none

/-- One moment of a call, and its end if that is one. -/
def step (m : Mailbox) (now : Nat) : Move → Option (Mailbox × Option Heard)
  | .start max =>
    match m.call with
    | none => some ({ m with call := some (max, .looking) }, none)
    | some _ => none
  | .look =>
    match m.call with
    | some (max, .looking) => some (m.look max now)
    | _ => none
  | .turn =>
    match m.call with
    | some (max, .turning) => some (m.turn max, none)
    | _ => none
  | .wake =>
    match m.call, m.bell.sleeper with
    | some (max, .sleeping), .woken =>
      some ({ m with bell := { m.bell with sleeper := .absent }, call := some (max, .looking) }, none)
    | _, _ => none
  | .giveUp => m.quit (some (.batch []))
  | .cancel => m.quit (some .canceled)
  | .leave =>
    match m.call with
    | some (_, .sleeping) => m.quit none
    | _ => none

/-- The next moment of a call that is left to itself. -/
def next? (m : Mailbox) : Option Move :=
  match m.call, m.bell.sleeper with
  | some (_, .looking), _ => some .look
  | some (_, .turning), _ => some .turn
  | some (_, .sleeping), .woken => some .wake
  | _, _ => none

end Mailbox

end Courier
