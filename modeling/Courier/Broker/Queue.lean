import Courier.Duration
import Courier.Message

/-!
The queue of one subscription. A copy that is handed out is on loan until it is acknowledged, or
until its deadline, when it goes back behind the copies that are ready. Every loan has a number of
its own.
-/

namespace Courier

/-- A message in a queue. The serial tells copies apart whose content is the same. -/
structure Copy where
  serial : Nat
  message : Message
  /-- How often it has been handed out. -/
  deliveries : Nat
  deriving DecidableEq

structure Loan where
  ackId : Nat
  copy : Copy
  deadline : Nat
  deriving DecidableEq

/-- Which copy was handed out under which number. -/
structure Handout where
  ackId : Nat
  serial : Nat
  deriving DecidableEq

structure Queue where
  ackDeadline : Duration
  /-- The next to be handed out comes first. -/
  ready : List Copy
  inFlight : List Loan
  nextAckId : Nat
  /-- Every message that came in; a copy's serial is its place here. -/
  arrived : List Message
  /-- Everything handed out, in order. -/
  handouts : List Handout
  /-- Serials of the copies that were acknowledged. -/
  acked : List Nat
  /-- Serials of the copies that went with a take that broke off. -/
  lost : List Nat

/-- Deadlines stand on a clock whose seconds are counted in 63 bits. -/
def clockEnd : Nat := twoTo 63 * Duration.nanosPerSec

/-- What the subscription is given. -/
def Loan.parcel (l : Loan) : Parcel :=
  ⟨l.copy.message.body, l.copy.message.metadata, some (.number l.ackId),
    some (.delivery l.ackId l.copy.deliveries)⟩

def Loan.handout (l : Loan) : Handout := ⟨l.ackId, l.copy.serial⟩

namespace Queue

def new (ackDeadline : Duration) : Queue := ⟨ackDeadline, [], [], 0, [], [], [], []⟩

def put (q : Queue) (messages : List Message) : Queue :=
  { q with
    ready := q.ready ++ messages.zipIdx.map fun (m, i) => ⟨q.arrived.length + i, m, 0⟩
    arrived := q.arrived ++ messages }

/-- The loans whose deadline has come, oldest number first. -/
def expired (q : Queue) (now : Nat) : List Loan :=
  (q.inFlight.filter fun l => l.deadline ≤ now).mergeSort fun a b => a.ackId ≤ b.ackId

def requeue (q : Queue) (now : Nat) : Queue :=
  { q with
    ready := q.ready ++ (q.expired now).map (·.copy)
    inFlight := q.inFlight.filter fun l => now < l.deadline }

/-- Copies on loan, numbered on from `first`. -/
def loans (first deadline : Nat) (copies : List Copy) : List Loan :=
  (copies.zipIdx first).map fun (c, n) => ⟨n, { c with deliveries := c.deliveries + 1 }, deadline⟩

/-- Hands out the first `n` ready copies. -/
def lend (q : Queue) (n deadline : Nat) : List Loan × Queue :=
  let given := loans q.nextAckId deadline (q.ready.take n)
  (given, { q with
    ready := q.ready.drop n
    inFlight := q.inFlight ++ given
    nextAckId := q.nextAckId + n
    handouts := q.handouts ++ given.map Loan.handout })

/-- The copies of a take that breaks off are gone, and one number with them. -/
def lose (q : Queue) (n : Nat) : Queue :=
  { q with
    ready := q.ready.drop n
    nextAckId := q.nextAckId + 1
    lost := q.lost ++ (q.ready.take n).map (·.serial) }

/-- Hands out at most `max` copies. A take that has copies to hand out breaks off if their deadline
lies beyond the end of the clock. -/
def take (q : Queue) (max now : Nat) : Option (List Loan) × Queue :=
  let q := q.requeue now
  let n := Nat.min max q.ready.length
  let deadline := now + q.ackDeadline.nanos
  if 0 < n ∧ clockEnd ≤ deadline then (none, q.lose n)
  else
    let (given, q) := q.lend n deadline
    (some given, q)

/-- A number that is not on loan is passed over: its copy has been handed out anew, or is gone. -/
def ack (q : Queue) (ackId : Nat) : Queue :=
  { q with
    inFlight := q.inFlight.filter (·.ackId ≠ ackId)
    acked := q.acked ++ (q.inFlight.filter (·.ackId = ackId)).map (·.copy.serial) }

end Queue

end Courier
