import Courier.Broker.Queue
import Courier.Proofs.Run

/-! A queue as a machine: messages come in, copies are taken, and numbers are acknowledged in any order,
whether or not they are on loan. A take first puts back what has run out, then lends or, where the
deadline lies beyond the end of the clock, loses what it would have lent. -/

namespace Courier.Queue

inductive Event
  | put (messages : List Message)
  | take (max now : Nat)
  | ack (ackId : Nat)
  deriving DecidableEq

def step (q : Queue) : Event → Option Queue
  | .put messages => some (q.put messages)
  | .take max now => some (q.take max now).2
  | .ack ackId => some (q.ack ackId)

/-- What a take hands out; one that breaks off hands out nothing. -/
def taken? : Queue × Event → Option (List Loan)
  | (q, .take max now) => some ((q.take max now).1.getD [])
  | _ => none

/-- The results of all takes of a run, in order. -/
def takes (q : Queue) (es : List Event) : List (List Loan) := (trace step q es).filterMap taken?

def Event.messages : Event → List Message
  | .put messages => messages
  | _ => []

def Event.batch? : Event → Option (List Message)
  | .put messages => some messages
  | _ => none

def Event.time? : Event → Option Nat
  | .take _ now => some now
  | _ => none

variable {q r : Queue} {e : Event} {es : List Event} {d : Duration} {max now n deadline : Nat}

/-- The deadline of every take of these events is on the clock. -/
def Timely (d : Duration) (es : List Event) : Prop :=
  ∀ now ∈ es.filterMap Event.time?, now + d.nanos < clockEnd

/-- How many copies the next take hands out. -/
def share (q : Queue) (max now : Nat) : Nat := Nat.min max (q.requeue now).ready.length

theorem share_le (q : Queue) (max now : Nat) : q.share max now ≤ (q.requeue now).ready.length :=
  Nat.min_le_right _ _

/-- What the next take lends, if it lends anything. -/
def lends (q : Queue) (max now : Nat) : List Loan × Queue :=
  (q.requeue now).lend (q.share max now) (now + q.ackDeadline.nanos)

theorem take_fits (fits : q.share max now = 0 ∨ now + q.ackDeadline.nanos < clockEnd) :
    q.take max now = (some (q.lends max now).1, (q.lends max now).2) := by
  have on_clock : ¬ (0 < q.share max now ∧ clockEnd ≤ now + q.ackDeadline.nanos) := by omega
  exact if_neg on_clock

theorem take_late (some_ready : 0 < q.share max now) (late : clockEnd ≤ now + q.ackDeadline.nanos) :
    q.take max now = (none, (q.requeue now).lose (q.share max now)) :=
  if_pos ⟨some_ready, late⟩

/-- Everything that one event can do. -/
inductive Moves (q : Queue) : Event → List Loan → Queue → Prop
  | put (messages : List Message) : Moves q (.put messages) [] (q.put messages)
  | lend {max now : Nat} (fits : q.share max now = 0 ∨ now + q.ackDeadline.nanos < clockEnd) :
      Moves q (.take max now) (q.lends max now).1 (q.lends max now).2
  | lose {max now : Nat} (some_ready : 0 < q.share max now)
      (late : clockEnd ≤ now + q.ackDeadline.nanos) :
      Moves q (.take max now) [] ((q.requeue now).lose (q.share max now))
  | ack (ackId : Nat) : Moves q (.ack ackId) [] (q.ack ackId)

/-- What an event hands out. -/
def given (q : Queue) (e : Event) : List Loan := (taken? (q, e)).getD []

theorem moves_of_step (stepped : q.step e = some r) :
    ∃ loans, q.given e = loans ∧ Moves q e loans r := by
  cases e with
  | put messages => exact ⟨[], rfl, Option.some.inj stepped ▸ .put messages⟩
  | ack ackId => exact ⟨[], rfl, Option.some.inj stepped ▸ .ack ackId⟩
  | take max now =>
    cases Option.some.inj stepped
    by_cases late : 0 < q.share max now ∧ clockEnd ≤ now + q.ackDeadline.nanos
    · have took := take_late late.1 late.2
      exact ⟨[], by simp [given, taken?, took], by simpa [took] using Moves.lose late.1 late.2⟩
    · have fits : q.share max now = 0 ∨ now + q.ackDeadline.nanos < clockEnd := by omega
      have took := take_fits fits
      exact ⟨(q.lends max now).1, by simp [given, taken?, took],
        by simpa [took] using Moves.lend fits⟩

theorem step_total (q : Queue) (e : Event) : ∃ r, q.step e = some r := by
  cases e <;> exact ⟨_, rfl⟩

theorem deadline_kept (ran : run step q es = some r) : r.ackDeadline = q.ackDeadline := by
  induction es generalizing q with
  | nil => exact Option.some.inj ran ▸ rfl
  | cons e es ih =>
    obtain ⟨u, stepped, rest⟩ := Option.bind_eq_some_iff.mp ran
    obtain ⟨loans, _, moved⟩ := moves_of_step stepped
    refine (ih rest).trans ?_
    cases moved <;> rfl

theorem given_concat (ran : run step q es = some r) (e : Event) :
    (takes q (es ++ [e])).flatten = (takes q es).flatten ++ r.given e := by
  obtain ⟨u, stepped⟩ := r.step_total e
  rw [takes, trace_snoc ran stepped, filterMap_concat, List.flatten_append, takes, given]
  cases taken? (r, e) <;> simp

theorem messages_of_batches (es : List Event) :
    es.flatMap Event.messages = (es.filterMap Event.batch?).flatten := by
  induction es with
  | nil => rfl
  | cons e es ih =>
    rw [List.flatMap_cons, ih]
    cases e <;> rfl

/-- Where nothing is taken, everything that came in is ready. -/
theorem ready_of_puts {batches : List (List Message)}
    (ran : run step q (batches.map .put) = some r) :
    r.ready.map (·.message) = q.ready.map (·.message) ++ batches.flatten := by
  induction batches generalizing q with
  | nil => exact Option.some.inj ran ▸ (List.append_nil _).symm
  | cons messages batches ih =>
    have fresh : (messages.zipIdx.map fun x => (⟨q.arrived.length + x.2, x.1, 0⟩ : Copy)).map
        (·.message) = messages := by
      rw [List.map_map]
      exact List.zipIdx_map_fst 0 messages
    have came : (q.put messages).ready.map (·.message) = q.ready.map (·.message) ++ messages := by
      rw [put, List.map_append, fresh]
    rw [ih ran, came, List.flatten_cons, List.append_assoc]

theorem takes_append (ran : run step q es = some r) (fs : List Event) :
    takes q (es ++ fs) = takes q es ++ takes r fs := by
  rw [takes, trace_append fs ran, List.filterMap_append, takes, takes]

/-! What a loan is made of. -/

@[simp] theorem loans_copies (first deadline : Nat) (copies : List Copy) :
    (loans first deadline copies).map (·.copy) =
      copies.map fun c => { c with deliveries := c.deliveries + 1 } := by
  have firsts := List.zipIdx_map_fst first copies
  rw [loans, List.map_map]
  conv_rhs => rw [← firsts, List.map_map]
  rfl

@[simp] theorem loans_serials (first deadline : Nat) (copies : List Copy) :
    (loans first deadline copies).map (·.copy.serial) = copies.map (·.serial) := by
  have copied := congrArg (List.map (·.serial)) (loans_copies first deadline copies)
  simpa only [List.map_map, Function.comp_def] using copied

theorem handouts_serials (first deadline : Nat) (copies : List Copy) :
    ((loans first deadline copies).map Loan.handout).map (·.serial) = copies.map (·.serial) := by
  rw [List.map_map]
  exact loans_serials first deadline copies

@[simp] theorem loans_ids (first deadline : Nat) (copies : List Copy) :
    (loans first deadline copies).map (·.ackId) = List.range' first copies.length := by
  rw [loans, List.map_map, ← List.zipIdx_map_snd first copies]
  rfl

theorem loans_deadline {first deadline : Nat} {copies : List Copy} {l : Loan}
    (member : l ∈ loans first deadline copies) : l.deadline = deadline := by
  obtain ⟨x, _, rfl⟩ := List.mem_map.mp member
  rfl

theorem loan_number {first deadline : Nat} {copies : List Copy} {l : Loan}
    (member : l ∈ loans first deadline copies) :
    first ≤ l.ackId ∧ l.ackId < first + copies.length := by
  have number := List.mem_map_of_mem (f := (·.ackId)) member
  rw [loans_ids, List.mem_range'_1] at number
  exact number

theorem loan_serial {first deadline : Nat} {copies : List Copy} {l : Loan}
    (member : l ∈ loans first deadline copies) : l.copy.serial ∈ copies.map (·.serial) := by
  rw [← loans_serials first deadline copies]
  exact List.mem_map_of_mem (f := (·.copy.serial)) member

/-- Loans that stand in the order of their numbers run out in that order. -/
theorem expired_eq (ordered : (q.inFlight.map (·.ackId)).Pairwise (· < ·)) (now : Nat) :
    q.expired now = q.inFlight.filter fun l => l.deadline ≤ now := by
  refine List.mergeSort_of_pairwise ?_
  have sorted := (List.pairwise_map.mp ordered).filter fun l => decide (l.deadline ≤ now)
  exact sorted.imp fun older => decide_eq_true (Nat.le_of_lt older)

theorem expired_perm (q : Queue) (now : Nat) :
    (q.expired now ++ q.inFlight.filter fun l => now < l.deadline).Perm q.inFlight := by
  have split := List.filter_append_perm (fun l : Loan => decide (l.deadline ≤ now)) q.inFlight
  have later : (q.inFlight.filter fun l => now < l.deadline) =
      q.inFlight.filter fun l => !decide (l.deadline ≤ now) := by
    refine List.filter_congr ?_
    intro l _
    rw [← decide_not, decide_eq_decide, Nat.not_le]
  rw [later]
  exact ((List.mergeSort_perm _ _).append_right _).trans split

end Courier.Queue
