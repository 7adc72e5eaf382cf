import Courier.Broker.Mailbox
import Courier.Proofs.Queue.Moves

/-! Nobody sleeps over messages that are ready. The two moments of a delivery are taken apart, so that
anything can come between the messages and their ring: a call that is about to sleep over messages
finds a permit, and one that sleeps over them has been woken, unless the latest messages are still to
be rung for. One permit stands for any number of rings, because the look it leads to is at the whole
queue. -/

namespace Courier.Mailbox

/-- What can happen to a mailbox: a delivery in its two moments, an acknowledgement, or a moment of the
call for messages. -/
inductive Event
  | put (messages : List Message)
  | ring
  | ack (ackId : Nat)
  | move (now : Nat) (move : Move)
  deriving DecidableEq

def react (m : Mailbox) : Event → Option Mailbox
  | .put messages => some { m with queue := m.queue.put messages }
  | .ring => some { m with bell := m.bell.ring }
  | .ack ackId => some (m.ack ackId)
  | .move now move => (m.step now move).map (·.1)

variable {m n : Mailbox} {es : List Event} {e : Event} {max now : Nat}
  {heard : Option Heard} {rung : Prop}

/-- Everything that one moment of a call can do. -/
inductive Moved (m : Mailbox) (now : Nat) : Move → Mailbox → Prop
  | start {size : Nat} (free : m.call = none) :
      Moved m now (.start size) { m with call := some (size, .looking) }
  /-- The look ends the call. -/
  | hear {size : Nat} {n : Mailbox} (looking : m.call = some (size, .looking)) (ended : n.call = none)
      (bell : n.bell = m.bell) : Moved m now .look n
  | miss {size : Nat} {q : Queue} (looking : m.call = some (size, .looking))
      (took : m.queue.take size now = (some [], q)) :
      Moved m now .look ⟨q, m.bell, some (size, .turning)⟩
  | spare {size : Nat} (turning : m.call = some (size, .turning)) (permit : m.bell.permit = true) :
      Moved m now .turn { m with bell := .silent, call := some (size, .looking) }
  | sleep {size : Nat} (turning : m.call = some (size, .turning)) (silent : m.bell.permit = false) :
      Moved m now .turn { m with bell := ⟨false, .asleep⟩, call := some (size, .sleeping) }
  | wake {size : Nat} (sleeping : m.call = some (size, .sleeping))
      (woken : m.bell.sleeper = .woken) : Moved m now .wake
        { m with bell := { m.bell with sleeper := .absent }, call := some (size, .looking) }
  /-- The call ends where it is about to sleep or does, and nobody waits any more. -/
  | quit {move : Move} {n : Mailbox} (ended : n.call = none)
      (alone : n.bell.sleeper = .absent ∨ n.bell = m.bell ∧ ∃ size, m.call = some (size, .turning)) :
      Moved m now move n

theorem moved_of_quit {move : Move} {other : Option Heard} (quits : m.quit other = some (n, heard)) :
    Moved m now move n := by
  unfold Mailbox.quit at quits
  split at quits
  · rename_i turning
    cases Option.some.inj quits
    exact .quit rfl (.inr ⟨rfl, _, turning⟩)
  · cases Option.some.inj quits
    refine .quit rfl (.inl ?_)
    unfold Bell.leave
    split <;> rfl
  · contradiction

theorem moved_of_step {move : Move} (stepped : m.step now move = some (n, heard)) :
    Moved m now move n := by
  cases move with
  | start size =>
    simp only [step] at stepped
    split at stepped
    · rename_i free
      cases Option.some.inj stepped
      exact .start free
    · contradiction
  | look =>
    simp only [step] at stepped
    split at stepped
    · rename_i looking
      unfold look at stepped
      split at stepped
      · cases Option.some.inj stepped
        exact .hear looking rfl rfl
      · rename_i took
        cases Option.some.inj stepped
        exact .miss looking took
      · cases Option.some.inj stepped
        exact .hear looking rfl rfl
    · contradiction
  | turn =>
    simp only [step] at stepped
    split at stepped
    · rename_i turning
      cases Option.some.inj stepped
      unfold turn
      split
      · rename_i permit
        exact .spare turning permit
      · rename_i silent
        exact .sleep turning (Bool.eq_false_iff.mpr silent)
    · contradiction
  | wake =>
    simp only [step] at stepped
    split at stepped
    · rename_i sleeping woken
      cases Option.some.inj stepped
      exact .wake sleeping woken
    · contradiction
  | giveUp => exact moved_of_quit stepped
  | cancel => exact moved_of_quit stepped
  | leave =>
    simp only [step] at stepped
    split at stepped
    · exact moved_of_quit stepped
    · contradiction

/-- All that came in has been rung for. -/
def Rung (es : List Event) : Prop :=
  ∀ before after messages, es = before ++ .put messages :: after → .ring ∈ after

theorem rung_ring (es : List Event) : Rung (es ++ [.ring]) := by
  intro before after messages same
  -- the last of these events is the ring
  induction after using List.reverseRecOn with
  | nil => cases (List.append_inj' same rfl).2
  | append_singleton after last _ =>
    rw [← List.cons_append, ← List.append_assoc] at same
    cases (List.append_inj' same rfl).2
    exact List.mem_append_right _ List.mem_cons_self

theorem rung_concat (rung : Rung (es ++ [e])) : e = .ring ∨ Rung es ∧ ∀ messages, e ≠ .put messages := by
  by_cases rings : e = .ring
  · exact .inl rings
  · refine .inr ⟨?_, ?_⟩
    · rintro before after messages rfl
      have later := rung before (after ++ [e]) messages (by simp)
      rcases List.mem_append.mp later with already | last
      · exact already
      · exact absurd (List.mem_singleton.mp last).symm rings
    · rintro messages rfl
      cases rung es [] messages rfl

/-- Nobody waits at the bell but a call that sleeps. If what came in has been rung for, and the call asks
for something, it is not about to sleep over ready messages without a permit, and does not sleep over
them unless it has been woken. -/
def Attentive (rung : Prop) (m : Mailbox) : Prop :=
  match m.call with
  | none => m.bell.sleeper = .absent
  | some (_, .looking) => m.bell.sleeper = .absent
  | some (max, .turning) => m.bell.sleeper = .absent ∧
      (rung → 0 < max → m.queue.ready ≠ [] → m.bell.permit = true)
  | some (max, .sleeping) => m.bell.sleeper = .woken ∨
      m.bell = ⟨false, .asleep⟩ ∧ (rung → 0 < max → m.queue.ready = [])

theorem attentive_new (d : Duration) : Attentive rung (.new d) := rfl

theorem Attentive.weaken {rang : Prop} (attentive : Attentive rung m) (less : rang → rung) :
    Attentive rang m := by
  simp only [Attentive] at attentive ⊢
  split at attentive
  · exact attentive
  · exact attentive
  · exact ⟨attentive.1, fun rang => attentive.2 (less rang)⟩
  · exact attentive.imp_right fun asleep => ⟨asleep.1, fun rang => asleep.2 (less rang)⟩

theorem Attentive.ack (attentive : Attentive rung m) (ackId : Nat) : Attentive rung (m.ack ackId) :=
  attentive

theorem Attentive.acks (attentive : Attentive rung m) (numbers : List Nat) :
    Attentive rung (numbers.foldl Mailbox.ack m) := by
  induction numbers generalizing m with
  | nil => exact attentive
  | cons k numbers ih => exact ih (attentive.ack k)

theorem acks_aside (m : Mailbox) (numbers : List Nat) : (numbers.foldl Mailbox.ack m).call = m.call := by
  induction numbers generalizing m with
  | nil => rfl
  | cons k numbers ih => exact ih (m.ack k)

/-- Between messages and their ring nothing is promised. -/
theorem Attentive.put (attentive : Attentive rung m) (messages : List Message) :
    Attentive False { m with queue := m.queue.put messages } := by
  simp only [Attentive] at attentive ⊢
  split at attentive
  · exact attentive
  · exact attentive
  · exact ⟨attentive.1, False.elim⟩
  · exact attentive.imp_right fun asleep => ⟨asleep.1, False.elim⟩

/-- A ring makes up for all that was missed. -/
theorem Attentive.ring (attentive : Attentive rung m) {rang : Prop} :
    Attentive rang { m with bell := m.bell.ring } := by
  simp only [Attentive] at attentive ⊢
  split at attentive
  · simp only [Bell.ring, attentive]
  · simp only [Bell.ring, attentive]
  · simp only [Bell.ring, attentive.1]
    exact ⟨trivial, fun _ _ _ => trivial⟩
  · rcases attentive with woken | ⟨asleep, _⟩
    · simp only [Bell.ring, woken]
      exact .inl trivial
    · simp only [Bell.ring, asleep]
      exact .inl trivial

/-- A take that asks for something and brings nothing has found nothing. -/
theorem ready_of_nothing {q r : Queue} (took : q.take max now = (some [], r)) (asks : 0 < max) :
    q.ready = [] ∧ r.ready = [] := by
  by_cases late : 0 < q.share max now ∧ clockEnd ≤ now + q.ackDeadline.nanos
  · rw [Queue.take_late late.1 late.2] at took
    cases took
  · rw [Queue.take_fits (by omega)] at took
    obtain ⟨nothing, rfl⟩ := Prod.mk.inj took
    have none_lent := congrArg List.length (Option.some.inj nothing)
    rw [Queue.lends, Queue.lend, ← List.length_map (f := fun l : Loan => l.copy.serial),
      Queue.loans_serials, List.length_map, List.length_take, List.length_nil] at none_lent
    have share : q.share max now = min max (q.requeue now).ready.length := rfl
    have none_waiting : (q.requeue now).ready = [] := List.eq_nil_of_length_eq_zero (by omega)
    refine ⟨(List.append_eq_nil_iff.mp none_waiting).1, ?_⟩
    rw [Queue.lends, Queue.lend, none_waiting, List.drop_nil]

theorem Attentive.move {move : Move} (attentive : Attentive rung m)
    (stepped : m.step now move = some (n, heard)) : Attentive rung n := by
  unfold Attentive at attentive
  cases moved_of_step stepped with
  | start free =>
    rw [free] at attentive
    exact attentive
  | hear looking ended bell =>
    rw [looking] at attentive
    simp only [Attentive, ended, bell]
    exact attentive
  | miss looking took =>
    rw [looking] at attentive
    exact ⟨attentive, fun _ asks waiting => absurd (ready_of_nothing took asks).2 waiting⟩
  | spare => rfl
  | sleep turning silent =>
    rw [turning] at attentive
    refine .inr ⟨rfl, fun rang asks => ?_⟩
    by_contra waiting
    have permit := attentive.2 rang asks waiting
    rw [silent] at permit
    cases permit
  | wake => rfl
  | quit ended alone =>
    simp only [Attentive, ended]
    rcases alone with absent | ⟨bell, size, turning⟩
    · exact absent
    · rw [turning] at attentive
      exact bell ▸ attentive.1

theorem attentive_of_run {d : Duration} (reached : run react (.new d) es = some m) :
    Attentive (Rung es) m := by
  refine run_invariant (P := fun es m => Attentive (Rung es) m) (attentive_new d) ?_ reached
  intro es m e n _ before reacted
  have still : e ≠ .ring → Rung (es ++ [e]) → Rung es :=
    fun other rung => ((rung_concat rung).resolve_left other).1
  cases e with
  | put messages =>
    cases Option.some.inj reacted
    refine (before.put messages).weaken fun rung => ?_
    rcases rung_concat rung with rings | ⟨_, other⟩
    · cases rings
    · exact other messages rfl
  | ring => cases Option.some.inj reacted; exact before.ring
  | ack ackId =>
    cases Option.some.inj reacted
    exact (before.ack ackId).weaken (still (by simp))
  | move now move =>
    obtain ⟨⟨n, heard⟩, moved, rfl⟩ := Option.map_eq_some_iff.mp reacted
    exact (before.move moved).weaken (still (by simp))

theorem Attentive.sleeping (attentive : Attentive rung m) (rang : rung)
    (call : m.call = some (max, .sleeping)) (asks : 0 < max) (waiting : m.queue.ready ≠ []) :
    m.bell.sleeper = .woken := by
  simp only [Attentive, call] at attentive
  exact attentive.resolve_right fun asleep => waiting (asleep.2 rang asks)

theorem Attentive.turning (attentive : Attentive rung m) (rang : rung)
    (call : m.call = some (max, .turning)) (asks : 0 < max) (waiting : m.queue.ready ≠ []) :
    m.bell.permit = true := by
  simp only [Attentive, call] at attentive
  exact attentive.2 rang asks waiting

/-- A look at ready messages ends the call, and brings some as long as their deadline is on the clock. -/
theorem hears_of_look (call : m.call = some (max, .looking)) (asks : 0 < max)
    (waiting : m.queue.ready ≠ []) (now : Nat) : ∃ n heard, m.step now .look = some (n, some heard) ∧
      (now + m.queue.ackDeadline.nanos < clockEnd → ∃ loans, heard = .batch loans ∧ loans ≠ []) := by
  simp only [step, call, look]
  split
  · rename_i took
    refine ⟨_, _, rfl, fun on_clock => ?_⟩
    rw [Queue.take_fits (.inr on_clock)] at took
    cases took
  · rename_i took
    exact absurd (ready_of_nothing took asks).1 waiting
  · rename_i loans _ some_given _
    exact ⟨_, _, rfl, fun _ => ⟨loans, rfl, some_given⟩⟩

/-- A call that is woken gets up and looks. -/
theorem wakes (call : m.call = some (max, .sleeping)) (woken : m.bell.sleeper = .woken) (now : Nat) :
    m.next? = some .wake ∧ ∃ n, m.step now .wake = some (n, none) ∧ n.queue = m.queue ∧
      n.call = some (max, .looking) := by
  refine ⟨by simp only [next?, call, woken], ?_⟩
  simp only [step, call, woken]
  exact ⟨_, rfl, rfl, rfl⟩

/-- What a call asks for is settled as it begins. -/
theorem call_of_step {move : Move} {place : Listening} (stepped : m.step now move = some (n, heard))
    (call : n.call = some (max, place)) : (∃ before, m.call = some (max, before)) ∨ move = .start max := by
  cases moved_of_step stepped with
  | start => cases call; exact .inr rfl
  | hear _ ended => cases ended.symm.trans call
  | miss looking => cases call; exact .inl ⟨_, looking⟩
  | spare turning => cases call; exact .inl ⟨_, turning⟩
  | sleep turning => cases call; exact .inl ⟨_, turning⟩
  | wake sleeping => cases call; exact .inl ⟨_, sleeping⟩
  | quit ended => cases ended.symm.trans call

end Courier.Mailbox
