import Courier.Proofs.Broker.Acts
import Courier.Proofs.Session.Moves

/-! What a session does to its broker. Each of its steps is some acts on the broker, so whatever holds of
all acts holds of sessions; a topic is deleted and a subscription dropped by the events that say so. -/

namespace Courier.Session

variable {s t : Session} {e : Event} {h : Nat} {m : Mailbox} {xs : List Event}

/-- The event cuts the mailbox off from the topic. -/
def severs (name : String) (h : Nat) : Event → Bool
  | .deleteTopic other => decide (name = other)
  | .abandon g => decide (h = g)
  | _ => false

theorem broker_of_moved {moment : Subscription.Event MissingTopic}
    (moved : s.moveConsumer h moment = some t) : t.broker = s.broker := by
  obtain ⟨_, _, _, _, rfl⟩ := moved_consumer moved
  rfl

/-- What a step of a session does to its broker is acts, and only those that say so cut off a mailbox. -/
structure Acts (s : Session) (e : Event) (t : Session) (as : List Broker.Act) : Prop where
  ran : run Broker.act s.broker as = some t.broker
  cuts : ∀ name h, as.any (Broker.cuts name h) = severs name h e

theorem acts_of_same (broker : t.broker = s.broker) (calm : ∀ name h, severs name h e = false) :
    Acts s e t [] :=
  ⟨congrArg some broker.symm, fun name h => (calm name h).symm⟩

theorem acts_of_publish (stepped : s.publish h = some t) : ∃ as, Acts s (.publish h) t as := by
  simp only [publish, Option.bind_eq_bind, Option.bind_eq_some_iff] at stepped
  obtain ⟨p, _, batch, _, stepped⟩ := stepped
  split at stepped
  · exact ⟨[], acts_of_same (moved_publisher stepped).2.1 fun _ _ => rfl⟩
  · split at stepped
    · rename_i b published
      have broker := (moved_publisher stepped).2.1
      refine ⟨[.publish p.topic batch], ?_, fun _ _ => rfl⟩
      apply run_single
      simp only [Broker.act, published, broker]
      rfl
    · exact ⟨[], acts_of_same (moved_publisher stepped).2.1 fun _ _ => rfl⟩

theorem acts_of_listen {move : Mailbox.Move} (stepped : s.listen h move = some t) :
    ∃ as, Acts s (.listen h move) t as := by
  simp only [listen, Option.bind_eq_bind, Option.bind_eq_some_iff] at stepped
  obtain ⟨c, _, ⟨id, size⟩, _, stepped⟩ := stepped
  split at stepped
  · obtain ⟨m, mail, ⟨n, heard⟩, moved, result⟩ := by
      simpa only [Option.bind_eq_some_iff] using stepped
    have broker : t.broker = s.broker.setMailbox c.mailbox n := by
      cases heard with
      | none => exact Option.some.inj result ▸ rfl
      | some heard => exact broker_of_moved result
    refine ⟨[.listen c.mailbox move s.now], ?_, fun _ _ => rfl⟩
    apply run_single
    simp only [Broker.act, Broker.changeMailbox, mail, moved, broker, Option.bind_some,
      Option.map_some]
  · contradiction

theorem acts_of_leave {id : Nat} {moment : Subscription.Event MissingTopic}
    (stepped : s.leaveReceive h id moment = some t) : ∃ as, Acts s (.consumer h moment) t as := by
  simp only [leaveReceive, Option.bind_eq_bind, Option.bind_eq_some_iff] at stepped
  obtain ⟨c, _, stepped⟩ := stepped
  split at stepped
  · obtain ⟨m, mail, ⟨n, heard⟩, moved, result⟩ := by
      simpa only [Option.bind_eq_some_iff] using stepped
    have broker := broker_of_moved result
    refine ⟨[.listen c.mailbox .leave s.now], ?_, fun _ _ => rfl⟩
    apply run_single
    simp only [Broker.act, Broker.changeMailbox, mail, moved, broker, Option.bind_some,
      Option.map_some]
    rfl
  · exact ⟨[], acts_of_same (broker_of_moved stepped) fun _ _ => rfl⟩

/-- Acknowledging many numbers is acknowledging each. -/
theorem run_acknowledge {b : Broker} (mail : b.mailbox? h = some m) (numbers : List Nat) :
    run Broker.act b (numbers.map (.acknowledge h)) =
      some (b.setMailbox h (numbers.foldl Mailbox.ack m)) := by
  induction numbers generalizing b m with
  | nil =>
    obtain ⟨bound, rfl⟩ := List.getElem?_eq_some_iff.mp mail
    simp [run, Broker.setMailbox, List.set_getElem_self]
  | cons n numbers ih =>
    have next : Broker.act b (.acknowledge h n) = some (b.setMailbox h (m.ack n)) := by
      simp only [Broker.act, Broker.changeMailbox, mail, Option.bind_some, Option.map_some]
    have found : (b.setMailbox h (m.ack n)).mailbox? h = some (m.ack n) := by
      rw [Broker.mailbox_set mail, if_pos rfl]
    rw [List.map_cons, run, next, Option.bind_some, ih found]
    simp [Broker.setMailbox]

theorem acts_of_acknowledge (stepped : s.acknowledge h = some t) :
    ∃ as, Acts s (.acknowledge h) t as := by
  simp only [acknowledge, Option.bind_eq_bind, Option.bind_eq_some_iff] at stepped
  obtain ⟨c, _, ids, _, m, mail, result⟩ := stepped
  have broker := broker_of_moved result
  refine ⟨(ids.filterMap AckId.number?).map (.acknowledge c.mailbox), ?_, fun name g => ?_⟩
  · rw [run_acknowledge mail, broker]
    rfl
  · refine List.any_eq_false.mpr fun a member => ?_
    obtain ⟨k, _, rfl⟩ := List.mem_map.mp member
    exact Bool.false_ne_true

theorem acts_of_step (aligned : Aligned s) (stepped : s.step e = some t) : ∃ as, Acts s e t as := by
  cases e with
  | createTopic name =>
    cases Option.some.inj stepped
    exact ⟨[.createTopic name], rfl, fun _ _ => rfl⟩
  | deleteTopic name =>
    cases Option.some.inj stepped
    refine ⟨[.deleteTopic name], rfl, fun other h => ?_⟩
    simp [Broker.cuts, Broker.deletes, Broker.drops, severs, eq_comm]
  | openTopic name options =>
    cases Option.some.inj stepped
    exact ⟨[.openTopic name options], rfl, fun _ _ => rfl⟩
  | openSubscription name deadline options =>
    refine ⟨[.openSubscription name deadline options], ?_, fun _ _ => rfl⟩
    apply run_single
    simp only [step, openSubscription, Except.map] at stepped
    rw [Broker.act]
    split at stepped
    · rename_i opens
      split at opens
      · cases opens
      · rename_i opened
        cases opens
        cases Option.some.inj stepped
        rw [opened]
        rfl
    · rename_i denies
      split at denies
      · rename_i denied
        cases Option.some.inj stepped
        rw [denied]
      · cases denies
  | publisher g moment =>
    simp only [step] at stepped
    split at stepped
    · exact ⟨[], acts_of_same (moved_publisher stepped).2.1 fun _ _ => rfl⟩
    · contradiction
  | publish g => exact acts_of_publish stepped
  | consumer g moment =>
    cases moment with
    | receiveLeave | receiveClear => exact acts_of_leave stepped
    | _ =>
      simp only [step] at stepped
      split at stepped
      · exact ⟨[], acts_of_same (broker_of_moved stepped) fun _ _ => rfl⟩
      · contradiction
  | listen g move => exact acts_of_listen stepped
  | acknowledge g => exact acts_of_acknowledge stepped
  | abandon g =>
    simp only [step, Option.bind_eq_bind, Option.bind_eq_some_iff] at stepped
    obtain ⟨c, found, result⟩ := stepped
    cases Option.some.inj result
    have number := aligned.numbered g c found
    have there := (List.getElem?_eq_some_iff.mp found).1
    rw [← aligned.lengths] at there
    refine ⟨[.abandon g], ?_, fun name h => ?_⟩
    · apply run_single
      rw [Broker.act, if_pos there, number]
      rfl
    · simp [Broker.cuts, Broker.deletes, Broker.drops, severs]
  | fire | pass =>
    cases Option.some.inj stepped
    exact ⟨[], acts_of_same rfl fun _ _ => rfl⟩

/-- A mailbox stays where it was attached until it is cut off, and is never attached again. -/
theorem reaches_of_step (aligned : Aligned s) (stepped : s.step e = some t)
    (old : h < s.consumers.length) (name : String) :
    t.broker.reaches name h = (s.broker.reaches name h && !severs name h e) := by
  obtain ⟨as, acts⟩ := acts_of_step aligned stepped
  rw [← aligned.lengths] at old
  rw [Broker.reaches_of_run acts.ran old, acts.cuts]

theorem known_of_run (reached : run step empty xs = some s) : s.broker.Known := by
  refine run_invariant (P := fun _ s => s.broker.Known) Broker.known_empty ?_ reached
  intro xs s e t ran known stepped
  obtain ⟨as, acts⟩ := acts_of_step (aligned_of_run aligned_empty ran) stepped
  exact known.run acts.ran

end Courier.Session
