import Courier.Proofs.Broker.Waking
import Courier.Proofs.Session.Acts
import Courier.Proofs.Session.AtLeastOnce
import Courier.Proofs.Subscription.Sizes

/-! In a session a publish is one step, which puts the messages into the queues and rings for them.
And a call for messages asks for what a fetch wants, which is never nothing. So whoever sleeps over
ready messages has been woken. The one instant that a session passes over lies inside the publish of
the broker, between the messages and their ring: there a call can sleep over ready messages with the
ring still to come. A mailbox by itself knows that instant, and `Rung` leaves it out by name. -/

namespace Courier.Session

variable {s t : Session} {e : Event} {h size : Nat} {m n : Mailbox} {xs : List Event}

/-- What a step of a session does to one mailbox. -/
inductive Handles (s : Session) (h : Nat) (m n : Mailbox) : Prop
  | still (same : n = m)
  | deliver (batch : List Message) (same : n = m.deliver batch)
  | acknowledge (numbers : List Nat) (same : n = numbers.foldl Mailbox.ack m)
  /-- A call that begins asks for what a fetch of its handle wants. -/
  | move {move : Mailbox.Move} {heard : Option Heard} (moved : m.step s.now move = some (n, heard))
      (wanted : ∀ size, move = .start size → ∃ c id, s.consumers[h]? = some c ∧
        c.state.calling? = some (id, size))

theorem handles_of_set {k : Nat} {o : Mailbox} (mail : s.broker.mailbox? h = some m)
    (mailed : (s.broker.setMailbox k o).mailbox? h = some n)
    (handles : k = h → Handles s h m o) : Handles s h m n := by
  rw [Broker.mailbox?, Broker.setMailbox, List.getElem?_set] at mailed
  split at mailed
  · rename_i same
    split at mailed
    · exact Option.some.inj mailed ▸ handles same
    · contradiction
  · exact .still (Option.some.inj (mailed.symm.trans mail))

theorem handles_of_same (mail : s.broker.mailbox? h = some m) (mailed : t.broker.mailbox? h = some n)
    (broker : t.broker = s.broker) : Handles s h m n :=
  .still (Option.some.inj (mailed.symm.trans (broker ▸ mail)))

theorem handles_of_listen {g : Nat} {move : Mailbox.Move} (aligned : Aligned s)
    (mail : s.broker.mailbox? h = some m) (mailed : t.broker.mailbox? h = some n)
    (stepped : s.listen g move = some t) : Handles s h m n := by
  simp only [listen, Option.bind_eq_bind, Option.bind_eq_some_iff] at stepped
  obtain ⟨c, found, ⟨id, size⟩, calling, stepped⟩ := stepped
  split at stepped
  · rename_i allows
    obtain ⟨m', mail', ⟨o, heard⟩, moved, result⟩ := by
      simpa only [Option.bind_eq_some_iff] using stepped
    have broker : t.broker = s.broker.setMailbox c.mailbox o := by
      cases heard with
      | none => exact Option.some.inj result ▸ rfl
      | some heard => exact broker_of_moved result
    rw [aligned.numbered g c found] at broker mail'
    refine handles_of_set mail (broker ▸ mailed) ?_
    rintro rfl
    cases Option.some.inj (mail'.symm.trans mail)
    refine .move moved fun asked start => ?_
    subst start
    have same : asked = size := by simpa [allowed] using allows
    exact ⟨c, id, found, same ▸ calling⟩
  · contradiction

theorem handles_of_leave {g id : Nat} {moment : Subscription.Event MissingTopic} (aligned : Aligned s)
    (mail : s.broker.mailbox? h = some m) (mailed : t.broker.mailbox? h = some n)
    (stepped : s.leaveReceive g id moment = some t) : Handles s h m n := by
  simp only [leaveReceive, Option.bind_eq_bind, Option.bind_eq_some_iff] at stepped
  obtain ⟨c, found, stepped⟩ := stepped
  split at stepped
  · obtain ⟨m', mail', ⟨o, heard⟩, moved, result⟩ := by
      simpa only [Option.bind_eq_some_iff] using stepped
    have broker : t.broker = s.broker.setMailbox c.mailbox o := broker_of_moved result
    rw [aligned.numbered g c found] at broker mail'
    refine handles_of_set mail (broker ▸ mailed) ?_
    rintro rfl
    cases Option.some.inj (mail'.symm.trans mail)
    exact .move moved fun _ start => by cases start
  · exact handles_of_same mail mailed (broker_of_moved stepped)

theorem handles_of_acknowledge {g : Nat} (aligned : Aligned s) (mail : s.broker.mailbox? h = some m)
    (mailed : t.broker.mailbox? h = some n) (stepped : s.acknowledge g = some t) :
    Handles s h m n := by
  simp only [acknowledge, Option.bind_eq_bind, Option.bind_eq_some_iff] at stepped
  obtain ⟨c, found, ids, _, m', mail', result⟩ := stepped
  have broker := broker_of_moved result
  rw [aligned.numbered g c found] at mail' broker
  refine handles_of_set mail (broker ▸ mailed) ?_
  rintro rfl
  cases Option.some.inj (mail'.symm.trans mail)
  exact .acknowledge _ rfl

/-- A mailbox after a step was there before, or is new. -/
theorem handles_of_step (aligned : Aligned s) (stepped : s.step e = some t)
    (mailed : t.broker.mailbox? h = some n) : (∃ deadline, n = .new deadline) ∨
      ∃ m, s.broker.mailbox? h = some m ∧ Handles s h m n := by
  cases mail : s.broker.mailbox? h with
  | none =>
    have beyond := List.getElem?_eq_none_iff.mp mail
    have bound := (List.getElem?_eq_some_iff.mp mailed).1
    have more := (aligned_next aligned stepped).lengths ▸ bound
    rw [aligned.lengths] at beyond
    obtain ⟨d, found⟩ : ∃ d, t.consumers[h]? = some d := ⟨_, List.getElem?_eq_getElem more⟩
    rcases handle_cases aligned found stepped with ⟨c, there⟩ | ⟨_, deadline, _, _, _, new, _⟩
    · have old := (List.getElem?_eq_some_iff.mp there).1
      omega
    · exact .inl ⟨deadline, Option.some.inj (mailed.symm.trans new)⟩
  | some m =>
    refine .inr ⟨m, rfl, ?_⟩
    cases about : e.about? with
    | none =>
      cases elsewhere_of_step stepped about with
      | aside _ mailboxes =>
        rw [Broker.mailbox?, mailboxes] at mailed
        exact .still (Option.some.inj (mailed.symm.trans mail))
      | fire _ _ mailboxes =>
        rw [Broker.mailbox?, mailboxes] at mailed
        exact .still (Option.some.inj (mailed.symm.trans mail))
      | attach _ _ mailboxes =>
        have bound := (List.getElem?_eq_some_iff.mp mail).1
        rw [Broker.mailbox?, mailboxes, List.getElem?_append_left bound] at mailed
        exact .still (Option.some.inj (mailed.symm.trans mail))
      | @publish name batch _ _ mailboxes =>
        have there : s.broker.mailboxes[h]? = some m := mail
        rw [Broker.mailbox?, mailboxes, List.getElem?_mapIdx, there, Option.map_some] at mailed
        split at mailed
        · exact .deliver batch (Option.some.inj mailed).symm
        · exact .still (Option.some.inj mailed).symm
    | some g =>
      cases e with
      | listen => exact handles_of_listen aligned mail mailed stepped
      | acknowledge => exact handles_of_acknowledge aligned mail mailed stepped
      | consumer g moment =>
        cases moment with
        | receiveLeave => exact handles_of_leave aligned mail mailed stepped
        | receiveClear => exact handles_of_leave aligned mail mailed stepped
        | _ =>
          simp only [step] at stepped
          split at stepped
          · exact handles_of_same mail mailed (broker_of_moved stepped)
          · contradiction
      | _ => cases about

theorem calling_positive {c : Consumer} {id : Nat} (reached : run step empty xs = some s)
    (found : s.consumers[h]? = some c) (calling : c.state.calling? = some (id, size)) : 0 < size := by
  obtain ⟨m, options, deadline, es, qs, _, linked⟩ := linked_of_run reached found
  have distinct := (Subscription.owned_of_run linked.ran).distinct
  obtain ⟨⟨i, r⟩, member, fetches⟩ := List.exists_of_findSome?_eq_some calling
  dsimp only at fetches
  split at fetches
  · rename_i round asked call phase
    split at fetches
    · cases fetches
      have asking : Subscription.Asking c.state id r round size call.attempts :=
        ⟨call_found distinct member, by rw [phase]; rfl⟩
      have sized := (Subscription.asked_of_run linked.ran).calls _ _ _ _ _ asking
      exact (Subscription.sized_of_run linked.ran sized).bounds.1
    · contradiction
  · contradiction

/-- In a session everything is rung for as it comes in, and every call asks for something. -/
theorem attentive_of_reached (reached : run step empty xs = some s)
    (mail : s.broker.mailbox? h = some m) :
    Mailbox.Attentive True m ∧ ∀ size place, m.call = some (size, place) → 0 < size := by
  refine run_invariant (P := fun _ s => ∀ h m, s.broker.mailbox? h = some m →
    Mailbox.Attentive True m ∧ ∀ size place, m.call = some (size, place) → 0 < size)
    (by simp [empty, Broker.empty, Broker.mailbox?]) ?_ reached h m mail
  intro xs s e t ran ih stepped h n mailed
  have aligned := aligned_of_run aligned_empty ran
  rcases handles_of_step aligned stepped mailed with ⟨deadline, rfl⟩ | ⟨m, mail, handles⟩
  · exact ⟨Mailbox.attentive_new deadline, fun _ _ none => by cases none⟩
  · obtain ⟨attentive, positive⟩ := ih h m mail
    cases handles with
    | still same => exact same ▸ ⟨attentive, positive⟩
    | deliver batch same =>
      subst same
      exact ⟨(attentive.put batch).ring, positive⟩
    | acknowledge numbers same =>
      subst same
      have kept := Mailbox.acks_aside m numbers
      refine ⟨attentive.acks numbers, fun size place call => positive size place (kept ▸ call)⟩
    | @move move heard moved wanted =>
      refine ⟨attentive.move moved, fun size place call => ?_⟩
      rcases Mailbox.call_of_step moved call with ⟨before, earlier⟩ | start
      · exact positive size before earlier
      · obtain ⟨c, id, found, calling⟩ := wanted size start
        exact calling_positive ran found calling

/-- In a session, a call for messages that sleeps while its queue has some ready has been woken: it gets
up next, and its look ends it, with messages as long as their deadline is on the clock. A session
publishes in one step, so this leaves out the instant inside a publish of the broker at which the
messages are in the queue and not yet rung for. The second part has that instant: to a mailbox
anything happens in any order, with messages and their ring apart, and it holds as soon as the latest
messages have been rung for. There a call that is about to sleep over ready messages finds a permit,
which spares the sleep. -/
theorem no_sleep_over_messages :
    (∀ (xs : List Event) (s : Session) (h : Nat) (m : Mailbox) (size : Nat),
      run step empty xs = some s → s.broker.mailbox? h = some m →
      m.call = some (size, .sleeping) → m.queue.ready ≠ [] →
      m.bell.sleeper = .woken ∧ m.next? = some .wake ∧
      ∃ n, m.step s.now .wake = some (n, none) ∧ n.call = some (size, .looking) ∧
        ∀ now, ∃ o heard, n.step now .look = some (o, some heard) ∧
          (now + m.queue.ackDeadline.nanos < clockEnd → ∃ loans, heard = .batch loans ∧ loans ≠ [])) ∧
    (∀ (d : Duration) (es : List Mailbox.Event) (m : Mailbox) (size : Nat),
      run Mailbox.react (.new d) es = some m → Mailbox.Rung es → 0 < size → m.queue.ready ≠ [] →
      (m.call = some (size, .sleeping) → m.bell.sleeper = .woken) ∧
      (m.call = some (size, .turning) → m.bell.permit = true)) := by
  refine ⟨?_, ?_⟩
  · intro xs s h m size reached mail call waiting
    obtain ⟨attentive, positive⟩ := attentive_of_reached reached mail
    have asks := positive size .sleeping call
    have woken := attentive.sleeping trivial call asks waiting
    obtain ⟨next, n, wakes, queue, looking⟩ := Mailbox.wakes call woken s.now
    refine ⟨woken, next, n, wakes, looking, fun now => ?_⟩
    exact queue ▸ Mailbox.hears_of_look looking asks (queue ▸ waiting) now
  · intro d es m size reached rung asks waiting
    have attentive := Mailbox.attentive_of_run reached
    exact ⟨fun call => attentive.sleeping rung call asks waiting,
      fun call => attentive.turning rung call asks waiting⟩

/-- A receive fetches from an empty mailbox and falls asleep; then a message is published. -/
def publishedInSleep : List Event :=
  [.openTopic "a" default, .openSubscription "a" Queue.tenNanos default,
    .consumer 0 (.receive 1 none), .consumer 0 (.receiveStep 1), .consumer 0 (.receiveStep 1),
    .listen 0 (.start 1), .listen 0 .look, .listen 0 .turn] ++ publishing 0 1 0

/-- Messages come in between the look and the sleep, and are rung for. -/
def rungInTurn : List Mailbox.Event :=
  [.move 0 (.start 1), .move 0 .look, .put [Queue.note 0], .ring]

theorem no_sleep_over_messages_published_in_sleep :
    (∃ s m n, run step empty publishedInSleep = some s ∧ s.broker.mailbox? 0 = some m ∧
      m.call = some (1, .sleeping) ∧ m.bell = ⟨false, .woken⟩ ∧
      m.step s.now .wake = some (n, none) ∧ n.call = some (1, .looking)) ∧
    ∃ m, run Mailbox.react (.new Queue.tenNanos) rungInTurn = some m ∧
      m.call = some (1, .turning) ∧ m.bell.permit = true := by
  constructor
  · have ran : (run step empty publishedInSleep).bind (fun s => (s.broker.mailbox? 0).map fun m =>
        (m.call, m.bell, m.queue.ready)) =
          some (some (1, .sleeping), ⟨false, .woken⟩, [⟨0, Queue.note 0, 0⟩]) := by
      decide +kernel
    obtain ⟨s, reached, seen⟩ := Option.bind_eq_some_iff.mp ran
    obtain ⟨m, mail, holds⟩ := Option.map_eq_some_iff.mp seen
    simp only [Prod.mk.injEq] at holds
    obtain ⟨call, bell, ready⟩ := holds
    obtain ⟨_, _, n, wakes, looking, _⟩ :=
      no_sleep_over_messages.1 _ s 0 m 1 reached mail call (by simp [ready])
    exact ⟨s, m, n, reached, mail, call, bell, wakes, looking⟩
  · have ran : (run Mailbox.react (.new Queue.tenNanos) rungInTurn).map (fun m =>
        (m.call, m.queue.ready)) = some (some (1, .turning), [⟨0, Queue.note 0, 0⟩]) := by
      decide +kernel
    obtain ⟨m, reached, holds⟩ := Option.map_eq_some_iff.mp ran
    obtain ⟨call, ready⟩ := Prod.mk.inj holds
    have either := no_sleep_over_messages.2 Queue.tenNanos rungInTurn m 1 reached
      (Mailbox.rung_ring (rungInTurn.take 3)) (by decide) (by simp [ready])
    exact ⟨m, reached, call, either.2 call⟩

end Courier.Session
