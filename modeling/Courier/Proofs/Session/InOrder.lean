import Courier.Proofs.Queue.InOrder
import Courier.Proofs.Session.Acts
import Courier.Proofs.Session.AtLeastOnce

/-! From publishing to receiving. As long as its topic stays and nothing it has on loan runs out, a
subscription returns what was published since it was attached, once each and in order. What it has
not returned yet is queued, in the hands of a fetch, or ready at the broker. -/

namespace Courier.Session

variable {s t u : Session} {e : Event} {h : Nat} {name : String} {c d : Consumer} {m n : Mailbox}
  {xs ys : List Event} {options : SubscriptionOptions} {deadline : Duration}
  {es : List (Subscription.Event MissingTopic)} {qs : List Queue.Event}

/-- A subscription begins at the end of its topic's mailboxes, with an empty queue. -/
theorem opened (reached : run step empty xs = some s) (there : s.broker.hasTopic name = true)
    (stepped : s.step (.openSubscription name deadline options) = some u) :
    u.consumers[s.consumers.length]? = some ⟨s.consumers.length,
        { Subscription.State.new Broker.provider false options with fired := s.fired }⟩ ∧
      u.broker.mailbox? s.consumers.length = some (.new deadline) ∧
      ∀ other, u.broker.reaches other s.consumers.length = decide (other = name) := by
  have aligned := aligned_of_run aligned_empty reached
  have known := known_of_run reached
  obtain ⟨b, opens, spec⟩ := Broker.open_there there deadline options
  simp only [step, openSubscription, opens, Except.map] at stepped
  cases Option.some.inj stepped
  rw [aligned.lengths]
  refine ⟨?_, ?_, fun other => ?_⟩
  · exact List.getElem?_concat_length
  · have mail : b.mailbox? s.broker.mailboxes.length = some (.new deadline) := by
      rw [Broker.mailbox?, spec.mailboxes, List.getElem?_concat_length]
    rwa [aligned.lengths] at mail
  · have reached := known.reaches_opened spec other
    rwa [aligned.lengths] at reached

/-- What an event publishes to this topic. -/
def postedTo (name : String) (x : Session × Event) : List Message :=
  match x.1.posted x.2 with
  | some (other, batch) => if other = name then batch else []
  | none => []

/-- What a run publishes to this topic, in order. -/
def publishedTo (name : String) (s : Session) (ys : List Event) : List Message :=
  (trace step s ys).flatMap (postedTo name)

theorem delivered_of_reaches (attached : ∀ other, s.broker.reaches other h = decide (other = name))
    (e : Event) : s.delivered e h = postedTo name (s, e) := by
  cases posted : s.posted e with
  | none => simp [delivered, postedTo, posted]
  | some x => simp [delivered, postedTo, posted, attached]

/-- The copies of a subscription are in order, and are what was published to its topic. -/
structure Served (name : String) (h : Nat) (published : List Message) (s : Session) (m : Mailbox) :
    Prop where
  orderly : m.queue.Orderly
  arrived : m.queue.arrived = published
  attached : ∀ other, s.broker.reaches other h = decide (other = name)

theorem orderly_of_turn {moments : List (Subscription.Event MissingTopic)}
    (accounted : m.queue.Accounted) (orderly : m.queue.Orderly)
    (unexpired : m.queue.Unexpired s.now) (turn : Turn s e h c m moments qs d n) :
    n.queue.Orderly := by
  by_cases still : qs.filterMap Queue.Event.time? = []
  · exact orderly.run accounted turn.moved still
  · obtain ⟨now, time⟩ := List.exists_mem_of_ne_nil _ still
    obtain ⟨x, inside, takes⟩ := List.mem_filterMap.mp time
    obtain ⟨rfl, rfl⟩ := turn.timed x inside now takes
    obtain ⟨r, stepped, last⟩ := Option.bind_eq_some_iff.mp turn.moved
    cases Option.some.inj last
    obtain ⟨given, _, moved⟩ := Queue.moves_of_step stepped
    refine orderly.next accounted moved fun later same => ?_
    cases Option.some.inj (takes.symm.trans same)
    exact unexpired

theorem served_of_run (reached : run step empty xs = some s)
    (there : s.broker.hasTopic name = true)
    (opens : s.step (.openSubscription name deadline options) = some u)
    (ran : run step u ys = some t) (attached : ∀ e ∈ ys, severs name s.consumers.length e = false)
    (unexpired : ∀ x ∈ trace step u ys, ∀ m, x.1.broker.mailbox? s.consumers.length = some m →
      m.queue.Unexpired x.1.now) :
    ∃ c m es qs, t.consumers[s.consumers.length]? = some c ∧
      t.broker.mailbox? s.consumers.length = some m ∧
      Linked ys t s.consumers.length c m options deadline es qs ∧
      Served name s.consumers.length (publishedTo name u ys) t m := by
  have aligned : Aligned u :=
    aligned_next (aligned_of_run aligned_empty reached) opens
  obtain ⟨consumer, mailbox, reaches⟩ := opened reached there opens
  refine run_invariant (P := fun ys t => (∀ e ∈ ys, severs name s.consumers.length e = false) →
    (∀ x ∈ trace step u ys, ∀ m, x.1.broker.mailbox? s.consumers.length = some m →
      m.queue.Unexpired x.1.now) →
    ∃ c m es qs, t.consumers[s.consumers.length]? = some c ∧
      t.broker.mailbox? s.consumers.length = some m ∧
      Linked ys t s.consumers.length c m options deadline es qs ∧
      Served name s.consumers.length (publishedTo name u ys) t m) ?_ ?_ ran attached unexpired
  · intro _ _
    exact ⟨_, _, _, _, consumer, mailbox, linked_new [] s.fired _ options deadline,
      Queue.orderly_new deadline, rfl, reaches⟩
  · intro ys t e v ran ih stepped attached unexpired
    rw [trace_snoc ran stepped] at unexpired
    obtain ⟨c, m, es, qs, found, mail, linked, orderly, arrived, reaches⟩ := ih
      (fun e member => attached e (List.mem_append_left _ member))
      (fun x member => unexpired x (List.mem_append_left _ member))
    have calm := attached e (List.mem_append_right _ (List.mem_singleton_self _))
    have running := unexpired (t, e) (List.mem_append_right _ (List.mem_singleton_self _)) m mail
    have level := aligned_of_run aligned ran
    obtain ⟨moments, changes, d, n, same, mailed, turn⟩ := turn_of_step level found mail stepped
    have accounted := Queue.accounted_of_run linked.moved
    refine ⟨d, n, _, _, same, mailed, linked.next (now_le level stepped) turn,
      orderly_of_turn accounted orderly running turn, ?_, fun other => ?_⟩
    · rw [Queue.arrived_run turn.moved, arrived, turn.came, delivered_of_reaches reaches e, publishedTo,
        publishedTo, trace_snoc ran stepped, List.flatMap_append, List.flatMap_singleton]
    · have old := (List.getElem?_eq_some_iff.mp found).1
      rw [reaches_of_step level stepped old, reaches]
      by_cases here : other = name
      · rw [here, calm]
        simp
      · simp [here]

/-- Returned by receives, in that order, then queued, then in the hands of a fetch, then ready at the
broker. -/
def inLine (c : Consumer) (m : Mailbox) : List Message :=
  c.state.held.map (·.parcel.message) ++ c.state.queue.map (·.parcel.message) ++
    c.state.inHand.map (·.message) ++ m.queue.ready.map (·.message)

theorem inLine_eq (linked : Linked xs s h c m options deadline es qs)
    (orderly : m.queue.Orderly) : inLine c m = Queue.messagesAt m.queue.arrived
      ((List.range m.queue.arrived.length).filter (· ∉ m.queue.lost)) := by
  have passed := Subscription.passed_of_run linked.ran
  have parcels : c.state.held.map (·.parcel) ++ c.state.queue.map (·.parcel) = c.state.arrived := by
    have numbered := congrArg (List.map (·.parcel)) passed.numbered
    rwa [Subscription.deliveries_parcels, List.map_append, Subscription.State.handedOut,
      List.map_map] at numbered
  have came : (c.state.held.map (·.parcel) ++ c.state.queue.map (·.parcel) ++ c.state.inHand).map
      Parcel.message = (Queue.takes (.new deadline) qs).flatten.map (·.copy.message) := by
    rw [parcels, passed.sources, linked.handed, List.map_map]
    rfl
  rw [List.map_append, List.map_append, List.map_map, List.map_map] at came
  rw [← Queue.messages_in_order linked.moved orderly, ← came]
  rfl

/-- While its topic stays and no loan of its runs out, a subscription's messages are what was published
to the topic since it was attached, once each and in order: those that receives returned, then those
that wait on their way. Only copies lost where the deadline would lie beyond the end of the clock are
missing, and none is while all deadlines are on the clock. -/
theorem exactly_once_in_order (xs : List Event) (s : Session) (reached : run step empty xs = some s)
    (name : String) (deadline : Duration) (options : SubscriptionOptions) (u : Session)
    (there : s.broker.hasTopic name = true)
    (opens : s.step (.openSubscription name deadline options) = some u) (ys : List Event) (t : Session)
    (ran : run step u ys = some t) (stays : ∀ e ∈ ys, severs name s.consumers.length e = false)
    (unexpired : ∀ x ∈ trace step u ys, ∀ m, x.1.broker.mailbox? s.consumers.length = some m →
      ∀ l ∈ m.queue.inFlight, x.1.now < l.deadline) :
    ∃ c m, t.consumers[s.consumers.length]? = some c ∧
      t.broker.mailbox? s.consumers.length = some m ∧
      inLine c m = Queue.messagesAt (publishedTo name u ys)
        ((List.range (publishedTo name u ys).length).filter (· ∉ m.queue.lost)) ∧
      (t.now + deadline.nanos < clockEnd → inLine c m = publishedTo name u ys) ∧
      (c.state.inHand ≠ [] →
        ∃ id r x, c.state.receive? id = some x ∧ x.phase = .storing r c.state.inHand) ∧
      (c.state.results.map (·.2)).Perm c.state.handedOut := by
  obtain ⟨c, m, es, qs, found, mail, linked, orderly, arrived, _⟩ :=
    served_of_run reached there opens ran stays unexpired
  have line := inLine_eq linked orderly
  rw [arrived] at line
  refine ⟨c, m, found, mail, line, ?_,
    Subscription.storing_of_inHand (Subscription.owned_of_run linked.ran),
    (Subscription.passed_of_run linked.ran).once⟩
  intro on_clock
  have nothing : m.queue.lost = [] := by
    refine Queue.lost_nil (fun now member => ?_) linked.moved
    have earlier := linked.timed now member
    omega
  rw [line, nothing]
  simp only [List.not_mem_nil, not_false_eq_true, decide_true, List.filter_true]
  exact Queue.messagesAt_range _

/-- Two handles publish one message each. The first message is received, the second is queued, and then
a third is published. -/
def threePublished : List Event :=
  publishing 0 1 0 ++ publishing 1 1 1 ++ fetching 1 ++
    [.consumer 0 (.receiveStep 1), .consumer 0 (.receiveStep 1)] ++ fetching 2 ++
    [.pass 20, .publisher 0 .look] ++ publishing 0 2 2

theorem exactly_once_in_order_three_published :
    ∃ s u t c m, run step empty [.openTopic "a" default, .openTopic "a" default] = some s ∧
      s.step (.openSubscription "a" (.ofSecs 60) default) = some u ∧
      run step u threePublished = some t ∧ t.consumers[0]? = some c ∧ t.broker.mailbox? 0 = some m ∧
      c.state.held.length = 1 ∧ c.state.queue.length = 1 ∧ m.queue.ready.length = 1 ∧
      inLine c m = [Queue.note 0, Queue.note 1, Queue.note 2] := by
  have ran : (run step empty [.openTopic "a" default, .openTopic "a" default]).bind (fun s =>
      (s.step (.openSubscription "a" (.ofSecs 60) default)).bind fun u =>
        (run step u threePublished).bind fun t =>
          (t.consumers[0]?).bind fun c => (t.broker.mailbox? 0).map fun m =>
            ((s.broker.hasTopic "a", s.consumers.length, t.now),
              decide (∀ x ∈ trace step u threePublished, ∀ m ∈ x.1.broker.mailbox? 0,
                ∀ l ∈ m.queue.inFlight, x.1.now < l.deadline),
              (c.state.held.length, c.state.queue.length, m.queue.ready.length),
              publishedTo "a" u threePublished)) =
        some ((true, 0, 20), true, (1, 1, 1), [Queue.note 0, Queue.note 1, Queue.note 2]) := by
    decide +kernel
  simp only [Option.bind_eq_some_iff, Option.map_eq_some_iff, Prod.mk.injEq, decide_eq_true_eq] at ran
  obtain ⟨s, reached, u, opens, t, ran, c, found, m, mail, ⟨there, none_yet, now⟩, unexpired,
    ⟨held, queued, ready⟩, published⟩ := ran
  obtain ⟨d, n, same, mailed, _, all, _⟩ := exactly_once_in_order _ s reached "a" (.ofSecs 60) default u
    there opens threePublished t ran (by rw [none_yet]; decide) (by rw [none_yet]; exact unexpired)
  rw [none_yet] at same mailed
  cases Option.some.inj (found.symm.trans same)
  cases Option.some.inj (mail.symm.trans mailed)
  refine ⟨s, u, t, c, m, reached, opens, ran, found, mail, held, queued, ready, ?_⟩
  rw [all (by rw [now]; decide), published]

/-- Where the deadline lies beyond the end of the clock, a message that nobody received is missing. -/
theorem missing_beyond_clock :
    ¬ ∀ (xs : List Event) (s : Session), run step empty xs = some s →
      ∀ (name : String) (deadline : Duration) (options : SubscriptionOptions) (u : Session),
        s.broker.hasTopic name = true → s.step (.openSubscription name deadline options) = some u →
        ∀ (ys : List Event) (t : Session), run step u ys = some t →
          (∀ e ∈ ys, severs name s.consumers.length e = false) →
          (∀ x ∈ trace step u ys, ∀ m, x.1.broker.mailbox? s.consumers.length = some m →
            ∀ l ∈ m.queue.inFlight, x.1.now < l.deadline) →
          ∀ c m, t.consumers[s.consumers.length]? = some c →
            t.broker.mailbox? s.consumers.length = some m → inLine c m = publishedTo name u ys := by
  intro claim
  have ran : (run step empty [.openTopic "a" default]).bind (fun s =>
      (s.step (.openSubscription "a" beyondClock default)).bind fun u =>
        (run step u (publishing 0 1 0 ++ fetching 1)).bind fun t =>
          (t.consumers[0]?).bind fun c => (t.broker.mailbox? 0).map fun m =>
            ((s.broker.hasTopic "a", s.consumers.length),
              decide (∀ x ∈ trace step u (publishing 0 1 0 ++ fetching 1),
                ∀ m ∈ x.1.broker.mailbox? 0, ∀ l ∈ m.queue.inFlight, x.1.now < l.deadline),
              inLine c m, publishedTo "a" u (publishing 0 1 0 ++ fetching 1))) =
        some ((true, 0), true, [], [Queue.note 0]) := by
    decide +kernel
  simp only [Option.bind_eq_some_iff, Option.map_eq_some_iff, Prod.mk.injEq, decide_eq_true_eq] at ran
  obtain ⟨s, reached, u, opens, t, ran, c, found, m, mail, ⟨there, none_yet⟩, unexpired, line,
    published⟩ := ran
  have all := claim _ s reached "a" beyondClock default u there opens _ t ran
    (by rw [none_yet]; decide) (by rw [none_yet]; exact unexpired) c m (by rw [none_yet, found])
    (by rw [none_yet, mail])
  rw [line, published] at all
  cases all

end Courier.Session
