import Courier.Proofs.Queue.Redelivery
import Courier.Proofs.Session.Linked

/-! A message leaves the broker only by an acknowledgement of the application, or with a take that breaks
off because the deadline it would set lies beyond the end of the clock. -/

namespace Courier.Subscription

variable {ε : Type} {provider : Provider ε} {options : SubscriptionOptions} {replaced : Bool}
  {es : List (Event ε)} {s : State ε}

theorem firsts_subset (l : List Ack) : firsts l ⊆ l := by
  induction l using List.reverseRecOn with
  | nil => exact List.Subset.refl _
  | append_singleton l a ih =>
    rw [firsts_snoc]
    split
    · exact List.subset_append_of_subset_left _ ih
    · exact List.append_subset.mpr ⟨List.subset_append_of_subset_left _ ih, List.subset_append_right _ _⟩

theorem deliveries_member {ps : List Parcel} {x : Delivery} (member : x ∈ deliveries ps) :
    ps[x.serial]? = some x.parcel := by
  obtain ⟨⟨p, i⟩, there, rfl⟩ := List.mem_map.mp member
  exact List.mem_zipIdx_iff_getElem?.mp there

/-- A message that is handed out is the one that came in under its number. -/
theorem held_brought (reached : run State.step (.new provider replaced options) es = some s) {x : Held}
    (member : x ∈ s.held) : (brought es)[x.serial]? = some x.parcel := by
  have passed := passed_of_run reached
  have handed : (⟨x.serial, x.parcel⟩ : Delivery) ∈ s.handedOut := List.mem_map_of_mem member
  have numbered : (⟨x.serial, x.parcel⟩ : Delivery) ∈ deliveries s.arrived := by
    rw [← passed.numbered]
    exact List.mem_append_left _ handed
  have arrived : s.arrived[x.serial]? = some x.parcel := deliveries_member numbered
  have bound := (List.getElem?_eq_some_iff.mp arrived).1
  rw [← passed.sources, List.getElem?_append_left bound, arrived]

/-- A token that goes out is that of a message in the application's hands, which it acknowledged. -/
theorem token_acknowledged (reached : run State.step (.new provider replaced options) es = some s)
    {a : AckId} (out : a ∈ tokens (acks provider replaced options es)) :
    ∃ x ∈ s.held, x.parcel.ackId = some a ∧ ∃ elapsed returns, .ack x.serial elapsed returns ∈ es := by
  obtain ⟨b, in_time, token⟩ := List.mem_filterMap.mp out
  have called : b ∈ acks provider replaced options es :=
    firsts_subset _ (List.mem_filter.mp in_time).1
  obtain ⟨x, held, same⟩ := List.mem_map.mp ((tally_of_run reached).marks.known b called)
  obtain ⟨⟨u, e⟩, there, read⟩ := List.mem_filterMap.mp called
  obtain ⟨before, after, split, ran⟩ := trace_reached there
  cases e with
  | ack serial elapsed returns =>
    cases Option.some.inj read
    obtain ⟨y, found, ackId⟩ := Option.bind_eq_some_iff.mp token
    obtain ⟨inside, rfl⟩ := held_found found
    -- The message had the same content when it was acknowledged.
    have came := held_brought ran inside
    have bound := (List.getElem?_eq_some_iff.mp came).1
    have later : (brought es)[y.serial]? = some y.parcel := by
      rw [split, brought, List.flatMap_append, ← brought, List.getElem?_append_left bound, came]
    have content := held_brought reached held
    rw [same, later, Option.some.injEq] at content
    refine ⟨x, held, content ▸ ackId, elapsed, returns, ?_⟩
    rw [same, split]
    exact List.mem_append_right _ List.mem_cons_self
  | _ => cases read

end Courier.Subscription

namespace Courier.Session

variable {s t : Session} {e : Event} {h : Nat} {c : Consumer} {m n : Mailbox} {xs : List Event}
  {options : SubscriptionOptions} {deadline : Duration}
  {es : List (Subscription.Event MissingTopic)} {qs : List Queue.Event}

/-- A copy that was acknowledged was so as the message that one delivery of it had become. -/
theorem acknowledged_copy (linked : Linked xs s h c m options deadline es qs) {k : Nat}
    (acked : k ∈ m.queue.acked) : ∃ x ∈ c.state.held, ∃ n, x.parcel.ackId = some (.number n) ∧
      ⟨n, k⟩ ∈ m.queue.handouts ∧ (∀ j, ⟨n, j⟩ ∈ m.queue.handouts → j = k) ∧
      m.queue.arrived[k]? = some x.parcel.message ∧
      ∃ elapsed returns, .consumer h (.ack x.serial elapsed returns) ∈ xs := by
  have accounted := Queue.accounted_of_run linked.moved
  obtain ⟨number, passed_on, recorded⟩ : ∃ number, .ack number ∈ qs ∧
      ⟨number, k⟩ ∈ m.queue.handouts := by
    have start := Queue.accounted_new deadline
    exact (Queue.acked_under start linked.moved acked).resolve_left List.not_mem_nil
  obtain ⟨x, held, ackId, elapsed, returns, called⟩ :=
    Subscription.token_acknowledged linked.ran (linked.acked number passed_on)
  -- The message with this number is what the handle's fetch brought for some loan.
  have came := List.mem_of_getElem? (Subscription.held_brought linked.ran held)
  rw [linked.handed] at came
  obtain ⟨given, member, parcel⟩ := List.mem_map.mp came
  have under : given.ackId = number := by
    rw [← parcel] at ackId
    exact AckId.number.inj (Option.some.inj ackId)
  have handout : given.handout ∈ m.queue.handouts := by
    rw [Queue.handouts_of_run linked.moved]
    exact List.mem_map_of_mem member
  have same : given.copy.serial = k := by
    rw [Loan.handout, under] at handout
    exact accounted.handout_unique handout recorded
  refine ⟨x, held, number, ackId, recorded, ?_, ?_, elapsed, returns, ?_⟩
  · exact fun j other => accounted.handout_unique other recorded
  · rw [← same, Queue.given_content linked.moved given member, ← parcel]
    rfl
  · exact linked.own _ called rfl

/-- A step that removes a copy passes on an acknowledgement of the number it was given out under. -/
theorem removed_by_step (aligned : Aligned s) (found : s.consumers[h]? = some c)
    (mail : s.broker.mailbox? h = some m) (linked : Linked xs s h c m options deadline es qs)
    (stepped : s.step e = some t) (after : t.broker.mailbox? h = some n) {k : Nat}
    (acked : k ∈ n.queue.acked) : k ∈ m.queue.acked ∨ ∃ ids number,
      c.state.outbox.calling? = some ids ∧ .number number ∈ ids ∧ ⟨number, k⟩ ∈ n.queue.handouts ∧
      ∀ j, ⟨number, j⟩ ∈ n.queue.handouts → j = k := by
  obtain ⟨_, changes, _, b, _, mailed, turn⟩ := turn_of_step aligned found mail stepped
  cases Option.some.inj (after.symm.trans mailed)
  have accounted := Queue.accounted_of_run linked.moved
  rcases Queue.acked_under accounted turn.moved acked with before | ⟨number, passed_on, out⟩
  · exact .inl before
  · obtain ⟨ids, calling, inside⟩ := turn.acked number passed_on
    refine .inr ⟨ids, number, calling, inside, out, fun j other => ?_⟩
    exact (accounted.run turn.moved).handout_unique other out

/-- Every copy that came into a subscription's queue is ready, on loan, acknowledged or lost. An
acknowledged one was acknowledged by the application, as the message that came of a delivery of this
very copy, and the step that removed it passed on the number of such a delivery. Copies are lost only
where the deadline would lie beyond the end of the clock. -/
theorem at_least_once (xs : List Event) (s : Session) (reached : run step empty xs = some s) (h : Nat)
    (c : Consumer) (found : s.consumers[h]? = some c) :
    ∃ m, s.broker.mailbox? h = some m ∧
      (m.queue.ready.map (·.serial) ++ m.queue.inFlight.map (·.copy.serial) ++ m.queue.acked ++
        m.queue.lost).Perm (List.range m.queue.arrived.length) ∧
      (∀ k ∈ m.queue.acked, ∃ x ∈ c.state.held, ∃ n, x.parcel.ackId = some (.number n) ∧
        ⟨n, k⟩ ∈ m.queue.handouts ∧ (∀ j, ⟨n, j⟩ ∈ m.queue.handouts → j = k) ∧
        m.queue.arrived[k]? = some x.parcel.message ∧
        ∃ elapsed returns, .consumer h (.ack x.serial elapsed returns) ∈ xs) ∧
      (∀ e t n, s.step e = some t → t.broker.mailbox? h = some n → ∀ k ∈ n.queue.acked,
        k ∈ m.queue.acked ∨ ∃ ids number, c.state.outbox.calling? = some ids ∧ .number number ∈ ids ∧
          ⟨number, k⟩ ∈ n.queue.handouts ∧ ∀ j, ⟨number, j⟩ ∈ n.queue.handouts → j = k) ∧
      (m.queue.lost ≠ [] → clockEnd ≤ s.now + m.queue.ackDeadline.nanos) := by
  obtain ⟨m, options, deadline, es, qs, mail, linked⟩ := linked_of_run reached found
  refine ⟨m, mail, (Queue.accounted_of_run linked.moved).placed,
    fun k acked => acknowledged_copy linked acked, ?_, ?_⟩
  · intro e t n stepped after k acked
    exact removed_by_step (aligned_of_run aligned_empty reached) found mail linked stepped after acked
  · intro lost
    by_contra on_clock
    refine lost (Queue.lost_nil ?_ linked.moved)
    intro now member
    have earlier := linked.timed now member
    have kept := Queue.deadline_kept linked.moved
    rw [kept] at on_clock
    exact Nat.lt_of_le_of_lt (Nat.add_le_add_right earlier _) (Nat.not_le.mp on_clock)

/-- A topic handle publishes one message. -/
def publishing (handle id n : Nat) : List Event :=
  [.publisher handle (.send id none (Queue.note n)), .publisher handle (.sendStep id),
    .publisher handle (.sendStep id), .publisher handle (.sendStep id), .publisher handle .look,
    .publisher handle .call, .publish handle]

/-- A topic and a subscription are opened, and one message is published. -/
def published (deadline : Duration) : List Event :=
  [.openTopic "a" default, .openSubscription "a" deadline default] ++ publishing 0 1 0

/-- A receive fetches. -/
def fetching (id : Nat) : List Event :=
  [.consumer 0 (.receive id none), .consumer 0 (.receiveStep id), .consumer 0 (.receiveStep id),
    .listen 0 (.start 1), .listen 0 .look, .consumer 0 (.receiveStep id)]

/-- The message is acknowledged, and this is passed on. -/
def acknowledging (serial : Nat) : List Event :=
  [.consumer 0 (.ack serial (.ofSecs 1) true), .consumer 0 .ackLook, .consumer 0 .ackCall,
    .acknowledge 0, .consumer 0 .ackLook]

/-- The message runs out and is received again; it is acknowledged as it came first and as it came
then. -/
def receivedTwice : List Event :=
  published Queue.tenNanos ++ fetching 1 ++
    [.consumer 0 (.receiveStep 1), .consumer 0 (.receiveStep 1), .pass 20] ++ fetching 2 ++
    [.consumer 0 (.receiveStep 2), .consumer 0 (.receiveStep 2)] ++ acknowledging 0 ++ acknowledging 1

theorem at_least_once_received_twice :
    ∃ s c m, run step empty receivedTwice = some s ∧ s.consumers[0]? = some c ∧
      s.broker.mailbox? 0 = some m ∧ m.queue.inFlight = [] ∧
      m.queue.handouts = [⟨0, 0⟩, ⟨1, 0⟩] ∧ m.queue.acked = [0] ∧
      (m.queue.ready.map (·.serial) ++ m.queue.inFlight.map (·.copy.serial) ++ m.queue.acked ++
        m.queue.lost).Perm [0] ∧
      ∃ x ∈ c.state.held, ∃ n, x.parcel.ackId = some (.number n) ∧ ⟨n, 0⟩ ∈ m.queue.handouts ∧
        x.parcel.message = Queue.note 0 := by
  have ran : (run step empty receivedTwice).bind (fun s => (s.broker.mailbox? 0).map fun m =>
      (m.queue.inFlight, m.queue.handouts, m.queue.acked, m.queue.arrived)) =
        some ([], [⟨0, 0⟩, ⟨1, 0⟩], [0], [Queue.note 0]) := by
    decide +kernel
  obtain ⟨s, reached, seen⟩ := Option.bind_eq_some_iff.mp ran
  obtain ⟨m, mail, holds⟩ := Option.map_eq_some_iff.mp seen
  simp only [Prod.mk.injEq] at holds
  obtain ⟨inFlight, handouts, acked, arrived⟩ := holds
  have aligned := aligned_of_run aligned_empty reached
  have bound := (List.getElem?_eq_some_iff.mp mail).1
  rw [aligned.lengths] at bound
  have found := List.getElem?_eq_getElem bound
  obtain ⟨n, same, placed, acknowledged, _⟩ := at_least_once receivedTwice s reached 0 _ found
  cases Option.some.inj (mail.symm.trans same)
  obtain ⟨x, held, k, ackId, given, _, content, _⟩ := acknowledged 0 (by rw [acked]; decide)
  rw [arrived] at placed content
  exact ⟨s, _, m, reached, found, mail, inFlight, handouts, acked, placed, x, held, k, ackId, given,
    (Option.some.inj content).symm⟩

/-- A deadline that no clock reaches. -/
def beyondClock : Duration := ⟨clockEnd, by decide⟩

/-- A message can leave the broker though nobody has acknowledged anything. -/
theorem lost_unacknowledged :
    ¬ ∀ (xs : List Event) (s : Session), run step empty xs = some s →
      ∀ h m, s.broker.mailbox? h = some m → ∀ k < m.queue.arrived.length,
        k ∈ m.queue.ready.map (·.serial) ∨ k ∈ m.queue.inFlight.map (·.copy.serial) ∨
          ∃ serial elapsed returns, .consumer h (.ack serial elapsed returns) ∈ xs := by
  intro claim
  have ran : (run step empty (published beyondClock ++ fetching 1)).bind (fun s =>
      (s.broker.mailbox? 0).map fun m => (m.queue.ready, m.queue.inFlight, m.queue.arrived)) =
        some ([], [], [Queue.note 0]) := by
    decide +kernel
  obtain ⟨s, reached, seen⟩ := Option.bind_eq_some_iff.mp ran
  obtain ⟨m, mail, holds⟩ := Option.map_eq_some_iff.mp seen
  simp only [Prod.mk.injEq] at holds
  obtain ⟨ready, inFlight, arrived⟩ := holds
  rcases claim _ s reached 0 m mail 0 (by rw [arrived]; decide) with waits | lent | ⟨_, _, _, called⟩
  · simp [ready] at waits
  · simp [inFlight] at lent
  · simp [published, publishing, fetching] at called

end Courier.Session
