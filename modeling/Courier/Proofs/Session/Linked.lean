import Courier.Proofs.Session.Moves
import Courier.Proofs.Subscription.Acknowledged

/-! The runs inside a run of a session. Seen from one subscription, a session is a run of its handle
beside a run of its queue, tied together: the handle's fetches bring what the queue hands out, and the
queue is told of numbers that the application has acknowledged. -/

namespace Courier.Subscription

variable {ε : Type}

theorem tokens_kept {l : List Ack} {a : AckId} (more : List Ack) (member : a ∈ tokens l) :
    a ∈ tokens (l ++ more) := by
  induction more using List.reverseRecOn with
  | nil => rwa [List.append_nil]
  | append_singleton more b ih =>
    rw [← List.append_assoc]
    by_cases known : b.serial ∈ (l ++ more).map (·.serial)
    · rw [tokens_again known]
      exact ih
    · rw [tokens_new known]
      exact List.mem_append_left _ ih

/-- What a call carries has been acknowledged. -/
theorem token_of_calling {provider : Provider ε} {options : SubscriptionOptions}
    {es : List (Event ε)} {s : State ε}
    (reached : run State.step (.new provider false options) es = some s) {ids : List AckId}
    (calling : s.outbox.calling? = some ids) {a : AckId} (inside : a ∈ ids) :
    a ∈ tokens (acks provider false options es) := by
  have tally := tally_of_run reached
  obtain ⟨os, bs, known, _⟩ := reached_of_run reached
  rw [← tally.sent (replaced_kept known)]
  have ran := Outbox.batcher_run known.outbox
  unfold Outbox.State.calling? at calling
  split at calling
  · rename_i d delivery
    split at calling
    · cases Option.some.inj calling
      obtain ⟨x, held, rfl⟩ := List.mem_map.mp inside
      have running := (Outbox.delivery_batch known.outbox delivery).1
      have batch := List.mem_of_getElem? ((Batcher.calls_of_run ran).batch d.held running)
      have accepted : x ∈ s.outbox.batcher.accepted := by
        rw [← (Batcher.ordered_of_run ran).flow]
        exact List.mem_append_left _ (List.mem_flatten.mpr ⟨_, batch, held⟩)
      exact List.mem_map_of_mem accepted
    · contradiction
  · contradiction

theorem run_fires (s : State ε) (fired : List Token) :
    run State.step s (fired.reverse.map .fire) = some { s with fired := fired ++ s.fired } := by
  induction fired with
  | nil => rfl
  | cons token fired ih =>
    rw [List.reverse_cons, List.map_append, run_append, ih, Option.bind_some]
    rfl

end Courier.Subscription

namespace Courier.Session

variable {s t : Session} {e : Event} {h : Nat} {c d : Consumer} {m n : Mailbox} {xs ys : List Event}
  {options : SubscriptionOptions} {deadline : Duration}
  {es moments : List (Subscription.Event MissingTopic)} {qs changes : List Queue.Event}

/-- The runs of a handle and of its queue inside a run of the session. -/
structure Linked (xs : List Event) (s : Session) (h : Nat) (c : Consumer) (m : Mailbox)
    (options : SubscriptionOptions) (deadline : Duration)
    (es : List (Subscription.Event MissingTopic)) (qs : List Queue.Event) : Prop where
  ran : run Subscription.State.step (.new Broker.provider false options) es = some c.state
  moved : run Queue.step (.new deadline) qs = some m.queue
  handed : Subscription.brought es = (Queue.takes (.new deadline) qs).flatten.map Loan.parcel
  acked : ∀ k, .ack k ∈ qs →
    .number k ∈ Subscription.tokens (Subscription.acks Broker.provider false options es)
  timed : ∀ now ∈ qs.filterMap Queue.Event.time?, now ≤ s.now
  own : ∀ moment ∈ es, subscriptionOwn moment = true → .consumer h moment ∈ xs

theorem now_le (aligned : Aligned s) (stepped : s.step e = some t) : s.now ≤ t.now := by
  cases about : e.about? with
  | some g =>
    obtain ⟨_, _, _, _, _, _, _, _, rfl, _⟩ := turn_of_about aligned about stepped
    exact Nat.le_refl _
  | none =>
    cases e with
    | consumer | listen | acknowledge => cases about
    | pass nanos =>
      cases Option.some.inj stepped
      exact Nat.le_add_right _ _
    | publisher g moment =>
      simp only [step] at stepped
      split at stepped
      · exact Nat.le_of_eq (moved_publisher stepped).2.2.2.symm
      · contradiction
    | publish g =>
      simp only [step, publish, Option.bind_eq_bind, Option.bind_eq_some_iff] at stepped
      obtain ⟨p, _, batch, _, stepped⟩ := stepped
      split at stepped
      · exact Nat.le_of_eq (moved_publisher stepped).2.2.2.symm
      · split at stepped <;> exact Nat.le_of_eq (moved_publisher stepped).2.2.2.symm
    | openSubscription name deadline options =>
      simp only [step, openSubscription] at stepped
      cases opened : s.broker.openSubscription name deadline options with
      | error f =>
        simp only [opened, Except.map] at stepped
        cases Option.some.inj stepped
        exact Nat.le_refl _
      | ok link =>
        simp only [opened, Except.map] at stepped
        cases Option.some.inj stepped
        exact Nat.le_refl _
    | abandon g =>
      simp only [step, Option.bind_eq_bind, Option.bind_eq_some_iff] at stepped
      obtain ⟨_, _, result⟩ := stepped
      cases Option.some.inj result
      exact Nat.le_refl _
    | _ =>
      cases Option.some.inj stepped
      exact Nat.le_refl _

/-- A turn goes on with both runs. -/
theorem Linked.next (linked : Linked xs s h c m options deadline es qs) (later : s.now ≤ t.now)
    (turn : Turn s e h c m moments changes d n) :
    Linked (xs ++ [e]) t h d n options deadline (es ++ moments) (qs ++ changes) where
  ran := run_trans linked.ran turn.ran
  moved := run_trans linked.moved turn.moved
  handed := by
    rw [Queue.takes_append linked.moved, List.flatten_append, List.map_append, ← linked.handed,
      ← turn.handed, Subscription.brought, List.flatMap_append]
    rfl
  acked := by
    intro k member
    rw [Subscription.acks, trace_append moments linked.ran, List.filterMap_append]
    apply Subscription.tokens_kept
    rcases List.mem_append.mp member with old | new
    · exact linked.acked k old
    · obtain ⟨ids, calling, inside⟩ := turn.acked k new
      exact Subscription.token_of_calling linked.ran calling inside
  timed := by
    intro now member
    rw [List.filterMap_append] at member
    rcases List.mem_append.mp member with old | new
    · exact Nat.le_trans (linked.timed now old) later
    · obtain ⟨x, inside, time⟩ := List.mem_filterMap.mp new
      exact (turn.timed x inside now time).1 ▸ later
  own := by
    intro moment member own
    rcases List.mem_append.mp member with old | new
    · exact List.mem_append_left _ (linked.own moment old own)
    · rw [turn.own moment new own]
      exact List.mem_append_right _ (List.mem_singleton_self _)

theorem linked_new (xs : List Event) (fired : List Token) (h : Nat)
    (options : SubscriptionOptions) (deadline : Duration) :
    Linked xs t h ⟨h, { Subscription.State.new Broker.provider false options with fired := fired }⟩
      (.new deadline) options deadline (fired.reverse.map .fire) [] where
  ran := by
    rw [Subscription.run_fires]
    exact congrArg some (by simp [Subscription.State.new])
  moved := rfl
  handed := by simp [Subscription.brought, Subscription.Event.batch, Queue.takes, trace]
  acked := by simp
  timed := by simp
  own := by
    intro moment member own
    obtain ⟨token, _, rfl⟩ := List.mem_map.mp member
    cases own

/-- A handle has been there before, or has just been opened. -/
theorem handle_cases (aligned : Aligned s) (found : t.consumers[h]? = some d)
    (stepped : s.step e = some t) : (∃ c, s.consumers[h]? = some c) ∨
      ∃ name deadline options, e = .openSubscription name deadline options ∧
        h = s.consumers.length ∧ t.broker.mailbox? h = some (.new deadline) ∧
        d = ⟨h, { Subscription.State.new Broker.provider false options with fired := s.fired }⟩ := by
  cases there : s.consumers[h]? with
  | some c => exact .inl ⟨c, rfl⟩
  | none =>
    have beyond := List.getElem?_eq_none_iff.mp there
    have bound := (List.getElem?_eq_some_iff.mp found).1
    cases about : e.about? with
    | some g =>
      obtain ⟨_, _, _, _, _, _, _, _, rfl, _⟩ := turn_of_about aligned about stepped
      simp only [withSubscription, setConsumer, setMailbox, setBroker, List.length_set] at bound
      omega
    | none =>
      cases elsewhere_of_step stepped about with
      | aside consumers => rw [consumers] at bound; omega
      | publish _ consumers => rw [consumers] at bound; omega
      | fire _ consumers => rw [consumers, List.length_map] at bound; omega
      | @attach name deadline options opened added mailboxes =>
        rw [added, List.length_append, List.length_singleton] at bound
        have last : h = s.consumers.length := by omega
        subst last
        rw [added, List.getElem?_concat_length, aligned.lengths] at found
        refine .inr ⟨name, deadline, options, opened, rfl, ?_, (Option.some.inj found).symm⟩
        rw [Broker.mailbox?, mailboxes, ← aligned.lengths, List.getElem?_concat_length]

/-- Inside every run of a session, every subscription has had runs of its own. -/
theorem linked_of_run (reached : run step empty xs = some s) (found : s.consumers[h]? = some c) :
    ∃ m options deadline es qs, s.broker.mailbox? h = some m ∧
      Linked xs s h c m options deadline es qs := by
  refine run_invariant (P := fun xs s => ∀ c, s.consumers[h]? = some c →
    ∃ m options deadline es qs, s.broker.mailbox? h = some m ∧
      Linked xs s h c m options deadline es qs) (by simp [empty]) ?_ reached c found
  intro xs s e t ran ih stepped d found
  have aligned := aligned_of_run aligned_empty ran
  rcases handle_cases aligned found stepped with ⟨c, there⟩ | ⟨name, deadline, options, _, _, mail, rfl⟩
  · obtain ⟨m, options, deadline, es, qs, mail, linked⟩ := ih c there
    obtain ⟨moments, changes, b, n, same, mailed, turn⟩ := turn_of_step aligned there mail stepped
    cases Option.some.inj (found.symm.trans same)
    exact ⟨n, options, deadline, _, _, mailed, linked.next (now_le aligned stepped) turn⟩
  · exact ⟨_, options, deadline, _, _, mail, linked_new _ s.fired h options deadline⟩

end Courier.Session
