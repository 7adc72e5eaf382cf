import Courier.Proofs.Retry.Backoff
import Courier.Proofs.Subscription.Failures
import Courier.Proofs.Subscription.Permanent
import Courier.Proofs.Topic.Calls

/-! How an error of the provider reaches its callers. There are three ways, for messages that are sent,
for messages that are fetched and for acknowledgements, each with a retried call of its own. On each of
them the error of the last attempt is wrapped once, and what already is a fault stays as it is. -/

namespace Courier

variable {ε : Type}

/-- The fault is what callers see of the provider's error: the error itself if it is a fault, which
other wraps then leave alone, else a fault with the code for that very error and the error as cause. -/
structure Provider.Wraps (p : Provider ε) (trouble : Trouble ε) (f : Fault ε) : Prop where
  once : f = .wrap (p.code trouble) p.name trouble
  kept : ∀ g, trouble = .fault g → f = g
  caused : ∀ e, trouble = .native e →
    f = .provider (p.code trouble) p.name e ∧ f.code = p.code trouble ∧ f.cause? = some e
  again : ∀ ws : List (Code × String), ws.foldl (fun g w => .wrap w.1 w.2 (.fault g)) f = f

theorem Provider.wraps_fault (p : Provider ε) (trouble : Trouble ε) :
    p.Wraps trouble (p.fault trouble) := by
  refine ⟨rfl, ?_, ?_, ?_⟩
  · rintro g rfl
    rfl
  · rintro e rfl
    exact ⟨rfl, rfl, rfl⟩
  · intro ws
    induction ws with
    | nil => rfl
    | cons w ws ih => exact ih

/-- A batch ends as the last answer for it says. An error that it ends with wraps that answer, and an
error after which no retry follows is one that it ends with. -/
def Outbox.Surfaces {α : Type} (provider : Provider ε) (policy : Retry.Policy)
    (attempts : List (Outbox.Attempt α)) (replies : List (Outbox.Reply ε)) (n : Nat)
    (how : Ending ε) : Prop :=
  ∃ r, Outbox.LastReply attempts replies n r ∧
    Outbox.Means provider policy (Outbox.retries attempts n) r how ∧
    (∀ f, how = .returned (.error f) →
      ∃ trouble, r = .returned (.error trouble) ∧ provider.Wraps trouble f) ∧
    ∀ trouble, r = .returned (.error trouble) →
      Outbox.Final provider policy (Outbox.retries attempts n) false trouble →
        ∃ f, how = .returned (.error f) ∧ provider.Wraps trouble f

theorem Outbox.surfaces {α : Type} {provider : Provider ε} {policy : Retry.Policy}
    {attempts : List (Outbox.Attempt α)} {replies : List (Outbox.Reply ε)} {n : Nat}
    {how : Ending ε} {r : Outbox.Reply ε} (last : Outbox.LastReply attempts replies n r)
    (means : Outbox.Means provider policy (Outbox.retries attempts n) r how) :
    Outbox.Surfaces provider policy attempts replies n how := by
  refine ⟨r, last, means, ?_, ?_⟩
  · rintro f rfl
    obtain ⟨trouble, rfl, rfl⟩ := Outbox.error_of_means means
    exact ⟨trouble, rfl, provider.wraps_fault trouble⟩
  · rintro trouble rfl final
    exact ⟨_, Outbox.wrapped_of_final means final, provider.wraps_fault trouble⟩

/-- Under validated settings every pause has a length, so a batch whose last call returned an error ends
with that error, wrapped. -/
theorem Outbox.wrapped_of_valid {settings : Settings} {provider : Provider ε}
    (accepted : settings.validate = (.ok () : Except (Fault ε) Unit)) {retries : Nat}
    {trouble : Trouble ε} {how : Ending ε} (means : Outbox.Means provider settings.retry.policy retries
      (.returned (.error trouble)) how) : how = .returned (.error (provider.fault trouble)) := by
  rcases means with wrapped | ⟨_, _, stuck⟩
  · exact wrapped
  · exact absurd stuck (Retry.never_stuck accepted retries)

theorem Topic.surfaced_of_settled {provider : Provider ε} {options : TopicOptions}
    {es : List (Topic.Event ε)} {s : Topic.State ε}
    (ran : run Topic.State.step (.new provider options) es = some s) {n : Nat}
    {b : List (Entry Message)} (taken : s.outbox.batcher.taken[n]? = some b)
    (settled : n ∉ s.outbox.batcher.running.map (·.number)) :
    ∃ how, Outbox.Surfaces provider options.retry s.outbox.attempts (Topic.replies es) n how ∧
      ∀ x ∈ b, s.outbox.batcher.answers x.ticket = [Batcher.outcomeOf how] := by
  obtain ⟨os, bs, reached⟩ := Topic.reached_of_run ran
  obtain ⟨how, ended, told⟩ := Outbox.ending_of_settled reached.outbox taken settled
  obtain ⟨r, last, means⟩ :=
    Outbox.ended_as_answered reached.outbox (ended ▸ List.mem_singleton_self how)
  rw [Topic.replies_eq reached] at last
  exact ⟨how, Outbox.surfaces last means, told⟩

/-- Where the call for a batch fails and no retry follows, its waiters are told at once. -/
theorem Topic.told_of_final {provider : Provider ε} {options : TopicOptions}
    {es : List (Topic.Event ε)} {s : Topic.State ε}
    (ran : run Topic.State.step (.new provider options) es = some s) {d : Outbox.Delivery Message ε}
    (delivery : s.outbox.delivery = some d) (attempting : d.call.phase = .attempting)
    {trouble : Trouble ε}
    (final : Outbox.Final provider options.retry (Outbox.retries s.outbox.attempts d.number)
      s.outbox.stopped trouble) (jitter : Binary64) :
    ∃ u, s.step (.returned (.error trouble) jitter) = some u ∧ ∀ x ∈ d.batch,
      u.outbox.batcher.answers x.ticket = [.error (provider.fault trouble)] := by
  obtain ⟨os, bs, reached⟩ := Topic.reached_of_run ran
  obtain ⟨o, moved, told⟩ :=
    Outbox.told_of_final reached.outbox delivery attempting final jitter
  exact ⟨{ s with outbox := o }, by simp [Topic.State.step, Topic.State.passOn, moved], told⟩

namespace Subscription

variable {provider : Provider ε} {replaced : Bool} {options : SubscriptionOptions}
  {es : List (Event ε)} {s : State ε}

theorem surfaced_of_ending (ran : run State.step (.new provider replaced options) es = some s)
    {n : Nat} {how : Ending ε} (ended : (endings provider replaced options es)[n]? = some how) :
    Outbox.Surfaces provider options.retry s.outbox.attempts (replies es) n how := by
  obtain ⟨os, bs, reached, same⟩ := reached_of_run ran
  obtain ⟨r, last, means⟩ := Outbox.ending_answered reached.outbox (same ▸ ended)
  rw [replies_eq reached] at last
  exact Outbox.surfaces last means

/-- What the owner of a round returns, or is about to return, wraps the last error of its calls. -/
theorem surfaced_of_failure (ran : run State.step (.new provider replaced options) es = some s)
    {x : Failure ε} (member : x ∈ told provider replaced options es ++ s.untold) :
    ∃ trouble, FailedWith (returns provider replaced options es) s x.round trouble ∧
      provider.Wraps trouble x.fault := by
  have failed := (failures_told ran).mem_iff.mpr member
  obtain ⟨a, answered, fails⟩ := List.mem_filterMap.mp failed
  cases result : a.result with
  | ok batch => simp [Answer.failure?, result] at fails
  | error f =>
    simp only [Answer.failure?, result, Option.some.injEq] at fails
    subst fails
    obtain ⟨trouble, last, rfl⟩ := failed_as_returned ran answered result
    exact ⟨trouble, last, provider.wraps_fault trouble⟩

end Subscription

/-- A batch that is over has told all its waiters one outcome, a fetch that failed has told its owner,
and the first batch of acknowledgements that failed has left its error as the fault of the
subscription. Each error is the wrapped error of the last attempt. An attempt that fails with an error
after which no retry follows is the last one, and its batch or its round ends with that error, wrapped. -/
theorem wrapped_once (provider : Provider ε) (sending : TopicOptions) (es : List (Topic.Event ε))
    (s : Topic.State ε) (sent : run Topic.State.step (.new provider sending) es = some s)
    (replaced : Bool) (receiving : SubscriptionOptions) (fs : List (Subscription.Event ε))
    (t : Subscription.State ε)
    (received : run Subscription.State.step (.new provider replaced receiving) fs = some t) :
    (∀ n b, s.outbox.batcher.taken[n]? = some b → n ∉ s.outbox.batcher.running.map (·.number) →
      ∃ how, Outbox.Surfaces provider sending.retry s.outbox.attempts (Topic.replies es) n how ∧
        ∀ x ∈ b, s.outbox.batcher.answers x.ticket = [Batcher.outcomeOf how]) ∧
    (∀ d, s.outbox.delivery = some d → d.call.phase = .attempting → ∀ trouble,
      Outbox.Final provider sending.retry (Outbox.retries s.outbox.attempts d.number)
        s.outbox.stopped trouble → ∀ jitter, ∃ u f,
          s.step (.returned (.error trouble) jitter) = some u ∧ provider.Wraps trouble f ∧
            ∀ x ∈ d.batch, u.outbox.batcher.answers x.ticket = [.error f]) ∧
    (((Subscription.answers provider replaced receiving fs).filterMap
        Subscription.Answer.failure?).Perm
          (Subscription.told provider replaced receiving fs ++ t.untold) ∧
      ∀ x ∈ Subscription.told provider replaced receiving fs ++ t.untold, ∃ trouble,
        Subscription.FailedWith (Subscription.returns provider replaced receiving fs) t x.round
          trouble ∧ provider.Wraps trouble x.fault) ∧
    (∀ id c r size call, t.receive? id = some c → c.phase = .fetching r size call →
      call.phase = .attempting → ∀ trouble,
        Outbox.Final provider receiving.retry (t.calls r - 1) (fires t.fired c.token) trouble →
          ∀ jitter, ∃ f, provider.Wraps trouble f ∧
            t.step (.fetched id (.error trouble) jitter) = some (t.setReceive id (.failing r f))) ∧
    (∀ n how, (Subscription.endings provider replaced receiving fs)[n]? = some how →
      Outbox.Surfaces provider receiving.retry t.outbox.attempts (Subscription.replies fs) n how) ∧
    (∀ d, t.outbox.delivery = some d → d.call.phase = .attempting → ∀ trouble,
      Outbox.Final provider receiving.retry (Outbox.retries t.outbox.attempts d.number)
        t.outbox.stopped trouble → ∀ jitter, ∃ u f,
          t.step (.ackReturned (.error trouble) jitter) = some u ∧ provider.Wraps trouble f ∧
            u.fault = some (t.fault.getD f)) ∧
    ((trace Subscription.State.step (.new provider replaced receiving) fs).any Subscription.closes =
      false → t.fault =
        ((Subscription.endings provider replaced receiving fs).filterMap
          Subscription.failure?).head?) := by
  refine ⟨?_, ?_, ⟨Subscription.failures_told received, ?_⟩, ?_, ?_, ?_, ?_⟩
  · intro n b taken settled
    exact Topic.surfaced_of_settled sent taken settled
  · intro d delivery attempting trouble final jitter
    obtain ⟨u, moved, told⟩ := Topic.told_of_final sent delivery attempting final jitter
    exact ⟨u, _, moved, provider.wraps_fault trouble, told⟩
  · intro x member
    exact Subscription.surfaced_of_failure received member
  · intro id c r size call found fetches attempting trouble final jitter
    exact ⟨_, provider.wraps_fault trouble,
      Subscription.failing_of_final received found fetches attempting final jitter⟩
  · intro n how ended
    exact Subscription.surfaced_of_ending received ended
  · intro d delivery attempting trouble final jitter
    obtain ⟨u, moved, fault⟩ :=
      Subscription.fault_of_final received delivery attempting final jitter
    exact ⟨u, _, moved, provider.wraps_fault trouble, fault⟩
  · intro open_still
    rw [Subscription.fault_of_run received, open_still]
    rfl

/-- A provider that retries only what is busy, and has a code of its own for what is gone. -/
def picky : Provider String :=
  ⟨"picky", fun
    | .native "busy" => true
    | _ => false, fun
    | .native "gone" => .notFound
    | _ => .unknown⟩

/-- Two messages share a batch that fails at the second attempt. -/
def sentInVain : List (Topic.Event String) :=
  [.send 1 none (Topic.note "a"), .sendStep 1, .sendStep 1, .sendStep 1,
    .send 2 none (Topic.note "b"), .sendStep 2, .sendStep 2, .sendStep 2, .look, .call,
    .returned (.error (.native "busy")) 0, .resumed, .returned (.error (.native "gone")) 0]

/-- A fetch fails at the second attempt with an error that has been wrapped before, and then the only
acknowledgement is refused because something was canceled. -/
def fetchedInVain : List (Subscription.Event String) :=
  [.receive 1 none, .receiveStep 1, .receiveStep 1, .fetched 1 (.error (.native "busy")) 0,
    .fetchResumed 1, .fetched 1 (.error (.fault (.provider .internal "inner" "lost"))) 0,
    .receiveStep 1, .receive 2 none, .receiveStep 2, .receiveStep 2,
    .fetched 2 (.ok [Subscription.parcel 0]) 0, .receiveStep 2, .receiveStep 2, .receiveStep 2,
    .ack 0 (.ofSecs 1) true, .ackLook, .ackCall, .ackReturned (.error (.fault .canceled)) 0]

theorem wrapped_once_in_vain :
    ∃ (s : Topic.State String) (t : Subscription.State String),
      run Topic.State.step (.new picky default) sentInVain = some s ∧
      run Subscription.State.step (.new picky false default) fetchedInVain = some t ∧
      s.outbox.batcher.answers 0 = [.error (.provider .notFound "picky" "gone")] ∧
      s.outbox.batcher.answers 1 = [.error (.provider .notFound "picky" "gone")] ∧
      (∃ how, Outbox.Surfaces picky (default : TopicOptions).retry s.outbox.attempts
        (Topic.replies sentInVain) 0 how ∧
          Batcher.outcomeOf how = .error (.provider .notFound "picky" "gone")) ∧
      (∃ trouble, Subscription.FailedWith (Subscription.returns picky false default fetchedInVain) t 0
        trouble ∧ picky.Wraps trouble (.provider .internal "inner" "lost")) ∧
      t.fault = some .canceled ∧
      Outbox.Surfaces picky (default : SubscriptionOptions).retry t.outbox.attempts
        (Subscription.replies fetchedInVain) 0 (.returned (.error .canceled)) := by
  have ran : (run Topic.State.step (.new picky default) sentInVain).map (fun s =>
      (s.outbox.batcher.taken.map (·.map (·.ticket)), s.outbox.batcher.running.map (·.number))) =
        some ([[0, 1]], []) := by
    decide +kernel
  have heard : (run Topic.State.step (.new picky default) sentInVain).map (fun s =>
      (s.outbox.batcher.answers 0, s.outbox.batcher.answers 1)) =
        some ([.error (.provider .notFound "picky" "gone")],
          [.error (.provider .notFound "picky" "gone")]) := by
    decide +kernel
  have received : (run Subscription.State.step (.new picky false default) fetchedInVain).isSome := by
    decide +kernel
  have told : (Subscription.told picky false default fetchedInVain).map (fun x =>
      (x.round, x.fault)) = [(0, .provider .internal "inner" "lost")] := by
    decide +kernel
  have ended : (Subscription.endings picky false default fetchedInVain)[0]?.bind
      Subscription.failure? = some .canceled := by
    decide +kernel
  have first_failed : ((Subscription.endings picky false default fetchedInVain).filterMap
      Subscription.failure?).head? = some .canceled := by
    decide +kernel
  have closes : (trace Subscription.State.step (.new picky false default) fetchedInVain).any
      Subscription.closes = false := by
    decide +kernel
  obtain ⟨s, sent, facts⟩ := Option.map_eq_some_iff.mp ran
  obtain ⟨tickets, idle⟩ := Prod.mk.inj facts
  obtain ⟨b, rest, taken, tickets, _⟩ := List.map_eq_cons_iff.mp tickets
  rw [sent, Option.map_some, Option.some.injEq, Prod.mk.injEq] at heard
  obtain ⟨t, received⟩ := Option.isSome_iff_exists.mp received
  have h := wrapped_once picky default sentInVain s sent false default fetchedInVain t received
  obtain ⟨batches, _, ⟨_, owners⟩, _, acks, _, fault⟩ := h
  obtain ⟨how, surfaces, outcome⟩ := batches 0 b (by rw [taken]; rfl) (by simp [idle])
  obtain ⟨x, inside, ticket⟩ :=
    List.mem_map.mp (tickets ▸ List.mem_cons_self : 0 ∈ b.map (·.ticket))
  have same := (ticket ▸ outcome x inside).symm.trans heard.1
  have failure : (0, .provider .internal "inner" "lost") ∈
      (Subscription.told picky false default fetchedInVain).map (fun x => (x.round, x.fault)) :=
    told ▸ List.mem_singleton_self _
  obtain ⟨y, member, facts⟩ := List.mem_map.mp failure
  have owner := owners y (List.mem_append_left _ member)
  rw [Prod.mk.injEq] at facts
  rw [facts.1, facts.2] at owner
  obtain ⟨ending, there, failed⟩ := Option.bind_eq_some_iff.mp ended
  cases Subscription.failure_iff.mp failed
  exact ⟨s, t, sent, received, heard.1, heard.2, ⟨how, surfaces, List.singleton_inj.mp same⟩, owner,
    (fault closes).trans first_failed, acks 0 _ there⟩

end Courier
