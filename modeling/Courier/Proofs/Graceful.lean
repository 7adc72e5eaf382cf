import Courier.Proofs.Outbox.Spent
import Courier.Proofs.Subscription.Flushing
import Courier.Proofs.Topic.Calls

/-! Graceful shutdowns. One that succeeds has seen everything that was accepted go out and be answered,
and nothing goes out after it. As long as nobody cuts a shutdown short and the handle is kept, the
handle's own token fires only when all of this has been done. Topics and subscriptions are handles of
the same kind, so the argument is made once. -/

namespace Courier.Closing

variable {α ε σ ι : Type}

/-- What an event means to closing a handle. -/
inductive Signal
  | enter (id : Nat) (token : Option Token)
  | fire (token : Token)
  | discard
  | other

/-- The part of a handle that closing it is about. -/
structure Front (α ε : Type) where
  fired : List Token
  calls : List (Nat × Call ε)
  outbox : Outbox.State α ε

/-- What a step does to that part. -/
inductive Steps (f : Front α ε) : Signal → List (Outbox.Event α ε) → Front α ε → Prop
  | enter (id : Nat) (token : Option Token) :
      Steps f (.enter id token) [] { f with calls := f.calls ++ [(id, ⟨token, .begun⟩)] }
  | close {id : Nat} {c : Call ε} {os : List (Outbox.Event α ε)} {o : Outbox.State α ε}
      {phase : Phase ε} (found : (f.calls.find? (·.1 = id)).map (·.2) = some c)
      (moved : Moves f.outbox f.fired id c os o phase) :
      Steps f .other os
        { f with
          calls := f.calls.map fun x => if x.1 = id then (id, { x.2 with phase := phase }) else x
          outbox := o }
  | forget {id : Nat} {o : Outbox.State α ε} (moved : f.outbox.step (.drain id .leave) = some o) :
      Steps f .other [.drain id .leave]
        { f with calls := f.calls.filter (·.1 ≠ id), outbox := o }
  | fire (token : Token) : Steps f (.fire token) [] { f with fired := token :: f.fired }
  | discard : Steps f .discard [.stop] { f with outbox := { f.outbox with stopped := true } }
  | aside {os : List (Outbox.Event α ε)} {o : Outbox.State α ε} (going : .stop ∉ os)
      (ran : run Outbox.State.step f.outbox os = some o) : Steps f .other os { f with outbox := o }

variable {f g : Front α ε} {signal : Signal} {os : List (Outbox.Event α ε)} {signals : List Signal}

theorem Steps.outbox (moved : Steps f signal os g) :
    run Outbox.State.step f.outbox os = some g.outbox := by
  cases moved with
  | close _ moved => exact run_of_moves moved
  | forget moved => simp [run, moved]
  | aside _ ran => exact ran
  | _ => rfl

/-- Where no call is cut short and the handle is kept, its own token fires only after the drain. -/
theorem Steps.spent_of_stop {limits : Limits} {provider : Provider ε} {policy : Retry.Policy}
    {before : List (Outbox.Event α ε)} {bs : List (Batcher.Event α ε)} {closed : Fault ε}
    {fault : Option (Fault ε)} (moved : Steps f signal os g)
    (reached : Outbox.Reached limits provider policy before bs f.outbox)
    (settled : Settled closed fault f.fired f.calls f.outbox.batcher)
    (unfired : ∀ x ∈ f.calls, fires f.fired x.2.token = false) (kept : signal ≠ .discard)
    (stops : .stop ∈ os) : Outbox.Spent f.outbox := by
  -- Only a closing call about to return fires the token, apart from dropping the handle.
  cases moved with
  | close found moments =>
    have member := call_member found
    exact Outbox.spent_of_drained reached (settled.stops member moments (unfired _ member) stops)
  | discard => exact absurd rfl kept
  | aside going => exact absurd stops going
  | _ => simp at stops

/-- Calls have the tokens they came with, and a token has fired because it was made to. -/
structure Origins (signals : List Signal) (f : Front α ε) : Prop where
  calls : ∀ x ∈ f.calls, .enter x.1 x.2.token ∈ signals
  fired : ∀ k ∈ f.fired, .fire k ∈ signals

theorem Origins.next (origins : Origins signals f) (moved : Steps f signal os g) :
    Origins (signals ++ [signal]) g := by
  have calls : ∀ x ∈ f.calls, .enter x.1 x.2.token ∈ signals ++ [signal] :=
    fun x member => List.mem_append_left _ (origins.calls x member)
  have fired : ∀ k ∈ f.fired, .fire k ∈ signals ++ [signal] :=
    fun k member => List.mem_append_left _ (origins.fired k member)
  cases moved with
  | enter id token =>
    refine ⟨fun x member => ?_, fired⟩
    rcases List.mem_append.mp member with old | new
    · exact calls x old
    · cases List.mem_singleton.mp new
      exact List.mem_append_right _ List.mem_cons_self
  | close =>
    refine ⟨fun x member => ?_, fired⟩
    obtain ⟨y, old, same⟩ := List.mem_map.mp member
    have came := calls y old
    split at same
    · rename_i name
      exact same ▸ name ▸ came
    · exact same ▸ came
  | forget => exact ⟨fun x member => calls x (List.mem_filter.mp member).1, fired⟩
  | fire token =>
    refine ⟨calls, fun k member => ?_⟩
    rcases List.mem_cons.mp member with rfl | old
    · exact List.mem_append_right _ List.mem_cons_self
    · exact fired k old
  | _ => exact ⟨calls, fired⟩

/-- A machine with calls that close it and an outbox that they drain. -/
structure Handle (α ε σ ι : Type) where
  limits : Limits
  provider : Provider ε
  policy : Retry.Policy
  closed : Fault ε
  step : σ → ι → Option σ
  start : σ
  front : σ → Front α ε
  fault : σ → Option (Fault ε)
  enter : Nat → Option Token → ι
  fire : Token → ι
  discard : ι
  signal : ι → Signal
  replies : List ι → List (Outbox.Reply ε)
  fresh : front start = ⟨[], [], .new limits provider policy⟩
  enters : ∀ e id token, signal e = .enter id token → e = enter id token
  fires : ∀ e k, signal e = .fire k → e = fire k
  discards : ∀ e, signal e = .discard → e = discard
  steps : ∀ s e t, step s e = some t → ∃ os, Steps (front s) (signal e) os (front t)
  reached : ∀ es s, run step start es = some s → ∃ os bs,
    Outbox.Reached limits provider policy os bs (front s).outbox ∧ Outbox.replies os = replies es
  settled : ∀ es s, run step start es = some s →
    Settled closed (fault s) (front s).fired (front s).calls (front s).outbox.batcher

namespace Handle

variable {h : Handle α ε σ ι} {s t : σ} {es fs : List ι}

theorem outbox_of_run (ran : run h.step s fs = some t) :
    ∃ os, run Outbox.State.step (h.front s).outbox os = some (h.front t).outbox := by
  induction fs generalizing s with
  | nil =>
    cases Option.some.inj ran
    exact ⟨[], rfl⟩
  | cons e fs ih =>
    obtain ⟨u, stepped, rest⟩ := Option.bind_eq_some_iff.mp ran
    obtain ⟨first, moved⟩ := h.steps s e u stepped
    obtain ⟨more, later⟩ := ih rest
    exact ⟨first ++ more, run_trans moved.outbox later⟩

theorem origins_of_run (reached : run h.step h.start es = some s) :
    Origins (es.map h.signal) (h.front s) := by
  have start : Origins [] (h.front h.start) := by
    rw [h.fresh]
    exact ⟨by simp, by simp⟩
  refine run_invariant (P := fun es s => Origins (es.map h.signal) (h.front s)) start ?_ reached
  intro es s e t _ origins moved
  obtain ⟨os, moves⟩ := h.steps s e t moved
  rw [List.map_append]
  exact origins.next moves

/-- A call that succeeded has seen all that was accepted go out, and nothing follows. -/
theorem drained_of_done (reached : run h.step h.start es = some s) {x : Nat × Call ε}
    (member : x ∈ (h.front s).calls) (done : x.2.phase = .done (.ok ())) :
    (∀ y ∈ (h.front s).outbox.batcher.accepted,
      Outbox.Delivered h.provider h.policy (h.front s).outbox (h.replies es) y) ∧
    Outbox.Spent (h.front s).outbox ∧
    ∀ fs t, run h.step s fs = some t → Outbox.Spent (h.front t).outbox ∧
      (h.front t).outbox.attempts = (h.front s).outbox.attempts ∧
      (h.front t).outbox.batcher.accepted = (h.front s).outbox.batcher.accepted := by
  have drained := (h.settled es s reached).done x member done
  obtain ⟨os, bs, inner, replies⟩ := h.reached es s reached
  have spent := Outbox.spent_of_drained inner drained
  rw [← replies]
  refine ⟨fun y accepted => Outbox.delivered_of_drained inner drained accepted, spent, ?_⟩
  intro fs t ran
  obtain ⟨later, ran⟩ := outbox_of_run ran
  exact spent.run inner ran

/-- With nobody to cut a shutdown short, the handle's token waits for the drain. -/
theorem unhurried_of_run (reached : run h.step h.start es = some s)
    (patient : ∀ id k, h.enter id (some k) ∈ es → h.fire k ∉ es) (kept : h.discard ∉ es) :
    Outbox.Unhurried (h.front s).outbox := by
  have start : Outbox.Unhurried (h.front h.start).outbox := by
    rw [h.fresh]
    exact ⟨by simp [Outbox.State.new], by simp [Outbox.State.new]⟩
  refine run_invariant (P := fun es s => (∀ id k, h.enter id (some k) ∈ es → h.fire k ∉ es) →
    h.discard ∉ es → Outbox.Unhurried (h.front s).outbox) (fun _ _ => start) ?_ reached patient kept
  intro es s e t ran ih moved patient kept
  simp only [List.mem_append, not_or] at patient kept
  have origins := origins_of_run ran
  obtain ⟨os, bs, inner, _⟩ := h.reached es s ran
  obtain ⟨more, moves⟩ := h.steps s e t moved
  have waits := ih (fun id k came => (patient id k (.inl came)).1) kept.1
  refine waits.run inner moves.outbox (moves.spent_of_stop inner (h.settled es s ran) ?_ ?_)
  · intro x member
    -- A token that cuts this call short would have come with it, and been made to fire.
    refine unfired_of_absent fun k token fired => ?_
    obtain ⟨e, entered, same⟩ := List.mem_map.mp (origins.calls x member)
    obtain ⟨f, cut, fires⟩ := List.mem_map.mp (origins.fired k fired)
    rw [token] at same
    exact (patient x.1 k (.inl (h.enters e _ _ same ▸ entered))).1 (h.fires f k fires ▸ cut)
  · intro discarded
    exact kept.2 (h.discards e discarded ▸ List.mem_cons_self)

end Handle

end Courier.Closing

namespace Courier.Topic

variable {ε : Type}

def State.front (s : State ε) : Closing.Front Message ε := ⟨s.fired, s.shutdowns, s.outbox⟩

def Event.signal : Event ε → Closing.Signal
  | .shutdown id token => .enter id token
  | .fire token => .fire token
  | .discard => .discard
  | _ => .other

theorem steps_of_moves {s t : State ε} {e : Event ε} {os : List (Outbox.Event Message ε)}
    (moved : Moves s e os t) : Closing.Steps s.front e.signal os t.front := by
  have ran := outbox_of_moves moved
  cases moved with
  | turn _ own => rcases own with rfl | rfl <;> exact .aside (by simp) ran
  | enter id token => exact .enter id token
  | close found own moved => rcases own with rfl | ⟨rfl, _⟩ <;> exact .close found moved
  | forget moved => exact .forget moved
  | fire token => exact .fire token
  | discard => exact .discard
  | outer passed => cases e <;> cases passed <;> exact .aside (by simp) ran
  | _ => exact .aside (by simp) ran

def handle (provider : Provider ε) (options : TopicOptions) :
    Closing.Handle Message ε (State ε) (Event ε) where
  limits := options.batching
  provider := provider
  policy := options.retry
  closed := closedFault
  step := State.step
  start := .new provider options
  front := State.front
  fault := State.fault
  enter := .shutdown
  fire := .fire
  discard := .discard
  signal := Event.signal
  replies := replies
  fresh := rfl
  enters e id token same := by cases e <;> cases same; rfl
  fires e k same := by cases e <;> cases same; rfl
  discards e same := by cases e <;> cases same; rfl
  steps s e t moved := by
    obtain ⟨os, moves⟩ := moves_of_step moved
    exact ⟨os, steps_of_moves moves⟩
  reached es s ran := by
    obtain ⟨os, bs, reached⟩ := reached_of_run ran
    exact ⟨os, bs, reached.outbox, replies_eq reached⟩
  settled es s ran := by
    obtain ⟨os, bs, reached⟩ := reached_of_run ran
    exact settled_of_reached reached

end Courier.Topic

namespace Courier.Subscription

variable {ε : Type}

def State.front (s : State ε) : Closing.Front AckId ε := ⟨s.fired, s.shutdowns, s.outbox⟩

def Event.signal : Event ε → Closing.Signal
  | .shutdown id token => .enter id token
  | .fire token => .fire token
  | .discard => .discard
  | _ => .other

theorem front_eq {s t : State ε} (same : Apart s t) : t.front = s.front := by
  rw [State.front, State.front, same.fired, same.shutdowns, same.outbox]

theorem steps_of_moves {s t : State ε} {e : Event ε} {os : List (Outbox.Event AckId ε)}
    (moved : AckMoves s e os t) : Closing.Steps s.front e.signal os t.front := by
  have ran := outbox_of_moves moved
  cases moved with
  | apart own same =>
    have silent : e.signal = .other := by cases e <;> first | rfl | cases own
    rw [front_eq same, silent]
    exact .aside (by simp) rfl
  | enter id token => exact .enter id token
  | close found own moved => rcases own with rfl | ⟨rfl, _⟩ <;> exact .close found moved
  | forget moved => exact .forget moved
  | fire token => exact .fire token
  | discard => exact .discard
  | outer passed => cases e <;> cases passed <;> exact .aside (by simp) ran
  | _ => exact .aside (by simp) ran

def handle (provider : Provider ε) (replaced : Bool) (options : SubscriptionOptions) :
    Closing.Handle AckId ε (State ε) (Event ε) where
  limits := options.ackBatching
  provider := provider
  policy := options.retry
  closed := closedFault
  step := State.step
  start := .new provider replaced options
  front := State.front
  fault := State.fault
  enter := .shutdown
  fire := .fire
  discard := .discard
  signal := Event.signal
  replies := replies
  fresh := rfl
  enters e id token same := by cases e <;> cases same; rfl
  fires e k same := by cases e <;> cases same; rfl
  discards e same := by cases e <;> cases same; rfl
  steps s e t moved := by
    obtain ⟨os, moves⟩ := ackMoves_of_step moved
    exact ⟨os, steps_of_moves moves⟩
  reached es s ran := by
    obtain ⟨os, bs, reached, _⟩ := reached_of_run ran
    exact ⟨os, bs, reached.outbox, replies_eq reached⟩
  settled es s ran := by
    obtain ⟨os, bs, reached, _⟩ := reached_of_run ran
    exact settled_of_reached reached

end Courier.Subscription

namespace Courier

variable {ε : Type}

/-- A shutdown that succeeds has seen every message that was accepted, or every token, go out with its
batch, the end of the batch as the last call for it was answered, and this told to whoever waits.
Nothing is under way then, nothing more is accepted and no call begins, whatever follows. With nobody to
cut a shutdown short and the handle kept, the handle's token fires after that, so no call sees it. -/
theorem graceful_shutdown (provider : Provider ε) :
    (∀ (options : TopicOptions) (es : List (Topic.Event ε)) (s : Topic.State ε),
      run Topic.State.step (.new provider options) es = some s →
      (∀ id c, s.shutdown? id = some c → c.phase = .done (.ok ()) →
        (∀ x ∈ log Topic.State.step Topic.accepts (.new provider options) es,
          Outbox.Delivered provider options.retry s.outbox (Topic.replies es) x) ∧
        Outbox.Spent s.outbox ∧
        ∀ fs t, run Topic.State.step s fs = some t → Outbox.Spent t.outbox ∧
          t.outbox.attempts = s.outbox.attempts ∧
          t.outbox.batcher.accepted = s.outbox.batcher.accepted) ∧
      ((∀ id k, .shutdown id (some k) ∈ es → .fire k ∉ es) → .discard ∉ es →
        Outbox.Unhurried s.outbox)) ∧
    ∀ (replaced : Bool) (options : SubscriptionOptions) (es : List (Subscription.Event ε))
      (s : Subscription.State ε),
      run Subscription.State.step (.new provider replaced options) es = some s →
      (replaced = false → s.outbox.batcher.accepted.map (·.item) =
        Subscription.tokens (Subscription.acks provider replaced options es)) ∧
      (∀ id c, s.shutdown? id = some c → c.phase = .done (.ok ()) →
        (∀ x ∈ s.outbox.batcher.accepted,
          Outbox.Delivered provider options.retry s.outbox (Subscription.replies es) x) ∧
        Outbox.Spent s.outbox ∧
        ∀ fs t, run Subscription.State.step s fs = some t → Outbox.Spent t.outbox ∧
          t.outbox.attempts = s.outbox.attempts ∧
          t.outbox.batcher.accepted = s.outbox.batcher.accepted) ∧
      ((∀ id k, .shutdown id (some k) ∈ es → .fire k ∉ es) → .discard ∉ es →
        Outbox.Unhurried s.outbox) := by
  constructor
  · intro options es s ran
    have accepted := Topic.accepted_eq ran
    refine ⟨?_, (Topic.handle provider options).unhurried_of_run ran⟩
    intro id c found done
    rw [← accepted]
    exact (Topic.handle provider options).drained_of_done ran (call_member found) done
  · intro replaced options es s ran
    have tally := Subscription.tally_of_run ran
    obtain ⟨os, bs, reached, _⟩ := Subscription.reached_of_run ran
    have kept := Subscription.replaced_kept reached
    refine ⟨fun batched => tally.sent (kept.trans batched), ?_,
      (Subscription.handle provider replaced options).unhurried_of_run ran⟩
    intro id c found done
    exact (Subscription.handle provider replaced options).drained_of_done ran (call_member found) done

/-- The first of two batches pauses before its second attempt when a shutdown begins. -/
def topicDrained : List (Topic.Event String) :=
  [.send 1 none (Topic.note "a"), .sendStep 1, .sendStep 1, .sendStep 1, .look, .call,
    .send 2 none (Topic.note "b"), .sendStep 2, .sendStep 2, .sendStep 2,
    .returned (.error (.native "busy")) 0, .shutdown 9 (some "t"), .shutdownStep 9, .shutdownStep 9,
    .shutdownStep 9, .resumed, .returned (.ok ()) 0, .look, .call, .returned (.ok ()) 0, .look,
    .shutdownStep 9, .shutdownStep 9, .shutdownStep 9, .shutdownStep 9]

/-- The same with two tokens. -/
def subscriptionDrained : List (Subscription.Event String) :=
  [.receive 1 none, .receiveStep 1, .receiveStep 1,
    .fetched 1 (.ok [Subscription.parcel 0, Subscription.parcel 1]) 0, .receiveStep 1,
    .receiveStep 1, .receiveStep 1, .receive 2 none, .receiveStep 2, .ack 1 (.ofSecs 4) true,
    .ackLook, .ackCall, .ack 0 (.ofSecs 5) true, .ackReturned (.error (.native "busy")) 0,
    .shutdown 9 (some "t"), .shutdownStep 9, .shutdownStep 9, .shutdownStep 9, .ackResumed,
    .ackReturned (.ok ()) 0, .ackLook, .ackCall, .ackReturned (.ok ()) 0, .ackLook, .shutdownStep 9,
    .shutdownStep 9, .shutdownStep 9, .shutdownStep 9]

theorem graceful_shutdown_while_pausing :
    (∃ s t : Topic.State String, run Topic.State.step (.new Topic.relay default) topicDrained = some s ∧
      Outbox.Delivered Topic.relay (default : TopicOptions).retry s.outbox (Topic.replies topicDrained)
        ⟨1, Topic.note "b"⟩ ∧
      Outbox.Spent s.outbox ∧ Outbox.Unhurried s.outbox ∧
      run Topic.State.step s [.send 3 none (Topic.note "c"), .sendStep 3, .fire "t"] = some t ∧
      t.outbox.attempts = s.outbox.attempts ∧ s.outbox.attempts.length = 3) ∧
    ∃ s t : Subscription.State String,
      run Subscription.State.step (.new Subscription.relay false default) subscriptionDrained = some s ∧
      s.outbox.batcher.accepted.map (·.item) = [.number 1, .number 0] ∧
      (∀ x ∈ s.outbox.batcher.accepted, Outbox.Delivered Subscription.relay
        (default : SubscriptionOptions).retry s.outbox (Subscription.replies subscriptionDrained) x) ∧
      Outbox.Spent s.outbox ∧ Outbox.Unhurried s.outbox ∧
      run Subscription.State.step s [.receive 3 none, .receiveStep 3, .fire "t"] = some t ∧
      t.outbox.attempts = s.outbox.attempts ∧ s.outbox.attempts.length = 3 := by
  constructor
  · have ran : (run Topic.State.step (.new Topic.relay default) topicDrained).map (fun s =>
        ((s.shutdown? 9).bind Closing.Call.outcome?, s.outbox.attempts.length,
          (run Topic.State.step s
            [.send 3 none (Topic.note "c"), .sendStep 3, .fire "t"]).isSome)) =
          some (some (.ok ()), 3, true) := by
      decide +kernel
    have accepted : (⟨1, Topic.note "b"⟩ : Entry Message) ∈
        log Topic.State.step Topic.accepts (.new Topic.relay default) topicDrained := by
      decide +kernel
    obtain ⟨s, reached, facts⟩ := Option.map_eq_some_iff.mp ran
    simp only [Prod.mk.injEq] at facts
    obtain ⟨returned, calls, more⟩ := facts
    obtain ⟨c, found, returned⟩ := Option.bind_eq_some_iff.mp returned
    obtain ⟨t, later⟩ := Option.isSome_iff_exists.mp more
    have h := (graceful_shutdown Topic.relay).1 default topicDrained s reached
    obtain ⟨delivered, spent, final⟩ := h.1 9 c found (Closing.done_of_outcome returned)
    have unhurried := h.2 (by simp [topicDrained]) (by simp [topicDrained])
    exact ⟨s, t, reached, delivered _ accepted, spent, unhurried, later, (final _ t later).2.1, calls⟩
  · have ran : (run Subscription.State.step (.new Subscription.relay false default)
        subscriptionDrained).map (fun s => ((s.shutdown? 9).bind Closing.Call.outcome?,
          s.outbox.attempts.length, (run Subscription.State.step s
            [.receive 3 none, .receiveStep 3, .fire "t"]).isSome)) = some (some (.ok ()), 3, true) := by
      decide +kernel
    have submitted : Subscription.tokens (Subscription.acks Subscription.relay false default
        subscriptionDrained) = [.number 1, .number 0] := by
      decide +kernel
    obtain ⟨s, reached, facts⟩ := Option.map_eq_some_iff.mp ran
    simp only [Prod.mk.injEq] at facts
    obtain ⟨returned, calls, more⟩ := facts
    obtain ⟨c, found, returned⟩ := Option.bind_eq_some_iff.mp returned
    obtain ⟨t, later⟩ := Option.isSome_iff_exists.mp more
    have h := (graceful_shutdown Subscription.relay).2 false default subscriptionDrained s reached
    obtain ⟨delivered, spent, final⟩ := h.2.1 9 c found (Closing.done_of_outcome returned)
    have unhurried := h.2.2 (by simp [subscriptionDrained]) (by simp [subscriptionDrained])
    exact ⟨s, t, reached, (h.1 rfl).trans submitted, delivered, spent, unhurried, later,
      (final _ t later).2.1, calls⟩

end Courier
