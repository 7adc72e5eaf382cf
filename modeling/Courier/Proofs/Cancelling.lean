import Courier.Proofs.Graceful
import Courier.Proofs.Outbox.Stopped

/-! A topic or a subscription whose own token has fired. Little is left for its provider to do, and it
gets done: the retried call in progress is good for one more call, each batch that waits for one, and
the handler task then ends. Both handles have an outbox at their core, which moves by the same events. -/

namespace Courier.Outbox

variable {α ε σ ι : Type} {step : σ → ι → Option σ} {core : σ → State α ε}
  {outer : ι → Option (Event α ε)} {s t : σ} {fs : List ι}

/-- A run of a machine is a run of the outbox inside it, with as many moments of the handler task. -/
theorem core_of_run (steps : ∀ s e t, step s e = some t → ∃ os,
      run State.step (core s) os = some (core t) ∧ os.filter Event.works = (outer e).toList)
    (ran : run step s fs = some t) : ∃ os, run State.step (core s) os = some (core t) ∧
      os.countP Event.works = (fs.filterMap outer).length := by
  refine run_invariant (P := fun fs t => ∃ os, run State.step (core s) os = some (core t) ∧
    os.countP Event.works = (fs.filterMap outer).length) ⟨[], rfl, rfl⟩ ?_ ran
  intro fs t e u _ ih moved
  obtain ⟨os, before, moments⟩ := ih
  obtain ⟨more, now, works⟩ := steps t e u moved
  refine ⟨os ++ more, run_trans before now, ?_⟩
  rw [List.countP_append, moments, List.countP_eq_length_filter, works, filterMap_concat,
    List.length_append]

theorem works_of_closing {o p : State α ε} {fired : List Token} {id : Nat} {c : Closing.Call ε}
    {os : List (Event α ε)} {phase : Closing.Phase ε} (moved : Closing.Moves o fired id c os p phase) :
    os.filter Event.works = [] := by
  cases moved with
  | _ => rfl

end Courier.Outbox

namespace Courier.Topic

variable {ε : Type} {s t : State ε} {e : Event ε} {os : List (Outbox.Event Message ε)}

theorem works_of_moves (moved : Moves s e os t) :
    os.filter Outbox.Event.works = e.outer?.toList := by
  cases moved with
  | turn _ own => rcases own with rfl | rfl <;> rfl
  | close _ own moved =>
    rw [Outbox.works_of_closing moved]
    rcases own with rfl | ⟨rfl, _⟩ <;> rfl
  | outer passed => cases e <;> cases passed <;> rfl
  | _ => rfl

theorem core_of_step (moved : s.step e = some t) : ∃ os,
    run Outbox.State.step s.outbox os = some t.outbox ∧
      os.filter Outbox.Event.works = e.outer?.toList := by
  obtain ⟨os, moves⟩ := moves_of_step moved
  exact ⟨os, outbox_of_moves moves, works_of_moves moves⟩

theorem can_of_core {o : Outbox.Event Message ε} (works : o.works = true)
    (can : (s.outbox.step o).isSome = true) :
    ∃ e : Event ε, e.outer? = some o ∧ (s.step e).isSome = true := by
  have passes : (s.passOn o).isSome = true := by
    rw [State.passOn, Option.isSome_map]
    exact can
  cases o with
  | look => exact ⟨.look, rfl, passes⟩
  | call => exact ⟨.call, rfl, passes⟩
  | returned r jitter => exact ⟨.returned r jitter, rfl, passes⟩
  | brokeOff => exact ⟨.brokeOff, rfl, passes⟩
  | resumed => exact ⟨.resumed, rfl, passes⟩
  | cut => exact ⟨.cut, rfl, passes⟩
  | _ => cases works

/-- A send that waits goes on as soon as its batch has been told. -/
theorem hears {id k : Nat} {c : Send ε} (found : s.send? id = some c) (waits : c.phase = .waiting k)
    {o : Outcome ε} (told : s.outbox.batcher.answers k = [o]) :
    (s.step (.sendStep id)).isSome = true := by
  have answer : s.answer? k = some o := by
    rw [State.answer?, Batcher.answer_eq, told]
    rfl
  simp [State.step, found, State.moveSend, waits, answer]

end Courier.Topic

namespace Courier.Subscription

variable {ε : Type} {s t : State ε} {e : Event ε} {os : List (Outbox.Event AckId ε)}

theorem works_of_moves (moved : AckMoves s e os t) :
    os.filter Outbox.Event.works = e.outer?.toList := by
  cases moved with
  | apart own => cases e <;> first | rfl | cases own
  | close _ own moved =>
    rw [Outbox.works_of_closing moved]
    rcases own with rfl | ⟨rfl, _⟩ <;> rfl
  | outer passed => cases e <;> cases passed <;> rfl
  | _ => rfl

theorem core_of_step (moved : s.step e = some t) : ∃ os,
    run Outbox.State.step s.outbox os = some t.outbox ∧
      os.filter Outbox.Event.works = e.outer?.toList := by
  obtain ⟨os, moves⟩ := ackMoves_of_step moved
  exact ⟨os, outbox_of_moves moves, works_of_moves moves⟩

theorem can_of_core {o : Outbox.Event AckId ε} (works : o.works = true)
    (can : (s.outbox.step o).isSome = true) :
    ∃ e : Event ε, e.outer? = some o ∧ (s.step e).isSome = true := by
  have passes : (s.passOn o).isSome = true := by
    rw [State.passOn, Option.isSome_map]
    exact can
  have moves : ∀ inner, (s.moveAcks o inner).isSome = true := by
    intro inner
    rw [State.moveAcks, Option.isSome_map]
    exact passes
  cases o with
  | look => exact ⟨.ackLook, rfl, passes⟩
  | call => exact ⟨.ackCall, rfl, passes⟩
  | returned r jitter => exact ⟨.ackReturned r jitter, rfl, moves _⟩
  | brokeOff => exact ⟨.ackBroke, rfl, moves _⟩
  | resumed => exact ⟨.ackResumed, rfl, moves _⟩
  | cut => exact ⟨.ackCut, rfl, moves _⟩
  | _ => cases works

end Courier.Subscription

namespace Courier

variable {ε : Type}

/-- Once the token of a topic or a subscription has fired, the batch in hand begins one more call at
most and each later batch one, whatever the policy; two moments of the handler task are enough for
whoever waits for a batch that was taken; and if nothing more is accepted, what waits is worked off in
as few batches as it fits in, after which the task ends. It can always move, once the provider answers. -/
theorem cancellation_bounds_work (provider : Provider ε) :
    (∀ (options : TopicOptions) (es : List (Topic.Event ε)) (s : Topic.State ε),
      run Topic.State.step (.new provider options) es = some s → s.outbox.stopped = true →
      ∀ fs t, run Topic.State.step s fs = some t →
        Outbox.Unwinds options.batching.maxBatchSize s.outbox t.outbox
          (fs.filterMap Topic.Event.outer?).length ∧
        (t.outbox.batcher.active ≠ 0 →
          Outbox.Due fun o => ∃ e : Topic.Event ε, e.outer? = some o ∧ (t.step e).isSome = true) ∧
        ∀ id c k o, t.send? id = some c → c.phase = .waiting k →
          t.outbox.batcher.answers k = [o] → (t.step (.sendStep id)).isSome = true) ∧
    ∀ (replaced : Bool) (options : SubscriptionOptions) (es : List (Subscription.Event ε))
      (s : Subscription.State ε),
      run Subscription.State.step (.new provider replaced options) es = some s →
      s.outbox.stopped = true → ∀ fs t, run Subscription.State.step s fs = some t →
        Outbox.Unwinds options.ackBatching.maxBatchSize s.outbox t.outbox
          (fs.filterMap Subscription.Event.outer?).length ∧
        (t.outbox.batcher.active ≠ 0 → Outbox.Due fun o =>
          ∃ e : Subscription.Event ε, e.outer? = some o ∧ (t.step e).isSome = true) := by
  constructor
  · intro options es s ran stopped fs t later
    obtain ⟨os, bs, reached⟩ := Topic.reached_of_run ran
    obtain ⟨more, core, moments⟩ := Outbox.core_of_run (fun _ _ _ => Topic.core_of_step) later
    have unwinds := Outbox.unwinds_of_run reached.outbox stopped core
    rw [moments] at unwinds
    refine ⟨unwinds, ?_, ?_⟩
    · intro busy
      obtain ⟨_, after, _⟩ := reached.outbox.run core
      have due := Outbox.due_of_active after (Outbox.stopped_of_run stopped core) busy
      exact due.imp fun o works can => Topic.can_of_core works can
    · intro id c k o found waits told
      exact Topic.hears found waits told
  · intro replaced options es s ran stopped fs t later
    obtain ⟨os, bs, reached, _⟩ := Subscription.reached_of_run ran
    obtain ⟨more, core, moments⟩ := Outbox.core_of_run (fun _ _ _ => Subscription.core_of_step) later
    have unwinds := Outbox.unwinds_of_run reached.outbox stopped core
    rw [moments] at unwinds
    refine ⟨unwinds, ?_⟩
    intro busy
    obtain ⟨_, after, _⟩ := reached.outbox.run core
    have due := Outbox.due_of_active after (Outbox.stopped_of_run stopped core) busy
    exact due.imp fun o works can => Subscription.can_of_core works can

/-- Three messages wait for the batch before them, which pauses as the topic's token fires. -/
def topicCutShort : List (Topic.Event String) :=
  [.send 1 none (Topic.note "a"), .sendStep 1, .sendStep 1, .sendStep 1, .look, .call,
    .send 2 none (Topic.note "b"), .sendStep 2, .sendStep 2, .sendStep 2,
    .send 3 none (Topic.note "c"), .sendStep 3, .sendStep 3, .sendStep 3,
    .send 4 none (Topic.note "d"), .sendStep 4, .sendStep 4, .sendStep 4,
    .returned (.error (.native "busy")) 0, .shutdown 9 (some "t"), .shutdownStep 9, .fire "t",
    .shutdownCancel 9, .shutdownStep 9]

/-- The pause ends of itself all the same, and every call fails as the one before. -/
def topicRest : List (Topic.Event String) :=
  [.resumed, .returned (.error (.native "busy")) 0, .look, .call,
    .returned (.error (.native "busy")) 0, .look, .call, .returned (.error (.native "busy")) 0, .look]

def inPairs : TopicOptions := ⟨default, ⟨1, 2⟩⟩

/-- Two tokens wait for the batch before them, which pauses as the subscription's token fires. -/
def subscriptionCutShort : List (Subscription.Event String) :=
  [.receive 1 none, .receiveStep 1, .receiveStep 1,
    .fetched 1 (.ok [Subscription.parcel 0, Subscription.parcel 1, Subscription.parcel 2]) 0,
    .receiveStep 1, .receiveStep 1, .receiveStep 1, .receive 2 none, .receiveStep 2,
    .receive 3 none, .receiveStep 3, .ack 1 (.ofSecs 4) true, .ackLook, .ackCall,
    .ack 0 (.ofSecs 5) true, .ack 2 (.ofSecs 6) true, .ackReturned (.error (.native "busy")) 0,
    .shutdown 9 (some "t"), .shutdownStep 9, .fire "t", .shutdownCancel 9, .shutdownStep 9]

/-- Here the pause is cut off. -/
def subscriptionRest : List (Subscription.Event String) :=
  [.ackCut, .ackLook, .ackCall, .ackReturned (.error (.native "busy")) 0, .ackLook]

def unbounded : SubscriptionOptions := ⟨default, ⟨1, 0⟩, default⟩

theorem cancellation_bounds_work_while_pausing :
    (∃ s t : Topic.State String,
      run Topic.State.step (.new Topic.relay inPairs) topicCutShort = some s ∧
      s.outbox.stopped = true ∧ run Topic.State.step s topicRest = some t ∧
      t.outbox.batcher.active = 0 ∧
      t.outbox.batcher.taken.length = s.outbox.batcher.taken.length + 2 ∧
      t.outbox.attempts.length = s.outbox.attempts.length + 3 ∧
      ∀ x ∈ t.outbox.batcher.accepted, ∃ o, t.outbox.batcher.answers x.ticket = [o]) ∧
    ∃ s t : Subscription.State String,
      run Subscription.State.step (.new Subscription.relay false unbounded) subscriptionCutShort =
        some s ∧
      s.outbox.stopped = true ∧ run Subscription.State.step s subscriptionRest = some t ∧
      t.outbox.batcher.active = 0 ∧
      t.outbox.batcher.taken.length = s.outbox.batcher.taken.length + 1 ∧
      t.outbox.attempts.length = s.outbox.attempts.length + 1 ∧
      ∀ x ∈ t.outbox.batcher.accepted, ∃ o, t.outbox.batcher.answers x.ticket = [o] := by
  constructor
  · have ran : (run Topic.State.step (.new Topic.relay inPairs) topicCutShort).bind (fun s =>
        (run Topic.State.step s topicRest).map fun t => (s.outbox.stopped,
          s.outbox.batcher.pending.length, t.outbox.batcher.active,
          t.outbox.attempts.length - s.outbox.attempts.length,
          decide (t.outbox.batcher.accepted = s.outbox.batcher.accepted))) =
        some (true, 3, 0, 3, true) := by
      decide +kernel
    obtain ⟨s, reached, rest⟩ := Option.bind_eq_some_iff.mp ran
    obtain ⟨t, later, facts⟩ := Option.map_eq_some_iff.mp rest
    simp only [Prod.mk.injEq, decide_eq_true_eq] at facts
    obtain ⟨stopped, waiting, gone, calls, same⟩ := facts
    have h := (cancellation_bounds_work Topic.relay).1 inPairs topicCutShort s reached stopped topicRest
      t later
    obtain ⟨empty, _, _, told⟩ := h.1.exits gone
    have batches := (h.1.drains same).1
    rw [waiting, empty] at batches
    exact ⟨s, t, reached, stopped, later, gone, batches, by omega, told⟩
  · have ran : (run Subscription.State.step (.new Subscription.relay false unbounded)
        subscriptionCutShort).bind (fun s =>
        (run Subscription.State.step s subscriptionRest).map fun t => (s.outbox.stopped,
          s.outbox.batcher.pending.length, t.outbox.batcher.active,
          t.outbox.attempts.length - s.outbox.attempts.length,
          decide (t.outbox.batcher.accepted = s.outbox.batcher.accepted))) =
        some (true, 2, 0, 1, true) := by
      decide +kernel
    obtain ⟨s, reached, rest⟩ := Option.bind_eq_some_iff.mp ran
    obtain ⟨t, later, facts⟩ := Option.map_eq_some_iff.mp rest
    simp only [Prod.mk.injEq, decide_eq_true_eq] at facts
    obtain ⟨stopped, waiting, gone, calls, same⟩ := facts
    have h := (cancellation_bounds_work Subscription.relay).2 false unbounded subscriptionCutShort s
      reached stopped subscriptionRest t later
    obtain ⟨empty, _, _, told⟩ := h.1.exits gone
    have batches := (h.1.drains same).1
    rw [waiting, empty] at batches
    exact ⟨s, t, reached, stopped, later, gone, batches, by omega, told⟩

end Courier
