import Courier.Proofs.Topic.Calls

/-! How a batch that failed is told. Each send hears what its own batch came to, but a failure with
the code of a refusal is reported as the end of the topic once the topic has been shut down. -/

namespace Courier.Topic

variable {ε : Type} {s t : State ε} {os : List (Outbox.Event Message ε)} {provider : Provider ε}
  {options : TopicOptions} {es : List (Event ε)} {bs : List (Batcher.Event Message ε)}

/-- How an ending is told: as it is, or as the end of the topic. -/
def ToldAs (s : State ε) (how : Ending ε) (o : Outcome ε) : Prop :=
  o = Batcher.outcomeOf how ∨
    ∃ f, how = .returned (.error f) ∧ f.code = .failedPrecondition ∧
      s.outbox.batcher.shut = true ∧ o = .error closedFault

theorem tells_of_told (reached : Reached provider options es os bs s) {id : Nat} {c : Send ε}
    (found : s.send? id = some c) {k : Nat} {o : Outcome ε} (told : c.phase = .told k o) :
    Tells bs s c.token k o := by
  have accounts := accounts_of_reached reached (id, c) (call_member found)
  rwa [Accounts, told] at accounts

theorem told_of_batch (reached : Reached provider options es os bs s) {id : Nat} {c : Send ε}
    (found : s.send? id = some c) {k : Nat} {o : Outcome ε} (told : c.phase = .told k o)
    (unfired : fires s.fired c.token = false) (accepted : k ∉ s.outbox.batcher.refused) :
    ∃ r how, LastCall s (replies es) id r ∧ Outbox.Means provider options.retry (s.retries id) r how ∧
      ToldAs s how o := by
  have ticket : c.phase.ticket? = some k := by rw [told]; rfl
  cases tells_of_told reached found told with
  | canceled gaveUp => simp [unfired] at gaveUp
  | refused late => exact absurd late accepted
  | outcome concluded =>
    obtain ⟨r, call, means⟩ := call_of_concluded reached found ticket concluded
    exact ⟨r, _, call, means, .inl rfl⟩
  | mistaken concluded code shut =>
    obtain ⟨r, call, means⟩ := call_of_concluded reached found ticket concluded
    exact ⟨r, _, call, means, .inr ⟨_, rfl, code, shut, rfl⟩⟩

/-- A send whose message was refused hears that the topic is closed, unless its token fires. -/
theorem told_of_refused (reached : Reached provider options es os bs s) {id : Nat} {c : Send ε}
    (found : s.send? id = some c) {k : Nat} {o : Outcome ε} (told : c.phase = .told k o)
    (late : k ∈ s.outbox.batcher.refused) :
    o = .error closedFault ∨ (o = .error .canceled ∧ fires s.fired c.token = true) := by
  -- What was refused is in no batch, so no ending is its own.
  have apart : ∀ how, ¬ Batcher.Concluded bs s.outbox.batcher k how := by
    rintro how ⟨n, b, taken, _, e, inside, rfl⟩
    have ordered := Batcher.ordered_of_run (Outbox.batcher_run reached.outbox)
    exact ordered.refused_apart taken late (List.mem_map_of_mem inside)
  cases tells_of_told reached found told with
  | canceled gaveUp => exact .inr ⟨rfl, gaveUp⟩
  | refused => exact .inl rfl
  | outcome concluded => exact absurd concluded (apart _)
  | mistaken concluded => exact absurd concluded (apart _)

theorem told_of_refusal (reached : Reached provider options es os bs s) {id : Nat} {c : Send ε}
    (found : s.send? id = some c) {k : Nat} {o : Outcome ε} (told : c.phase = .told k o)
    (unfired : fires s.fired c.token = false) (late : k ∈ s.outbox.batcher.refused) :
    o = .error closedFault := by
  rcases told_of_refused reached found told late with closed | ⟨_, gaveUp⟩
  · exact closed
  · simp [unfired] at gaveUp

theorem closed_of_call (reached : Reached provider options es os bs s) {id : Nat} {c : Send ε}
    (found : s.send? id = some c) (closed : c.phase.outcome? = some (.error closedFault))
    {a : Outbox.Attempt Message} (member : a ∈ s.outbox.attempts) (sends : id ∈ s.senders a) :
    ∃ t, LastCall s (replies es) id (.returned (.error t)) ∧
      (provider.fault t).code = .failedPrecondition := by
  obtain ⟨d, again, x, _, ticket, _, accepted⟩ := ticket_of_senders reached member sends
  cases Option.some.inj (found.symm.trans again)
  have failed : ∀ {f : Fault ε}, f.code = .failedPrecondition →
      Batcher.Concluded bs s.outbox.batcher x.ticket (.returned (.error f)) →
      ∃ t, LastCall s (replies es) id (.returned (.error t)) ∧
        (provider.fault t).code = .failedPrecondition := by
    intro f code concluded
    obtain ⟨r, call, means⟩ := call_of_concluded reached found ticket concluded
    obtain ⟨t, rfl, rfl⟩ := Outbox.error_of_means means
    exact ⟨t, call, code⟩
  cases phase : c.phase with
  | told k o =>
    rw [phase] at ticket closed
    cases ticket
    have tells := tells_of_told reached found phase
    cases Option.some.inj closed
    generalize outcome : (.error closedFault : Outcome ε) = o at tells
    cases tells with
    | canceled => cases outcome
    | refused late => exact absurd late accepted
    | mistaken concluded code => exact failed code concluded
    | @outcome how concluded =>
      cases how with
      | panicked => cases outcome
      | returned result =>
        cases (outcome : .error closedFault = result)
        exact failed rfl concluded
  | turnedAway f =>
    -- It never held a ticket, so no call carries its message.
    rw [phase] at ticket
    cases ticket
  | _ =>
    rw [phase] at closed
    cases closed

theorem live_steps (reached : Reached provider options es os bs s) {id : Nat} {c : Send ε}
    (found : s.send? id = some c) (live : State.Send.live c = true)
    (free : ∀ k, c.phase = .waiting k → k ∉ s.outbox.batcher.pending.map (·.ticket) ∧
      ∀ r ∈ s.outbox.batcher.running, k ∉ r.batch.map (·.ticket)) :
    (s.step (.sendStep id)).isSome = true := by
  simp only [State.step, found, Option.bind_eq_bind, Option.bind_some]
  cases phase : c.phase with
  | begun => simp [State.moveSend, phase]
  | allowed =>
    simp only [State.moveSend, phase]
    split <;> rfl
  | admitted => simp [State.moveSend, phase, State.passOn, Outbox.State.step, Outbox.State.passOn,
      Batcher.State.step]
  | waiting k =>
    obtain ⟨queued, handled⟩ := free k phase
    have ran := Outbox.batcher_run reached.outbox
    have given := (ticketed_of_reached reached).issued.mem_iff.mp
      (List.mem_filterMap.mpr ⟨(id, c), call_member found, by rw [entry, phase]; rfl⟩)
    rw [← Outbox.submissions_eq reached.outbox] at given
    have issued := List.mem_map_of_mem (f := fun e : Entry Message => e.ticket) given
    rw [Batcher.submissions_tickets, List.mem_range,
      ← (Batcher.ordered_of_run ran).nextTicket] at issued
    have answer := Batcher.answer_of_settled ran (Outbox.intact reached.outbox) issued queued handled
    rw [← answer_of_state reached] at answer
    simpa [State.moveSend, phase] using answer
  | judging k f => simp [State.moveSend, phase]
  | _ => simp [State.Send.live, phase] at live

/-- A send whose token did not fire hears the outcome of its batch, and where it was refused that the
topic is closed. It hears the latter after its message was passed on only if the last call for it
failed with the code that a refusal has. -/
theorem told_own_outcome (provider : Provider ε) (options : TopicOptions) (es : List (Event ε))
    (s : State ε) (reached : run State.step (.new provider options) es = some s) :
    (∀ id c k o, s.send? id = some c → c.phase = .told k o → fires s.fired c.token = false →
      k ∉ s.outbox.batcher.refused → ∃ r how, LastCall s (replies es) id r ∧
        Outbox.Means provider options.retry (s.retries id) r how ∧ ToldAs s how o) ∧
    (∀ id c k o, s.send? id = some c → c.phase = .told k o → fires s.fired c.token = false →
      k ∈ s.outbox.batcher.refused → o = .error closedFault) ∧
    (∀ id c, s.send? id = some c → c.phase.outcome? = some (.error closedFault) →
      ∀ a ∈ s.outbox.attempts, id ∈ s.senders a →
        ∃ t, LastCall s (replies es) id (.returned (.error t)) ∧
          (provider.fault t).code = .failedPrecondition) ∧
    (∀ id c, s.send? id = some c → State.Send.live c = true →
      (∀ k, c.phase = .waiting k → k ∉ s.outbox.batcher.pending.map (·.ticket) ∧
        ∀ r ∈ s.outbox.batcher.running, k ∉ r.batch.map (·.ticket)) →
      (s.step (.sendStep id)).isSome = true) := by
  obtain ⟨os, bs, reached⟩ := reached_of_run reached
  refine ⟨?_, ?_, ?_, ?_⟩
  · intro id c k o found told unfired accepted
    exact told_of_batch reached found told unfired accepted
  · intro id c k o found told unfired late
    exact told_of_refusal reached found told unfired late
  · intro id c found closed a member sends
    exact closed_of_call reached found closed member sends
  · intro id c found live free
    exact live_steps reached found live free

/-- A provider that gives one of its errors the code of a refusal. -/
def strict : Provider String :=
  ⟨"strict", fun _ => false, fun
    | .native "gone" => .failedPrecondition
    | _ => .unknown⟩

/-- The same error before and after the shutdown, and a call that breaks off in between. -/
def sameError : List (Event String) :=
  [.send 1 none (note "a"), .sendStep 1, .sendStep 1, .sendStep 1, .look, .call,
    .returned (.error (.native "gone")) 0, .sendStep 1, .sendStep 1,
    .send 2 none (note "b"), .sendStep 2, .sendStep 2, .sendStep 2, .look, .call,
    .send 3 none (note "c"), .sendStep 3, .sendStep 3, .sendStep 3,
    .shutdown 9 none, .shutdownStep 9, .shutdownStep 9, .shutdownStep 9, .brokeOff, .sendStep 2,
    .look, .call, .returned (.error (.native "gone")) 0, .sendStep 3, .sendStep 3]

theorem told_own_outcome_same_error :
    ∃ s : State String, run State.step (.new strict default) sameError = some s ∧
      s.send? 1 = some ⟨none, note "a",
        .told 0 (.error (.provider .failedPrecondition "strict" "gone"))⟩ ∧
      s.send? 2 = some ⟨none, note "b", .told 1 (.error Batcher.panicFault)⟩ ∧
      s.send? 3 = some ⟨none, note "c", .told 2 (.error closedFault)⟩ ∧
      ∃ r how, LastCall s (replies sameError) 2 r ∧
        Outbox.Means strict (default : TopicOptions).retry (s.retries 2) r how ∧
          ToldAs s how (.error Batcher.panicFault) := by
  have ran : ∃ s : State String, run State.step (.new strict default) sameError = some s ∧
      s.send? 1 = some ⟨none, note "a",
        .told 0 (.error (.provider .failedPrecondition "strict" "gone"))⟩ ∧
      s.send? 2 = some ⟨none, note "b", .told 1 (.error Batcher.panicFault)⟩ ∧
      s.send? 3 = some ⟨none, note "c", .told 2 (.error closedFault)⟩ ∧
      s.outbox.batcher.refused = [] := ⟨_, rfl, rfl, rfl, rfl, rfl⟩
  obtain ⟨s, reached, first, second, third, none_refused⟩ := ran
  have h := told_own_outcome strict default sameError s reached
  exact ⟨s, reached, first, second, third,
    h.1 2 _ 1 _ second rfl rfl (by rw [none_refused]; exact List.not_mem_nil)⟩

/-- Not every accepted send hears the outcome of its batch. -/
theorem own_outcome_lost :
    ¬ ∀ (provider : Provider String) (options : TopicOptions) (es : List (Event String))
      (s : State String), run State.step (.new provider options) es = some s →
      ∀ id c k o, s.send? id = some c → c.phase = .told k o → fires s.fired c.token = false →
        k ∉ s.outbox.batcher.refused → ∃ r how, LastCall s (replies es) id r ∧
          Outbox.Means provider options.retry (s.retries id) r how ∧ o = Batcher.outcomeOf how := by
  intro claim
  have ran : ∃ s : State String, run State.step (.new strict default) sameError = some s ∧
      s.send? 3 = some ⟨none, note "c", .told 2 (.error closedFault)⟩ ∧
      s.outbox.batcher.refused = [] ∧ s.outbox.attempts.length = 3 ∧
      s.outbox.attempts.map s.senders = [[1], [2], [3]] := ⟨_, rfl, rfl, rfl, rfl, rfl⟩
  obtain ⟨s, reached, third, none_refused, calls, senders⟩ := ran
  obtain ⟨r, how, ⟨i, a, there, sends, _, reply⟩, means, outcome⟩ :=
    claim strict default sameError s reached 3 _ 2 _ third rfl rfl
      (by rw [none_refused]; exact List.not_mem_nil)
  -- Only the last of the three calls carries the message of this send.
  have bound := (List.getElem?_eq_some_iff.mp there).1
  have carried : (s.outbox.attempts.map s.senders)[i]? = some (s.senders a) := by
    rw [List.getElem?_map, there, Option.map_some]
  rw [senders] at carried
  have last : i = 2 := by
    rw [calls] at bound
    match i, bound with
    | 0, _ => simp [← Option.some.inj carried] at sends
    | 1, _ => simp [← Option.some.inj carried] at sends
    | 2, _ => rfl
  subst last
  cases (reply : some (.returned (.error (.native "gone"))) = some r)
  rcases means with rfl | ⟨rfl, _⟩
  · cases outcome
  · cases outcome

end Courier.Topic
