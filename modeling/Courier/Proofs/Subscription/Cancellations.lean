import Courier.Proofs.Subscription.Failures

/-! Whose errors a receive hears of. The call for messages of a round runs under the token of the
receive that owns it, and others wait for the same round. They share neither its cancellation nor its
error: those who waited look again, and each receive that ends with an error has its own reason. That a
receive is told it was canceled rests on the provider, which must not say so of a token that has not
fired. -/

namespace Courier.Subscription

variable {ε : Type} {s t : State ε} {e : Event ε} {provider : Provider ε} {replaced : Bool}
  {options : SubscriptionOptions} {es : List (Event ε)}

/-- An answer that the call was canceled comes only where the token that the call was given has fired,
for messages the token of the receive and for acknowledgements the one of the subscription. -/
def honest (x : State ε × Event ε) : Bool :=
  match x.2 with
  | .fetched id (.error (.fault .canceled)) _ =>
    (x.1.receive? id).any fun c => fires x.1.fired c.token
  | .ackReturned (.error (.fault .canceled)) _ => x.1.outbox.stopped
  | _ => true

/-- Nothing is received through a handle that has been dropped. -/
def DroppedLast (es : List (Event ε)) : Prop :=
  ∀ before after, es = before ++ .discard :: after → ∀ id token, .receive id token ∉ after

def ReceivePhase.error? : ReceivePhase ε → Option (Fault ε)
  | .failing _ f => some f
  | .signalling _ (.failed f) => some f
  | .done (.error f) => some f
  | _ => none

theorem live_of_owned {c : Receive ε} {r : Nat} (owns : c.phase.owned? = some r) :
    State.Receive.live c = true := by
  cases phase : c.phase with
  | done | collapsed =>
    rw [phase] at owns
    cases owns
  | _ => rw [State.Receive.live, phase]

theorem Change.live {id : Nat} {c : Receive ε} {next : ReceivePhase ε}
    (change : Change s e id c next) : State.Receive.live c = true := by
  cases change with
  | refuse _ phase | handOut _ phase | join _ phase | giveUp _ phase | begin _ phase | call _ phase
  | wake _ phase | store _ phase | cancel _ phase | signal _ phase | bring _ phase | fail phase
  | collapse phase | goOn phase => rw [State.Receive.live, phase]
  | conclude _ ends => exact live_of_owned (owned_of_conclusion ends)
  | clear _ gives => exact live_of_owned (owned_of_giveBack gives)

theorem live_of_quiet (quiet : s.quiet = true) {id : Nat} {c : Receive ε}
    (found : s.receive? id = some c) : State.Receive.live c = false := by
  rw [State.quiet, Bool.and_eq_true, List.all_eq_true] at quiet
  simpa using quiet.1 _ (call_member found)

theorem DroppedLast.earlier (last : DroppedLast (es ++ [e])) : DroppedLast es := by
  intro before after split id token member
  refine last before (after ++ [e]) (by rw [split]; simp) id token ?_
  exact List.mem_append_left _ member

/-- Once the handle is dropped, no receive is in progress. -/
theorem live_of_run (reached : run State.step (.new provider replaced options) es = some s)
    (last : DroppedLast es) (dropped : .discard ∈ es) {id : Nat} {c : Receive ε}
    (found : s.receive? id = some c) : State.Receive.live c = false := by
  refine run_invariant (P := fun es s => DroppedLast es → .discard ∈ es →
    ∀ id c, s.receive? id = some c → State.Receive.live c = false) ?_ ?_ reached last dropped id c found
  · intro _ dropped
    cases dropped
  · intro es s e t before ih moved last dropped id c found
    have asleep : ∀ id c, s.receive? id = some c → State.Receive.live c = false := by
      rcases List.mem_append.mp dropped with old | new
      · exact ih last.earlier old
      · cases List.mem_singleton.mp new
        obtain ⟨os, acks⟩ := ackMoves_of_step moved
        cases acks with
        | discard quiet => exact fun id c => live_of_quiet quiet
        | apart own => cases own
        | outer passed => cases passed
        | close _ own => rcases own with same | ⟨same, _⟩ <;> cases same
    cases origin_of_moves (owned_of_run before).distinct (moves_of_step moved) found with
    | stays there => exact asleep id c there
    | @arrives token called =>
      rcases List.mem_append.mp dropped with old | new
      · obtain ⟨first, rest, rfl⟩ := List.append_of_mem old
        refine absurd ?_ (last first (rest ++ [e]) (by simp) id token)
        exact List.mem_append_right _ (called ▸ List.mem_cons_self)
      · cases (List.mem_singleton.mp new).trans called
    | changes there change =>
      have alive := change.live
      rw [asleep id _ there] at alive
      contradiction

theorem stopped_of_moves {o p : Outbox.State AckId ε} {inner : Outbox.Event AckId ε}
    (stepped : o.step inner = some p) (other : inner ≠ .stop) : p.stopped = o.stopped := by
  obtain ⟨more, moved⟩ := Outbox.moves_of_step stepped
  cases moved with
  | stop => exact absurd rfl other
  | _ => rfl

theorem closed_kept (moved : AckMoves s e os t) (closed : s.fault = some closedFault) :
    t.fault = some closedFault := by
  rw [fault_of_moves moved, closed]
  cases closes (s, e) <;> simp

/-- The subscription's own token fires as a shutdown ends, when it is closed already, or as the handle
is dropped. -/
theorem closed_of_stopped (reached : run State.step (.new provider replaced options) es = some s)
    (stopped : s.outbox.stopped = true) : s.fault = some closedFault ∨ .discard ∈ es := by
  refine run_invariant (P := fun es s => s.outbox.stopped = true →
    s.fault = some closedFault ∨ .discard ∈ es) ?_ ?_ reached stopped
  · intro stopped
    cases stopped
  · intro es s e t before ih moved stopped
    obtain ⟨os, bs, ran, _⟩ := reached_of_run before
    have settled := settled_of_reached ran
    obtain ⟨os, acks⟩ := ackMoves_of_step moved
    have kept : s.outbox.stopped = true → t.fault = some closedFault ∨ .discard ∈ es ++ [e] := by
      intro earlier
      exact (ih earlier).imp (closed_kept acks) (List.mem_append_left _)
    have passed : ∀ {inner : Outbox.Event AckId ε} {o : Outbox.State AckId ε},
        s.outbox.step inner = some o → inner ≠ .stop → o.stopped = true →
        t.fault = some closedFault ∨ .discard ∈ es ++ [e] := by
      intro inner o stepped other stopped
      exact kept (stopped_of_moves stepped other ▸ stopped)
    cases acks with
    | apart _ same => exact kept (same.outbox ▸ stopped)
    | submit _ _ stepped => exact passed stepped nofun stopped
    | outer only stepped => exact passed stepped (by cases e <;> cases only <;> nofun) stopped
    | forget stepped => exact passed stepped nofun stopped
    | discard => exact .inr (List.mem_append_right _ List.mem_cons_self)
    | @close _ id c _ _ _ _ found own closing begins keeps =>
      -- a shutdown that is leaving has begun, and finds the subscription closed
      have marked := settled.marked _ (call_member found)
      cases closing with
      | ask _ stepped => exact passed stepped nofun stopped
      | wait _ stepped => exact passed stepped nofun stopped
      | abandon _ _ stepped => exact passed stepped nofun stopped
      | depart leaving | cancel leaving =>
        have past : c.phase ≠ .begun := by simp [leaving]
        exact .inl ((keeps past).trans (marked past))
      | close | drained | skip => exact kept stopped
    | replace | again | skip | enter | fire => exact kept stopped

theorem fault_eq_canceled {trouble : Trouble ε} (wrapped : .canceled = provider.fault trouble) :
    trouble = .fault .canceled := by
  cases trouble with
  | fault f => exact congrArg _ wrapped.symm
  | native => cases wrapped

theorem fault_not_canceled (reached : run State.step (.new provider replaced options) es = some s)
    (fair : (trace State.step (.new provider replaced options) es).all honest = true)
    (failed : s.fault = some .canceled) : .discard ∈ es := by
  have slot := fault_of_run reached
  rw [failed] at slot
  split at slot
  · cases slot
  · obtain ⟨before, after, split, _⟩ := first_failure.mp slot.symm
    obtain ⟨trouble, ⟨i, _, _, _, _, answer⟩, wrapped⟩ := failed_reply reached split
    cases fault_eq_canceled wrapped
    obtain ⟨d, member, answers⟩ := List.mem_filterMap.mp (List.mem_of_getElem? answer)
    obtain ⟨early, late, rfl⟩ := List.append_of_mem member
    obtain ⟨u, ran, rest⟩ := Option.bind_eq_some_iff.mp (run_append .. ▸ reached)
    obtain ⟨v, stepped, _⟩ := Option.bind_eq_some_iff.mp rest
    have here : (u, d) ∈ trace State.step (.new provider replaced options) (early ++ d :: late) := by
      rw [trace_append _ ran, trace, stepped]
      exact List.mem_append_right _ List.mem_cons_self
    have stopped : u.outbox.stopped = true := by
      have said := List.all_eq_true.mp fair _ here
      cases d with
      | ackReturned result jitter =>
        cases answers
        exact said
      | _ => cases answers
    rcases closed_of_stopped ran stopped with closed | dropped
    · -- closed it stays, and that is another error
      have later := fault_later closed rest
      rw [failed, ite_self] at later
      cases later
    · exact List.mem_append_left _ dropped

theorem fired_of_failure {id : Nat} {c : Receive ε} {call after : Fetch ε}
    {inner : Retry.Event (List Parcel) (Trouble ε)} (found : s.receive? id = some c)
    (fair : honest (s, e) = true) (moment : Moment s id c e inner)
    (stepped : call.step s.policy s.provider.retryable inner = some after)
    (failed : after.phase = .done (.error (.fault .canceled))) : fires s.fired c.token = true := by
  cases moment with
  | returned result jitter =>
    cases Retry.moves_of_step stepped with
    | succeed => cases failed
    | fail trouble =>
      -- what the call fails with is the answer that has just come
      have own : trouble = .fault .canceled := by
        rcases Retry.failed_cases s.policy s.provider.retryable call trouble (fires s.fired c.token)
          jitter with ⟨_, h⟩ | ⟨_, _, h⟩ | ⟨_, h⟩
        · cases h.symm.trans failed
          rfl
        · cases h.symm.trans failed
        · cases h.symm.trans failed
      cases own
      simpa [honest, found] using fair
  | broke =>
    cases Retry.moves_of_step stepped
    cases failed
  | resumed =>
    cases Retry.moves_of_step stepped
    cases failed
  | cut fired => exact fired -- an earlier answer comes back, but only under a fired token

theorem error_of_conclusion {phase next : ReceivePhase ε} {r : Nat} {f : Fault ε}
    (ends : phase.conclusion? = some (r, next)) (errs : next.error? = some f) :
    phase.failure? = some (r, f) := by
  rcases conclusion_cases ends with ⟨_, rfl⟩ | ⟨g, rfl, rfl⟩ | ⟨_, rfl⟩
  · cases errs
  · cases errs
    rfl
  · cases errs

theorem error_of_sequel {sequel : Sequel ε} {next : ReceivePhase ε} {f : Fault ε}
    (goes : sequel.phase? = some next) (errs : next.error? = some f) : sequel = .failed f := by
  rcases phase_cases goes with ⟨_, rfl⟩ | ⟨g, rfl, rfl⟩ | ⟨_, rfl⟩
  · cases errs
  · cases errs
    rfl
  · cases errs

theorem error_of_giveBack {phase : ReceivePhase ε} {r : Nat} {sequel : Sequel ε} {f : Fault ε}
    (gives : phase.giveBack? = some (r, sequel))
    (errs : (ReceivePhase.signalling r sequel).error? = some f) : phase.failure? = some (r, f) := by
  cases phase with
  | failing =>
    cases gives
    cases errs
    rfl
  | _ =>
    cases gives
    try cases errs

theorem error_of_failure {phase : ReceivePhase ε} {r : Nat} {f : Fault ε}
    (fails : phase.failure? = some (r, f)) : phase.error? = some f := by
  cases phase with
  | failing =>
    cases fails
    rfl
  | signalling _ sequel =>
    cases sequel with
    | failed =>
      cases fails
      rfl
    | _ => cases fails
  | _ => cases fails

theorem fired_of_canceled (reached : run State.step (.new provider replaced options) es = some s)
    (fair : (trace State.step (.new provider replaced options) es).all honest = true)
    (last : DroppedLast es) {id : Nat} {c : Receive ε} (found : s.receive? id = some c)
    (told : c.phase.error? = some .canceled) : fires s.fired c.token = true := by
  refine run_invariant (P := fun es s =>
    (trace State.step (.new provider replaced options) es).all honest = true → DroppedLast es →
    ∀ id c, s.receive? id = some c → c.phase.error? = some .canceled →
      fires s.fired c.token = true) ?_ ?_ reached fair last id c found told
  · intro _ _ id c found
    cases found
  · intro es s e t before ih moved fair last id c found told
    rw [trace_snoc before moved, List.all_append, Bool.and_eq_true] at fair
    have old := ih fair.1 last.earlier
    have now : honest (s, e) = true := by simpa using fair.2
    obtain ⟨os, acks⟩ := ackMoves_of_step moved
    refine Closing.fires_later (fired_kept acks) ?_
    cases origin_of_moves (owned_of_run before).distinct (moves_of_step moved) found with
    | stays there => exact old id c there told
    | arrives => cases told
    | @changes d next there change =>
      have alive := change.live
      cases change with
      | refuse _ _ fault =>
        cases told
        -- only a dropped handle has this fault, and nobody looks at it any more
        have dropped := fault_not_canceled before fair.1 fault
        rw [live_of_run before last.earlier dropped there] at alive
        contradiction
      | giveUp _ _ fired => exact fired
      | cancel _ _ fired => exact fired
      | conclude _ ends => exact old id d there (error_of_failure (error_of_conclusion ends told))
      | clear _ gives => exact old id d there (error_of_failure (error_of_giveBack gives told))
      | signal _ signals goes =>
        cases error_of_sequel goes told
        exact old id d there (signals ▸ rfl)
      | fail _ moment stepped failed =>
        have own := fault_eq_canceled (Option.some.inj told).symm
        have fired : fires s.fired d.token = true :=
          fired_of_failure there now moment stepped (own ▸ failed)
        exact fired
      | _ => cases told

/-- What a step makes of a receive that waits: nothing; or it looks again after the end of the round;
or its own token ends it, or its own caller. -/
theorem waiting_next (owned : Owned s) (moved : s.step e = some t) {id r : Nat} {c : Receive ε}
    (found : s.receive? id = some c) (waits : c.phase = .waiting r) :
    t.receive? id = some c ∨
    (s.isOver r = true ∧ t.receive? id = some { c with phase := .looking }) ∨
    (fires s.fired c.token = true ∧
      t.receive? id = some { c with phase := .done (.error .canceled) }) ∨
    (e = .receiveLeave id ∧ t.receive? id = none) := by
  cases fate_of_moves owned.distinct (moves_of_step moved) id with
  | stays same => exact .inl (same.trans found)
  | arrives _ fresh => cases fresh.symm.trans found
  | changes there change here =>
    cases there.symm.trans found
    cases change with
    | wake _ phase ended =>
      cases phase.symm.trans waits
      exact .inr (.inl ⟨ended, here⟩)
    | cancel _ _ fired => exact .inr (.inr (.inl ⟨fired, here⟩))
    | conclude _ ends => exact absurd (owned_of_conclusion ends) (by simp [waits, ReceivePhase.owned?])
    | clear _ gives => exact absurd (owned_of_giveBack gives) (by simp [waits, ReceivePhase.owned?])
    | refuse _ h | handOut _ h | join _ h | giveUp _ h | begin _ h | call _ h | store _ h
    | signal _ h | bring _ h | fail h | collapse h | goOn h => cases h.symm.trans waits
  | leaves called _ gone => exact .inr (.inr (.inr ⟨called, gone⟩))
  | vanishes _ there signals =>
    cases there.symm.trans found
    cases signals.symm.trans waits

/-- Why a receive ends with an error: it looked and the subscription has this fault, its own token
has fired, or the round that it owned has failed with this error. -/
theorem error_next (owned : Owned s) (moved : s.step e = some t) {id : Nat} {c : Receive ε}
    {f : Fault ε} (now : t.receive? id = some c) (told : c.phase = .done (.error f)) :
    s.receive? id = some c ∨ (s.fault = some f ∧ ∃ d, s.receive? id = some d ∧ d.phase = .looking) ∨
      (f = .canceled ∧ fires s.fired c.token = true) ∨ ∃ r, told? (s, e) = some ⟨id, r, f⟩ := by
  have errs : c.phase.error? = some f := by rw [told]; rfl
  cases origin_of_moves owned.distinct (moves_of_step moved) now with
  | stays before => exact .inl before
  | arrives => cases told
  | @changes d next there change =>
    cases change with
    | refuse _ looks fault =>
      cases told
      exact .inr (.inl ⟨fault, d, there, looks⟩)
    | giveUp _ _ fired | cancel _ _ fired =>
      cases told
      exact .inr (.inr (.inl ⟨rfl, fired⟩))
    | @conclude r _ called ends =>
      cases called
      refine .inr (.inr (.inr ⟨r, ?_⟩))
      rw [told_eq there, untold, error_of_conclusion ends errs]
      rfl
    | @signal r _ _ called signals goes =>
      cases called
      cases error_of_sequel goes errs
      refine .inr (.inr (.inr ⟨r, ?_⟩))
      rw [told_eq there, untold, signals]
      rfl
    | _ => cases told

theorem told_next (owned : Owned s) (moved : s.step e = some t) {x : Failure ε}
    (tells : told? (s, e) = some x) :
    ∃ c, t.receive? x.id = some c ∧ c.phase = .done (.error x.fault) := by
  cases e with
  | receiveStep id =>
    obtain ⟨c, found, fails⟩ := Option.bind_eq_some_iff.mp tells
    obtain ⟨⟨r, f⟩, fails, rfl⟩ := Option.map_eq_some_iff.mp fails
    refine ⟨{ c with phase := .done (.error f) }, ?_, rfl⟩
    have now : (s.setReceive id (.done (.error f))).receive? id =
        some { c with phase := .done (.error f) } :=
      receive_set owned.distinct found (.done (.error f))
    cases phase : c.phase with
    | failing q g =>
      rw [phase] at fails
      cases fails
      simp only [State.step, found, State.moveReceive, phase, Option.bind_eq_bind, Option.bind_some,
        Option.some.injEq] at moved
      exact moved ▸ now
    | signalling q sequel =>
      rw [phase] at fails
      cases sequel with
      | failed g =>
        cases fails
        simp only [State.step, found, State.moveReceive, phase, Option.bind_eq_bind,
          Option.bind_some, Option.some.injEq] at moved
        exact moved ▸ now
      | _ => cases fails
    | _ =>
      rw [phase] at fails
      cases fails
  | _ => cases tells

/-- One receive's errors are not another's. A receive is told that it was canceled only where its own
token has fired, if the provider is honest. Each round that fails has one final error, and that is
returned by one receive, which owned the round; the round changes neither the queue nor the fault nor
the average. Who waited for it looks again, and whoever ends with an error has a reason of its own. An
error of the provider's after which no retry follows is the final error of its round. -/
theorem errors_stay_apart (provider : Provider ε) (replaced : Bool) (options : SubscriptionOptions)
    (es : List (Event ε)) (s : State ε)
    (reached : run State.step (.new provider replaced options) es = some s) :
    ((trace State.step (.new provider replaced options) es).all honest = true → DroppedLast es →
      ∀ id c, s.receive? id = some c → c.phase = .done (.error .canceled) →
        fires s.fired c.token = true) ∧
    ((answers provider replaced options es).map (·.round)).Nodup ∧
    ((answers provider replaced options es).filterMap Answer.failure?).Perm
      (told provider replaced options es ++ s.untold) ∧
    (∀ x ∈ trace State.step (.new provider replaced options) es, ∀ t, x.1.step x.2 = some t →
      (∀ a, answer? x = some a → (a.id, a.round) ∈ x.1.owners) ∧
      (∀ f, told? x = some f →
        ∃ c, t.receive? f.id = some c ∧ c.phase = .done (.error f.fault)) ∧
      ∀ a ∈ answers provider replaced options es, ∀ f, a.result = .error f →
        Serves x.1 x.2 t a.round →
          t.queue = x.1.queue ∧ t.fault = x.1.fault ∧ t.flow = x.1.flow) ∧
    (∀ e t, s.step e = some t → ∀ id c r, s.receive? id = some c → c.phase = .waiting r →
      t.receive? id = some c ∨
      (s.isOver r = true ∧ t.receive? id = some { c with phase := .looking }) ∨
      (fires s.fired c.token = true ∧
        t.receive? id = some { c with phase := .done (.error .canceled) }) ∨
      (e = .receiveLeave id ∧ t.receive? id = none)) ∧
    (∀ e t, s.step e = some t → ∀ id c f, t.receive? id = some c → c.phase = .done (.error f) →
      s.receive? id = some c ∨
      (s.fault = some f ∧ ∃ d, s.receive? id = some d ∧ d.phase = .looking) ∨
      (f = .canceled ∧ fires s.fired c.token = true) ∨ ∃ r, told? (s, e) = some ⟨id, r, f⟩) ∧
    (∀ id c r size call, s.receive? id = some c → c.phase = .fetching r size call →
      call.phase = .attempting → ∀ trouble,
        Outbox.Final provider options.retry (s.calls r - 1) (fires s.fired c.token) trouble →
          ∀ jitter, (s.step (.fetched id (.error trouble) jitter)).isSome = true ∧
            answer? (s, .fetched id (.error trouble) jitter) =
              some ⟨id, r, .error (provider.fault trouble)⟩) := by
  have owned := owned_of_run reached
  refine ⟨?_, (answered_of_run reached).once, failures_told reached, ?_, ?_, ?_, ?_⟩
  · intro fair last id c found told
    exact fired_of_canceled reached fair last found (by rw [told]; rfl)
  · intro x member t moved
    obtain ⟨before, after, _, ran⟩ := trace_reached member
    have alone := owned_of_run ran
    refine ⟨?_, fun f tells => told_next alone moved tells, ?_⟩
    · intro a brings
      obtain ⟨c, size, call, _, found, fetches, _⟩ := answer_cases alone moved brings
      rw [(owner_alone alone found (r := a.round) (by rw [fetches]; rfl)).1]
      exact List.mem_cons_self
    · intro a answered f failed serves
      exact failed_round_unseen reached answered failed member moved serves
  · intro e t moved id c r found waits
    exact waiting_next owned moved found waits
  · intro e t moved id c f now told
    exact error_next owned moved now told
  · intro id c r size call found fetches attempting trouble final jitter
    exact answer_of_final reached found fetches attempting final jitter

theorem droppedLast_of_absent (absent : .discard ∉ es) : DroppedLast es := by
  intro before after split
  exact absurd (split ▸ List.mem_append_right before List.mem_cons_self) absent

/-- The owner of a round is canceled while another receive waits; that one begins the next round, which
fails with an error of the provider's own. -/
def canceledThenLost : List (Event String) :=
  [.receive 1 (some "a"), .receive 2 none, .receiveStep 1, .receiveStep 1, .receiveStep 2,
    .fire "a", .fetched 1 (.error (.fault .canceled)) 0, .receiveClear 1, .receiveStep 1,
    .receiveStep 2, .receiveStep 2, .receiveStep 2, .fetched 2 (.error (.native "lost")) 0,
    .receiveStep 2]

theorem errors_stay_apart_canceled_then_lost :
    ∃ s : State String, run State.step (.new neverAgain false default) canceledThenLost = some s ∧
      s.receive? 1 = some ⟨some "a", .done (.error .canceled)⟩ ∧
      fires s.fired (some "a") = true ∧
      ((answers neverAgain false default canceledThenLost).filterMap Answer.failure?).Perm
        [⟨1, 0, .canceled⟩, ⟨2, 1, .provider .unknown "relay" "lost"⟩] := by
  have ran : ∃ s : State String,
      run State.step (.new neverAgain false default) canceledThenLost = some s ∧
      s.receive? 1 = some ⟨some "a", .done (.error .canceled)⟩ ∧ s.untold = [] ∧
      told neverAgain false default canceledThenLost =
        [⟨1, 0, .canceled⟩, ⟨2, 1, .provider .unknown "relay" "lost"⟩] :=
    ⟨_, rfl, rfl, rfl, rfl⟩
  have fair : (trace State.step (.new neverAgain false default) canceledThenLost).all honest = true :=
    by decide +kernel
  have last : DroppedLast canceledThenLost := droppedLast_of_absent (by simp [canceledThenLost])
  obtain ⟨s, reached, canceled, quiet, tells⟩ := ran
  have h := errors_stay_apart neverAgain false default canceledThenLost s reached
  obtain ⟨own, _, once, _⟩ := h
  rw [quiet, tells, List.append_nil] at once
  exact ⟨s, reached, canceled, own fair last 1 _ canceled rfl, once⟩

end Courier.Subscription
