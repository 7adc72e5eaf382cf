import Courier.Proofs.Subscription.Flushing

/-! The permanent fault of a subscription. The first batch of acknowledgements that fails with an error
sets it, a shutdown replaces it for good, and nothing ever takes it away. Once it is set, receives hear
of it and get nothing else. -/

namespace Courier.Subscription

variable {ε : Type} {s t : State ε} {e : Event ε} {provider : Provider ε} {replaced : Bool}
  {options : SubscriptionOptions} {es fs : List (Event ε)}

/-- The first batch that ended with an error ended with `f`, which wraps what the provider answered
its last call with. A batch that broke off has no error. -/
def FailsFirst (provider : Provider ε) (endings : List (Ending ε)) (replies : List (Outbox.Reply ε))
    (attempts : List (Outbox.Attempt AckId)) (f : Fault ε) : Prop :=
  ∃ before after t, endings = before ++ .returned (.error f) :: after ∧
    (∀ how ∈ before, ∀ g, how ≠ .returned (.error g)) ∧
    Outbox.LastReply attempts replies before.length (.returned (.error t)) ∧ f = provider.fault t

theorem failure_iff {how : Ending ε} {f : Fault ε} :
    failure? how = some f ↔ how = .returned (.error f) := by
  cases how with
  | panicked => simp [failure?]
  | returned outcome => cases outcome <;> simp [failure?]

theorem sound_iff {how : Ending ε} :
    failure? how = none ↔ ∀ g, how ≠ .returned (.error g) := by
  simp only [Option.eq_none_iff_forall_ne_some, ne_eq, failure_iff]

theorem first_failure {endings : List (Ending ε)} {f : Fault ε} :
    (endings.filterMap failure?).head? = some f ↔ ∃ before after,
      endings = before ++ .returned (.error f) :: after ∧
        ∀ how ∈ before, ∀ g, how ≠ .returned (.error g) := by
  rw [List.head?_filterMap, List.findSome?_eq_some_iff]
  simp only [failure_iff, sound_iff]
  constructor
  · rintro ⟨before, how, after, split, rfl, sound⟩
    exact ⟨before, after, split, sound⟩
  · rintro ⟨before, after, split, sound⟩
    exact ⟨before, _, after, split, rfl, sound⟩

/-- The batch that failed so had this answer to its last call. -/
theorem failed_reply (reached : run State.step (.new provider replaced options) es = some s)
    {before after : List (Ending ε)} {f : Fault ε}
    (split : endings provider replaced options es = before ++ .returned (.error f) :: after) :
    ∃ t, Outbox.LastReply s.outbox.attempts (replies es) before.length (.returned (.error t)) ∧
      f = provider.fault t := by
  obtain ⟨os, bs, reached, ended⟩ := reached_of_run reached
  have here : (Outbox.endingsIn bs)[before.length]? = some (.returned (.error f)) := by
    rw [ended, split, List.getElem?_append_right (Nat.le_refl _), Nat.sub_self]
    rfl
  obtain ⟨r, last, means⟩ := Outbox.ending_answered reached.outbox here
  obtain ⟨t, rfl, wrapped⟩ := Outbox.error_of_means means
  exact ⟨t, replies_eq reached ▸ last, wrapped.symm⟩

theorem ending_of_final (reached : run State.step (.new provider replaced options) es = some s)
    {n : Nat} {how : Ending ε} (ended : (endings provider replaced options es)[n]? = some how)
    {trouble : Trouble ε}
    (last : Outbox.LastReply s.outbox.attempts (replies es) n (.returned (.error trouble)))
    (final : Outbox.Final provider options.retry (Outbox.retries s.outbox.attempts n) false trouble) :
    how = .returned (.error (provider.fault trouble)) := by
  obtain ⟨os, bs, reached, same⟩ := reached_of_run reached
  rw [← replies_eq reached] at last
  exact Outbox.ending_of_final reached.outbox (same ▸ ended) last final

/-- What is set is replaced by nothing but the end of the subscription. -/
theorem fault_later {f : Fault ε} (failed : s.fault = some f) (ran : run State.step s fs = some t) :
    t.fault = some (if (trace State.step s fs).any closes then closedFault else f) := by
  induction fs generalizing s f with
  | nil =>
    cases Option.some.inj ran
    exact failed
  | cons e fs ih =>
    obtain ⟨u, stepped, rest⟩ := Option.bind_eq_some_iff.mp ran
    obtain ⟨os, moved⟩ := ackMoves_of_step stepped
    have next := fault_of_moves moved
    rw [failed, Option.some_or] at next
    rw [trace, stepped, List.any_cons]
    cases closing : closes (s, e) with
    | false =>
      rw [closing] at next
      rw [ih next rest, Bool.false_or]
    | true =>
      rw [closing] at next
      rw [ih next rest, Bool.true_or, if_pos rfl, ite_self]

/-- Under a fault no receive is handed a message, and none begins a round. -/
theorem idle_of_fault {f : Fault ε} (failed : s.fault = some f) (moved : Moves s e t) :
    t.handedOut = s.handedOut ∧ t.rounds.length = s.rounds.length := by
  cases moved with
  | aside same => exact ⟨same.handedOut, congrArg List.length same.rounds⟩
  | handOut _ _ sound =>
    rw [failed] at sound
    cases sound
  | begin _ _ sound =>
    rw [failed] at sound
    cases sound
  | conclude => exact ⟨rfl, List.length_modify _ _ _⟩
  | abandon => exact ⟨rfl, List.length_modify _ _ _⟩
  | signal => exact ⟨rfl, List.length_modify _ _ _⟩
  | vanish => exact ⟨rfl, List.length_modify _ _ _⟩
  | _ => exact ⟨rfl, rfl⟩

theorem idle_later {f : Fault ε} (failed : s.fault = some f) (ran : run State.step s fs = some t) :
    t.handedOut = s.handedOut ∧ t.rounds.length = s.rounds.length := by
  induction fs generalizing s f with
  | nil =>
    cases Option.some.inj ran
    exact ⟨rfl, rfl⟩
  | cons e fs ih =>
    obtain ⟨u, stepped, rest⟩ := Option.bind_eq_some_iff.mp ran
    obtain ⟨os, moved⟩ := ackMoves_of_step stepped
    obtain ⟨handedOut, rounds⟩ := idle_of_fault failed (moves_of_step stepped)
    have next := fault_of_moves moved
    rw [failed, Option.some_or, ← apply_ite] at next
    obtain ⟨later, more⟩ := ih next rest
    exact ⟨later.trans handedOut, more.trans rounds⟩

/-- A fault that is set stays until the subscription is closed, and closed it stays. Before that it is
the error of the first batch of acknowledgements that failed with one, and a batch fails so with every
error after which no retry follows. A receive that looks while the fault is set is told of it, and neither
takes a message nor begins a round, whatever is queued. -/
theorem fault_for_good (provider : Provider ε) (replaced : Bool) (options : SubscriptionOptions)
    (es : List (Event ε)) (s : State ε)
    (reached : run State.step (.new provider replaced options) es = some s) :
    (∀ f, s.fault = some f → ∀ fs t, run State.step s fs = some t →
      t.fault = some (if (trace State.step s fs).any closes then closedFault else f) ∧
        t.handedOut = s.handedOut ∧ t.rounds.length = s.rounds.length) ∧
    ((trace State.step (.new provider replaced options) es).any closes = false →
      ∀ f, s.fault = some f ↔ FailsFirst provider (endings provider replaced options es) (replies es)
        s.outbox.attempts f) ∧
    ((trace State.step (.new provider replaced options) es).any closes = true →
      s.fault = some (.canonical .failedPrecondition "Subscription closed")) ∧
    (∀ id c f, s.receive? id = some c → c.phase = .looking → s.fault = some f →
      s.step (.receiveStep id) = some (s.setReceive id (.done (.error f))) ∧
        (s.setReceive id (.done (.error f))).receive? id =
          some { c with phase := .done (.error f) }) ∧
    (∀ n how trouble, (endings provider replaced options es)[n]? = some how →
      Outbox.LastReply s.outbox.attempts (replies es) n (.returned (.error trouble)) →
      Outbox.Final provider options.retry (Outbox.retries s.outbox.attempts n) false trouble →
        how = .returned (.error (provider.fault trouble))) ∧
    (∀ d, s.outbox.delivery = some d → d.call.phase = .attempting → ∀ trouble,
      Outbox.Final provider options.retry (Outbox.retries s.outbox.attempts d.number)
        s.outbox.stopped trouble → ∀ jitter,
          ∃ u, s.step (.ackReturned (.error trouble) jitter) = some u ∧
            u.fault = some (s.fault.getD (provider.fault trouble))) := by
  have distinct := (owned_of_run reached).distinct
  have slot := fault_of_run reached
  refine ⟨?_, ?_, ?_, ?_, ?_, ?_⟩
  · intro f failed fs t ran
    exact ⟨fault_later failed ran, idle_later failed ran⟩
  · intro sound f
    rw [slot, sound, if_neg Bool.false_ne_true, first_failure]
    constructor
    · rintro ⟨before, after, split, earlier⟩
      obtain ⟨t, last, wrapped⟩ := failed_reply reached split
      exact ⟨before, after, t, split, earlier, last, wrapped⟩
    · rintro ⟨before, after, t, split, earlier, _⟩
      exact ⟨before, after, split, earlier⟩
  · intro closed
    rw [slot, closed, if_pos rfl]
    rfl
  · intro id c f found looking failed
    exact ⟨step_of_fault found looking failed, receive_set distinct found _⟩
  · intro n how trouble ended last final
    exact ending_of_final reached ended last final
  · intro d delivery attempting trouble final jitter
    exact fault_of_final reached delivery attempting final jitter

/-- The first batch breaks off, the next two are rejected and one more is on its way. Then a receive
looks whose token has fired, while a message is still queued. -/
def fourBatches : List (Event String) :=
  [.receive 1 none, .receiveStep 1, .receiveStep 1,
    .fetched 1 (.ok [parcel 0, parcel 1, parcel 2, parcel 3, parcel 4]) 0, .receiveStep 1,
    .receiveStep 1, .receiveStep 1, .receive 2 none, .receiveStep 2, .receive 3 none,
    .receiveStep 3, .receive 4 none, .receiveStep 4, .ack 0 (.ofSecs 1) true, .ackLook, .ackCall,
    .ackBroke, .ack 1 (.ofSecs 1) true, .ackLook, .ackCall,
    .ackReturned (.error (.native "rejected")) 0, .ack 2 (.ofSecs 1) true, .ackLook, .ackCall,
    .ackReturned (.error (.native "again")) 0, .ack 3 (.ofSecs 1) true, .ackLook, .ackCall,
    .fire "t", .receive 5 (some "t")]

/-- The receive looks, a shutdown begins, and the batch that was on its way is rejected too. -/
def rejectedLate : List (Event String) :=
  [.receiveStep 5, .shutdown 9 none, .shutdownStep 9, .ackReturned (.error (.native "late")) 0]

theorem fault_for_good_four_batches :
    ∃ s t : State String, run State.step (.new neverAgain false default) fourBatches = some s ∧
      s.queue = [⟨4, parcel 4⟩] ∧
      FailsFirst neverAgain (endings neverAgain false default fourBatches) (replies fourBatches)
        s.outbox.attempts (.provider .unknown "relay" "rejected") ∧
      (∃ u, s.step (.receiveStep 5) = some u ∧ u.receive? 5 =
        some ⟨some "t", .done (.error (.provider .unknown "relay" "rejected"))⟩) ∧
      run State.step s rejectedLate = some t ∧ t.fault = some closedFault ∧
      t.handedOut = s.handedOut := by
  have ran : ∃ s t : State String,
      run State.step (.new neverAgain false default) fourBatches = some s ∧
      s.queue = [⟨4, parcel 4⟩] ∧ s.fault = some (.provider .unknown "relay" "rejected") ∧
      s.receive? 5 = some ⟨some "t", .looking⟩ ∧ run State.step s rejectedLate = some t ∧
      (trace State.step s rejectedLate).any closes = true := ⟨_, _, rfl, rfl, rfl, rfl, rfl, rfl⟩
  have not_closed :
      (trace State.step (.new neverAgain false default) fourBatches).any closes = false := by
    decide +kernel
  obtain ⟨s, t, reached, queue, failed, looking, later, closed⟩ := ran
  have h := fault_for_good neverAgain false default fourBatches s reached
  obtain ⟨stays, first, _, tells, _⟩ := h
  obtain ⟨fault, handedOut, _⟩ := stays _ failed rejectedLate t later
  rw [closed, if_pos rfl] at fault
  exact ⟨s, t, reached, queue, (first not_closed _).mp failed, ⟨_, tells 5 _ _ looking rfl failed⟩,
    later, fault, handedOut⟩

end Courier.Subscription
