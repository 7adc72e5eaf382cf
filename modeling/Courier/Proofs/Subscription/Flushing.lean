import Courier.Proofs.Subscription.Acknowledged

/-! What becomes of acknowledgements that fail. A shutdown that succeeds has seen every token out and
every batch answered. The first batch that fails ends the subscription, and receives are told so
until a shutdown begins; other failures, and failures from then on, are told to nobody. -/

namespace Courier.Subscription

variable {ε : Type} {s t : State ε} {e : Event ε} {provider : Provider ε} {replaced : Bool}
  {options : SubscriptionOptions} {es : List (Event ε)} {os : List (Outbox.Event AckId ε)}
  {bs : List (Batcher.Event AckId ε)}

/-- The event marks the subscription as closed. -/
def closes (x : State ε × Event ε) : Bool :=
  match x.2 with
  | .shutdownStep id => (x.1.shutdown? id).any fun c => match c.phase with
    | .begun => true
    | _ => false
  | _ => false

theorem closes_begun {id : Nat} {c : Closing.Call ε} (found : s.shutdown? id = some c)
    (begun : c.phase = .begun) : closes (s, .shutdownStep id) = true := by
  simp [closes, found, begun]

theorem closes_later {id : Nat} {c : Closing.Call ε} (found : s.shutdown? id = some c)
    (past : c.phase ≠ .begun) : closes (s, .shutdownStep id) = false := by
  cases phase : c.phase with
  | begun => exact absurd phase past
  | _ => simp [closes, found, phase]

/-- What a step does to the fault: it closes the subscription, fails it, or leaves it alone. -/
theorem fault_of_moves (moved : AckMoves s e os t) : t.fault =
    if closes (s, e) then some closedFault else s.fault.or ((s.ending? e).bind failure?) := by
  have kept : closes (s, e) = false → s.ending? e = none → t.fault = s.fault → t.fault =
      if closes (s, e) then some closedFault else s.fault.or ((s.ending? e).bind failure?) := by
    intro open_still going same
    rw [open_still, going, same]
    simp
  cases moved with
  | apart own same =>
    refine kept ?_ ?_ same.fault
    · cases e <;> first | rfl | cases own
    · cases e <;> first | rfl | cases own
  | outer passed =>
    have open_still : closes (s, e) = false := by cases e <;> cases passed <;> rfl
    rw [open_still]
    rfl
  | @close _ id c _ _ phase fault found own moved begins keeps =>
    -- Only the first moment of a closing call sets the fault, and whatever was there is lost.
    by_cases begun : c.phase = .begun
    · rcases own with rfl | ⟨rfl, past⟩
      · rw [closes_begun found begun]
        exact begins begun
      · exact absurd begun past
    · refine kept ?_ ?_ (keeps begun)
      · rcases own with rfl | ⟨rfl, _⟩
        · exact closes_later found begun
        · rfl
      · rcases own with rfl | ⟨rfl, _⟩ <;> rfl
  | _ => exact kept rfl rfl rfl

/-- The first failure stays until the subscription is closed, which stays for good. -/
theorem fault_of_run (reached : run State.step (.new provider replaced options) es = some s) :
    s.fault = if (trace State.step (.new provider replaced options) es).any closes
      then some closedFault
      else ((endings provider replaced options es).filterMap failure?).head? := by
  refine run_invariant (P := fun es s => s.fault =
    if (trace State.step (.new provider replaced options) es).any closes then some closedFault
    else ((endings provider replaced options es).filterMap failure?).head?) rfl ?_ reached
  intro es s e t ran slot moved
  obtain ⟨os, moves⟩ := ackMoves_of_step moved
  have ended : endings provider replaced options (es ++ [e]) =
      endings provider replaced options es ++ (s.ending? e).toList := by
    rw [endings, trace_snoc ran moved, filterMap_concat, endings]
  rw [fault_of_moves moves, slot, ended, trace_snoc ran moved, List.any_append,
    List.filterMap_append, List.head?_append]
  cases (trace State.step (.new provider replaced options) es).any closes with
  | true => cases closes (s, e) <;> simp
  | false =>
    cases closing : closes (s, e) with
    | true => simp [closing]
    | false =>
      cases ending : s.ending? e with
      | none => simp [closing]
      | some how => cases failed : failure? how <;> simp [closing, failed]

theorem settled_of_reached (reached : Reached provider replaced options es os bs s) :
    Closing.Settled closedFault s.fault s.fired s.shutdowns s.outbox.batcher := by
  induction reached with
  | start =>
    exact ⟨List.nodup_nil, by simp [State.new],
      by simp [State.new, Outbox.State.new, Batcher.State.new], by simp [State.new],
      by simp [State.new]⟩
  | @next es os more bs inner s t e before moved _ ih =>
    have closed : s.fault = some closedFault → t.fault = some closedFault := by
      intro marked
      rw [fault_of_moves moved, marked]
      cases closes (s, e) <;> simp
    cases moved with
    | apart _ same => rw [same.shutdowns, same.fired, same.fault, same.outbox]; exact ih
    | submit _ _ moved => exact ih.outbox before.outbox moved (by simp)
    | outer passed stepped =>
      -- The fault may be a new one, but no call to close is concerned.
      have aside := ih.outbox before.outbox stepped (by cases e <;> cases passed <;> simp)
      exact aside.aside aside.distinct (fun _ => .inl) closed (List.Subset.refl _)
        (fun shut => shut) fun drained => drained
    | close found own moved begins keeps => exact ih.move before.outbox found moved begins closed
    | enter id token fresh => exact ih.enter token fresh
    | @forget id _ moved => exact (ih.outbox before.outbox moved (by simp)).forget id
    | fire token => exact ih.fire token
    | _ => exact ih

/-- A batcher with nothing left has handed out all that it accepted, and each batch has ended. -/
theorem flushed_of_drained (reached : Reached provider replaced options es os bs s)
    (drained : Batcher.Drained s.outbox.batcher) :
    (s.outbox.attempts.filter (·.first)).flatMap (·.items) =
        s.outbox.batcher.accepted.map (·.item) ∧
      ∀ a ∈ s.outbox.attempts, a.number < (Outbox.endingsIn bs).length := by
  have idle := Outbox.idle_of_drained reached.outbox drained
  constructor
  · have conserved := Outbox.conserved reached.outbox
    have hands := Outbox.hands reached.outbox
    rw [idle, eq_comm, List.append_eq_nil_iff] at hands
    rw [hands.1, drained.empty] at conserved
    simpa using conserved
  · intro a member
    obtain ⟨b, taken, _⟩ := (Outbox.passed_of_reached reached.outbox).carried a member
    have ended := (Outbox.inTurn_of_reached reached.outbox).counted
    rw [idle, List.length_nil, Nat.add_zero] at ended
    exact ended ▸ (List.getElem?_eq_some_iff.mp taken).1

/-- An error after which no retry follows is the fault from then on, unless there is one already. -/
theorem fault_of_final (reached : run State.step (.new provider replaced options) es = some s)
    {d : Outbox.Delivery AckId ε} (delivery : s.outbox.delivery = some d)
    (attempting : d.call.phase = .attempting) {trouble : Trouble ε}
    (final : Outbox.Final provider options.retry (Outbox.retries s.outbox.attempts d.number)
      s.outbox.stopped trouble) (jitter : Binary64) :
    ∃ u, s.step (.ackReturned (.error trouble) jitter) = some u ∧
      u.fault = some (s.fault.getD (provider.fault trouble)) := by
  obtain ⟨os, bs, ran, _⟩ := reached_of_run reached
  obtain ⟨settles, o, moved, _⟩ :=
    Outbox.settles_of_final ran.outbox delivery attempting final jitter
  refine ⟨_, by simp [State.step, State.moveAcks, State.passOn, moved]; rfl, ?_⟩
  rw [settles, recordFailure_eq]
  cases s.fault <;> rfl

/-- Under a fault a look does nothing but tell it. -/
theorem step_of_fault {id : Nat} {c : Receive ε} {f : Fault ε} (found : s.receive? id = some c)
    (looking : c.phase = .looking) (failed : s.fault = some f) :
    s.step (.receiveStep id) = some (s.setReceive id (.done (.error f))) := by
  simp [State.step, found, State.moveReceive, looking, State.look, failed]

theorem told_of_look (distinct : (s.receives.map (·.1)).Nodup) {id : Nat} {c : Receive ε}
    {f : Fault ε} (found : s.receive? id = some c) (looking : c.phase = .looking)
    (failed : s.fault = some f) : ∃ t, s.step (.receiveStep id) = some t ∧
      t.receive? id = some { c with phase := .done (.error f) } :=
  ⟨_, step_of_fault found looking failed, receive_set distinct found _⟩

/-- A shutdown that succeeds has seen every token out and the end of every batch, and each batch ends
as the last answer for it says. Only the first failure is made the fault of the subscription, of which
every receive that looks is told, and only until a shutdown begins. -/
theorem flushed_and_told (provider : Provider ε) (replaced : Bool) (options : SubscriptionOptions)
    (es : List (Event ε)) (s : State ε)
    (reached : run State.step (.new provider replaced options) es = some s) :
    (∀ id c, s.shutdown? id = some c → c.phase = .done (.ok ()) →
      (replaced = false → (s.outbox.attempts.filter (·.first)).flatMap (·.items) =
        tokens (acks provider replaced options es)) ∧
      ∀ a ∈ s.outbox.attempts, a.number < (endings provider replaced options es).length) ∧
    (∀ n how, (endings provider replaced options es)[n]? = some how →
      ∃ r, Outbox.LastReply s.outbox.attempts (replies es) n r ∧
        Outbox.Means provider options.retry (Outbox.retries s.outbox.attempts n) r how) ∧
    (s.fault = if (trace State.step (.new provider replaced options) es).any closes
      then some closedFault
      else ((endings provider replaced options es).filterMap failure?).head?) ∧
    (∀ id c f, s.receive? id = some c → c.phase = .looking → s.fault = some f →
      ∃ t, s.step (.receiveStep id) = some t ∧
        t.receive? id = some { c with phase := .done (.error f) }) := by
  have tally := tally_of_run reached
  have distinct := (owned_of_run reached).distinct
  have slot := fault_of_run reached
  obtain ⟨os, bs, reached, ended⟩ := reached_of_run reached
  have kept := replaced_kept reached
  rw [← ended] at slot ⊢
  refine ⟨?_, ?_, slot, ?_⟩
  · intro id c found done
    have drained := (settled_of_reached reached).done (id, c) (call_member found) done
    obtain ⟨flushed, numbers⟩ := flushed_of_drained reached drained
    exact ⟨fun batched => flushed.trans (tally.sent (kept.trans batched)), numbers⟩
  · intro n how ending
    rw [← replies_eq reached]
    exact Outbox.ending_answered reached.outbox ending
  · intro id c f found looking failed
    exact told_of_look distinct found looking failed

/-- The first of two batches is rejected, and the next receive is told so. -/
def rejectedFirst : List (Event String) :=
  [.receive 1 none, .receiveStep 1, .receiveStep 1, .fetched 1 (.ok [parcel 0, parcel 1]) 0,
    .receiveStep 1, .receiveStep 1, .receiveStep 1, .receive 2 none, .receiveStep 2,
    .ack 0 (.ofSecs 1) true, .ackLook, .ackCall, .ackReturned (.error (.native "rejected")) 0,
    .receive 3 none, .receiveStep 3, .ack 1 (.ofSecs 1) true, .ackLook, .ackCall,
    .ackReturned (.ok ()) 0, .shutdown 9 none, .shutdownStep 9, .shutdownStep 9, .ackLook,
    .shutdownStep 9, .shutdownStep 9, .shutdownStep 9, .receive 4 none]

theorem flushed_and_told_rejected_first :
    ∃ s : State String, run State.step (.new neverAgain false default) rejectedFirst = some s ∧
      (s.outbox.attempts.filter (·.first)).flatMap (·.items) = [.number 0, .number 1] ∧
      s.receive? 3 = some ⟨none, .done (.error (.provider .unknown "relay" "rejected"))⟩ ∧
      s.shutdown? 9 = some ⟨none, .done (.ok ())⟩ ∧ s.fault = some closedFault ∧
      (∃ r, Outbox.LastReply s.outbox.attempts (replies rejectedFirst) 0 r ∧
        Outbox.Means neverAgain (default : SubscriptionOptions).retry
          (Outbox.retries s.outbox.attempts 0) r
          (.returned (.error (.provider .unknown "relay" "rejected")))) ∧
      ∃ t, s.step (.receiveStep 4) = some t ∧
        t.receive? 4 = some ⟨none, .done (.error closedFault)⟩ := by
  have ran : ∃ s : State String, run State.step (.new neverAgain false default) rejectedFirst = some s ∧
      s.receive? 3 = some ⟨none, .done (.error (.provider .unknown "relay" "rejected"))⟩ ∧
      s.receive? 4 = some ⟨none, .looking⟩ ∧ s.shutdown? 9 = some ⟨none, .done (.ok ())⟩ ∧
      s.fault = some closedFault := ⟨_, rfl, rfl, rfl, rfl, rfl⟩
  have submitted : tokens (acks neverAgain false default rejectedFirst) = [.number 0, .number 1] := by
    decide +kernel
  have ended : (endings neverAgain false default rejectedFirst)[0]? =
      some (.returned (.error (.provider .unknown "relay" "rejected"))) := rfl
  obtain ⟨s, reached, told, looking, closing, closed⟩ := ran
  have h := flushed_and_told neverAgain false default rejectedFirst s reached
  obtain ⟨flushed, answered, _, tells⟩ := h
  exact ⟨s, reached, ((flushed 9 _ closing rfl).1 rfl).trans submitted, told, closing, closed,
    answered 0 _ ended, tells 4 _ _ looking rfl closed⟩

/-- The only batch is rejected, and the shutdown succeeds before anyone receives. -/
def rejectedBeforeShutdown : List (Event String) :=
  [.receive 1 none, .receiveStep 1, .receiveStep 1, .fetched 1 (.ok [parcel 0]) 0, .receiveStep 1,
    .receiveStep 1, .receiveStep 1, .ack 0 (.ofSecs 1) true, .ackLook, .ackCall,
    .ackReturned (.error (.native "rejected")) 0, .ackLook, .shutdown 2 none, .shutdownStep 2,
    .shutdownStep 2, .shutdownStep 2, .shutdownStep 2, .shutdownStep 2]

/-- Not every failure has been told when a shutdown succeeds, not even as some error of a receive. -/
theorem rejection_swallowed :
    ¬ ∀ (provider : Provider String) (options : SubscriptionOptions) (es : List (Event String))
      (s : State String), run State.step (.new provider false options) es = some s →
      ∀ xs ys id token, es = xs ++ .shutdown id token :: ys →
        ∀ c, s.shutdown? id = some c → c.phase = .done (.ok ()) →
          ∀ ackId ∈ tokens (acks provider false options xs),
            (∃ (i : Nat) (a : Outbox.Attempt AckId), s.outbox.attempts[i]? = some a ∧
              ackId ∈ a.items ∧ (replies es)[i]? = some (.returned (.ok ()))) ∨
            ∃ receiver r f, s.receive? receiver = some r ∧ r.phase = .done (.error f) := by
  intro claim
  have ran : ∃ s : State String,
      run State.step (.new neverAgain false default) rejectedBeforeShutdown = some s ∧
      s.shutdown? 2 = some ⟨none, .done (.ok ())⟩ ∧
      s.receives = [(1, ⟨none, .done (.ok ⟨0, parcel 0⟩)⟩)] := ⟨_, rfl, rfl, rfl⟩
  have submitted : AckId.number 0 ∈
      tokens (acks neverAgain false default (rejectedBeforeShutdown.take 12)) := by
    decide +kernel
  obtain ⟨s, reached, closing, receives⟩ := ran
  -- The only call was rejected, and the only receive got its message.
  rcases claim neverAgain default rejectedBeforeShutdown s reached (rejectedBeforeShutdown.take 12) _ 2
    none rfl _ closing rfl _ submitted with ⟨i, _, _, _, reply⟩ | ⟨receiver, r, f, found, failed⟩
  · have only : replies rejectedBeforeShutdown = [.returned (.error (.native "rejected"))] := rfl
    rw [only] at reply
    have answer := List.mem_singleton.mp (List.mem_of_getElem? reply)
    cases answer
  · have member := call_member found
    rw [receives, List.mem_singleton] at member
    cases member
    cases failed

end Courier.Subscription
