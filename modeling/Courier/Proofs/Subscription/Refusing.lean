import Courier.Proofs.Graceful

/-! When acknowledgements are refused. A shutdown that waits makes the batcher take nothing more with
its first look at it. One whose token has fired by then may return without that look, and leaves the
batcher open; what goes out after its return goes out with the subscription's own token fired. -/

namespace Courier.Outbox

variable {α ε : Type} {s t : State α ε} {e : Event α ε} {es : List (Event α ε)}

theorem closed_next {b d : Batcher.State α ε} {inner : Batcher.Event α ε} (shut : b.shut = true)
    (moved : b.step inner = some d) : d.shut = true ∧ d.accepted = b.accepted := by
  cases Batcher.moves_of_step moved with
  | start _ accepting => simp [shut] at accepting
  | queue _ accepting => simp [shut] at accepting
  | drain _ _ _ _ kept => exact ⟨kept shut, rfl⟩
  | _ => exact ⟨shut, rfl⟩

/-- What lies ahead of an outbox that takes nothing more, and of one whose token has fired. -/
structure Onward (s t : State α ε) : Prop where
  closed : s.batcher.shut = true →
    t.batcher.shut = true ∧ t.batcher.accepted = s.batcher.accepted
  stopped : s.stopped = true → t.stopped = true
  later : ∃ more, t.attempts = s.attempts ++ more ∧
    (s.stopped = true → ∀ a ∈ more, a.stopped = true)

theorem Onward.refl (s : State α ε) : Onward s s :=
  ⟨fun shut => ⟨shut, rfl⟩, fun stopped => stopped, [], by simp, by simp⟩

theorem Onward.trans {u : State α ε} (first : Onward s t) (second : Onward t u) : Onward s u := by
  obtain ⟨more, grown, seen⟩ := first.later
  obtain ⟨rest, again, last⟩ := second.later
  refine ⟨?_, fun stopped => second.stopped (first.stopped stopped), more ++ rest, ?_, ?_⟩
  · intro shut
    obtain ⟨still, accepted⟩ := first.closed shut
    obtain ⟨shut_last, same⟩ := second.closed still
    exact ⟨shut_last, same.trans accepted⟩
  · rw [again, grown, List.append_assoc]
  · intro stopped a member
    rcases List.mem_append.mp member with old | new
    · exact seen stopped a old
    · exact last (first.stopped stopped) a new

theorem onward_of_step (stepped : s.step e = some t) : Onward s t := by
  have same : ∀ {a : List (Attempt α)}, a = s.attempts → ∃ more, a = s.attempts ++ more ∧
      (s.stopped = true → ∀ a ∈ more, a.stopped = true) := by
    rintro a rfl
    exact ⟨[], by simp, by simp⟩
  obtain ⟨more, moved⟩ := moves_of_step stepped
  cases moved with
  | pass _ moved => exact ⟨fun shut => closed_next shut moved, fun stopped => stopped, same rfl⟩
  | look moved => exact ⟨fun shut => closed_next shut moved, fun stopped => stopped, same rfl⟩
  | settle _ _ moved => exact ⟨fun shut => closed_next shut moved, fun stopped => stopped, same rfl⟩
  | call => exact ⟨fun shut => ⟨shut, rfl⟩, fun stopped => stopped, _, rfl, by simp⟩
  | retry => exact ⟨fun shut => ⟨shut, rfl⟩, fun stopped => stopped, _, rfl, by simp⟩
  | pause => exact ⟨fun shut => ⟨shut, rfl⟩, fun stopped => stopped, same rfl⟩
  | stop => exact ⟨fun shut => ⟨shut, rfl⟩, fun _ => rfl, same rfl⟩

theorem onward_of_run (ran : run State.step s es = some t) : Onward s t := by
  induction es generalizing s with
  | nil => exact Option.some.inj ran ▸ .refl s
  | cons e es ih =>
    obtain ⟨u, stepped, rest⟩ := Option.bind_eq_some_iff.mp ran
    exact (onward_of_step stepped).trans (ih rest)

theorem shut_eq (stepped : s.step e = some t) (other : ∀ id, e ≠ .drain id .look) :
    t.batcher.shut = s.batcher.shut := by
  obtain ⟨more, moved⟩ := moves_of_step stepped
  rw [Bool.eq_iff_iff]
  constructor
  · intro shut
    rcases shut_kept moved shut with before | ⟨id, look⟩
    · exact before
    · exact absurd look (other id)
  · exact fun shut => ((onward_of_step stepped).closed shut).1

end Courier.Outbox

namespace Courier.Closing

variable {α ε σ ι : Type} {o p : Outbox.State α ε} {fired : List Token} {id : Nat} {c : Call ε}
  {phase : Phase ε} {f g : Front α ε} {signal : Signal} {os : List (Outbox.Event α ε)}

/-- The next moment of the call is a look at the batcher. -/
def looks (o : Outbox.State α ε) (id : Nat) (c : Call ε) : Bool :=
  match c.phase, o.batcher.drain? id with
  | .draining, some (.looking _) => true
  | _, _ => false

theorem shut_of_advance (moved : advance o fired id c = some (p, phase)) :
    p.batcher.shut = (o.batcher.shut || looks o id c) := by
  unfold advance at moved
  split at moved
  · rename_i begun
    cases Option.some.inj moved
    simp [looks, begun]
  · rename_i closed
    obtain ⟨q, stepped, same⟩ := Option.map_eq_some_iff.mp moved
    cases same
    rw [Outbox.shut_eq stepped (by simp)]
    simp [looks, closed]
  · rename_i draining
    split at moved
    · rename_i woken found
      obtain ⟨q, stepped, same⟩ := Option.map_eq_some_iff.mp moved
      cases same
      -- A look that succeeds sets the mark.
      obtain ⟨b, looked, rfl⟩ := Option.map_eq_some_iff.mp stepped
      simp only [Batcher.State.step, Batcher.State.moveDrain, found] at looked
      cases Option.some.inj looked
      simp [looks, draining, found, Batcher.State.setDrain]
    · rename_i found
      obtain ⟨q, stepped, same⟩ := Option.map_eq_some_iff.mp moved
      cases same
      rw [Outbox.shut_eq stepped (by simp)]
      simp [looks, draining, found]
    · rename_i found
      cases Option.some.inj moved
      simp [looks, draining, found]
    · contradiction
  · rename_i leaving
    obtain ⟨q, stepped, same⟩ := Option.map_eq_some_iff.mp moved
    cases same
    rw [Outbox.shut_eq stepped (by simp)]
    simp [looks, leaving]
  · contradiction

theorem shut_of_cancel (moved : cancel o fired id c = some (p, phase)) :
    p.batcher.shut = o.batcher.shut := by
  unfold cancel at moved
  split at moved
  · split at moved
    · cases Option.some.inj moved
      rfl
    · obtain ⟨q, stepped, same⟩ := Option.map_eq_some_iff.mp moved
      cases same
      exact Outbox.shut_eq stepped (by simp)
    · contradiction
  · contradiction

/-- A call that has returned has made the handle's own token fire, and fails only if its token has. -/
def Returned (f : Front α ε) : Prop :=
  ∀ x ∈ f.calls, ∀ outcome, x.2.phase = .done outcome → f.outbox.stopped = true ∧
    (outcome = .ok () ∨ outcome = .error .canceled ∧ fires f.fired x.2.token = true)

theorem Returned.aside (returned : Returned f)
    (old : ∀ x ∈ g.calls, x ∈ f.calls ∨ x.2.phase = .begun) (more : f.fired ⊆ g.fired)
    (onward : Outbox.Onward f.outbox g.outbox) : Returned g := by
  intro x member outcome done
  rcases old x member with before | begun
  · obtain ⟨stopped, answer⟩ := returned x before outcome done
    refine ⟨onward.stopped stopped, ?_⟩
    exact answer.imp_right fun ⟨gaveUp, cut⟩ => ⟨gaveUp, fires_later more cut⟩
  · rw [begun] at done
    cases done

theorem Returned.next (returned : Returned f) (distinct : (f.calls.map (·.1)).Nodup)
    (moved : Steps f signal os g) : Returned g := by
  have onward := Outbox.onward_of_run moved.outbox
  cases moved with
  | enter id token =>
    refine returned.aside ?_ (List.Subset.refl _) onward
    intro x member
    rcases List.mem_append.mp member with old | new
    · exact .inl old
    · cases List.mem_singleton.mp new
      exact .inr rfl
  | @close id c os o phase found moments =>
    intro x member outcome done
    rcases update_cases distinct found (f := fun y => { y with phase := phase }) member with
      ⟨old, _⟩ | rfl
    · obtain ⟨stopped, answer⟩ := returned x old outcome done
      exact ⟨onward.stopped stopped, answer⟩
    · -- Of all moments only the last one returns.
      dsimp only at done
      cases moments with
      | depart =>
        cases done
        exact ⟨rfl, .inl rfl⟩
      | cancel _ gaveUp =>
        cases done
        exact ⟨rfl, .inr ⟨rfl, gaveUp⟩⟩
      | _ => cases done
  | forget =>
    exact returned.aside (fun _ member => .inl (List.mem_filter.mp member).1) (List.Subset.refl _)
      onward
  | fire token => exact returned.aside (fun _ => .inl) (List.subset_cons_self _ _) onward
  | _ => exact returned.aside (fun _ => .inl) (List.Subset.refl _) onward

theorem returned_of_run (h : Handle α ε σ ι) {es : List ι} {s : σ}
    (reached : run h.step h.start es = some s) : Returned (h.front s) := by
  have start : Returned (h.front h.start) := by
    intro x member
    simp [h.fresh] at member
  refine run_invariant (P := fun _ s => Returned (h.front s)) start ?_ reached
  intro es s e t ran returned moved
  obtain ⟨os, moves⟩ := h.steps s e t moved
  exact returned.next (h.settled es s ran).distinct moves

end Courier.Closing

namespace Courier.Subscription

variable {ε : Type} {s t : State ε} {e : Event ε} {provider : Provider ε} {replaced : Bool}
  {options : SubscriptionOptions} {es fs : List (Event ε)} {os : List (Outbox.Event AckId ε)}

/-- The event is the look of a shutdown at the batcher of acknowledgements. -/
def asks (x : State ε × Event ε) : Bool :=
  match x.2 with
  | .shutdownStep id => (x.1.shutdown? id).any (Closing.looks x.1.outbox id)
  | _ => false

theorem shut_aside (moved : AckMoves s e os t)
    (other : ∀ id, e ≠ .shutdownStep id ∧ e ≠ .shutdownCancel id) :
    t.outbox.batcher.shut = s.outbox.batcher.shut := by
  cases moved with
  | apart _ same => rw [same.outbox]
  | submit _ _ stepped => exact Outbox.shut_eq stepped (by simp)
  | outer passed stepped => exact Outbox.shut_eq stepped (by cases e <;> cases passed <;> simp)
  | @close _ id _ _ _ _ _ _ own =>
    rcases own with own | own
    · exact absurd own (other id).1
    · exact absurd own.1 (other id).2
  | forget stepped => exact Outbox.shut_eq stepped (by simp)
  | _ => rfl

theorem shut_of_step (stepped : s.step e = some t) :
    t.outbox.batcher.shut = (s.outbox.batcher.shut || asks (s, e)) := by
  have aside : (∀ id, e ≠ .shutdownStep id ∧ e ≠ .shutdownCancel id) → asks (s, e) = false →
      t.outbox.batcher.shut = (s.outbox.batcher.shut || asks (s, e)) := by
    intro other silent
    obtain ⟨os, moved⟩ := ackMoves_of_step stepped
    rw [shut_aside moved other, silent, Bool.or_false]
  cases e with
  | shutdownStep id =>
    obtain ⟨c, found, moved⟩ := Option.bind_eq_some_iff.mp stepped
    obtain ⟨⟨o, phase⟩, advanced, rfl⟩ := Option.map_eq_some_iff.mp moved
    -- Marking the subscription as closed does not touch the outbox.
    have shut : o.batcher.shut = (s.outbox.batcher.shut || Closing.looks s.outbox id c) := by
      cases phase : c.phase <;> simp only [phase] at advanced <;>
        exact Closing.shut_of_advance advanced
    simpa [asks, found, State.setShutdown] using shut
  | shutdownCancel id =>
    simp only [State.step, Option.bind_eq_bind, Option.bind_eq_some_iff] at stepped
    obtain ⟨c, _, ⟨o, phase⟩, canceled, result⟩ := stepped
    cases Option.some.inj result
    simpa [asks, State.setShutdown] using Closing.shut_of_cancel canceled
  | _ => exact aside (by simp) rfl

theorem shut_of_run (reached : run State.step (.new provider replaced options) es = some s) :
    s.outbox.batcher.shut = (trace State.step (.new provider replaced options) es).any asks := by
  refine run_invariant (P := fun es s => s.outbox.batcher.shut =
    (trace State.step (.new provider replaced options) es).any asks) rfl ?_ reached
  intro es s e t ran ih moved
  rw [shut_of_step moved, ih, trace_snoc ran moved, List.any_append, List.any_cons, List.any_nil,
    Bool.or_false]

theorem onward_later (ran : run State.step s fs = some t) : Outbox.Onward s.outbox t.outbox := by
  induction fs generalizing s with
  | nil => exact Option.some.inj ran ▸ .refl s.outbox
  | cons e fs ih =>
    obtain ⟨u, stepped, rest⟩ := Option.bind_eq_some_iff.mp ran
    obtain ⟨os, moved⟩ := ackMoves_of_step stepped
    exact (Outbox.onward_of_run (outbox_of_moves moved)).trans (ih rest)

theorem late_of_shut (shut : s.outbox.batcher.shut = true) (ran : run State.step s fs = some t) :
    ∀ a ∈ (trace State.step s fs).filterMap ack?, a.late = true := by
  induction fs generalizing s with
  | nil => simp [trace]
  | cons e fs ih =>
    obtain ⟨u, stepped, rest⟩ := Option.bind_eq_some_iff.mp ran
    have still : u.outbox.batcher.shut = true := by rw [shut_of_step stepped, shut, Bool.true_or]
    intro a member
    rw [trace, stepped, List.filterMap_cons] at member
    cases e with
    | ack serial elapsed returns =>
      rcases List.mem_cons.mp member with rfl | more
      · exact shut
      · exact ih still rest a more
    | _ => exact ih still rest a member

/-- The batcher of acknowledgements takes nothing more from the first look of a shutdown on: nothing
that is acknowledged later goes out. A shutdown that has returned has made such a look, unless it was
canceled by its token; in any case it leaves the subscription's own token fired, and every later call
for acknowledgements is made with it. -/
theorem refuses_once_asked (provider : Provider ε) (replaced : Bool) (options : SubscriptionOptions)
    (es : List (Event ε)) (s : State ε)
    (reached : run State.step (.new provider replaced options) es = some s) :
    (s.outbox.batcher.shut = (trace State.step (.new provider replaced options) es).any asks) ∧
    (∀ id c outcome, s.shutdown? id = some c → c.phase = .done outcome →
      (outcome = .ok () ∧ s.outbox.batcher.shut = true) ∨
        (outcome = .error .canceled ∧ fires s.fired c.token = true)) ∧
    (s.outbox.batcher.shut = true → ∀ fs t, run State.step s fs = some t →
      t.outbox.batcher.shut = true ∧ t.outbox.batcher.accepted = s.outbox.batcher.accepted ∧
      (∀ a ∈ (trace State.step s fs).filterMap ack?, a.late = true) ∧
      (replaced = false → (t.outbox.attempts.filter (·.first)).flatMap (·.items) ++
        (t.outbox.ready.toList.flatMap (·.batch)).map (·.item) ++
          t.outbox.batcher.pending.map (·.item) = tokens (acks provider replaced options es))) ∧
    (∀ id c outcome, s.shutdown? id = some c → c.phase = .done outcome →
      ∀ fs t, run State.step s fs = some t → ∃ more,
        t.outbox.attempts = s.outbox.attempts ++ more ∧ ∀ a ∈ more, a.stopped = true) := by
  have tally := tally_of_run reached
  have returned := Closing.returned_of_run (handle provider replaced options) reached
  obtain ⟨os, bs, known, _⟩ := reached_of_run reached
  have settled := settled_of_reached known
  have kept := replaced_kept known
  refine ⟨shut_of_run reached, ?_, ?_, ?_⟩
  · intro id c outcome found done
    have member := call_member found
    rcases (returned (id, c) member outcome done).2 with rfl | canceled
    · exact .inl ⟨rfl, (settled.done (id, c) member done).shut⟩
    · exact .inr canceled
  · intro shut fs t ran
    obtain ⟨still, accepted⟩ := (onward_later ran).closed shut
    refine ⟨still, accepted, late_of_shut shut ran, ?_⟩
    intro batched
    have later : run State.step (.new provider replaced options) (es ++ fs) = some t := by
      rw [run_append, reached, Option.bind_some, ran]
    obtain ⟨_, _, later, _⟩ := reached_of_run later
    rw [Outbox.conserved later.outbox, accepted]
    exact tally.sent (kept.trans batched)
  · intro id c outcome found done fs t ran
    have stopped := (returned (id, c) (call_member found) outcome done).1
    obtain ⟨more, grown, seen⟩ := (onward_later ran).later
    exact ⟨more, grown, seen stopped⟩

/-- The first of two messages is acknowledged. A shutdown waits for its batch until its token fires. -/
def canceledWhileWaiting : List (Event String) :=
  [.receive 1 none, .receiveStep 1, .receiveStep 1, .fetched 1 (.ok [parcel 0, parcel 1]) 0,
    .receiveStep 1, .receiveStep 1, .receiveStep 1, .receive 2 none, .receiveStep 2,
    .ack 0 (.ofSecs 1) true, .ackLook, .ackCall, .shutdown 9 (some "t"), .shutdownStep 9,
    .shutdownStep 9, .shutdownStep 9, .fire "t", .shutdownCancel 9, .shutdownStep 9]

/-- The second message is acknowledged too late, while the first call is answered. -/
def acknowledgedLate : List (Event String) :=
  [.ack 1 (.ofSecs 2) true, .ackReturned (.ok ()) 0, .ackLook]

theorem refuses_once_asked_while_waiting :
    ∃ s t : State String, run State.step (.new relay false default) canceledWhileWaiting = some s ∧
      s.shutdown? 9 = some ⟨some "t", .done (.error .canceled)⟩ ∧ s.outbox.batcher.shut = true ∧
      run State.step s acknowledgedLate = some t ∧
      (t.outbox.attempts.filter (·.first)).flatMap (·.items) ++
        (t.outbox.ready.toList.flatMap (·.batch)).map (·.item) ++
          t.outbox.batcher.pending.map (·.item) = [.number 0] ∧
      ∀ a ∈ (trace State.step s acknowledgedLate).filterMap ack?, a.late = true := by
  have ran : ∃ s t : State String,
      run State.step (.new relay false default) canceledWhileWaiting = some s ∧
      s.shutdown? 9 = some ⟨some "t", .done (.error .canceled)⟩ ∧
      run State.step s acknowledgedLate = some t := ⟨_, _, rfl, rfl, rfl⟩
  have looked :
      (trace State.step (.new relay false default) canceledWhileWaiting).any asks = true := by
    decide +kernel
  have submitted : tokens (acks relay false default canceledWhileWaiting) = [.number 0] := by
    decide +kernel
  obtain ⟨s, t, reached, canceled, later⟩ := ran
  have h := refuses_once_asked relay false default canceledWhileWaiting s reached
  obtain ⟨asked, _, refuses, _⟩ := h
  have shut := asked.trans looked
  obtain ⟨_, _, late, out⟩ := refuses shut acknowledgedLate t later
  exact ⟨s, t, reached, canceled, shut, later, (out rfl).trans submitted, late⟩

/-- A message is received, and a shutdown begins whose token has fired already. -/
def canceledAtOnce : List (Event String) :=
  [.receive 1 none, .receiveStep 1, .receiveStep 1, .fetched 1 (.ok [parcel 0]) 0, .receiveStep 1,
    .receiveStep 1, .receiveStep 1, .fire "t", .shutdown 2 (some "t"), .shutdownStep 2,
    .shutdownCancel 2, .shutdownStep 2]

/-- A shutdown that was canceled before it looked has returned, and what is acknowledged then is passed
to the provider all the same. -/
theorem passed_on_after_return :
    ¬ ∀ (provider : Provider String) (options : SubscriptionOptions) (es fs : List (Event String))
      (s t : State String), run State.step (.new provider false options) es = some s →
      ∀ id c outcome, s.shutdown? id = some c → c.phase = .done outcome →
        run State.step s fs = some t →
          s.outbox.batcher.shut = true ∧ ∀ (i : Nat) (a : Outbox.Attempt AckId),
            t.outbox.attempts[i]? = some a → s.outbox.attempts.length ≤ i →
              ∀ ackId ∈ a.items, ackId ∈ tokens (acks provider false options es) := by
  intro claim
  have ran : ∃ s t : State String,
      run State.step (.new relay false default) canceledAtOnce = some s ∧
      s.shutdown? 2 = some ⟨some "t", .done (.error .canceled)⟩ ∧ s.outbox.attempts = [] ∧
      run State.step s [.ack 0 (.ofSecs 1) true, .ackLook, .ackCall] = some t ∧
      t.outbox.attempts = [⟨0, [.number 0], true, true⟩] := ⟨_, _, rfl, rfl, rfl, rfl, rfl⟩
  have nothing : tokens (acks relay false default canceledAtOnce) = [] := by
    decide +kernel
  obtain ⟨s, t, reached, canceled, before, later, after⟩ := ran
  obtain ⟨_, acked_before⟩ := claim relay default _ _ s t reached 2 _ _ canceled rfl later
  have known := acked_before 0 _ (by rw [after]; rfl) (by rw [before]; exact Nat.zero_le 0)
    (.number 0) List.mem_cons_self
  rw [nothing] at known
  cases known

end Courier.Subscription
