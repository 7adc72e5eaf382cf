import Courier.Proofs.Outbox.Replies

/-! An outbox whose batcher has been drained. All that it accepted has gone out and been answered,
nothing is on its way, and this stays so. Where its token fires only then, no call has seen it fire. -/

namespace Courier.Outbox

variable {α ε : Type} {limits : Limits} {provider : Provider ε} {policy : Retry.Policy}
  {es fs : List (Event α ε)} {bs more : List (Batcher.Event α ε)} {s t : State α ε} {e : Event α ε}

/-- Nothing waits, nothing is in the provider's hands, and nothing more is accepted. -/
structure Spent (s : State α ε) : Prop where
  drained : Batcher.Drained s.batcher
  ready : s.ready = none
  delivery : s.delivery = none

theorem spent_of_drained (reached : Reached limits provider policy es bs s)
    (drained : Batcher.Drained s.batcher) : Spent s := by
  obtain ⟨free, none_there⟩ := empty_handed reached (idle_of_drained reached drained)
  exact ⟨drained, free, none_there⟩

/-- The entry went out with its batch, the batch ended as the last call for it was answered, and this
was told under its ticket, once. -/
def Delivered (provider : Provider ε) (policy : Retry.Policy) (s : State α ε)
    (replies : List (Reply ε)) (x : Entry α) : Prop :=
  ∃ (n : Nat) (b : List (Entry α)) (r : Reply ε) (how : Ending ε), s.batcher.taken[n]? = some b ∧
    x ∈ b ∧ LastReply s.attempts replies n r ∧
    Means provider policy (retries s.attempts n) r how ∧
    s.batcher.answers x.ticket = [Batcher.outcomeOf how]

theorem delivered_of_drained (reached : Reached limits provider policy es bs s)
    (drained : Batcher.Drained s.batcher) {x : Entry α} (accepted : x ∈ s.batcher.accepted) :
    Delivered provider policy s (replies es) x := by
  have ran := batcher_run reached
  -- All that was accepted has been taken, and of what was taken nothing is running any more.
  obtain ⟨n, b, taken, inside⟩ := (Batcher.ordered_of_run ran).in_batch drained.empty accepted
  obtain ⟨how, ended, told⟩ :=
    ending_of_settled reached taken (by simp [idle_of_drained reached drained])
  obtain ⟨r, last, means⟩ := ended_as_answered reached (ended ▸ List.mem_singleton_self how)
  exact ⟨n, b, r, how, taken, inside, last, means, told x inside⟩

theorem Spent.next (spent : Spent s) (moved : Moves s e more t) :
    t.attempts = s.attempts ∧ t.batcher.accepted = s.batcher.accepted := by
  have shut := spent.drained.shut
  cases moved with
  | pass passed moved =>
    refine ⟨rfl, ?_⟩
    cases Batcher.moves_of_step moved with
    | start _ accepting => simp [shut] at accepting
    | queue _ accepting => simp [shut] at accepting
    | _ => rfl
  | look moved =>
    refine ⟨rfl, ?_⟩
    cases Batcher.moves_of_step moved <;> rfl
  | call ready => simp [spent.ready] at ready
  | settle delivery => simp [spent.delivery] at delivery
  | pause delivery => simp [spent.delivery] at delivery
  | retry delivery => simp [spent.delivery] at delivery
  | stop => exact ⟨rfl, rfl⟩

/-- From then on nothing is accepted and no call begins. -/
theorem Spent.run (reached : Reached limits provider policy es bs s) (spent : Spent s)
    (ran : run State.step s fs = some t) : Spent t ∧ t.attempts = s.attempts ∧
      t.batcher.accepted = s.batcher.accepted := by
  induction fs generalizing es bs s with
  | nil =>
    cases Option.some.inj ran
    exact ⟨spent, rfl, rfl⟩
  | cons e fs ih =>
    obtain ⟨u, stepped, rest⟩ := Option.bind_eq_some_iff.mp ran
    obtain ⟨more, moved⟩ := moves_of_step stepped
    obtain ⟨attempts, accepted⟩ := spent.next moved
    have after := reached.next moved
    have still := spent_of_drained after (drained_kept reached spent.drained moved)
    obtain ⟨last, calls, items⟩ := ih after still rest
    exact ⟨last, calls.trans attempts, items.trans accepted⟩

/-- The outbox's token does not fire before it is spent, and no call has seen it fire. -/
structure Unhurried (s : State α ε) : Prop where
  late : s.stopped = true → Spent s
  unseen : ∀ a ∈ s.attempts, a.stopped = false

theorem Unhurried.next (reached : Reached limits provider policy es bs s) (unhurried : Unhurried s)
    (moved : Moves s e more t) (late : e = .stop → Spent s) : Unhurried t := by
  have kept : Spent s → Spent t := fun spent =>
    spent_of_drained (reached.next moved) (drained_kept reached spent.drained moved)
  -- A call begins with something in hand, so the token has not fired.
  have unfired : ¬ Spent s → s.stopped = false := by
    intro busy
    exact eq_false_of_ne_true fun stopped => busy (unhurried.late stopped)
  have added : ∀ {a : Attempt α}, a.stopped = s.stopped → ¬ Spent s →
      ∀ x ∈ s.attempts ++ [a], x.stopped = false := by
    intro a same busy x member
    rcases List.mem_append.mp member with old | new
    · exact unhurried.unseen x old
    · rw [List.mem_singleton.mp new, same, unfired busy]
  cases moved with
  | call ready =>
    have busy : ¬ Spent s := fun spent => by simp [spent.ready] at ready
    exact ⟨fun stopped => kept (unhurried.late stopped), added rfl busy⟩
  | retry delivery =>
    have busy : ¬ Spent s := fun spent => by simp [spent.delivery] at delivery
    exact ⟨fun stopped => kept (unhurried.late stopped), added rfl busy⟩
  | stop => exact ⟨fun _ => kept (late rfl), unhurried.unseen⟩
  | _ => exact ⟨fun stopped => kept (unhurried.late stopped), unhurried.unseen⟩

theorem Unhurried.run (reached : Reached limits provider policy es bs s) (unhurried : Unhurried s)
    (ran : run State.step s fs = some t) (late : .stop ∈ fs → Spent s) : Unhurried t := by
  induction fs generalizing es bs s with
  | nil => exact Option.some.inj ran ▸ unhurried
  | cons e fs ih =>
    obtain ⟨u, stepped, rest⟩ := Option.bind_eq_some_iff.mp ran
    obtain ⟨more, moved⟩ := moves_of_step stepped
    have after := reached.next moved
    refine ih after (unhurried.next reached moved ?_) rest ?_
    · rintro rfl
      exact late List.mem_cons_self
    · intro stops
      have spent := late (List.mem_cons_of_mem _ stops)
      exact spent_of_drained after (drained_kept reached spent.drained moved)

end Courier.Outbox
