import Courier.Closing
import Courier.Proofs.Batcher.Drains
import Courier.Proofs.Outbox.Batches

/-! Closing calls. The handle is marked closed before its batcher takes nothing more, and a call that
succeeds has seen the batcher with nothing left; one that was cut short has a token that fired. -/

namespace Courier.Closing

variable {α ε : Type}

inductive Moves (o : Outbox.State α ε) (fired : List Token) (id : Nat) (c : Call ε) :
    List (Outbox.Event α ε) → Outbox.State α ε → Phase ε → Prop
  | close (begun : c.phase = .begun) : Moves o fired id c [] o .closed
  | ask {p : Outbox.State α ε} (closed : c.phase = .closed)
      (moved : o.step (.drain id .start) = some p) :
      Moves o fired id c [.drain id .start] p .draining
  | wait {p : Outbox.State α ε} {move : Batcher.DrainMove} (draining : c.phase = .draining)
      (moved : o.step (.drain id move) = some p) :
      Moves o fired id c [.drain id move] p .draining
  | drained (draining : c.phase = .draining) (ended : (id, .finished) ∈ o.batcher.drains) :
      Moves o fired id c [] o .leaving
  | depart (leaving : c.phase = .leaving) (unfired : fires fired c.token = false) :
      Moves o fired id c [.stop] { o with stopped := true } (.done (.ok ()))
  | cancel (leaving : c.phase = .leaving) (gaveUp : fires fired c.token = true) :
      Moves o fired id c [.stop] { o with stopped := true } (.done (.error .canceled))
  | skip (closed : c.phase = .closed) (gaveUp : fires fired c.token = true) :
      Moves o fired id c [] o .leaving
  | abandon {p : Outbox.State α ε} (draining : c.phase = .draining)
      (gaveUp : fires fired c.token = true) (moved : o.step (.drain id .leave) = some p) :
      Moves o fired id c [.drain id .leave] p .leaving

variable {o p : Outbox.State α ε} {fired : List Token} {id : Nat} {c : Call ε} {phase : Phase ε}

theorem moves_of_advance (moved : advance o fired id c = some (p, phase)) :
    ∃ es, Moves o fired id c es p phase := by
  unfold advance at moved
  split at moved
  · rename_i begun
    cases Option.some.inj moved
    exact ⟨_, .close begun⟩
  · rename_i closed
    obtain ⟨q, stepped, same⟩ := Option.map_eq_some_iff.mp moved
    cases same
    exact ⟨_, .ask closed stepped⟩
  · rename_i draining
    split at moved
    · obtain ⟨q, stepped, same⟩ := Option.map_eq_some_iff.mp moved
      cases same
      exact ⟨_, .wait draining stepped⟩
    · obtain ⟨q, stepped, same⟩ := Option.map_eq_some_iff.mp moved
      cases same
      exact ⟨_, .wait draining stepped⟩
    · rename_i ended
      cases Option.some.inj moved
      exact ⟨_, .drained draining (call_member ended)⟩
    · contradiction
  · rename_i leaving
    cases gaveUp : fires fired c.token with
    | true =>
      rw [gaveUp] at moved
      cases Option.some.inj moved
      exact ⟨_, .cancel leaving gaveUp⟩
    | false =>
      rw [gaveUp] at moved
      cases Option.some.inj moved
      exact ⟨_, .depart leaving gaveUp⟩
  · contradiction

theorem moves_of_cancel (moved : cancel o fired id c = some (p, phase)) :
    ∃ es, Moves o fired id c es p phase := by
  unfold cancel at moved
  split at moved
  · rename_i gaveUp
    split at moved
    · rename_i closed
      cases Option.some.inj moved
      exact ⟨_, .skip closed gaveUp⟩
    · rename_i draining
      obtain ⟨q, stepped, same⟩ := Option.map_eq_some_iff.mp moved
      cases same
      exact ⟨_, .abandon draining gaveUp stepped⟩
    · contradiction
  · contradiction

/-- Before its first moment a call is dropped, but not cut short. -/
theorem begun_of_cancel (moved : cancel o fired id c = some (p, phase)) : c.phase ≠ .begun := by
  intro begun
  simp [cancel, begun] at moved

theorem run_of_moves {es : List (Outbox.Event α ε)} (moved : Moves o fired id c es p phase) :
    run Outbox.State.step o es = some p := by
  cases moved with
  | ask _ moved => simp [run, moved]
  | wait _ moved => simp [run, moved]
  | abandon _ _ moved => simp [run, moved]
  | _ => rfl

/-- The closing calls of a handle, the fault that they set and what has become of its batcher. -/
structure Settled (closed : Fault ε) (fault : Option (Fault ε)) (fired : List Token)
    (calls : List (Nat × Call ε)) (b : Batcher.State α ε) : Prop where
  distinct : (calls.map (·.1)).Nodup
  marked : ∀ x ∈ calls, x.2.phase ≠ .begun → fault = some closed
  shut : b.shut = true → fault = some closed
  leaving : ∀ x ∈ calls, x.2.phase = .leaving → fires fired x.2.token = true ∨ Batcher.Drained b
  done : ∀ x ∈ calls, x.2.phase = .done (.ok ()) → Batcher.Drained b

theorem fires_later {later : List Token} {token : Option Token} (more : fired ⊆ later)
    (gaveUp : fires fired token = true) : fires later token = true := by
  cases token with
  | none => cases gaveUp
  | some t =>
    simp only [fires, List.contains_iff_mem] at gaveUp ⊢
    exact more gaveUp

variable {closed : Fault ε} {fault : Option (Fault ε)} {calls : List (Nat × Call ε)}

/-- Whatever else happens to the handle, its closing calls may begin or be dropped meanwhile. -/
theorem Settled.aside {b d : Batcher.State α ε} {fault' : Option (Fault ε)} {later : List Token}
    {calls' : List (Nat × Call ε)} (settled : Settled closed fault fired calls b)
    (distinct : (calls'.map (·.1)).Nodup) (old : ∀ x ∈ calls', x ∈ calls ∨ x.2.phase = .begun)
    (keeps : fault = some closed → fault' = some closed) (more : fired ⊆ later)
    (shut : d.shut = true → b.shut = true) (drained : Batcher.Drained b → Batcher.Drained d) :
    Settled closed fault' later calls' d := by
  refine ⟨distinct, ?_, ?_, ?_, ?_⟩
  · intro x member past
    rcases old x member with before | begun
    · exact keeps (settled.marked x before past)
    · exact absurd begun past
  · exact fun now => keeps (settled.shut (shut now))
  · intro x member leaving
    rcases old x member with before | begun
    · rcases settled.leaving x before leaving with gaveUp | gone
      · exact .inl (fires_later more gaveUp)
      · exact .inr (drained gone)
    · rw [begun] at leaving
      cases leaving
  · intro x member ended
    rcases old x member with before | begun
    · exact drained (settled.done x before ended)
    · rw [begun] at ended
      cases ended

variable {limits : Limits} {provider : Provider ε} {policy : Retry.Policy}
  {os es : List (Outbox.Event α ε)} {bs : List (Batcher.Event α ε)}

theorem Settled.enter {b : Batcher.State α ε} (settled : Settled closed fault fired calls b) {id : Nat}
    (token : Option Token) (fresh : (calls.find? (·.1 = id)).map (·.2) = none) :
    Settled closed fault fired (calls ++ [(id, ⟨token, .begun⟩)]) b := by
  refine settled.aside (keys_append settled.distinct _ fresh) ?_ (fun same => same)
    (List.Subset.refl _) (fun shut => shut) fun drained => drained
  intro x member
  rcases List.mem_append.mp member with old | new
  · exact .inl old
  · cases List.mem_singleton.mp new
    exact .inr rfl

/-- No event of the outbox closes its batcher but the look of a closing call. -/
theorem Settled.outbox (reached : Outbox.Reached limits provider policy os bs o)
    (settled : Settled closed fault fired calls o.batcher) {e : Outbox.Event α ε}
    (stepped : o.step e = some p) (other : ∀ id, e ≠ .drain id .look) :
    Settled closed fault fired calls p.batcher := by
  obtain ⟨more, moves⟩ := Outbox.moves_of_step stepped
  refine settled.aside settled.distinct (fun _ => .inl) (fun same => same) (List.Subset.refl _) ?_
    fun drained => Outbox.drained_kept reached drained moves
  intro shut
  rcases Outbox.shut_kept moves shut with before | ⟨id, look⟩
  · exact before
  · exact absurd look (other id)

theorem Settled.forget {b : Batcher.State α ε} (settled : Settled closed fault fired calls b)
    (id : Nat) : Settled closed fault fired (calls.filter (·.1 ≠ id)) b :=
  settled.aside (settled.distinct.sublist (List.filter_sublist.map _))
    (fun _ member => .inl (List.mem_filter.mp member).1) (fun same => same) (List.Subset.refl _)
    (fun shut => shut) fun drained => drained

theorem Settled.fire {b : Batcher.State α ε} (settled : Settled closed fault fired calls b)
    (token : Token) : Settled closed fault (token :: fired) calls b :=
  settled.aside settled.distinct (fun _ => .inl) (fun same => same) (List.subset_cons_self _ _)
    (fun shut => shut) fun drained => drained

theorem drained_of_moves (reached : Outbox.Reached limits provider policy os bs o)
    (moved : Moves o fired id c es p phase) (drained : Batcher.Drained o.batcher) :
    Batcher.Drained p.batcher := by
  have stepped : ∀ {e q}, o.step e = some q → Batcher.Drained q.batcher := by
    intro e q stepped
    obtain ⟨more, moves⟩ := Outbox.moves_of_step stepped
    exact Outbox.drained_kept reached drained moves
  cases moved with
  | ask _ moved => exact stepped moved
  | wait _ moved => exact stepped moved
  | abandon _ _ moved => exact stepped moved
  | _ => exact drained

theorem Settled.seen (reached : Outbox.Reached limits provider policy os bs o)
    (settled : Settled closed fault fired calls o.batcher) (member : (id, c) ∈ calls)
    (moved : Moves o fired id c es p phase) :
    (phase = .leaving → fires fired c.token = true ∨ Batcher.Drained p.batcher) ∧
      (phase = .done (.ok ()) → Batcher.Drained p.batcher) := by
  cases moved with
  | drained _ ended =>
    have gone := Batcher.drained_of_finished (Outbox.batcher_run reached) ended
    exact ⟨fun _ => .inr gone, fun _ => gone⟩
  | depart leaving unfired =>
    rcases settled.leaving (id, c) member leaving with gaveUp | gone
    · simp [unfired] at gaveUp
    · exact ⟨fun _ => .inr gone, fun _ => gone⟩
  | skip _ gaveUp => exact ⟨fun _ => .inl gaveUp, by simp⟩
  | abandon _ gaveUp => exact ⟨fun _ => .inl gaveUp, by simp⟩
  | _ => simp

theorem Settled.move {fault' : Option (Fault ε)}
    (reached : Outbox.Reached limits provider policy os bs o)
    (settled : Settled closed fault fired calls o.batcher)
    (found : (calls.find? (·.1 = id)).map (·.2) = some c)
    (moved : Moves o fired id c es p phase) (begins : c.phase = .begun → fault' = some closed)
    (keeps : fault = some closed → fault' = some closed) :
    Settled closed fault' fired
      (calls.map fun x => if x.1 = id then (id, { x.2 with phase := phase }) else x) p.batcher := by
  have member := call_member found
  -- From its first moment on, a call finds the handle closed.
  have marked : fault' = some closed := by
    by_cases begun : c.phase = .begun
    · exact begins begun
    · exact keeps (settled.marked (id, c) member begun)
  have drained := drained_of_moves reached moved
  obtain ⟨leaves, ends⟩ := settled.seen reached member moved
  refine ⟨?_, fun _ _ _ => marked, fun _ => marked, ?_, ?_⟩
  · rw [update_keys calls id fun y => { y with phase := phase }]
    exact settled.distinct
  · intro x there leaving
    rcases update_cases settled.distinct found (f := fun y => { y with phase := phase }) there with
      ⟨old, _⟩ | rfl
    · rcases settled.leaving x old leaving with gaveUp | gone
      · exact .inl gaveUp
      · exact .inr (drained gone)
    · exact leaves leaving
  · intro x there ended
    rcases update_cases settled.distinct found (f := fun y => { y with phase := phase }) there with
      ⟨old, _⟩ | rfl
    · exact drained (settled.done x old ended)
    · exact ends ended

/-- A call whose token has not fired makes the handle's own token fire only after the drain. -/
theorem Settled.stops (settled : Settled closed fault fired calls o.batcher) (member : (id, c) ∈ calls)
    (moved : Moves o fired id c es p phase) (unfired : fires fired c.token = false)
    (stops : .stop ∈ es) : Batcher.Drained o.batcher := by
  cases moved with
  | depart leaving =>
    rcases settled.leaving (id, c) member leaving with gaveUp | gone
    · simp [unfired] at gaveUp
    · exact gone
  | cancel _ gaveUp => simp [unfired] at gaveUp
  | _ => simp at stops

/-- A token that none of the events fires has not fired. -/
theorem done_of_outcome {outcome : Outcome ε} (returned : c.outcome? = some outcome) :
    c.phase = .done outcome := by
  cases phase : c.phase with
  | done => simpa [Call.outcome?, phase] using returned
  | _ => simp [Call.outcome?, phase] at returned

theorem unfired_of_absent {token : Option Token} (absent : ∀ k, token = some k → k ∉ fired) :
    fires fired token = false := by
  cases token with
  | none => rfl
  | some k => simpa [fires] using absent k rfl

end Courier.Closing
