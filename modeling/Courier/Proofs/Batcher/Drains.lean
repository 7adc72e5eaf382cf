import Courier.Proofs.Batcher.Tasks

/-! Calls that shut a batcher down. Such a call ends only when the batcher takes nothing more and
nothing is left, and this stays so. -/

namespace Courier.Batcher

variable {α ε : Type}

theorem shut_of_step {s t : State α ε} {e : Event α ε} (moved : s.step e = some t)
    (shut : t.shut = true) : s.shut = true ∨ ∃ id, e = .drain id .look := by
  cases e with
  | drain id move =>
    cases move with
    | look => exact .inr ⟨id, rfl⟩
    | start =>
      simp only [State.step, State.moveDrain] at moved
      split at moved
      · contradiction
      · cases Option.some.inj moved
        exact .inl shut
    | wake =>
      simp only [State.step, State.moveDrain] at moved
      split at moved
      · cases Option.some.inj moved
        exact .inl shut
      · contradiction
    | leave =>
      cases Option.some.inj moved
      exact .inl shut
  | _ => cases moves_of_step moved <;> exact .inl shut

/-- Nothing is taken any more, and nothing is left. -/
structure Drained (s : State α ε) : Prop where
  shut : s.shut = true
  gone : s.active = 0
  empty : s.pending = []

theorem idle_iff {s : State α ε} : s.idle = true ↔ s.active = 0 ∧ s.pending = [] := by
  simp [State.idle]

theorem Drained.next {es : List (Event α ε)} {s t : State α ε} {e : Event α ε}
    (staffed : Staffed es s) (drained : Drained s) (moved : Moves s e t) : Drained t := by
  obtain ⟨shut, gone, empty⟩ := drained
  have counted := staffed.counted
  have none_running : s.running = [] := List.length_eq_zero_iff.mp (by omega)
  cases moved with
  | refuse => exact ⟨shut, gone, empty⟩
  | start _ accepting => simp [shut] at accepting
  | queue _ accepting => simp [shut] at accepting
  | leave => exact ⟨shut, gone, empty⟩
  | quit some_looking => omega
  | take some_looking => omega
  | finish r _ member => simp [none_running] at member
  | crash r member => simp [none_running] at member
  | drain _ _ _ _ kept => exact ⟨kept shut, gone, empty⟩

/-- What a moment of a call that shuts down does to all of these calls, and to the mark. -/
inductive DrainMoves (s : State α ε) (id : Nat) : DrainMove → State α ε → Prop
  | start (fresh : s.drain? id = none) :
      DrainMoves s id .start { s with drains := s.drains ++ [(id, .looking false)] }
  | finish {woken : Bool} (found : s.drain? id = some (.looking woken)) (idle : s.idle = true) :
      DrainMoves s id .look ({ s with shut := true }.setDrain id .finished)
  | rest {woken : Bool} (found : s.drain? id = some (.looking woken)) (busy : s.idle = false) :
      DrainMoves s id .look ({ s with shut := true }.setDrain id (.resting woken))
  | wake (found : s.drain? id = some (.resting true)) :
      DrainMoves s id .wake (s.setDrain id (.looking false))
  | leave : DrainMoves s id .leave { s with drains := s.drains.filter (·.1 ≠ id) }

theorem drainMoves_of_step {s t : State α ε} {id : Nat} {move : DrainMove}
    (moved : s.moveDrain id move = some t) : DrainMoves s id move t := by
  cases move with
  | start =>
    simp only [State.moveDrain] at moved
    split at moved
    · contradiction
    · rename_i fresh
      exact Option.some.inj moved ▸ .start (by simpa using fresh)
  | look =>
    simp only [State.moveDrain] at moved
    split at moved
    · rename_i woken found
      cases idle : s.idle with
      | true =>
        rw [idle] at moved
        exact Option.some.inj moved ▸ .finish found idle
      | false =>
        rw [idle] at moved
        exact Option.some.inj moved ▸ .rest found idle
    · contradiction
  | wake =>
    simp only [State.moveDrain] at moved
    split at moved
    · rename_i found
      exact Option.some.inj moved ▸ .wake found
    · contradiction
  | leave => exact Option.some.inj moved ▸ .leave

theorem mem_setDrain {s : State α ε} {id n : Nat} {d e : Drain}
    (member : (n, e) ∈ (s.setDrain id d).drains) : (n, e) ∈ s.drains ∨ e = d := by
  obtain ⟨x, old, same⟩ := List.mem_map.mp member
  split at same
  · cases same
    exact .inr rfl
  · exact .inl (same ▸ old)

theorem mem_wakeAll {s : State α ε} {n : Nat} {d : Drain} (member : (n, d) ∈ s.wakeAll) :
    ∃ e, (n, e) ∈ s.drains ∧ e.wake = d := by
  obtain ⟨⟨m, e⟩, old, same⟩ := List.mem_map.mp member
  cases same
  exact ⟨e, old, rfl⟩

/-- A call that shuts down ends in one way. -/
theorem finished_of_moveDrain {s t : State α ε} {id n : Nat} {move : DrainMove}
    (moved : s.moveDrain id move = some t) (ended : (n, Drain.finished) ∈ t.drains) :
    (n, Drain.finished) ∈ s.drains ∨ Drained t := by
  cases drainMoves_of_step moved with
  | start =>
    have old : (n, Drain.finished) ∈ s.drains := by simpa using ended
    exact .inl old
  | finish _ idle =>
    obtain ⟨gone, empty⟩ := idle_iff.mp idle
    exact .inr ⟨rfl, gone, empty⟩
  | rest =>
    rcases mem_setDrain ended with old | other
    · exact .inl old
    · cases other
  | wake =>
    rcases mem_setDrain ended with old | other
    · exact .inl old
    · cases other
  | leave => exact .inl (List.mem_filter.mp ended).1

theorem drained_of_finished {limits : Limits} {es : List (Event α ε)} {s : State α ε}
    (reached : run State.step (.new limits) es = some s) {n : Nat}
    (ended : (n, Drain.finished) ∈ s.drains) : Drained s := by
  refine run_invariant (P := fun _ s => ∀ n, (n, Drain.finished) ∈ s.drains → Drained s)
    (by simp [State.new]) ?_ reached n ended
  intro es s e t before ih moved n ended
  have staffed := staffed_of_run before
  have moves := moves_of_step moved
  have old : (n, Drain.finished) ∈ s.drains → Drained t := fun member =>
    (ih n member).next staffed moves
  cases e with
  | drain id move =>
    rcases finished_of_moveDrain moved ended with before | now
    · exact old before
    · exact now
  | look =>
    cases moves with
    | take => exact old ended
    | quit =>
      refine old ?_
      dsimp only at ended
      split at ended
      · obtain ⟨d, member, same⟩ := mem_wakeAll ended
        -- Waking a call never ends it.
        cases d with
        | finished => exact member
        | looking => cases same
        | resting => cases same
      · exact ended
  | submit item => exact old (by cases moves <;> exact ended)
  | leave ticket => exact old (by cases moves; exact ended)
  | finish m how => exact old (by cases moves; exact ended)
  | crash m => exact old (by cases moves; exact ended)

end Courier.Batcher
