import Courier.Batcher
import Courier.Proofs.Run

/-! Everything that one event can do to a batcher, one case for each way in which the event can go.
Invariants are proved over these cases and never open the step itself. -/

namespace Courier.Batcher

variable {α ε : Type}

/-- What the next batch will hold. -/
def State.front (s : State α ε) : List (Entry α) :=
  s.pending.take (batchSize s.limits s.pending.length)

def State.wakeAll (s : State α ε) : List (Nat × Drain) := s.drains.map fun d => (d.1, d.2.wake)

inductive Moves (s : State α ε) : Event α ε → State α ε → Prop
  | refuse (item : α) (closed : s.shut = true) : Moves s (.submit item)
      { s with
        refused := s.refused ++ [s.nextTicket]
        told := s.told ++ [(s.nextTicket, .error shutDownFault)] }
  /-- A task is started for the item, as there is room for one. -/
  | start (item : α) (accepting : s.shut = false) (room : s.active < maxActive s.limits) :
      Moves s (.submit item)
      { s with
        pending := s.pending ++ [⟨s.nextTicket, item⟩]
        accepted := s.accepted ++ [⟨s.nextTicket, item⟩]
        active := s.active + 1
        looking := s.looking + 1 }
  | queue (item : α) (accepting : s.shut = false) (full : maxActive s.limits ≤ s.active) :
      Moves s (.submit item)
      { s with
        pending := s.pending ++ [⟨s.nextTicket, item⟩]
        accepted := s.accepted ++ [⟨s.nextTicket, item⟩] }
  | leave (ticket : Nat) : Moves s (.leave ticket) { s with left := s.left ++ [ticket] }
  /-- A task finds nothing and ends. -/
  | quit (some_looking : s.looking ≠ 0) (empty : s.pending = []) : Moves s .look
      { s with
        looking := s.looking - 1
        active := s.active - 1
        drains := if s.active - 1 = 0 then s.wakeAll else s.drains }
  | take (some_looking : s.looking ≠ 0) (waiting : s.pending ≠ []) : Moves s .look
      { s with
        pending := s.pending.drop (batchSize s.limits s.pending.length)
        looking := s.looking - 1
        running := s.running ++ [⟨s.taken.length, s.front⟩]
        taken := s.taken ++ [s.front] }
  | finish (r : Running α) (how : Ending ε) (member : r ∈ s.running) :
      Moves s (.finish r.number how)
      { s with
        running := s.withoutRunning r.number
        looking := s.looking + 1
        told := s.told ++ r.batch.map fun e => (e.ticket, outcomeOf how) }
  | crash (r : Running α) (member : r ∈ s.running) : Moves s (.crash r.number)
      { s with
        running := s.withoutRunning r.number
        abandoned := s.abandoned ++ r.batch.map (·.ticket) }
  /-- Calls that shut down set the mark for good and otherwise move among themselves. -/
  | drain (id : Nat) (move : DrainMove) (shut : Bool) (drains : List (Nat × Drain))
      (kept : s.shut = true → shut = true) :
      Moves s (.drain id move) { s with shut := shut, drains := drains }

theorem running_found {s : State α ε} {n : Nat} {r : Running α} (found : s.running? n = some r) :
    r ∈ s.running ∧ r.number = n :=
  ⟨List.mem_of_find?_eq_some found, by simpa using List.find?_some found⟩

theorem moves_of_submit (s : State α ε) (item : α) : Moves s (.submit item) (s.submit item) := by
  unfold State.submit
  split
  · rename_i closed
    exact .refuse item closed
  · rename_i accepting
    have accepting := eq_false_of_ne_true accepting
    dsimp only
    split
    · rename_i room
      exact .start item accepting room
    · rename_i full
      exact .queue item accepting (Nat.le_of_not_lt full)

theorem moves_of_look (s : State α ε) (some_looking : s.looking ≠ 0) : Moves s .look s.look := by
  unfold State.look
  split
  · rename_i empty
    have quit := Moves.quit some_looking (List.isEmpty_iff.mp empty)
    unfold State.endTask
    dsimp only
    split
    · rename_i last
      simpa only [State.wakeAll, last, if_true] using quit
    · rename_i others
      simpa only [others, if_false] using quit
  · rename_i waiting
    exact .take some_looking fun empty => waiting (List.isEmpty_iff.mpr empty)

theorem moves_of_drain {s t : State α ε} {id : Nat} {move : DrainMove}
    (moved : s.moveDrain id move = some t) : Moves s (.drain id move) t := by
  cases move with
  | start =>
    simp only [State.moveDrain] at moved
    split at moved
    · contradiction
    · cases Option.some.inj moved
      exact .drain id .start s.shut _ fun h => h
  | look =>
    simp only [State.moveDrain] at moved
    split at moved
    · cases Option.some.inj moved
      exact .drain id .look true _ fun _ => rfl
    · contradiction
  | wake =>
    simp only [State.moveDrain] at moved
    split at moved
    · cases Option.some.inj moved
      exact .drain id .wake s.shut _ fun h => h
    · contradiction
  | leave =>
    cases Option.some.inj moved
    exact .drain id .leave s.shut _ fun h => h

theorem finish_of_step {s t : State α ε} {n : Nat} {how : Ending ε}
    (moved : s.step (.finish n how) = some t) : ∃ r ∈ s.running, r.number = n ∧
      t = { s with
        running := s.withoutRunning n
        looking := s.looking + 1
        told := s.told ++ r.batch.map fun e => (e.ticket, outcomeOf how) } := by
  simp only [State.step, Option.bind_eq_bind, Option.bind_eq_some_iff] at moved
  obtain ⟨r, found, result⟩ := moved
  obtain ⟨member, same⟩ := running_found found
  exact ⟨r, member, same, (Option.some.inj result).symm⟩

theorem moves_of_step {s t : State α ε} {e : Event α ε} (moved : s.step e = some t) :
    Moves s e t := by
  cases e with
  | submit item => exact Option.some.inj moved ▸ moves_of_submit s item
  | leave ticket => exact Option.some.inj moved ▸ .leave ticket
  | look =>
    simp only [State.step] at moved
    split at moved
    · contradiction
    · rename_i some_looking
      exact Option.some.inj moved ▸ moves_of_look s some_looking
  | finish n how =>
    obtain ⟨r, member, rfl, rfl⟩ := finish_of_step moved
    exact .finish r how member
  | crash n =>
    simp only [State.step, Option.bind_eq_bind, Option.bind_eq_some_iff] at moved
    obtain ⟨r, found, result⟩ := moved
    obtain ⟨member, rfl⟩ := running_found found
    exact Option.some.inj result ▸ .crash r member
  | drain id move => exact moves_of_drain moved

/-- The limits are set once and for all. -/
theorem limits_kept {limits : Limits} {es : List (Event α ε)} {s : State α ε}
    (reached : run State.step (.new limits) es = some s) : s.limits = limits := by
  refine run_invariant (P := fun _ s => s.limits = limits) rfl ?_ reached
  intro es s e t _ same moved
  cases moves_of_step moved <;> exact same

end Courier.Batcher
