import Courier.Proofs.Batcher.Moves
import Courier.Proofs.Keyed

/-! The handler tasks of a batcher: how many there are, and which batch each handler call has. The
counter of tasks and the queue are tied to one another, so that nothing can wait without a task. -/

namespace Courier.Batcher

variable {α ε : Type}

/-- Handler calls in progress have the batches of their numbers, and no two have the same. -/
structure Calls (s : State α ε) : Prop where
  batch : ∀ r ∈ s.running, s.taken[r.number]? = some r.batch
  distinct : (s.running.map (·.number)).Nodup

theorem Calls.number_lt {s : State α ε} (calls : Calls s) {r : Running α} (member : r ∈ s.running) :
    r.number < s.taken.length :=
  (List.getElem?_eq_some_iff.mp (calls.batch r member)).1

theorem Calls.take {s : State α ε} (calls : Calls s) (batch : List (Entry α)) :
    let running : List (Running α) := s.running ++ [⟨s.taken.length, batch⟩]
    (∀ r ∈ running, (s.taken ++ [batch])[r.number]? = some r.batch) ∧
      (running.map (·.number)).Nodup := by
  intro running
  constructor
  · intro r member
    rcases List.mem_append.mp member with old | new
    · rw [List.getElem?_append_left (calls.number_lt old)]
      exact calls.batch r old
    · cases List.mem_singleton.mp new
      exact List.getElem?_concat_length
  · rw [List.map_append, List.nodup_append]
    refine ⟨calls.distinct, List.nodup_singleton _, ?_⟩
    intro n old m new same
    obtain ⟨r, member, rfl⟩ := List.mem_map.mp old
    have number := calls.number_lt member
    simp only [List.map_cons, List.map_nil, List.mem_singleton] at new
    omega

theorem Calls.without {s : State α ε} (calls : Calls s) (n : Nat) :
    (∀ r ∈ s.withoutRunning n, s.taken[r.number]? = some r.batch) ∧
      ((s.withoutRunning n).map (·.number)).Nodup :=
  ⟨fun r member => calls.batch r (List.mem_filter.mp member).1,
    calls.distinct.sublist (List.filter_sublist.map _)⟩

theorem calls_of_run {limits : Limits} {es : List (Event α ε)} {s : State α ε}
    (reached : run State.step (.new limits) es = some s) : Calls s := by
  have base : Calls (State.new limits : State α ε) := ⟨by simp [State.new], by simp [State.new]⟩
  refine run_invariant (P := fun _ s => Calls s) base ?_ reached
  intro es s e t _ calls moved
  cases moves_of_step moved with
  | take => exact ⟨(calls.take s.front).1, (calls.take s.front).2⟩
  | finish r => exact ⟨(calls.without r.number).1, (calls.without r.number).2⟩
  | crash r => exact ⟨(calls.without r.number).1, (calls.without r.number).2⟩
  | _ => exact ⟨calls.batch, calls.distinct⟩

theorem Calls.without_length {s : State α ε} (calls : Calls s) {r : Running α}
    (member : r ∈ s.running) : (s.withoutRunning r.number).length + 1 = s.running.length := by
  obtain ⟨before, after, split, rest, _⟩ := around calls.distinct member
  rw [State.withoutRunning, rest, split]
  simp only [List.length_append, List.length_cons]
  omega

/-- Handler calls that took their task with them. -/
def crashes (es : List (Event α ε)) : Nat :=
  es.countP fun | .crash _ => true | _ => false

/-- Who is counted against the limit, and that somebody is there while items wait. A task that is
lost in a crash stays counted. -/
structure Staffed (es : List (Event α ε)) (s : State α ε) : Prop where
  counted : s.looking + s.running.length + crashes es = s.active
  limited : s.active ≤ maxActive s.limits
  busy : s.pending ≠ [] → 0 < s.active

theorem maxActive_pos (limits : Limits) : 0 < maxActive limits :=
  Nat.le_max_right limits.maxHandlers 1

theorem staffed_next {es : List (Event α ε)} {s t : State α ε} {e : Event α ε} (calls : Calls s)
    (staffed : Staffed es s) (moved : Moves s e t) : Staffed (es ++ [e]) t := by
  obtain ⟨counted, limited, busy⟩ := staffed
  have same : ∀ (e : Event α ε), (∀ n, e ≠ .crash n) → crashes (es ++ [e]) = crashes es := by
    intro e other
    cases e with
    | crash n => exact absurd rfl (other n)
    | _ => simp [crashes]
  cases moved with
  | refuse | leave | drain => exact ⟨by rw [same _ (by simp)]; exact counted, limited, busy⟩
  | start item _ room =>
    refine ⟨?_, room, fun _ => Nat.succ_pos _⟩
    rw [same _ (by simp)]
    dsimp only
    omega
  | queue item _ full =>
    refine ⟨by rw [same _ (by simp)]; exact counted, limited, fun _ => ?_⟩
    -- No task starts for this item because the limit is reached, and the limit is never zero.
    exact Nat.lt_of_lt_of_le (maxActive_pos s.limits) full
  | quit some_looking empty =>
    refine ⟨?_, ?_, fun waiting => absurd empty waiting⟩
    · rw [same _ (by simp)]
      dsimp only
      omega
    · exact Nat.le_trans (Nat.sub_le _ _) limited
  | take some_looking waiting =>
    refine ⟨?_, limited, fun _ => busy waiting⟩
    rw [same _ (by simp)]
    simp only [List.length_append, List.length_singleton]
    omega
  | finish r how member =>
    refine ⟨?_, limited, busy⟩
    have fewer := calls.without_length member
    rw [same _ (by simp)]
    dsimp only
    omega
  | crash r member =>
    refine ⟨?_, limited, busy⟩
    have fewer := calls.without_length member
    have lost : crashes (es ++ [.crash r.number]) = crashes es + 1 := by simp [crashes]
    rw [lost]
    dsimp only
    omega

theorem staffed_of_run {limits : Limits} {es : List (Event α ε)} {s : State α ε}
    (reached : run State.step (.new limits) es = some s) : Staffed es s := by
  refine run_invariant ⟨rfl, Nat.zero_le _, fun waiting => absurd rfl waiting⟩ ?_ reached
  intro es s e t before staffed moved
  exact staffed_next (calls_of_run before) staffed (moves_of_step moved)

/-- Where no handler call crashed, every counted task is there. -/
theorem crashes_eq_zero {es : List (Event α ε)} (intact : ∀ n, Event.crash n ∉ es) :
    crashes es = 0 := by
  rw [crashes, List.countP_eq_zero]
  intro e member
  cases e with
  | crash n => exact absurd member (intact n)
  | _ => simp

end Courier.Batcher
