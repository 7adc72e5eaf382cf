import Courier.Proofs.Batcher.Drains
import Courier.Proofs.Batcher.Order

/-! Waiting until a batcher is idle. A call that shuts down rests only while there are handler tasks,
or has been woken already: it asks to be woken before it looks, and the last task to leave wakes
everybody in the same moment in which it leaves. A call that ends has seen the batcher idle, and idle it
stays. -/

namespace Courier.Batcher

variable {α ε : Type} {s t : State α ε}

theorem parked_of_moveDrain {id n : Nat} {move : DrainMove} (moved : s.moveDrain id move = some t)
    (busy : s.pending ≠ [] → 0 < s.active) (parked : (n, .resting false) ∈ t.drains) :
    (n, .resting false) ∈ s.drains ∨ 0 < t.active := by
  cases drainMoves_of_step moved with
  | start =>
    have old : (n, Drain.resting false) ∈ s.drains := by simpa using parked
    exact .inl old
  | finish =>
    rcases mem_setDrain parked with old | other
    · exact .inl old
    · cases other
  | rest _ occupied =>
    -- It has just seen a task, or an item, for which there is a task.
    apply Or.inr
    by_contra none_active
    have gone : s.active = 0 := Nat.eq_zero_of_not_pos none_active
    have empty : s.pending = [] := by
      by_contra waiting
      have somebody := busy waiting
      omega
    rw [idle_iff.mpr ⟨gone, empty⟩] at occupied
    contradiction
  | wake =>
    rcases mem_setDrain parked with old | other
    · exact .inl old
    · cases other
  | leave => exact .inl (List.mem_filter.mp parked).1

/-- No call rests unwoken without a handler task. -/
theorem parked_of_run {limits : Limits} {es : List (Event α ε)}
    (reached : run State.step (.new limits) es = some s) {n : Nat}
    (parked : (n, .resting false) ∈ s.drains) : 0 < s.active := by
  refine run_invariant (P := fun _ s => ∀ n, (n, .resting false) ∈ s.drains → 0 < s.active)
    (by simp [State.new]) ?_ reached n parked
  intro es s e t before ih moved n parked
  have moves := moves_of_step moved
  cases e with
  | drain id move =>
    rcases parked_of_moveDrain moved (staffed_of_run before).busy parked with old | now
    · have there := ih n old
      cases moves
      exact there
    · exact now
  | look =>
    cases moves with
    | take => exact ih n parked
    | quit =>
      dsimp only at parked ⊢
      split at parked
      · obtain ⟨d, _, same⟩ := mem_wakeAll parked
        cases d <;> cases same
      · rename_i others
        exact Nat.pos_of_ne_zero others
  | submit item =>
    cases moves with
    | start => exact Nat.succ_pos _
    | _ => exact ih n parked
  | leave | finish | crash =>
    cases moves
    exact ih n parked

theorem drains_distinct {limits : Limits} {es : List (Event α ε)}
    (reached : run State.step (.new limits) es = some s) : (s.drains.map (·.1)).Nodup := by
  refine run_invariant (P := fun _ s => (s.drains.map (·.1)).Nodup) List.nodup_nil ?_ reached
  intro es s e t _ distinct moved
  have updated : ∀ id d, ((s.setDrain id d).drains.map (·.1)).Nodup := by
    intro id d
    rw [State.setDrain, update_keys s.drains id fun _ => d]
    exact distinct
  cases e with
  | drain id move =>
    cases drainMoves_of_step moved with
    | start fresh => exact keys_append distinct _ fresh
    | finish => exact updated id _
    | rest => exact updated id _
    | wake => exact updated id _
    | leave => exact distinct.sublist (List.filter_sublist.map _)
  | look =>
    cases moves_of_step moved with
    | take => exact distinct
    | quit =>
      dsimp only
      split
      · rw [State.wakeAll, List.map_map]
        exact distinct
      · exact distinct
  | _ => cases moves_of_step moved <;> exact distinct

/-! An idle batcher lets every call end that is not parked. -/

theorem ends_looking {id : Nat} {woken : Bool} (found : s.drain? id = some (.looking woken))
    (idle : s.idle = true) :
    ∃ t, s.step (.drain id .look) = some t ∧ (id, .finished) ∈ t.drains := by
  refine ⟨{ s with shut := true }.setDrain id .finished, ?_, ?_⟩
  · simp [State.step, State.moveDrain, found, idle]
  · exact List.mem_map.mpr ⟨_, call_member found, if_pos rfl⟩

theorem ends_woken {id : Nat} (distinct : (s.drains.map (·.1)).Nodup)
    (found : s.drain? id = some (.resting true)) (idle : s.idle = true) :
    ∃ t, run State.step s [.drain id .wake, .drain id .look] = some t ∧
      (id, .finished) ∈ t.drains := by
  have woke : s.step (.drain id .wake) = some (s.setDrain id (.looking false)) := by
    simp [State.step, State.moveDrain, found]
  have again : (s.setDrain id (.looking false)).drain? id = some (.looking false) :=
    update_found distinct found fun _ => .looking false
  obtain ⟨t, looked, ended⟩ := ends_looking again idle
  refine ⟨t, ?_, ended⟩
  rw [run, woke, Option.bind_some]
  exact run_single looked

theorem idle_of_gone {limits : Limits} {es : List (Event α ε)}
    (reached : run State.step (.new limits) es = some s) (gone : s.active = 0) : s.idle = true := by
  have busy := (staffed_of_run reached).busy
  refine idle_iff.mpr ⟨gone, ?_⟩
  by_contra waiting
  have somebody := busy waiting
  omega

/-- A drained batcher hands out nothing any more, whatever happens to it. -/
theorem Drained.later {limits : Limits} {es fs : List (Event α ε)} (drained : Drained s)
    (reached : run State.step (.new limits) es = some s) (later : run State.step s fs = some t) :
    Drained t ∧ t.running = [] ∧ t.taken = s.taken := by
  have kept : Drained t ∧ t.taken = s.taken := by
    refine run_invariant (P := fun _ t => Drained t ∧ t.taken = s.taken) ⟨drained, rfl⟩ ?_ later
    intro fs t e u before ih moved
    obtain ⟨still, same⟩ := ih
    have staffed := staffed_of_run (run_trans reached before)
    have moves := moves_of_step moved
    refine ⟨still.next staffed moves, ?_⟩
    have counted := staffed.counted
    have gone := still.gone
    cases moves with
    | take some_looking => omega
    | _ => exact same
  have counted := (staffed_of_run (run_trans reached later)).counted
  have gone := kept.1.gone
  exact ⟨kept.1, List.length_eq_zero_iff.mp (by omega), kept.2⟩

/-- A call that shuts down ends only on a batcher that is shut down, empty and without tasks, which
it then stays; and it is never left parked once the tasks are gone. -/
theorem shutdown_waits_until_idle (limits : Limits) (es : List (Event α ε)) (s : State α ε)
    (reached : run State.step (.new limits) es = some s) (intact : ∀ n, .crash n ∉ es) (id : Nat) :
    s.looking + s.running.length = s.active ∧
    ((id, .finished) ∈ s.drains → (s.shut = true ∧ s.pending = [] ∧ s.active = 0) ∧
      ∀ fs t, run State.step s fs = some t → (t.shut = true ∧ t.pending = [] ∧ t.active = 0) ∧
        t.running = [] ∧ t.taken = s.taken) ∧
    (∀ woken, (id, .resting woken) ∈ s.drains → 1 ≤ s.active ∨ woken = true) ∧
    (s.looking + s.running.length = 0 → ∀ d, (id, d) ∈ s.drains → d = .finished ∨
      (∃ t, s.step (.drain id .look) = some t ∧ (id, .finished) ∈ t.drains) ∨
      (∃ t, run State.step s [.drain id .wake, .drain id .look] = some t ∧
        (id, .finished) ∈ t.drains)) := by
  have counted := (staffed_of_run reached).counted
  rw [crashes_eq_zero intact, Nat.add_zero] at counted
  have parked : ∀ woken, (id, .resting woken) ∈ s.drains → 1 ≤ s.active ∨ woken = true := by
    intro woken member
    cases woken with
    | true => exact .inr rfl
    | false => exact .inl (parked_of_run reached member)
  refine ⟨counted, ?_, parked, ?_⟩
  · intro ended
    have drained := drained_of_finished reached ended
    refine ⟨⟨drained.shut, drained.empty, drained.gone⟩, ?_⟩
    intro fs t later
    obtain ⟨still, none_running, same⟩ := drained.later reached later
    exact ⟨⟨still.shut, still.empty, still.gone⟩, none_running, same⟩
  · intro nobody d member
    have gone : s.active = 0 := counted ▸ nobody
    have idle := idle_of_gone reached gone
    have distinct := drains_distinct reached
    have found : s.drain? id = some d := call_found distinct member
    cases d with
    | finished => exact .inl rfl
    | looking woken => exact .inr (.inl (ends_looking found idle))
    | resting woken =>
      rcases parked woken member with somebody | rfl
      · omega
      · exact .inr (.inr (ends_woken distinct found idle))

/-- The call rests while both tasks have a batch, and ends after them. -/
theorem shutdown_waits_until_idle_two_tasks :
    (∀ n, Event.crash n ∉ twoTasks) ∧
    (∃ s : State Nat String, run State.step (.new ⟨2, 2⟩) (twoTasks.take 10) = some s ∧
      s.drains = [(7, .resting false)] ∧ 1 ≤ s.active) ∧
    (∃ s : State Nat String, run State.step (.new ⟨2, 2⟩) twoTasks = some s ∧
      s.drains = [(7, .finished)] ∧ s.shut = true ∧ s.pending = [] ∧ s.active = 0) := by
  have intact : ∀ n, Event.crash n ∉ twoTasks := by simp [twoTasks]
  refine ⟨intact, ?_, ?_⟩
  · have ran : ∃ s : State Nat String, run State.step (.new ⟨2, 2⟩) (twoTasks.take 10) = some s ∧
        s.drains = [(7, .resting false)] := ⟨_, rfl, rfl⟩
    obtain ⟨s, reached, drains⟩ := ran
    have early : ∀ n, Event.crash n ∉ twoTasks.take 10 := fun n member =>
      intact n (List.mem_of_mem_take member)
    have h := shutdown_waits_until_idle ⟨2, 2⟩ (twoTasks.take 10) s reached early 7
    have parked := h.2.2.1 false (by simp [drains])
    exact ⟨s, reached, drains, by simpa using parked⟩
  · have ran : ∃ s : State Nat String, run State.step (.new ⟨2, 2⟩) twoTasks = some s ∧
        s.drains = [(7, .finished)] := ⟨_, rfl, rfl⟩
    obtain ⟨s, reached, drains⟩ := ran
    have h := shutdown_waits_until_idle ⟨2, 2⟩ twoTasks s reached intact 7
    exact ⟨s, reached, drains, (h.2.1 (by simp [drains])).1⟩

end Courier.Batcher
