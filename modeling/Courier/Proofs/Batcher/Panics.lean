import Courier.Proofs.Batcher.Answers
import Courier.Proofs.Batcher.Waking

/-! Handlers that panic. A panic while a handler call is awaited is an answer like any other, and the
task that awaited it goes on. A handler that panics before there is anything to await is another
matter: its task is gone but stays counted, its waiters are left without an answer, and no call that
shuts down ends any more. The other tasks are not affected, and as long as there is one of them nothing
waits in vain. -/

namespace Courier.Batcher

variable {α ε : Type} {limits : Limits} {es : List (Event α ε)} {s t : State α ε}

/-- As long as another task may be started, every waiting item has a task that is about to look. -/
theorem looked_for_of_run (reached : run State.step (.new limits) es = some s)
    (room : s.active < maxActive s.limits) : s.pending.length ≤ s.looking := by
  refine run_invariant (P := fun _ s => s.active < maxActive s.limits → s.pending.length ≤ s.looking)
    (fun _ => Nat.le_refl 0) ?_ reached room
  intro es s e t before ih moved room
  cases moves_of_step moved with
  | start item _ free =>
    have fewer := ih free
    simp only [List.length_append, List.length_singleton]
    omega
  | queue item _ full => exact absurd room (Nat.not_lt.mpr full)
  | quit _ empty =>
    dsimp only
    simp only [empty, List.length_nil, Nat.zero_le]
  | take some_looking waiting =>
    have fewer := ih room
    have size := batchSize_pos s.limits (List.length_pos_of_ne_nil waiting)
    simp only [List.length_drop]
    omega
  | finish => exact Nat.le_succ_of_le (ih room)
  | _ => exact ih room

/-- Somebody is there for the waiting items until the last task has been lost. -/
theorem somebody_left (reached : run State.step (.new limits) es = some s) (waiting : s.pending ≠ [])
    (left : crashes es < maxActive limits) : 1 ≤ s.looking + s.running.length := by
  have counted := (staffed_of_run reached).counted
  have some_waiting := List.length_pos_of_ne_nil waiting
  -- With a slot free somebody looks; with all slots taken those that are not lost are there.
  rcases Nat.lt_or_ge s.active (maxActive s.limits) with room | full
  · have fewer := looked_for_of_run reached room
    omega
  · rw [limits_kept reached] at full
    omega

/-- What became of the handler call with this number: it never ended, it is not running, and whoever
waited for it was forgotten. -/
structure Lost (es : List (Event α ε)) (s : State α ε) (n : Nat) : Prop where
  silent : endings es n = []
  gone : n ∉ s.running.map (·.number)
  forgotten : ∃ b, s.taken[n]? = some b ∧ ∀ e ∈ b, e.ticket ∈ s.abandoned

theorem gone_without {n : Nat} (gone : n ∉ s.running.map (·.number)) (m : Nat) :
    n ∉ (s.withoutRunning m).map (·.number) := by
  intro running
  obtain ⟨r, kept, rfl⟩ := List.mem_map.mp running
  exact gone (List.mem_map_of_mem (mem_withoutRunning.mp kept).1)

theorem Lost.next {n : Nat} {e : Event α ε} (lost : Lost es s n) (moved : Moves s e t) :
    Lost (es ++ [e]) t n := by
  obtain ⟨silent, gone, b, taken, forgotten⟩ := lost
  have old : n < s.taken.length := (List.getElem?_eq_some_iff.mp taken).1
  have unheard : (∀ m how, e ≠ .finish m how) → endings (es ++ [e]) n = [] := by
    intro other
    rw [endings_other es other]
    exact silent
  cases moved with
  | take =>
    refine ⟨unheard (by simp), ?_, b, ?_, forgotten⟩
    · simp only [List.map_append, List.mem_append, List.map_singleton, List.mem_singleton]
      rintro (running | new)
      · exact gone running
      · omega
    · rw [List.getElem?_append_left old]
      exact taken
  | finish r how member =>
    have apart : r.number ≠ n := fun same => gone (same ▸ List.mem_map_of_mem member)
    refine ⟨?_, gone_without gone r.number, b, taken, forgotten⟩
    rw [endings_finish, if_neg apart, silent, List.append_nil]
  | crash r member =>
    refine ⟨unheard (by simp), gone_without gone r.number, b, taken, ?_⟩
    intro x inside
    exact List.mem_append_left _ (forgotten x inside)
  | _ => exact ⟨unheard (by simp), gone, b, taken, forgotten⟩

theorem lost_of_crash (reached : run State.step (.new limits) es = some s) {n : Nat}
    (crashed : .crash n ∈ es) : Lost es s n := by
  refine run_invariant (P := fun es s => ∀ n, .crash n ∈ es → Lost es s n) (by simp) ?_ reached n
    crashed
  intro es s e t before ih moved n crashed
  have moves := moves_of_step moved
  rcases List.mem_append.mp crashed with earlier | now
  · exact (ih n earlier).next moves
  · cases List.mem_singleton.mp now
    cases moves with
    | crash r member =>
      have silent := (ended_of_run before).busy r member
      have batch := (calls_of_run before).batch r member
      refine ⟨?_, ?_, r.batch, batch, ?_⟩
      · rw [endings_other es (by simp)]
        exact silent
      · intro running
        obtain ⟨x, kept, same⟩ := List.mem_map.mp running
        exact (mem_withoutRunning.mp kept).2 same
      · intro x inside
        exact List.mem_append_right _ (List.mem_map_of_mem inside)

theorem crashes_append (es fs : List (Event α ε)) : crashes (es ++ fs) = crashes es + crashes fs :=
  List.countP_append

/-- Once a task was lost for every slot, no batch is handed out any more. -/
theorem wedged_for_good {fs : List (Event α ε)} (reached : run State.step (.new limits) es = some s)
    (none_left : maxActive limits ≤ crashes es) (later : run State.step s fs = some t) :
    t.taken = s.taken := by
  refine run_invariant (P := fun _ t => t.taken = s.taken) rfl ?_ later
  intro fs t e u before same moved
  have ran := run_trans reached before
  cases moves_of_step moved with
  | take some_looking =>
    have ⟨counted, limited, _⟩ := staffed_of_run ran
    rw [limits_kept ran] at limited
    rw [crashes_append] at counted
    omega
  | _ => exact same

/-- Whatever is accepted gets its turn as long as a task is left, and its handler call then ended,
once, or crashed. -/
theorem handled_or_lost (reached : run State.step (.new limits) es = some s) (empty : s.pending = [])
    (gone : s.running = []) {e : Entry α} (accepted : e ∈ s.accepted) :
    ∃ n b, s.taken[n]? = some b ∧ e ∈ b ∧
      (.crash n ∈ es ∨ ∃ how, endings es n = [how] ∧ s.answers e.ticket = [outcomeOf how]) := by
  obtain ⟨n, b, taken, inside⟩ := (ordered_of_run reached).in_batch empty accepted
  refine ⟨n, b, taken, inside, ?_⟩
  have settled := (ended_of_run reached).settled n (List.getElem?_eq_some_iff.mp taken).1
  simp only [gone, List.map_nil, List.not_mem_nil, false_or] at settled
  rcases settled with crashed | ⟨how, once⟩
  · exact .inl crashed
  · refine .inr ⟨how, once, ?_⟩
    rw [(answered_of_run reached).handled n b taken e inside, once, List.map_singleton]

/-- A panic that is awaited is told to the batch and costs no task. A panic before that costs its task
for good and leaves its batch without an answer; the tasks that are left serve what waits, and once
none is left nothing is handed out. Calls that shut down end as long as no task was lost. -/
theorem panics_accounted_for (limits : Limits) (es : List (Event α ε)) (s : State α ε)
    (reached : run State.step (.new limits) es = some s) :
    (∀ n b, s.taken[n]? = some b → .panicked ∈ endings es n → ∀ e ∈ b, s.answers e.ticket =
      [.error (.canonical .internal "batcher: batch handler panicked")]) ∧
    (∀ n how t, s.step (.finish n how) = some t →
      t.looking = s.looking + 1 ∧ t.active = s.active) ∧
    (∀ n, .crash n ∈ es → ∃ b, s.taken[n]? = some b ∧
      ∀ e ∈ b, s.answers e.ticket = [] ∧ e.ticket ∈ s.abandoned) ∧
    s.looking + s.running.length + crashes es = s.active ∧
    s.active ≤ max 1 limits.maxHandlers ∧
    (crashes es < max 1 limits.maxHandlers →
      (s.pending ≠ [] → 1 ≤ s.looking + s.running.length) ∧
      (s.looking + s.running.length = 0 → ∀ e ∈ s.accepted, ∃ n b, s.taken[n]? = some b ∧ e ∈ b ∧
        (.crash n ∈ es ∨ ∃ how, endings es n = [how] ∧ s.answers e.ticket = [outcomeOf how]))) ∧
    (max 1 limits.maxHandlers ≤ crashes es →
      ∀ fs t, run State.step s fs = some t → t.taken = s.taken) ∧
    (crashes es = 0 → ∀ id woken, (id, .resting woken) ∈ s.drains →
      1 ≤ s.looking + s.running.length ∨ woken = true) ∧
    (0 < crashes es → ∀ id, (id, .finished) ∉ s.drains) := by
  have answered := answered_of_run reached
  have ended := ended_of_run reached
  obtain ⟨counted, limited, _⟩ := staffed_of_run reached
  rw [limits_kept reached] at limited
  have slots : maxActive limits = max 1 limits.maxHandlers := Nat.max_comm _ _
  rw [slots] at limited
  refine ⟨?_, ?_, ?_, counted, limited, ?_, ?_, ?_, ?_⟩
  · intro n b taken panicked e inside
    have settled := ended.settled n (List.getElem?_eq_some_iff.mp taken).1
    rw [answered.handled n b taken e inside]
    rcases settled with running | crashed | ⟨how, once⟩
    · obtain ⟨r, member, rfl⟩ := List.mem_map.mp running
      rw [ended.busy r member] at panicked
      cases panicked
    · rw [(lost_of_crash reached crashed).silent] at panicked
      cases panicked
    · rw [once] at panicked ⊢
      cases List.mem_singleton.mp panicked
      rfl
  · intro n how t moved
    obtain ⟨_, _, _, rfl⟩ := finish_of_step moved
    exact ⟨rfl, rfl⟩
  · intro n crashed
    obtain ⟨silent, _, b, taken, forgotten⟩ := lost_of_crash reached crashed
    refine ⟨b, taken, fun e inside => ⟨?_, forgotten e inside⟩⟩
    rw [answered.handled n b taken e inside, silent, List.map_nil]
  · intro left
    have somebody : s.pending ≠ [] → 1 ≤ s.looking + s.running.length := fun waiting =>
      somebody_left reached waiting (slots ▸ left)
    refine ⟨somebody, fun nobody e accepted => ?_⟩
    have empty : s.pending = [] := by
      by_contra waiting
      have there := somebody waiting
      omega
    have gone : s.running = [] := List.length_eq_zero_iff.mp (by omega)
    exact handled_or_lost reached empty gone accepted
  · intro none_left fs t later
    exact wedged_for_good reached (slots ▸ none_left) later
  · intro whole id woken member
    cases woken with
    | true => exact .inr rfl
    | false =>
      have parked := parked_of_run reached member
      exact .inl (by omega)
  · intro some_lost id member
    have gone := (drained_of_finished reached member).gone
    omega

/-- One handler panics before it can be awaited, the other one while it is. -/
def bothPanics : List (Event Nat String) :=
  [.submit 10, .submit 11, .look, .look, .crash 0, .finish 1 .panicked, .submit 12, .look,
    .finish 2 (.returned (.ok ())), .look, .drain 7 .start, .drain 7 .look]

theorem panics_accounted_for_both_panics :
    ∃ s : State Nat String, run State.step (.new ⟨2, 1⟩) bothPanics = some s ∧
      s.taken = [[⟨0, 10⟩], [⟨1, 11⟩], [⟨2, 12⟩]] ∧
      s.answers 1 = [.error (.canonical .internal "batcher: batch handler panicked")] ∧
      s.answers 0 = [] ∧ 0 ∈ s.abandoned ∧ s.looking + s.running.length = 0 ∧ s.active = 1 ∧
      (7, .finished) ∉ s.drains := by
  have ran : ∃ s : State Nat String, run State.step (.new ⟨2, 1⟩) bothPanics = some s ∧
      s.taken = [[⟨0, 10⟩], [⟨1, 11⟩], [⟨2, 12⟩]] ∧ s.looking + s.running.length = 0 :=
    ⟨_, rfl, rfl, rfl⟩
  obtain ⟨s, reached, taken, gone⟩ := ran
  have h := panics_accounted_for ⟨2, 1⟩ bothPanics s reached
  obtain ⟨told, _, lost, counted, _, _, _, _, stuck⟩ := h
  have one : crashes bothPanics = 1 := rfl
  have panicked : s.answers 1 = _ := told 1 [⟨1, 11⟩] (by simp [taken]) (by simp [bothPanics, endings])
    ⟨1, 11⟩ List.mem_cons_self
  obtain ⟨b, first, forgotten⟩ := lost 0 (by simp [bothPanics])
  simp only [taken, List.getElem?_cons_zero, Option.some.injEq] at first
  obtain ⟨silent, abandoned⟩ := forgotten ⟨0, 10⟩ (first ▸ List.mem_cons_self)
  exact ⟨s, reached, taken, panicked, silent, abandoned, gone, by omega, stuck (by omega) 7⟩

/-- The only task is lost with its handler: the item that comes after it waits without a task, the
first waiter has no answer, and a call that shuts down is parked with nothing left that could move. -/
theorem wedged_by_crash :
    ∃ s : State Nat String, run State.step (.new ⟨1, 100⟩)
        [.submit 10, .look, .crash 0, .submit 11, .drain 7 .start, .drain 7 .look] = some s ∧
      s.pending ≠ [] ∧ s.looking + s.running.length = 0 ∧ s.answers 0 = [] ∧
      s.drains = [(7, .resting false)] ∧ s.next?.isNone = true := by
  refine ⟨_, rfl, ?_, rfl, rfl, rfl, rfl⟩
  exact List.cons_ne_nil _ _

end Courier.Batcher
