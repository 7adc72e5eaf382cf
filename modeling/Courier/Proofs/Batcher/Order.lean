import Courier.Proofs.Batcher.Tasks
import Mathlib.Data.List.Range

/-! Nothing is lost, doubled or put in another order between a submission and the handler. The
batches taken so far and the queue together are what was accepted, and what was accepted is the
first part of what was submitted. -/

namespace Courier.Batcher

variable {α ε : Type}

/-- What a run submits. The ticket of a submission is its place among all of them. -/
def submissions (es : List (Event α ε)) : List (Entry α) :=
  (es.filterMap fun | .submit item => some item | _ => none).zipIdx.map fun x => ⟨x.2, x.1⟩

theorem submissions_submit (es : List (Event α ε)) (item : α) :
    submissions (es ++ [.submit item]) = submissions es ++ [⟨(submissions es).length, item⟩] := by
  simp [submissions, List.zipIdx_append]

theorem submissions_other (es : List (Event α ε)) {e : Event α ε} (other : ∀ item, e ≠ .submit item) :
    submissions (es ++ [e]) = submissions es := by
  cases e with
  | submit item => exact absurd rfl (other item)
  | _ => simp [submissions]

theorem submissions_tickets (es : List (Event α ε)) :
    (submissions es).map (·.ticket) = List.range (submissions es).length := by
  simp [submissions, Function.comp_def, List.range_eq_range']

theorem batchSize_le (limits : Limits) (n : Nat) : batchSize limits n ≤ n := by
  unfold batchSize
  split
  · exact Nat.le_refl n
  · exact Nat.min_le_left n limits.maxBatchSize

theorem batchSize_pos (limits : Limits) {n : Nat} (waiting : 0 < n) : 0 < batchSize limits n := by
  unfold batchSize
  split
  · exact waiting
  · rename_i bounded
    exact Nat.lt_min.mpr ⟨waiting, Nat.pos_of_ne_zero bounded⟩

/-- How many batches so many waiting items make. -/
def batchCount (size waiting : Nat) : Nat :=
  if size = 0 then (if waiting = 0 then 0 else 1) else (waiting + size - 1) / size

theorem batchCount_zero (size : Nat) : batchCount size 0 = 0 := by
  unfold batchCount
  split
  · rfl
  · apply Nat.div_eq_of_lt
    omega

/-- Taking one batch leaves one batch less. -/
theorem batchCount_take (limits : Limits) {waiting : Nat} (some_waiting : 0 < waiting) :
    batchCount limits.maxBatchSize (waiting - batchSize limits waiting) + 1 =
      batchCount limits.maxBatchSize waiting := by
  by_cases unbounded : limits.maxBatchSize = 0
  · have all : batchSize limits waiting = waiting := by simp [batchSize, unbounded]
    rw [all, Nat.sub_self, batchCount_zero]
    simp only [batchCount, if_pos unbounded, if_neg (Nat.ne_of_gt some_waiting)]
  · have size : batchSize limits waiting = min waiting limits.maxBatchSize := by
      simp [batchSize, unbounded]
    rw [size]
    rcases Nat.le_total waiting limits.maxBatchSize with few | many
    · rw [Nat.min_eq_left few, Nat.sub_self, batchCount_zero, batchCount, if_neg unbounded]
      symm
      apply Nat.div_eq_of_lt_le
      · omega
      · omega
    · rw [Nat.min_eq_right many, batchCount, batchCount, if_neg unbounded, if_neg unbounded,
        ← Nat.add_div_right _ (Nat.pos_of_ne_zero unbounded)]
      congr 1
      omega

theorem front_length (s : State α ε) : s.front.length = batchSize s.limits s.pending.length := by
  rw [State.front, List.length_take, Nat.min_eq_left (batchSize_le _ _)]

theorem front_ne_nil {s : State α ε} (waiting : s.pending ≠ []) : s.front ≠ [] := by
  have size := batchSize_pos s.limits (List.length_pos_of_ne_nil waiting)
  rw [← front_length] at size
  exact List.ne_nil_of_length_pos size

theorem front_append_drop (s : State α ε) :
    s.front ++ s.pending.drop (batchSize s.limits s.pending.length) = s.pending :=
  List.take_append_drop _ _

/-- The submissions of a run, cut in two by the shutdown: accepted ones, and late ones. -/
structure Ordered (es : List (Event α ε)) (s : State α ε) : Prop where
  flow : s.taken.flatten ++ s.pending = s.accepted
  cut : ∃ late, submissions es = s.accepted ++ late ∧ s.refused = late.map (·.ticket)
  closed : s.refused ≠ [] → s.shut = true
  full : ∀ b ∈ s.taken, b ≠ []

theorem Ordered.nextTicket {es : List (Event α ε)} {s : State α ε} (ordered : Ordered es s) :
    s.nextTicket = (submissions es).length := by
  obtain ⟨late, all, refused⟩ := ordered.cut
  simp [State.nextTicket, all, refused]

/-- Before the shutdown nothing is refused. -/
theorem Ordered.all_accepted {es : List (Event α ε)} {s : State α ε} (ordered : Ordered es s)
    (accepting : s.shut = false) : s.refused = [] ∧ submissions es = s.accepted := by
  obtain ⟨late, all, refused⟩ := ordered.cut
  have none_refused : s.refused = [] := by
    by_contra some_refused
    simp [ordered.closed some_refused] at accepting
  rw [none_refused] at refused
  rw [List.map_eq_nil_iff.mp refused.symm, List.append_nil] at all
  exact ⟨none_refused, all⟩

theorem Ordered.accept {es : List (Event α ε)} {s : State α ε} (ordered : Ordered es s)
    (accepting : s.shut = false) (item : α) :
    (∃ late, submissions (es ++ [.submit item]) =
        (s.accepted ++ [⟨s.nextTicket, item⟩]) ++ late ∧ s.refused = late.map (·.ticket)) ∧
      s.taken.flatten ++ (s.pending ++ [⟨s.nextTicket, item⟩]) =
        s.accepted ++ [⟨s.nextTicket, item⟩] := by
  obtain ⟨none_refused, all⟩ := ordered.all_accepted accepting
  refine ⟨⟨[], ?_, none_refused⟩, ?_⟩
  · rw [submissions_submit, ordered.nextTicket, all, List.append_nil]
  · rw [← List.append_assoc, ordered.flow]

theorem ordered_next {es : List (Event α ε)} {s t : State α ε} {e : Event α ε}
    (ordered : Ordered es s) (moved : Moves s e t) : Ordered (es ++ [e]) t := by
  have ⟨flow, cut, closed, full⟩ := ordered
  cases moved with
  | refuse item shut =>
    obtain ⟨late, all, refused⟩ := cut
    refine ⟨flow, ⟨late ++ [⟨s.nextTicket, item⟩], ?_, ?_⟩, fun _ => shut, full⟩
    · rw [submissions_submit, ordered.nextTicket, all, List.append_assoc]
    · simp [refused]
  | start item accepting | queue item accepting =>
    obtain ⟨cut, flow⟩ := ordered.accept accepting item
    exact ⟨flow, cut, closed, full⟩
  | take _ waiting =>
    refine ⟨?_, by rw [submissions_other _ (by simp)]; exact cut, closed, ?_⟩
    · dsimp only
      rw [List.flatten_append, List.flatten_singleton, List.append_assoc, front_append_drop, flow]
    · intro b member
      rcases List.mem_append.mp member with old | new
      · exact full b old
      · exact List.mem_singleton.mp new ▸ front_ne_nil waiting
  | drain _ _ _ _ kept =>
    exact ⟨flow, by rw [submissions_other _ (by simp)]; exact cut, fun late => kept (closed late),
      full⟩
  | _ => exact ⟨flow, by rw [submissions_other _ (by simp)]; exact cut, closed, full⟩

theorem ordered_of_run {limits : Limits} {es : List (Event α ε)} {s : State α ε}
    (reached : run State.step (.new limits) es = some s) : Ordered es s := by
  refine run_invariant ⟨rfl, ⟨[], rfl, rfl⟩, by simp [State.new], by simp [State.new]⟩ ?_ reached
  intro es s e t _ ordered moved
  exact ordered_next ordered (moves_of_step moved)

/-- The tickets of all that was taken, waits or was refused are the places of the submissions. -/
theorem Ordered.tickets {es : List (Event α ε)} {s : State α ε} (ordered : Ordered es s) :
    (s.taken.flatten ++ s.pending).map (·.ticket) ++ s.refused =
      List.range (submissions es).length := by
  obtain ⟨late, all, refused⟩ := ordered.cut
  rw [ordered.flow, refused, ← List.map_append, ← all, submissions_tickets]

/-- Where nothing waits, all that was accepted is in a batch. -/
theorem Ordered.in_batch {es : List (Event α ε)} {s : State α ε} (ordered : Ordered es s)
    (empty : s.pending = []) {e : Entry α} (accepted : e ∈ s.accepted) :
    ∃ (n : Nat) (b : List (Entry α)), s.taken[n]? = some b ∧ e ∈ b := by
  rw [← ordered.flow, empty, List.append_nil] at accepted
  obtain ⟨b, member, inside⟩ := List.mem_flatten.mp accepted
  obtain ⟨n, taken⟩ := List.mem_iff_getElem?.mp member
  exact ⟨n, b, taken, inside⟩

theorem Ordered.nodup {es : List (Event α ε)} {s : State α ε} (ordered : Ordered es s) :
    ((s.taken.flatten ++ s.pending).map (·.ticket) ++ s.refused).Nodup :=
  ordered.tickets ▸ List.nodup_range

/-- A step leaves the batches alone, or makes one more of as many items from the front of the queue
as the limit allows and hands it to a handler call of its own. -/
def Takes (s t : State α ε) : Prop :=
  (t.taken = s.taken ∧ s.pending <+: t.pending ∧ t.running ⊆ s.running) ∨
  ∃ batch, batch ≠ [] ∧ s.pending = batch ++ t.pending ∧
    batch.length = (if s.limits.maxBatchSize = 0 then s.pending.length
      else min s.pending.length s.limits.maxBatchSize) ∧
    t.taken = s.taken ++ [batch] ∧ t.running = s.running ++ [⟨s.taken.length, batch⟩]

theorem takes_of_moves {s t : State α ε} {e : Event α ε} (moved : Moves s e t) : Takes s t := by
  cases moved with
  | take _ waiting =>
    exact .inr ⟨s.front, front_ne_nil waiting, (front_append_drop s).symm, front_length s, rfl, rfl⟩
  | start | queue => exact .inl ⟨rfl, List.prefix_append _ _, List.Subset.refl _⟩
  | finish | crash => exact .inl ⟨rfl, List.prefix_refl _, List.filter_subset_self _⟩
  | _ => exact .inl ⟨rfl, List.prefix_refl _, List.Subset.refl _⟩

/-! A waiter that gives up leaves a mark that nothing reads. -/

def Event.leaves : Event α ε → Bool
  | .leave _ => true
  | _ => false

def State.forget (s : State α ε) : State α ε := { s with left := [] }

theorem forget_of_leave {s t : State α ε} {e : Event α ε} (leaves : e.leaves = true)
    (moved : s.step e = some t) : t.forget = s.forget := by
  cases e with
  | leave ticket => exact Option.some.inj moved ▸ rfl
  | _ => contradiction

theorem forget_submit (s : State α ε) (item : α) :
    s.forget.submit item = (s.submit item).forget := by
  by_cases shut : s.shut = true
  · simp [State.submit, State.forget, State.nextTicket, shut]
  · by_cases room : s.active < maxActive s.limits
    · simp [State.submit, State.forget, State.nextTicket, shut, room]
    · simp [State.submit, State.forget, State.nextTicket, shut, room]

theorem forget_look (s : State α ε) : s.forget.look = s.look.forget := by
  by_cases empty : s.pending.isEmpty = true
  · by_cases last : s.active - 1 = 0
    · simp [State.look, State.forget, State.endTask, empty, last]
    · simp [State.look, State.forget, State.endTask, empty, last]
  · simp [State.look, State.forget, State.takeBatch, empty]

theorem forget_moveDrain (s : State α ε) (id : Nat) (move : DrainMove) :
    s.forget.moveDrain id move = (s.moveDrain id move).map State.forget := by
  have same : s.forget.drain? id = s.drain? id := rfl
  cases move with
  | start => simp only [State.moveDrain, same]; split <;> rfl
  | look => simp only [State.moveDrain, same]; split <;> rfl
  | wake => simp only [State.moveDrain, same]; split <;> rfl
  | leave => rfl

theorem forget_step (s : State α ε) {e : Event α ε} (stays : e.leaves = false) :
    s.forget.step e = (s.step e).map State.forget := by
  cases e with
  | submit item => exact congrArg some (forget_submit s item)
  | leave ticket => contradiction
  | look =>
    simp only [State.step, forget_look]
    split
    · rename_i none_looking
      simp only [show s.looking = 0 from none_looking, if_true, Option.map_none]
    · rename_i some_looking
      simp only [show s.looking ≠ 0 from some_looking, if_false, Option.map_some]
  | finish n how =>
    have same : s.forget.running? n = s.running? n := rfl
    simp only [State.step, same]
    cases s.running? n <;> rfl
  | crash n =>
    have same : s.forget.running? n = s.running? n := rfl
    simp only [State.step, same]
    cases s.running? n <;> rfl
  | drain id move => exact forget_moveDrain s id move

/-- The same run in which nobody gives up. -/
theorem run_without_leaving {limits : Limits} {es : List (Event α ε)} {s : State α ε}
    (reached : run State.step (.new limits) es = some s) :
    run State.step (.new limits) (es.filter fun e => !e.leaves) = some s.forget := by
  refine run_invariant (P := fun es s =>
    run State.step (.new limits) (es.filter fun e => !e.leaves) = some s.forget) rfl ?_ reached
  intro es s e t _ ih moved
  rw [List.filter_append]
  cases leaves : e.leaves with
  | true =>
    rw [List.filter_cons_of_neg (by simp [leaves]), List.filter_nil, List.append_nil, ih,
      forget_of_leave leaves moved]
  | false =>
    rw [List.filter_cons_of_pos (by simp [leaves]), List.filter_nil, run_snoc]
    exact ⟨s.forget, ih, by rw [forget_step s leaves, moved, Option.map_some]⟩

/-- The handler gets every accepted item once and in the order of submission, and no other item. -/
theorem batches_follow_submissions (limits : Limits) (es : List (Event α ε)) (s : State α ε)
    (reached : run State.step (.new limits) es = some s) :
    s.taken.flatten ++ s.pending = s.accepted ∧
    (∃ late, submissions es = s.accepted ++ late ∧ s.refused = late.map (·.ticket)) ∧
    (s.shut = false → s.accepted = submissions es) ∧
    (s.taken.flatten.map (·.ticket)).Nodup ∧
    (∀ e ∈ s.taken.flatten, e.ticket ∉ s.refused) ∧
    (∀ b ∈ s.taken, b ≠ []) ∧
    (∀ e t, s.step e = some t → Takes s t) ∧
    run State.step (.new limits) (es.filter fun e => !e.leaves) = some { s with left := [] } ∧
    s.running.length ≤ max 1 limits.maxHandlers := by
  have ordered := ordered_of_run reached
  have staffed := staffed_of_run reached
  have distinct := List.nodup_append.mp ordered.nodup
  refine ⟨ordered.flow, ordered.cut, ?_, ?_, ?_, ordered.full, ?_, run_without_leaving reached, ?_⟩
  · exact fun accepting => (ordered.all_accepted accepting).2.symm
  · exact distinct.1.sublist ((List.sublist_append_left _ _).map _)
  · intro e member refused
    have taken : e.ticket ∈ (s.taken.flatten ++ s.pending).map (·.ticket) :=
      List.mem_map_of_mem (List.mem_append_left _ member)
    exact distinct.2.2 e.ticket taken e.ticket refused rfl
  · exact fun e t moved => takes_of_moves (moves_of_step moved)
  · have counted := staffed.counted
    have limited := staffed.limited
    rw [limits_kept reached] at limited
    have same : maxActive limits = max 1 limits.maxHandlers := Nat.max_comm _ _
    omega

/-- Two tasks, batches of two; a waiter that gives up, a failure, a panic and a shutdown. -/
def twoTasks : List (Event Nat String) :=
  [.submit 10, .submit 11, .submit 12, .look, .look, .submit 13, .leave 0,
    .finish 0 (.returned (.error .canceled)), .drain 7 .start, .drain 7 .look, .submit 14, .look,
    .finish 1 .panicked, .finish 2 (.returned (.ok ())), .look, .look, .drain 7 .wake, .drain 7 .look]

theorem batches_follow_submissions_two_tasks :
    ∃ s : State Nat String, run State.step (.new ⟨2, 2⟩) twoTasks = some s ∧
      s.taken.map (·.map (·.item)) = [[10, 11], [12], [13]] ∧ s.refused = [4] ∧
      s.taken.flatten ++ s.pending = s.accepted ∧ s.running.length ≤ max 1 2 := by
  have ran : ∃ s : State Nat String, run State.step (.new ⟨2, 2⟩) twoTasks = some s ∧
      s.taken.map (·.map (·.item)) = [[10, 11], [12], [13]] ∧ s.refused = [4] := ⟨_, rfl, rfl, rfl⟩
  obtain ⟨s, reached, taken, refused⟩ := ran
  have h := batches_follow_submissions ⟨2, 2⟩ twoTasks s reached
  obtain ⟨flow, _, _, _, _, _, _, _, calls⟩ := h
  exact ⟨s, reached, taken, refused, flow, calls⟩

end Courier.Batcher
