import Courier.Proofs.Batcher.Answers
import Courier.Proofs.Batcher.Drains
import Courier.Proofs.Outbox.Moves

/-! The batcher inside an outbox. It runs as any batcher does, with one handler task and without a
crash, so that one batch at most is on its way, and each batch is where the handler call of its
number has it: taken and not passed on, or in the provider's hands. -/

namespace Courier.Outbox

variable {α ε : Type} {limits : Limits} {provider : Provider ε} {policy : Retry.Policy}
  {es : List (Event α ε)} {bs : List (Batcher.Event α ε)} {s : State α ε}

theorem batcher_moves {t : State α ε} {e : Event α ε} {more : List (Batcher.Event α ε)}
    (moved : Moves s e more t) : run Batcher.State.step s.batcher more = some t.batcher := by
  cases moved with
  | pass _ moved => simp [run, moved]
  | look moved => simp [run, moved]
  | settle _ _ moved => simp [run, moved]
  | _ => rfl

theorem batcher_run (reached : Reached limits provider policy es bs s) :
    run Batcher.State.step (.new limits.single) bs = some s.batcher := by
  induction reached with
  | start => rfl
  | next _ moved ih => exact run_trans ih (batcher_moves moved)

theorem grows_of_reached (before : Reached limits provider policy es bs s) {fs : List (Event α ε)}
    {more : List (Batcher.Event α ε)} {t : State α ε}
    (after : Reached limits provider policy (es ++ fs) (bs ++ more) t) :
    Batcher.Grows s.batcher t.batcher := by
  have ran := batcher_run after
  rw [run_append, batcher_run before] at ran
  exact Batcher.grows_of_run ran

theorem settings_kept (reached : Reached limits provider policy es bs s) :
    s.provider = provider ∧ s.policy = policy := by
  induction reached with
  | start => exact ⟨rfl, rfl⟩
  | next _ moved ih => cases moved <;> exact ih

theorem intact (reached : Reached limits provider policy es bs s) (n : Nat) :
    Batcher.Event.crash n ∉ bs := by
  induction reached with
  | start => exact List.not_mem_nil
  | @next _ _ _ _ _ e _ moved ih =>
    rw [List.mem_append, not_or]
    refine ⟨ih, ?_⟩
    cases moved with
    | @pass _ inner _ passed =>
      cases e with
      | submit | leave | drain => cases passed; simp
      | _ => cases passed
    | _ => simp

theorem submissions_items (reached : Reached limits provider policy es bs s) :
    (Batcher.submissions bs).map (·.item) = es.filterMap Event.item? := by
  induction reached with
  | start => rfl
  | @next es bs _ _ _ e _ moved ih =>
    rw [List.filterMap_append, ← ih]
    cases moved with
    | @pass _ inner _ passed =>
      cases e with
      | submit item =>
        cases passed
        rw [Batcher.submissions_submit, List.map_append]
        rfl
      | leave | drain =>
        cases passed
        rw [Batcher.submissions_other _ (by simp)]
        simp [Event.item?]
      | _ => cases passed
    | look => rw [Batcher.submissions_other _ (by simp)]; simp [Event.item?]
    | settle _ ends =>
      rw [Batcher.submissions_other _ (by simp)]
      cases ends <;> simp [Event.item?]
    | _ => simp [Event.item?]

/-- What a run submits, each item with its place among all of them. -/
def posted (es : List (Event α ε)) : List (Entry α) :=
  (es.filterMap Event.item?).zipIdx.map fun x => ⟨x.2, x.1⟩

theorem posted_submit (es : List (Event α ε)) (item : α) :
    posted (es ++ [.submit item]) = posted es ++ [⟨(posted es).length, item⟩] := by
  simp [posted, List.zipIdx_append, Event.item?]

theorem posted_other (es : List (Event α ε)) {more : List (Event α ε)}
    (silent : more.filterMap Event.item? = []) : posted (es ++ more) = posted es := by
  rw [posted, List.filterMap_append, silent, List.append_nil, posted]

theorem submissions_eq (reached : Reached limits provider policy es bs s) :
    Batcher.submissions bs = posted es := by
  have items := submissions_items reached
  simp only [Batcher.submissions, List.map_map, Function.comp_def, List.zipIdx_map_fst] at items
  rw [Batcher.submissions, items, posted]

theorem one_task (reached : Reached limits provider policy es bs s) :
    s.batcher.looking + s.batcher.running.length ≤ 1 ∧
      s.batcher.looking + s.batcher.running.length = s.batcher.active := by
  obtain ⟨counted, limited, _⟩ := Batcher.staffed_of_run (batcher_run reached)
  rw [Batcher.crashes_eq_zero (intact reached), Nat.add_zero] at counted
  rw [Batcher.limits_kept (batcher_run reached)] at limited
  have one : Batcher.maxActive limits.single = 1 := rfl
  omega

/-- A batcher with nothing left has no handler call running. -/
theorem idle_of_drained (reached : Reached limits provider policy es bs s)
    (drained : Batcher.Drained s.batcher) : s.batcher.running = [] := by
  have counted := (one_task reached).2
  have gone := drained.gone
  exact List.length_eq_zero_iff.mp (by omega)

theorem passed_keeps {e : Event α ε} {inner : Batcher.Event α ε} {b c : Batcher.State α ε}
    (passed : e.passed? = some inner) (moved : b.step inner = some c) :
    c.running = b.running ∧ c.taken = b.taken := by
  cases Batcher.moves_of_step moved with
  | quit | take | finish | crash => cases e <;> cases passed
  | _ => exact ⟨rfl, rfl⟩

/-- A handler task that looks is the only one, and no handler call runs. It ends, or has the next
batch. -/
theorem look_cases (reached : Reached limits provider policy es bs s) {b : Batcher.State α ε}
    (moved : s.batcher.step .look = some b) : s.batcher.running = [] ∧
      ((b.running = [] ∧ b.taken = s.batcher.taken ∧ b.running? s.batcher.taken.length = none) ∨
        ∃ batch, b.running = [⟨s.batcher.taken.length, batch⟩] ∧
          b.taken = s.batcher.taken ++ [batch] ∧
          b.running? s.batcher.taken.length = some ⟨s.batcher.taken.length, batch⟩) := by
  have single := (one_task reached).1
  have idle : s.batcher.looking ≠ 0 → s.batcher.running = [] := by
    intro some_looking
    exact List.length_eq_zero_iff.mp (by omega)
  cases Batcher.moves_of_step moved with
  | quit some_looking empty =>
    have none_running := idle some_looking
    exact ⟨none_running, .inl ⟨none_running, rfl, by simp [Batcher.State.running?, none_running]⟩⟩
  | take some_looking waiting =>
    have none_running := idle some_looking
    refine ⟨none_running, .inr ⟨s.batcher.front, by simp [none_running], rfl, ?_⟩⟩
    simp [Batcher.State.running?, none_running]

/-- The handler calls that run are the batch that was taken and the batch that is delivered. -/
theorem hands (reached : Reached limits provider policy es bs s) :
    s.batcher.running = s.ready.toList ++ (s.delivery.map Delivery.held).toList := by
  induction reached with
  | start => rfl
  | @next _ _ _ s t e before moved ih =>
    have single := (one_task before).1
    cases moved with
    | pass passed moved => rw [(passed_keeps passed moved).1, ih]
    | look moved =>
      obtain ⟨idle, quit | ⟨batch, take⟩⟩ := look_cases before moved
      · rw [idle, eq_comm, List.append_eq_nil_iff] at ih
        simp [quit, ih]
      · rw [idle, eq_comm, List.append_eq_nil_iff] at ih
        simp [take, ih]
    | call ready =>
      rw [ready] at ih
      rw [ih] at single
      have free : (s.delivery.map Delivery.held).toList = [] :=
        List.length_eq_zero_iff.mp (by simp at single; omega)
      simpa [free, Delivery.held] using ih
    | @settle _ d how b delivery ends moved =>
      obtain ⟨r, member, number, rfl⟩ := Batcher.finish_of_step moved
      rw [delivery] at ih
      rw [ih] at single
      have free : s.ready.toList = [] := List.length_eq_zero_iff.mp (by simp at single; omega)
      simp [Batcher.State.withoutRunning, ih, free, Delivery.held]
    | pause delivery => simpa [delivery, Delivery.held] using ih
    | retry delivery => simpa [delivery, Delivery.held] using ih
    | stop => exact ih

/-- Whoever looks has nothing in hand. -/
theorem empty_handed (reached : Reached limits provider policy es bs s)
    (idle : s.batcher.running = []) : s.ready = none ∧ s.delivery = none := by
  have hands := hands reached
  rw [idle, eq_comm, List.append_eq_nil_iff, Option.toList_eq_nil_iff, Option.toList_eq_nil_iff,
    Option.map_eq_none_iff] at hands
  exact hands

theorem ready_batch (reached : Reached limits provider policy es bs s) {r : Batcher.Running α}
    (ready : s.ready = some r) : r ∈ s.batcher.running ∧ s.delivery = none := by
  have running := hands reached
  have single := (one_task reached).1
  rw [ready] at running
  rw [running] at single
  refine ⟨by simp [running], ?_⟩
  cases delivery : s.delivery with
  | none => rfl
  | some d => simp [delivery] at single

theorem delivery_batch (reached : Reached limits provider policy es bs s) {d : Delivery α ε}
    (delivery : s.delivery = some d) : d.held ∈ s.batcher.running ∧ s.ready = none := by
  have running := hands reached
  refine ⟨by simp [running, delivery], ?_⟩
  cases ready : s.ready with
  | none => rfl
  | some r => simp [(ready_batch reached ready).2] at delivery

theorem accepted_kept {t : State α ε} {e : Event α ε} {more : List (Batcher.Event α ε)}
    (moved : Moves s e more t) (silent : e.item? = none) :
    t.batcher.accepted = s.batcher.accepted := by
  cases moved with
  | pass passed moved =>
    cases Batcher.moves_of_step moved with
    | start | queue =>
      cases e with
      | submit => cases silent
      | _ => cases passed
    | _ => rfl
  | look moved => cases Batcher.moves_of_step moved <;> rfl
  | settle _ _ moved =>
    obtain ⟨r, _, _, rfl⟩ := Batcher.finish_of_step moved
    rfl
  | _ => rfl

theorem accepted_run {t : State α ε} {fs : List (Event α ε)} (ran : run State.step s fs = some t)
    (silent : fs.filterMap Event.item? = []) : t.batcher.accepted = s.batcher.accepted := by
  induction fs generalizing s with
  | nil => exact Option.some.inj ran ▸ rfl
  | cons e fs ih =>
    obtain ⟨u, stepped, rest⟩ := Option.bind_eq_some_iff.mp ran
    obtain ⟨more, moved⟩ := moves_of_step stepped
    rw [List.filterMap_eq_nil_iff, List.forall_mem_cons] at silent
    rw [ih rest (List.filterMap_eq_nil_iff.mpr silent.2), accepted_kept moved silent.1]

theorem accepted_submit {t : State α ε} {item : α} (moved : s.step (.submit item) = some t) :
    t.batcher.accepted =
      s.batcher.accepted ++ if s.batcher.shut then [] else [⟨s.batcher.nextTicket, item⟩] := by
  simp only [State.step, State.passOn] at moved
  obtain ⟨b, stepped, rfl⟩ := Option.map_eq_some_iff.mp moved
  cases Batcher.moves_of_step stepped with
  | refuse _ closed => simp [closed]
  | start _ accepting => simp [accepting]
  | queue _ accepting => simp [accepting]

theorem drained_kept (reached : Reached limits provider policy es bs s)
    (drained : Batcher.Drained s.batcher) {t : State α ε} {e : Event α ε}
    {more : List (Batcher.Event α ε)} (moved : Moves s e more t) : Batcher.Drained t.batcher := by
  have staffed := Batcher.staffed_of_run (batcher_run reached)
  cases moved with
  | pass _ moved => exact drained.next staffed (Batcher.moves_of_step moved)
  | look moved => exact drained.next staffed (Batcher.moves_of_step moved)
  | settle _ _ moved => exact drained.next staffed (Batcher.moves_of_step moved)
  | _ => exact drained

theorem shut_kept {t : State α ε} {e : Event α ε} {more : List (Batcher.Event α ε)}
    (moved : Moves s e more t) (shut : t.batcher.shut = true) :
    s.batcher.shut = true ∨ ∃ id, e = .drain id .look := by
  cases moved with
  | pass passed moved =>
    rcases Batcher.shut_of_step moved shut with before | ⟨id, rfl⟩
    · exact .inl before
    · cases e <;> cases passed
      exact .inr ⟨id, rfl⟩
  | look moved =>
    rcases Batcher.shut_of_step moved shut with before | ⟨id, other⟩
    · exact .inl before
    · cases other
  | settle _ _ moved =>
    rcases Batcher.shut_of_step moved shut with before | ⟨id, other⟩
    · exact .inl before
    · cases other
  | _ => exact .inl shut

end Courier.Outbox
