import Courier.Proofs.Outbox.Replies

/-! An outbox whose token has fired. The batch in hand begins one more call at most, and only if it was
pausing; every batch that is taken later begins one call and no other. The handler task moves on after
each answer, so what waits is worked off in a bounded number of moments, whatever the policy allows and
whatever the provider answers. -/

namespace Courier.Outbox

variable {α ε : Type} {limits : Limits} {provider : Provider ε} {policy : Retry.Policy}
  {es fs : List (Event α ε)} {bs more : List (Batcher.Event α ε)} {s t : State α ε} {e : Event α ε}

/-- The events by which the handler task and its calls move. -/
def Event.works : Event α ε → Bool
  | .look => true
  | .call => true
  | .returned .. => true
  | .brokeOff => true
  | .resumed => true
  | .cut => true
  | _ => false

theorem works_of_passed {inner : Batcher.Event α ε} (passed : e.passed? = some inner) :
    e.works = false := by
  cases e with
  | submit | leave | drain => rfl
  | _ => cases passed

theorem stopped_next (moved : Moves s e more t) (stopped : s.stopped = true) : t.stopped = true := by
  cases moved with
  | stop => rfl
  | _ => exact stopped

theorem stopped_of_run (stopped : s.stopped = true) (ran : run State.step s fs = some t) :
    t.stopped = true := by
  refine run_invariant (P := fun _ t => t.stopped = true) stopped ?_ ran
  intro fs t e u _ ih moved
  obtain ⟨more, moves⟩ := moves_of_step moved
  exact stopped_next moves ih

theorem no_pause {d : Delivery α ε} {u : Trouble ε} {jitter : Binary64} {length : Duration}
    (stopped : s.stopped = true) : s.verdict d u jitter ≠ .pause length := by
  intro again
  have unfired := (Retry.allows_of_pause again).1
  simp [stopped] at unfired

/-! The calls that are left. -/

/-- The calls that began since `s`: some for the batch that was in hand, then the first ones for the
batches after it. -/
structure Late (s t : State α ε) (again news : List (Attempt α)) : Prop where
  attempts : t.attempts = s.attempts ++ (again ++ news)
  few : again.length ≤ 1
  repeats : ∀ a ∈ again, a.first = false ∧ s.delivery.map (·.number) = some a.number
  firsts : ∀ a ∈ news, a.first = true
  seen : ∀ a ∈ again ++ news, a.stopped = true
  /-- A pause is one that was there from the start. -/
  pausing : ∀ d length u, t.delivery = some d → d.call.phase = .pausing length u →
    again = [] ∧ news = [] ∧ t.delivery = s.delivery

theorem Late.next {again news : List (Attempt α)} {u : State α ε} (late : Late s t again news)
    (reached : Reached limits provider policy es bs t) (stopped : t.stopped = true)
    (moved : Moves t e more u) : ∃ again news, Late s u again news := by
  have ⟨attempts, few, old, first, seen, pausing⟩ := late
  cases moved with
  | pass | look | stop => exact ⟨again, news, attempts, few, old, first, seen, pausing⟩
  | settle => exact ⟨again, news, attempts, few, old, first, seen, by simp⟩
  | pause _ _ again => exact absurd again (no_pause stopped)
  | @call r =>
    refine ⟨again, news ++ [⟨r.number, r.batch.map (·.item), true, t.stopped⟩], ?_, few, old, ?_, ?_,
      ?_⟩
    · simp only [attempts, List.append_assoc]
    · intro a member
      rcases List.mem_append.mp member with before | now
      · exact first a before
      · rw [List.mem_singleton.mp now]
    · intro a member
      rw [← List.append_assoc] at member
      rcases List.mem_append.mp member with before | now
      · exact seen a before
      · rw [List.mem_singleton.mp now]
        exact stopped
    · intro d length u same
      cases Option.some.inj same
      simp [Retry.Call.start]
  | @retry d length u delivery waits =>
    -- It is the pause that was there when the token fired, so this is the first call since then.
    obtain ⟨rfl, rfl, same⟩ := pausing d length u delivery waits
    have begun := (passed_of_reached reached).begun delivery
    refine ⟨[⟨d.number, d.batch.map (·.item), d.call.attempts + 1 == 1, t.stopped⟩], [], ?_,
      Nat.le_refl 1, ?_, by simp, ?_, ?_⟩
    · simp only [attempts, List.append_nil]
    · intro a member
      rw [List.mem_singleton.mp member, ← same, delivery]
      refine ⟨?_, rfl⟩
      simp only [beq_eq_false_iff_ne]
      omega
    · intro a member
      rw [List.mem_singleton.mp member]
      exact stopped
    · intro x length u now
      cases Option.some.inj now
      simp

theorem late_of_run (reached : Reached limits provider policy es bs s) (stopped : s.stopped = true)
    (ran : run State.step s fs = some t) : ∃ again news, Late s t again news := by
  have start : Late s s [] [] := by
    refine ⟨by simp, Nat.zero_le 1, by simp, by simp, by simp, ?_⟩
    intro _ _ _ _ _
    exact ⟨rfl, rfl, rfl⟩
  refine run_invariant (P := fun _ t => ∃ again news, Late s t again news) ⟨[], [], start⟩ ?_ ran
  intro fs t e u before ih moved
  obtain ⟨again, news, late⟩ := ih
  obtain ⟨_, so_far, _⟩ := reached.run before
  obtain ⟨more, moves⟩ := moves_of_step moved
  exact late.next so_far (stopped_of_run stopped before) moves

/-- The first calls since `s` are for the batches taken since then, and for the one that was about to be
passed on. -/
theorem Late.numbers {again news : List (Attempt α)} (late : Late s t again news)
    (before : Passed s) (after : Passed t) (grows : s.batcher.taken.length ≤ t.batcher.taken.length) :
    news.map (·.number) ++ t.ready.toList.map (·.number) =
      s.ready.toList.map (·.number) ++
        List.range' s.batcher.taken.length (t.batcher.taken.length - s.batcher.taken.length) := by
  have repeated : again.filter (·.first) = [] := by
    rw [List.filter_eq_nil_iff]
    intro a member
    simp [(late.repeats a member).1]
  have fresh : news.filter (·.first) = news := List.filter_eq_self.mpr late.firsts
  have whole := after.firsts
  rw [late.attempts, List.filter_append, List.filter_append, repeated, fresh, List.nil_append,
    List.map_append, List.append_assoc] at whole
  have split : List.range t.batcher.taken.length = List.range s.batcher.taken.length ++
      List.range' s.batcher.taken.length (t.batcher.taken.length - s.batcher.taken.length) := by
    simp only [List.range_eq_range']
    have joined := List.range'_append_1 (s := 0) (m := s.batcher.taken.length)
      (n := t.batcher.taken.length - s.batcher.taken.length)
    rw [Nat.zero_add, Nat.add_sub_cancel' grows] at joined
    exact joined.symm
  rw [split, ← before.firsts, List.append_assoc] at whole
  exact List.append_cancel_left whole

/-! How long the handler task has to go. Each of its moments brings the batch in hand nearer to its
end, so the moments can be counted in advance. -/

def Delivery.moments (d : Delivery α ε) : Nat :=
  match d.call.phase with
  | .pausing .. => 2
  | _ => 1

theorem moments_bounds (d : Delivery α ε) : 1 ≤ d.moments ∧ d.moments ≤ 2 := by
  unfold Delivery.moments
  split
  · exact ⟨Nat.le_succ 1, Nat.le_refl 2⟩
  · exact ⟨Nat.le_refl 1, Nat.le_succ 1⟩

/-- How many moments the batch in hand takes at most. -/
def State.inHand (s : State α ε) : Nat :=
  match s.ready, s.delivery with
  | some _, _ => 2
  | none, some d => d.moments
  | none, none => 0

theorem inHand_le (s : State α ε) : s.inHand ≤ 2 := by
  unfold State.inHand
  split
  · exact Nat.le_refl 2
  · exact (moments_bounds _).2
  · exact Nat.zero_le 2

theorem inHand_pos (reached : Reached limits provider policy es bs s)
    (busy : s.batcher.running ≠ []) : 1 ≤ s.inHand := by
  have hands := hands reached
  unfold State.inHand
  split
  · exact Nat.le_succ 1
  · exact (moments_bounds _).1
  · rename_i free idle
    rw [free, idle] at hands
    exact absurd hands busy

theorem inHand_next (reached : Reached limits provider policy es bs s) (stopped : s.stopped = true)
    (moved : Moves s e more t) (other : e ≠ .look) : [e].countP Event.works + t.inHand ≤ s.inHand := by
  have one : [e].countP Event.works ≤ 1 := List.countP_le_length
  cases moved with
  | pass passed =>
    rw [List.countP_singleton, works_of_passed passed]
    exact Nat.le_of_eq (Nat.zero_add _)
  | look => exact absurd rfl other
  | stop => exact Nat.le_of_eq (Nat.zero_add _)
  | pause _ _ again => exact absurd again (no_pause stopped)
  | call ready =>
    have before : s.inHand = 2 := by simp [State.inHand, ready]
    rw [before]
    exact Nat.le_refl 2
  | @settle _ d _ _ delivery =>
    have free := (delivery_batch reached delivery).2
    have going := (moments_bounds d).1
    simp only [State.inHand, free, delivery]
    omega
  | @retry d length u delivery pausing =>
    have free := (delivery_batch reached delivery).2
    simp only [State.inHand, free, delivery, Delivery.moments, pausing]
    omega

theorem running_subset (moved : Moves s e more t) (other : e ≠ .look) :
    t.batcher.running ⊆ s.batcher.running := by
  cases moved with
  | pass passed moved =>
    rw [(passed_keeps passed moved).1]
    exact List.Subset.refl _
  | look => exact absurd rfl other
  | settle _ _ moved =>
    obtain ⟨r, _, _, rfl⟩ := Batcher.finish_of_step moved
    exact List.filter_subset_self _
  | _ => exact List.Subset.refl _

/-- Two moments of the handler task are enough for every batch that was taken before them. -/
theorem settled_of_work (reached : Reached limits provider policy es bs s) (stopped : s.stopped = true)
    (ran : run State.step s fs = some t) (enough : 2 ≤ fs.countP Event.works)
    {r : Batcher.Running α} (running : r ∈ t.batcher.running) :
    s.batcher.taken.length ≤ r.number := by
  by_contra early
  have spent : fs.countP Event.works + t.inHand ≤ s.inHand := by
    refine run_invariant (P := fun fs t => ∀ r ∈ t.batcher.running,
      r.number < s.batcher.taken.length → fs.countP Event.works + t.inHand ≤ s.inHand) ?_ ?_ ran r
      running (Nat.lt_of_not_le early)
    · intro _ _ _
      exact Nat.le_of_eq (Nat.zero_add _)
    · intro fs t e u before ih moved r running early
      obtain ⟨_, so_far, _⟩ := reached.run before
      obtain ⟨more, moves⟩ := moves_of_step moved
      by_cases look : e = .look
      · subst look
        have grows := (grows_of_reached reached so_far).taken.length_le
        cases moves with
        | pass passed => cases passed
        | settle _ ends => cases ends
        | look looked =>
          -- What is taken now has a number that no batch of `s` has.
          obtain ⟨_, quit | ⟨batch, now, _⟩⟩ := look_cases so_far looked
          · rw [quit.1] at running
            cases running
          · rw [now] at running
            cases List.mem_singleton.mp running
            exact absurd early (Nat.not_lt.mpr grows)
      · have nearer := inHand_next so_far (stopped_of_run stopped before) moves look
        have earlier := ih r (running_subset moves look running) early
        rw [List.countP_append]
        omega
  have later := (reached.run ran).choose_spec.1
  have busy := inHand_pos later (List.ne_nil_of_mem running)
  have few := inHand_le s
  omega

theorem accepted_le (moved : Moves s e more t) :
    s.batcher.accepted.length ≤ t.batcher.accepted.length := by
  cases moved with
  | pass _ moved =>
    cases Batcher.moves_of_step moved with
    | start => simp
    | queue => simp
    | _ => exact Nat.le_refl _
  | look moved => cases Batcher.moves_of_step moved <;> exact Nat.le_refl _
  | settle _ _ moved =>
    obtain ⟨r, _, _, rfl⟩ := Batcher.finish_of_step moved
    exact Nat.le_refl _
  | _ => exact Nat.le_refl _

/-- All the moments that the handler task has to go, with `size` for the batches. -/
def State.backlog (size : Nat) (s : State α ε) : Nat :=
  3 * Batcher.batchCount size s.batcher.pending.length + (if s.batcher.active = 0 then 0 else 1) +
    s.inHand

theorem backlog_le (size : Nat) (s : State α ε) :
    s.backlog size ≤ 3 * Batcher.batchCount size s.batcher.pending.length + 3 := by
  have few := inHand_le s
  unfold State.backlog
  split
  · omega
  · omega

/-- All batches of a run to which nothing is added, taken or not. -/
def State.batchesIn (size : Nat) (s : State α ε) : Nat :=
  s.batcher.taken.length + Batcher.batchCount size s.batcher.pending.length

theorem backlog_look (reached : Reached limits provider policy es bs s) {b : Batcher.State α ε}
    (moved : s.batcher.step .look = some b) :
    let t : State α ε := { s with batcher := b, ready := b.running? s.batcher.taken.length }
    t.batchesIn limits.maxBatchSize = s.batchesIn limits.maxBatchSize ∧
      1 + t.backlog limits.maxBatchSize ≤ s.backlog limits.maxBatchSize := by
  intro t
  have idle := (look_cases reached moved).1
  obtain ⟨free, none_there⟩ := empty_handed reached idle
  have single := one_task reached
  have before : s.inHand = 0 := by simp [State.inHand, free, none_there]
  cases Batcher.moves_of_step moved with
  | quit some_looking empty =>
    have active : s.batcher.active = 1 := by omega
    have after : t.inHand = 0 := by simp [t, State.inHand, none_there, Batcher.State.running?, idle]
    refine ⟨rfl, ?_⟩
    simp only [State.backlog, before, after]
    simp [t, active, Nat.add_comm]
  | take some_looking waiting =>
    -- One batch less waits, and the three moments that it counted for are this one and two in hand.
    have size : s.batcher.limits.maxBatchSize = limits.maxBatchSize := by
      rw [Batcher.limits_kept (batcher_run reached)]
      rfl
    have fewer := Batcher.batchCount_take s.batcher.limits (List.length_pos_of_ne_nil waiting)
    rw [size] at fewer
    have after : t.inHand ≤ 2 := inHand_le t
    constructor
    · simp only [State.batchesIn, t, List.length_append, List.length_singleton, List.length_drop]
      omega
    · simp only [State.backlog, before, t, List.length_drop] at after ⊢
      omega

theorem backlog_pass {inner : Batcher.Event α ε} {b : Batcher.State α ε}
    (passed : e.passed? = some inner) (moved : s.batcher.step inner = some b)
    (same : b.accepted.length = s.batcher.accepted.length) :
    b.pending = s.batcher.pending ∧ b.active = s.batcher.active := by
  cases Batcher.moves_of_step moved with
  | start => simp at same
  | queue => simp at same
  | quit | take | finish | crash => cases e <;> cases passed
  | _ => exact ⟨rfl, rfl⟩

/-- As long as nothing is accepted, no batch is added and each moment of the handler task counts. -/
theorem backlog_next (reached : Reached limits provider policy es bs s) (stopped : s.stopped = true)
    (moved : Moves s e more t)
    (same : t.batcher.accepted.length = s.batcher.accepted.length) :
    t.batchesIn limits.maxBatchSize = s.batchesIn limits.maxBatchSize ∧
      [e].countP Event.works + t.backlog limits.maxBatchSize ≤ s.backlog limits.maxBatchSize := by
  by_cases look : e = .look
  · subst look
    cases moved with
    | pass passed => cases passed
    | settle _ ends => cases ends
    | look looked => exact backlog_look reached looked
  · have nearer := inHand_next reached stopped moved look
    have kept : t.batcher.pending = s.batcher.pending ∧ t.batcher.active = s.batcher.active ∧
        t.batcher.taken = s.batcher.taken := by
      cases moved with
      | pass passed moved =>
        obtain ⟨pending, active⟩ := backlog_pass passed moved same
        exact ⟨pending, active, (passed_keeps passed moved).2⟩
      | look => exact absurd rfl look
      | settle _ _ moved =>
        obtain ⟨r, _, _, rfl⟩ := Batcher.finish_of_step moved
        exact ⟨rfl, rfl, rfl⟩
      | _ => exact ⟨rfl, rfl, rfl⟩
    obtain ⟨pending, active, taken⟩ := kept
    constructor
    · simp only [State.batchesIn, pending, taken]
    · simp only [State.backlog, pending, active]
      omega

theorem backlog_of_run (reached : Reached limits provider policy es bs s)
    (stopped : s.stopped = true) (ran : run State.step s fs = some t)
    (same : t.batcher.accepted = s.batcher.accepted) :
    t.batchesIn limits.maxBatchSize = s.batchesIn limits.maxBatchSize ∧
      fs.countP Event.works + t.backlog limits.maxBatchSize ≤ s.backlog limits.maxBatchSize := by
  have whole : s.batcher.accepted.length ≤ t.batcher.accepted.length ∧
      (t.batcher.accepted.length = s.batcher.accepted.length →
        t.batchesIn limits.maxBatchSize = s.batchesIn limits.maxBatchSize ∧
          fs.countP Event.works + t.backlog limits.maxBatchSize ≤ s.backlog limits.maxBatchSize) := by
    refine run_invariant (P := fun fs t => s.batcher.accepted.length ≤ t.batcher.accepted.length ∧
      (t.batcher.accepted.length = s.batcher.accepted.length →
        t.batchesIn limits.maxBatchSize = s.batchesIn limits.maxBatchSize ∧
          fs.countP Event.works + t.backlog limits.maxBatchSize ≤ s.backlog limits.maxBatchSize))
      ?_ ?_ ran
    · exact ⟨Nat.le_refl _, fun _ => ⟨rfl, Nat.le_of_eq (Nat.zero_add _)⟩⟩
    · intro fs t e u before ih moved
      obtain ⟨grown, ih⟩ := ih
      obtain ⟨_, so_far, _⟩ := reached.run before
      obtain ⟨more, moves⟩ := moves_of_step moved
      -- What is accepted only grows, so it has been the same all along.
      have more_accepted := accepted_le moves
      refine ⟨Nat.le_trans grown more_accepted, fun same => ?_⟩
      obtain ⟨batches, moments⟩ := ih (by omega)
      obtain ⟨batches_next, moments_next⟩ :=
        backlog_next so_far (stopped_of_run stopped before) moves (by omega)
      refine ⟨batches_next.trans batches, ?_⟩
      rw [List.countP_append]
      omega
  exact whole.2 (congrArg List.length same)

/-! The handler task always has a moment to go to, once the provider answers. -/

/-- What the handler task waits for: nothing, any answer of the provider, or a pause that ends either
way. -/
def Due (can : Event α ε → Prop) : Prop :=
  can .look ∨ can .call ∨ (∀ r jitter, can (.returned r jitter)) ∨ (can .resumed ∧ can .cut)

theorem Due.imp {can could : Event α ε → Prop} (due : Due can)
    (lift : ∀ e, e.works = true → can e → could e) : Due could := by
  rcases due with look | call | returned | ⟨resumed, cut⟩
  · exact .inl (lift _ rfl look)
  · exact .inr (.inl (lift _ rfl call))
  · exact .inr (.inr (.inl fun r jitter => lift _ rfl (returned r jitter)))
  · exact .inr (.inr (.inr ⟨lift _ rfl resumed, lift _ rfl cut⟩))

theorem due_of_active (reached : Reached limits provider policy es bs s) (stopped : s.stopped = true)
    (busy : s.batcher.active ≠ 0) : Due fun e => (s.step e).isSome = true := by
  obtain ⟨_, counted⟩ := one_task reached
  -- The one task looks, or has the batch that is about to go out or on its way.
  by_cases some_looking : s.batcher.looking = 0
  · have running : s.batcher.running ≠ [] := by
      intro idle
      rw [idle, some_looking] at counted
      exact busy counted.symm
    cases ready : s.ready with
    | some r =>
      refine .inr (.inl ?_)
      simp [State.step, State.call, ready]
    | none =>
      cases delivery : s.delivery with
      | none =>
        rw [hands reached, ready, delivery] at running
        exact absurd rfl running
      | some d =>
        rcases (heard_of_reached reached).phase d delivery with attempting | ⟨length, u, pausing, _⟩
        · refine .inr (.inr (.inl fun r jitter => ?_))
          cases r with
          | ok =>
            exact advances reached delivery
              (by simp [Retry.Call.next?, Retry.Call.admits, Retry.Call.step, attempting])
          | error u =>
            -- Once the token has fired nothing is drawn, so whatever is named will do.
            have final : Final provider policy (retries s.attempts d.number) s.stopped u :=
              .inr (.inr stopped)
            obtain ⟨_, t, moved, _⟩ := settles_of_final reached delivery attempting final jitter
            exact Option.isSome_iff_exists.mpr ⟨t, moved⟩
        · refine .inr (.inr (.inr ⟨?_, ?_⟩))
          · exact advances reached delivery
              (by simp [Retry.Call.next?, Retry.Call.admits, Retry.Call.step, pausing])
          · simp only [State.step, stopped, if_true]
            exact advances reached delivery
              (by simp [Retry.Call.next?, Retry.Call.admits, Retry.Call.step, pausing])
  · refine .inl ?_
    simp [State.step, State.look, Batcher.State.step, some_looking]

/-! All of this about one run that follows the firing of the token. -/

theorem told_of_settled (reached : Reached limits provider policy es bs s) {n : Nat}
    {b : List (Entry α)} (taken : s.batcher.taken[n]? = some b)
    (settled : n ∉ s.batcher.running.map (·.number)) {x : Entry α} (inside : x ∈ b) :
    ∃ o, s.batcher.answers x.ticket = [o] := by
  obtain ⟨how, _, told⟩ := ending_of_settled reached taken settled
  exact ⟨_, told x inside⟩

/-- What a run from `s` to `t` can come to when the token has fired by `s`, where the handler task moved
so many times. -/
structure Unwinds (size : Nat) (s t : State α ε) (moments : Nat) : Prop where
  /-- One more call at most for the batch that was in hand, and one for each batch after it. -/
  calls : ∃ again news, t.attempts = s.attempts ++ (again ++ news) ∧ again.length ≤ 1 ∧
    (∀ a ∈ again, s.delivery.map (·.number) = some a.number) ∧
    news.map (·.number) ++ t.ready.toList.map (·.number) = s.ready.toList.map (·.number) ++
      List.range' s.batcher.taken.length (t.batcher.taken.length - s.batcher.taken.length) ∧
    ∀ a ∈ again ++ news, a.stopped = true
  told : 2 ≤ moments → ∀ b ∈ s.batcher.taken, ∀ x ∈ b, ∃ o, t.batcher.answers x.ticket = [o]
  drains : t.batcher.accepted = s.batcher.accepted →
    t.batcher.taken.length + Batcher.batchCount size t.batcher.pending.length =
      s.batcher.taken.length + Batcher.batchCount size s.batcher.pending.length ∧
    moments ≤ 3 * Batcher.batchCount size s.batcher.pending.length + 3
  exits : t.batcher.active = 0 → t.batcher.pending = [] ∧ t.ready = none ∧ t.delivery = none ∧
    ∀ x ∈ t.batcher.accepted, ∃ o, t.batcher.answers x.ticket = [o]

theorem unwinds_of_run (reached : Reached limits provider policy es bs s) (stopped : s.stopped = true)
    (ran : run State.step s fs = some t) :
    Unwinds limits.maxBatchSize s t (fs.countP Event.works) := by
  obtain ⟨_, later, _⟩ := reached.run ran
  have grows := (grows_of_reached reached later).taken
  refine ⟨?_, ?_, ?_, ?_⟩
  · obtain ⟨again, news, late⟩ := late_of_run reached stopped ran
    have numbers := late.numbers (passed_of_reached reached) (passed_of_reached later) grows.length_le
    exact ⟨again, news, late.attempts, late.few, fun a member => (late.repeats a member).2, numbers,
      late.seen⟩
  · intro enough b member x inside
    obtain ⟨n, taken⟩ := List.mem_iff_getElem?.mp member
    have bound := (List.getElem?_eq_some_iff.mp taken).1
    obtain ⟨added, same⟩ := grows
    have kept : t.batcher.taken[n]? = some b := by
      rw [← same, List.getElem?_append_left bound, taken]
    refine told_of_settled later kept ?_ inside
    intro running
    obtain ⟨r, there, rfl⟩ := List.mem_map.mp running
    have newer := settled_of_work reached stopped ran enough there
    omega
  · intro same
    obtain ⟨batches, moments⟩ := backlog_of_run reached stopped ran same
    have few := backlog_le limits.maxBatchSize s
    exact ⟨batches, by omega⟩
  · intro gone
    obtain ⟨_, counted⟩ := one_task later
    have inner := batcher_run later
    have idle : t.batcher.running = [] := List.length_eq_zero_iff.mp (by omega)
    have empty : t.batcher.pending = [] := by
      by_contra waiting
      have somebody := (Batcher.staffed_of_run inner).busy waiting
      omega
    obtain ⟨free, none_there⟩ := empty_handed later idle
    refine ⟨empty, free, none_there, ?_⟩
    intro x accepted
    obtain ⟨n, b, taken, inside⟩ := (Batcher.ordered_of_run inner).in_batch empty accepted
    exact told_of_settled later taken (by simp [idle]) inside

end Courier.Outbox
