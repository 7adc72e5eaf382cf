import Courier.Proofs.Outbox.Batches

/-! The calls of an outbox to its provider. Each batch is passed on once, in the order in which the
batches were taken; what follows for the same batch are other attempts with the same items, and no
call begins before the one before it has been answered. -/

namespace Courier.Outbox

variable {α ε : Type} {limits : Limits} {provider : Provider ε} {policy : Retry.Policy}
  {es : List (Event α ε)} {bs : List (Batcher.Event α ε)} {s : State α ε}

/-- The next call repeats the one before, or is the first for a later batch. -/
def Follows (a b : Attempt α) : Prop :=
  (b.first = false ∧ b.number = a.number) ∨ (b.first = true ∧ a.number < b.number)

/-- How often the provider has been called for the batch with this number. -/
def calls (attempts : List (Attempt α)) (n : Nat) : Nat := attempts.countP (·.number = n)

theorem calls_other {attempts : List (Attempt α)} {n : Nat} (apart : ∀ a ∈ attempts, a.number ≠ n) :
    calls attempts n = 0 := by
  simpa [calls, List.countP_eq_zero] using apart

theorem calls_append (attempts more : List (Attempt α)) (n : Nat) :
    calls (attempts ++ more) n = calls attempts n + calls more n :=
  List.countP_append

structure Passed (s : State α ε) : Prop where
  carried : ∀ a ∈ s.attempts,
    ∃ b, s.batcher.taken[a.number]? = some b ∧ a.items = b.map (·.item)
  earlier : ∀ a ∈ s.attempts, a.number + s.ready.toList.length < s.batcher.taken.length
  newest : ∀ r, s.ready = some r → r.number + 1 = s.batcher.taken.length
  firsts : (s.attempts.filter (·.first)).map (·.number) ++ s.ready.toList.map (·.number) =
    List.range s.batcher.taken.length
  last : ∀ d, s.delivery = some d → d.call.attempts = calls s.attempts d.number ∧
    ∃ a, s.attempts.getLast? = some a ∧ a.number = d.number
  chain : s.attempts.IsChain Follows
  opening : ∀ a, s.attempts.head? = some a → a.first = true

theorem Passed.begun (passed : Passed s) {d : Delivery α ε} (delivery : s.delivery = some d) :
    1 ≤ d.call.attempts := by
  obtain ⟨counted, a, latest, number⟩ := passed.last d delivery
  rw [counted, calls, Nat.one_le_iff_ne_zero, Nat.ne_zero_iff_zero_lt, List.countP_pos_iff]
  exact ⟨a, List.mem_of_getLast? latest, decide_eq_true number⟩

theorem Passed.append {a : Attempt α} (passed : Passed s)
    (follows : ∀ x, s.attempts.getLast? = some x → Follows x a)
    (first : s.attempts = [] → a.first = true) :
    (s.attempts ++ [a]).IsChain Follows ∧
      ∀ x, (s.attempts ++ [a]).head? = some x → x.first = true := by
  constructor
  · refine List.isChain_append.mpr ⟨passed.chain, .singleton a, ?_⟩
    intro x last y next
    cases Option.some.inj next
    exact follows x last
  · intro x head
    cases attempts : s.attempts with
    | nil =>
      rw [attempts] at head
      cases Option.some.inj head
      exact first attempts
    | cons y rest =>
      rw [attempts] at head
      cases Option.some.inj head
      exact passed.opening x (by rw [attempts]; rfl)

theorem Passed.look {b : Batcher.State α ε} (reached : Reached limits provider policy es bs s)
    (passed : Passed s) (moved : s.batcher.step .look = some b) :
    Passed { s with batcher := b, ready := b.running? s.batcher.taken.length } := by
  have ⟨carried, earlier, newest, firsts, last, chain, opening⟩ := passed
  obtain ⟨idle, ⟨_, taken, quit⟩ | ⟨batch, _, taken, take⟩⟩ := look_cases reached moved
  · have free := (empty_handed reached idle).1
    rw [quit, ← free]
    exact ⟨taken ▸ carried, taken ▸ earlier, taken ▸ newest, taken ▸ firsts, last, chain, opening⟩
  · have free := (empty_handed reached idle).1
    rw [free] at firsts earlier
    refine ⟨?_, ?_, ?_, ?_, last, chain, opening⟩
    · intro a member
      obtain ⟨c, there, items⟩ := carried a member
      exact ⟨c, by rw [taken, List.getElem?_append_left (List.getElem?_eq_some_iff.mp there).1, there],
        items⟩
    · intro a member
      have bound := earlier a member
      simpa [take, taken] using bound
    · intro r ready
      rw [take, Option.some.injEq] at ready
      simp [← ready, taken]
    · simpa [take, taken, List.range_succ] using firsts

theorem Passed.call {r : Batcher.Running α} (reached : Reached limits provider policy es bs s)
    (passed : Passed s) (ready : s.ready = some r) :
    Passed { s with
      ready := none
      delivery := some ⟨r.number, r.batch, .start⟩
      attempts := s.attempts ++ [⟨r.number, r.batch.map (·.item), true, s.stopped⟩] } := by
  have ⟨carried, earlier, newest, firsts, last, chain, opening⟩ := passed
  have batch := (Batcher.calls_of_run (batcher_run reached)).batch r (ready_batch reached ready).1
  have number := newest r ready
  rw [ready] at earlier firsts
  -- What is passed on now was taken after everything that has been passed on.
  have later : ∀ x ∈ s.attempts, x.number < r.number := by
    intro x member
    have bound := earlier x member
    simp only [Option.toList_some, List.length_singleton] at bound
    omega
  obtain ⟨chain, opening⟩ := passed.append
    (a := ⟨r.number, r.batch.map (·.item), true, s.stopped⟩)
    (fun x last => .inr ⟨rfl, later x (List.mem_of_getLast? last)⟩) (fun _ => rfl)
  refine ⟨?_, ?_, by simp, ?_, ?_, chain, opening⟩
  · intro a member
    rcases List.mem_append.mp member with old | new
    · exact carried a old
    · cases List.mem_singleton.mp new
      exact ⟨r.batch, batch, rfl⟩
  · intro a member
    rcases List.mem_append.mp member with old | new
    · exact Nat.lt_of_le_of_lt (Nat.le_add_right _ 1) (earlier a old)
    · cases List.mem_singleton.mp new
      simp only [Option.toList_none, List.length_nil]
      omega
  · simpa [List.filter_append] using firsts
  · intro d delivery
    cases Option.some.inj delivery
    refine ⟨?_, _, List.getLast?_concat, rfl⟩
    rw [calls_append, calls_other fun x member => Nat.ne_of_lt (later x member)]
    simp [calls, Retry.Call.start]

theorem Passed.retry {d : Delivery α ε} (reached : Reached limits provider policy es bs s)
    (passed : Passed s) (delivery : s.delivery = some d) {call : Retry.Call Unit (Trouble ε)}
    (again : call.attempts = d.call.attempts + 1) :
    Passed { s with
      delivery := some { d with call := call }
      attempts := s.attempts ++
        [⟨d.number, d.batch.map (·.item), d.call.attempts + 1 == 1, s.stopped⟩] } := by
  have ⟨carried, earlier, newest, firsts, last, _, _⟩ := passed
  obtain ⟨running, free⟩ := delivery_batch reached delivery
  have running_calls := Batcher.calls_of_run (batcher_run reached)
  obtain ⟨counted, x, latest, number⟩ := last d delivery
  have begun := passed.begun delivery
  -- The batch has been passed on before, so this attempt does not count as its first.
  have later : (d.call.attempts + 1 == 1) = false := by simp; omega
  obtain ⟨chain, opening⟩ := passed.append
    (a := ⟨d.number, d.batch.map (·.item), d.call.attempts + 1 == 1, s.stopped⟩)
    (fun y last => .inl ⟨later, by rw [latest] at last; cases last; exact number.symm⟩)
    (fun none_yet => by rw [none_yet] at latest; cases latest)
  refine ⟨?_, ?_, newest, ?_, ?_, chain, opening⟩
  · intro a member
    rcases List.mem_append.mp member with old | new
    · exact carried a old
    · cases List.mem_singleton.mp new
      exact ⟨d.batch, running_calls.batch d.held running, rfl⟩
  · intro a member
    rcases List.mem_append.mp member with old | new
    · exact earlier a old
    · cases List.mem_singleton.mp new
      have bound := running_calls.number_lt running
      simpa [free, Delivery.held] using bound
  · simpa [List.filter_append, later] using firsts
  · intro e now
    cases Option.some.inj now
    refine ⟨?_, _, List.getLast?_concat, rfl⟩
    rw [again, counted, calls_append]
    simp [calls]

theorem passed_of_reached (reached : Reached limits provider policy es bs s) : Passed s := by
  induction reached with
  | start => exact ⟨by simp [State.new], by simp [State.new], by simp [State.new], rfl,
      by simp [State.new], .nil, by simp [State.new]⟩
  | @next _ _ _ s t e before moved ih =>
    have ⟨carried, earlier, newest, firsts, last, chain, opening⟩ := ih
    cases moved with
    | pass passed moved =>
      have same := (passed_keeps passed moved).2
      exact ⟨same ▸ carried, same ▸ earlier, same ▸ newest, same ▸ firsts, last, chain, opening⟩
    | look moved => exact ih.look before moved
    | call ready => exact ih.call before ready
    | settle delivery ends moved =>
      obtain ⟨r, member, number, rfl⟩ := Batcher.finish_of_step moved
      exact ⟨carried, earlier, newest, firsts, by simp, chain, opening⟩
    | @pause d _ _ _ after delivery attempting _ same =>
      refine ⟨carried, earlier, newest, firsts, ?_, chain, opening⟩
      intro x now
      cases Option.some.inj now
      exact same ▸ last d delivery
    | retry delivery => exact ih.retry before delivery rfl
    | stop => exact ⟨carried, earlier, newest, firsts, last, chain, opening⟩

/-- The batch that a call carries. -/
def State.carried (s : State α ε) (a : Attempt α) : List (Entry α) :=
  s.batcher.taken[a.number]?.getD []

theorem items_eq (reached : Reached limits provider policy es bs s) {a : Attempt α}
    (member : a ∈ s.attempts) : a.items = (s.carried a).map (·.item) := by
  obtain ⟨b, there, items⟩ := (passed_of_reached reached).carried a member
  rw [State.carried, there, Option.getD_some, items]

/-- What follows the first call for a batch carries the same items. -/
theorem repeats (reached : Reached limits provider policy es bs s) :
    s.attempts.IsChain fun a b =>
      (b.first = false ∧ b.number = a.number ∧ b.items = a.items) ∨
        (b.first = true ∧ a.number < b.number) := by
  have items : ∀ a ∈ s.attempts, ∀ b ∈ s.attempts, b.number = a.number → b.items = a.items := by
    intro a left b right same
    rw [items_eq reached left, items_eq reached right, State.carried, State.carried, same]
  refine (passed_of_reached reached).chain.imp_of_mem_imp ?_
  rintro a b left right (⟨again, same⟩ | ⟨first, later⟩)
  · exact .inl ⟨again, same, items a left b right same⟩
  · exact .inr ⟨first, later⟩

theorem flatMap_range {β : Type} (l : List (List β)) :
    (List.range l.length).flatMap (fun n => l[n]?.getD []) = l.flatten := by
  have same : (List.range l.length).map (fun n => l[n]?.getD []) = l := by
    apply List.ext_getElem
    · simp
    · intro i _ inside
      simp [inside]
  rw [List.flatMap_def, same]

/-- Every batch that was taken has been passed on once, save the one that is about to be. -/
theorem passed_batches (reached : Reached limits provider policy es bs s) :
    (s.attempts.filter (·.first)).flatMap s.carried ++ s.ready.toList.flatMap (·.batch) =
      s.batcher.taken.flatten := by
  have firsts := (passed_of_reached reached).firsts
  have calls := Batcher.calls_of_run (batcher_run reached)
  have next : s.ready.toList.flatMap (·.batch) =
      (s.ready.toList.map (·.number)).flatMap fun n => s.batcher.taken[n]?.getD [] := by
    rw [List.flatMap_map]
    apply List.flatMap_congr
    intro r member
    rw [calls.batch r (ready_batch reached (Option.mem_toList.mp member)).1, Option.getD_some]
  have passed : (s.attempts.filter (·.first)).flatMap s.carried =
      ((s.attempts.filter (·.first)).map (·.number)).flatMap fun n =>
        s.batcher.taken[n]?.getD [] := by
    rw [List.flatMap_map]
    rfl
  rw [next, passed, ← List.flatMap_append, firsts, flatMap_range]

/-- What was accepted has been passed on, is about to be, or waits, in this order. -/
theorem conserved (reached : Reached limits provider policy es bs s) :
    (s.attempts.filter (·.first)).flatMap (·.items) ++
      (s.ready.toList.flatMap (·.batch)).map (·.item) ++ s.batcher.pending.map (·.item) =
        s.batcher.accepted.map (·.item) := by
  have items : (s.attempts.filter (·.first)).flatMap (·.items) =
      ((s.attempts.filter (·.first)).flatMap s.carried).map (·.item) := by
    rw [List.map_flatMap]
    apply List.flatMap_congr
    intro a member
    exact items_eq reached (List.mem_filter.mp member).1
  rw [items, ← List.map_append, passed_batches reached, ← List.map_append,
    (Batcher.ordered_of_run (batcher_run reached)).flow]

end Courier.Outbox
