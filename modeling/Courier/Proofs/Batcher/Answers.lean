import Courier.Proofs.Batcher.Order

/-! Who is told what. A submitter hears nothing while its item waits or is being handled, and
afterwards exactly what its own handler call came to; a refused submitter hears so at once. With the
count of handler tasks this leaves nobody behind when the tasks are gone. -/

namespace Courier.Batcher

variable {α ε : Type}

def answersIn (told : List (Nat × Outcome ε)) (ticket : Nat) : List (Outcome ε) :=
  told.filterMap fun x => if x.1 = ticket then some x.2 else none

/-- All that the submitter with this ticket was told, in order. -/
def State.answers (s : State α ε) (ticket : Nat) : List (Outcome ε) := answersIn s.told ticket

/-- All the ways in which the handler call with this number ended. -/
def endings (es : List (Event α ε)) (number : Nat) : List (Ending ε) :=
  es.filterMap fun | .finish n how => if n = number then some how else none | _ => none

theorem answersIn_append (xs ys : List (Nat × Outcome ε)) (ticket : Nat) :
    answersIn (xs ++ ys) ticket = answersIn xs ticket ++ answersIn ys ticket :=
  List.filterMap_append

theorem answersIn_others {b : List (Entry α)} {ticket : Nat} (o : Outcome ε)
    (absent : ticket ∉ b.map (·.ticket)) : answersIn (b.map fun e => (e.ticket, o)) ticket = [] := by
  rw [answersIn, List.filterMap_eq_nil_iff]
  intro x member
  obtain ⟨e, he, rfl⟩ := List.mem_map.mp member
  have other : e.ticket ≠ ticket := fun same => absent (List.mem_map.mpr ⟨e, he, same⟩)
  simp only [other, if_false]

theorem answersIn_member {b : List (Entry α)} (distinct : (b.map (·.ticket)).Nodup) {e : Entry α}
    (member : e ∈ b) (o : Outcome ε) : answersIn (b.map fun e => (e.ticket, o)) e.ticket = [o] := by
  induction b with
  | nil => contradiction
  | cons x b ih =>
    obtain ⟨absent, rest⟩ := List.nodup_cons.mp distinct
    rcases List.mem_cons.mp member with rfl | later
    · have others := answersIn_others o absent
      simpa [answersIn] using others
    · have other : x.ticket ≠ e.ticket := fun same => absent (List.mem_map.mpr ⟨e, later, same.symm⟩)
      have tail := ih rest later
      simpa [answersIn, other] using tail

theorem endings_finish (es : List (Event α ε)) (n : Nat) (how : Ending ε) (m : Nat) :
    endings (es ++ [.finish n how]) m = endings es m ++ if n = m then [how] else [] := by
  rw [endings, List.filterMap_append]
  split
  · rename_i same
    simp [endings, same]
  · rename_i other
    simp [endings, other]

theorem endings_other (es : List (Event α ε)) {e : Event α ε} (other : ∀ n how, e ≠ .finish n how)
    (m : Nat) : endings (es ++ [e]) m = endings es m := by
  cases e with
  | finish n how => exact absurd rfl (other n how)
  | _ => simp [endings]

/-! A handler call ends once, unless it crashes. -/

structure Ended (es : List (Event α ε)) (s : State α ε) : Prop where
  unborn : ∀ n, s.taken.length ≤ n → endings es n = []
  busy : ∀ r ∈ s.running, endings es r.number = []
  settled : ∀ n < s.taken.length,
    n ∈ s.running.map (·.number) ∨ .crash n ∈ es ∨ ∃ how, endings es n = [how]

theorem mem_withoutRunning {s : State α ε} {n : Nat} {r : Running α} :
    r ∈ s.withoutRunning n ↔ r ∈ s.running ∧ r.number ≠ n := by
  simp [State.withoutRunning]

theorem Ended.settled_other {es : List (Event α ε)} {s : State α ε} (ended : Ended es s)
    {e : Event α ε} (other : ∀ n how, e ≠ .finish n how) (n : Nat) (taken : n < s.taken.length) :
    n ∈ s.running.map (·.number) ∨ .crash n ∈ es ++ [e] ∨ ∃ how, endings (es ++ [e]) n = [how] := by
  rw [endings_other es other]
  rcases ended.settled n taken with running | crashed | finished
  · exact .inl running
  · exact .inr (.inl (List.mem_append_left _ crashed))
  · exact .inr (.inr finished)

theorem Ended.settled_without {es : List (Event α ε)} {s : State α ε} (ended : Ended es s)
    {e : Event α ε} {n m : Nat} (taken : m < s.taken.length) (apart : m ≠ n)
    (same : endings (es ++ [e]) m = endings es m) :
    m ∈ (s.withoutRunning n).map (·.number) ∨ .crash m ∈ es ++ [e] ∨
      ∃ how, endings (es ++ [e]) m = [how] := by
  rw [same]
  rcases ended.settled m taken with running | crashed | finished
  · obtain ⟨r, member, rfl⟩ := List.mem_map.mp running
    exact .inl (List.mem_map_of_mem (mem_withoutRunning.mpr ⟨member, apart⟩))
  · exact .inr (.inl (List.mem_append_left _ crashed))
  · exact .inr (.inr finished)

theorem ended_next {es : List (Event α ε)} {s t : State α ε} {e : Event α ε} (calls : Calls s)
    (ended : Ended es s) (moved : Moves s e t) : Ended (es ++ [e]) t := by
  have ⟨unborn, busy, _⟩ := ended
  cases moved with
  | take =>
    have other : ∀ n (how : Ending ε), (Event.look : Event α ε) ≠ .finish n how := by simp
    -- The new call has the next number, which no event so far can have named.
    refine ⟨?_, ?_, ?_⟩
    · intro n later
      rw [endings_other es other]
      exact unborn n (by simp only [List.length_append, List.length_singleton] at later; omega)
    · intro r member
      rw [endings_other es other]
      rcases List.mem_append.mp member with old | new
      · exact busy r old
      · exact List.mem_singleton.mp new ▸ unborn _ (Nat.le_refl _)
    · intro n taken
      simp only [List.length_append, List.length_singleton] at taken
      simp only [List.map_append, List.mem_append, List.map_singleton, List.mem_singleton]
      rcases Nat.lt_succ_iff_lt_or_eq.mp taken with old | new
      · have earlier := ended.settled_other other n old
        simp only [List.mem_append, List.mem_singleton] at earlier
        tauto
      · exact .inl (.inr new)
  | finish r how member =>
    refine ⟨?_, ?_, ?_⟩
    · intro n later
      have number := calls.number_lt member
      have apart : r.number ≠ n := fun same => by dsimp only at later; omega
      rw [endings_finish, if_neg apart, List.append_nil]
      exact unborn n later
    · intro x kept
      obtain ⟨old, apart⟩ := mem_withoutRunning.mp kept
      rw [endings_finish, if_neg apart.symm, List.append_nil]
      exact busy x old
    · intro n taken
      by_cases same : n = r.number
      · subst same
        refine .inr (.inr ⟨how, ?_⟩)
        rw [endings_finish, if_pos rfl, busy r member, List.nil_append]
      · refine ended.settled_without taken same ?_
        rw [endings_finish, if_neg (Ne.symm same), List.append_nil]
  | crash r member =>
    have other : ∀ n (how : Ending ε), (Event.crash r.number : Event α ε) ≠ .finish n how := by simp
    refine ⟨fun n later => by rw [endings_other es other]; exact unborn n later, ?_, ?_⟩
    · intro x kept
      rw [endings_other es other]
      exact busy x (mem_withoutRunning.mp kept).1
    · intro n taken
      by_cases same : n = r.number
      · exact .inr (.inl (same ▸ List.mem_append_right _ List.mem_cons_self))
      · exact ended.settled_without taken same (endings_other es other n)
  | _ =>
    refine ⟨fun n later => ?_, fun r member => ?_,
      fun n taken => ended.settled_other (by simp) n taken⟩
    · rw [endings_other es (by simp)]
      exact unborn n later
    · rw [endings_other es (by simp)]
      exact busy r member

theorem ended_of_run {limits : Limits} {es : List (Event α ε)} {s : State α ε}
    (reached : run State.step (.new limits) es = some s) : Ended es s := by
  refine run_invariant ⟨by simp [endings], by simp [State.new], by simp [State.new]⟩ ?_ reached
  intro es s e t before ended moved
  exact ended_next (calls_of_run before) ended (moves_of_step moved)

/-! Tickets tell the waiting items, the batches and the refused items apart. -/

theorem Ordered.ticket_lt {es : List (Event α ε)} {s : State α ε} (ordered : Ordered es s)
    {ticket : Nat} (member : ticket ∈ (s.taken.flatten ++ s.pending).map (·.ticket) ++ s.refused) :
    ticket < s.nextTicket := by
  rw [ordered.tickets] at member
  rw [ordered.nextTicket]
  exact List.mem_range.mp member

theorem Ordered.pending_lt {es : List (Event α ε)} {s : State α ε} (ordered : Ordered es s)
    {e : Entry α} (member : e ∈ s.pending) : e.ticket < s.nextTicket :=
  ordered.ticket_lt (List.mem_append_left _ (List.mem_map_of_mem (List.mem_append_right _ member)))

theorem Ordered.taken_lt {es : List (Event α ε)} {s : State α ε} (ordered : Ordered es s) {n : Nat}
    {b : List (Entry α)} (taken : s.taken[n]? = some b) {e : Entry α} (member : e ∈ b) :
    e.ticket < s.nextTicket := by
  have inside := List.mem_flatten_of_mem (List.mem_of_getElem? taken) member
  exact ordered.ticket_lt
    (List.mem_append_left _ (List.mem_map_of_mem (List.mem_append_left _ inside)))

theorem Ordered.refused_lt {es : List (Event α ε)} {s : State α ε} (ordered : Ordered es s)
    {ticket : Nat} (member : ticket ∈ s.refused) : ticket < s.nextTicket :=
  ordered.ticket_lt (List.mem_append_right _ member)

theorem Ordered.batch_nodup {es : List (Event α ε)} {s : State α ε} (ordered : Ordered es s)
    {n : Nat} {b : List (Entry α)} (taken : s.taken[n]? = some b) : (b.map (·.ticket)).Nodup := by
  have inside : b.Sublist (s.taken.flatten ++ s.pending) :=
    (List.sublist_flatten_of_mem (List.mem_of_getElem? taken)).trans (List.sublist_append_left _ _)
  exact (List.nodup_append.mp ordered.nodup).1.sublist (inside.map _)

theorem Ordered.pending_apart {es : List (Event α ε)} {s : State α ε} (ordered : Ordered es s)
    {n : Nat} {b : List (Entry α)} (taken : s.taken[n]? = some b) {e : Entry α}
    (waiting : e ∈ s.pending) : e.ticket ∉ b.map (·.ticket) := by
  intro member
  obtain ⟨x, hx, same⟩ := List.mem_map.mp member
  have distinct := (List.nodup_append.mp ordered.nodup).1
  rw [List.map_append, List.nodup_append] at distinct
  have inside := List.mem_flatten_of_mem (List.mem_of_getElem? taken) hx
  exact distinct.2.2 x.ticket (List.mem_map_of_mem inside) e.ticket (List.mem_map_of_mem waiting) same

theorem Ordered.refused_apart {es : List (Event α ε)} {s : State α ε} (ordered : Ordered es s)
    {n : Nat} {b : List (Entry α)} (taken : s.taken[n]? = some b) {ticket : Nat}
    (refused : ticket ∈ s.refused) : ticket ∉ b.map (·.ticket) := by
  intro member
  obtain ⟨x, hx, same⟩ := List.mem_map.mp member
  have inside := List.mem_flatten_of_mem (List.mem_of_getElem? taken) hx
  have accepted : x.ticket ∈ (s.taken.flatten ++ s.pending).map (·.ticket) :=
    List.mem_map_of_mem (List.mem_append_left _ inside)
  exact (List.nodup_append.mp ordered.nodup).2.2 x.ticket accepted ticket refused same

/-- A ticket is in one batch only. -/
theorem Ordered.batch_unique {es : List (Event α ε)} {s : State α ε} (ordered : Ordered es s)
    {m n : Nat} {b c : List (Entry α)} (left : s.taken[m]? = some b) (right : s.taken[n]? = some c)
    {x y : Entry α} (hx : x ∈ b) (hy : y ∈ c) (same : x.ticket = y.ticket) : m = n := by
  have distinct := (List.nodup_append.mp ordered.nodup).1
  rw [List.map_append, List.nodup_append, List.map_flatten, List.nodup_flatten,
    List.pairwise_iff_getElem] at distinct
  obtain ⟨hm, rfl⟩ := List.getElem?_eq_some_iff.mp left
  obtain ⟨hn, rfl⟩ := List.getElem?_eq_some_iff.mp right
  have disjoint := distinct.1.2
  simp only [List.length_map, List.getElem_map] at disjoint
  rcases Nat.lt_trichotomy m n with lt | eq | gt
  · exact absurd (same ▸ List.mem_map_of_mem hy) (disjoint m n hm hn lt (List.mem_map_of_mem hx))
  · exact eq
  · exact absurd (same ▸ List.mem_map_of_mem hx) (disjoint n m hn hm gt (List.mem_map_of_mem hy))

/-- What everybody was told so far. -/
structure Answered (es : List (Event α ε)) (s : State α ε) : Prop where
  unissued : ∀ ticket, s.nextTicket ≤ ticket → s.answers ticket = []
  refused : ∀ ticket ∈ s.refused, s.answers ticket = [.error shutDownFault]
  waiting : ∀ e ∈ s.pending, s.answers e.ticket = []
  handled : ∀ n b, s.taken[n]? = some b → ∀ e ∈ b, s.answers e.ticket = (endings es n).map outcomeOf

theorem Answered.refuse {es : List (Event α ε)} {s : State α ε} (ordered : Ordered es s)
    (answered : Answered es s) (item : α) : Answered (es ++ [.submit item])
      { s with
        refused := s.refused ++ [s.nextTicket]
        told := s.told ++ [(s.nextTicket, .error shutDownFault)] } := by
  obtain ⟨unissued, refused, waiting, handled⟩ := answered
  have others : ∀ ticket, ticket ≠ s.nextTicket →
      answersIn (s.told ++ [(s.nextTicket, .error shutDownFault)]) ticket = s.answers ticket := by
    intro ticket other
    simp [State.answers, answersIn, other.symm]
  refine ⟨?_, ?_, ?_, ?_⟩
  · intro ticket later
    simp only [State.nextTicket, List.length_append, List.length_singleton] at later
    have bound : s.nextTicket < ticket := by simp only [State.nextTicket]; omega
    exact (others ticket (by omega)).trans (unissued ticket (by omega))
  · intro ticket member
    rcases List.mem_append.mp member with old | new
    · have bound := ordered.refused_lt old
      exact (others ticket (by omega)).trans (refused ticket old)
    · cases List.mem_singleton.mp new
      have before : answersIn s.told s.nextTicket = [] := unissued s.nextTicket (Nat.le_refl _)
      have now : answersIn [(s.nextTicket, (.error shutDownFault : Outcome ε))] s.nextTicket =
          [.error shutDownFault] := by
        simp [answersIn]
      rw [State.answers, answersIn_append, before, now, List.nil_append]
  · intro e member
    have bound := ordered.pending_lt member
    exact (others e.ticket (by omega)).trans (waiting e member)
  · intro n b taken e member
    have bound := ordered.taken_lt taken member
    rw [endings_other es (by simp)]
    exact (others e.ticket (by omega)).trans (handled n b taken e member)

/-- The end of a handler call is told to its own batch and to nobody else. -/
theorem Answered.finish {es : List (Event α ε)} {s : State α ε} (ordered : Ordered es s)
    (ended : Ended es s) (calls : Calls s) (answered : Answered es s) {r : Running α}
    (how : Ending ε) (member : r ∈ s.running) : Answered (es ++ [.finish r.number how])
      { s with
        running := s.withoutRunning r.number
        looking := s.looking + 1
        told := s.told ++ r.batch.map fun e => (e.ticket, outcomeOf how) } := by
  obtain ⟨unissued, refused, waiting, handled⟩ := answered
  have mine := calls.batch r member
  have others : ∀ ticket, ticket ∉ r.batch.map (·.ticket) →
      answersIn (s.told ++ r.batch.map fun e => (e.ticket, outcomeOf how)) ticket =
        s.answers ticket := by
    intro ticket absent
    rw [answersIn_append, answersIn_others _ absent, List.append_nil, State.answers]
  refine ⟨?_, ?_, ?_, ?_⟩
  · intro ticket later
    have later : s.nextTicket ≤ ticket := later
    have absent : ticket ∉ r.batch.map (·.ticket) := by
      intro inside
      obtain ⟨e, he, same⟩ := List.mem_map.mp inside
      have bound := ordered.taken_lt mine he
      omega
    exact (others ticket absent).trans (unissued ticket later)
  · intro ticket old
    exact (others ticket (ordered.refused_apart mine old)).trans (refused ticket old)
  · intro e old
    exact (others e.ticket (ordered.pending_apart mine old)).trans (waiting e old)
  · intro n b taken e inside
    by_cases same : r.number = n
    · subst same
      cases Option.some.inj (mine.symm.trans taken)
      have before : answersIn s.told e.ticket = [] := by
        have h := handled r.number r.batch mine e inside
        rwa [ended.busy r member] at h
      rw [endings_finish, if_pos rfl, ended.busy r member, State.answers, answersIn_append, before,
        answersIn_member (ordered.batch_nodup mine) inside]
      rfl
    · have absent : e.ticket ∉ r.batch.map (·.ticket) := by
        intro there
        obtain ⟨x, hx, equal⟩ := List.mem_map.mp there
        exact same (ordered.batch_unique mine taken hx inside equal)
      rw [endings_finish, if_neg same, List.append_nil]
      exact (others e.ticket absent).trans (handled n b taken e inside)

theorem answered_next {es : List (Event α ε)} {s t : State α ε} {e : Event α ε}
    (ordered : Ordered es s) (ended : Ended es s) (calls : Calls s) (answered : Answered es s)
    (moved : Moves s e t) : Answered (es ++ [e]) t := by
  have ⟨unissued, refused, waiting, handled⟩ := answered
  have same : (∀ n how, e ≠ .finish n how) → ∀ n b, s.taken[n]? = some b → ∀ x ∈ b,
      s.answers x.ticket = (endings (es ++ [e]) n).map outcomeOf := by
    intro other n b taken x member
    rw [endings_other es other]
    exact handled n b taken x member
  cases moved with
  | refuse item => exact answered.refuse ordered item
  | start item | queue item =>
    refine ⟨?_, refused, ?_, same (by simp)⟩
    · intro ticket later
      simp only [State.nextTicket, List.length_append, List.length_singleton] at later
      exact unissued ticket (by simp only [State.nextTicket]; omega)
    · intro x member
      rcases List.mem_append.mp member with old | new
      · exact waiting x old
      · cases List.mem_singleton.mp new
        exact unissued s.nextTicket (Nat.le_refl _)
  | take =>
    refine ⟨unissued, refused, fun x member => waiting x (List.mem_of_mem_drop member), ?_⟩
    intro n b taken x member
    rcases Nat.lt_or_ge n s.taken.length with old | new
    · rw [List.getElem?_append_left old] at taken
      exact same (by simp) n b taken x member
    · rw [List.getElem?_append_right new, List.getElem?_singleton] at taken
      split at taken
      · cases Option.some.inj taken
        rw [endings_other es (by simp), ended.unborn n new]
        exact waiting x (List.mem_of_mem_take member)
      · contradiction
  | finish r how member => exact answered.finish ordered ended calls how member
  | _ => exact ⟨unissued, refused, waiting, same (by simp)⟩

theorem answered_of_run {limits : Limits} {es : List (Event α ε)} {s : State α ε}
    (reached : run State.step (.new limits) es = some s) : Answered es s := by
  have base : Answered [] (State.new limits : State α ε) :=
    ⟨fun _ _ => rfl, by simp [State.new], by simp [State.new], by simp [State.new]⟩
  refine run_invariant base ?_ reached
  intro es s e t before answered moved
  exact answered_next (ordered_of_run before) (ended_of_run before) (calls_of_run before) answered
    (moves_of_step moved)

/-! What one submitter hears, once it hears something. -/

theorem answer_eq (s : State α ε) (ticket : Nat) : s.answer? ticket = (s.answers ticket).head? := by
  unfold State.answer? State.answers answersIn
  induction s.told with
  | nil => rfl
  | cons x told ih =>
    by_cases same : x.1 = ticket
    · simp [same]
    · simpa [same] using ih

/-- A ticket that was given out waits, was refused, or is in a batch. -/
theorem Ordered.placed {es : List (Event α ε)} {s : State α ε} (ordered : Ordered es s) {ticket : Nat}
    (issued : ticket < s.nextTicket) : (∃ e ∈ s.pending, e.ticket = ticket) ∨ ticket ∈ s.refused ∨
      ∃ (n : Nat) (b : List (Entry α)), s.taken[n]? = some b ∧ ∃ e ∈ b, e.ticket = ticket := by
  rw [ordered.nextTicket, ← List.mem_range, ← ordered.tickets, List.mem_append] at issued
  rcases issued with kept | refused
  · obtain ⟨e, inside, rfl⟩ := List.mem_map.mp kept
    rcases List.mem_append.mp inside with taken | waiting
    · obtain ⟨b, member, inside⟩ := List.mem_flatten.mp taken
      obtain ⟨n, there⟩ := List.mem_iff_getElem?.mp member
      exact .inr (.inr ⟨n, b, there, e, inside, rfl⟩)
    · exact .inl ⟨e, waiting, rfl⟩
  · exact .inr (.inl refused)

/-- The handler call that had the item with this ticket ended so. -/
def Concluded (es : List (Event α ε)) (s : State α ε) (ticket : Nat) (how : Ending ε) : Prop :=
  ∃ n b, s.taken[n]? = some b ∧ how ∈ endings es n ∧ ∃ e ∈ b, e.ticket = ticket

theorem told_of_answer {es : List (Event α ε)} {s : State α ε} (ordered : Ordered es s)
    (answered : Answered es s) {ticket : Nat} {o : Outcome ε} (answer : s.answer? ticket = some o) :
    (ticket ∈ s.refused ∧ o = .error shutDownFault) ∨
      ∃ how, Concluded es s ticket how ∧ o = outcomeOf how := by
  rw [answer_eq] at answer
  rcases Nat.lt_or_ge ticket s.nextTicket with issued | unissued
  · rcases ordered.placed issued with ⟨e, waiting, rfl⟩ | refused | ⟨n, b, taken, e, inside, rfl⟩
    · rw [answered.waiting e waiting] at answer
      cases answer
    · rw [answered.refused ticket refused] at answer
      cases answer
      exact .inl ⟨refused, rfl⟩
    · rw [answered.handled n b taken e inside] at answer
      obtain ⟨how, ended, rfl⟩ := List.mem_map.mp (List.mem_of_head? answer)
      exact .inr ⟨how, ⟨n, b, taken, ended, e, inside, rfl⟩, rfl⟩
  · rw [answered.unissued ticket unissued] at answer
    cases answer

/-- What a run never takes back. -/
structure Grows (s t : State α ε) : Prop where
  taken : s.taken <+: t.taken
  refused : s.refused ⊆ t.refused
  shut : s.shut = true → t.shut = true

theorem grows_of_moves {s t : State α ε} {e : Event α ε} (moved : Moves s e t) : Grows s t := by
  cases moved with
  | refuse => exact ⟨List.prefix_refl _, List.subset_append_left _ _, fun shut => shut⟩
  | take => exact ⟨List.prefix_append _ _, List.Subset.refl _, fun shut => shut⟩
  | drain _ _ _ _ kept => exact ⟨List.prefix_refl _, List.Subset.refl _, kept⟩
  | _ => exact ⟨List.prefix_refl _, List.Subset.refl _, fun shut => shut⟩

theorem grows_of_run {s t : State α ε} {es : List (Event α ε)}
    (ran : run State.step s es = some t) : Grows s t := by
  induction es generalizing s with
  | nil => exact Option.some.inj ran ▸ ⟨List.prefix_refl _, List.Subset.refl _, fun shut => shut⟩
  | cons e es ih =>
    obtain ⟨u, stepped, rest⟩ := Option.bind_eq_some_iff.mp ran
    have first := grows_of_moves (moves_of_step stepped)
    have later := ih rest
    exact ⟨first.taken.trans later.taken, fun k there => later.refused (first.refused there),
      fun shut => later.shut (first.shut shut)⟩

theorem Concluded.later {es more : List (Event α ε)} {s t : State α ε} {ticket : Nat}
    {how : Ending ε} (concluded : Concluded es s ticket how) (grows : Grows s t) :
    Concluded (es ++ more) t ticket how := by
  obtain ⟨n, b, there, ended, inside⟩ := concluded
  obtain ⟨added, same⟩ := grows.taken
  refine ⟨n, b, ?_, ?_, inside⟩
  · rw [← same, List.getElem?_append_left (List.getElem?_eq_some_iff.mp there).1, there]
  · rw [endings, List.filterMap_append]
    exact List.mem_append_left _ ended

/-- A handler call that has ended is told to everybody whose item it had. -/
theorem answer_of_concluded {es : List (Event α ε)} {s : State α ε} (answered : Answered es s)
    {ticket : Nat} {how : Ending ε} (concluded : Concluded es s ticket how) :
    (s.answer? ticket).isSome := by
  obtain ⟨n, b, there, ended, e, inside, rfl⟩ := concluded
  rw [answer_eq, answered.handled n b there e inside, List.isSome_head?]
  exact List.ne_nil_of_mem (List.mem_map_of_mem ended)

/-- Whoever waits neither in the queue nor in a handler call has an answer. -/
theorem answer_of_settled {limits : Limits} {es : List (Event α ε)} {s : State α ε}
    (reached : run State.step (.new limits) es = some s) (intact : ∀ n, Event.crash n ∉ es)
    {ticket : Nat} (issued : ticket < s.nextTicket) (queued : ticket ∉ s.pending.map (·.ticket))
    (handled : ∀ r ∈ s.running, ticket ∉ r.batch.map (·.ticket)) :
    (s.answer? ticket).isSome := by
  have answered := answered_of_run reached
  rcases (ordered_of_run reached).placed issued with ⟨e, waits, rfl⟩ | late |
    ⟨n, b, taken, e, inside, rfl⟩
  · exact absurd (List.mem_map_of_mem waits) queued
  · rw [answer_eq, answered.refused ticket late]
    rfl
  · have settled := (ended_of_run reached).settled n (List.getElem?_eq_some_iff.mp taken).1
    rcases settled with running | crashed | ⟨how, once⟩
    · obtain ⟨r, member, rfl⟩ := List.mem_map.mp running
      have batch := (calls_of_run reached).batch r member
      cases Option.some.inj (taken.symm.trans batch)
      exact absurd (List.mem_map_of_mem inside) (handled r member)
    · exact absurd crashed (intact n)
    · exact answer_of_concluded answered ⟨n, b, taken, once ▸ List.mem_cons_self, e, inside, rfl⟩

theorem abandoned_nil {limits : Limits} {es : List (Event α ε)} {s : State α ε}
    (reached : run State.step (.new limits) es = some s) (intact : ∀ n, Event.crash n ∉ es) :
    s.abandoned = [] := by
  refine run_invariant (P := fun es s => (∀ n, Event.crash n ∉ es) → s.abandoned = []) (fun _ => rfl)
    ?_ reached intact
  intro es s e t _ ih moved intact
  have before := ih fun n member => intact n (List.mem_append_left _ member)
  cases moves_of_step moved with
  | crash r => exact absurd (List.mem_append_right es List.mem_cons_self) (intact r.number)
  | _ => exact before

/-- The counter of handler tasks is the number of tasks that are there, and somebody is there while
items wait. Once all tasks are gone, nothing waits and everybody knows the end of the one handler
call that had the item. -/
theorem nobody_stranded (limits : Limits) (es : List (Event α ε)) (s : State α ε)
    (reached : run State.step (.new limits) es = some s) (intact : ∀ n, Event.crash n ∉ es) :
    s.looking + s.running.length = s.active ∧
    s.active ≤ max 1 limits.maxHandlers ∧
    (s.pending ≠ [] → 1 ≤ s.active) ∧
    (∀ ticket ∈ s.refused, s.answers ticket =
      [.error (.canonical .failedPrecondition "batcher: shut down")]) ∧
    (s.looking + s.running.length = 0 → s.pending = [] ∧
      ∀ e ∈ s.accepted, ∃ n b how, s.taken[n]? = some b ∧ e ∈ b ∧
        (∀ m c, s.taken[m]? = some c → e ∈ c → m = n) ∧ endings es n = [how] ∧
        s.answers e.ticket = [match how with
          | .returned o => o
          | .panicked => .error (.canonical .internal "batcher: batch handler panicked")]) := by
  have ordered := ordered_of_run reached
  have ended := ended_of_run reached
  have answered := answered_of_run reached
  obtain ⟨counted, limited, busy⟩ := staffed_of_run reached
  rw [crashes_eq_zero intact, Nat.add_zero] at counted
  rw [limits_kept reached] at limited
  refine ⟨counted, Nat.max_comm 1 _ ▸ limited, busy, answered.refused, fun gone => ?_⟩
  have empty : s.pending = [] := by
    by_contra waiting
    have somebody := busy waiting
    omega
  refine ⟨empty, fun e accepted => ?_⟩
  rw [← ordered.flow, empty, List.append_nil] at accepted
  obtain ⟨b, member, inside⟩ := List.mem_flatten.mp accepted
  obtain ⟨n, taken⟩ := List.mem_iff_getElem?.mp member
  have settled := ended.settled n (List.getElem?_eq_some_iff.mp taken).1
  have none_running : s.running = [] := List.length_eq_zero_iff.mp (by omega)
  simp only [none_running, List.map_nil, List.not_mem_nil, intact n, false_or] at settled
  obtain ⟨how, once⟩ := settled
  refine ⟨n, b, how, taken, inside, ?_, once, ?_⟩
  · exact fun m c other there => ordered.batch_unique other taken there inside rfl
  · rw [answered.handled n b taken e inside, once]
    cases how <;> rfl

theorem nobody_stranded_two_tasks :
    (∀ n, Event.crash n ∉ twoTasks) ∧
    ∃ s : State Nat String, run State.step (.new ⟨2, 2⟩) twoTasks = some s ∧
      s.looking + s.running.length = 0 ∧ s.pending = [] ∧
      s.answers 4 = [.error (.canonical .failedPrecondition "batcher: shut down")] ∧
      (∃ n b how, s.taken[n]? = some b ∧ (⟨2, 12⟩ : Entry Nat) ∈ b ∧ endings twoTasks n = [how]) := by
  have intact : ∀ n, Event.crash n ∉ twoTasks := by simp [twoTasks]
  have ran : ∃ s : State Nat String, run State.step (.new ⟨2, 2⟩) twoTasks = some s ∧
      s.looking + s.running.length = 0 ∧ s.refused = [4] ∧
      s.accepted = [⟨0, 10⟩, ⟨1, 11⟩, ⟨2, 12⟩, ⟨3, 13⟩] := ⟨_, rfl, rfl, rfl, rfl⟩
  obtain ⟨s, reached, gone, refused, accepted⟩ := ran
  have h := nobody_stranded ⟨2, 2⟩ twoTasks s reached intact
  obtain ⟨empty, told⟩ := h.2.2.2.2 gone
  obtain ⟨n, b, how, taken, inside, _, once, _⟩ := told ⟨2, 12⟩ (by simp [accepted])
  exact ⟨intact, s, reached, gone, empty, h.2.2.2.1 4 (by simp [refused]), n, b, how, taken, inside,
    once⟩

end Courier.Batcher
