import Courier.Proofs.Queue.Table

/-! The order in which the copies of a queue take their turns. A copy that is ready is overtaken by nobody:
what goes out before it stood before it. One that is ready or on loan is passed at most once by each
other before it goes out, because all loans last equally long and so run out in the order they were
made: what runs out moves from the head of the table to the end of the ready copies, which changes
nothing in the line of both. -/

namespace Courier.Queue

variable {q r : Queue} {e : Event} {es : List Event} {d : Duration} {given : List Loan} {k : Nat}

/-- The copies that go out in a run, each as often as it does. -/
def turns (q : Queue) (es : List Event) : List Nat := (takes q es).flatten.map (·.copy.serial)

/-- What stands before `k`, or everything if `k` is not there. -/
def before (k : Nat) (line : List Nat) : List Nat := line.takeWhile (· ≠ k)

theorem before_append {line : List Nat} (member : k ∈ line) (more : List Nat) :
    before k (line ++ more) = before k line := by
  induction line with
  | nil => cases member
  | cons j line ih =>
    by_cases same : j = k
    · simp [before, same]
    · have later : k ∈ line := (List.mem_cons.mp member).resolve_left (Ne.symm same)
      simpa [before, same] using ih later

theorem before_skip {line : List Nat} (absent : k ∉ line) (more : List Nat) :
    before k (line ++ more) = line ++ before k more := by
  refine List.takeWhile_append_of_pos fun j member => decide_eq_true ?_
  rintro rfl
  exact absent member

theorem before_prefix {out line : List Nat} (inside : out <+: line) : before k out <+: before k line := by
  obtain ⟨more, rfl⟩ := inside
  by_cases member : k ∈ out
  · exact ⟨[], by rw [List.append_nil, before_append member]⟩
  · rw [before_skip member]
    exact (List.takeWhile_prefix _).trans (List.prefix_append _ _)

theorem before_sublist (k : Nat) (line : List Nat) : (before k line).Sublist line :=
  List.takeWhile_sublist _

theorem turns_cons (stepped : q.step e = some r) (es : List Event) :
    turns q (e :: es) = (q.given e).map (·.copy.serial) ++ turns r es := by
  rw [turns, takes_cons stepped, List.flatten_append, List.map_append, turns, Queue.given]
  cases taken? (q, e) <;> simp

theorem in_time_cons (in_time : ((e :: es).filterMap Event.time?).Pairwise (· ≤ ·)) :
    (∀ now, e.time? = some now → ∀ later ∈ es.filterMap Event.time?, now ≤ later) ∧
      (es.filterMap Event.time?).Pairwise (· ≤ ·) := by
  rw [List.filterMap_cons] at in_time
  cases time : e.time? with
  | none =>
    rw [time] at in_time
    exact ⟨fun _ none => by simp at none, in_time⟩
  | some now =>
    rw [time] at in_time
    refine ⟨fun t same => ?_, in_time.tail⟩
    cases Option.some.inj same
    exact fun later member => (List.pairwise_cons.mp in_time).1 later member

/-- What a take lends, and then what stays ready, is what was in line. -/
theorem line_of_lends (q : Queue) (max now : Nat) :
    (q.lends max now).1.map (·.copy.serial) ++ (q.lends max now).2.ready.map (·.serial) =
      (q.requeue now).ready.map (·.serial) := by
  rw [lends, lend, loans_serials, ← List.map_append, List.take_append_drop]

theorem ready_of_requeue (q : Queue) (now : Nat) : (q.requeue now).ready.map (·.serial) =
    q.ready.map (·.serial) ++ (q.expired now).map (·.copy.serial) := by
  rw [requeue, List.map_append, List.map_map]
  rfl

/-- With every deadline beyond the clock nothing goes out. -/
theorem turns_late (late : ∀ now ∈ es.filterMap Event.time?, clockEnd ≤ now + q.ackDeadline.nanos) :
    turns q es = [] := by
  induction es generalizing q with
  | nil => rfl
  | cons e es ih =>
    obtain ⟨u, stepped⟩ := q.step_total e
    obtain ⟨given, gives, moved⟩ := moves_of_step stepped
    have kept := deadline_kept (run_single stepped)
    have nothing : given = [] := by
      cases moved with
      | @lend max now fits =>
        have off := late now (List.mem_filterMap.mpr ⟨_, List.mem_cons_self, rfl⟩)
        have none_asked : q.share max now = 0 := by omega
        rw [lends, lend, none_asked]
        rfl
      | _ => rfl
    have rest : turns u es = [] := by
      refine ih fun now member => ?_
      rw [kept]
      obtain ⟨f, there, time⟩ := List.mem_filterMap.mp member
      exact late now (List.mem_filterMap.mpr ⟨f, List.mem_cons_of_mem _ there, time⟩)
    rw [turns_cons stepped, gives, nothing, rest]
    rfl

theorem turns_lost {max now : Nat} (off : clockEnd ≤ now + q.ackDeadline.nanos)
    (later : ∀ t ∈ es.filterMap Event.time?, now ≤ t) :
    turns ((q.requeue now).lose (q.share max now)) es = [] :=
  turns_late fun t member => Nat.le_trans off (Nat.add_le_add_right (later t member) _)

theorem prefix_or_of_append {line out more : List Nat}
    (either : out <+: line ++ more ∨ line ++ more <+: out) : out <+: line ∨ line <+: out := by
  rcases either with inside | beyond
  · exact List.prefix_or_prefix_of_prefix inside (List.prefix_append line more)
  · exact .inr ((List.prefix_append line more).trans beyond)

/-- The ready copies go out first, in their order, whatever else comes in or runs out. -/
theorem ready_first (in_time : (es.filterMap Event.time?).Pairwise (· ≤ ·)) :
    turns q es <+: q.ready.map (·.serial) ∨ q.ready.map (·.serial) <+: turns q es := by
  induction es generalizing q with
  | nil => exact .inl (List.nil_prefix)
  | cons e es ih =>
    obtain ⟨u, stepped⟩ := q.step_total e
    obtain ⟨given, gives, moved⟩ := moves_of_step stepped
    obtain ⟨later, rest⟩ := in_time_cons in_time
    have next := ih (q := u) rest
    rw [turns_cons stepped, gives]
    cases moved with
    | put messages =>
      rw [put, List.map_append] at next
      exact prefix_or_of_append next
    | ack => exact next
    | @lend max now =>
      -- what has just run out stands behind the ready copies, and is cut off again
      refine @prefix_or_of_append _ _ ((q.expired now).map (·.copy.serial)) ?_
      rw [← ready_of_requeue, ← line_of_lends q max now, List.prefix_append_right_inj,
        List.prefix_append_right_inj]
      exact next
    | lose _ off =>
      rw [turns_lost off (later _ rfl)]
      exact .inl List.nil_prefix

theorem before_ready (in_time : (es.filterMap Event.time?).Pairwise (· ≤ ·))
    (ready : k ∈ q.ready.map (·.serial)) :
    before k (turns q es) <+: before k (q.ready.map (·.serial)) := by
  rcases ready_first (q := q) in_time with inside | ⟨more, whole⟩
  · exact before_prefix inside
  · exact ⟨[], by rw [List.append_nil, ← whole, before_append ready]⟩

/-- A copy that has not gone out has seen no more takes than stand before it, if each take asks for
something and its deadline is on the clock. -/
theorem turn_comes (ready : k ∈ q.ready.map (·.serial))
    (asks : ∀ max now, .take max now ∈ es → 0 < max ∧ now + q.ackDeadline.nanos < clockEnd)
    (waits : k ∉ turns q es) : (takes q es).length ≤ (before k (q.ready.map (·.serial))).length := by
  induction es generalizing q with
  | nil => exact Nat.zero_le _
  | cons e es ih =>
    obtain ⟨u, stepped⟩ := q.step_total e
    obtain ⟨given, gives, moved⟩ := moves_of_step stepped
    have kept := deadline_kept (run_single stepped)
    rw [turns_cons stepped, gives, List.mem_append, not_or] at waits
    have asked : ∀ max now, .take max now ∈ es → 0 < max ∧ now + u.ackDeadline.nanos < clockEnd := by
      intro max now member
      rw [kept]
      exact asks max now (List.mem_cons_of_mem _ member)
    rw [takes_cons stepped, List.length_append]
    cases moved with
    | put messages =>
      have still : k ∈ (q.put messages).ready.map (·.serial) := by
        rw [put, List.map_append]
        exact List.mem_append_left _ ready
      have next := ih still asked waits.2
      rw [put, List.map_append, before_append ready, ← put] at next
      exact Nat.le_trans (Nat.le_of_eq (Nat.zero_add _)) next
    | ack => exact Nat.le_trans (Nat.le_of_eq (Nat.zero_add _)) (ih ready asked waits.2)
    | lose _ off => exact absurd (asks _ _ List.mem_cons_self).2 (Nat.not_lt.mpr off)
    | @lend max now =>
      -- at least one copy goes out, and it stood before `k`
      have line := line_of_lends q max now
      have here := before_append ready ((q.expired now).map (·.copy.serial))
      rw [← ready_of_requeue, ← line, before_skip waits.1] at here
      have inLine : k ∈ (q.requeue now).ready.map (·.serial) := by
        rw [ready_of_requeue]
        exact List.mem_append_left _ ready
      rw [← line, List.mem_append] at inLine
      have next := ih (inLine.resolve_left waits.1) asked waits.2
      have some_go : 0 < ((q.lends max now).1.map (·.copy.serial)).length := by
        have waiting : 0 < (q.requeue now).ready.length := by
          rw [← List.length_map (f := Copy.serial), ready_of_requeue, List.length_append]
          exact Nat.add_pos_left (List.length_pos_of_mem ready) _
        have share : 0 < q.share max now :=
          Nat.lt_min.mpr ⟨(asks max now List.mem_cons_self).1, waiting⟩
        rw [lends, lend, loans_serials, List.length_map, List.length_take]
        exact Nat.lt_min.mpr ⟨share, waiting⟩
      have one : (taken? (q, .take max now)).toList.length = 1 := rfl
      rw [← here, List.length_append, one]
      omega

/-! Who passes whom, over all the times that a copy is ready or on loan. -/

/-- Takes come in time order, the loans run out in the order they were made, and none runs out later
than what the takes that are still to come will lend. -/
structure InStep (q : Queue) (es : List Event) : Prop where
  accounted : Accounted q
  sorted : (q.inFlight.map (·.deadline)).Pairwise (· ≤ ·)
  bounded : ∀ l ∈ q.inFlight, ∀ now ∈ es.filterMap Event.time?, l.deadline ≤ now + q.ackDeadline.nanos
  in_time : (es.filterMap Event.time?).Pairwise (· ≤ ·)

theorem in_step_new (d : Duration) (in_time : (es.filterMap Event.time?).Pairwise (· ≤ ·)) :
    InStep (.new d) es :=
  ⟨accounted_new d, List.Pairwise.nil, by simp [new], in_time⟩

theorem InStep.next (inStep : InStep q (e :: es)) (moved : Moves q e given r) : InStep r es := by
  obtain ⟨later, rest⟩ := in_time_cons inStep.in_time
  have onwards : ∀ l ∈ q.inFlight, ∀ now ∈ es.filterMap Event.time?,
      l.deadline ≤ now + q.ackDeadline.nanos := by
    intro l held now member
    obtain ⟨f, there, time⟩ := List.mem_filterMap.mp member
    exact inStep.bounded l held now (List.mem_filterMap.mpr ⟨f, List.mem_cons_of_mem _ there, time⟩)
  have fewer : ∀ keep, ((q.inFlight.filter keep).map (·.deadline)).Pairwise (· ≤ ·) :=
    fun keep => inStep.sorted.sublist (List.filter_sublist.map _)
  refine ⟨inStep.accounted.next moved, ?_, ?_, rest⟩
  · cases moved with
    | put => exact inStep.sorted
    | ack => exact fewer _
    | lose => exact fewer _
    | @lend max now =>
      have table : (q.lends max now).2.inFlight =
          (q.inFlight.filter fun l => now < l.deadline) ++ (q.lends max now).1 := rfl
      have alike : ∀ l ∈ (q.lends max now).1, l.deadline = now + q.ackDeadline.nanos :=
        fun l member => loans_deadline member
      rw [table, List.map_append, List.pairwise_append]
      refine ⟨fewer _, ?_, ?_⟩
      · rw [List.pairwise_map]
        refine List.pairwise_of_forall_mem_list fun a first b second => ?_
        exact Nat.le_of_eq ((alike a first).trans (alike b second).symm)
      · intro a old b new
        obtain ⟨l, held, rfl⟩ := List.mem_map.mp old
        obtain ⟨m, out, rfl⟩ := List.mem_map.mp new
        rw [alike m out]
        exact inStep.bounded l (List.mem_filter.mp held).1 now
          (List.mem_filterMap.mpr ⟨_, List.mem_cons_self, rfl⟩)
  · cases moved with
    | put => exact onwards
    | ack => exact fun l held => onwards l (List.mem_filter.mp held).1
    | lose => exact fun l held => onwards l (List.mem_filter.mp held).1
    | @lend max now =>
      intro l member t time
      rcases List.mem_append.mp member with old | new
      · exact onwards l (List.mem_filter.mp old).1 t time
      · have due : l.deadline = now + q.ackDeadline.nanos := loans_deadline new
        have after := later now rfl t time
        have kept : (q.lends max now).2.ackDeadline = q.ackDeadline := rfl
        rw [due, kept]
        exact Nat.add_le_add_right after _

theorem InStep.run {fs : List Event} (inStep : InStep q (es ++ fs)) (ran : run step q es = some r) :
    InStep r fs := by
  induction es generalizing q with
  | nil => exact Option.some.inj ran ▸ inStep
  | cons e es ih =>
    obtain ⟨u, stepped, rest⟩ := Option.bind_eq_some_iff.mp ran
    obtain ⟨given, _, moved⟩ := moves_of_step stepped
    exact ih (inStep.next moved) rest

theorem split_due {table : List Loan} (sorted : (table.map (·.deadline)).Pairwise (· ≤ ·)) (now : Nat) :
    (table.filter fun l => l.deadline ≤ now) ++ (table.filter fun l => now < l.deadline) = table := by
  induction table with
  | nil => rfl
  | cons l table ih =>
    rw [List.map_cons, List.pairwise_cons] at sorted
    by_cases due : l.deadline ≤ now
    · have running : ¬ now < l.deadline := Nat.not_lt.mpr due
      simp [due, running, ih sorted.2]
    · have after : ∀ m ∈ table, now < m.deadline := by
        intro m member
        have order := sorted.1 m.deadline (List.mem_map_of_mem member)
        omega
      have none_due : (table.filter fun m => m.deadline ≤ now) = [] :=
        List.filter_eq_nil_iff.mpr fun m member => by simpa using after m member
      have all_run : (table.filter fun m => now < m.deadline) = table :=
        List.filter_eq_self.mpr fun m member => by simpa using after m member
      simp [due, none_due, all_run, Nat.lt_of_not_le due]

/-- What runs out moves behind the ready copies, which is where it stands already. -/
theorem InStep.copies_requeue (inStep : InStep q es) (now : Nat) : (q.requeue now).copies = q.copies := by
  have split := split_due inStep.sorted now
  rw [copies, requeue, expired_eq inStep.accounted.ordered, List.append_assoc, ← List.map_append,
    split, copies]

theorem acked_grow (ran : run step q es = some r) : q.acked ⊆ r.acked := by
  induction es generalizing q with
  | nil => exact Option.some.inj ran ▸ List.Subset.refl _
  | cons e es ih =>
    obtain ⟨u, stepped, rest⟩ := Option.bind_eq_some_iff.mp ran
    obtain ⟨given, _, moved⟩ := moves_of_step stepped
    refine List.Subset.trans ?_ (ih rest)
    cases moved with
    | ack => exact List.subset_append_left _ _
    | _ => exact List.Subset.refl _

theorem places_eq (q : Queue) : q.places = q.copies.map (·.serial) ++ q.acked ++ q.lost := by
  rw [places, copies, List.map_append, List.map_map]
  rfl

theorem Accounted.copies_nodup (accounted : Accounted q) : (q.copies.map (·.serial)).Nodup := by
  have distinct := accounted.distinct
  rw [places_eq, List.append_assoc] at distinct
  exact (List.nodup_append.mp distinct).1

theorem Accounted.copies_lt (accounted : Accounted q) (member : k ∈ q.copies.map (·.serial)) :
    k < q.arrived.length := by
  apply accounted.serial_lt
  rw [places_eq, List.append_assoc]
  exact List.mem_append_left _ member

theorem before_of_sublist {short line : List Nat} (sub : short.Sublist line) (distinct : line.Nodup)
    (member : k ∈ short) : before k short ⊆ before k line := by
  induction sub with
  | slnil => cases member
  | @cons short line j sub ih =>
    obtain ⟨apart, distinct⟩ := List.nodup_cons.mp distinct
    have other : j ≠ k := by
      rintro rfl
      exact apart (sub.subset member)
    have skip : before k (j :: line) = j :: before k line := by simp [before, other]
    rw [skip]
    exact List.Subset.trans (ih distinct member) (List.subset_cons_self _ _)
  | @cons_cons short line j sub ih =>
    by_cases same : j = k
    · simp [before, same]
    · have later : k ∈ short := (List.mem_cons.mp member).resolve_left (Ne.symm same)
      have skip : ∀ l, before k (j :: l) = j :: before k l := fun l => by simp [before, same]
      rw [skip, skip]
      exact List.cons_subset_cons j (ih (List.nodup_cons.mp distinct).2 later)

/-- Where others are let in, nobody else comes to stand before `k`. -/
theorem before_insert {front others back : List Nat} (absent : k ∉ others) {j : Nat}
    (member : j ∈ before k (front ++ others ++ back)) :
    j ∈ before k (front ++ back) ∨ j ∈ others := by
  rw [List.append_assoc] at member
  by_cases there : k ∈ front
  · rw [before_append there] at member ⊢
    exact .inl member
  · rw [before_skip there, before_skip absent, List.mem_append, List.mem_append] at member
    rw [before_skip there, List.mem_append]
    rcases member with first | other | last
    · exact .inl (.inl first)
    · exact .inr other
    · exact .inl (.inr last)

/-- The first of a line go out and stand behind it again: whoever goes out next before `k` does so for the
first time. -/
theorem before_rotated {first rest out : List Nat} {bound : Nat} (distinct : (first ++ rest).Nodup)
    (old : ∀ j ∈ first, j < bound) (member : k ∈ first ++ rest)
    (next : k ∉ first → (before k out).Nodup ∧
      ∀ j ∈ before k out, j ∈ before k (rest ++ first) ∨ bound ≤ j) :
    (before k (first ++ out)).Nodup ∧
      ∀ j ∈ before k (first ++ out), j ∈ before k (first ++ rest) ∨ bound ≤ j := by
  obtain ⟨once, _, apart⟩ := List.nodup_append.mp distinct
  by_cases goes : k ∈ first
  · rw [before_append goes, before_append goes]
    exact ⟨once.sublist (before_sublist k first), fun _ => .inl⟩
  · obtain ⟨onceMore, who⟩ := next goes
    have waits : k ∈ rest := (List.mem_append.mp member).resolve_left goes
    rw [before_append waits] at who
    rw [before_skip goes, before_skip goes]
    refine ⟨List.nodup_append.mpr ⟨once, onceMore, ?_⟩, fun j one => ?_⟩
    · rintro i now j later rfl
      rcases who i later with ahead | new
      · exact apart i now i ((before_sublist k rest).subset ahead) rfl
      · exact absurd (old i now) (Nat.not_lt.mpr new)
    · rcases List.mem_append.mp one with now | later
      · exact .inl (List.mem_append_left _ now)
      · exact (who j later).imp_left (List.mem_append_right _)

theorem copies_put (q : Queue) (messages : List Message) : (q.put messages).copies.map (·.serial) =
    q.ready.map (·.serial) ++ List.range' q.arrived.length messages.length ++
      q.inFlight.map (·.copy.serial) := by
  have ready : (q.put messages).ready = q.ready ++ fresh q.arrived.length messages := rfl
  rw [copies, ready, List.map_append, List.map_append, fresh_serials, List.map_map]
  rfl

theorem copies_serials (q : Queue) : q.copies.map (·.serial) =
    q.ready.map (·.serial) ++ q.inFlight.map (·.copy.serial) := by
  rw [copies, List.map_append, List.map_map]
  rfl

theorem InStep.copies_lends (inStep : InStep q es) (max now : Nat) : q.copies.map (·.serial) =
    (q.lends max now).1.map (·.copy.serial) ++ ((q.lends max now).2.ready.map (·.serial) ++
      (q.requeue now).inFlight.map (·.copy.serial)) := by
  rw [← inStep.copies_requeue now, copies_serials, ← line_of_lends q max now, List.append_assoc]

theorem copies_lent (q : Queue) (max now : Nat) : (q.lends max now).2.copies.map (·.serial) =
    (q.lends max now).2.ready.map (·.serial) ++ (q.requeue now).inFlight.map (·.copy.serial) ++
      (q.lends max now).1.map (·.copy.serial) := by
  have table : (q.lends max now).2.inFlight = (q.requeue now).inFlight ++ (q.lends max now).1 := rfl
  rw [copies_serials, table, List.map_append, List.append_assoc]

/-- What goes out later, or is never acknowledged, is not what an acknowledgement takes away. -/
theorem kept_of_ack {ackId : Nat} (accounted : Accounted q)
    (next : Accounted (q.ack ackId)) (member : k ∈ q.copies.map (·.serial))
    (ran : run step (q.ack ackId) es = some r)
    (there : k ∈ turns (q.ack ackId) es ∨ k ∉ r.acked) :
    k ∈ (q.ack ackId).copies.map (·.serial) := by
  by_contra gone
  have acked : k ∈ (q.ack ackId).acked := by
    have place : k ∈ (q.ack ackId).places := by
      rw [(q.places_ack ackId).mem_iff, places_eq, List.append_assoc]
      exact List.mem_append_left _ member
    have lost : k ∉ (q.ack ackId).lost := fun lost => by
      have apart := accounted.distinct
      rw [places_eq, List.nodup_append] at apart
      exact apart.2.2 k (List.mem_append_left _ member) k lost rfl
    rw [places_eq, List.mem_append, List.mem_append] at place
    exact (place.resolve_right lost).resolve_left gone
  rcases there with out | not_acked
  · obtain ⟨l, out, same⟩ := List.mem_map.mp out
    obtain ⟨given, result, inside⟩ := List.mem_flatten.mp out
    exact never_again next acked ran given result l inside same
  · exact not_acked (acked_grow ran acked)

/-- Until a copy that is ready or on loan goes out, unless it is acknowledged before, nobody goes out
twice, and only those who stood before it or came in later. -/
theorem passed_once (inStep : InStep q es) (member : k ∈ q.copies.map (·.serial))
    (ran : run step q es = some r) (there : k ∈ turns q es ∨ k ∉ r.acked) :
    (before k (turns q es)).Nodup ∧ ∀ j ∈ before k (turns q es),
      j ∈ before k (q.copies.map (·.serial)) ∨ q.arrived.length ≤ j := by
  induction es generalizing q with
  | nil => exact ⟨List.nodup_nil, fun j none => by cases none⟩
  | cons e es ih =>
    obtain ⟨u, stepped, rest⟩ := Option.bind_eq_some_iff.mp ran
    obtain ⟨given, gives, moved⟩ := moves_of_step stepped
    have next := inStep.next moved
    have distinct := inStep.accounted.copies_nodup
    have old := inStep.accounted.copies_lt member
    rw [turns_cons stepped, gives] at there ⊢
    -- The induction is on the events; what stands before `k` can only shrink, but for new copies.
    cases moved with
    | put messages =>
      have line := q.copies_put messages
      have absent : k ∉ List.range' q.arrived.length messages.length := by
        rw [List.mem_range'_1]
        omega
      have still : k ∈ (q.put messages).copies.map (·.serial) := by
        rw [copies_serials, List.mem_append] at member
        rw [line, List.mem_append, List.mem_append]
        exact member.imp_left .inl
      obtain ⟨once, who⟩ := ih next still rest there
      refine ⟨once, fun j first => ?_⟩
      rcases who j first with here | new
      · rw [line] at here
        rw [copies_serials]
        exact (before_insert absent here).imp_right fun came => (List.mem_range'_1.mp came).1
      · have more : (q.put messages).arrived.length = q.arrived.length + messages.length :=
          List.length_append
        exact .inr (by omega)
    | ack ackId =>
      have fewer : ((q.ack ackId).copies.map (·.serial)).Sublist (q.copies.map (·.serial)) :=
        ((List.Sublist.refl _).append (List.filter_sublist.map _)).map _
      have kept := kept_of_ack inStep.accounted next.accounted member rest there
      obtain ⟨once, who⟩ := ih next kept rest there
      refine ⟨once, fun j first => ?_⟩
      exact (who j first).imp_left fun here => before_of_sublist fewer distinct kept here
    | lose _ off =>
      rw [turns_lost off ((in_time_cons inStep.in_time).1 _ rfl)]
      exact ⟨List.nodup_nil, fun j none => by cases none⟩
    | @lend max now =>
      -- The line of ready copies and loans turns: its first go out and stand at its end.
      have whole := inStep.copies_lends max now
      have lent := q.copies_lent max now
      rw [whole] at distinct member ⊢
      refine before_rotated distinct (fun j goes => ?_) member fun stays => ?_
      · apply inStep.accounted.copies_lt
        rw [whole]
        exact List.mem_append_left _ goes
      · have waits := (List.mem_append.mp member).resolve_left stays
        rw [← lent]
        refine ih next ?_ rest (there.imp_left fun out => ?_)
        · rw [lent]
          exact List.mem_append_left _ waits
        · exact (List.mem_append.mp out).resolve_left stays

/-- For any queue and any events whose takes come in time order. Every arrangement of the table of loans
gives the same results and leads to the same queue but for its table; what has run out goes back
behind the ready copies, in the order of the numbers it was on loan under. While a copy is ready, only
those that stand before it go out before it, in their order, and so each other at most once; with
takes that ask for something, and deadlines on the clock, it goes out after as many takes as stand
before it. In a queue that has been in use from the start, and with no acknowledgement of the copy,
each other passes it at most once, counted from any moment at which it is ready or on loan. -/
theorem redelivery_in_turn (q : Queue) (es : List Event) (tabled : Tabled q)
    (in_time : (es.filterMap Event.time?).Pairwise (· ≤ ·)) :
    (∀ results r, Shuffled q es results r → results = takes q es ∧
      ∃ t table, run step q es = some t ∧ table.Perm t.inFlight ∧ r = t.withTable table) ∧
    (∀ now, ∃ back : List Loan, back.Perm (q.inFlight.filter fun l => l.deadline ≤ now) ∧
      back.Pairwise (fun a b => a.ackId < b.ackId) ∧
      ∀ table, table.Perm q.inFlight → (q.withTable table).requeue now =
        { q with
          ready := q.ready ++ back.map (·.copy)
          inFlight := table.filter fun l => now < l.deadline }) ∧
    (∀ k ∈ q.ready.map (·.serial),
      before k (turns q es) <+: before k (q.ready.map (·.serial)) ∧
      ((q.ready.map (·.serial)).Nodup → ∀ j, (before k (turns q es)).count j ≤ 1) ∧
      ((∀ max now, .take max now ∈ es → 0 < max ∧ now + q.ackDeadline.nanos < clockEnd) →
        k ∉ turns q es → (takes q es).length ≤ (before k (q.ready.map (·.serial))).length)) ∧
    (∀ d earlier r, run step (.new d) earlier = some q →
      ((earlier ++ es).filterMap Event.time?).Pairwise (· ≤ ·) → run step q es = some r →
      ∀ k ∈ q.ready.map (·.serial) ++ q.inFlight.map (·.copy.serial),
        k ∈ turns q es ∨ k ∉ r.acked → ∀ j, (before k (turns q es)).count j ≤ 1) := by
  refine ⟨fun results r ran => ?_, fun now => ?_, fun k ready => ⟨?_, ?_, ?_⟩, ?_⟩
  · exact tabled.shuffled (List.Perm.refl _) ran
  · have due := q.expired_of_due now
    have distinct : ((q.expired now).map (·.ackId)).Nodup :=
      (due.map _).nodup_iff.mpr (tabled.filter _)
    refine ⟨q.expired now, due, ?_, fun table any => ?_⟩
    · have apart := List.pairwise_map.mp distinct
      exact ((q.expired_sorted now).and apart).imp fun both => Nat.lt_of_le_of_ne both.1 both.2
    · exact tabled.requeue_withTable any now
  · exact before_ready in_time ready
  · intro distinct
    apply List.nodup_iff_count_le_one.mp
    exact distinct.sublist ((before_ready in_time ready).sublist.trans (before_sublist _ _))
  · exact turn_comes ready
  · intro d earlier r reached whole ran k member there
    rw [← copies_serials] at member
    have inStep := (in_step_new d whole).run reached
    exact List.nodup_iff_count_le_one.mp (passed_once inStep member ran there).1

/-- Each take finds that one more loan has just run out; another copy comes in meanwhile. -/
def oneDueEach : List Event :=
  [.take 1 10, .put [note 3], .take 1 15, .take 1 20, .take 1 25, .take 1 30]

def twoOnLoan : List Event := [.put [note 0, note 1, note 2], .take 1 0, .take 1 5]

theorem redelivery_in_turn_one_due_each :
    ∃ q, run step (.new tenNanos) twoOnLoan = some q ∧
      q.ready.map (·.serial) = [2] ∧ q.inFlight.map (·.copy.serial) = [0, 1] ∧
      turns q oneDueEach = [2, 0, 3, 1, 2] ∧
      takes (q.withTable q.inFlight.reverse) oneDueEach = takes q oneDueEach ∧
      before 2 (turns q oneDueEach) <+: before 2 [2] ∧
      ∀ j, (before 1 (turns q oneDueEach)).count j ≤ 1 := by
  have ran : ∃ q r, run step (.new tenNanos) twoOnLoan = some q ∧
      run step q oneDueEach = some r ∧ q.ready.map (·.serial) = [2] ∧
      q.inFlight.map (·.copy.serial) = [0, 1] ∧ turns q oneDueEach = [2, 0, 3, 1, 2] := by
    refine ⟨_, _, rfl, rfl, ?_⟩
    decide +kernel
  obtain ⟨q, r, reached, ran, ready, lent, out⟩ := ran
  have in_time : (oneDueEach.filterMap Event.time?).Pairwise (· ≤ ·) := by decide
  have h := redelivery_in_turn q oneDueEach (tabled_of_run reached) in_time
  obtain ⟨arranged, _, first, all⟩ := h
  refine ⟨q, reached, ready, lent, out, ?_, ?_, ?_⟩
  · obtain ⟨t, stepped⟩ := (q.withTable q.inFlight.reverse).step_total (.take 1 10)
    obtain ⟨u, rest⟩ := t.run_total oneDueEach.tail
    have reversed := Shuffled.next q.inFlight.reverse (List.reverse_perm _) stepped (shuffled_of_run rest)
    rw [← takes_cons stepped] at reversed
    exact (arranged _ _ reversed).1
  · exact ready ▸ (first 2 (by simp [ready])).1
  · exact all tenNanos _ r reached (by decide) ran 1 (by simp [ready, lent]) (.inl (by simp [out]))

end Courier.Queue
