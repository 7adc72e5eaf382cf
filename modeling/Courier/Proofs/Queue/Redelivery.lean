import Courier.Proofs.Queue.Accounted

/-! What a queue has handed out. Numbers are given out without a gap as long as no take breaks off. A
copy goes out again only when its loan has run out unacknowledged, and never after the number it was
on loan under has been acknowledged. -/

namespace Courier.Queue

variable {q r : Queue} {e : Event} {es fs : List Event} {d : Duration} {given : List Loan} {n : Nat}

theorem next_le (moved : Moves q e given r) : q.nextAckId ≤ r.nextAckId := by
  cases moved with
  | lend => exact Nat.le_add_right _ _
  | lose => exact Nat.le_add_right _ _
  | _ => exact Nat.le_refl _

/-- What goes out has new numbers, one for each copy, and was ready until then. -/
structure Lent (q : Queue) (e : Event) (given : List Loan) : Prop where
  numbers : ∀ l ∈ given, q.nextAckId ≤ l.ackId
  distinct : (given.map (·.copy.serial)).Nodup
  ready : ∀ l ∈ given, ∃ max now, e = .take max now ∧
    l.copy.serial ∈ (q.requeue now).ready.map (·.serial)

theorem lent_of_moves (accounted : Accounted q) (moved : Moves q e given r) : Lent q e given := by
  cases moved with
  | @lend max now =>
    have halves : ((List.take (q.share max now) (q.requeue now).ready).map (·.serial)).Sublist
        ((q.requeue now).ready.map (·.serial)) := (List.take_sublist _ _).map _
    refine ⟨fun l member => (loan_number member).1, ?_, ?_⟩
    · rw [lends, lend, loans_serials]
      exact (accounted.requeue now).ready_nodup.sublist halves
    · intro l member
      exact ⟨max, now, rfl, halves.subset (loan_serial member)⟩
  | _ => exact ⟨by simp, List.nodup_nil, by simp⟩

theorem lent_of_take {g : List Loan} (reached : run step (.new d) es = some q)
    (member : g ∈ takes q fs) : ∃ u e, Accounted u ∧ Lent u e g := by
  obtain ⟨⟨u, e⟩, there, took⟩ := List.mem_filterMap.mp member
  obtain ⟨before, _, _, ran⟩ := trace_reached there
  have accounted := (accounted_of_run reached).run ran
  obtain ⟨v, stepped⟩ := u.step_total e
  obtain ⟨given, same, moved⟩ := moves_of_step stepped
  have result : u.given e = g := by rw [Queue.given, took, Option.getD_some]
  exact ⟨u, e, accounted, result ▸ same ▸ lent_of_moves accounted moved⟩

theorem handouts_of_run (reached : run step (.new d) es = some q) :
    q.handouts = (takes (.new d) es).flatten.map Loan.handout := by
  refine run_invariant (P := fun es q => q.handouts = (takes (.new d) es).flatten.map Loan.handout)
    rfl ?_ reached
  intro es q e r ran ih stepped
  obtain ⟨given, same, moved⟩ := moves_of_step stepped
  rw [given_concat ran, List.map_append, ← ih, same]
  cases moved with
  | lend => rfl
  | _ => exact (List.append_nil _).symm

theorem arrived_run (ran : run step q fs = some r) :
    r.arrived = q.arrived ++ fs.flatMap Event.messages := by
  induction fs generalizing q with
  | nil => exact Option.some.inj ran ▸ (List.append_nil _).symm
  | cons e fs ih =>
    obtain ⟨u, stepped, rest⟩ := Option.bind_eq_some_iff.mp ran
    have here : u.arrived = q.arrived ++ e.messages := by
      obtain ⟨given, _, moved⟩ := moves_of_step stepped
      cases moved with
      | put messages => rfl
      | _ => exact (List.append_nil _).symm
    rw [ih rest, here, List.flatMap_cons, List.append_assoc]

theorem handouts_grow (ran : run step q fs = some r) : q.handouts ⊆ r.handouts := by
  induction fs generalizing q with
  | nil => exact Option.some.inj ran ▸ List.Subset.refl _
  | cons e fs ih =>
    obtain ⟨u, stepped, rest⟩ := Option.bind_eq_some_iff.mp ran
    obtain ⟨given, _, moved⟩ := moves_of_step stepped
    refine List.Subset.trans ?_ (ih rest)
    cases moved with
    | lend => exact List.subset_append_left _ _
    | _ => exact List.Subset.refl _

/-- What a run acknowledges, it acknowledges under a number that was given out for it. -/
theorem acked_under (accounted : Accounted q) (ran : run step q fs = some r) {k : Nat}
    (acked : k ∈ r.acked) :
    k ∈ q.acked ∨ ∃ number, .ack number ∈ fs ∧ ⟨number, k⟩ ∈ r.handouts := by
  induction fs generalizing q with
  | nil => exact .inl (Option.some.inj ran ▸ acked)
  | cons e fs ih =>
    obtain ⟨u, stepped, rest⟩ := Option.bind_eq_some_iff.mp ran
    obtain ⟨given, _, moved⟩ := moves_of_step stepped
    rcases ih (accounted.next moved) rest with here | ⟨number, later, out⟩
    · cases moved with
      | ack number =>
        rcases List.mem_append.mp here with before | now
        · exact .inl before
        · obtain ⟨l, removed, rfl⟩ := List.mem_map.mp now
          obtain ⟨held, same⟩ := List.mem_filter.mp removed
          have recorded := accounted.recorded.subset (List.mem_map_of_mem held)
          have under : l.ackId = number := of_decide_eq_true same
          exact .inr ⟨number, List.mem_cons_self, under ▸ handouts_grow rest recorded⟩
      | _ => exact .inl here
    · exact .inr ⟨number, List.mem_cons_of_mem _ later, out⟩

theorem given_content (reached : run step (.new d) es = some q) :
    ∀ l ∈ (takes (.new d) es).flatten, q.arrived[l.copy.serial]? = some l.copy.message := by
  refine run_invariant (P := fun es q => ∀ l ∈ (takes (.new d) es).flatten,
    q.arrived[l.copy.serial]? = some l.copy.message) (by simp [takes, trace]) ?_ reached
  intro es q e r ran ih stepped l member
  have accounted := accounted_of_run (run_snoc.mpr ⟨q, ran, stepped⟩)
  obtain ⟨given, same, moved⟩ := moves_of_step stepped
  rw [given_concat ran, same, List.mem_append] at member
  rcases member with old | new
  · have content := ih l old
    cases moved with
    | put messages =>
      exact (List.getElem?_append_left (List.getElem?_eq_some_iff.mp content).1).trans content
    | _ => exact content
  · cases moved with
    | @lend max now =>
      have lent := List.mem_append_right (q.requeue now).inFlight new
      exact accounted.contents l.copy (List.mem_append_right _ (List.mem_map_of_mem lent))
    | _ => cases new

theorem lost_nil (timely : Timely d es) (reached : run step (.new d) es = some q) : q.lost = [] := by
  refine run_invariant (P := fun es q => Timely d es → q.lost = []) (fun _ => rfl) ?_ reached timely
  intro es q e r ran ih stepped timely
  have before : Timely d es := by
    intro now member
    refine timely now ?_
    rw [List.filterMap_append]
    exact List.mem_append_left _ member
  have kept := deadline_kept ran
  obtain ⟨given, _, moved⟩ := moves_of_step stepped
  cases moved with
  | @lose max now _ late =>
    have on_clock := timely now (by rw [filterMap_concat]; simp [Event.time?])
    rw [kept] at late
    exact absurd on_clock (Nat.not_lt.mpr late)
  | _ => exact ih before

/-- An acknowledgement of the number that the copy was on loan under. -/
def Removed (d : Duration) (es : List Event) (serial : Nat) : Prop :=
  ∃ x ∈ trace step (.new d) es, ∃ l ∈ x.1.inFlight, x.2 = .ack l.ackId ∧ l.copy.serial = serial

/-- A take found the deadline of this loan passed and the loan not acknowledged, when `n` was not yet
given out. -/
def RanOut (d : Duration) (es : List Event) (l : Loan) (n : Nat) : Prop :=
  ∃ x ∈ trace step (.new d) es, l ∈ x.1.inFlight ∧ x.1.nextAckId ≤ n ∧
    ∃ max now, x.2 = .take max now ∧ l.deadline ≤ now

theorem RanOut.later {l : Loan} {m : Nat} (ranOut : RanOut d es l n)
    (ran : run step (.new d) es = some q) (stepped : q.step e = some r) (more : n ≤ m) :
    RanOut d (es ++ [e]) l m := by
  obtain ⟨x, there, held, number, run_out⟩ := ranOut
  refine ⟨x, ?_, held, Nat.le_trans number more, run_out⟩
  rw [trace_snoc ran stepped]
  exact List.mem_append_left _ there

theorem removed_snoc (ran : run step (.new d) es = some q) (stepped : q.step e = some r) (k : Nat) :
    Removed d (es ++ [e]) k ↔ Removed d es k ∨ ∃ l ∈ q.inFlight, e = .ack l.ackId ∧
      l.copy.serial = k := by
  rw [Removed, trace_snoc ran stepped, Removed]
  simp only [List.mem_append, List.mem_singleton]
  constructor
  · rintro ⟨x, old | rfl, rest⟩
    · exact .inl ⟨x, old, rest⟩
    · exact .inr rest
  · rintro (⟨x, old, rest⟩ | rest)
    · exact ⟨x, .inl old, rest⟩
    · exact ⟨(q, e), .inr rfl, rest⟩

theorem acked_of_run (reached : run step (.new d) es = some q) (k : Nat) :
    k ∈ q.acked ↔ Removed d es k := by
  refine run_invariant (P := fun es q => k ∈ q.acked ↔ Removed d es k) ?_ ?_ reached
  · simp [Removed, trace, new]
  · intro es q e r ran ih stepped
    rw [removed_snoc ran stepped, ← ih]
    obtain ⟨given, _, moved⟩ := moves_of_step stepped
    cases moved with
    | ack ackId =>
      simp only [ack, List.mem_append, List.mem_map, List.mem_filter, decide_eq_true_eq,
        Event.ack.injEq]
      refine or_congr_right ⟨?_, ?_⟩
      · rintro ⟨l, ⟨held, rfl⟩, rfl⟩
        exact ⟨l, held, rfl, rfl⟩
      · rintro ⟨l, held, rfl, rfl⟩
        exact ⟨l, ⟨held, rfl⟩, rfl⟩
    | _ => simp [put, lends, lend, lose, requeue]

/-- Where a loan is that was given out at some time: still running, run out, or its copy acknowledged. -/
def Fate (d : Duration) (es : List Event) (q : Queue) (l : Loan) : Prop :=
  l ∈ q.inFlight ∨ RanOut d es l q.nextAckId ∨ l.copy.serial ∈ q.acked

theorem Fate.next {l : Loan} (fate : Fate d es q l) (ran : run step (.new d) es = some q)
    (stepped : q.step e = some r) : Fate d (es ++ [e]) r l := by
  obtain ⟨given, _, moved⟩ := moves_of_step stepped
  have more := next_le moved
  -- A take puts back what has run out, and keeps the rest.
  have taking : ∀ max now, e = .take max now → l ∈ q.inFlight →
      l ∈ (q.requeue now).inFlight ∨ RanOut d (es ++ [e]) l r.nextAckId := by
    intro max now take held
    by_cases due : l.deadline ≤ now
    · refine .inr ⟨(q, e), ?_, held, more, max, now, take, due⟩
      rw [trace_snoc ran stepped]
      exact List.mem_append_right _ (List.mem_singleton_self _)
    · exact .inl (List.mem_filter.mpr ⟨held, by simpa using due⟩)
  rcases fate with held | ranOut | acked
  · cases moved with
    | put => exact .inl held
    | @lend max now =>
      exact (taking max now rfl held).imp (List.mem_append_left _) .inl
    | @lose max now => exact (taking max now rfl held).imp_right .inl
    | ack ackId =>
      by_cases same : l.ackId = ackId
      · refine .inr (.inr (List.mem_append_right _ ?_))
        exact List.mem_map_of_mem (f := fun l : Loan => l.copy.serial)
          (List.mem_filter.mpr ⟨held, by simpa using same⟩)
      · exact .inl (List.mem_filter.mpr ⟨held, by simpa using same⟩)
  · exact .inr (.inl (ranOut.later ran stepped more))
  · refine .inr (.inr ?_)
    cases moved with
    | ack => exact List.mem_append_left _ acked
    | _ => exact acked

theorem fate_of_run (reached : run step (.new d) es = some q) :
    ∀ l ∈ (takes (.new d) es).flatten, Fate d es q l := by
  refine run_invariant (P := fun es q => ∀ l ∈ (takes (.new d) es).flatten, Fate d es q l)
    (by simp [takes, trace]) ?_ reached
  intro es q e r ran ih stepped l member
  rw [given_concat ran, List.mem_append] at member
  rcases member with old | new
  · exact (ih l old).next ran stepped
  · obtain ⟨given, same, moved⟩ := moves_of_step stepped
    rw [same] at new
    cases moved with
    | lend => exact .inl (List.mem_append_right _ new)
    | _ => cases new

theorem issued_of_run (reached : run step (.new d) es = some q) {l : Loan}
    (member : l ∈ (takes (.new d) es).flatten) : l.ackId < q.nextAckId := by
  have known : l.handout ∈ q.handouts := by
    rw [handouts_of_run reached]
    exact List.mem_map_of_mem member
  exact (accounted_of_run reached).issued _ known

/-- A copy that goes out again was on loan until it ran out, under every number it had before. -/
theorem again_of_run (reached : run step (.new d) es = some q) :
    ∀ l ∈ (takes (.new d) es).flatten, ∀ m ∈ (takes (.new d) es).flatten,
      l.copy.serial = m.copy.serial → l.ackId < m.ackId → RanOut d es l m.ackId := by
  refine run_invariant (P := fun es q => ∀ l ∈ (takes (.new d) es).flatten,
    ∀ m ∈ (takes (.new d) es).flatten, l.copy.serial = m.copy.serial → l.ackId < m.ackId →
      RanOut d es l m.ackId) (by simp [takes, trace]) ?_ reached
  intro es q e r ran ih stepped l first m second same older
  have accounted := accounted_of_run ran
  obtain ⟨given, gives, moved⟩ := moves_of_step stepped
  have lent := lent_of_moves accounted moved
  rw [given_concat ran, gives, List.mem_append] at first second
  rcases second with old | new
  · rcases first with before | now
    · exact (ih l before m old same older).later ran stepped (Nat.le_refl _)
    · have number := lent.numbers l now
      have bound := issued_of_run ran old
      omega
  · have number := lent.numbers m new
    obtain ⟨max, now, rfl, ready⟩ := lent.ready m new
    have apart := (accounted.requeue now).apart ready
    rcases first with before | now
    · -- The copy is ready now, so its loan cannot be running, nor the copy be acknowledged.
      rcases fate_of_run ran l before with held | ranOut | acked
      · by_cases due : l.deadline ≤ now
        · refine ⟨(q, .take max now), ?_, held, number, max, now, rfl, due⟩
          rw [trace_snoc ran stepped]
          exact List.mem_append_right _ (List.mem_singleton_self _)
        · have running : l ∈ (q.requeue now).inFlight :=
            List.mem_filter.mpr ⟨held, by simpa using due⟩
          have there := List.mem_map_of_mem (f := fun l : Loan => l.copy.serial) running
          exact absurd (same ▸ there) apart.1
      · exact ranOut.later ran stepped number
      · exact absurd (same ▸ acked) apart.2.1
    · cases List.inj_on_of_nodup_map lent.distinct now new same
      exact absurd older (Nat.lt_irrefl _)

theorem never_again {k : Nat} (accounted : Accounted q) (acked : k ∈ q.acked)
    (ran : run step q fs = some r) : ∀ g ∈ takes q fs, ∀ m ∈ g, m.copy.serial ≠ k := by
  induction fs generalizing q with
  | nil => simp [takes, trace]
  | cons e fs ih =>
    obtain ⟨u, stepped, rest⟩ := Option.bind_eq_some_iff.mp ran
    obtain ⟨given, gives, moved⟩ := moves_of_step stepped
    have lent := lent_of_moves accounted moved
    have still : k ∈ u.acked := by
      cases moved with
      | ack => exact List.mem_append_left _ acked
      | _ => exact acked
    have later := ih (accounted.next moved) still rest
    intro g member m inside
    rw [takes, trace, stepped, List.filterMap_cons] at member
    cases took : taken? (q, e) with
    | none =>
      rw [took] at member
      exact later g member m inside
    | some result =>
      rw [took] at member
      rcases List.mem_cons.mp member with rfl | more
      · have same : given = g := by rw [← gives, Queue.given, took, Option.getD_some]
        obtain ⟨max, now, rfl, ready⟩ := lent.ready m (same ▸ inside)
        rintro rfl
        exact (accounted.requeue now).apart ready |>.2.1 acked
      · exact later g more m inside

/-- Where no take gives a copy out twice, going out and standing in a result are counted alike. -/
theorem count_results {results : List (List Loan)}
    (distinct : ∀ g ∈ results, (g.map (·.copy.serial)).Nodup) (k : Nat) :
    (results.flatten.map (·.copy.serial)).count k =
      results.countP fun g => g.any (·.copy.serial = k) := by
  induction results with
  | nil => rfl
  | cons g results ih =>
    rw [List.forall_mem_cons] at distinct
    have here : (g.map (·.copy.serial)).count k =
        if g.any (·.copy.serial = k) then 1 else 0 := by
      rw [distinct.1.count]
      simp [List.any_eq_true]
    rw [List.flatten_cons, List.map_append, List.count_append, here, ih distinct.2, List.countP_cons,
      Nat.add_comm]

theorem counted_of_run (reached : run step (.new d) es = some q) {c : Copy} (member : c ∈ q.copies) :
    c.deliveries = (takes (.new d) es).countP fun g => g.any (·.copy.serial = c.serial) := by
  have handed : q.handouts.map (·.serial) =
      (takes (.new d) es).flatten.map (·.copy.serial) := by
    rw [handouts_of_run reached, List.map_map]
    rfl
  have distinct : ∀ g ∈ takes (.new d) es, (g.map (·.copy.serial)).Nodup := by
    intro g taken
    have start : run step (.new d) [] = some (.new d) := rfl
    obtain ⟨_, _, _, lent⟩ := lent_of_take start taken
    exact lent.distinct
  rw [(accounted_of_run reached).counted c member, handed, count_results distinct]

/-- What stands in line for a take: the copies that are ready, then those whose loans have run out. -/
def line (q : Queue) (now : Nat) : List Copy :=
  q.ready ++ (q.inFlight.filter fun l => l.deadline ≤ now).map (·.copy)

theorem take_of_line (accounted : Accounted q) (max now : Nat)
    (on_clock : now + q.ackDeadline.nanos < clockEnd) :
    ∃ given r, q.take max now = (some given, r) ∧
      given.map (·.copy) =
        ((q.line now).take max).map (fun c => { c with deliveries := c.deliveries + 1 }) ∧
      given.map (·.ackId) = List.range' q.nextAckId given.length ∧
      (∀ l ∈ given, l.deadline = now + q.ackDeadline.nanos ∧ l.ackId ∉ q.inFlight.map (·.ackId)) ∧
      r.ready = (q.line now).drop max ∧
      r.inFlight = (q.inFlight.filter fun l => now < l.deadline) ++ given := by
  have waiting : (q.requeue now).ready = q.line now := by
    rw [requeue, expired_eq accounted.ordered, line]
  have first : (q.line now).take (q.share max now) = (q.line now).take max := by
    rw [share, waiting]
    exact List.take_eq_take_min.symm
  have rest : (q.line now).drop (q.share max now) = (q.line now).drop max := by
    rw [share, waiting]
    exact List.drop_eq_drop_min.symm
  refine ⟨(q.lends max now).1, (q.lends max now).2, take_fits (.inr on_clock), ?_, ?_, ?_, ?_, rfl⟩
  · rw [lends, lend, loans_copies, waiting, first]
  · have same : ((q.lends max now).1.map (·.ackId)).length = (q.lends max now).1.length :=
      List.length_map _
    rw [← same, lends, lend, loans_ids, List.length_range']
    rfl
  · intro l member
    refine ⟨loans_deadline member, fun taken => ?_⟩
    obtain ⟨m, held, number⟩ := List.mem_map.mp taken
    have bound := accounted.loan_issued held
    have later : q.nextAckId ≤ l.ackId := (loan_number member).1
    omega
  · rw [lends, lend, waiting, rest]

/-- As long as every deadline is on the clock, no copy is lost or doubled: each that was published is
ready, on loan, or was removed by an acknowledgement of the number it was on loan under. Numbers count
up from zero. A take gives out the first in line. A copy counts the takes it was in, goes out again
only when its earlier loans have run out, and never after its number has been acknowledged. -/
theorem copies_conserved (d : Duration) (es : List Event) (q : Queue) (timely : Timely d es)
    (reached : run step (.new d) es = some q) :
    ((q.ready.map (·.serial) ++ q.inFlight.map (·.copy.serial) ++ q.acked).Perm
        (List.range q.arrived.length) ∧
      q.arrived = es.flatMap Event.messages ∧
      (∀ c ∈ q.ready ++ q.inFlight.map (·.copy), q.arrived[c.serial]? = some c.message) ∧
      ∀ k, k ∈ q.acked ↔ Removed d es k) ∧
    ((takes (.new d) es).flatten.map (·.ackId) = List.range q.nextAckId ∧
      (q.inFlight.map (·.ackId)).Nodup ∧ ∀ l ∈ q.inFlight, l.ackId < q.nextAckId) ∧
    (∀ c ∈ q.ready ++ q.inFlight.map (·.copy), c.deliveries =
      (takes (.new d) es).countP fun g => g.any (·.copy.serial = c.serial)) ∧
    (∀ max now, now + d.nanos < clockEnd → ∃ given r, q.take max now = (some given, r) ∧
      given.map (·.copy) =
        ((q.line now).take max).map (fun c => { c with deliveries := c.deliveries + 1 }) ∧
      given.map (·.ackId) = List.range' q.nextAckId given.length ∧
      (∀ l ∈ given, l.deadline = now + d.nanos ∧ l.ackId ∉ q.inFlight.map (·.ackId)) ∧
      r.ready = (q.line now).drop max ∧
      r.inFlight = (q.inFlight.filter fun l => now < l.deadline) ++ given) ∧
    (∀ l ∈ (takes (.new d) es).flatten, ∀ m ∈ (takes (.new d) es).flatten,
      l.copy.serial = m.copy.serial → l.ackId < m.ackId → RanOut d es l m.ackId) ∧
    (∀ l ∈ q.inFlight, ∀ fs r, run step (q.ack l.ackId) fs = some r →
      ∀ g ∈ takes (q.ack l.ackId) fs, ∀ m ∈ g, m.copy.serial ≠ l.copy.serial) := by
  have accounted := accounted_of_run reached
  have lost := lost_nil timely reached
  have kept := deadline_kept reached
  refine ⟨⟨?_, arrived_run reached, accounted.contents, acked_of_run reached⟩, ⟨?_, ?_, ?_⟩, ?_, ?_,
    again_of_run reached, ?_⟩
  · have placed := accounted.placed
    rwa [places, lost, List.append_nil] at placed
  · rw [← accounted.gapless lost, handouts_of_run reached, List.map_map]
    rfl
  · exact accounted.ordered.imp Nat.ne_of_lt
  · exact fun l => accounted.loan_issued
  · exact fun c member => counted_of_run reached member
  · intro max now on_clock
    have took := take_of_line accounted max now (by rwa [kept])
    rwa [kept] at took
  · intro l held fs r ran
    refine never_again (accounted.ack l.ackId) (List.mem_append_right _ ?_) ran
    exact List.mem_map_of_mem (f := fun l : Loan => l.copy.serial)
      (List.mem_filter.mpr ⟨held, by simp⟩)

def note (n : Nat) : Message := ⟨.empty, [("n", toString n)]⟩

def tenNanos : Duration := ⟨10, by decide⟩

/-- The first of two copies runs out twice and is not acknowledged under a number it still has; the
second is acknowledged in time. -/
def lentAgain : List Event :=
  [.put [note 0, note 1], .take 1 0, .take 5 4, .ack 7, .take 1 10, .ack 0, .ack 1, .take 9 30]

theorem copies_conserved_lent_again :
    ∃ q, run step (.new tenNanos) lentAgain = some q ∧
      q.inFlight = [⟨3, ⟨0, note 0, 3⟩, 40⟩] ∧ q.acked = [1] ∧
      (q.ready.map (·.serial) ++ q.inFlight.map (·.copy.serial) ++ q.acked).Perm
        (List.range q.arrived.length) ∧
      (takes (.new tenNanos) lentAgain).flatten.map (·.ackId) = [0, 1, 2, 3] ∧
      RanOut tenNanos lentAgain ⟨0, ⟨0, note 0, 1⟩, 10⟩ 2 ∧
      ∀ m ∈ ((q.ack 3).take 5 99).1.getD [], m.copy.serial ≠ 0 := by
  have ran : ∃ q, run step (.new tenNanos) lentAgain = some q ∧
      q.inFlight = [⟨3, ⟨0, note 0, 3⟩, 40⟩] ∧ q.acked = [1] ∧ q.nextAckId = 4 := by
    refine ⟨_, rfl, ?_, ?_, ?_⟩ <;> decide +kernel
  have given : (takes (.new tenNanos) lentAgain).flatten =
      [⟨0, ⟨0, note 0, 1⟩, 10⟩, ⟨1, ⟨1, note 1, 1⟩, 14⟩, ⟨2, ⟨0, note 0, 2⟩, 20⟩,
        ⟨3, ⟨0, note 0, 3⟩, 40⟩] := by
    decide +kernel
  have timely : Timely tenNanos lentAgain := by
    unfold Timely
    decide +kernel
  obtain ⟨q, reached, lent, acked, next⟩ := ran
  have h := copies_conserved tenNanos lentAgain q timely reached
  obtain ⟨⟨placed, _⟩, ⟨numbers, _⟩, _, _, again, gone⟩ := h
  rw [next] at numbers
  refine ⟨q, reached, lent, acked, placed, numbers, ?_, ?_⟩
  · exact again ⟨0, ⟨0, note 0, 1⟩, 10⟩ (by simp [given]) ⟨2, ⟨0, note 0, 2⟩, 20⟩ (by simp [given]) rfl
      (by decide)
  · exact gone ⟨3, ⟨0, note 0, 3⟩, 40⟩ (by simp [lent]) [.take 5 99] _ rfl _ List.mem_cons_self

end Courier.Queue
