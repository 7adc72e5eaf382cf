import Courier.Proofs.Queue.Moves
import Mathlib.Data.List.Nodup

/-! Where the copies of a queue are. Each is ready, on loan, acknowledged or lost, and nowhere else; it
counts how often it has been handed out, under a number of its own each time. -/

namespace Courier.Queue

variable {q r : Queue} {e : Event} {es : List Event} {d : Duration} {loans : List Loan} {n : Nat}

/-- The copies that are still there. -/
def copies (q : Queue) : List Copy := q.ready ++ q.inFlight.map (·.copy)

/-- The serials of the copies, by the place where each one is. -/
def places (q : Queue) : List Nat :=
  q.ready.map (·.serial) ++ q.inFlight.map (·.copy.serial) ++ q.acked ++ q.lost

/-- Messages that come in, as copies numbered on from `first`. -/
def fresh (first : Nat) (messages : List Message) : List Copy :=
  messages.zipIdx.map fun (m, i) => ⟨first + i, m, 0⟩

theorem fresh_serials (first : Nat) (messages : List Message) :
    (fresh first messages).map (·.serial) = List.range' first messages.length := by
  have numbers := List.zipIdx_map_snd 0 messages
  rw [fresh, List.map_map, List.range'_eq_map_range, List.range_eq_range', ← numbers, List.map_map]
  rfl

theorem fresh_member {first : Nat} {messages : List Message} {c : Copy}
    (member : c ∈ fresh first messages) :
    first ≤ c.serial ∧ messages[c.serial - first]? = some c.message ∧ c.deliveries = 0 := by
  obtain ⟨⟨m, i⟩, there, rfl⟩ := List.mem_map.mp member
  have found := List.mem_zipIdx_iff_getElem?.mp there
  dsimp only at found ⊢
  exact ⟨Nat.le_add_right _ _, by rw [Nat.add_sub_cancel_left, found], rfl⟩

/-! What moves between the places. -/

theorem places_put (q : Queue) (messages : List Message) : (q.put messages).places.Perm
    (q.places ++ List.range' q.arrived.length messages.length) := by
  rw [List.perm_iff_count]
  intro k
  have came := congrArg (List.count k) (fresh_serials q.arrived.length messages)
  have ready : (q.put messages).ready = q.ready ++ fresh q.arrived.length messages := rfl
  simp only [places, ready, List.map_append, List.count_append]
  simp only [put]
  omega

theorem places_requeue (q : Queue) (now : Nat) : (q.requeue now).places.Perm q.places := by
  rw [List.perm_iff_count]
  intro k
  have split := ((q.expired_perm now).map (·.copy.serial)).count_eq k
  have back : ((q.expired now).map (·.copy)).map (·.serial) =
      (q.expired now).map (·.copy.serial) := List.map_map
  simp only [List.map_append, List.count_append] at split
  simp only [places, requeue, List.map_append, List.count_append, back]
  omega

theorem split_ready (q : Queue) (n k : Nat) : ((q.ready.take n).map (·.serial)).count k +
    ((q.ready.drop n).map (·.serial)).count k = (q.ready.map (·.serial)).count k := by
  rw [← List.count_append, ← List.map_append, List.take_append_drop]

theorem places_lend (q : Queue) (n deadline : Nat) :
    (q.lend n deadline).2.places.Perm q.places := by
  rw [List.perm_iff_count]
  intro k
  have split := q.split_ready n k
  simp only [places, lend, List.map_append, List.count_append, loans_serials]
  omega

theorem places_lose (q : Queue) (n : Nat) : (q.lose n).places.Perm q.places := by
  rw [List.perm_iff_count]
  intro k
  have split := q.split_ready n k
  simp only [places, lose, List.count_append]
  omega

theorem places_ack (q : Queue) (ackId : Nat) : (q.ack ackId).places.Perm q.places := by
  rw [List.perm_iff_count]
  intro k
  have split := ((List.filter_append_perm (fun l : Loan => decide (l.ackId = ackId)) q.inFlight).map
    (·.copy.serial)).count_eq k
  simp only [← decide_not, List.map_append, List.count_append] at split
  simp only [places, ack, ne_eq, List.count_append]
  omega

theorem copies_requeue (q : Queue) (now : Nat) : (q.requeue now).copies.Perm q.copies := by
  rw [copies, requeue, List.append_assoc, ← List.map_append]
  exact ((q.expired_perm now).map _).append_left _

/-- Every copy is in one place, has the content it came with and knows how often it went out. Numbers
are given out in order, and those on loan are among them. -/
structure Accounted (q : Queue) : Prop where
  placed : q.places.Perm (List.range q.arrived.length)
  contents : ∀ c ∈ q.copies, q.arrived[c.serial]? = some c.message
  counted : ∀ c ∈ q.copies, c.deliveries = (q.handouts.map (·.serial)).count c.serial
  known : ∀ h ∈ q.handouts, h.serial < q.arrived.length
  issued : ∀ h ∈ q.handouts, h.ackId < q.nextAckId
  increasing : (q.handouts.map (·.ackId)).Pairwise (· < ·)
  recorded : (q.inFlight.map Loan.handout).Sublist q.handouts
  gapless : q.lost = [] → q.handouts.map (·.ackId) = List.range q.nextAckId

theorem accounted_new (d : Duration) : Accounted (.new d) := by
  constructor <;> simp [new, places, copies]

namespace Accounted

theorem distinct (accounted : Accounted q) : q.places.Nodup :=
  accounted.placed.nodup_iff.mpr List.nodup_range

theorem serial_lt (accounted : Accounted q) {k : Nat} (member : k ∈ q.places) :
    k < q.arrived.length :=
  List.mem_range.mp (accounted.placed.mem_iff.mp member)

theorem loan_issued (accounted : Accounted q) {l : Loan} (member : l ∈ q.inFlight) :
    l.ackId < q.nextAckId :=
  accounted.issued l.handout (accounted.recorded.subset (List.mem_map_of_mem member))

theorem ordered (accounted : Accounted q) : (q.inFlight.map (·.ackId)).Pairwise (· < ·) := by
  have kept := accounted.increasing.sublist (accounted.recorded.map (·.ackId))
  rwa [List.map_map] at kept

/-- A number was given out for one copy only. -/
theorem handout_unique (accounted : Accounted q) {number j k : Nat}
    (first : ⟨number, j⟩ ∈ q.handouts) (second : ⟨number, k⟩ ∈ q.handouts) : j = k := by
  have distinct : (q.handouts.map (·.ackId)).Nodup := accounted.increasing.imp Nat.ne_of_lt
  cases List.inj_on_of_nodup_map distinct first second rfl
  rfl

/-- No copy is in two places. -/
theorem apart (accounted : Accounted q) {k : Nat} (ready : k ∈ q.ready.map (·.serial)) :
    k ∉ q.inFlight.map (·.copy.serial) ∧ k ∉ q.acked ∧ k ∉ q.lost := by
  have distinct := accounted.distinct
  simp only [places, List.nodup_append, List.mem_append] at distinct
  refine ⟨?_, ?_, ?_⟩
  · exact fun loan => distinct.1.1.2.2 k ready k loan rfl
  · exact fun acked => distinct.1.2.2 k (.inl ready) k acked rfl
  · exact fun lost => distinct.2.2 k (.inl (.inl ready)) k lost rfl

theorem ready_nodup (accounted : Accounted q) : (q.ready.map (·.serial)).Nodup := by
  have distinct := accounted.distinct
  simp only [places, List.nodup_append] at distinct
  exact distinct.1.1.1

theorem put (accounted : Accounted q) (messages : List Message) :
    Accounted (q.put messages) := by
  have length : (q.put messages).arrived.length = q.arrived.length + messages.length :=
    List.length_append
  have cases_of : ∀ c ∈ (q.put messages).copies,
      c ∈ q.copies ∨ c ∈ fresh q.arrived.length messages := by
    intro c member
    rcases List.mem_append.mp member with ready | loan
    · exact (List.mem_append.mp ready).imp_left (List.mem_append_left _)
    · exact .inl (List.mem_append_right _ loan)
  refine ⟨?_, ?_, ?_, ?_, accounted.issued, accounted.increasing, accounted.recorded,
    accounted.gapless⟩
  · rw [length, List.range_eq_range', ← List.range'_append_1, Nat.zero_add, ← List.range_eq_range']
    exact (q.places_put messages).trans (accounted.placed.append_right _)
  · intro c member
    rcases cases_of c member with old | new
    · have content := accounted.contents c old
      have bound := (List.getElem?_eq_some_iff.mp content).1
      exact (List.getElem?_append_left bound).trans content
    · obtain ⟨later, content, _⟩ := fresh_member new
      exact (List.getElem?_append_right later).trans content
  · intro c member
    rcases cases_of c member with old | new
    · exact accounted.counted c old
    · obtain ⟨later, _, never⟩ := fresh_member new
      have unknown : c.serial ∉ q.handouts.map (·.serial) := by
        intro there
        obtain ⟨h, known, same⟩ := List.mem_map.mp there
        have bound := accounted.known h known
        omega
      exact never.trans (List.count_eq_zero.mpr unknown).symm
  · intro h member
    have bound := accounted.known h member
    omega

theorem requeue (accounted : Accounted q) (now : Nat) : Accounted (q.requeue now) := by
  have same : ∀ {c}, c ∈ (q.requeue now).copies ↔ c ∈ q.copies := (q.copies_requeue now).mem_iff
  refine ⟨(q.places_requeue now).trans accounted.placed, ?_, ?_, accounted.known, accounted.issued,
    accounted.increasing, ?_, accounted.gapless⟩
  · exact fun c member => accounted.contents c (same.mp member)
  · exact fun c member => accounted.counted c (same.mp member)
  · exact (List.filter_sublist.map _).trans accounted.recorded

theorem lend (accounted : Accounted q) (deadline : Nat) (enough : n ≤ q.ready.length) :
    Accounted (q.lend n deadline).2 := by
  have length : (q.ready.take n).length = n := by rw [List.length_take]; omega
  have numbers : ((Queue.loans q.nextAckId deadline (q.ready.take n)).map Loan.handout).map
      (·.ackId) = List.range' q.nextAckId n := by
    have ids := loans_ids q.nextAckId deadline (q.ready.take n)
    rw [length] at ids
    rw [List.map_map]
    exact ids
  have serials := handouts_serials q.nextAckId deadline (q.ready.take n)
  have halves := accounted.ready_nodup
  rw [← List.take_append_drop n q.ready, List.map_append, List.nodup_append] at halves
  -- A copy is one that stays where it is, or goes out now.
  have cases_of : ∀ c ∈ (q.lend n deadline).2.copies,
      (c ∈ q.copies ∧ c.serial ∉ (q.ready.take n).map (·.serial)) ∨
        ∃ b ∈ q.ready.take n, c = { b with deliveries := b.deliveries + 1 } := by
    intro c member
    rcases List.mem_append.mp member with rest | loan
    · refine .inl ⟨List.mem_append_left _ (List.mem_of_mem_drop rest), fun taken => ?_⟩
      exact halves.2.2 c.serial taken c.serial (List.mem_map_of_mem rest) rfl
    · rw [Queue.lend, List.map_append, List.mem_append, loans_copies] at loan
      rcases loan with old | new
      · refine .inl ⟨List.mem_append_right _ old, fun taken => ?_⟩
        have ready := (List.take_sublist n q.ready).map (·.serial) |>.subset taken
        obtain ⟨l, held, rfl⟩ := List.mem_map.mp old
        exact (accounted.apart ready).1 (List.mem_map_of_mem (f := fun l : Loan => l.copy.serial) held)
      · obtain ⟨b, taken, rfl⟩ := List.mem_map.mp new
        exact .inr ⟨b, taken, rfl⟩
  have was_ready : ∀ {b}, b ∈ q.ready.take n → b ∈ q.copies := fun member =>
    List.mem_append_left _ (List.mem_of_mem_take member)
  refine ⟨(q.places_lend n deadline).trans accounted.placed, ?_, ?_, ?_, ?_, ?_, ?_, ?_⟩
  · intro c member
    rcases cases_of c member with ⟨old, _⟩ | ⟨b, taken, rfl⟩
    · exact accounted.contents c old
    · exact accounted.contents b (was_ready taken)
  · intro c member
    rw [Queue.lend, List.map_append, List.count_append, serials]
    rcases cases_of c member with ⟨old, stays⟩ | ⟨b, taken, rfl⟩
    · rw [List.count_eq_zero.mpr stays]
      exact accounted.counted c old
    · rw [List.count_eq_one_of_mem halves.1 (List.mem_map_of_mem taken)]
      exact congrArg (· + 1) (accounted.counted b (was_ready taken))
  · intro h member
    rcases List.mem_append.mp member with old | new
    · exact accounted.known h old
    · have taken := List.mem_map_of_mem (f := (·.serial)) new
      rw [serials] at taken
      obtain ⟨b, there, same⟩ := List.mem_map.mp taken
      have found := (List.getElem?_eq_some_iff.mp (accounted.contents b (was_ready there))).1
      exact same ▸ found
  · intro h member
    rcases List.mem_append.mp member with old | new
    · have bound := accounted.issued h old
      exact Nat.lt_of_lt_of_le bound (Nat.le_add_right _ _)
    · have number := List.mem_map_of_mem (f := (·.ackId)) new
      rw [numbers, List.mem_range'_1] at number
      exact number.2
  · rw [Queue.lend, List.map_append, numbers, List.pairwise_append]
    refine ⟨accounted.increasing, List.pairwise_lt_range', ?_⟩
    intro a old b new
    obtain ⟨h, member, rfl⟩ := List.mem_map.mp old
    have bound := accounted.issued h member
    have number := (List.mem_range'_1.mp new).1
    omega
  · rw [Queue.lend, List.map_append]
    exact accounted.recorded.append (List.Sublist.refl _)
  · intro nothing
    rw [Queue.lend, List.map_append, numbers, accounted.gapless nothing, List.range_eq_range',
      List.range_eq_range']
    simpa using List.range'_append_1 (s := 0) (m := q.nextAckId) (n := n)

theorem lose (accounted : Accounted q) (some_ready : 0 < n) (enough : n ≤ q.ready.length) :
    Accounted (q.lose n) := by
  have fewer : ∀ c ∈ (q.lose n).copies, c ∈ q.copies := by
    intro c member
    rcases List.mem_append.mp member with rest | loan
    · exact List.mem_append_left _ (List.mem_of_mem_drop rest)
    · exact List.mem_append_right _ loan
  refine ⟨(q.places_lose n).trans accounted.placed, ?_, ?_, accounted.known, ?_,
    accounted.increasing, accounted.recorded, ?_⟩
  · exact fun c member => accounted.contents c (fewer c member)
  · exact fun c member => accounted.counted c (fewer c member)
  · exact fun h member => Nat.lt_succ_of_lt (accounted.issued h member)
  · intro nothing
    have gone := congrArg List.length (List.append_eq_nil_iff.mp nothing).2
    rw [List.length_map, List.length_take, List.length_nil] at gone
    omega

theorem ack (accounted : Accounted q) (ackId : Nat) : Accounted (q.ack ackId) := by
  have fewer : ∀ c ∈ (q.ack ackId).copies, c ∈ q.copies := by
    intro c member
    rcases List.mem_append.mp member with ready | loan
    · exact List.mem_append_left _ ready
    · obtain ⟨l, kept, rfl⟩ := List.mem_map.mp loan
      exact List.mem_append_right _ (List.mem_map_of_mem (List.mem_filter.mp kept).1)
  refine ⟨(q.places_ack ackId).trans accounted.placed, ?_, ?_, accounted.known, accounted.issued,
    accounted.increasing, ?_, accounted.gapless⟩
  · exact fun c member => accounted.contents c (fewer c member)
  · exact fun c member => accounted.counted c (fewer c member)
  · exact (List.filter_sublist.map _).trans accounted.recorded

theorem next (accounted : Accounted q) (moved : Moves q e loans r) : Accounted r := by
  cases moved with
  | put messages => exact accounted.put messages
  | lend => exact (accounted.requeue _).lend _ (q.share_le _ _)
  | lose some_ready => exact (accounted.requeue _).lose some_ready (q.share_le _ _)
  | ack ackId => exact accounted.ack ackId

theorem run (accounted : Accounted q) (ran : run step q es = some r) : Accounted r := by
  induction es generalizing q with
  | nil => exact Option.some.inj ran ▸ accounted
  | cons e es ih =>
    obtain ⟨u, stepped, rest⟩ := Option.bind_eq_some_iff.mp ran
    obtain ⟨loans, _, moved⟩ := moves_of_step stepped
    exact ih (accounted.next moved) rest

end Accounted

theorem accounted_of_run (reached : run step (.new d) es = some q) : Accounted q :=
  (accounted_new d).run reached

end Courier.Queue
