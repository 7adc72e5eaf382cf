import Courier.Proofs.Queue.Redelivery

/-! The table of loans has no order of its own, and none shows. What has run out goes back behind the ready
copies in the order of its numbers, and a number is on loan once; so a run with the table rearranged
before every event gives the same results and leads to the same queue but for its table. -/

namespace Courier.Queue

variable {q r : Queue} {e : Event} {es : List Event} {d : Duration} {given table : List Loan}

def withTable (q : Queue) (table : List Loan) : Queue := { q with inFlight := table }

/-- The table has one place for each number, and the next number is still free. -/
structure Tabled (q : Queue) : Prop where
  distinct : (q.inFlight.map (·.ackId)).Nodup
  issued : ∀ l ∈ q.inFlight, l.ackId < q.nextAckId

theorem tabled_of_run (reached : run step (.new d) es = some q) : Tabled q :=
  have accounted := accounted_of_run reached
  ⟨accounted.ordered.imp Nat.ne_of_lt, fun _ => accounted.loan_issued⟩

theorem Tabled.filter (tabled : Tabled q) (keep : Loan → Bool) :
    ((q.inFlight.filter keep).map (·.ackId)).Nodup :=
  tabled.distinct.sublist (List.filter_sublist.map _)

theorem Tabled.next (tabled : Tabled q) (moved : Moves q e given r) : Tabled r := by
  have fewer : ∀ keep, ∀ l ∈ q.inFlight.filter keep, l.ackId < q.nextAckId :=
    fun keep l member => tabled.issued l (List.mem_filter.mp member).1
  cases moved with
  | put => exact ⟨tabled.distinct, tabled.issued⟩
  | ack => exact ⟨tabled.filter _, fewer _⟩
  | lose => exact ⟨tabled.filter _, fun l member => Nat.lt_succ_of_lt (fewer _ l member)⟩
  | @lend max now =>
    have lent : ∀ l ∈ (q.lends max now).1,
        q.nextAckId ≤ l.ackId ∧ l.ackId < q.nextAckId + q.share max now := by
      intro l member
      have number := loan_number member
      rw [List.length_take, Nat.min_eq_left (q.share_le max now)] at number
      exact number
    constructor
    · have table : (q.lends max now).2.inFlight =
          (q.inFlight.filter fun l => now < l.deadline) ++ (q.lends max now).1 := rfl
      have numbers : ((q.lends max now).1.map (·.ackId)).Nodup := by
        rw [lends, lend, loans_ids]
        exact List.nodup_range'
      rw [table, List.map_append, List.nodup_append]
      refine ⟨tabled.filter _, numbers, ?_⟩
      intro a old b new same
      obtain ⟨l, held, rfl⟩ := List.mem_map.mp old
      obtain ⟨m, out, rfl⟩ := List.mem_map.mp new
      have below := fewer _ l held
      have above := (lent m out).1
      omega
    · intro l member
      rcases List.mem_append.mp member with old | new
      · exact Nat.lt_of_lt_of_le (fewer _ l old) (Nat.le_add_right _ _)
      · exact (lent l new).2

/-- Loans with different numbers have one order by number. -/
theorem eq_of_ordered {l m : List Loan} (distinct : (l.map (·.ackId)).Nodup) (same : m.Perm l)
    (left : m.Pairwise fun a b => a.ackId ≤ b.ackId)
    (right : l.Pairwise fun a b => a.ackId ≤ b.ackId) : m = l := by
  refine same.eq_of_pairwise ?_ left right
  intro a b inM inL up down
  exact List.inj_on_of_nodup_map distinct (same.subset inM) inL (Nat.le_antisymm up down)

theorem expired_sorted (q : Queue) (now : Nat) :
    (q.expired now).Pairwise fun a b => a.ackId ≤ b.ackId := by
  have sorted : (q.expired now).Pairwise fun a b => decide (a.ackId ≤ b.ackId) = true :=
    List.pairwise_mergeSort
      (fun a b c up more => by simp only [decide_eq_true_eq] at *; omega)
      (fun a b => by simp only [Bool.or_eq_true, decide_eq_true_eq]; omega) _
  exact sorted.imp of_decide_eq_true

theorem expired_of_due (q : Queue) (now : Nat) :
    (q.expired now).Perm (q.inFlight.filter fun l => l.deadline ≤ now) :=
  List.mergeSort_perm _ _

theorem Tabled.expired_withTable (tabled : Tabled q) (any : table.Perm q.inFlight) (now : Nat) :
    (q.withTable table).expired now = q.expired now := by
  have due := q.expired_of_due now
  refine eq_of_ordered ((due.map _).nodup_iff.mpr (tabled.filter _)) ?_ (expired_sorted _ now)
    (q.expired_sorted now)
  exact ((expired_of_due (q.withTable table) now).trans (any.filter _)).trans due.symm

theorem Tabled.requeue_withTable (tabled : Tabled q) (any : table.Perm q.inFlight) (now : Nat) :
    (q.withTable table).requeue now =
      (q.requeue now).withTable (table.filter fun l => now < l.deadline) := by
  rw [requeue, tabled.expired_withTable any]
  rfl

/-- The loans under one number are one at most. -/
theorem Tabled.under_withTable (tabled : Tabled q) (any : table.Perm q.inFlight) (ackId : Nat) :
    (table.filter (·.ackId = ackId)) = q.inFlight.filter (·.ackId = ackId) := by
  have one_number : ∀ l : List Loan,
      (l.filter (·.ackId = ackId)).Pairwise fun a b => a.ackId ≤ b.ackId := by
    intro l
    refine List.pairwise_of_forall_mem_list fun a here b there => ?_
    have left : a.ackId = ackId := of_decide_eq_true (List.mem_filter.mp here).2
    have right : b.ackId = ackId := of_decide_eq_true (List.mem_filter.mp there).2
    omega
  exact eq_of_ordered (tabled.filter _) (any.filter _) (one_number _) (one_number _)

theorem Tabled.ack_withTable (tabled : Tabled q) (any : table.Perm q.inFlight) (ackId : Nat) :
    (q.withTable table).ack ackId =
      (q.ack ackId).withTable (table.filter (·.ackId ≠ ackId)) := by
  have acked := tabled.under_withTable any ackId
  simp only [ack, withTable, acked]

/-- One event: the same result, and the same queue but for the order of the table. -/
theorem Tabled.step_withTable (tabled : Tabled q) (any : table.Perm q.inFlight)
    (stepped : q.step e = some r) :
    taken? (q.withTable table, e) = taken? (q, e) ∧
      ∃ left, left.Perm r.inFlight ∧ (q.withTable table).step e = some (r.withTable left) := by
  cases e with
  | put messages =>
    cases Option.some.inj stepped
    exact ⟨rfl, table, any, rfl⟩
  | ack ackId =>
    cases Option.some.inj stepped
    refine ⟨rfl, table.filter (·.ackId ≠ ackId), any.filter _, ?_⟩
    rw [step, tabled.ack_withTable any]
  | take max now =>
    cases Option.some.inj stepped
    have requeued := tabled.requeue_withTable any now
    have shared : (q.withTable table).share max now = q.share max now := by
      rw [share, requeued]
      rfl
    have kept : (q.withTable table).ackDeadline = q.ackDeadline := rfl
    by_cases late : 0 < q.share max now ∧ clockEnd ≤ now + q.ackDeadline.nanos
    · have lost := take_late late.1 late.2
      have same := take_late (q := q.withTable table) (shared ▸ late.1) late.2
      rw [shared, requeued] at same
      refine ⟨by rw [taken?, taken?, lost, same], table.filter fun l => now < l.deadline, ?_, ?_⟩
      · rw [lost]
        exact any.filter _
      · rw [step, lost, same]
        rfl
    · have fits : q.share max now = 0 ∨ now + q.ackDeadline.nanos < clockEnd := by omega
      have lent := take_fits fits
      have same := take_fits (q := q.withTable table) (by rw [shared, kept]; exact fits)
      have loans : (q.withTable table).lends max now = ((q.lends max now).1, (q.lends max now).2.withTable
          ((table.filter fun l => now < l.deadline) ++ (q.lends max now).1)) := by
        rw [lends, shared, requeued]
        rfl
      rw [loans] at same
      refine ⟨by rw [taken?, taken?, lent, same], _, ?_, by rw [step, same, lent]⟩
      rw [lent]
      exact (any.filter _).append_right _

theorem run_total (q : Queue) (es : List Event) : ∃ r, run step q es = some r := by
  induction es generalizing q with
  | nil => exact ⟨q, rfl⟩
  | cons e es ih =>
    obtain ⟨u, stepped⟩ := q.step_total e
    obtain ⟨r, rest⟩ := ih u
    exact ⟨r, by rw [run, stepped, Option.bind_some, rest]⟩

/-- A run in which the table is rearranged at will before every event, with the results of its takes. -/
inductive Shuffled : Queue → List Event → List (List Loan) → Queue → Prop
  | done (q : Queue) : Shuffled q [] [] q
  | next {q t r : Queue} {e : Event} {es : List Event} {results : List (List Loan)}
      (table : List Loan) (any : table.Perm q.inFlight)
      (stepped : (q.withTable table).step e = some t) (rest : Shuffled t es results r) :
      Shuffled q (e :: es) ((taken? (q.withTable table, e)).toList ++ results) r

theorem takes_cons (stepped : q.step e = some r) (es : List Event) :
    takes q (e :: es) = (taken? (q, e)).toList ++ takes r es := by
  simp only [takes, trace, stepped, List.filterMap_cons]
  cases taken? (q, e) <;> rfl

/-- Every run is one, with the table left as it is. -/
theorem shuffled_of_run (ran : run step q es = some r) : Shuffled q es (takes q es) r := by
  induction es generalizing q with
  | nil => exact Option.some.inj ran ▸ .done q
  | cons e es ih =>
    obtain ⟨u, stepped, rest⟩ := Option.bind_eq_some_iff.mp ran
    rw [takes_cons stepped]
    exact .next q.inFlight (List.Perm.refl _) stepped (ih rest)

theorem Tabled.shuffled (tabled : Tabled q) {results : List (List Loan)}
    (any : table.Perm q.inFlight) (ran : Shuffled (q.withTable table) es results r) :
    results = takes q es ∧
      ∃ t left, run step q es = some t ∧ left.Perm t.inFlight ∧ r = t.withTable left := by
  induction es generalizing q table results with
  | nil =>
    cases ran
    exact ⟨rfl, q, table, rfl, any, rfl⟩
  | cons e es ih =>
    cases ran with
    | next again reordered stepped rest =>
      obtain ⟨u, moves⟩ := q.step_total e
      -- rearranging twice is rearranging once
      obtain ⟨same, left, perm, shuffled⟩ :=
        tabled.step_withTable (reordered.trans any) moves
      cases Option.some.inj (stepped.symm.trans shuffled)
      obtain ⟨given, _, moved⟩ := moves_of_step moves
      obtain ⟨results, t, last, ran, order, result⟩ := ih (tabled.next moved) perm rest
      refine ⟨?_, t, last, by rw [run, moves, Option.bind_some, ran], order, result⟩
      rw [takes_cons moves, ← results, ← same]
      rfl

end Courier.Queue
