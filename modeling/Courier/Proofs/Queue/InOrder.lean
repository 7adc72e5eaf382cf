import Courier.Proofs.Queue.Redelivery

/-! A queue in which no loan runs out hands its copies out once each and in the order in which they came
in. A take that breaks off leaves out the copies it loses and nothing else. -/

namespace Courier.Queue

variable {q r : Queue} {e : Event} {es fs : List Event} {d : Duration} {given : List Loan}
  {n now : Nat}

/-- What went out, and then what is ready, is all that came in, in order, but for what was lost. -/
def Orderly (q : Queue) : Prop :=
  q.handouts.map (·.serial) ++ q.ready.map (·.serial) =
    (List.range q.arrived.length).filter (· ∉ q.lost)

/-- No loan has run out at this time. -/
def Unexpired (q : Queue) (now : Nat) : Prop := ∀ l ∈ q.inFlight, now < l.deadline

theorem requeue_unexpired (unexpired : q.Unexpired now) : q.requeue now = q := by
  have none_due : (q.inFlight.filter fun l => l.deadline ≤ now) = [] := by
    rw [List.filter_eq_nil_iff]
    intro l member
    simpa using unexpired l member
  have all_running : (q.inFlight.filter fun l => now < l.deadline) = q.inFlight := by
    rw [List.filter_eq_self]
    intro l member
    simpa using unexpired l member
  rw [requeue, expired, none_due, all_running, List.mergeSort_nil, List.map_nil, List.append_nil]

theorem orderly_new (d : Duration) : Orderly (.new d) := rfl

theorem Orderly.put (accounted : Accounted q) (orderly : Orderly q) (messages : List Message) :
    Orderly (q.put messages) := by
  have ready : (q.put messages).ready = q.ready ++ fresh q.arrived.length messages := rfl
  have length : (q.put messages).arrived.length = q.arrived.length + messages.length :=
    List.length_append
  -- What was lost came in before.
  have kept : (List.range' q.arrived.length messages.length).filter (· ∉ q.lost) =
      List.range' q.arrived.length messages.length := by
    rw [List.filter_eq_self]
    intro k member
    have later := (List.mem_range'_1.mp member).1
    refine decide_eq_true fun lost => ?_
    have bound := accounted.serial_lt (List.mem_append_right _ lost)
    omega
  have split : List.range (q.arrived.length + messages.length) =
      List.range q.arrived.length ++ List.range' q.arrived.length messages.length := by
    rw [List.range_eq_range', List.range_eq_range', ← List.range'_append_1, Nat.zero_add]
  have same : (q.put messages).lost = q.lost := rfl
  rw [Orderly, ready, List.map_append, fresh_serials, length, split, List.filter_append, same, kept,
    ← List.append_assoc]
  exact congrArg (· ++ _) orderly

theorem Orderly.lend (orderly : Orderly q) (n deadline : Nat) :
    Orderly (q.lend n deadline).2 := by
  rw [Orderly, Queue.lend, List.map_append, handouts_serials, List.append_assoc, ← List.map_append,
    List.take_append_drop]
  exact orderly

theorem Orderly.lose (orderly : Orderly q) (n : Nat) : Orderly (q.lose n) := by
  have distinct : (q.handouts.map (·.serial) ++ q.ready.map (·.serial)).Nodup := by
    rw [Orderly] at orderly
    rw [orderly]
    exact List.nodup_range.filter _
  have whole : q.ready.map (·.serial) =
      (q.ready.take n).map (·.serial) ++ (q.ready.drop n).map (·.serial) := by
    rw [← List.map_append, List.take_append_drop]
  rw [whole] at distinct
  simp only [List.nodup_append, List.mem_append] at distinct
  obtain ⟨_, ⟨_, _, rest_apart⟩, apart⟩ := distinct
  have none_taken : ((q.ready.take n).map (·.serial)).filter
      (· ∉ (q.ready.take n).map (·.serial)) = [] := by
    rw [List.filter_eq_nil_iff]
    intro k taken
    simpa using taken
  have out_kept : (q.handouts.map (·.serial)).filter (· ∉ (q.ready.take n).map (·.serial)) =
      q.handouts.map (·.serial) := by
    rw [List.filter_eq_self]
    intro k out
    exact decide_eq_true fun taken => apart k out k (.inl taken) rfl
  have rest_kept : ((q.ready.drop n).map (·.serial)).filter
      (· ∉ (q.ready.take n).map (·.serial)) = (q.ready.drop n).map (·.serial) := by
    rw [List.filter_eq_self]
    intro k rest
    exact decide_eq_true fun taken => rest_apart k taken k rest rfl
  have fewer : ((List.range q.arrived.length).filter (· ∉ q.lost)).filter
      (· ∉ (q.ready.take n).map (·.serial)) =
        (List.range q.arrived.length).filter (· ∉ (q.lose n).lost) := by
    rw [List.filter_filter]
    refine List.filter_congr fun k _ => ?_
    simp only [Queue.lose, List.mem_append, not_or, Bool.decide_and]
    rw [Bool.and_comm]
  have arrived : (q.lose n).arrived = q.arrived := rfl
  rw [Orderly, arrived, ← fewer, ← orderly, whole, List.filter_append, List.filter_append, none_taken,
    out_kept, rest_kept, List.nil_append]
  rfl

theorem Orderly.next (accounted : Accounted q) (orderly : Orderly q) (moved : Moves q e given r)
    (unexpired : ∀ now, e.time? = some now → q.Unexpired now) : Orderly r := by
  cases moved with
  | put messages => exact orderly.put accounted messages
  | ack => exact orderly
  | @lend max now =>
    rw [lends, requeue_unexpired (unexpired now rfl)]
    exact orderly.lend _ _
  | @lose max now =>
    rw [requeue_unexpired (unexpired now rfl)]
    exact orderly.lose _

/-- Without takes nothing can run out. -/
theorem Orderly.run (accounted : Accounted q) (orderly : Orderly q) (ran : run step q es = some r)
    (still : es.filterMap Event.time? = []) : Orderly r := by
  induction es generalizing q with
  | nil => exact Option.some.inj ran ▸ orderly
  | cons e es ih =>
    obtain ⟨u, stepped, rest⟩ := Option.bind_eq_some_iff.mp ran
    obtain ⟨given, _, moved⟩ := moves_of_step stepped
    rw [List.filterMap_eq_nil_iff, List.forall_mem_cons] at still
    have next := orderly.next accounted moved fun now time => by simp [still.1] at time
    exact ih (accounted.next moved) next rest (List.filterMap_eq_nil_iff.mpr still.2)

/-- The messages with these numbers. -/
def messagesAt (arrived : List Message) (serials : List Nat) : List Message :=
  serials.filterMap fun k => arrived[k]?

theorem messagesAt_range (arrived : List Message) :
    messagesAt arrived (List.range arrived.length) = arrived := by
  induction arrived using List.reverseRecOn with
  | nil => rfl
  | append_singleton arrived m ih =>
    have before : messagesAt (arrived ++ [m]) (List.range arrived.length) =
        messagesAt arrived (List.range arrived.length) := by
      refine List.filterMap_congr fun k member => ?_
      exact List.getElem?_append_left (List.mem_range.mp member)
    rw [List.length_append, List.length_singleton, List.range_succ, messagesAt, List.filterMap_append,
      ← messagesAt, before, ih]
    simp

theorem messages_of_serials {κ : Type} {l : List κ} {serial : κ → Nat} {message : κ → Message}
    {arrived : List Message} (contents : ∀ x ∈ l, arrived[serial x]? = some (message x)) :
    l.map message = messagesAt arrived (l.map serial) := by
  rw [messagesAt, List.filterMap_map, ← List.filterMap_eq_map]
  exact List.filterMap_congr fun x member => (contents x member).symm

/-- In terms of messages: what went out, and then what is ready. -/
theorem messages_in_order (reached : run step (.new d) es = some q) (orderly : Orderly q) :
    (takes (.new d) es).flatten.map (·.copy.message) ++ q.ready.map (·.message) =
      messagesAt q.arrived ((List.range q.arrived.length).filter (· ∉ q.lost)) := by
  have accounted := accounted_of_run reached
  have out := messages_of_serials (given_content reached)
  have ready : q.ready.map (·.message) = messagesAt q.arrived (q.ready.map (·.serial)) :=
    messages_of_serials fun c member => accounted.contents c (List.mem_append_left _ member)
  have serials : (takes (.new d) es).flatten.map (·.copy.serial) = q.handouts.map (·.serial) := by
    rw [handouts_of_run reached, List.map_map]
    rfl
  rw [out, ready, serials, ← orderly]
  exact List.filterMap_append.symm

end Courier.Queue
