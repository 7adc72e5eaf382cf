import Mathlib.Data.List.Nodup

/-! Lists whose members carry distinct numbers, such as the calls in progress on a handle. A member
stands between two parts of the list that do not have its number, and what is done to the member by
its number leaves both parts as they are. -/

namespace Courier

variable {κ : Type} {key : κ → Nat}

theorem filter_without {l : List κ} {k : Nat} (other : ∀ y ∈ l, key y ≠ k) :
    l.filter (fun y => key y ≠ k) = l := by
  rw [List.filter_eq_self]
  intro y member
  simpa using other y member

theorem map_without {l : List κ} {k : Nat} (other : ∀ y ∈ l, key y ≠ k) (g : κ → κ) :
    l.map (fun y => if key y = k then g y else y) = l := by
  rw [List.map_congr_left (g := id), List.map_id]
  intro y member
  simp [other y member]

/-- The parts before and after a member, for removing it and for changing it in its place. -/
theorem around {l : List κ} (distinct : (l.map key).Nodup) {x : κ} (member : x ∈ l) :
    ∃ before after, l = before ++ x :: after ∧
      (l.filter fun y => key y ≠ key x) = before ++ after ∧
      ∀ g : κ → κ, (l.map fun y => if key y = key x then g y else y) = before ++ g x :: after := by
  obtain ⟨before, after, rfl⟩ := List.append_of_mem member
  rw [List.map_append, List.map_cons, List.nodup_append, List.nodup_cons] at distinct
  obtain ⟨_, ⟨absent, _⟩, apart⟩ := distinct
  have earlier : ∀ y ∈ before, key y ≠ key x := by
    intro y hy
    exact apart (key y) (List.mem_map_of_mem hy) (key x) List.mem_cons_self
  have later : ∀ y ∈ after, key y ≠ key x := by
    intro y hy same
    exact absent (same ▸ List.mem_map_of_mem hy)
  refine ⟨before, after, rfl, ?_, ?_⟩
  · rw [List.filter_append, List.filter_cons_of_neg (by simp), filter_without earlier,
      filter_without later]
  · intro g
    rw [List.map_append, List.map_cons, if_pos rfl, map_without earlier, map_without later]

theorem call_member {l : List (Nat × κ)} {id : Nat} {c : κ}
    (found : (l.find? (·.1 = id)).map (·.2) = some c) : (id, c) ∈ l := by
  obtain ⟨x, first, rfl⟩ := Option.map_eq_some_iff.mp found
  have same : x.1 = id := by simpa using List.find?_some first
  exact same ▸ List.mem_of_find?_eq_some first

theorem call_absent {l : List (Nat × κ)} {id : Nat}
    (missing : (l.find? (·.1 = id)).map (·.2) = none) : id ∉ l.map (·.1) := by
  rw [Option.map_eq_none_iff, List.find?_eq_none] at missing
  intro member
  obtain ⟨x, hx, same⟩ := List.mem_map.mp member
  exact missing x hx (by simpa using same)

theorem call_found {l : List (Nat × κ)} (distinct : (l.map (·.1)).Nodup) {id : Nat} {c : κ}
    (member : (id, c) ∈ l) : (l.find? (·.1 = id)).map (·.2) = some c := by
  cases first : l.find? (·.1 = id) with
  | none =>
    rw [List.find?_eq_none] at first
    exact absurd (decide_eq_true rfl) (first (id, c) member)
  | some x =>
    have name : x.1 = id := by simpa using List.find?_some first
    have same : x = (id, c) :=
      List.inj_on_of_nodup_map distinct (List.mem_of_find?_eq_some first) member name
    rw [same, Option.map_some]

/-- A name that nobody has is free for one more. -/
theorem keys_append {l : List (Nat × κ)} (distinct : (l.map (·.1)).Nodup) {id : Nat} (c : κ)
    (missing : (l.find? (·.1 = id)).map (·.2) = none) : ((l ++ [(id, c)]).map (·.1)).Nodup := by
  rw [List.map_append, List.nodup_append]
  refine ⟨distinct, List.nodup_singleton _, ?_⟩
  intro x old y new same
  have name : y = id := List.mem_singleton.mp new
  exact call_absent missing (name ▸ same ▸ old)

theorem update_keys (l : List (Nat × κ)) (id : Nat) (f : κ → κ) :
    (l.map fun x => if x.1 = id then (id, f x.2) else x).map (·.1) = l.map (·.1) := by
  rw [List.map_map]
  apply List.map_congr_left
  intro x _
  by_cases same : x.1 = id
  · simp [same]
  · simp [same]

/-- A call is another one, or the one that was changed. -/
theorem update_cases {l : List (Nat × κ)} (distinct : (l.map (·.1)).Nodup) {id : Nat} {c : κ}
    (found : (l.find? (·.1 = id)).map (·.2) = some c) {f : κ → κ} {x : Nat × κ}
    (member : x ∈ l.map fun x => if x.1 = id then (id, f x.2) else x) :
    (x ∈ l ∧ x.1 ≠ id) ∨ x = (id, f c) := by
  obtain ⟨y, old, same⟩ := List.mem_map.mp member
  split at same
  · rename_i name
    have unique : y = (id, c) := List.inj_on_of_nodup_map distinct old (call_member found) name
    exact .inr (by rw [← same, unique])
  · rename_i other
    exact .inl (same ▸ ⟨old, other⟩)

theorem update_other {l : List (Nat × κ)} {id : Nat} {x : Nat × κ} (f : κ → κ) (member : x ∈ l)
    (other : x.1 ≠ id) : x ∈ l.map fun x => if x.1 = id then (id, f x.2) else x :=
  List.mem_map.mpr ⟨x, member, if_neg other⟩

theorem update_found {l : List (Nat × κ)} (distinct : (l.map (·.1)).Nodup) {id : Nat} {c : κ}
    (found : (l.find? (·.1 = id)).map (·.2) = some c) (f : κ → κ) :
    ((l.map fun x => if x.1 = id then (id, f x.2) else x).find? (·.1 = id)).map (·.2) =
      some (f c) := by
  apply call_found
  · rw [update_keys]
    exact distinct
  · exact List.mem_map.mpr ⟨(id, c), call_member found, if_pos rfl⟩

theorem update_elsewhere {l : List (Nat × κ)} (distinct : (l.map (·.1)).Nodup) {id i : Nat} {c : κ}
    (found : (l.find? (·.1 = id)).map (·.2) = some c) (other : id ≠ i) (f : κ → κ) :
    ((l.map fun x => if x.1 = i then (i, f x.2) else x).find? (·.1 = id)).map (·.2) = some c := by
  apply call_found
  · rw [update_keys]
    exact distinct
  · exact update_other f (call_member found) other

theorem lookup_updated (l : List (Nat × κ)) {id i : Nat} (other : i ≠ id) (f : κ → κ) :
    ((l.map fun x => if x.1 = id then (id, f x.2) else x).find? (·.1 = i)).map (·.2) =
      (l.find? (·.1 = i)).map (·.2) := by
  induction l with
  | nil => rfl
  | cons x l ih =>
    rw [List.map_cons, List.find?_cons, List.find?_cons]
    by_cases name : x.1 = id
    · rw [if_pos name, decide_eq_false (Ne.symm other), decide_eq_false (name ▸ Ne.symm other)]
      exact ih
    · rw [if_neg name]
      cases decide (x.1 = i) with
      | true => rfl
      | false => exact ih

theorem lookup_removed (l : List (Nat × κ)) {id i : Nat} (other : i ≠ id) :
    ((l.filter fun x => x.1 ≠ id).find? (·.1 = i)).map (·.2) = (l.find? (·.1 = i)).map (·.2) := by
  rw [List.find?_filter]
  congr 2
  funext x
  by_cases name : x.1 = i
  · simp [name, other]
  · simp [name]

theorem lookup_gone (l : List (Nat × κ)) (id : Nat) :
    ((l.filter fun x => x.1 ≠ id).find? (·.1 = id)).map (·.2) = none := by
  rw [Option.map_eq_none_iff, List.find?_eq_none]
  intro x member
  simpa using (List.mem_filter.mp member).2

theorem lookup_added {l : List (Nat × κ)} {id : Nat} (c : κ)
    (missing : (l.find? (·.1 = id)).map (·.2) = none) (i : Nat) :
    ((l ++ [(id, c)]).find? (·.1 = i)).map (·.2) =
      if i = id then some c else (l.find? (·.1 = i)).map (·.2) := by
  rw [List.find?_append]
  by_cases name : i = id
  · subst name
    rw [Option.map_eq_none_iff] at missing
    simp [missing]
  · simp [name, Ne.symm name]

/-- What is read off a list of calls before and after one of them is removed or changed. -/
theorem read_around {β : Type} {l : List (Nat × κ)} (distinct : (l.map (·.1)).Nodup) {id : Nat}
    {c : κ} (found : (l.find? (·.1 = id)).map (·.2) = some c) (read : Nat × κ → Option β) :
    ∃ before after, l.filterMap read = before ++ (read (id, c)).toList ++ after ∧
      (l.filter fun x => x.1 ≠ id).filterMap read = before ++ after ∧
      ∀ f : κ → κ, (l.map fun x => if x.1 = id then (id, f x.2) else x).filterMap read =
        before ++ (read (id, f c)).toList ++ after := by
  obtain ⟨before, after, split, rest, changed⟩ := around distinct (call_member found)
  have one : ∀ y, (before ++ y :: after).filterMap read =
      before.filterMap read ++ (read y).toList ++ after.filterMap read := by
    intro y
    rw [List.filterMap_append, List.filterMap_cons]
    cases read y <;> simp
  refine ⟨before.filterMap read, after.filterMap read, ?_, ?_, ?_⟩
  · rw [split, one]
  · rw [rest, List.filterMap_append]
  · intro f
    rw [changed fun x => (id, f x.2), one]

theorem read_kept {β : Type} {l : List (Nat × κ)} (distinct : (l.map (·.1)).Nodup) {id : Nat} {c : κ}
    (found : (l.find? (·.1 = id)).map (·.2) = some c) {read : Nat × κ → Option β} {f : κ → κ}
    (same : read (id, f c) = read (id, c)) :
    (l.map fun x => if x.1 = id then (id, f x.2) else x).filterMap read = l.filterMap read := by
  obtain ⟨before, after, all, _, changed⟩ := read_around distinct found read
  rw [changed f, same, all]

theorem read_removed {β : Type} {l : List (Nat × κ)} (distinct : (l.map (·.1)).Nodup) {id : Nat}
    {c : κ} (found : (l.find? (·.1 = id)).map (·.2) = some c) {read : Nat × κ → Option β}
    (nothing : read (id, c) = none) :
    (l.filter fun x => x.1 ≠ id).filterMap read = l.filterMap read := by
  obtain ⟨before, after, all, rest, _⟩ := read_around distinct found read
  rw [rest, all, nothing, Option.toList_none, List.append_nil]

/-- Where all readings differ, a reading tells its member. -/
theorem member_of_read {β : Type} {read : κ → Option β} {l : List κ}
    (distinct : (l.filterMap read).Nodup) {x y : κ} (hx : x ∈ l) (hy : y ∈ l) {b : β}
    (left : read x = some b) (right : read y = some b) : x = y := by
  induction l with
  | nil => cases hx
  | cons z l ih =>
    rw [List.filterMap_cons] at distinct
    have inside : ∀ w ∈ l, read w = some b → b ∈ l.filterMap read :=
      fun w member reads => List.mem_filterMap.mpr ⟨w, member, reads⟩
    rcases List.mem_cons.mp hx with rfl | inX
    · rcases List.mem_cons.mp hy with rfl | inY
      · rfl
      · rw [left, List.nodup_cons] at distinct
        exact absurd (inside y inY right) distinct.1
    · rcases List.mem_cons.mp hy with rfl | inY
      · rw [right, List.nodup_cons] at distinct
        exact absurd (inside x inX left) distinct.1
      · refine ih ?_ inX inY
        cases reads : read z with
        | none => simpa [reads] using distinct
        | some c =>
          rw [reads, List.nodup_cons] at distinct
          exact distinct.2

/-- A reading that answers less often reads a part of the list. -/
theorem read_sublist {β : Type} {less more : κ → Option β}
    (agrees : ∀ x b, less x = some b → more x = some b) (l : List κ) :
    (l.filterMap less).Sublist (l.filterMap more) := by
  induction l with
  | nil => exact .slnil
  | cons x xs ih =>
    rw [List.filterMap_cons, List.filterMap_cons]
    cases reads : less x with
    | none =>
      cases more x with
      | none => exact ih
      | some b => exact ih.cons b
    | some b =>
      rw [agrees x b reads]
      exact ih.cons_cons b

/-- Compared with a list, all that is new in the list is what was put in. -/
theorem filter_new {β : Type} [BEq β] [LawfulBEq β] {before after : List β} {x : β}
    (fresh : x ∉ before ++ after) :
    (before ++ x :: after).filter (· ∉ before ++ after) = [x] := by
  have known : ∀ l ⊆ before ++ after, l.filter (· ∉ before ++ after) = [] := by
    intro l inside
    rw [List.filter_eq_nil_iff]
    intro y member
    have there := inside member
    simp only [there, not_true_eq_false, decide_false, Bool.false_eq_true, not_false_eq_true]
  rw [List.filter_append, List.filter_cons_of_pos (by simpa using fresh),
    known before (List.subset_append_left _ _), known after (List.subset_append_right _ _),
    List.nil_append]

end Courier
