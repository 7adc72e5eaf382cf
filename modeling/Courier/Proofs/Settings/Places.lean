import Courier.Settings.Place
import Mathlib.Data.List.Induction

/-! What a text laid at a path does to a table. Along the path everything is a table afterwards, and at its
end stands the text; away from the path nothing changes. So of many texts, at paths of which none begins
with another, each stands in the end where it was laid, whatever their order. -/

namespace Courier

open Document

namespace Document.Entries

variable {es : Entries} {key other : String} {v : Value}

theorem get_put_same (es : Entries) (key : String) (v : Value) : (es.put key v).get? key = some v := by
  induction es with
  | nil => simp [put, get?]
  | cons e rest ih =>
    rw [put]
    split
    · simp [get?]
    · rename_i differs
      simpa [get?, differs] using ih

theorem get_put_other (es : Entries) (differs : other ≠ key) (v : Value) :
    (es.put key v).get? other = es.get? other := by
  induction es with
  | nil => simp [put, get?, Ne.symm differs]
  | cons e rest ih =>
    rw [put]
    split
    · rename_i same
      simp [get?, same, Ne.symm differs]
    · simp only [get?] at ih ⊢
      rw [List.find?_cons, List.find?_cons]
      split
      · rfl
      · exact ih

end Document.Entries

namespace Document.Value

/-- What stands at a path through tables. Whatever is no table has nothing below it. -/
def at? (v : Value) : List String → Option Value
  | [] => some v
  | key :: path => (v.entries.get? key).bind fun w => w.at? path

theorem null_at {path : List String} (below : path ≠ []) : null.at? path = none := by
  cases path with
  | nil => exact absurd rfl below
  | cons key path => rfl

/-- An absent entry counts as null, which has nothing below it either. -/
theorem at_getD (found : Option Value) {path : List String} (below : path ≠ []) :
    (found.getD null).at? path = found.bind fun w => w.at? path := by
  cases found with
  | none => exact null_at below
  | some w => rfl

theorem entry_at {v : Value} {key : String} {es : Entries} (there : v.at? [key] = some (table es))
    (name : String) : v.at? [key, name] = Entries.get? es name := by
  simp only [at?, Option.bind_fun_some] at there ⊢
  rw [there, Option.bind_some, entries]

theorem top_at (es : Entries) (key : String) : (table es).at? [key] = es.get? key := by
  simp only [at?, Option.bind_fun_some, entries]

end Document.Value

namespace Settings

/-- Neither path begins with the other. -/
def Apart (p q : List String) : Prop := ¬ p <+: q ∧ ¬ q <+: p

instance (p q : List String) : Decidable (Apart p q) := inferInstanceAs (Decidable (_ ∧ _))

theorem Apart.symm {p q : List String} (apart : Apart p q) : Apart q p := ⟨apart.2, apart.1⟩

theorem Apart.tail {key : String} {p q : List String} (apart : Apart (key :: p) (key :: q)) :
    Apart p q :=
  ⟨fun begins => apart.1 (List.cons_prefix_cons.mpr ⟨rfl, begins⟩),
    fun begins => apart.2 (List.cons_prefix_cons.mpr ⟨rfl, begins⟩)⟩

/-- A text laid at a path of names. -/
def laid (path : List String) (t : String) (v : Value) : Value :=
  setBelow (.text t) (path.map .key) v

theorem laid_cons (key : String) (path : List String) (t : String) (v : Value) :
    laid (key :: path) t v =
      .table (v.entries.put key (laid path t ((v.entries.get? key).getD .null))) := rfl

theorem get_laid_same (key : String) (path : List String) (t : String) (v : Value) :
    (laid (key :: path) t v).entries.get? key =
      some (laid path t ((v.entries.get? key).getD .null)) :=
  Entries.get_put_same ..

theorem get_laid_other {key other : String} (differs : other ≠ key) (path : List String) (t : String)
    (v : Value) : (laid (key :: path) t v).entries.get? other = v.entries.get? other :=
  Entries.get_put_other _ differs _

theorem at_laid (path : List String) (t : String) (v : Value) :
    (laid path t v).at? path = some (.text t) := by
  induction path generalizing v with
  | nil => rfl
  | cons key path ih => rw [Value.at?, get_laid_same, Option.bind_some, ih]

/-- Above its end, a path leads through tables. -/
theorem table_above {path q : List String} (begins : q <+: path) (short : q ≠ path) (t : String)
    (v : Value) : ∃ es, (laid path t v).at? q = some (.table es) := by
  induction q generalizing path v with
  | nil =>
    cases path with
    | nil => exact absurd rfl short
    | cons key path => exact ⟨_, rfl⟩
  | cons key q ih =>
    obtain ⟨rest, rfl⟩ := begins
    have further : q ≠ q ++ rest := fun same => short (congrArg (key :: ·) same)
    obtain ⟨es, there⟩ := ih (List.prefix_append q rest) further ((v.entries.get? key).getD .null)
    refine ⟨es, ?_⟩
    rw [List.cons_append, Value.at?, get_laid_same, Option.bind_some, there]

theorem at_apart {path q : List String} (apart : Apart path q) (t : String) (v : Value) :
    (laid path t v).at? q = v.at? q := by
  induction path generalizing q v with
  | nil => exact absurd List.nil_prefix apart.1
  | cons key path ih =>
    cases q with
    | nil => exact absurd List.nil_prefix apart.2
    | cons other q =>
      by_cases same : other = key
      · subst same
        have further : q ≠ [] := fun none => apart.tail.2 (none ▸ List.nil_prefix)
        rw [Value.at?, get_laid_same, Option.bind_some, ih apart.tail, Value.at_getD _ further]
        rfl
      · rw [Value.at?, get_laid_other same]
        rfl

/-! ### Many texts -/

/-- Texts laid at their paths one after the other. -/
def laidAll (vars : List (List String × String)) (v : Value) : Value :=
  vars.foldl (fun v x => laid x.1 x.2 v) v

variable {vars : List (List String × String)} {q : List String}

theorem laidAll_append (vars later : List (List String × String)) (v : Value) :
    laidAll (vars ++ later) v = laidAll later (laidAll vars v) :=
  List.foldl_append

theorem at_all_apart (apart : ∀ x ∈ vars, Apart x.1 q) (v : Value) :
    (laidAll vars v).at? q = v.at? q := by
  induction vars generalizing v with
  | nil => rfl
  | cons x vars ih =>
    rw [laidAll, List.foldl_cons]
    exact (ih (fun y member => apart y (List.mem_cons_of_mem _ member)) _).trans
      (at_apart (apart x List.mem_cons_self) x.2 v)

theorem at_all_laid {x : List String × String} (distinct : vars.Pairwise fun x y => Apart x.1 y.1)
    (member : x ∈ vars) (v : Value) : (laidAll vars v).at? x.1 = some (.text x.2) := by
  obtain ⟨before, after, rfl⟩ := List.append_of_mem member
  rw [List.pairwise_append, List.pairwise_cons] at distinct
  rw [laidAll_append, laidAll, List.foldl_cons]
  exact (at_all_apart (fun y later => (distinct.2.1.1 y later).symm) _).trans (at_laid x.1 x.2 _)

theorem table_above_all {x : List String × String}
    (distinct : vars.Pairwise fun x y => Apart x.1 y.1) (member : x ∈ vars) (begins : q <+: x.1)
    (short : q ≠ x.1) (v : Value) : ∃ es, (laidAll vars v).at? q = some (.table es) := by
  induction vars using List.reverseRecOn with
  | nil => cases member
  | append_singleton vars y ih =>
    rw [List.pairwise_append] at distinct
    rw [laidAll_append]
    rcases List.mem_append.mp member with earlier | last
    · obtain ⟨es, there⟩ := ih distinct.1 earlier
      have apart := distinct.2.2 x earlier y List.mem_cons_self
      by_cases above : q <+: y.1
      · refine table_above above (fun same => ?_) y.2 _
        exact apart.2 (same ▸ begins)
      · refine ⟨es, (at_apart ⟨fun under => ?_, above⟩ y.2 _).trans there⟩
        exact apart.2 (under.trans begins)
    · rw [List.mem_singleton.mp last] at begins short
      exact table_above begins short y.2 _

end Settings

end Courier
