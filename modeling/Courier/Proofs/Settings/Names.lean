import Courier.Proofs.Settings.Places
import Courier.Settings.Layers

/-! Names of variables as paths. A name is cut at its pairs of underscores, and each part that is an
identifier is one step from table to table. The way there is by a text with points between the parts,
which is then read as a place. -/

namespace Courier.Settings

open Document

/-- A text cut at each pair of underscores, from the left. -/
def parts : List Char → List (List Char)
  | '_' :: '_' :: r => [] :: parts r
  | c :: r =>
    match parts r with
    | [] => [[c]]
    | p :: ps => (c :: p) :: ps
  | [] => [[]]

/-- The path that a variable sets, if its name is one of settings at all. Case does not count. -/
def pathOf? (name : String) : Option (List String) :=
  let cs := name.toLower.toList
  if "pubsub__".toList.isPrefixOf cs then
    some ((parts (cs.drop "pubsub__".length)).map String.ofList)
  else none

/-- The variables of settings, each with its path and its text. -/
def assignments (environment : List (String × String)) : List (List String × String) :=
  environment.filterMap fun e => (pathOf? e.1).map fun path => (path, e.2)

/-- Letters, digits, hyphens and underscores. -/
def IsIdentifier (name : String) : Prop := name ≠ "" ∧ name.toList.all Place.isNameChar = true

instance (name : String) : Decidable (IsIdentifier name) := inferInstanceAs (Decidable (_ ∧ _))

/-- Every variable's path is made of identifiers, and no path begins with another one or is there twice. -/
structure PlainNames (environment : List (String × String)) : Prop where
  identifiers : ∀ x ∈ assignments environment, ∀ name ∈ x.1, IsIdentifier name
  apart : (assignments environment).Pairwise fun x y => Apart x.1 y.1

/-- A point before each part. -/
def dotted (ps : List (List Char)) : List Char := ps.flatMap ('.' :: ·)

theorem parts_nonempty (cs : List Char) : ∃ p ps, parts cs = p :: ps := by
  fun_induction parts cs with
  | case1 r ih => exact ⟨[], parts r, rfl⟩
  | case2 c r notPair empty ih => exact ⟨[c], [], rfl⟩
  | case3 c r notPair p ps rest ih => exact ⟨c :: p, ps, rfl⟩
  | case4 => exact ⟨[], [], rfl⟩

/-- Turning the pairs of underscores into points joins the parts with points. -/
theorem pointed_eq {cs p : List Char} {ps : List (List Char)} (cut : parts cs = p :: ps) :
    pointed cs = p ++ dotted ps := by
  induction cs using parts.induct generalizing p ps with
  | case1 r ih =>
    obtain ⟨q, qs, rest⟩ := parts_nonempty r
    rw [parts] at cut
    obtain ⟨rfl, rfl⟩ := List.cons.inj cut
    rw [pointed, ih rest, rest]
    rfl
  | case2 c r notPair empty ih =>
    obtain ⟨q, qs, rest⟩ := parts_nonempty r
    cases empty.symm.trans rest
  | case3 c r notPair q qs rest ih =>
    rw [parts, rest] at cut
    · obtain ⟨rfl, rfl⟩ := List.cons.inj cut
      rw [pointed, ih rest, List.cons_append]
      exact notPair
    · exact notPair
  | case4 =>
    rw [parts] at cut
    obtain ⟨rfl, rfl⟩ := List.cons.inj cut
    rfl

theorem takeWhile_name {p r : List Char} (name : ∀ c ∈ p, Place.isNameChar c = true)
    (ends : ∀ c ∈ r.head?, Place.isNameChar c = false) :
    (p ++ r).takeWhile Place.isNameChar = p ∧ (p ++ r).dropWhile Place.isNameChar = r := by
  induction p with
  | nil =>
    cases r with
    | nil => exact ⟨rfl, rfl⟩
    | cons c r =>
      have stops := ends c rfl
      exact ⟨by simp [stops], by simp [stops]⟩
  | cons c p ih =>
    have here := name c List.mem_cons_self
    obtain ⟨taken, left⟩ := ih fun d member => name d (List.mem_cons_of_mem _ member)
    rw [List.cons_append, List.takeWhile_cons, if_pos here, List.dropWhile_cons, if_pos here]
    exact ⟨congrArg (c :: ·) taken, left⟩

theorem dotted_ends (ps : List (List Char)) : ∀ c ∈ (dotted ps).head?, Place.isNameChar c = false := by
  cases ps with
  | nil => exact nofun
  | cons p ps =>
    rintro c same
    cases same
    decide

theorem name_dotted {p : List Char} (ps : List (List Char)) (nonempty : p ≠ [])
    (name : ∀ c ∈ p, Place.isNameChar c = true) :
    Place.name? (p ++ dotted ps) = some (String.ofList p, dotted ps) := by
  obtain ⟨taken, left⟩ := takeWhile_name name (dotted_ends ps)
  simp only [Place.name?, taken, left, List.isEmpty_iff, nonempty]
  rfl

/-- The length of what is left is bound enough: each part brings a point and at least one character. -/
theorem steps_dotted {ps : List (List Char)} {bound : Nat} (enough : ps.length ≤ bound)
    (names : ∀ p ∈ ps, p ≠ [] ∧ ∀ c ∈ p, Place.isNameChar c = true) :
    Place.steps? bound (dotted ps) = some (ps.map fun p => .key (String.ofList p)) := by
  induction ps generalizing bound with
  | nil => rw [dotted, List.flatMap_nil, Place.steps?.eq_def]; rfl
  | cons p ps ih =>
    obtain ⟨nonempty, name⟩ := names p List.mem_cons_self
    cases bound with
    | zero => cases enough
    | succ bound =>
      have rest := ih (Nat.le_of_succ_le_succ enough) fun q member => names q (List.mem_cons_of_mem _ member)
      rw [dotted, List.flatMap_cons, List.cons_append, ← dotted, Place.steps?, name_dotted ps nonempty name]
      simp only [Option.bind_eq_bind, Option.bind_some, rest]
      rfl

theorem length_le_dotted (ps : List (List Char)) : ps.length ≤ (dotted ps).length := by
  induction ps with
  | nil => exact Nat.le_refl 0
  | cons p ps ih =>
    rw [dotted, List.flatMap_cons, List.length_append, ← dotted, List.length_cons, List.length_cons]
    omega

/-- A text of identifiers with points between them is read as their path. -/
theorem place_dotted {p : List Char} {ps : List (List Char)}
    (names : ∀ q ∈ p :: ps, q ≠ [] ∧ ∀ c ∈ q, Place.isNameChar c = true) :
    Place.ofText (String.ofList (p ++ dotted ps)) =
      ⟨String.ofList p, ps.map fun q => .key (String.ofList q)⟩ := by
  obtain ⟨nonempty, name⟩ := names p List.mem_cons_self
  have steps := steps_dotted (length_le_dotted ps) fun q member => names q (List.mem_cons_of_mem _ member)
  simp only [Place.ofText, String.toList_ofList, name_dotted ps nonempty name, Option.bind_eq_bind,
    Option.bind_some, steps]
  rfl

theorem pathOf_cases (name : String) :
    (pathOf? name = none ∧ variablePath? name = none) ∨ ∃ p ps,
      pathOf? name = some ((p :: ps).map String.ofList) ∧
      variablePath? name = some (String.ofList (p ++ dotted ps)) := by
  have start : (environmentName.toLower ++ "__").toList = "pubsub__".toList := by decide +kernel
  rw [pathOf?, variablePath?, start]
  split
  · obtain ⟨p, ps, cut⟩ := parts_nonempty (name.toLower.toList.drop "pubsub__".length)
    exact .inr ⟨p, ps, congrArg (fun l => some (l.map String.ofList)) cut,
      congrArg (fun l => some (String.ofList l)) (pointed_eq cut)⟩
  · exact .inl ⟨rfl, rfl⟩

theorem path_nonempty {name : String} {path : List String} (found : pathOf? name = some path) :
    ∃ top rest, path = top :: rest := by
  rcases pathOf_cases name with ⟨none, _⟩ | ⟨p, ps, same, _⟩
  · cases none.symm.trans found
  · exact ⟨_, _, (Option.some.inj (same.symm.trans found)).symm⟩

/-- A variable with a path of identifiers lays its text at that path. -/
theorem set_of_path {name : String} {path : List String} (found : pathOf? name = some path)
    (identifiers : ∀ key ∈ path, IsIdentifier key) : ∃ text, variablePath? name = some text ∧
      ∀ (t : String) (root : Entries),
        Value.table (setAt (.text t) (.ofText text) root) = laid path t (.table root) := by
  rcases pathOf_cases name with ⟨none, _⟩ | ⟨p, ps, same, text⟩
  · cases none.symm.trans found
  cases same.symm.trans found
  have names : ∀ q ∈ p :: ps, q ≠ [] ∧ ∀ c ∈ q, Place.isNameChar c = true := by
    intro q member
    obtain ⟨nonempty, chars⟩ := identifiers (String.ofList q) (List.mem_map_of_mem member)
    rw [String.toList_ofList, List.all_eq_true] at chars
    exact ⟨fun empty => nonempty (by rw [empty]), chars⟩
  refine ⟨_, text, fun t root => ?_⟩
  rw [place_dotted names, List.map_cons, laid_cons, laid, List.map_map]
  rfl

/-- With plain names, the environment is its texts laid at their paths, one after the other. -/
theorem layered_eq {environment : List (String × String)} (plain : PlainNames environment)
    (file : Entries) : Value.table (layered file environment) =
      laidAll (assignments environment) (.table (addSource [] file)) := by
  have names := plain.identifiers
  clear plain
  rw [layered, addSource]
  generalize addSource [] file = root
  induction environment generalizing root with
  | nil => rfl
  | cons e environment ih =>
    simp only [assignments, ofEnvironment, List.filterMap_cons] at names ih ⊢
    cases found : pathOf? e.1 with
    | none =>
      rcases pathOf_cases e.1 with ⟨_, none⟩ | ⟨p, ps, same, _⟩
      · rw [found] at names
        rw [none]
        exact ih names root
      · cases found.symm.trans same
    | some path =>
      rw [found] at names
      obtain ⟨text, set, lays⟩ := set_of_path found (names (path, e.2) List.mem_cons_self)
      rw [set]
      simp only [Option.map_some, List.foldl_cons, laidAll]
      rw [← lays e.2 root]
      exact ih (fun x member => names x (List.mem_cons_of_mem _ member)) _

section Assigned

variable {environment : List (String × String)} {x : List String × String}

theorem mem_assignments : x ∈ assignments environment ↔
    ∃ name, (name, x.2) ∈ environment ∧ pathOf? name = some x.1 := by
  simp only [assignments, List.mem_filterMap, Option.map_eq_some_iff]
  constructor
  · rintro ⟨⟨name, t⟩, member, path, found, rfl⟩
    exact ⟨name, member, found⟩
  · rintro ⟨name, member, found⟩
    exact ⟨_, member, _, found, rfl⟩

/-- The environment sets a path at most once, so what is found first is all there is. -/
theorem lookup_iff {p : List String} {t : String} (plain : PlainNames environment) :
    (assignments environment).lookup p = some t ↔ (p, t) ∈ assignments environment := by
  rw [List.lookup_eq_some_iff]
  constructor
  · rintro ⟨before, after, split, _⟩
    rw [split]
    exact List.mem_append_right _ List.mem_cons_self
  · intro member
    obtain ⟨before, after, split⟩ := List.append_of_mem member
    refine ⟨before, after, split, fun x earlier => ?_⟩
    have apart := plain.apart
    rw [split, List.pairwise_append] at apart
    have differs := apart.2.2 x earlier (p, t) List.mem_cons_self
    exact bne_iff_ne.mpr fun same => differs.1 (same ▸ List.prefix_rfl)

theorem assigned_nonempty (member : x ∈ assignments environment) : x.1 ≠ [] := by
  obtain ⟨name, _, found⟩ := mem_assignments.mp member
  obtain ⟨top, rest, path⟩ := path_nonempty found
  rw [path]
  exact List.cons_ne_nil top rest

end Assigned

end Courier.Settings
