import Courier.Proofs.Settings.Fields
import Courier.Proofs.Settings.Names
import Courier.Proofs.Settings.Rules

/-! The layers of settings, field by field. A field has the environment's value, else the file's, else its
default. What a variable does to other fields than its own comes from one thing only: the first variable
that goes into a section makes a table of whatever stood there. A section that the file writes as a list
of its values is given up then as a whole. -/

namespace Courier.Settings

open Document

/-- The path of some variable goes into the section or ends at it. -/
def entered (sec : Section) (environment : List (String × String)) : Bool :=
  (assignments environment).any fun x => [sec.name].isPrefixOf x.1

/-- What a file's section has for a field. Once a variable goes into the section, a list has nothing. -/
def Field.written (f : Field) (whole : Option Value) (replaced : Bool) : Option Value :=
  match whole with
  | some (.table es) => Entries.get? es f.name
  | some (.list items) => if replaced then none else items[f.position]?
  | _ => none

/-- The value that counts for a field: the environment's, else the file's. -/
def Field.chosen (f : Field) (file : Entries) (environment : List (String × String)) : Option Value :=
  match (assignments environment).lookup f.path with
  | some t => some (.text t)
  | none => f.written (file.get? f.sec.name) (entered f.sec environment)

/-- The section can be read, as far as it does not depend on the values of its fields. -/
structure Fits (sec : Section) (file : Entries) (environment : List (String × String)) : Prop where
  whole : ∀ x ∈ assignments environment, x.1 ≠ [sec.name]
  leaves : ∀ f ∈ sec.fields, ∀ x ∈ assignments environment, f.path <+: x.1 → x.1 = f.path
  stands : entered sec environment = true ∨ Section.CanBe (file.get? sec.name)

/-- Two environments with the same variables, and the same values of them, except for one name. -/
def AgreeExcept (name : String) (environment other : List (String × String)) : Prop :=
  ∀ e : String × String, e.1 ≠ name → (e ∈ environment ↔ e ∈ other)

/-- In one of the two environments the name's variable is the only one that goes into the section. -/
def FirstInto (name : String) (sec : Section) (environment other : List (String × String)) : Prop :=
  (∃ p, pathOf? name = some p ∧ [sec.name] <+: p) ∧ entered sec environment ≠ entered sec other

/-- The keys at the top of the file are no paths, and no key is there twice. -/
structure Ordinary (file : Entries) : Prop where
  names : ∀ e ∈ file, Place.ofText e.1 = ⟨e.1, []⟩
  distinct : (file.map Prod.fst).Nodup
  inside : ∀ e ∈ file, (e.2.entries.map Prod.fst).Nodup

instance (file : Entries) : Decidable (Ordinary file) :=
  decidable_of_iff ((∀ e ∈ file, Place.ofText e.1 = ⟨e.1, []⟩) ∧ (file.map Prod.fst).Nodup ∧
      ∀ e ∈ file, (e.2.entries.map Prod.fst).Nodup)
    ⟨fun ⟨names, distinct, inside⟩ => ⟨names, distinct, inside⟩,
      fun ordinary => ⟨ordinary.names, ordinary.distinct, ordinary.inside⟩⟩

variable {environment other : List (String × String)} {file : Entries} {sec : Section} {f : Field}
  {s : Settings} {p : List String} {t name : String}

section Layered

theorem entered_iff : entered sec environment = true ↔
    ∃ x ∈ assignments environment, [sec.name] <+: x.1 := by
  simp only [entered, List.any_eq_true, List.isPrefixOf_iff_prefix]

theorem apart_of_not_entered (untouched : ¬ entered sec environment = true) :
    ∀ x ∈ assignments environment, Apart x.1 [sec.name] := by
  intro x member
  rw [entered_iff] at untouched
  have outside : ¬ [sec.name] <+: x.1 := fun begins => untouched ⟨x, member, begins⟩
  refine ⟨fun begins => ?_, outside⟩
  rcases List.prefix_cons_iff.mp begins with empty | ⟨rest, ends, within⟩
  · exact assigned_nonempty member empty
  · rw [ends, List.prefix_nil.mp within] at outside
    exact outside List.prefix_rfl

theorem section_at (plain : PlainNames environment) (sec : Section) :
    (layered file environment).get? sec.name =
      (laidAll (assignments environment) (.table (addSource [] file))).at? [sec.name] := by
  rw [← layered_eq plain, Value.top_at]

theorem fills_untouched (plain : PlainNames environment) (untouched : ¬ entered sec environment = true) :
    Fills sec ((layered file environment).get? sec.name) s ↔
      Fits sec (addSource [] file) environment ∧
        ∀ f ∈ sec.fields, f.holds (f.chosen (addSource [] file) environment) = some (f.held s) := by
  have outside := apart_of_not_entered untouched
  have fits : Fits sec (addSource [] file) environment ↔
      Section.CanBe ((addSource [] file).get? sec.name) := by
    constructor
    · exact fun fits => fits.stands.resolve_left untouched
    · refine fun can => ⟨fun x member same => ?_, fun f inside x member begins => ?_, .inr can⟩
      · exact (outside x member).2 (same ▸ List.prefix_rfl)
      · have further := section_begins f
        rw [sec_of_mem inside] at further
        exact absurd (further.trans begins) (outside x member).2
  have same (f : Field) (inside : f ∈ sec.fields) : f.chosen (addSource [] file) environment =
      f.given ((addSource [] file).get? sec.name) := by
    obtain rfl := sec_of_mem inside
    have unset : (assignments environment).lookup f.path = none := by
      rw [List.lookup_eq_none_iff]
      intro x member
      exact bne_iff_ne.mpr fun same => (outside x member).2 (same ▸ section_begins f)
    simp only [Field.chosen, unset, Field.written, Bool.not_eq_true _ ▸ untouched]
    rfl
  rw [section_at plain, at_all_apart outside, Value.top_at, fits, Fills]
  exact and_congr_right fun _ => forall₂_congr fun f inside => by rw [same f inside]

theorem given_entered (plain : PlainNames environment)
    (whole : ∀ x ∈ assignments environment, x.1 ≠ [f.sec.name])
    (leaf : ∀ x ∈ assignments environment, f.path <+: x.1 → x.1 = f.path)
    (goes : entered f.sec environment = true) :
    (laidAll (assignments environment) (.table (addSource [] file))).at? f.path =
      f.chosen (addSource [] file) environment := by
  cases set : (assignments environment).lookup f.path with
  | some t =>
    rw [at_all_laid plain.apart ((lookup_iff plain).mp set), Field.chosen, set]
  | none =>
    have unset := List.lookup_eq_none_iff.mp set
    -- nothing ends at the section, nothing goes on below the field, and nothing sets it
    have outside : ∀ x ∈ assignments environment, Apart x.1 f.path := by
      intro x member
      have differs := bne_iff_ne.mp (unset x member)
      refine ⟨fun begins => ?_, fun begins => differs (leaf x member begins).symm⟩
      rcases begins_path begins with empty | ends | same
      · exact assigned_nonempty member empty
      · exact whole x member ends
      · exact differs same.symm
    rw [at_all_apart outside, Field.chosen, set, goes, Field.path]
    dsimp only
    cases there : Entries.get? (addSource [] file) f.sec.name with
    | none => simp only [Value.at?, Value.entries, there, Option.bind_none, Field.written]
    | some v =>
      simp only [Value.at?, Value.entries, there, Option.bind_some, Option.bind_fun_some]
      cases v <;> rfl

theorem given_at {v : Value} {es : Entries} (there : v.at? [f.sec.name] = some (.table es)) :
    f.given (some (.table es)) = v.at? f.path := (Value.entry_at there f.name).symm

/-- A variable that goes on below a field leaves a table there, which is no value of it. -/
theorem holds_past (plain : PlainNames environment) {x : List String × String}
    (member : x ∈ assignments environment) (begins : f.path <+: x.1) (longer : x.1 ≠ f.path) (v : Value) :
    f.holds ((laidAll (assignments environment) v).at? f.path) = none := by
  obtain ⟨es, table⟩ := table_above_all plain.apart member begins longer.symm v
  rw [table, Field.holds, fieldOr, f.read_table]

theorem fills_entered (plain : PlainNames environment) (goes : entered sec environment = true) :
    Fills sec ((layered file environment).get? sec.name) s ↔
      Fits sec (addSource [] file) environment ∧
        ∀ f ∈ sec.fields, f.holds (f.chosen (addSource [] file) environment) = some (f.held s) := by
  rw [section_at plain]
  by_cases whole : ∃ x ∈ assignments environment, x.1 = [sec.name]
  · -- the section is a text then, and cannot be read
    obtain ⟨x, member, ends⟩ := whole
    have text := at_all_laid plain.apart member (.table (addSource [] file))
    rw [← ends, text]
    exact ⟨fun filled => filled.1.elim, fun ⟨fits, _⟩ => absurd ends (fits.whole x member)⟩
  have notWhole : ∀ x ∈ assignments environment, x.1 ≠ [sec.name] :=
    fun x member ends => whole ⟨x, member, ends⟩
  obtain ⟨y, enters, begins⟩ := entered_iff.mp goes
  obtain ⟨es, there⟩ := table_above_all plain.apart enters begins (notWhole y enters).symm
    (.table (addSource [] file))
  rw [there]
  have given (f : Field) (inside : f ∈ sec.fields) : f.given (some (.table es)) =
      (laidAll (assignments environment) (.table (addSource [] file))).at? f.path :=
    given_at ((sec_of_mem inside).symm ▸ there)
  by_cases past : ∃ f ∈ sec.fields, ∃ x ∈ assignments environment, f.path <+: x.1 ∧ x.1 ≠ f.path
  · obtain ⟨f, inside, x, member, begins, longer⟩ := past
    constructor
    · rintro ⟨_, holds⟩
      have reads := holds f inside
      rw [given f inside, holds_past plain member begins longer] at reads
      cases reads
    · exact fun ⟨fits, _⟩ => absurd (fits.leaves f inside x member begins) longer
  have leaves : ∀ f ∈ sec.fields, ∀ x ∈ assignments environment, f.path <+: x.1 → x.1 = f.path :=
    fun f inside x member begins =>
      Decidable.byContradiction fun longer => past ⟨f, inside, x, member, begins, longer⟩
  have same (f : Field) (inside : f ∈ sec.fields) :
      f.given (some (.table es)) = f.chosen (addSource [] file) environment := by
    obtain rfl := sec_of_mem inside
    exact (given f inside).trans (given_entered plain notWhole (leaves f inside) goes)
  constructor
  · rintro ⟨_, holds⟩
    exact ⟨⟨notWhole, leaves, .inl goes⟩, fun f inside => same f inside ▸ holds f inside⟩
  · rintro ⟨_, holds⟩
    exact ⟨trivial, fun f inside => (same f inside).symm ▸ holds f inside⟩

theorem fills_iff (plain : PlainNames environment) (sec : Section) :
    Fills sec ((layered file environment).get? sec.name) s ↔
      Fits sec (addSource [] file) environment ∧
        ∀ f ∈ sec.fields, f.holds (f.chosen (addSource [] file) environment) = some (f.held s) := by
  by_cases goes : entered sec environment = true
  · exact fills_entered plain goes
  · exact fills_untouched plain goes

theorem layered_iff (plain : PlainNames environment) : ofEntries? (layered file environment) = some s ↔
    (∀ sec, Fits sec (addSource [] file) environment) ∧
      ∀ f : Field, f.holds (f.chosen (addSource [] file) environment) = some (f.held s) := by
  rw [read_iff]
  constructor
  · intro filled
    have both (sec : Section) := (fills_iff plain sec).mp (filled sec)
    exact ⟨fun sec => (both sec).1, fun f => (both f.sec).2 f (mem_fields f)⟩
  · exact fun ⟨fits, holds⟩ sec => (fills_iff plain sec).mpr ⟨fits sec, fun f _ => holds f⟩

end Layered

/-! ### One name -/

section OneName

theorem AgreeExcept.symm (agree : AgreeExcept name environment other) :
    AgreeExcept name other environment := fun e elsewhere => (agree e elsewhere).symm

theorem FirstInto.symm (first : FirstInto name sec environment other) :
    FirstInto name sec other environment := ⟨first.1, first.2.symm⟩

theorem assigned_agree (agree : AgreeExcept name environment other) {x : List String × String}
    (elsewhere : pathOf? name ≠ some x.1) (member : x ∈ assignments environment) :
    x ∈ assignments other := by
  obtain ⟨setter, present, found⟩ := mem_assignments.mp member
  have differs : setter ≠ name := fun same => elsewhere (same ▸ found)
  exact mem_assignments.mpr ⟨setter, (agree (setter, x.2) differs).mp present, found⟩

theorem entered_agree (agree : AgreeExcept name environment other)
    (notFirst : ¬ FirstInto name sec environment other) :
    entered sec environment = entered sec other := by
  by_cases into : ∃ p, pathOf? name = some p ∧ [sec.name] <+: p
  · exact Decidable.byContradiction fun differs => notFirst ⟨into, differs⟩
  · have carried {one two : List (String × String)} (agree : AgreeExcept name one two)
        (goes : entered sec one = true) : entered sec two = true := by
      obtain ⟨x, member, begins⟩ := entered_iff.mp goes
      have elsewhere : pathOf? name ≠ some x.1 := fun found => into ⟨x.1, found, begins⟩
      exact entered_iff.mpr ⟨x, assigned_agree agree elsewhere member, begins⟩
    exact Bool.eq_iff_iff.mpr ⟨carried agree, carried agree.symm⟩

theorem lookup_agree (plain : PlainNames environment) (plainOther : PlainNames other)
    (agree : AgreeExcept name environment other) (elsewhere : pathOf? name ≠ some p) :
    (assignments environment).lookup p = (assignments other).lookup p := by
  refine Option.ext fun t => ?_
  rw [lookup_iff plain, lookup_iff plainOther]
  exact ⟨assigned_agree agree elsewhere, assigned_agree agree.symm elsewhere⟩

theorem written_agree (f : Field) {whole : Option Value} (notList : ∀ items, whole ≠ some (.list items))
    (replaced still : Bool) : f.written whole replaced = f.written whole still := by
  cases whole with
  | none => rfl
  | some v =>
    cases v with
    | list items => exact absurd rfl (notList items)
    | _ => rfl

theorem chosen_agree (plain : PlainNames environment) (plainOther : PlainNames other)
    (agree : AgreeExcept name environment other) (elsewhere : pathOf? name ≠ some f.path)
    (notList : FirstInto name f.sec environment other →
      ∀ items, file.get? f.sec.name ≠ some (.list items)) :
    f.chosen file environment = f.chosen file other := by
  have same : f.written (file.get? f.sec.name) (entered f.sec environment) =
      f.written (file.get? f.sec.name) (entered f.sec other) := by
    by_cases first : FirstInto name f.sec environment other
    · exact written_agree f (notList first) _ _
    · rw [entered_agree agree first]
  rw [Field.chosen, Field.chosen, lookup_agree plain plainOther agree elsewhere, same]

theorem fits_agree (agree : AgreeExcept name environment other)
    (unknown : ∀ p, pathOf? name = some p → ∀ f : Field, Apart p f.path)
    (merges : FirstInto name sec environment other →
      file.get? sec.name = none ∨ ∃ es, file.get? sec.name = some (.table es))
    (fits : Fits sec file environment) : Fits sec file other := by
  obtain ⟨f, rfl⟩ : ∃ f : Field, f.sec = sec := by
    cases sec
    exacts [⟨.initialDelayMs, rfl⟩, ⟨.maxBatchSize, rfl⟩, ⟨.decay, rfl⟩]
  -- the name's path is neither the section's nor below a field, so whatever is there was there before
  refine ⟨fun x member ends => ?_, fun g inside x member begins => ?_, ?_⟩
  · have elsewhere : pathOf? name ≠ some x.1 := by
      intro found
      refine (unknown x.1 found f).1 ?_
      rw [ends]
      exact section_begins f
    exact fits.whole x (assigned_agree agree.symm elsewhere member) ends
  · have elsewhere : pathOf? name ≠ some x.1 := fun found => (unknown x.1 found g).2 begins
    exact fits.leaves g inside x (assigned_agree agree.symm elsewhere member) begins
  · by_cases first : FirstInto name f.sec environment other
    · rcases merges first with none | ⟨es, table⟩
      · rw [none]
        exact .inr trivial
      · rw [table]
        exact .inr trivial
    · rw [← entered_agree agree first]
      exact fits.stands

theorem read_agree (plain : PlainNames environment) (plainOther : PlainNames other)
    (agree : AgreeExcept name environment other)
    (unknown : ∀ p, pathOf? name = some p → ∀ f : Field, Apart p f.path)
    (merges : ∀ sec, FirstInto name sec environment other →
      (addSource [] file).get? sec.name = none ∨
        ∃ es, (addSource [] file).get? sec.name = some (.table es)) :
    ofEntries? (layered file environment) = ofEntries? (layered file other) := by
  have chosen (f : Field) : f.chosen (addSource [] file) environment =
      f.chosen (addSource [] file) other := by
    refine chosen_agree plain plainOther agree (fun found => ?_) fun first items list => ?_
    · exact (unknown f.path found f).1 List.prefix_rfl
    · rcases merges f.sec first with none | ⟨es, table⟩
      · cases none.symm.trans list
      · cases table.symm.trans list
  refine Option.ext fun s => ?_
  rw [layered_iff plain, layered_iff plainOther]
  refine and_congr (forall_congr' fun sec => ⟨fits_agree agree unknown (merges sec), ?_⟩) ?_
  · exact fits_agree agree.symm unknown fun first => merges sec first.symm
  · exact forall_congr' fun f => by rw [chosen f]

end OneName

/-! ### Ordinary files -/

section Ordinary

theorem get_cons_same (key : String) (v : Value) (rest : Entries) :
    Entries.get? ((key, v) :: rest) key = some v := by
  simp [Entries.get?]

theorem get_cons_other {key other : String} (differs : other ≠ key) (v : Value) (rest : Entries) :
    Entries.get? ((key, v) :: rest) other = rest.get? other := by
  simp [Entries.get?, differs.symm]

theorem get_overlayEntries {es : Entries} (distinct : (es.map Prod.fst).Nodup) (old : Entries)
    (key : String) : Entries.get? (Value.overlayEntries old es) key =
      ((es.get? key).map ((old.get? key).getD .null).overlay).or (old.get? key) := by
  induction es generalizing old with
  | nil => rw [Value.overlayEntries]; rfl
  | cons e rest ih =>
    obtain ⟨top, v⟩ := e
    obtain ⟨once, distinct⟩ := List.nodup_cons.mp distinct
    rw [Value.overlayEntries, ih distinct]
    by_cases same : key = top
    · subst same
      have absent : Entries.get? rest key = none := by
        simp only [Entries.get?, Option.map_eq_none_iff, List.find?_eq_none, decide_eq_true_eq]
        exact fun e member same => once (List.mem_map.mpr ⟨e, member, same⟩)
      rw [absent, Entries.get_put_same, get_cons_same]
      rfl
    · rw [Entries.get_put_other _ same, get_cons_other same]

/-- Keys that are no paths name entries of their own, so the file is laid down like any table. -/
theorem addSource_eq (names : ∀ e ∈ file, Place.ofText e.1 = ⟨e.1, []⟩) (root : Entries) :
    addSource root file = Value.overlayEntries root file := by
  induction file generalizing root with
  | nil => rw [Value.overlayEntries]; rfl
  | cons e rest ih =>
    have own : setAt e.2 (.ofText e.1) root =
        root.put e.1 (((root.get? e.1).getD .null).overlay e.2) := by
      rw [names e List.mem_cons_self]
      rfl
    rw [Value.overlayEntries, ← own]
    exact ih (fun e member => names e (List.mem_cons_of_mem _ member)) _

theorem section_ordinary (ordinary : Ordinary file) (key : String) :
    Entries.get? (addSource [] file) key = (file.get? key).map Value.null.overlay := by
  rw [addSource_eq ordinary.names, get_overlayEntries ordinary.distinct]
  exact Option.or_none

theorem canBe_overlay (o : Option Value) :
    Section.CanBe (o.map Value.null.overlay) ↔ Section.CanBe o := by
  cases o with
  | none => rfl
  | some v => cases v <;> simp only [Option.map_some, Value.overlay, Section.CanBe]

theorem holds_written (f : Field) {whole : Option Value} (replaced : Bool)
    (distinct : ∀ v ∈ whole, (v.entries.map Prod.fst).Nodup) :
    f.holds (f.written (whole.map Value.null.overlay) replaced) = f.holds (f.written whole replaced) := by
  cases whole with
  | none => rfl
  | some v =>
    cases v with
    | table es =>
      have entry := get_overlayEntries (distinct _ rfl) [] f.name
      rw [Option.map_some, Value.overlay, Field.written, Field.written]
      exact (congrArg f.holds (entry.trans Option.or_none)).trans (f.holds_overlay _ _)
    | _ => simp only [Option.map_some, Value.overlay]

theorem ordinary_as_written (ordinary : Ordinary file) (environment : List (String × String)) :
    (∀ sec, Fits sec (addSource [] file) environment ↔ Fits sec file environment) ∧
    ∀ f : Field, f.holds (f.chosen (addSource [] file) environment) = f.holds (f.chosen file environment) := by
  constructor
  · intro sec
    have stands := canBe_overlay (file.get? sec.name)
    rw [← section_ordinary ordinary] at stands
    constructor
    · exact fun fits => ⟨fits.whole, fits.leaves, fits.stands.imp_right stands.mp⟩
    · exact fun fits => ⟨fits.whole, fits.leaves, fits.stands.imp_right stands.mpr⟩
  · intro f
    rw [Field.chosen, Field.chosen]
    split
    · rfl
    · rw [section_ordinary ordinary]
      refine holds_written f _ fun v found => ?_
      obtain ⟨e, present, rfl⟩ := Option.map_eq_some_iff.mp found
      exact ordinary.inside e (List.mem_of_find?_eq_some present)

end Ordinary

/-- Loading gives each field the environment's value, else the file's, else its default, if that can be
read and obeys the rules. So the variable of one name changes no other field, and a name that is no
field's changes nothing, except where it is the first to go into a section of the file: one that is a
list then has no values any more, and one that is neither list nor table does not fail any more. -/
theorem layered_field_by_field {files : List (String × String)} {path : Option String} {file : Entries}
    (found : fileTable files path = .ok file) :
    (∀ environment, PlainNames environment → ∀ s, load files path environment = .ok s ↔
      (∀ sec, Fits sec (addSource [] file) environment) ∧
      (∀ f : Field, f.holds (f.chosen (addSource [] file) environment) = some (f.held s)) ∧
      s.flaw? = none) ∧
    (∀ environment other name, PlainNames environment → PlainNames other →
      AgreeExcept name environment other →
      (∀ s t, load files path environment = .ok s → load files path other = .ok t → ∀ f : Field,
        pathOf? name ≠ some f.path →
        (FirstInto name f.sec environment other →
          ∀ items, (addSource [] file).get? f.sec.name ≠ some (.list items)) →
        f.held s = f.held t) ∧
      ((∀ p, pathOf? name = some p → ∀ f : Field, Apart p f.path) →
        (∀ sec, FirstInto name sec environment other → (addSource [] file).get? sec.name = none ∨
          ∃ es, (addSource [] file).get? sec.name = some (.table es)) →
        load files path environment = load files path other)) ∧
    (Ordinary file → ∀ environment,
      (∀ sec, Fits sec (addSource [] file) environment ↔ Fits sec file environment) ∧
      ∀ f : Field, f.holds (f.chosen (addSource [] file) environment) =
        f.holds (f.chosen file environment)) := by
  have loaded (environment : List (String × String)) :
      load files path environment = ofLayers file environment := by
    rw [load_eq, found]
    rfl
  have fields {environment : List (String × String)} (plain : PlainNames environment) (s : Settings) :
      load files path environment = .ok s ↔
        (∀ sec, Fits sec (addSource [] file) environment) ∧
        (∀ f : Field, f.holds (f.chosen (addSource [] file) environment) = some (f.held s)) ∧
        s.flaw? = none := by
    rw [loaded, ofLayers_iff, layered_iff plain, and_assoc]
  refine ⟨fun environment plain => fields plain, ?_, ordinary_as_written⟩
  intro environment other name plain plainOther agree
  constructor
  · intro s t one two f elsewhere notList
    obtain ⟨_, holdsOne, _⟩ := (fields plain s).mp one
    obtain ⟨_, holdsTwo, _⟩ := (fields plainOther t).mp two
    have same := chosen_agree plain plainOther agree elsewhere notList
    exact Option.some.inj ((holdsOne f).symm.trans (same ▸ holdsTwo f))
  · intro unknown merges
    rw [loaded, loaded, ofLayers, ofLayers, read_agree plain plainOther agree unknown merges]

theorem load_of_read {files : List (String × String)} {path : Option String}
    (read : ((fileTable files path).toOption.bind fun file => ofEntries? (layered file environment)) = some s)
    (flawless : s.flaw? = none) : load files path environment = .ok s := by
  cases found : fileTable files path with
  | error flaw =>
    rw [found] at read
    cases read
  | ok file =>
    rw [found] at read
    exact load_iff.mpr ⟨file, found, read, flawless⟩

/-- The longest delay is set in the file and in the environment, and a list in the file gives a length.
The length stays when the variable changes, and a variable of no field changes nothing. -/
theorem layered_field_by_field_longest_delay :
    let files := [("c.json",
      "\x7b\"retry\":\x7b\"max_delay_ms\":50000\x7d,\"flow_control\":[1500]\x7d")]
    let longest (ms : String) := [("PUBSUB__RETRY__MAX_DELAY_MS", ms)]
    let settled (ms : UInt64) : Settings :=
      { (default : Settings) with
        retry := { (default : RetrySettings) with maxDelayMs := ms }
        flow := { (default : FlowSettings) with desiredQueueDurationMs := 1500 } }
    PlainNames (longest "60000") ∧
    load files (some "c.json") (longest "60000") = .ok (settled 60000) ∧
    (∃ file, fileTable files (some "c.json") = .ok file ∧ Ordinary file ∧
      ∀ f : Field, f.holds (f.chosen file (longest "60000")) = some (f.held (settled 60000))) ∧
    load files (some "c.json") (longest "70000") = .ok (settled 70000) ∧
    Field.desiredQueueDurationMs.held (settled 60000) = Field.desiredQueueDurationMs.held (settled 70000) ∧
    load files (some "c.json") (longest "60000" ++ [("PUBSUB__RETRY__FOO", "x")]) = .ok (settled 60000) := by
  intro files longest settled
  have checked : (fileTable files (some "c.json")).toOption.any (fun file => decide (Ordinary file)) =
      true := by decide +kernel
  obtain ⟨file, found, ordinary⟩ :
      ∃ file, fileTable files (some "c.json") = .ok file ∧ Ordinary file := by
    cases found : fileTable files (some "c.json") with
    | error flaw =>
      rw [found] at checked
      cases checked
    | ok file =>
      rw [found] at checked
      exact ⟨file, rfl, of_decide_eq_true checked⟩
  have delay : pathOf? "PUBSUB__RETRY__MAX_DELAY_MS" = some ["retry", "max_delay_ms"] := by
    decide +kernel
  have foo : pathOf? "PUBSUB__RETRY__FOO" = some ["retry", "foo"] := by decide +kernel
  have one (ms : String) : assignments (longest ms) = [(["retry", "max_delay_ms"], ms)] := by
    simp only [assignments, longest, List.filterMap_cons, List.filterMap_nil, delay, Option.map_some]
  have two : assignments (longest "60000" ++ [("PUBSUB__RETRY__FOO", "x")]) =
      [(["retry", "max_delay_ms"], "60000"), (["retry", "foo"], "x")] := by
    simp only [assignments, longest, List.cons_append, List.nil_append, List.filterMap_cons,
      List.filterMap_nil, delay, foo, Option.map_some]
  have plain (ms : String) : PlainNames (longest ms) := by
    have names : ∀ key ∈ ["retry", "max_delay_ms"], IsIdentifier key := by decide
    constructor
    · rw [one]
      exact List.forall_mem_singleton.mpr names
    · rw [one]
      exact List.pairwise_singleton ..
  have plainMore : PlainNames (longest "60000" ++ [("PUBSUB__RETRY__FOO", "x")]) :=
    ⟨by rw [two]; decide, by rw [two]; decide⟩
  have loaded : load files (some "c.json") (longest "60000") = .ok (settled 60000) :=
    load_of_read (by decide +kernel) (by decide +kernel)
  have loadedOther : load files (some "c.json") (longest "70000") = .ok (settled 70000) :=
    load_of_read (by decide +kernel) (by decide +kernel)
  have agree : AgreeExcept "PUBSUB__RETRY__MAX_DELAY_MS" (longest "60000") (longest "70000") := by
    intro e elsewhere
    simp only [longest, List.mem_singleton, Prod.ext_iff, elsewhere, false_and]
  have agreeMore : AgreeExcept "PUBSUB__RETRY__FOO" (longest "60000")
      (longest "60000" ++ [("PUBSUB__RETRY__FOO", "x")]) := by
    intro e elsewhere
    simp only [List.mem_append, List.mem_singleton, Prod.ext_iff, elsewhere, false_and, or_false]
  obtain ⟨fields, frame, asWritten⟩ := layered_field_by_field found
  obtain ⟨_, holds, _⟩ := (fields _ (plain _) _).mp loaded
  refine ⟨plain _, loaded, ⟨file, found, ordinary, fun f => ?_⟩, loadedOther, ?_, ?_⟩
  · rw [← (asWritten ordinary _).2 f]
    exact holds f
  · refine (frame _ _ _ (plain _) (plain _) agree).1 _ _ loaded loadedOther _ ?_ fun first => ?_
    · rw [delay]
      decide
    · exact absurd (by rw [entered, entered, one, one]; rfl) first.2
  · rw [← loaded]
    refine ((frame _ _ _ (plain _) plainMore agreeMore).2 (fun p same f => ?_) fun sec first => ?_).symm
    · cases foo.symm.trans same
      cases f <;> decide
    · refine absurd ?_ first.2
      rw [entered, entered, one, two]
      cases sec <;> rfl

/-- A variable that no field has makes a table of a section, although its name is apart from every field:
two delays that a list gives have their defaults then, and a section that is null does not fail. -/
theorem stray_name_makes_table :
    let listed := [("c.json", "\x7b\"retry\":[50,500]\x7d")]
    let nothing := [("c.json", "\x7b\"retry\":null\x7d")]
    let stray := [("PUBSUB__RETRY__FOO", "x")]
    let written : Settings :=
      { (default : Settings) with
        retry := { (default : RetrySettings) with initialDelayMs := 50, maxDelayMs := 500 } }
    PlainNames stray ∧ AgreeExcept "PUBSUB__RETRY__FOO" [] stray ∧
    pathOf? "PUBSUB__RETRY__FOO" = some ["retry", "foo"] ∧ (∀ f : Field, Apart ["retry", "foo"] f.path) ∧
    load listed (some "c.json") [] = .ok written ∧ load listed (some "c.json") stray = .ok default ∧
    load nothing (some "c.json") [] = .error .unreadable ∧
    load nothing (some "c.json") stray = .ok default := by
  intro listed nothing stray written
  refine ⟨⟨by decide +kernel, by decide +kernel⟩, ?_, by decide +kernel, ?_, ?_, ?_, ?_, ?_⟩
  · intro e elsewhere
    simp only [stray, List.mem_singleton, Prod.ext_iff, elsewhere, false_and, List.not_mem_nil]
  · intro f
    cases f <;> decide
  · exact load_of_read (by decide +kernel) (by decide +kernel)
  · exact load_of_read (by decide +kernel) (by decide +kernel)
  · have unread : ((fileTable nothing (some "c.json")).toOption.map fun file =>
        ofEntries? (layered file [])) = some none := by decide +kernel
    rw [load_eq]
    cases found : fileTable nothing (some "c.json") with
    | error flaw =>
      rw [found] at unread
      cases unread
    | ok file =>
      rw [found] at unread
      have nothingRead : ofEntries? (layered file []) = none := Option.some.inj unread
      rw [Except.bind, ofLayers, nothingRead]
  · exact load_of_read (by decide +kernel) (by decide +kernel)

end Courier.Settings
