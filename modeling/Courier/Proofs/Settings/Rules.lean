import Courier.Proofs.Binary64.Places
import Courier.Settings.Layers

/-! Which settings pass the rules. Two of the three rules about real numbers ask for what a number has to
be, so a value that is no number breaks them. The rule about the factor only refuses what is below one;
what is no number is below nothing, and passes. Loaded settings are the readable ones that pass, and the
texts of a file or of the environment can be a word for no number. -/

namespace Courier.Settings

open Document

/-- The value is a number, and `there` holds of its place on the extended line, counted in units. -/
def Stands (x : Binary64) (there : Int → Prop) : Prop := ∃ place, x.place? = some place ∧ there place

/-- Every rule but the one about the factor. -/
structure Sound (s : Settings) : Prop where
  share : Stands s.retry.jitterPercent fun x => 0 ≤ x ∧ x ≤ unitsPerOne
  inOrder : s.retry.initialDelayMs ≤ s.retry.maxDelayMs
  weight : Stands s.flow.decay fun x => 0 < x ∧ x ≤ unitsPerOne
  fetches : 0 < s.flow.maxFetchSize
  buffers : 0 < s.flow.desiredQueueDurationMs

/-- The factor is a number from one on, infinity included. -/
def Grows (s : Settings) : Prop := Stands s.retry.multiplier fun x => unitsPerOne ≤ x

def Shrinks (s : Settings) : Prop := Stands s.retry.multiplier fun x => x < unitsPerOne

def Sensible (s : Settings) : Prop := Sound s ∧ Grows s

/-- The settings break the rule that the flaw names, and it shows what was found there. -/
inductive Breaks (s : Settings) : SettingsFlaw → Prop
  | factor (below : Shrinks s) : Breaks s (.multiplierTooSmall s.retry.multiplier)
  | share (outside : ¬ Stands s.retry.jitterPercent fun x => 0 ≤ x ∧ x ≤ unitsPerOne) :
      Breaks s (.jitterOutOfRange s.retry.jitterPercent)
  | order (below : s.retry.maxDelayMs < s.retry.initialDelayMs) :
      Breaks s (.maxBelowInitial s.retry.maxDelayMs s.retry.initialDelayMs)
  | weight (outside : ¬ Stands s.flow.decay fun x => 0 < x ∧ x ≤ unitsPerOne) :
      Breaks s (.decayOutOfRange s.flow.decay)
  | fetches (nothing : s.flow.maxFetchSize = 0) : Breaks s .emptyFetch
  | buffers (nothing : s.flow.desiredQueueDurationMs = 0) : Breaks s .emptyQueueDuration

section Number

variable {x y : Binary64} {b : Int}

theorem lt_iff_left (right : y.place? = some b) : x.lt y = true ↔ Stands x fun a => a < b := by
  cases place : x.place? with
  | none => simp [Binary64.lt, Stands, place]
  | some a => simp [Binary64.lt_eq place right, Stands, place]

theorem le_iff_left (right : y.place? = some b) : x.le y = true ↔ Stands x fun a => a ≤ b := by
  cases place : x.place? with
  | none => simp [Binary64.le, Stands, place]
  | some a => simp [Binary64.le_eq place right, Stands, place]

theorem lt_iff_right (left : y.place? = some b) : y.lt x = true ↔ Stands x fun a => b < a := by
  cases place : x.place? with
  | none => simp [Binary64.lt, Stands, place, left]
  | some a => simp [Binary64.lt_eq left place, Stands, place]

theorem le_iff_right (left : y.place? = some b) : y.le x = true ↔ Stands x fun a => b ≤ a := by
  cases place : x.place? with
  | none => simp [Binary64.le, Stands, place, left]
  | some a => simp [Binary64.le_eq left place, Stands, place]

theorem stands_and {here there : Int → Prop} :
    Stands x here ∧ Stands x there ↔ Stands x fun a => here a ∧ there a := by
  cases place : x.place? with
  | none => simp [Stands, place]
  | some a => simp [Stands, place]

/-- What is not below one is a number from one on, or no number. -/
theorem not_below : ¬ (Stands x fun a => a < b) ↔ x = .nan ∨ Stands x fun a => b ≤ a := by
  cases x with
  | nan => simp [Stands, Binary64.place?]
  | infinite negative => simp [Stands, Binary64.infinite_place]
  | finite negative m => simp [Stands, Binary64.finite_place]

theorem share_iff : (Binary64.le 0 x && x.le 1) = true ↔ Stands x fun a => 0 ≤ a ∧ a ≤ unitsPerOne := by
  rw [Bool.and_eq_true, le_iff_right Binary64.zero_place, le_iff_left Binary64.one_place, stands_and]
  rfl

theorem weight_iff : (Binary64.lt 0 x && x.le 1) = true ↔ Stands x fun a => 0 < a ∧ a ≤ unitsPerOne := by
  rw [Bool.and_eq_true, lt_iff_right Binary64.zero_place, le_iff_left Binary64.one_place, stands_and]
  rfl

end Number

variable {ε : Type} {s : Settings}

/-- Either nothing is wrong, or the flaw that is found is there. -/
theorem flaw_cases (s : Settings) :
    (s.flaw? = none ∧ Sound s ∧ ¬ Shrinks s) ∨ ∃ flaw, s.flaw? = some flaw ∧ Breaks s flaw := by
  unfold flaw?
  split
  · rename_i below
    exact .inr ⟨_, rfl, .factor ((lt_iff_left Binary64.one_place).mp below)⟩
  rename_i grows
  split
  · rename_i outside
    rw [Bool.not_eq_true', ← Bool.not_eq_true, share_iff] at outside
    exact .inr ⟨_, rfl, .share outside⟩
  rename_i share
  rw [Bool.not_eq_true', Bool.not_eq_false, share_iff] at share
  split
  · rename_i below
    exact .inr ⟨_, rfl, .order below⟩
  rename_i inOrder
  split
  · rename_i outside
    rw [Bool.not_eq_true', ← Bool.not_eq_true, weight_iff] at outside
    exact .inr ⟨_, rfl, .weight outside⟩
  rename_i weight
  rw [Bool.not_eq_true', Bool.not_eq_false, weight_iff] at weight
  split
  · rename_i nothing
    exact .inr ⟨_, rfl, .fetches nothing⟩
  rename_i fetches
  split
  · rename_i nothing
    exact .inr ⟨_, rfl, .buffers nothing⟩
  rename_i buffers
  refine .inl ⟨rfl, ⟨share, UInt64.not_lt.mp inOrder, weight, ?_, ?_⟩, ?_⟩
  · exact UInt64.pos_iff_ne_zero.mpr fetches
  · exact UInt64.pos_iff_ne_zero.mpr buffers
  · exact fun shrinks => grows ((lt_iff_left Binary64.one_place).mpr shrinks)

/-- Who breaks a rule does not obey all of them. -/
theorem not_sound_of_breaks {flaw : SettingsFlaw} (breaks : Breaks s flaw) (sound : Sound s) :
    Shrinks s := by
  cases breaks with
  | factor below => exact below
  | share outside => exact absurd sound.share outside
  | order below => exact absurd sound.inOrder (UInt64.not_le.mpr below)
  | weight outside => exact absurd sound.weight outside
  | fetches nothing => exact absurd sound.fetches (by rw [nothing]; decide)
  | buffers nothing => exact absurd sound.buffers (by rw [nothing]; decide)

theorem flawless_iff : s.flaw? = none ↔ Sound s ∧ (s.retry.multiplier = .nan ∨ Grows s) := by
  rw [Grows, ← not_below]
  rcases flaw_cases s with ⟨flawless, sound, grows⟩ | ⟨flaw, found, breaks⟩
  · exact ⟨fun _ => ⟨sound, grows⟩, fun _ => flawless⟩
  · rw [found]
    exact ⟨nofun, fun ⟨sound, grows⟩ => absurd (not_sound_of_breaks breaks sound) grows⟩

theorem valid_iff : s.validate = (.ok () : Except (Fault ε) Unit) ↔ s.flaw? = none := by
  rw [validate]
  cases s.flaw? with
  | none => exact ⟨fun _ => rfl, fun _ => rfl⟩
  | some flaw => exact ⟨nofun, nofun⟩

theorem refused_as_found {fault : Fault ε} (refused : s.validate = .error fault) :
    ∃ flaw, Breaks s flaw ∧ fault = .configuration flaw.message := by
  rw [validate] at refused
  rcases flaw_cases s with ⟨flawless, _⟩ | ⟨flaw, found, breaks⟩
  · rw [flawless] at refused
    cases refused
  · rw [found] at refused
    cases refused
    exact ⟨flaw, breaks, rfl⟩

/-- The table that a file gives. Without a path there is none in it. -/
def fileTable (files : List (String × String)) : Option String → Except LoadFlaw Entries
  | none => .ok []
  | some path => readFile files path

theorem load_eq (files : List (String × String)) (path : Option String)
    (environment : List (String × String)) :
    load files path environment = (fileTable files path).bind fun file => ofLayers file environment := by
  cases path <;> rfl

theorem ofLayers_iff {file : Entries} {environment : List (String × String)} :
    ofLayers file environment = .ok s ↔
      ofEntries? (layered file environment) = some s ∧ s.flaw? = none := by
  rw [ofLayers]
  cases ofEntries? (layered file environment) with
  | none => exact ⟨nofun, nofun⟩
  | some read =>
    dsimp only
    cases flawed : read.flaw? with
    | none =>
      rw [Except.ok.injEq, Option.some.injEq]
      exact ⟨fun same => ⟨same, same ▸ flawed⟩, fun both => both.1⟩
    | some flaw =>
      refine ⟨nofun, fun ⟨same, flawless⟩ => ?_⟩
      rw [← Option.some.inj same, flawed] at flawless
      cases flawless

theorem load_iff {files : List (String × String)} {path : Option String}
    {environment : List (String × String)} : load files path environment = .ok s ↔
      ∃ file, fileTable files path = .ok file ∧
        ofEntries? (layered file environment) = some s ∧ s.flaw? = none := by
  rw [load_eq]
  cases fileTable files path with
  | error flaw => exact ⟨nofun, nofun⟩
  | ok file =>
    rw [Except.bind, ofLayers_iff]
    constructor
    · exact fun both => ⟨file, rfl, both⟩
    · rintro ⟨_, same, both⟩
      cases same
      exact both

/-- What validation accepts is sensible, or has a factor that is no number, and nothing else; a refusal
names a rule that is broken. What loading gives, from any file and environment, is what can be read and
is so too. -/
theorem sensible_unless_no_number :
    (∀ s : Settings, s.validate = (.ok () : Except (Fault ε) Unit) ↔
      Sound s ∧ (s.retry.multiplier = .nan ∨ Grows s)) ∧
    (∀ (s : Settings) (fault : Fault ε), s.validate = .error fault →
      ∃ flaw, Breaks s flaw ∧ fault = .configuration flaw.message) ∧
    ∀ (files : List (String × String)) (path : Option String) (environment : List (String × String))
      (s : Settings), load files path environment = .ok s ↔
        ∃ file, fileTable files path = .ok file ∧ ofEntries? (layered file environment) = some s ∧
          Sound s ∧ (s.retry.multiplier = .nan ∨ Grows s) := by
  refine ⟨fun s => valid_iff.trans flawless_iff, fun s fault refused => refused_as_found refused, ?_⟩
  intro files path environment s
  rw [load_iff, flawless_iff]

/-- An infinite factor from the environment is sensible; a weight that is no number is refused. -/
theorem sensible_unless_no_number_infinite :
    let steep : Settings :=
      { (default : Settings) with
        retry := { (default : RetrySettings) with multiplier := .infinite false } }
    let still : Settings :=
      { (default : Settings) with flow := { (default : FlowSettings) with decay := .nan } }
    load [] none [("PUBSUB__RETRY__MULTIPLIER", "inf")] = .ok steep ∧ Sensible steep ∧
    still.validate = .error (.configuration (SettingsFlaw.decayOutOfRange .nan).message :
      Fault Empty) ∧
    ∃ flaw, Breaks still flaw ∧ flaw.message = (SettingsFlaw.decayOutOfRange .nan).message := by
  intro steep still
  have read : ofEntries? (layered [] [("PUBSUB__RETRY__MULTIPLIER", "inf")]) = some steep := by
    decide +kernel
  have loaded : load [] none [("PUBSUB__RETRY__MULTIPLIER", "inf")] = .ok steep :=
    load_iff.mpr ⟨[], rfl, read, by decide +kernel⟩
  have refused : still.validate =
      .error (.configuration (SettingsFlaw.decayOutOfRange .nan).message : Fault Empty) := by
    rw [validate, show still.flaw? = some (.decayOutOfRange .nan) by decide +kernel]
  obtain ⟨_, refusals, loads⟩ := sensible_unless_no_number (ε := Empty)
  obtain ⟨_, _, _, sound, factor⟩ := (loads _ _ _ _).mp loaded
  obtain ⟨flaw, breaks, same⟩ := refusals still _ refused
  refine ⟨loaded, ⟨sound, factor.resolve_left nofun⟩, refused, flaw, breaks, ?_⟩
  exact (Fault.configuration.inj same).symm

/-- The rule about the factor lets what is no number pass, where the rules about the share and the weight
refuse it, and so it can be loaded from the environment. -/
theorem no_number_passes :
    let stray : Settings :=
      { (default : Settings) with retry := { (default : RetrySettings) with multiplier := .nan } }
    stray.validate = (.ok () : Except (Fault Empty) Unit) ∧ ¬ Sensible stray ∧
    load [] none [("PUBSUB__RETRY__MULTIPLIER", "nan")] = .ok stray := by
  intro stray
  have read : ofEntries? (layered [] [("PUBSUB__RETRY__MULTIPLIER", "nan")]) = some stray := by
    decide +kernel
  have flawless : stray.flaw? = none := by decide +kernel
  refine ⟨valid_iff.mpr flawless, ?_, load_iff.mpr ⟨[], rfl, read, flawless⟩⟩
  rintro ⟨_, _, place, _⟩
  cases place

end Courier.Settings
