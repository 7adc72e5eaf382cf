import Courier.Proofs.Settings.Places
import Courier.Settings.Layers

/-! The fields of settings as they are read from a table. A section counts only for what it gives each of
its fields, by name if it is a table and by position if it is a list; everything else that stands in the
table is passed over. Reading succeeds just if every section can be one and every field can be read. -/

namespace Courier.Settings

open Document

inductive Section
  | retry
  | batching
  | flow
  deriving DecidableEq

/-- Every setting that holds a value of its own. -/
inductive Field
  | initialDelayMs
  | maxDelayMs
  | multiplier
  | jitterPercent
  | maxAttempts
  | maxBatchSize
  | desiredQueueDurationMs
  | decay
  | maxFetchSize
  deriving DecidableEq

/-- What a field can hold. -/
inductive Reading
  | count (n : UInt64)
  | real (x : Binary64)
  | attempts (limit : Option UInt32)
  deriving DecidableEq

namespace Section

def name : Section → String
  | retry => "retry"
  | batching => "batching"
  | flow => "flow_control"

/-- In the order in which a list gives them. -/
def fields : Section → List Field
  | retry => [.initialDelayMs, .maxDelayMs, .multiplier, .jitterPercent, .maxAttempts]
  | batching => [.maxBatchSize]
  | flow => [.desiredQueueDurationMs, .decay, .maxFetchSize]

/-- What can stand where a section belongs, if anything does. -/
def CanBe : Option Value → Prop
  | none | some (.table _) | some (.list _) => True
  | _ => False

end Section

namespace Field

def sec : Field → Section
  | initialDelayMs | maxDelayMs | multiplier | jitterPercent | maxAttempts => .retry
  | maxBatchSize => .batching
  | desiredQueueDurationMs | decay | maxFetchSize => .flow

def name : Field → String
  | initialDelayMs => "initial_delay_ms"
  | maxDelayMs => "max_delay_ms"
  | multiplier => "multiplier"
  | jitterPercent => "jitter_percent"
  | maxAttempts => "max_attempts"
  | maxBatchSize => "max_batch_size"
  | desiredQueueDurationMs => "desired_queue_duration_ms"
  | decay => "decay"
  | maxFetchSize => "max_fetch_size"

def path (f : Field) : List String := [f.sec.name, f.name]

/-- Where a list that stands for the section has this field. -/
def position (f : Field) : Nat := f.sec.fields.idxOf f

/-- How a value is read for this field. -/
def read : Field → Value → Option Reading
  | multiplier, v | jitterPercent, v | decay, v => v.real?.map .real
  | maxAttempts, v => v.attempts?.map .attempts
  | _, v => v.word?.map .count

/-- What the settings hold. -/
def held (s : Settings) : Field → Reading
  | initialDelayMs => .count s.retry.initialDelayMs
  | maxDelayMs => .count s.retry.maxDelayMs
  | multiplier => .real s.retry.multiplier
  | jitterPercent => .real s.retry.jitterPercent
  | maxAttempts => .attempts s.retry.maxAttempts
  | maxBatchSize => .count s.batching.maxBatchSize
  | desiredQueueDurationMs => .count s.flow.desiredQueueDurationMs
  | decay => .real s.flow.decay
  | maxFetchSize => .count s.flow.maxFetchSize

/-- What a field holds if this is the value that counts for it; without one it holds its default. -/
def holds (f : Field) (given : Option Value) : Option Reading := fieldOr (held default f) f.read given

/-- What a section gives the field: by name in a table, by position in a list. -/
def given (f : Field) : Option Value → Option Value
  | some (.table es) => Entries.get? es f.name
  | some (.list items) => items[f.position]?
  | _ => none

/-- A table is no value of a field. -/
theorem read_table (f : Field) (es : Entries) : f.read (.table es) = none := by
  cases f <;> rfl

/-- What a value is laid over does not matter to its reading. -/
theorem read_overlay (f : Field) (old v : Value) : f.read (old.overlay v) = f.read v := by
  cases v with
  | table es => rw [Value.overlay, read_table, read_table]
  | _ => rw [Value.overlay]; nofun

theorem holds_overlay (f : Field) (old : Value) (o : Option Value) :
    f.holds (o.map old.overlay) = f.holds o := by
  cases o with
  | none => rfl
  | some v => exact f.read_overlay old v

end Field

theorem section_begins (f : Field) : [f.sec.name] <+: f.path := ⟨[f.name], rfl⟩

theorem begins_path {f : Field} {p : List String} (begins : p <+: f.path) :
    p = [] ∨ p = [f.sec.name] ∨ p = f.path := by
  rw [Field.path, List.prefix_cons_iff] at begins
  rcases begins with rfl | ⟨rest, rfl, begins⟩
  · exact .inl rfl
  rw [List.prefix_cons_iff] at begins
  rcases begins with rfl | ⟨rest, rfl, begins⟩
  · exact .inr (.inl rfl)
  · rw [List.prefix_nil.mp begins]
    exact .inr (.inr rfl)

theorem mem_fields (f : Field) : f ∈ f.sec.fields := by
  cases f <;> decide

theorem sec_of_mem {f : Field} {sec : Section} (member : f ∈ sec.fields) : f.sec = sec := by
  cases sec <;> cases f <;> first | rfl | exact absurd member (by decide)

section Kinds

variable {f : Field} {given : Option Value}

theorem fieldOr_map {α β : Type} (g : α → β) (d : α) (read : Value → Option α) (o : Option Value) :
    fieldOr (g d) (fun v => (read v).map g) o = (fieldOr d read o).map g := by
  cases o <;> rfl

theorem holds_count {d n : UInt64} (standard : f.held default = .count d)
    (reads : f.read = fun v => v.word?.map .count) :
    f.holds given = some (.count n) ↔ fieldOr d Value.word? given = some n := by
  rw [Field.holds, standard, reads, fieldOr_map, Option.map_eq_some_iff]
  simp only [Reading.count.injEq, exists_eq_right]

theorem holds_real {d x : Binary64} (standard : f.held default = .real d)
    (reads : f.read = fun v => v.real?.map .real) :
    f.holds given = some (.real x) ↔ fieldOr d Value.real? given = some x := by
  rw [Field.holds, standard, reads, fieldOr_map, Option.map_eq_some_iff]
  simp only [Reading.real.injEq, exists_eq_right]

theorem holds_attempts {d limit : Option UInt32} (standard : f.held default = .attempts d)
    (reads : f.read = fun v => v.attempts?.map .attempts) :
    f.holds given = some (.attempts limit) ↔ fieldOr d Value.attempts? given = some limit := by
  rw [Field.holds, standard, reads, fieldOr_map, Option.map_eq_some_iff]
  simp only [Reading.attempts.injEq, exists_eq_right]

end Kinds

/-! ### Sections -/

section Sections

variable {s : Settings}

theorem fields_iff (sec : Section) {v : Value} {l : List (Option Value)} :
    v.fields? (sec.fields.map Field.name) = some l ↔
      Section.CanBe (some v) ∧ sec.fields.map (fun f => f.given (some v)) = l := by
  cases v with
  | table es =>
    rw [Value.fields?, Option.some.injEq, List.map_map]
    exact (and_iff_right trivial).symm
  | list items =>
    rw [Value.fields?, Option.some.injEq]
    cases sec <;> exact (and_iff_right trivial).symm
  | _ => exact ⟨nofun, nofun⟩

/-- The value can be the section, and each of its fields holds what it gives. -/
def Fills (sec : Section) (o : Option Value) (s : Settings) : Prop :=
  Section.CanBe o ∧ ∀ f ∈ sec.fields, f.holds (f.given o) = some (f.held s)

/-- An absent section is as good as an empty table. -/
theorem fills_absent {sec : Section} : Fills sec none s ↔ Fills sec (some (.table [])) s := Iff.rfl

theorem default_retry : (default : Settings).retry = default := rfl

theorem default_batching : (default : Settings).batching = default := rfl

theorem default_flow : (default : Settings).flow = default := rfl

theorem fills_retry {v : Value} : retryOfValue? v = some s.retry ↔ Fills .retry (some v) s := by
  simp only [Fills, Section.fields, List.forall_mem_cons, List.not_mem_nil, false_implies, implies_true,
    and_true, Field.held, holds_count (f := .initialDelayMs) rfl rfl,
    holds_count (f := .maxDelayMs) rfl rfl, holds_real (f := .multiplier) rfl rfl,
    holds_real (f := .jitterPercent) rfl rfl, holds_attempts (f := .maxAttempts) rfl rfl]
  simp only [retryOfValue?, Option.bind_eq_bind, Option.bind_eq_some_iff, default_retry]
  constructor
  · rintro ⟨l, seen, read⟩
    obtain ⟨can, rfl⟩ := (fields_iff .retry).mp seen
    simp only [Section.fields, List.map, Option.bind_eq_some_iff, Option.some.injEq] at read
    obtain ⟨_, ha, _, hb, _, hc, _, hd, _, he, same⟩ := read
    rw [← same]
    exact ⟨can, ha, hb, hc, hd, he⟩
  · rintro ⟨can, ha, hb, hc, hd, he⟩
    refine ⟨_, (fields_iff .retry).mpr ⟨can, rfl⟩, ?_⟩
    simp only [Section.fields, List.map, ha, hb, hc, hd, he, Option.bind_some]

theorem fills_batching {v : Value} :
    batchingOfValue? v = some s.batching ↔ Fills .batching (some v) s := by
  simp only [Fills, Section.fields, List.forall_mem_cons, List.not_mem_nil, false_implies, implies_true,
    and_true, Field.held, holds_count (f := .maxBatchSize) rfl rfl]
  simp only [batchingOfValue?, Option.bind_eq_bind, Option.bind_eq_some_iff, default_batching]
  constructor
  · rintro ⟨l, seen, read⟩
    obtain ⟨can, rfl⟩ := (fields_iff .batching).mp seen
    simp only [Section.fields, List.map, Option.bind_eq_some_iff, Option.some.injEq] at read
    obtain ⟨_, ha, same⟩ := read
    rw [← same]
    exact ⟨can, ha⟩
  · rintro ⟨can, ha⟩
    refine ⟨_, (fields_iff .batching).mpr ⟨can, rfl⟩, ?_⟩
    simp only [Section.fields, List.map, ha, Option.bind_some]

theorem fills_flow {v : Value} : flowOfValue? v = some s.flow ↔ Fills .flow (some v) s := by
  simp only [Fills, Section.fields, List.forall_mem_cons, List.not_mem_nil, false_implies, implies_true,
    and_true, Field.held, holds_count (f := .desiredQueueDurationMs) rfl rfl,
    holds_real (f := .decay) rfl rfl, holds_count (f := .maxFetchSize) rfl rfl]
  simp only [flowOfValue?, Option.bind_eq_bind, Option.bind_eq_some_iff, default_flow]
  constructor
  · rintro ⟨l, seen, read⟩
    obtain ⟨can, rfl⟩ := (fields_iff .flow).mp seen
    simp only [Section.fields, List.map, Option.bind_eq_some_iff, Option.some.injEq] at read
    obtain ⟨_, ha, _, hb, _, hc, same⟩ := read
    rw [← same]
    exact ⟨can, ha, hb, hc⟩
  · rintro ⟨can, ha, hb, hc⟩
    refine ⟨_, (fields_iff .flow).mpr ⟨can, rfl⟩, ?_⟩
    simp only [Section.fields, List.map, ha, hb, hc, Option.bind_some]

/-- Without the section all its fields have their defaults, as with an empty one. -/
theorem fills_or {α : Type} [Inhabited α] {read : Value → Option α} {a : α} {sec : Section}
    (empty : read (.table []) = some default) (fills : ∀ v, read v = some a ↔ Fills sec (some v) s)
    (o : Option Value) : fieldOr default read o = some a ↔ Fills sec o s := by
  cases o with
  | none => rw [fieldOr, ← empty, fills, fills_absent]
  | some v => exact fills v

theorem retry_empty : retryOfValue? (.table []) = some default := by
  simp only [retryOfValue?, Value.fields?, retryNames, List.map, Entries.get?, List.find?_nil,
    Option.map_none, fieldOr, Option.bind_eq_bind, Option.bind_some]

theorem batching_empty : batchingOfValue? (.table []) = some default := by
  simp only [batchingOfValue?, Value.fields?, batchingNames, List.map, Entries.get?, List.find?_nil,
    Option.map_none, fieldOr, Option.bind_eq_bind, Option.bind_some]

theorem flow_empty : flowOfValue? (.table []) = some default := by
  simp only [flowOfValue?, Value.fields?, flowNames, List.map, Entries.get?, List.find?_nil,
    Option.map_none, fieldOr, Option.bind_eq_bind, Option.bind_some]

/-- Settings are read from a table just if each section there fills theirs. -/
theorem read_iff {root : Entries} :
    ofEntries? root = some s ↔ ∀ sec : Section, Fills sec (root.get? sec.name) s := by
  simp only [ofEntries?, Option.bind_eq_bind, Option.bind_eq_some_iff, Option.some.injEq]
  constructor
  · rintro ⟨_, retry, _, batching, _, flow, rfl⟩ sec
    cases sec with
    | retry => exact (fills_or retry_empty (fun _ => fills_retry) _).mp retry
    | batching => exact (fills_or batching_empty (fun _ => fills_batching) _).mp batching
    | flow => exact (fills_or flow_empty (fun _ => fills_flow) _).mp flow
  · intro filled
    have retry := (fills_or retry_empty (fun _ => fills_retry) _).mpr (filled .retry)
    have batching := (fills_or batching_empty (fun _ => fills_batching) _).mpr (filled .batching)
    have flow := (fills_or flow_empty (fun _ => fills_flow) _).mpr (filled .flow)
    exact ⟨_, retry, _, batching, _, flow, rfl⟩

end Sections

end Courier.Settings
