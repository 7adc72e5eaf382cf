import Courier.Document.Json
import Courier.Settings

/-!
The written form of settings: a JSON object with one object per section. Reading is strict about
kinds of values and lenient about what is left out: an absent field has its default, a field with
another name is skipped, and a section may also be a list of its values in the order of the fields.
-/

namespace Courier

open Document

/-- What each named field holds, in the order of `names`: by name from an object that names none of
them twice, by position from a list that is not longer. -/
def Document.Json.fields? (names : List String) : Json → Option (List (Option Json))
  | .object members =>
    if members.all (fun m => m.1.isSome) then
      names.mapM fun n => match members.filter (fun m => m.1 = some n) with
        | [] => some none
        | [m] => some (some m.2)
        | _ => none
    else none
  | .list items =>
    if items.length ≤ names.length then
      some (items.map some ++ List.replicate (names.length - items.length) none)
    else none
  | _ => none

namespace Settings

/-- A count is written as a whole number, without point and exponent. -/
def count? (limit : Nat) : Json → Option Nat
  | .number n =>
    match n.value? with
    | some (.whole (.ofNat k)) => if k < limit then some k else none
    | _ => none
  | _ => none

def word? (j : Json) : Option UInt64 := (count? UInt64.size j).map Nat.toUInt64

def real? : Json → Option Binary64
  | .number n => n.value?.map fun
    | .whole k => Binary64.ofInt k
    | .real x => x
  | _ => none

/-- Null stands for no limit. -/
def attempts? : Json → Option (Option UInt32)
  | .null => some none
  | j => (count? UInt32.size j).map fun n => some n.toUInt32

def readOr {α : Type} (d : α) (read : Json → Option α) : Option Json → Option α
  | none => some d
  | some j => read j

def retryNames : List String :=
  ["initial_delay_ms", "max_delay_ms", "multiplier", "jitter_percent", "max_attempts"]

def batchingNames : List String := ["max_batch_size"]

def flowNames : List String := ["desired_queue_duration_ms", "decay", "max_fetch_size"]

def sectionNames : List String := ["retry", "batching", "flow_control"]

def retryOfJson? (j : Json) : Option RetrySettings := do
  let d : RetrySettings := default
  match ← j.fields? retryNames with
  | [a, b, c, e, f] =>
    some ⟨← readOr d.initialDelayMs word? a, ← readOr d.maxDelayMs word? b,
      ← readOr d.multiplier real? c, ← readOr d.jitterPercent real? e,
      ← readOr d.maxAttempts attempts? f⟩
  | _ => none

def batchingOfJson? (j : Json) : Option BatchingSettings := do
  match ← j.fields? batchingNames with
  | [a] => some ⟨← readOr (default : BatchingSettings).maxBatchSize word? a⟩
  | _ => none

def flowOfJson? (j : Json) : Option FlowSettings := do
  let d : FlowSettings := default
  match ← j.fields? flowNames with
  | [a, b, c] =>
    some ⟨← readOr d.desiredQueueDurationMs word? a, ← readOr d.decay real? b,
      ← readOr d.maxFetchSize word? c⟩
  | _ => none

def ofJson? (j : Json) : Option Settings := do
  match ← j.fields? sectionNames with
  | [a, b, c] =>
    some ⟨← readOr default retryOfJson? a, ← readOr default batchingOfJson? b,
      ← readOr default flowOfJson? c⟩
  | _ => none

def ofJsonText? (text : String) : Option Settings := do ofJson? (← Json.ofText? text)

/-- An object without blanks from names and written values. -/
def objectText (members : List (String × String)) : String :=
  "\x7b" ++ ",".intercalate (members.map fun m => "\"" ++ m.1 ++ "\":" ++ m.2) ++ "\x7d"

/-- The settings in JSON, sections and fields in their order. -/
def toJsonText (s : Settings) : String :=
  let attempts := match s.retry.maxAttempts with
    | none => "null"
    | some n => toString n
  let retry := [toString s.retry.initialDelayMs, toString s.retry.maxDelayMs,
    s.retry.multiplier.toDocument, s.retry.jitterPercent.toDocument, attempts]
  let flow := [toString s.flow.desiredQueueDurationMs, s.flow.decay.toDocument,
    toString s.flow.maxFetchSize]
  objectText (sectionNames.zip [objectText (retryNames.zip retry),
    objectText (batchingNames.zip [toString s.batching.maxBatchSize]),
    objectText (flowNames.zip flow)])

/-- Equal in every field, numbers compared as numbers. -/
def same (s t : Settings) : Bool :=
  s.retry.initialDelayMs = t.retry.initialDelayMs && s.retry.maxDelayMs = t.retry.maxDelayMs &&
  s.retry.multiplier.same t.retry.multiplier && s.retry.jitterPercent.same t.retry.jitterPercent &&
  s.retry.maxAttempts = t.retry.maxAttempts && s.batching = t.batching &&
  s.flow.desiredQueueDurationMs = t.flow.desiredQueueDurationMs && s.flow.decay.same t.flow.decay &&
  s.flow.maxFetchSize = t.flow.maxFetchSize

/-- Writing the settings and reading them again leaves them as they are. -/
def survivesWriting (s : Settings) : Bool := (ofJsonText? s.toJsonText).any s.same

end Settings

end Courier
