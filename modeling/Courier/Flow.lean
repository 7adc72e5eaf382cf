import Courier.Duration

/-!
Flow control: how many messages to ask for at once, so that the local queue lasts about as long as
wanted at the observed rate of processing. The rate is a moving average of processing times.
-/

namespace Courier

structure FlowOptions where
  /-- How long the queue should last. -/
  desired : Duration
  /-- The weight of the newest sample. -/
  decay : Binary64
  maxFetchSize : UInt64
  deriving DecidableEq

instance : Inhabited FlowOptions := ⟨⟨.ofSecs 2, Binary64.ofRatio false 1 20, 1000⟩⟩

structure Flow where
  options : FlowOptions
  /-- The average processing time in seconds, once there is a sample. -/
  average : Option Binary64
  deriving DecidableEq

namespace Flow

def new (options : FlowOptions) : Flow := ⟨options, none⟩

/-- A sample of no time at all counts as one nanosecond. -/
def sampleSecs (elapsed : Duration) : Binary64 :=
  if elapsed.nanos = 0 then Duration.toSecs ⟨1, by decide⟩ else elapsed.toSecs

def record (f : Flow) (elapsed : Duration) : Flow :=
  let sample := sampleSecs elapsed
  let decay := f.options.decay
  { f with average := some (match f.average with
      | none => sample
      | some a => a * (1 - decay) + sample * decay) }

def ceiling (f : Flow) : Nat := Nat.max f.options.maxFetchSize.toNat 1

/-- One message before any sample; then the wanted time over the average, rounded up, at least one
and at most the ceiling. -/
def fetchSize (f : Flow) : Nat :=
  match f.average with
  | none => 1
  | some a =>
    let wanted := (f.options.desired.toSecs / a).ceil
    if (Binary64.ofNat f.ceiling).le wanted then f.ceiling else Nat.max wanted.toCount 1

end Flow

end Courier
