import Courier.Fault
import Courier.Retry.Policy
import Courier.Flow
import Courier.Limits
import Courier.Binary64.Shortest

/-!
Settings of topics and subscriptions, the rules that values must obey, and the options that follow
from them.
-/

namespace Courier

structure RetrySettings where
  initialDelayMs : UInt64
  maxDelayMs : UInt64
  multiplier : Binary64
  jitterPercent : Binary64
  maxAttempts : Option UInt32
  deriving DecidableEq

structure BatchingSettings where
  maxBatchSize : UInt64
  deriving DecidableEq

structure FlowSettings where
  desiredQueueDurationMs : UInt64
  decay : Binary64
  maxFetchSize : UInt64
  deriving DecidableEq

structure Settings where
  retry : RetrySettings
  batching : BatchingSettings
  flow : FlowSettings
  deriving DecidableEq

instance : Inhabited RetrySettings := ⟨⟨1000, 30000, 2, Retry.Policy.quarter, none⟩⟩
instance : Inhabited BatchingSettings := ⟨⟨100⟩⟩
instance : Inhabited FlowSettings := ⟨⟨2000, Binary64.ofRatio false 1 20, 1000⟩⟩
instance : Inhabited Settings := ⟨⟨default, default, default⟩⟩

/-- Where the environment's variables for settings begin. -/
def Settings.environmentName : String := "PUBSUB"

/-- The first rule that a value breaks. -/
inductive SettingsFlaw
  | multiplierTooSmall (found : Binary64)
  | jitterOutOfRange (found : Binary64)
  | maxBelowInitial (maxDelay initialDelay : UInt64)
  | decayOutOfRange (found : Binary64)
  | emptyFetch
  | emptyQueueDuration
  deriving DecidableEq

def SettingsFlaw.message : SettingsFlaw → String
  | multiplierTooSmall x => "retry.multiplier must be at least 1.0, got " ++ x.toText
  | jitterOutOfRange x => "retry.jitter_percent must be within [0, 1], got " ++ x.toText
  | maxBelowInitial m i =>
    "retry.max_delay_ms (" ++ toString m ++ ") is below retry.initial_delay_ms (" ++ toString i ++
      ")"
  | decayOutOfRange x => "flow_control.decay must be within (0, 1], got " ++ x.toText
  | emptyFetch => "flow_control.max_fetch_size must be at least 1"
  | emptyQueueDuration => "flow_control.desired_queue_duration_ms must be positive"

namespace Settings

/-- The rules are tried in this order. -/
def flaw? (s : Settings) : Option SettingsFlaw :=
  if s.retry.multiplier.lt 1 then some (.multiplierTooSmall s.retry.multiplier)
  else if !(Binary64.le 0 s.retry.jitterPercent && s.retry.jitterPercent.le 1) then
    some (.jitterOutOfRange s.retry.jitterPercent)
  else if s.retry.maxDelayMs < s.retry.initialDelayMs then
    some (.maxBelowInitial s.retry.maxDelayMs s.retry.initialDelayMs)
  else if !(Binary64.lt 0 s.flow.decay && s.flow.decay.le 1) then
    some (.decayOutOfRange s.flow.decay)
  else if s.flow.maxFetchSize = 0 then some .emptyFetch
  else if s.flow.desiredQueueDurationMs = 0 then some .emptyQueueDuration
  else none

def validate {ε : Type} (s : Settings) : Except (Fault ε) Unit :=
  match s.flaw? with
  | none => .ok ()
  | some f => .error (.configuration f.message)

end Settings

/-- No random part at all if its share is zero. -/
def RetrySettings.policy (r : RetrySettings) : Retry.Policy :=
  let p := (Retry.Policy.new r.maxAttempts (.ofMillis r.initialDelayMs) (.ofMillis r.maxDelayMs)
    r.multiplier).withJitterPercent r.jitterPercent
  if r.jitterPercent.same 0 then p.withoutJitter else p

def BatchingSettings.limits (b : BatchingSettings) : Limits := ⟨1, b.maxBatchSize.toNat⟩

def FlowSettings.options (f : FlowSettings) : FlowOptions :=
  ⟨.ofMillis f.desiredQueueDurationMs, f.decay, f.maxFetchSize⟩

structure TopicOptions where
  retry : Retry.Policy
  batching : Limits
  deriving DecidableEq, Inhabited

structure SubscriptionOptions where
  retry : Retry.Policy
  ackBatching : Limits
  flow : FlowOptions
  deriving DecidableEq, Inhabited

namespace Settings

def topicOptions (s : Settings) : TopicOptions := ⟨s.retry.policy, s.batching.limits⟩

def subscriptionOptions (s : Settings) : SubscriptionOptions :=
  ⟨s.retry.policy, s.batching.limits, s.flow.options⟩

end Settings

end Courier
