import Courier.Duration

/-!
Backoff between the attempts of a provider call: the pause grows by a factor with each attempt up to
a cap, and a random part of it may be added or taken away.
-/

namespace Courier.Retry

structure Policy where
  /-- Retries after the first attempt; none means without limit. -/
  maxAttempts : Option UInt32
  initialDelay : Duration
  maxDelay : Duration
  multiplier : Binary64
  useJitter : Bool
  /-- The random part as a fraction of the pause. -/
  jitterPercent : Binary64
  deriving DecidableEq

/-- The random part of a pause: none, anything up to `reach` either way, or none that exists. -/
inductive Spread
  | exact
  | within (reach : Binary64)
  | undefined
  deriving DecidableEq

/-- The random parts that can be drawn. Where nothing is drawn it does not matter which is named. -/
def Spread.admits : Spread → Binary64 → Bool
  | .within reach, jitter => (-reach).le jitter && jitter.le reach
  | _, _ => true

namespace Policy

def quarter : Binary64 := Binary64.ofRatio false 1 4

def new (maxAttempts : Option UInt32) (initialDelay maxDelay : Duration) (multiplier : Binary64) :
    Policy :=
  ⟨maxAttempts, initialDelay, maxDelay, multiplier, true, quarter⟩

instance : Inhabited Policy := ⟨new none (.ofSecs 1) (.ofSecs 30) 2⟩

def withoutJitter (p : Policy) : Policy := { p with useJitter := false }

def withJitterPercent (p : Policy) (percent : Binary64) : Policy :=
  { p with jitterPercent := percent.clamp 0 1 }

/-- The exponent stops growing at 2^31 - 1. -/
def cappedSecs (p : Policy) (attempt : Nat) : Binary64 :=
  (p.initialDelay.toSecs * p.multiplier.pow (Nat.min attempt (twoTo 31 - 1))).min p.maxDelay.toSecs

/-- An empty range takes no random part, one without finite ends cannot be drawn from. -/
def spread (p : Policy) (attempt : Nat) : Spread :=
  if p.useJitter then
    let reach := p.cappedSecs attempt * p.jitterPercent
    if reach.le 0 then .exact else if reach.isFinite then .within reach else .undefined
  else .exact

/-- The pause after the given attempt, counted from zero, when `jitter` was drawn; none if it cannot
be computed. -/
def pause? (p : Policy) (attempt : Nat) (jitter : Binary64) : Option Duration :=
  match p.spread attempt with
  | .exact => Duration.ofSecs? (p.cappedSecs attempt)
  | .within _ => Duration.ofSecs? ((p.cappedSecs attempt + jitter).max 0)
  | .undefined => none

/-- The shortest and the longest pause that can be drawn. -/
def pauseRange? (p : Policy) (attempt : Nat) : Option (Duration × Duration) :=
  let reach := match p.spread attempt with
    | .within r => r
    | _ => 0
  match p.pause? attempt (-reach), p.pause? attempt reach with
  | some low, some high => some (low, high)
  | _, _ => none

def allows (p : Policy) (attempt : Nat) : Bool :=
  match p.maxAttempts with
  | none => true
  | some limit => attempt < limit.toNat

end Policy

end Courier.Retry
