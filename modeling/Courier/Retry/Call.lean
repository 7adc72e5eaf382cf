import Courier.Retry.Policy

/-!
One retried call: attempts of an operation with pauses between them, until it succeeds, fails for
good, or the caller's token fires. The last error is the answer, unchanged.
-/

namespace Courier.Retry

variable {ρ ε : Type}

inductive Phase (ρ ε : Type)
  /-- An attempt is running. -/
  | attempting
  /-- The error of the last attempt is kept for the case that the token fires. -/
  | pausing (length : Duration) (last : ε)
  | done (result : Except ε ρ)
  /-- The operation broke off, or the length of a pause could not be computed. -/
  | broken

structure Call (ρ ε : Type) where
  /-- Attempts begun. -/
  attempts : Nat
  /-- The pauses begun, oldest first. -/
  pauses : List Duration
  /-- How often it was asked whether an error may be retried. -/
  asked : Nat
  phase : Phase ρ ε

inductive Event (ρ ε : Type)
  /-- The running attempt ends. `canceled` tells whether the token had fired by then, `jitter` is
  what would be drawn for a pause. -/
  | returned (result : Except ε ρ) (canceled : Bool) (jitter : Binary64)
  | brokeOff
  /-- The pause ends of itself. -/
  | resumed
  /-- The token fires during the pause. -/
  | cut

/-- What follows a failed attempt. -/
inductive Verdict
  | stop
  | pause (length : Duration)
  | undefined
  deriving DecidableEq

/-- `retries` counts the pauses already taken. -/
def Policy.verdict (p : Policy) (retries : Nat) (canceled retryable : Bool) (jitter : Binary64) :
    Verdict :=
  if canceled || !retryable || !p.allows retries then .stop
  else match p.pause? retries jitter with
    | some d => .pause d
    | none => .undefined

namespace Call

/-- The first attempt begins at once. -/
def start : Call ρ ε := ⟨1, [], 0, .attempting⟩

def finished (c : Call ρ ε) : Bool :=
  match c.phase with
  | .done _ => true
  | .broken => true
  | _ => false

/-- After a failure: give up, pause, or break. Nobody is asked once the token has fired. -/
def failed (p : Policy) (retryable : ε → Bool) (c : Call ρ ε) (e : ε) (canceled : Bool)
    (jitter : Binary64) : Call ρ ε :=
  let c := if canceled then c else { c with asked := c.asked + 1 }
  match p.verdict (c.attempts - 1) canceled (retryable e) jitter with
  | .stop => { c with phase := .done (.error e) }
  | .pause d => { c with pauses := c.pauses ++ [d], phase := .pausing d e }
  | .undefined => { c with phase := .broken }

def step (p : Policy) (retryable : ε → Bool) (c : Call ρ ε) : Event ρ ε → Option (Call ρ ε)
  | .returned r canceled jitter =>
    match c.phase, r with
    | .attempting, .ok v => some { c with phase := .done (.ok v) }
    | .attempting, .error e => some (c.failed p retryable e canceled jitter)
    | _, _ => none
  | .brokeOff =>
    match c.phase with
    | .attempting => some { c with phase := .broken }
    | _ => none
  | .resumed =>
    match c.phase with
    | .pausing .. => some { c with attempts := c.attempts + 1, phase := .attempting }
    | _ => none
  | .cut =>
    match c.phase with
    | .pausing _ e => some { c with phase := .done (.error e) }
    | _ => none

/-- The event can happen: where a pause follows, what is drawn for it is one of the random parts that
can be drawn. -/
def admits (p : Policy) (retryable : ε → Bool) (c : Call ρ ε) : Event ρ ε → Bool
  | .returned (.error e) canceled jitter =>
    p.verdict (c.attempts - 1) canceled (retryable e) jitter = .stop ||
      (p.spread (c.attempts - 1)).admits jitter
  | _ => true

/-- A step with an event that can happen. -/
def next? (p : Policy) (retryable : ε → Bool) (c : Call ρ ε) (e : Event ρ ε) : Option (Call ρ ε) :=
  if c.admits p retryable e then c.step p retryable e else none

end Call

end Courier.Retry
