import Courier.Provider
import Courier.Rehearsal.Settle
import Courier.Retry.Call

/-!
A scripted provider: what each of its calls does, and where a call stands that has not ended.
-/

namespace Courier.Rehearsal

/-- An error that a scripted provider makes up, and how the provider classifies it. -/
structure Scripted where
  text : String
  code : Code
  retryable : Bool
  /-- The error stands inside another one that does not show it. -/
  hidden : Bool
  deriving DecidableEq, Repr

instance : Describe Scripted where
  describe e := if e.hidden then "opaque: " ++ e.text else e.text

/-- Errors that the provider did not make are retried or not as a whole, and have no code. -/
def scriptedProvider (name : String) (retryForeign : Bool) : Provider Scripted where
  name := name
  retryable
    | .native e => e.retryable
    | .fault _ => retryForeign
  code
    | .native e => e.code
    | .fault _ => .unknown

/-- The native error inside a fault, whether it is shown or not. -/
def nativeText? (f : Fault Scripted) : Option String := f.cause?.map (·.text)

/-- What a call to the provider does; `β` is what it can bring. -/
inductive Cue (β : Type)
  | gives (value : β)
  | fails (trouble : Trouble Scripted)
  | panics
  /-- Waits until it is told what to do, whatever its token does. -/
  | waits
  /-- Waits for its token. -/
  | hangs
  | later (ms : Nat) (cue : Cue β)

/-- A call to the provider that has not ended. -/
inductive Engaged (β : Type)
  | due (result : Except (Trouble Scripted) β)
  | collapsing
  | waiting
  /-- `told` says that the end of the wait is reported. -/
  | hanging (told : Bool)
  | resting (time : Nat) (cue : Cue β)

namespace Engaged

variable {β : Type}

def ofCue (now : Nat) : Cue β → Engaged β
  | .gives v => due (.ok v)
  | .fails t => due (.error t)
  | .panics => collapsing
  | .waits => waiting
  | .hangs => hanging true
  | .later ms c => resting (waitEnd now ms) c

/-- What comes of the call now: an end, or a cue's next part. `canceled` tells whether its token has
fired. -/
inductive Turn (β : Type)
  | ends (result : Except (Trouble Scripted) β) (told : Bool)
  | collapses
  | goesOn (next : Engaged β)

def turn? (now : Nat) (canceled : Bool) : Engaged β → Option (Turn β)
  | due r => some (.ends r false)
  | collapsing => some .collapses
  | waiting => none
  | hanging told => if canceled then some (.ends (.error (.fault .canceled)) told) else none
  | resting t c => if t ≤ now then some (.goesOn (ofCue now c)) else none

/-- The moment at which the clock moves the call on. -/
def time? : Engaged β → Option Nat
  | resting t _ => some t
  | _ => none

def isWaiting : Engaged β → Bool
  | waiting => true
  | _ => false

end Engaged

/-- The earliest of the moments that are set. -/
def earliest (times : List (Option Nat)) : Option Nat :=
  times.foldl (fun best t => match best, t with
    | some a, some b => some (Nat.min a b)
    | none, t => t
    | a, none => a) none

end Courier.Rehearsal
