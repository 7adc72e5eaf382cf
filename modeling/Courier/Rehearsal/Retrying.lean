import Courier.Rehearsal.Settle
import Courier.Retry.Call

/-!
A retried call in virtual time. Each attempt follows a script, and the token fires at a set moment
or with an attempt.
-/

namespace Courier.Rehearsal

open Retry

/-- A scripted error and whether it may be retried. -/
structure Failing where
  text : String
  retryable : Bool
  deriving DecidableEq

/-- One scripted attempt. -/
structure Take (ρ : Type) where
  result : Except Failing ρ
  /-- How long it runs; it cannot be interrupted. -/
  takes : Nat
  /-- It fires the token before it ends. -/
  cancels : Bool

structure Retrying (ρ : Type) where
  call : Call ρ Failing
  now : Nat
  startedAt : List Nat
  canceled : Bool

namespace Retrying

variable {ρ : Type}

/-- Has the token fired by the time `now`? -/
def firedBy (cancelAt : Option Nat) (now : Nat) : Bool :=
  match cancelAt with
  | none => false
  | some t => t ≤ now

def advance (p : Policy) (s : Retrying ρ) (e : Event ρ Failing) : Retrying ρ :=
  { s with call := (s.call.step p Failing.retryable e).getD s.call }

/-- The end of a pause that began now. A token that fires before the end cuts it. -/
def afterPause (p : Policy) (cancelAt : Option Nat) (s : Retrying ρ) (d : Duration) : Retrying ρ :=
  let finish := pauseEnd s.now d
  let cutAt := match cancelAt with
    | some t => if s.now ≤ t ∧ t < finish then some t else none
    | none => none
  match cutAt with
  | some t => { s.advance p .cut with now := t, canceled := true }
  | none => { s.advance p .resumed with now := finish, startedAt := s.startedAt ++ [finish] }

/-- Every attempt takes the next element of the script; `spare` is the answer when none is left. -/
def follow (p : Policy) (cancelAt : Option Nat) (spare : ρ) (s : Retrying ρ) : List (Take ρ) →
    Retrying ρ
  | [] => s.advance p (.returned (.ok spare) s.canceled 0)
  | t :: rest =>
    let now := waitEnd s.now t.takes
    let canceled := s.canceled || t.cancels || firedBy cancelAt now
    let ended := { s.advance p (.returned t.result canceled 0) with now := now, canceled := canceled }
    match ended.call.phase with
    | .pausing d _ =>
      let next := ended.afterPause p cancelAt d
      match next.call.phase with
      | .attempting => next.follow p cancelAt spare rest
      | _ => next
    | _ => ended

/-- Follows the script. The token fires `cancelIn` milliseconds from now. -/
def run (p : Policy) (cancelIn : Option Nat) (spare : ρ) (s : Retrying ρ) (script : List (Take ρ)) :
    Retrying ρ :=
  s.follow p (cancelIn.map (waitEnd s.now)) spare script

def start (canceled : Bool) : Retrying ρ := ⟨.start, 0, [0], canceled⟩

end Retrying

end Courier.Rehearsal
