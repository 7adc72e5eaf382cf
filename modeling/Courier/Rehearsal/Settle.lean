import Courier.Duration

/-!
The clock of rehearsals, in whole milliseconds. Between its movements a machine runs until nothing
more can happen.
-/

namespace Courier.Rehearsal

/-- No wait lasts longer than thirty years of 365 days. -/
def longestWait : Nat := 30 * 365 * 86400000

/-- The moment at which a wait is over. -/
def waitEnd (now ms : Nat) : Nat := now + Nat.min ms longestWait

/-- A pause ends at the first moment that is not too early. -/
def pauseEnd (now : Nat) (length : Duration) : Nat := waitEnd now length.ceilMillis

/-- Applies `next` while it gives something, at most `bound` times. -/
def settle {σ : Type} (next : σ → Option σ) : Nat → σ → σ
  | 0, s => s
  | bound + 1, s =>
    match next s with
    | none => s
    | some t => settle next bound t

/-- More moments than any rehearsal of the given size has between two movements of the clock. -/
def moments (size : Nat) : Nat := 1000 * (size + 10)

/-- Rows list what happened by the number of the call. -/
def byNumber {α : Type} (xs : List (Nat × α)) : List (Nat × α) :=
  xs.mergeSort fun a b => a.1 ≤ b.1

end Courier.Rehearsal
