import Courier.Binary64

/-!
Lengths of time in whole nanoseconds, as many as fit a 64-bit count of seconds. Main statement of
the conversion to seconds and back: each direction rounds to the nearest value, ties to even.
-/

namespace Courier

namespace Duration

def nanosPerMilli : Nat := 1000000

def nanosPerSec : Nat := 1000000000

/-- The first count of nanoseconds that is too long. -/
def limit : Nat := UInt64.size * nanosPerSec

end Duration

structure Duration where
  nanos : Nat
  lt_limit : nanos < Duration.limit
  deriving DecidableEq

namespace Duration

def ofNanos? (n : Nat) : Option Duration :=
  if h : n < limit then some ⟨n, h⟩ else none

def zero : Duration := ⟨0, by decide⟩

theorem millis_lt_limit (n : UInt64) : n.toNat * nanosPerMilli < limit := by
  have h : n.toNat < UInt64.size := n.toNat_lt
  simp only [limit, nanosPerSec, nanosPerMilli]
  omega

theorem secs_lt_limit (n : UInt32) : n.toNat * nanosPerSec < limit := by
  have h : n.toNat < UInt64.size := Nat.lt_trans n.toNat_lt (by decide)
  simp only [limit, nanosPerSec]
  omega

def ofMillis (n : UInt64) : Duration := ⟨n.toNat * nanosPerMilli, millis_lt_limit n⟩

def ofSecs (n : UInt32) : Duration := ⟨n.toNat * nanosPerSec, secs_lt_limit n⟩

/-- Whole seconds and the nanoseconds beyond them are converted apart and then added. -/
def toSecs (d : Duration) : Binary64 :=
  Binary64.ofNat (d.nanos / nanosPerSec) +
    Binary64.ofNat (d.nanos % nanosPerSec) / Binary64.ofNat nanosPerSec

/-- There is no duration for a negative number of seconds, for one that is not a number, and from
2^64 seconds on. -/
def ofSecs? : Binary64 → Option Duration
  | .nan => none
  | .infinite _ => none
  | .finite s m =>
    if s && decide (m.units ≠ 0) then none
    else ofNanos? (divNearest (m.units * nanosPerSec) unitsPerOne)

/-- The first whole millisecond at or after the end. -/
def ceilMillis (d : Duration) : Nat := (d.nanos + (nanosPerMilli - 1)) / nanosPerMilli

end Duration

end Courier
