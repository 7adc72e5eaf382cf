/-!
Names beyond ASCII in ASCII letters: the ASCII characters first, then for every other one, in the
order of their values, how far to move on. Reading refuses what cannot have been written.
-/

namespace Courier.Url.Punycode

def digit (n : Nat) : Char := if n < 26 then Char.ofNat (97 + n) else Char.ofNat (22 + n)

/-- The share of a number that one place of it holds, which depends on how large deltas have been. -/
def threshold (bias k : Nat) : Nat := Nat.max 1 (Nat.min 26 (k - bias))

/-- A number of variable length, lowest place first. -/
def variableLength (bias : Nat) : Nat → Nat → Nat → List Char
  | 0, _, _ => []
  | bound + 1, k, q =>
    let t := threshold bias k
    if q < t then [digit q]
    else digit (t + (q - t) % (36 - t)) :: variableLength bias bound (k + 36) ((q - t) / (36 - t))

def shrunk : Nat → Nat → Nat → Nat × Nat
  | 0, k, d => (k, d)
  | bound + 1, k, d => if 455 < d then shrunk bound (k + 36) (d / 35) else (k, d)

def adapt (delta points : Nat) (first : Bool) : Nat :=
  let d := if first then delta / 700 else delta / 2
  let (k, d) := shrunk 32 0 (d + d / points)
  k + 36 * d / (d + 38)

structure State where
  /-- The value up to which all characters are written. -/
  value : Nat
  delta : Nat
  bias : Nat
  written : Nat
  output : List Char

/-- One character of the name, while those of value `n` are written. -/
def visit (basic n : Nat) (s : State) (c : Nat) : State :=
  if c < n then { s with delta := s.delta + 1 }
  else if c = n then
    { s with
      output := s.output ++ variableLength s.bias 32 36 s.delta
      bias := adapt s.delta (s.written + 1) (s.written = basic)
      delta := 0
      written := s.written + 1 }
  else s

/-- Writes the characters of the least value that is not written yet. -/
def round (name : List Nat) (basic : Nat) (s : State) : State :=
  match (name.filter (s.value ≤ ·)).min? with
  | none => s
  | some n =>
    let s := { s with delta := s.delta + (n - s.value) * (s.written + 1) }
    let s := name.foldl (visit basic n) s
    { s with value := n + 1, delta := s.delta + 1 }

def encode (name : List Char) : List Char :=
  let basic := name.filter fun c => c.toNat < 128
  let start : State :=
    ⟨128, 0, 72, basic.length, if basic.isEmpty then [] else basic ++ ['-']⟩
  (Nat.repeat (round (name.map Char.toNat) basic.length) name.length start).output

/-! ### Reading -/

def digit? (c : Char) : Option Nat :=
  if 'a' ≤ c && c ≤ 'z' then some (c.toNat - 97)
  else if c.isDigit then some (c.toNat - 22)
  else none

/-- Numbers have 32 bits. -/
def largest : Nat := 4294967295

structure Reading where
  /-- The character that came last, and the place after it. -/
  value : Nat
  place : Nat
  bias : Nat
  output : List Char
  /-- The number that is being read: its places so far, and the weight of the next one. -/
  delta : Nat
  k : Nat
  weight : Nat

/-- Moves on by a number that is complete, and puts a character there. -/
def Reading.insert? (r : Reading) : Option Reading :=
  let points := r.output.length + 1
  let value := r.value + (r.place + r.delta) / points
  let place := (r.place + r.delta) % points
  if value.isValidChar then
    some ⟨value, place + 1, adapt r.delta points (r.place = 0),
      r.output.insertIdx place (Char.ofNat value), 0, 36, 1⟩
  else none

def Reading.step? (r : Reading) (c : Char) : Option Reading := do
  let d ← digit? c
  let t := threshold r.bias r.k
  let delta := r.delta + d * r.weight
  let weight := r.weight * (36 - t)
  if largest < r.place + delta then none
  else if d < t then ({ r with delta := delta } : Reading).insert?
  else if largest < weight then none
  else some { r with delta := delta, k := r.k + 36, weight := weight }

/-- The name that small ASCII letters stand for. The ASCII characters of the name end at the last
hyphen. -/
def decode? (code : List Char) : Option (List Char) := do
  let numbers := (code.reverse.takeWhile (· ≠ '-')).reverse
  let basic := code.take (code.length - numbers.length - 1)
  let numbers := if basic.isEmpty then code else numbers
  let r ← numbers.foldlM Reading.step? ⟨128, 0, 72, basic, 0, 36, 1⟩
  if r.k = 36 then some r.output else none

end Courier.Url.Punycode
