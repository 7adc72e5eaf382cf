/-!
UTF-8 octets as text. Octets that form no character are read too: each longest start of a character
that breaks off, and each octet that can start none, becomes one replacement character.
-/

namespace Courier.Text

/-- The rest that a character owes after some of its octets: how many are missing, the range of the
next one, and the value so far. -/
structure Owed where
  missing : Nat
  low : Nat
  high : Nat
  value : Nat
  deriving DecidableEq

def replacement : Char := '\ufffd'

/-- What an octet starts: a character of one octet, the owed rest of a longer one, or nothing. -/
def startOctet (b : Nat) : List Char × Option Owed :=
  if b < 0x80 then ([Char.ofNat b], none)
  else if b < 0xC2 then ([replacement], none)
  else if b < 0xE0 then ([], some ⟨1, 0x80, 0xBF, b - 0xC0⟩)
  else if b = 0xE0 then ([], some ⟨2, 0xA0, 0xBF, b - 0xE0⟩)
  else if b = 0xED then ([], some ⟨2, 0x80, 0x9F, b - 0xE0⟩)
  else if b < 0xF0 then ([], some ⟨2, 0x80, 0xBF, b - 0xE0⟩)
  else if b = 0xF0 then ([], some ⟨3, 0x90, 0xBF, b - 0xF0⟩)
  else if b < 0xF4 then ([], some ⟨3, 0x80, 0xBF, b - 0xF0⟩)
  else if b = 0xF4 then ([], some ⟨3, 0x80, 0x8F, b - 0xF0⟩)
  else ([replacement], none)

/-- One octet: the characters that are complete with it, and what is owed then. -/
def nextOctet (owed : Option Owed) (b : Nat) : List Char × Option Owed :=
  match owed with
  | none => startOctet b
  | some o =>
    if o.low ≤ b ∧ b ≤ o.high then
      let value := o.value * 64 + (b - 0x80)
      if o.missing ≤ 1 then ([Char.ofNat value], none)
      else ([], some ⟨o.missing - 1, 0x80, 0xBF, value⟩)
    else
      let (cs, owed) := startOctet b
      (replacement :: cs, owed)

def charactersFrom (owed : Option Owed) : List UInt8 → List Char
  | [] => if owed.isSome then [replacement] else []
  | b :: rest => (nextOctet owed b.toNat).1 ++ charactersFrom (nextOctet owed b.toNat).2 rest

def ofOctets (bs : List UInt8) : String := String.ofList (charactersFrom none bs)

end Courier.Text
