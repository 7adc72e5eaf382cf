import Courier.Text.Utf8

/-!
Percent encoding: which characters a component of a URL writes as octets in hexadecimal, and the way
back. Controls and everything beyond ASCII are encoded in every component.
-/

namespace Courier.Url

def upperHex (n : Nat) : Char := if n < 10 then Char.ofNat (48 + n) else Char.ofNat (55 + n)

def octetText (b : UInt8) : List Char := ['%', upperHex (b.toNat / 16), upperHex (b.toNat % 16)]

/-- Encodes the characters of a text that a component does not keep. -/
def encode (escaped : Char → Bool) (cs : List Char) : List Char :=
  cs.flatMap fun c =>
    if c < ' ' || '\x7f' ≤ c || escaped c then c.toString.toUTF8.toList.flatMap octetText else [c]

def inFragment (c : Char) : Bool := c = ' ' || c = '"' || c = '<' || c = '>' || c = '\x60'

def inPath (c : Char) : Bool := inFragment c || c = '#' || c = '?' || c = '\x7b' || c = '\x7d'

def inUserInfo (c : Char) : Bool := inPath c || "/:;=@[\\]^|".toList.contains c

def inQuery (c : Char) : Bool := c = ' ' || c = '"' || c = '#' || c = '<' || c = '>'

/-- Web schemes encode the single quote in a query too. -/
def inWebQuery (c : Char) : Bool := inQuery c || c = '\x27'

def hexDigit? (c : Char) : Option Nat :=
  if c.isDigit then some (c.toNat - 48)
  else if 'a' ≤ c ∧ c ≤ 'f' then some (c.toNat - 87)
  else if 'A' ≤ c ∧ c ≤ 'F' then some (c.toNat - 55)
  else none

/-- The octets of a text, with every percent sign and two hexadecimal digits as one octet. -/
def decode : List Char → List UInt8
  | [] => []
  | '%' :: a :: b :: rest =>
    match hexDigit? a, hexDigit? b with
    | some x, some y => (16 * x + y).toUInt8 :: decode rest
    | _, _ => 37 :: decode (a :: b :: rest)
  | c :: rest => c.toString.toUTF8.toList ++ decode rest

/-- The part before the first such character, and the part after it. -/
def cut (mark : Char) (cs : List Char) : List Char × List Char :=
  (cs.takeWhile (· ≠ mark), (cs.dropWhile (· ≠ mark)).drop 1)

/-- The parts between such characters; without one, the whole. -/
def pieces (isMark : Char → Bool) : List Char → List (List Char)
  | [] => [[]]
  | c :: rest =>
    match pieces isMark rest with
    | [] => [[c]]
    | p :: ps => if isMark c then [] :: p :: ps else (c :: p) :: ps

/-- A form field's text: plus signs are blanks. -/
def formText (cs : List Char) : String :=
  Text.ofOctets (decode (cs.map fun c => if c = '+' then ' ' else c))

/-- The fields of a query, in order. An empty part between two marks is none. -/
def formPairs (query : List Char) : List (String × String) :=
  ((pieces (· = '&') query).filter fun p => !p.isEmpty).map fun p =>
    (formText (cut '=' p).1, formText (cut '=' p).2)

end Courier.Url
