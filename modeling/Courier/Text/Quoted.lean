import Courier.Text.Unprintable

/-!
Quoted text: how a name stands inside an error message or a diagnostic. Double quotes surround it,
and a character that would not show is written as an escape.
-/

namespace Courier.Text

/-- The code point in hexadecimal, lower case, without leading zeros. -/
def codeEscape (c : Char) : List Char :=
  '\\' :: 'u' :: '\x7b' :: (Nat.toDigits 16 c.toNat ++ ['\x7d'])

/-- Single quotes stand for themselves. A combining mark is escaped wherever it stands. -/
def escape (c : Char) : List Char :=
  if c = '"' then ['\\', '"']
  else if c = '\\' then ['\\', '\\']
  else if c = '\n' then ['\\', 'n']
  else if c = '\r' then ['\\', 'r']
  else if c = '\t' then ['\\', 't']
  else if c = Char.ofNat 0 then ['\\', '0']
  else if isUnprintable c then codeEscape c
  else [c]

def quoted (s : String) : String :=
  String.ofList ('"' :: (s.toList.flatMap escape ++ ['"']))

end Courier.Text
