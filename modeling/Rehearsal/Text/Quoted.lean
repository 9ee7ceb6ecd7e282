import Rehearsal.Text.Unprintable

/-!
# Quoted text

Messages show a text that came from outside between double quotes, with a backslash before a quote
or a backslash, short escapes for the usual control characters, and the code point in hexadecimal
for every other character that has no shape of its own.
-/

namespace Rehearsal

namespace Text

/-- The digits of a number in hexadecimal, in small letters. -/
def hexDigits (n : Nat) : List Char := Nat.toDigits 16 n

/-- A character as it stands inside quotes. -/
def escaped (c : Char) : List Char :=
  match c with
  | '\x00' => ['\\', '0']
  | '\t' => ['\\', 't']
  | '\n' => ['\\', 'n']
  | '\r' => ['\\', 'r']
  | '"' => ['\\', '"']
  | '\\' => ['\\', '\\']
  | c =>
    if unprintable.contains c then "\\u\x7b".toList ++ hexDigits c.toNat ++ "\x7d".toList
    else [c]

/-- The text between quotes. -/
def quoted (s : String) : String :=
  String.ofList ('"' :: s.toList.flatMap escaped ++ ['"'])

end Text

end Rehearsal
