import Rehearsal.Text.Decimal
import Rehearsal.Text.Utf8

/-!
# Escapes in URLs

A character that must not stand in some part of a URL is written as its bytes, each after a percent
sign in hexadecimal. Which characters those are depends on the part.
-/

namespace Rehearsal

namespace Url

/-- A digit of an escape. -/
def escapeDigit (n : Nat) : Char := ((Nat.toDigits 16 n).headD '0').toUpper

/-- A byte as an escape. -/
def escapeByte (b : UInt8) : List Char :=
  ['%', escapeDigit (b.toNat / 16), escapeDigit (b.toNat % 16)]

/-- Is the character a control character or beyond ASCII? Such a character stands in no part. -/
def isForeign (c : Char) : Bool := c.toNat < 0x20 || 0x7E < c.toNat

/-- Characters that are escaped in a fragment. -/
def escapedInFragment (c : Char) : Bool :=
  isForeign c || [' ', '"', '<', '>', '\x60'].contains c

/-- Characters that are escaped in a query. -/
def escapedInQuery (special : Bool) (c : Char) : Bool :=
  isForeign c || [' ', '"', '#', '<', '>'].contains c || (special && c == '\'')

/-- Characters that are escaped in a path. -/
def escapedInPath (c : Char) : Bool :=
  escapedInFragment c || ['#', '?', '\x7b', '\x7d'].contains c

/-- Characters that are escaped in a user's name and password. -/
def escapedInCredentials (c : Char) : Bool :=
  escapedInPath c || ['/', ':', ';', '=', '@', '[', '\\', ']', '^', '|'].contains c

/-- The text with the given characters escaped. -/
def escape (escaped : Char → Bool) (cs : List Char) : List Char :=
  cs.flatMap fun c => if escaped c then (String.utf8EncodeChar c).flatMap escapeByte else [c]

/-- The byte that two hexadecimal digits stand for. -/
def escapedByte? (x y : UInt8) : Option UInt8 :=
  (Text.readHex [Char.ofNat x.toNat, Char.ofNat y.toNat]).map UInt8.ofNat

/-- The bytes of a text in which escapes are resolved. A percent sign that begins no escape stands
for itself. -/
def unescape : Bytes → Bytes
  | b :: x :: y :: rest =>
    if b = '%'.toUInt8 then
      match escapedByte? x y with
      | some e => e :: unescape rest
      | none => b :: unescape (x :: y :: rest)
    else b :: unescape (x :: y :: rest)
  | rest => rest

end Url

end Rehearsal
