/-!
# Bytes as text

Bytes are read as UTF-8. `decodeLossy` never fails: the longest beginning of a character that is
broken off becomes one replacement character, and reading goes on at the byte that broke it.
`decode?` accepts only bytes without such a break.

The lead byte fixes how many bytes follow and, where a shorter form or a surrogate would be
possible, narrows the range of the second one; every later byte is a plain continuation byte.
-/

namespace Rehearsal

/-- A sequence of bytes. -/
abbrev Bytes := List UInt8

namespace Text

/-- What a lead byte announces: how many bytes follow it, the range of the first of them, and the
bits it contributes. Bytes that can lead no character announce nothing. -/
def announced (b : UInt8) : Option (Nat × (Nat × Nat) × Nat) :=
  let n := b.toNat
  if n < 0x80 then some (0, (0, 0), n)
  else if n < 0xC2 then none
  else if n < 0xE0 then some (1, (0x80, 0xBF), n - 0xC0)
  else if n = 0xE0 then some (2, (0xA0, 0xBF), 0)
  else if n = 0xED then some (2, (0x80, 0x9F), 0xD)
  else if n < 0xF0 then some (2, (0x80, 0xBF), n - 0xE0)
  else if n = 0xF0 then some (3, (0x90, 0xBF), 0)
  else if n < 0xF4 then some (3, (0x80, 0xBF), n - 0xF0)
  else if n = 0xF4 then some (3, (0x80, 0x8F), 4)
  else none

/-- Reads `more` continuation bytes, the first of them in the given range. Gives the code point, or
nothing if a byte does not fit, and how many bytes did. -/
def continued (bits : Nat) : Nat → Nat × Nat → Bytes → Option Nat × Nat
  | 0, _, _ => (some bits, 0)
  | _ + 1, _, [] => (none, 0)
  | more + 1, range, b :: bs =>
    if range.1 ≤ b.toNat ∧ b.toNat ≤ range.2 then
      let (value, used) := continued (64 * bits + b.toNat % 64) more (0x80, 0xBF) bs
      (value, used + 1)
    else (none, 0)

/-- One character after its lead byte: the character, if the bytes form one, and how many of the
bytes after the lead byte belong to it or to its broken beginning. -/
def decodeOne (b : UInt8) (bs : Bytes) : Option Char × Nat :=
  match announced b with
  | none => (none, 0)
  | some (more, range, bits) =>
    let (value, used) := continued bits more range bs
    (value.map Char.ofNat, used)

/-- The characters of a byte sequence, nothing standing for a broken one. -/
def decodeEach : Bytes → List (Option Char)
  | [] => []
  | b :: bs =>
    let (c, used) := decodeOne b bs
    c :: decodeEach (bs.drop used)
termination_by bs => bs.length
decreasing_by rw [List.length_drop, List.length_cons]; omega

/-- The text of the bytes, each broken character shown as one replacement character. -/
def decodeLossy (bs : Bytes) : String :=
  String.ofList ((decodeEach bs).map (·.getD '\uFFFD'))

/-- The text of the bytes, if all of them form characters. -/
def decode? (bs : Bytes) : Option String :=
  ((decodeEach bs).mapM id).map String.ofList

/-- The bytes of a text. -/
def encode (s : String) : Bytes := s.toList.flatMap String.utf8EncodeChar

/-- How many bytes a text takes. -/
def byteLength (s : String) : Nat := (encode s).length

end Text

end Rehearsal
