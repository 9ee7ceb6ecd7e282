/-!
# Sets of characters as ranges

Character classes are published as ranges of code points. `Ranges` keeps them in that form, and
`Ranges.ofText` reads the usual written form, `9-D 20 85`: hexadecimal ends, both included, one
number for a range of one.
-/

namespace Rehearsal

namespace Text

/-- A set of code points, as ranges with both ends included. -/
structure Ranges where
  /-- The first and the last code point of each range. -/
  bounds : List (Nat × Nat)
  deriving Repr

namespace Ranges

/-- Is the character in one of the ranges? -/
def contains (rs : Ranges) (c : Char) : Bool :=
  rs.bounds.any fun r => r.1 ≤ c.toNat && c.toNat ≤ r.2

/-- The value of a hexadecimal digit written with capital letters. -/
def hexValue (c : Char) : Nat :=
  if c.isDigit then c.toNat - '0'.toNat else c.toNat - 'A'.toNat + 10

/-- The number written in hexadecimal. -/
def hexNumber (cs : List Char) : Nat := cs.foldl (fun n c => 16 * n + hexValue c) 0

/-- One written range: `9-D`, or `20` for a range of one. -/
def ofWritten (cs : List Char) : Nat × Nat :=
  let first := cs.takeWhile (· != '-')
  match cs.dropWhile (· != '-') with
  | [] => (hexNumber first, hexNumber first)
  | _ :: last => (hexNumber first, hexNumber last)

/-- The words of a text, which blanks and line ends separate. -/
def words (s : String) : List (List Char) :=
  (s.toList.splitOnP fun c => c == ' ' || c == '\n').filter fun w => !w.isEmpty

/-- Reads ranges that are separated by blanks. -/
def ofText (s : String) : Ranges := ⟨(words s).map ofWritten⟩

end Ranges

end Text

end Rehearsal
