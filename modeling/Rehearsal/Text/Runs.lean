import Rehearsal.Text.Ranges

/-!
# Maps of characters as runs

A map from characters to texts is published as a table. `Runs` keeps it as runs of characters whose
images lie at one distance from them, and `Runs.ofText` reads the written form: `41-5A=61` maps `A`
to `a` and so on to `Z`, `100-12E/2=101` maps every second character of the range, and `DF=73.73`
maps one character to two.
-/

namespace Rehearsal

namespace Text

/-- A run of characters with their images. -/
structure Run where
  /-- The first character. -/
  first : Nat
  /-- The last character. -/
  last : Nat
  /-- The distance from one character of the run to the next. -/
  step : Nat
  /-- The image of the first character. -/
  image : List Nat
  deriving Repr

namespace Run

/-- The image of a code point, if it belongs to the run. -/
def image? (run : Run) (n : Nat) : Option (List Nat) :=
  if run.first ≤ n ∧ n ≤ run.last ∧ (n - run.first) % run.step = 0 then
    match run.image with
    | [one] => some [one + (n - run.first)]
    | image => some image
  else none

/-- One written run. -/
def ofWritten (cs : List Char) : Run :=
  let front := cs.takeWhile (· != '=')
  let image := ((cs.drop (front.length + 1)).splitOn '.').map Ranges.hexNumber
  let range := front.takeWhile (· != '/')
  let step := match front.drop (range.length + 1) with
    | [] => 1
    | step => Ranges.hexNumber step
  let bounds := Ranges.ofWritten range
  ⟨bounds.1, bounds.2, step, image⟩

end Run

/-- A map from characters to texts. -/
structure Runs where
  /-- The runs, none of which overlap. -/
  runs : List Run
  deriving Repr

namespace Runs

/-- Reads runs that are separated by blanks. -/
def ofText (s : String) : Runs := ⟨(Ranges.words s).map Run.ofWritten⟩

/-- The image of a character, if it has one. -/
def image? (rs : Runs) (c : Char) : Option (List Char) :=
  (rs.runs.findSome? fun run => run.image? c.toNat).map fun image => image.map Char.ofNat

end Runs

end Text

end Rehearsal
