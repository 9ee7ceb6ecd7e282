import Rehearsal.Text.CompositionData

/-!
# Canonical composition

One text can be spelled with composed characters or with their parts. `compose` gives the canonical
composed spelling: every character is taken apart, marks on one base are put into the order of
their classes, and then bases take up the marks that they compose with, unless a mark of the same
or a higher class stands between.

The syllables of Hangul are composed of two or three letters by arithmetic.
-/

namespace Rehearsal

namespace Text

/-- The combining class of a character; zero if it is a base. -/
def combiningClass (c : Char) : Nat :=
  if c.toNat < 0x300 then 0
  else match combiningClasses.find? fun k => k.2.contains c with
    | some (k, _) => k
    | none => 0

/-! ### Hangul -/

/-- The first syllable, and the letters before the first leading, vowel and trailing one. -/
def hangul : Nat × Nat × Nat × Nat := (0xAC00, 0x1100, 0x1161, 0x11A7)

/-- The letters of a syllable. -/
def syllableLetters (c : Char) : Option (List Char) :=
  let (syllable, lead, vowel, trail) := hangul
  if syllable ≤ c.toNat ∧ c.toNat < syllable + 11172 then
    let i := c.toNat - syllable
    let letters := [Char.ofNat (lead + i / 588), Char.ofNat (vowel + i % 588 / 28)]
    some (if i % 28 = 0 then letters else letters ++ [Char.ofNat (trail + i % 28)])
  else none

/-- The syllable of a beginning and a letter. -/
def syllable? (a b : Char) : Option Char :=
  let (syllable, lead, vowel, trail) := hangul
  let i := a.toNat
  let j := b.toNat
  if lead ≤ i ∧ i < lead + 19 ∧ vowel ≤ j ∧ j < vowel + 21 then
    some (Char.ofNat (syllable + 588 * (i - lead) + 28 * (j - vowel)))
  else if syllable ≤ i ∧ i < syllable + 11172 ∧ (i - syllable) % 28 = 0 ∧ trail < j ∧
      j < trail + 28 then
    some (Char.ofNat (i + (j - trail)))
  else none

/-! ### Taking apart -/

/-- The parts of a character. -/
def parts (c : Char) : List Char :=
  if c.toNat < 0xC0 then [c]
  else match syllableLetters c with
    | some letters => letters
    | none => (decompositions.image? c).getD [c]

/-- Puts a character with its class after others, which stand in reverse: a mark goes before the
marks of higher classes at the end. -/
def insertMark (new : Char × Nat) : List (Char × Nat) → List (Char × Nat)
  | [] => [new]
  | last :: rest =>
    if new.2 ≠ 0 ∧ new.2 < last.2 then last :: insertMark new rest else new :: last :: rest

/-- The parts of a text in canonical order, with their classes. -/
def decompose (cs : List Char) : List (Char × Nat) :=
  ((cs.flatMap parts).foldl (fun done c => insertMark (c, combiningClass c) done) []).reverse

/-! ### Putting together -/

/-- The character that two compose to. -/
def pair? (a b : Char) : Option Char :=
  match syllable? a b with
  | some c => some c
  | none => (compositions.lookup (a.toNat, b.toNat)).map Char.ofNat

/-- Puts characters together; `base` is the last base and `marks`, in reverse, what follows it and
was not taken up. -/
def recompose (base : Char) (marks : List (Char × Nat)) : List (Char × Nat) → List Char
  | [] => base :: marks.reverse.map (·.1)
  | (c, k) :: rest =>
    let blocked := match marks with
      | [] => false
      | (_, last) :: _ => k ≤ last
    match if blocked then none else pair? base c with
    | some composed => recompose composed marks rest
    | none =>
      if k = 0 then base :: marks.reverse.map (·.1) ++ recompose c [] rest
      else recompose base ((c, k) :: marks) rest

/-- Puts characters together from the first base on. -/
def recomposeAll : List (Char × Nat) → List Char
  | [] => []
  | (c, k) :: rest => if k = 0 then recompose c [] rest else c :: recomposeAll rest

/-- The canonical composed spelling of a text. -/
def compose (cs : List Char) : List Char := recomposeAll (decompose cs)

end Text

end Rehearsal
