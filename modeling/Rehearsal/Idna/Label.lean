import Rehearsal.Idna.ClassData
import Rehearsal.Idna.MappingData
import Rehearsal.Text.Composition

/-!
# Rules for labels

A label of an internationalized name may hold only characters that stand for themselves, composed
canonically, and must not begin with a mark. An invisible joiner is allowed only where it changes
how letters join. In a name that is written from right to left, at least in part, every label must
have a direction that does not depend on its neighbours.
-/

namespace Rehearsal

namespace Idna

/-! ### Characters -/

/-- Does the character stand for itself? Capital letters do not. -/
def isKept (c : Char) : Bool :=
  if c.toNat < 128 then !('A' ≤ c && c ≤ 'Z') else keptChars.contains c

/-- What a character becomes before a name is encoded, if it may occur. -/
def mapChar (c : Char) : Option (List Char) :=
  if 'A' ≤ c ∧ c ≤ 'Z' then some [Char.ofNat (c.toNat + 32)]
  else if isKept c then some [c]
  else if droppedChars.contains c then some []
  else mappedChars.image? c

/-- Does the text consist of characters that stand for themselves, composed canonically? -/
def isStable (cs : List Char) : Bool := cs.all isKept && Text.compose cs == cs

/-! ### Joiners -/

/-- Does a letter stand at the beginning that joins to what stands before it in the list? -/
def joins (one : Text.Ranges) (cs : List Char) : Bool :=
  match cs.dropWhile transparentJoining.contains with
  | [] => false
  | c :: _ => one.contains c || dualJoining.contains c

/-- Are the joiners of a label allowed? `before` is what precedes, in reverse. -/
def joinersAllowed (before : List Char) : List Char → Bool
  | [] => true
  | c :: cs =>
    let afterVirama := match before with
      | [] => false
      | b :: _ => Text.combiningClass b == 9
    let allowed :=
      if c = '\u200C' then afterVirama || (joins leftJoining before && joins rightJoining cs)
      else if c = '\u200D' then afterVirama
      else true
    allowed && joinersAllowed (c :: before) cs

/-! ### Direction -/

/-- How a character takes part in the direction of a label. -/
inductive Direction where
  /-- A letter written from left to right. -/
  | left
  /-- A letter written from right to left. -/
  | right
  /-- An Arabic number. -/
  | arabicNumber
  /-- A European number. -/
  | europeanNumber
  /-- A mark. -/
  | mark
  /-- Anything that has no direction of its own. -/
  | neutral
  deriving DecidableEq, Repr

/-- The direction of a character. -/
def direction (c : Char) : Direction :=
  if c.toNat < 128 then
    if c.isAlpha then .left else if c.isDigit then .europeanNumber else .neutral
  else if rightToLeft.contains c || arabicLetters.contains c then .right
  else if arabicNumbers.contains c then .arabicNumber
  else if europeanNumbers.contains c then .europeanNumber
  else if nonspacingMarks.contains c then .mark
  else if neutrals.contains c || europeanSeparators.contains c || commonSeparators.contains c ||
      europeanTerminators.contains c || boundaryNeutrals.contains c then .neutral
  else .left

/-- Is the text written from right to left, at least in part? -/
def isRightToLeft (cs : List Char) : Bool :=
  cs.any fun c => direction c == .right || direction c == .arabicNumber

/-- Has the label a direction of its own? -/
def hasDirection (label : List Char) : Bool :=
  let ds := label.map direction
  let final := (ds.reverse.dropWhile (· == .mark)).head?
  match ds with
  | [] => true
  | .right :: _ =>
    ds.all (· != .left) && final != some .neutral &&
      !(ds.contains .europeanNumber && ds.contains .arabicNumber)
  | .left :: _ =>
    ds.all (fun d => d != .right && d != .arabicNumber) &&
      (final == some .left || final == some .europeanNumber)
  | _ => false

/-! ### Labels -/

/-- Is a label that holds other characters than ASCII allowed? -/
def isAllowed (label : List Char) : Bool :=
  match label with
  | [] => true
  | c :: _ => !marks.contains c && joinersAllowed [] label

end Idna

end Rehearsal
