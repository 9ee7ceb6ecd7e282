import Rehearsal.Text.CaseData

/-!
# Lowercase

`lower` is the full Unicode lowercase of a text. Two rules go beyond a table of characters:

* a capital sigma that ends a word becomes `ς`, any other becomes `σ`;
* `İ` becomes two characters, `i` and a combining dot.

`asciiLower` changes the letters A to Z only, which is the folding of protocol keywords.
-/

namespace Rehearsal

namespace Text

/-- The lowercase of a letter from A to Z; any other character is kept. -/
def asciiLower (c : Char) : Char :=
  if 'A' ≤ c ∧ c ≤ 'Z' then Char.ofNat (c.toNat + 32) else c

/-- The lowercase of one character, out of context. -/
def lowerChar (c : Char) : List Char :=
  if c.toNat < 128 then [asciiLower c]
  else if c = 'İ' then ['i', '\u0307']
  else (lowerRuns.image? c).getD [c]

/-- Is the first character that is not ignorable for case a cased one? -/
def startsCased (cs : List Char) : Bool :=
  match cs.dropWhile caseIgnorable.contains with
  | [] => false
  | c :: _ => cased.contains c

/-- A sigma ends a word when a cased letter stands before it and none after it. -/
def endsWord (before after : List Char) : Bool := startsCased before && !startsCased after

/-- Lowercases a text; `before` is what precedes it, in reverse. -/
def lowerAfter (before : List Char) : List Char → List Char
  | [] => []
  | c :: cs =>
    (if c = 'Σ' then [if endsWord before cs then 'ς' else 'σ'] else lowerChar c) ++
      lowerAfter (c :: before) cs

/-- The lowercase of a text. -/
def lower (cs : List Char) : List Char := lowerAfter [] cs

end Text

end Rehearsal
