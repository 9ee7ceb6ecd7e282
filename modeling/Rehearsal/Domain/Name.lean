import Rehearsal.Text.Blank

/-!
# Names as sequences of labels

`DomainName.ofText?` reads the written form of a name. Labels hold letters, digits, `-` (not first),
`_`, `.` (written after a backslash) and a first `*`; a label has at most 63 bytes, and the labels
together, each with its length byte, at most 255.
-/

namespace Rehearsal

/-- A domain name. -/
structure DomainName where
  /-- The labels, leftmost first. -/
  labels : List (List Char)
  /-- Does the name end at the root? -/
  isAbsolute : Bool
  deriving DecidableEq, Repr

/-- Why a text is no domain name. -/
inductive NameError where
  /-- A label is empty or holds a character that no label holds. -/
  | malformedLabel (label : String)
  /-- A label has too many bytes. -/
  | longLabel (bytes : Nat)
  /-- The labels together have too many bytes. -/
  | longName (bytes : Nat)
  /-- A character that cannot stand here. -/
  | strayCharacter (c : Char)
  /-- A character that is no digit of a numbered escape. -/
  | badEscape (c : Char)
  deriving DecidableEq, Repr

namespace NameError

/-- The text of an error. -/
def message : NameError → String
  | malformedLabel label => s!"Malformed label: {label}"
  | longLabel bytes => s!"label bytes exceed 63: {bytes}"
  | longName bytes => s!"name label data exceed 255: {bytes}"
  | strayCharacter c => s!"unrecognized char: {c}"
  | badEscape c => s!"illegal char: {c}"

end NameError

namespace DomainName

/-- May the character stand in a label, at its beginning if `first`? -/
def isLabelChar (first : Bool) (c : Char) : Bool :=
  c.isAlphanum || (c == '-' && !first) || c == '_' || (c == '*' && first) || c == '.'

/-- Accepts a label. -/
def checkLabel (label : List Char) : Except NameError (List Char) :=
  let bytes := label.foldl (fun n c => n + c.utf8Size) 0
  if 63 < bytes then .error (.longLabel bytes)
  else match label with
    | [] => .error (.malformedLabel "")
    | c :: cs =>
      if isLabelChar true c && cs.all (isLabelChar false) then .ok label
      else .error (.malformedLabel (String.ofList label))

/-- The bytes of labels on the wire, each with the byte that holds its length. -/
def wireLength (labels : List (List Char)) : Nat := labels.foldl (fun n l => n + l.length + 1) 0

/-- Puts a label after others. -/
def appendLabel (labels : List (List Char)) (label : List Char) :
    Except NameError (List (List Char)) := do
  let labels := labels ++ [← checkLabel label]
  if 255 < wireLength labels then .error (.longName (wireLength labels)) else .ok labels

/-- The value of a digit below eight. -/
def octalDigit (c : Char) : Except NameError Nat :=
  if '0' ≤ c ∧ c ≤ '7' then .ok (c.toNat - '0'.toNat)
  else if c.isDigit then .error (.badEscape c)
  else .error (.strayCharacter c)

/-- Reads labels; `done` are the finished ones, and `label` is the beginning of the next, in reverse
order. -/
def readLabels (done : List (List Char)) (label : List Char) :
    List Char → Except NameError DomainName
  | [] =>
    if label.isEmpty then .ok ⟨done, true⟩
    else return ⟨← appendLabel done label.reverse, false⟩
  | '.' :: cs => do readLabels (← appendLabel done label.reverse) [] cs
  | ['\\'] => readLabels done label []
  | '\\' :: c :: cs =>
    if c.isDigit then
      match cs with
      | d :: e :: rest => do
        let code := 64 * (← octalDigit c) + 8 * (← octalDigit d) + (← octalDigit e)
        readLabels done (Char.ofNat code :: label) rest
      | [d] => do
        let _ ← octalDigit c
        let _ ← octalDigit d
        readLabels done label []
      | [] => do
        let _ ← octalDigit c
        readLabels done label []
    else readLabels done (c :: label) cs
  | c :: cs =>
    if c.toNat < 0x20 ∨ (0x7F ≤ c.toNat ∧ c.toNat < 0xA0) ∨ Text.isBlank c then
      .error (.strayCharacter c)
    else readLabels done (c :: label) cs

/-- Reads a name. -/
def ofText? (s : String) : Except NameError DomainName :=
  match s.toList with
  | ['.'] => .ok ⟨[], true⟩
  | [] => .ok ⟨[], false⟩
  | cs => readLabels [] [] cs

/-- A character of a label in the written form. -/
def escapeChar (c : Char) : List Char := if c == '.' then ['\\', '.'] else [c]

/-- The written form of a name. -/
def render (name : DomainName) : String :=
  ".".intercalate (name.labels.map fun l => String.ofList (l.flatMap escapeChar)) ++
    (if name.isAbsolute then "." else "")

/-- The name taken as one that ends at the root. -/
def toAbsolute (name : DomainName) : DomainName := { name with isAbsolute := true }

end DomainName

end Rehearsal
