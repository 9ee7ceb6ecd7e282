import Rehearsal.Idna.Label
import Rehearsal.Idna.Punycode
import Rehearsal.Text.Case

/-!
# Internationalized names in ASCII

`Idna.toAscii?` spells a name for the wire: its characters are mapped, and a label that then holds
other characters than ASCII is written in Punycode after `xn--`. A label that comes with `xn--`
already must spell such a label, in the one way in which it is spelled. `Idna.toUnicode?` gives the
spelling for people.
-/

namespace Rehearsal

namespace Idna

/-- What a label in Punycode begins with. -/
def marker : List Char := ['x', 'n', '-', '-']

/-- Is everything ASCII? -/
def isAscii (cs : List Char) : Bool := cs.all fun c => c.toNat < 128

/-- The label that a mapped label stands for. -/
def spelledLabel? (label : List Char) : Option (List Char) :=
  if marker.isPrefixOf label then do
    let spelled ← Punycode.decode? (label.drop 4)
    if !isAscii spelled && isStable spelled && isAllowed spelled then some spelled else none
  else if isAscii label || isAllowed label then some label
  else none

/-- The labels of a name as they are spelled for people. -/
def labels? (name : List Char) : Option (List (List Char)) := do
  let mapped ← name.mapM mapChar
  let labels ← ((Text.compose mapped.flatten).splitOn '.').mapM spelledLabel?
  if labels.any isRightToLeft && !labels.all hasDirection then none else some labels

/-- A label as it is spelled for the wire. -/
def encodeLabel (label : List Char) : List Char :=
  if isAscii label then label else marker ++ Punycode.encode label

/-- Does a label of the name claim to be in Punycode? -/
def hasMarker (name : List Char) : Bool := (name.splitOn '.').any marker.isPrefixOf

/-- The spelling of a name for the wire. -/
def toAscii? (name : List Char) : Option (List Char) :=
  let lower := name.map Text.asciiLower
  if isAscii name && !hasMarker lower then some lower
  else (labels? name).map fun labels => ['.'].intercalate (labels.map encodeLabel)

/-- The spelling of a name for people. -/
def toUnicode? (name : List Char) : Option (List Char) :=
  (labels? name).map fun labels => ['.'].intercalate labels

end Idna

end Rehearsal
