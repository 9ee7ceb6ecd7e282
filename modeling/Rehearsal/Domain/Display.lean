import Rehearsal.Domain.Name
import Rehearsal.Idna.Domain

/-!
# Names as people read them

Records are shown with the labels of internationalized names spelled out; a label that only claims
to be one is shown as it is.
-/

namespace Rehearsal

namespace DomainName

/-- A label as it is shown to people. -/
def displayLabel (label : List Char) : List Char :=
  if Idna.marker.isPrefixOf label then
    match Idna.toUnicode? label with
    | some spelled => spelled
    | none => label.flatMap escapeChar
  else label.flatMap escapeChar

/-- The name as it is shown to people. -/
def display (name : DomainName) : String :=
  ".".intercalate (name.labels.map fun l => String.ofList (displayLabel l)) ++
    (if name.isAbsolute then "." else "")

end DomainName

end Rehearsal
