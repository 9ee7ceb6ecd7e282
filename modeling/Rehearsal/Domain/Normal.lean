import Rehearsal.Text.Blank
import Rehearsal.Text.Case

/-!
# The normal form of a domain name

Names are compared, cached and asked for in one spelling: no white space around the name, one final
dot removed, lowercase. `Domain.absolute` is the spelling for the wire, with a final dot.
-/

namespace Rehearsal

namespace Domain

/-- The text without one final dot. -/
def dropFinalDot (cs : List Char) : List Char :=
  if cs.getLast? = some '.' then cs.dropLast else cs

/-- The normal form of a name. -/
def normalize (name : String) : String :=
  String.ofList (Text.lower (dropFinalDot (Text.trim name.toList)))

/-- The normal form of a name with the dot of the root after it. -/
def absolute (name : String) : String := normalize name ++ "."

end Domain

end Rehearsal
