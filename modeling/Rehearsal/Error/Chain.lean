import Rehearsal.Text.Search

/-!
# Chains of errors

An error may have a cause, which may have one of its own. `ErrorChain.render` shows all the texts
from the outermost error to the innermost cause, and leaves a cause out when the text that was kept
last holds it already: many layers repeat what they wrap.
-/

namespace Rehearsal

namespace ErrorChain

/-- The texts that are kept after `last`, the text that was kept last. -/
def keptAfter (last : String) : List String → List String
  | [] => []
  | text :: rest =>
    if Text.mentions last text then keptAfter last rest else text :: keptAfter text rest

/-- The texts that are kept of a chain. -/
def kept : List String → List String
  | [] => []
  | text :: rest => text :: keptAfter text rest

/-- The text of a chain, the outermost layer first. -/
def render (layers : List String) : String := ": ".intercalate (kept layers)

end ErrorChain

end Rehearsal
