import Rehearsal.Http.Exchange
import Rehearsal.Http.Status
import Rehearsal.Url.Wire

/-!
# Where a response leads

A response leads elsewhere if its status says so and its first `Location` header, read as a URL
relative to the one that was requested, is one that a request can carry. Any other response is the
last one, whatever its status.
-/

namespace Rehearsal

namespace Response

/-- The URL to which a response to a request for `url` leads. -/
def redirectTarget? (r : Response) (url : Url) : Option Url :=
  if HttpStatus.isRedirect r.status then do
    let location ← r.header? "location"
    let text ← Text.decode? location
    let target ← (url.join text).toOption
    target.onWire?
  else none

end Response

end Rehearsal
