import Rehearsal.Dns.ExtendedError
import Rehearsal.Dns.Record
import Rehearsal.Dns.ResponseCode

/-!
# Responses

What one server sends back for one question, before anybody decides what it means.
-/

namespace Rehearsal

/-- A response. -/
structure DnsResponse where
  /-- Says whether the question could be answered. -/
  code : ResponseCode
  /-- The records of the answer. -/
  answers : List Record
  /-- The extended options with their codes. -/
  options : List (Nat × Bytes)
  deriving DecidableEq, Repr

namespace DnsResponse

/-- What the response says about a failure. -/
def extendedError? (r : DnsResponse) : Option ExtendedError := ExtendedError.ofOptions r.options

/-- Are there answers that are looked at? Under a code that tells of a failure they are not, except
that a name may be absent and still have an alias. -/
def isUsable (r : DnsResponse) : Bool :=
  !r.answers.isEmpty &&
    (r.code == .noError || r.code == .noSuchName || !r.code.isAssigned)

end DnsResponse

end Rehearsal
