import Rehearsal.Dns.ExtendedError
import Rehearsal.Dns.Record
import Rehearsal.Dns.ResponseCode
import Rehearsal.Domain.Normal
import Rehearsal.Error.Lookup
import Rehearsal.Net.Endpoint
import Rehearsal.Text.Search

/-!
# The validating resolver

A lookup goes out under the absolute form of a name. What comes back is either records or a
failure, and `Lookup.classify` decides what the failure means. The source of extended errors is
consulted only where its word can matter: for the two codes under which a resolver hides a failed
validation, and for failures that a validation marked. It can turn a plain failure into a failed
validation and add words to one; it never decides whether there is a failure.
-/

namespace Rehearsal

/-- The outcome of a lookup: records, perhaps none, or the reason why there are none to give. -/
abbrev LookupOutcome := Except LookupError (List Record)

/-- The answer of one nameserver that was asked directly. -/
structure DirectAnswer where
  /-- The code of the response. -/
  code : ResponseCode
  /-- The records of the answer. -/
  records : List Record
  deriving DecidableEq, Repr

/-- The outcome of asking one nameserver directly. -/
abbrev DirectOutcome := Except LookupError DirectAnswer

namespace Lookup

/-- What kept a resolution from giving records. -/
inductive Failure where
  /-- The response had no records but this code. -/
  | noRecords (code : ResponseCode)
  /-- There was no response in time. -/
  | timeout
  /-- Anything else. -/
  | other (message : String)
  deriving DecidableEq, Repr

/-- Words that mark a failure as one of validation. -/
def markers : List String := ["rrsig", "dnssec", "dnskey", "signature", "nsec"]

/-- Does the text tell of a failed validation? -/
def isMarked (message : String) : Bool :=
  let lower := String.ofList (Text.lower message.toList)
  markers.any fun marker => Text.mentions lower marker

/-- Is the code one under which a failed validation may hide? -/
def isSuspect (code : ResponseCode) : Bool :=
  code == .serverFailure || code == .refused

/-- Is the source of extended errors consulted about the failure? -/
def Failure.consults : Failure → Bool
  | .noRecords code => isSuspect code
  | .timeout => false
  | .other message => isMarked message

/-- What a failure means for a lookup of a name, given what the source of extended errors says. -/
def classify (name : String) (type : RecordType) (seconds : Nat) (said : Option ExtendedError) :
    Failure → LookupOutcome
  | .noRecords code =>
    if isSuspect code then
      match said.filter ExtendedError.isDnssec with
      | some e => .error (.bogus name type.name code.text (some e.render))
      | none => .error (.responseCode name type.name code.text)
    else .ok []
  | .timeout => .error (.timeout name type.name seconds)
  | .other message =>
    if isMarked message then
      .error (.bogus name type.name message (said.map ExtendedError.render))
    else .error (.resolution name type.name message)

/-- What a resolution gives before failures are classified. -/
abbrev Resolution := Except Failure (List Record)

/-- A source of extended errors: what it says about a name and a type. -/
abbrev Source := DomainName → RecordType → Option ExtendedError

/-- A lookup, with the questions that were put to the source of extended errors. `resolution` is
what the network gives for the name, `seconds` the ceiling that a timeout is reported with. -/
def run (seconds : Nat) (source : Option Source)
    (resolution : DomainName → RecordType → Resolution) (name : String) (type : RecordType) :
    LookupOutcome × List (DomainName × RecordType) :=
  let absolute := Domain.absolute name
  match DomainName.ofText? absolute with
  | .error e => (.error (.invalidName absolute e.message), [])
  | .ok query =>
    match resolution query type with
    | .ok records => (.ok records, [])
    | .error failure =>
      match source with
      | some source =>
        if failure.consults then
          (classify absolute type seconds (source query type) failure, [(query, type)])
        else (classify absolute type seconds none failure, [])
      | none => (classify absolute type seconds none failure, [])

end Lookup

namespace Direct

/-- What one nameserver gives for a name: an answer, or a text that says what failed, or nothing in
time. -/
inductive Reply where
  /-- The nameserver answered. -/
  | answered (answer : DirectAnswer)
  /-- The query could not be made. -/
  | failed (message : String)
  /-- There was no answer in time. -/
  | timedOut
  deriving DecidableEq, Repr

/-- A query to one nameserver. `seconds` is the ceiling that a timeout is reported with. -/
def run (server : Endpoint) (seconds : Nat) (reply : DomainName → RecordType → Reply)
    (name : String) (type : RecordType) : DirectOutcome :=
  let absolute := Domain.absolute name
  match DomainName.ofText? absolute with
  | .error e => .error (.invalidName absolute e.message)
  | .ok query =>
    match reply query type with
    | .answered answer => .ok answer
    | .failed message =>
      .error (.resolution absolute type.name s!"query to {server.render} failed: {message}")
    | .timedOut => .error (.timeout absolute type.name seconds)

end Direct

end Rehearsal
