import Rehearsal.Dns.Resolution
import Rehearsal.Net.Endpoint
import Rehearsal.Script.Zone

/-!
# Scripted servers of the name system

A scripted server gives every question the same records. It does not sign them, so no validation of
an answer with records succeeds. One that is mute, or that sends what is no response, leaves its
questions without an answer.
-/

namespace Rehearsal

namespace Script

/-- A server that answers questions about names. -/
structure Nameserver where
  /-- The code of every response. -/
  code : ResponseCode
  /-- The records of every response. -/
  records : List OpenRecord
  /-- Are records left out whose type was not asked for? -/
  matchesType : Bool
  /-- The extended options of every response, with their codes. -/
  options : List (Nat × Bytes)
  /-- Does nothing readable come back? -/
  isMute : Bool
  deriving DecidableEq, Repr

/-- A record as it arrives: data that take no room are gone. -/
def arriving (r : Record) : Record := if r.data = some (.txt []) then { r with data := none } else r

namespace Nameserver

/-- The response to a question, if one comes back. -/
def response? (server : Nameserver) (name : DomainName) (type : RecordType) : Option DnsResponse :=
  if server.isMute then none
  else
    let records := server.records.filter fun r => !server.matchesType || r.type = type
    some ⟨server.code, records.map fun r => arriving (r.closeAt name), server.options⟩

end Nameserver

/-- The name system of a rehearsal. -/
inductive NameSystem where
  /-- One server answers everything. -/
  | served (server : Nameserver)
  /-- There is a server, but no network. -/
  | cut
  /-- There is no server. -/
  | vacant
  deriving DecidableEq, Repr

namespace NameSystem

/-- The text with which the validation of an unsigned record fails. -/
def unsigned (r : Record) : String :=
  s!"proto error: rrsigs are not present for record set name: {r.owner.display} " ++
    s!"record_type: {r.type}"

/-- What a resolver gets for a question, which perhaps validates the response. -/
def ask (system : NameSystem) (validates : Bool) (name : DomainName) (type : RecordType) :
    Except Lookup.Failure DnsResponse :=
  match system with
  | vacant => .error (.other "No connections available")
  | cut => .error (.other "proto error: io error: Network is unreachable (os error 101)")
  | served server =>
    match server.response? name type with
    | none => .error .timeout
    | some response =>
      match response.answers with
      | r :: _ =>
        if validates && response.isUsable then .error (.other (unsigned r)) else .ok response
      | [] => .ok response

/-- What a direct query gets. -/
def reply (system : NameSystem) (name : DomainName) (type : RecordType) : Direct.Reply :=
  match system with
  | vacant | cut => .failed "proto error"
  | served server =>
    match server.response? name type with
    | some response => .answered ⟨response.code, response.answers⟩
    | none => .timedOut

/-- What the server says about a failure. -/
def extendedError? (system : NameSystem) (name : DomainName) (type : RecordType) :
    Option ExtendedError :=
  match system with
  | vacant | cut => none
  | served server => (server.response? name type).bind DnsResponse.extendedError?

end NameSystem

end Script

end Rehearsal
