import Rehearsal.Check.Basic
import Rehearsal.Json.Value

/-!
# The authority's own state

The authority publishes how its services are. A state other than "operational" is worth a warning,
since issuance may fail for reasons that have nothing to do with the domain. A page that cannot be
reached is not mentioned.
-/

namespace Rehearsal

/-- The state of the authority's services. -/
structure ServiceStatus where
  /-- When the state was last changed. -/
  updated : String
  /-- The state in words. -/
  status : String
  /-- The state as a number. -/
  code : Nat
  deriving DecidableEq, Repr

namespace ServiceStatus

/-- The code of a state in which all is well. -/
def operational : Nat := 100

/-- The largest code. -/
def maxCode : Nat := 65535

/-- The value of the only field of a record. -/
def onlyField? (name : String) (value : Json) : Option Json := do
  match ← value.fields? [name] with
  | [some field] => some field
  | _ => none

/-- Reads a state. -/
def ofJson? (value : Json) : Option ServiceStatus := do
  let overall ← onlyField? "status_overall" (← onlyField? "result" value)
  match ← overall.fields? ["updated", "status", "status_code"] with
  | [updated, some status, some code] =>
    let updated ← match updated with
      | some updated => updated.text?
      | none => some ""
    return ⟨updated, ← status.text?, ← code.natUpTo? maxCode⟩
  | _ => none

/-- Reads the state in the body of a response. -/
def ofBody? (body : Bytes) : Option ServiceStatus := do
  ofJson? (← Json.read? (Json.Input.ofBytes body))

end ServiceStatus

namespace Check

/-- Where programs read the state. -/
def statusApiUrl : String := "https://api.status.io/1.0/status/55957a99e800baa4470002da"

/-- Where people read the state. -/
def statusPageUrl : String := "https://letsencrypt.status.io/"

/-- A note about the state. -/
def statusNote (detail : String) : Problem :=
  .debug "StatusIO" "The current status.io status for Let's Encrypt" detail

/-- The body of the page is no state. -/
def undecodable : String := "Error decoding status.io api response: "

/-- Not all is well. -/
def notOperational (s : ServiceStatus) : Problem :=
  ⟨"StatusNotOperational",
    "The current status as reported by the Let's Encrypt status page is " ++
      s!"{s.status} as at {s.updated}. Depending on the reported problem, this may affect " ++
      "certificate issuance. For more information, please visit the status page.",
    statusPageUrl, .warning⟩

/-- The findings about a state. -/
def judgeStatus (s : ServiceStatus) : List Problem :=
  if s.code = ServiceStatus.operational then [statusNote s.status]
  else [notOperational s, statusNote s.status]

/-- The findings about the body of the page. -/
def judgeStatusBody (body : Bytes) : List Problem :=
  match ServiceStatus.ofBody? body with
  | some s => judgeStatus s
  | none => [statusNote (undecodable ++ "not a service status")]

/-- Is all well with the authority, according to the page at `url`? -/
def statusPageAt (url : String) : Checker where
  name := "statusio"
  check := fun _ _ _ => do
    match ← Client.get true url with
    | some ⟨_, _, body, none⟩ => return .ok (judgeStatusBody body.flatten)
    | _ => return .ok []

/-- Is all well with the authority? -/
def statusPage : Checker := statusPageAt statusApiUrl

end Check

end Rehearsal
