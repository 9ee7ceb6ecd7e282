import Rehearsal.Config
import Rehearsal.Json.Printer
import Rehearsal.Method
import Rehearsal.Problem

/-!
# Interchange

The JSON form of findings, options, methods and of the choices among them, and how it is read back.
-/

namespace Rehearsal

namespace Severity

/-- The JSON form of a severity: its name. -/
def toJson (v : Severity) : Json := .ofText v.name

/-- Reads a severity. -/
def ofJson? (value : Json) : Option Severity := value.choice?.bind ofName?

end Severity

namespace PublicResolver

/-- The JSON form of a public resolver: its name. -/
def toJson (v : PublicResolver) : Json := .ofText v.name

/-- Reads a public resolver. -/
def ofJson? (value : Json) : Option PublicResolver := value.choice?.bind ofName?

end PublicResolver

namespace Method

/-- The JSON form of a method: its name. -/
def toJson (m : Method) : Json := .ofText m.name

/-- Reads a method. -/
def ofJson? (value : Json) : Option Method := value.text?.map ofText

end Method

namespace Problem

/-- The names of the members of a finding. -/
def fieldNames : List String := ["name", "explanation", "detail", "severity"]

/-- The JSON form of a finding. -/
def toJson (p : Problem) : Json :=
  .ofMembers [("name", .ofText p.name), ("explanation", .ofText p.explanation),
    ("detail", .ofText p.detail), ("severity", p.severity.toJson)]

/-- Reads a finding. -/
def ofJson? (value : Json) : Option Problem := do
  match ← value.fields? fieldNames with
  | [some name, some explanation, some detail, some severity] =>
    return ⟨← name.text?, ← explanation.text?, ← detail.text?, ← Severity.ofJson? severity⟩
  | _ => none

/-- The JSON form of a list of findings. -/
def listToJson (ps : List Problem) : Json := .array (ps.map toJson)

end Problem

namespace ScanOptions

/-- The names of the members of options. -/
def fieldNames : List String := ["http_request_path", "http_expect_response"]

/-- The JSON form of options. -/
def toJson (o : ScanOptions) : Json :=
  .ofMembers [("http_request_path", .ofText o.requestPath),
    ("http_expect_response", .ofText o.expectedBody)]

/-- Reads options. -/
def ofJson? (value : Json) : Option ScanOptions := do
  match ← value.fields? fieldNames with
  | [some path, some body] => return ⟨← path.text?, ← body.text?⟩
  | _ => none

end ScanOptions

/-- Reads a value of some kind from a text. -/
def Json.decode? {α : Type} (ofJson? : Json → Option α) (text : String) : Option α := do
  ofJson? (← Json.read? (.ofText text))

end Rehearsal
