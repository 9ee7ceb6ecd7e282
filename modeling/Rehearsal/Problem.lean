/-!
# Problems

A problem is one finding of a scan. Findings are no failures of the scan: one that finds a broken
zone has done its work. A `fatal` finding means that issuance will certainly fail, and ends the scan
after the checker that reported it.
-/

namespace Rehearsal

/-- How serious a finding is, the worst first. -/
inductive Severity where
  /-- Issuance will certainly fail. -/
  | fatal
  /-- Issuance will very likely fail. -/
  | error
  /-- Issuance may fail or go otherwise than expected. -/
  | warning
  /-- Worth knowing, and no problem in itself. -/
  | info
  /-- Evidence for whoever looks into it. -/
  | debug
  deriving DecidableEq, Repr

namespace Severity

/-- Every severity, the worst first. -/
def all : List Severity := [fatal, error, warning, info, debug]

/-- The position of a severity in display order. -/
def rank : Severity → Nat
  | fatal => 0
  | error => 1
  | warning => 2
  | info => 3
  | debug => 4

/-- The name of a severity. -/
def name : Severity → String
  | fatal => "Fatal"
  | error => "Error"
  | warning => "Warning"
  | info => "Info"
  | debug => "Debug"

instance : ToString Severity := ⟨name⟩

/-- The severity of a name. -/
def ofName? (s : String) : Option Severity := all.find? fun v => v.name == s

/-- Worse severities come before milder ones. -/
def compare (a b : Severity) : Ordering := Ord.compare a.rank b.rank

end Severity

/-- A finding. -/
structure Problem where
  /-- A short name that stays the same over time. -/
  name : String
  /-- What the finding is and what follows from it. -/
  explanation : String
  /-- The evidence: records, a trace, the text of an error. -/
  detail : String
  /-- How serious the finding is. -/
  severity : Severity
  deriving DecidableEq, Repr

namespace Problem

/-- A finding that is only evidence. -/
def debug (name explanation detail : String) : Problem := ⟨name, explanation, detail, .debug⟩

/-- A failure of the checking itself. -/
def internal (message : String) (severity : Severity) : Problem :=
  ⟨"InternalProblem", "An internal error occurred while checking the domain", message, severity⟩

/-- A lookup that failed through the resolver, and so fails the issuance. -/
def lookupFailed (name type text : String) : Problem :=
  ⟨"DNSLookupFailed",
    s!"A fatal issue occurred during the DNS lookup process for {name}/{type}.", text, .fatal⟩

/-- Does the finding lack a name? Such a finding is left out of results. -/
def isEmpty (p : Problem) : Bool := p.name.isEmpty

/-- Does the finding end the scan? -/
def isFatal (p : Problem) : Bool := p.severity == .fatal

/-- Is the finding only evidence? -/
def isDebug (p : Problem) : Bool := p.severity == .debug

/-- A finding on one line. -/
def render (p : Problem) : String := s!"[{p.name}] {p.explanation}: {p.detail}"

/-- Is one of the findings fatal? -/
def anyFatal (ps : List Problem) : Bool := ps.any isFatal

/-- The findings, the worst first, those of one severity in the order they came. -/
def sorted (ps : List Problem) : List Problem :=
  ps.mergeSort fun a b => a.severity.rank ≤ b.severity.rank

end Problem

end Rehearsal
