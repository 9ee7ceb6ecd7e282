import Rehearsal.Check.Accessibility
import Rehearsal.Check.Block
import Rehearsal.Check.Caa
import Rehearsal.Check.Cloudflare
import Rehearsal.Check.Nameservers
import Rehearsal.Check.Offline
import Rehearsal.Check.StatusPage
import Rehearsal.Config

/-!
# Scans

An engine runs its checkers in order. Findings without a name are left out, a fatal finding ends the
scan after the checker that gave it, and a checker that fails ends it without a list of findings.
What a checker breaks down with is caught, so that a scan always ends with a result.
-/

namespace Rehearsal

/-- The result of a scan. -/
abbrev ScanResult := Except ScanError (List Problem)

namespace Check

/-- The checkers of a scan that goes by rules for suffixes. Those that can rule issuance out by
themselves come first, and those that ask nothing before all others. -/
def standardBy (suffixes : List Domain.SuffixRule) : List Checker := [
  validMethod,
  tlsSni,
  validDomainBy suffixes,
  wildcardDns01Only,
  caaBy suffixes,
  block [dnsA, txtRecord, txtDoubledLabelBy suffixes, nsOutOfSync],
  httpAccessibility,
  cloudflare,
  statusPage]

/-- The checkers of an ordinary scan, by the sample of the suffix list. -/
def standard : List Checker := standardBy Domain.sampleSuffixRules

end Check

/-- What runs scans. -/
structure Engine where
  /-- The checkers in order. -/
  checkers : List Checker
  /-- How requests are sent. -/
  probes : ProbeSettings

namespace Engine

/-! ### The log -/

/-- The source of the lines that an engine writes. -/
def source : String := "acme_precheck::run"

/-- A line about the course of a scan. -/
def info (message : String) : Job Unit := Job.log ⟨source, .info, message⟩

/-- A line about the course of a checker. -/
def debug (message : String) : Job Unit := Job.log ⟨source, .debug, message⟩

/-- A line about something that went wrong. -/
def warn (message : String) : Job Unit := Job.log ⟨source, .warn, message⟩

/-! ### The course of a scan -/

/-- The findings that are kept. -/
def kept (problems : List Problem) : List Problem := problems.filter fun p => !p.isEmpty

/-- Goes on after a checker unless one of the findings is fatal. -/
def unlessFatal (checker : Checker) (found : List Problem) (rest : Job ScanResult) :
    Job ScanResult := do
  if Problem.anyFatal found then
    debug s!"Fatal problem found after {checker.name}, stopping"
    return .ok found
  else rest

/-- Runs checkers in order, after others of which `found` was kept. -/
def runCheckers (context : ScanContext) (domain : String) (method : Method) :
    List Checker → (found : List Problem) → Job ScanResult
  | [], found => .done (.ok found)
  | checker :: checkers, found => do
    debug s!"Running checker {checker.name}"
    match ← checker.check context domain method with
    | .ok problems =>
      debug s!"Checker {checker.name} found {problems.length} problem(s)"
      let found := found ++ kept problems
      unlessFatal checker found (runCheckers context domain method checkers found)
    | .error .notApplicable =>
      debug s!"Checker {checker.name} not applicable"
      unlessFatal checker found (runCheckers context domain method checkers found)
    | .error e =>
      warn s!"Checker {checker.name} failed: {e.message}"
      return .error (.checker checker.name e)

/-- Scans a domain, in any spelling, for what keeps certificates from being issued by a method. -/
def scan (engine : Engine) (domain : String) (method : Method) (options : ScanOptions) :
    Job ScanResult :=
  match options.validate with
  | .error e => .done (.error (.invalidOptions e))
  | .ok () => do
    let domain := Domain.normalize domain
    info s!"Scanning {domain} for {method}"
    let context : ScanContext := ⟨options, engine.probes⟩
    match ← Job.attempt (runCheckers context domain method engine.checkers []) with
    | .crashed message =>
      warn s!"Scan of {domain} panicked: {message}"
      return .error (.crashed message)
    | .returned (.error e) => return .error e
    | .returned (.ok problems) =>
      info s!"Scan of {domain} finished in 0.00s with {problems.length} problem(s)"
      return .ok problems

end Engine

end Rehearsal
