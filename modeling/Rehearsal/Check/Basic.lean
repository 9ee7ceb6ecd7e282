import Rehearsal.Config
import Rehearsal.Error.Scan
import Rehearsal.Http.Client
import Rehearsal.Method
import Rehearsal.Problem

/-!
# Checkers

A checker looks at one aspect of a domain under one validation method and gives its findings. It
gives `CheckError.notApplicable` where there is nothing for it to look at.
-/

namespace Rehearsal

/-- How emulated validation requests are sent. -/
structure ProbeSettings where
  /-- What the client calls itself. -/
  userAgent : String
  /-- The port for URLs that name none, in place of the scheme's own. -/
  dialPort : Option Nat
  /-- The milliseconds that a probe may take. -/
  timeout : Nat
  deriving DecidableEq, Repr

namespace ProbeSettings

/-- The settings for which nothing was chosen. -/
def standard : ProbeSettings := ⟨Client.userAgent, none, EngineConfig.standard.httpTimeout⟩

end ProbeSettings

/-- What belongs to one scan. -/
structure ScanContext where
  /-- The options. -/
  options : ScanOptions
  /-- How requests are sent. -/
  probes : ProbeSettings
  deriving DecidableEq, Repr

/-- What a checker gives. -/
abbrev Verdict := Except CheckError (List Problem)

/-- Something that looks at one aspect of a domain. -/
structure Checker where
  /-- Its name. -/
  name : String
  /-- Looks at a domain under a method. -/
  check : ScanContext → (domain : String) → Method → Job Verdict

namespace Checker

/-- A checker that asks nothing. -/
def offline (name : String) (verdict : (domain : String) → Method → Verdict) : Checker :=
  ⟨name, fun _ domain method => .done (verdict domain method)⟩

/-- A checker for one method only. -/
def forMethod (name : String) (concerned : Method)
    (check : ScanContext → (domain : String) → Job Verdict) : Checker :=
  ⟨name, fun context domain method =>
    if method = concerned then check context domain else .done (.error .notApplicable)⟩

end Checker

end Rehearsal
