import Rehearsal.Error.Chain
import Rehearsal.Options

/-!
# Failures of a checker and of a scan

A checker that finds nothing to look at is not applicable, which nobody is told. Every other failure
of a checker ends the scan without a list of findings.
-/

namespace Rehearsal

/-- What a checker may give instead of findings. -/
inductive CheckError where
  /-- The checker does not concern this domain and method. -/
  | notApplicable
  /-- The checker, or a member of a block, broke down. -/
  | crashed (message : String)
  /-- The checker failed; `causes` goes from the next layer to the innermost cause. -/
  | failed (message : String) (causes : List String)
  deriving DecidableEq, Repr

namespace CheckError

/-- The text of an error. -/
def message : CheckError → String
  | notApplicable => "Checker not applicable for this domain and method"
  | crashed message => s!"checker panicked: {message}"
  | failed message _ => message

/-- The texts of the layers, the outermost first. -/
def layers : CheckError → List String
  | failed message causes => message :: causes
  | e => [e.message]

end CheckError

/-- Why a scan has no findings to give. -/
inductive ScanError where
  /-- The options are refused. -/
  | invalidOptions (cause : ConfigError)
  /-- A checker failed. -/
  | checker (name : String) (cause : CheckError)
  /-- A checker broke down. -/
  | crashed (message : String)
  deriving DecidableEq, Repr

namespace ScanError

/-- The text of an error. -/
def message : ScanError → String
  | invalidOptions cause => s!"invalid scan options: {cause.message}"
  | checker name cause => s!"checker {name} failed: {cause.message}"
  | crashed message => s!"scan aborted by a panic: {message}"

/-- The texts of the layers, the outermost first. -/
def layers : ScanError → List String
  | invalidOptions cause => [(invalidOptions cause).message, cause.message]
  | checker name cause => (checker name cause).message :: cause.layers
  | crashed message => [(crashed message).message]

/-- The text of the error with all its causes. -/
def chain (e : ScanError) : String := ErrorChain.render e.layers

end ScanError

end Rehearsal
