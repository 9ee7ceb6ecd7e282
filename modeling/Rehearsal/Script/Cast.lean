import Rehearsal.Check.Block

/-!
# Scripted checkers

A script may also say what is to be checked. Beside checkers that are known by name there are
stand-ins, which log when they start and when they are through, and then do what the script says;
blocks of either run side by side.
-/

namespace Rehearsal

namespace Script

/-- What a stand-in does in the end. -/
inductive Act where
  /-- It looks a name up and reports what it sees. -/
  | lookup (name : String) (type : RecordType)
  /-- It breaks down. -/
  | crash (message : String)
  /-- It gives a verdict. -/
  | give (verdict : Verdict)
  deriving Repr

namespace Act

/-- What is reported about a lookup. -/
def report (text : String) : Verdict := .ok [.debug "Lookup" "spy lookup" text]

/-- The act as a job. -/
def job : Act → Job Verdict
  | lookup name type => do
    match ← Job.lookup name type with
    | .error e => return report e.message
    | .ok records =>
      match Record.textOfAll? records with
      | some text => return report text
      | none => Job.crash Record.unwritable
  | crash message => .crash message
  | give verdict => .done verdict

end Act

/-- A checker of a script. -/
inductive Role where
  /-- One of the known checkers, by its place among them. -/
  | known (place : Nat)
  /-- A stand-in, which takes some milliseconds. -/
  | standIn (name : String) (delay : Nat) (act : Act)
  /-- Checkers side by side. -/
  | block (members : List Role)

namespace Role

/-- The source of the lines that stand-ins write. -/
def source : String := "spy"

/-- A line about a stand-in. -/
def tell (message : String) : Job Unit := Job.log ⟨source, .trace, message⟩

/-- A stand-in. -/
def standInChecker (name : String) (delay : Nat) (act : Act) : Checker :=
  ⟨name, fun _ domain method => do
    tell s!"start {name} {domain} {method}"
    Job.wait delay
    tell s!"end {name}"
    act.job⟩

mutual

/-- The checker of a role; a place that nobody has is played by a block without members. -/
def checker (known : List Checker) : Role → Checker
  | .known place => known.getD place (Check.block [])
  | .standIn name delay act => standInChecker name delay act
  | .block members => Check.block (checkers known members)

/-- The checkers of roles. -/
def checkers (known : List Checker) : List Role → List Checker
  | [] => []
  | role :: rest => checker known role :: checkers known rest

end

end Role

end Script

end Rehearsal
