import Rehearsal.Check.Basic

/-!
# Checkers side by side

A block runs its members side by side and joins what they find in the order in which they finish. A
member that is not applicable contributes nothing. The first member that fails, or breaks down, ends
the block with its error, and whatever still runs is abandoned. The members of a block that is
abandoned itself go on, but nobody waits for what they find.
-/

namespace Rehearsal

namespace Check

/-- What a member ended with, as a verdict. -/
def memberVerdict : Outcome Verdict → Verdict
  | .returned verdict => verdict
  | .crashed message => .error (.crashed message)

/-- The error with which a member ends the block. -/
def failure? (outcome : Outcome Verdict) : Option CheckError :=
  match memberVerdict outcome with
  | .ok _ => none
  | .error .notApplicable => none
  | .error e => some e

/-- The findings of a member. -/
def findings (outcome : Outcome Verdict) : List Problem :=
  match memberVerdict outcome with
  | .ok problems => problems
  | .error _ => []

/-- The verdict of a block whose members ended as told, in the order in which they did. -/
def mergeVerdicts {ι : Type} (completions : List (ι × Outcome Verdict)) : Verdict :=
  match completions.findSome? fun c => failure? c.2 with
  | some e => .error e
  | none => .ok (completions.flatMap fun c => findings c.2)

/-- Has a member ended the block? -/
def hasFailure {ι : Type} (completions : List (ι × Outcome Verdict)) : Bool :=
  completions.any fun c => (failure? c.2).isSome

/-- Runs checkers side by side. -/
def block (members : List Checker) : Checker where
  name := "asyncCheckerBlock"
  check := fun context domain method =>
    Job.fork .loose members.length (fun i => (members.get i).check context domain method)
      hasFailure fun completions => .done (mergeVerdicts completions)

end Check

end Rehearsal
