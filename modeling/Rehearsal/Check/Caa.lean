import Rehearsal.Check.Basic
import Rehearsal.Dns.Caa
import Rehearsal.Domain.Suffix

/-!
# Permission to issue

CAA records are looked for at the name itself and, as long as there are none, at each parent in
turn, up to the registered domain. The first name that has any decides; a lookup that fails on the
way decides as well.
-/

namespace Rehearsal

namespace Domain

/-- The parents of a name, the nearest first. -/
def parentsOf : List Char → List String
  | [] => []
  | ['.'] => []
  | '.' :: rest => String.ofList rest :: parentsOf rest
  | _ :: rest => parentsOf rest

/-- The parents of a name, the nearest first. -/
def parents (name : String) : List String := parentsOf name.toList

/-- The names up to the first one that is equal to `last`, which is among them. -/
def upTo (last : String) : List String → List String
  | [] => []
  | name :: names => if name = last then [name] else name :: upTo last names

/-- The names at which records that parents pass on are looked for: the name and its parents up to
the registered domain, or the name alone if it has none. -/
def chain (rules : List SuffixRule) (name : String) : List String :=
  match registered rules name with
  | none => [name]
  | some apex => upTo apex (name :: parents name)

end Domain

namespace Check

/-- Looks for CAA records at names in turn. -/
def walkCaa (wildcard : Bool) : List String → Job Verdict
  | [] => .done (.ok [])
  | name :: names => do
    match ← Job.lookup name .caa with
    | .error e => return .ok [.lookupFailed name "CAA" e.message]
    | .ok records =>
      match CaaRecord.ofRecords? records with
      | none => .crash Record.unwritable
      | some [] => walkCaa wildcard names
      | some found => return .ok (Caa.evaluate name wildcard found)

/-- Do the CAA records permit issuance, by rules for suffixes? -/
def caaBy (suffixes : List Domain.SuffixRule) : Checker where
  name := "caa"
  check := fun _ domain _ =>
    let (name, wildcard) := Domain.stripWildcard domain
    walkCaa wildcard (Domain.chain suffixes name)

/-- Do the CAA records permit issuance? -/
def caa : Checker := caaBy Domain.sampleSuffixRules

end Check

end Rehearsal
