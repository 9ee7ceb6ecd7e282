/-!
# Public suffixes and registered domains

A public suffix is a name under which anyone may register, such as `org` or `co.uk`. The rules name
them by labels; a rule may begin with a wildcard label, and an exception takes a name out of a
wildcard. The longest rule that matches decides, an exception before any other. A name that no rule
matches has its last label as its suffix, but that suffix is not a known one. The Public Suffix List
holds thousands of rules and changes from year to year, so everything here is told which rules to go
by; `sampleSuffixRules` is a small part of that list.

Names are compared as they are, in small letters. A final dot counts as part of the suffix.
-/

namespace Rehearsal

namespace Domain

/-! ### Parts of a name -/

/-- Takes a leading `*.` off a name, and tells whether there was one. -/
def stripWildcard (name : String) : String × Bool :=
  match name.toList with
  | '*' :: '.' :: rest => (String.ofList rest, true)
  | _ => (name, false)

/-- The name without its leftmost label, if a name remains. -/
def parent (name : String) : Option String :=
  match name.toList.dropWhile (· != '.') with
  | [] => none
  | [_] => none
  | _ :: rest => some (String.ofList rest)

/-! ### Rules -/

/-- A rule of the suffix list; its labels stand in order from the right. -/
inductive SuffixRule where
  /-- The name of these labels is a suffix. -/
  | plain (labels : List String)
  /-- Every name of one more label than these is a suffix. -/
  | wildcard (labels : List String)
  /-- The name of these labels is no suffix although a wildcard says so; its parent is. -/
  | exception (labels : List String)
  deriving DecidableEq, Repr

namespace SuffixRule

/-- How many labels of the name, given from the right, are a suffix by the rule. -/
def suffixSize (name : List String) : SuffixRule → Option Nat
  | plain labels => if labels.isPrefixOf name then some labels.length else none
  | wildcard labels =>
    if labels.isPrefixOf name ∧ labels.length < name.length then some (labels.length + 1) else none
  | exception labels => if labels.isPrefixOf name then some (labels.length - 1) else none

/-- Does the rule take names out of a wildcard? -/
def isException : SuffixRule → Bool
  | exception _ => true
  | _ => false

end SuffixRule

/-- A sample of the Public Suffix List, with rules of each form and of one to three labels. Programs
that run go by it. It is not the whole list: a name below a suffix that it leaves out, such as
`com.br`, has an unknown suffix by it. -/
def sampleSuffixRules : List SuffixRule := [
  .plain ["com"],
  .plain ["org"],
  .plain ["io"],
  .plain ["jp"],
  .plain ["uk"],
  .plain ["uk", "co"],
  .plain ["io", "github"],
  .plain ["case"],
  .plain ["xn--p1ai"],
  .wildcard ["ck"],
  .exception ["ck", "www"],
  .wildcard ["er"],
  .wildcard ["jp", "kawasaki"],
  .exception ["jp", "kawasaki", "city"],
  .wildcard ["uk", "sch"],
  .wildcard ["com", "amazonaws", "compute"]]

section Suffixes

variable (rules : List SuffixRule)

/-- The labels of a name from the right, without the empty one that a final dot leaves. -/
def labelsFromRight (name : String) : List String :=
  let labels := (name.toList.splitOn '.').reverse.map String.ofList
  if name.toList.getLast? = some '.' then labels.drop 1 else labels

/-- How many labels the suffix of a name has by the rules, if a rule matches. -/
def knownSuffixSize (labels : List String) : Option Nat :=
  match (rules.filter SuffixRule.isException).findSome? (SuffixRule.suffixSize labels) with
  | some n => some n
  | none => (rules.filterMap (SuffixRule.suffixSize labels)).max?

/-- The last labels of a name, given from the right, with the name's final dot. -/
def lastLabels (name : String) (labels : List String) (n : Nat) : String :=
  ".".intercalate (labels.take n).reverse ++
    (if name.toList.getLast? = some '.' then "." else "")

/-- The suffix of a name, known or not, unless it is empty. -/
def anySuffix (name : String) : Option String :=
  let labels := labelsFromRight name
  let suffix := lastLabels name labels ((knownSuffixSize rules labels).getD 1)
  if suffix.isEmpty then none else some suffix

/-- The suffix of a name if a rule names it. -/
def publicSuffix (name : String) : Option String :=
  let labels := labelsFromRight name
  (knownSuffixSize rules labels).map (lastLabels name labels)

/-- The registered domain of a name: one label more than its suffix. A name that is too short to
hold a label and a dot before its suffix has none. -/
def registered (name : String) : Option String :=
  match anySuffix rules name with
  | none => none
  | some suffix =>
    if name.toList.length < suffix.toList.length + 2 then none
    else
      let front := name.toList.take (name.toList.length - suffix.toList.length - 1)
      let label := (front.reverse.takeWhile (· != '.')).reverse
      some (String.ofList label ++ "." ++ suffix)

end Suffixes

end Domain

end Rehearsal
