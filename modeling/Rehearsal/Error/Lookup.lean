import Rehearsal.Text.Quoted

/-!
# Failed lookups

Why a question to the domain name system has no answer. An absent name or an absent record is no
failure: it is an answer without records.
-/

namespace Rehearsal

/-- Why a lookup failed. The name is the one that was asked for, with its final dot. -/
inductive LookupError where
  /-- There was no answer in time. -/
  | timeout (name type : String) (seconds : Nat)
  /-- The resolver answered with a code that fails the lookup. -/
  | responseCode (name type code : String)
  /-- The answer did not validate; `extended` is what a public resolver says about it. -/
  | bogus (name type reason : String) (extended : Option String)
  /-- Anything else that kept the answer away. -/
  | resolution (name type message : String)
  /-- The name cannot be asked for. -/
  | invalidName (name message : String)
  deriving DecidableEq, Repr

namespace LookupError

/-- The text of an error. -/
def message : LookupError → String
  | timeout name type seconds =>
    s!"DNS lookup for {name}/{type} did not complete within {seconds}s. " ++
      "This usually means the domain's nameservers are slow or unresponsive"
  | responseCode name type code =>
    s!"DNS response for {name}/{type} did not have an acceptable response code: {code}"
  | bogus name type reason extended =>
    s!"DNSSEC: Bogus: validation of {name}/{type} failed: {reason}" ++
      match extended with
      | some text => s!" (extended error: {text})"
      | none => ""
  | resolution name type message => s!"Error resolving {name}/{type}: {message}"
  | invalidName name message => s!"{Text.quoted name} is not a valid DNS name: {message}"

/-- Did the answer fail to validate? -/
def isBogus : LookupError → Bool
  | bogus .. => true
  | _ => false

end LookupError

end Rehearsal
