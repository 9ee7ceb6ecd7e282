import Rehearsal.Text.Blank
import Rehearsal.Text.Utf8

/-!
# Extended errors

A resolver may say in an option of its response why it failed. The option holds a number of two
bytes and then text, from which trailing NULs are removed.
-/

namespace Rehearsal

/-- What a resolver says about a failure. -/
structure ExtendedError where
  /-- The kind of failure. -/
  infoCode : Nat
  /-- What else the resolver says, perhaps nothing. -/
  extraText : String
  deriving DecidableEq, Repr

namespace ExtendedError

/-- The code of the option that holds an extended error. -/
def optionCode : Nat := 15

/-- Reads the content of the option. -/
def decode : Bytes → Option ExtendedError
  | high :: low :: text =>
    some ⟨256 * high.toNat + low.toNat,
      String.ofList (Text.dropEndWhile (· == '\x00') (Text.decodeLossy text).toList)⟩
  | _ => none

/-- The extended error among the options of a response, which are given by code. -/
def ofOptions (options : List (Nat × Bytes)) : Option ExtendedError :=
  match (options.filter fun o => o.1 == optionCode).getLast? with
  | some (_, content) => decode content
  | none => none

/-- The registered name of the kind of failure. -/
def purpose (e : ExtendedError) : String :=
  match e.infoCode with
  | 0 => "Other Error"
  | 1 => "Unsupported DNSKEY Algorithm"
  | 2 => "Unsupported DS Digest Type"
  | 3 => "Stale Answer"
  | 4 => "Forged Answer"
  | 5 => "DNSSEC Indeterminate"
  | 6 => "DNSSEC Bogus"
  | 7 => "Signature Expired"
  | 8 => "Signature Not Yet Valid"
  | 9 => "DNSKEY Missing"
  | 10 => "RRSIGs Missing"
  | 11 => "No Zone Key Bit Set"
  | 12 => "NSEC Missing"
  | 13 => "Cached Error"
  | 14 => "Not Ready"
  | 15 => "Blocked"
  | 16 => "Censored"
  | 17 => "Filtered"
  | 18 => "Prohibited"
  | 19 => "Stale NXDOMAIN Answer"
  | 20 => "Not Authoritative"
  | 21 => "Not Supported"
  | 22 => "No Reachable Authority"
  | 23 => "Network Error"
  | 24 => "Invalid Data"
  | _ => "Unknown Error"

/-- Does the failure concern validation? -/
def isDnssec (e : ExtendedError) : Bool :=
  e.infoCode == 1 || e.infoCode == 2 || (5 ≤ e.infoCode && e.infoCode ≤ 12)

/-- The error on one line. -/
def render (e : ExtendedError) : String :=
  s!"{e.purpose} ({e.infoCode})" ++ if e.extraText.isEmpty then "" else s!": {e.extraText}"

end ExtendedError

end Rehearsal
