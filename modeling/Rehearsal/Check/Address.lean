import Rehearsal.Check.Basic
import Rehearsal.Net.Block

/-!
# Addresses of the domain

For `http-01` the domain must have addresses, and all of them must lie in networks that can be
reached from everywhere.
-/

namespace Rehearsal

namespace Check

/-- The domain has no address. -/
def noRecords (domain : String) : Problem :=
  ⟨"NoRecords",
    s!"No valid A or AAAA records could be ultimately resolved for {domain}. This means that " ++
      "Let's Encrypt would not be able to to connect to your domain to perform HTTP " ++
      "validation, since it would not know where to connect to.",
    "No A or AAAA records found.", .fatal⟩

/-- The domain has an address in a reserved network. -/
def reservedAddress (domain : String) (address : IpAddress) : Problem :=
  ⟨"ReservedAddress",
    "A private, inaccessible, IANA/IETF-reserved IP address was found for " ++
      s!"{domain}. Let's Encrypt will always fail HTTP validation for any domain that is " ++
      "pointing to an address that is not routable on the internet. You should either remove " ++
      "this address and replace it with a public one or use the DNS validation method instead.",
    address.render, .fatal⟩

/-- The finding of a lookup that failed. -/
def failedLookup (domain : String) (type : RecordType) : LookupOutcome → List Problem
  | .ok _ => []
  | .error e => [.lookupFailed domain type.name e.message]

/-- The records of a lookup, none if it failed. -/
def recordsOf : LookupOutcome → List Record
  | .ok records => records
  | .error _ => []

/-- The findings about addresses, given the outcomes for A and AAAA. Nothing if the records cannot
be written. -/
def judgeAddresses (domain : String) (a aaaa : LookupOutcome) : Option (List Problem) :=
  let records := recordsOf a ++ recordsOf aaaa
  let addresses := Record.addresses records
  let front := failedLookup domain .a a ++ failedLookup domain .aaaa aaaa ++
    (addresses.filter IpAddress.isReserved).map (reservedAddress domain)
  if addresses.isEmpty then some (front ++ [noRecords domain])
  else
    (Record.textOfAll? records).map fun text =>
      front ++ [.debug "HTTPRecords" "A and AAAA records found for this domain" text]

/-- Does the domain have addresses, all of them reachable? -/
def dnsA : Checker :=
  .forMethod "dnsA" .http01 fun _ domain => do
    match ← Job.all [Job.lookup domain .aaaa, Job.lookup domain .a] with
    | [aaaa, a] =>
      match judgeAddresses domain a aaaa with
      | some problems => return .ok problems
      | none => .crash Record.unwritable
    | _ => return .ok []

end Check

end Rehearsal
