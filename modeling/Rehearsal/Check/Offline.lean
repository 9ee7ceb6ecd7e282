import Rehearsal.Check.Basic
import Rehearsal.Domain.Suffix
import Rehearsal.Net.Address

/-!
# Checks that ask nothing

Whether the method can be used at all, whether the name is one that a certificate can be issued for,
and whether the method suits a wildcard. They come first in a scan, so that hopeless cases cost no
lookup.
-/

namespace Rehearsal

namespace Check

/-! ### Methods -/

/-- The method is none. -/
def invalidMethod (method : Method) : Problem :=
  ⟨"InvalidMethod", s!"\"{method}\" is not a supported validation method.",
    "Supported methods: " ++ ", ".intercalate (Method.supported.map Method.name), .fatal⟩

/-- Is the method one? -/
def validMethod : Checker :=
  .offline "validMethod" fun _ method =>
    if method.isKnown then .error .notApplicable else .ok [invalidMethod method]

/-- Where the end of the methods with made-up names is explained. -/
def disabledMethodUrl : String :=
  "https://community.letsencrypt.org/t/" ++
    "important-what-you-need-to-know-about-tls-sni-validation-issues/50811"

/-- The method has been switched off. -/
def disabledMethod (method : Method) : Problem :=
  ⟨"ValidationMethodDisabled",
    s!"The validation method provided ({method}) has been disabled by Let's Encrypt. " ++
      "For more information, please visit the url in the details.",
    disabledMethodUrl, .fatal⟩

/-- Has the method been switched off? -/
def tlsSni : Checker :=
  .offline "tlssni" fun _ method =>
    if method.isDisabled then .ok [disabledMethod method] else .error .notApplicable

/-! ### Names -/

/-- The longest name that is accepted, without its wildcard. -/
def maxDomainLength : Nat := 230

/-- The name is not one that a certificate can be issued for. -/
def invalidDomain (domain reason : String) : Problem :=
  ⟨"InvalidDomain",
    s!"\"{domain}\" is not a valid domain name that Let's Encrypt would be able to issue a " ++
      "certificate for.",
    reason, .fatal⟩

/-- May the character stand in a name? -/
def isNameCharacter (c : Char) : Bool :=
  ('a' ≤ c && c ≤ 'z') || c.isDigit || c == '.' || c == '-'

/-- The verdict on a name by rules for suffixes: what is wrong with it, or a note that tells its
public suffix. -/
def classifyDomain (suffixes : List Domain.SuffixRule) (domain : String) : Problem :=
  match domain.toList.find? fun c => !isNameCharacter c with
  | some c => invalidDomain domain ("Invalid character present: " ++ String.ofList [c])
  | none =>
    if maxDomainLength < domain.toList.length then invalidDomain domain "Domain too long"
    else if (IpAddress.ofText? domain).isSome then invalidDomain domain "Domain is an IP address"
    else
      match Domain.publicSuffix suffixes domain with
      | none => invalidDomain domain "Domain doesn't end in a public TLD"
      | some suffix =>
        if suffix = domain then invalidDomain domain "Domain is a TLD"
        else
          .debug "PublicSuffix" "The IANA public suffix is the TLD of the Registered Domain"
            s!"The TLD for {domain} is: {suffix}"

/-- Is the name one that a certificate can be issued for, by rules for suffixes? -/
def validDomainBy (suffixes : List Domain.SuffixRule) : Checker :=
  .offline "validDomain" fun domain _ =>
    .ok [classifyDomain suffixes (Domain.stripWildcard domain).1]

/-- Is the name one that a certificate can be issued for? -/
def validDomain : Checker := validDomainBy Domain.sampleSuffixRules

/-- The method does not suit a wildcard. -/
def unsuitableMethod (domain : String) (method : Method) : Problem :=
  ⟨"MethodNotSuitable",
    s!"A wildcard domain like {domain} can only be issued using a dns-01 validation method.",
    s!"Invalid method: {method}", .fatal⟩

/-- Does the method suit a wildcard, if the name is one? -/
def wildcardDns01Only : Checker :=
  .offline "wildcardDNS01Only" fun domain method =>
    if (Domain.stripWildcard domain).2 && method ≠ .dns01 then
      .ok [unsuitableMethod domain method]
    else .error .notApplicable

end Check

end Rehearsal
