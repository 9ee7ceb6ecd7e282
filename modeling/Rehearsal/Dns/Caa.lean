import Rehearsal.Dns.Record
import Rehearsal.Domain.Normal
import Rehearsal.Problem

/-!
# Who may issue

CAA records name the authorities that may issue certificates for a domain. `Caa.evaluate` gives the
verdict of a set of records: a note that lists the issuer records, and at most one fatal finding.
-/

namespace Rehearsal

/-- A CAA record as policy sees it. -/
structure CaaRecord where
  /-- Must an authority understand the tag? -/
  critical : Bool
  /-- The tag in small letters. -/
  tag : String
  /-- The issuer in its normal form. -/
  issuer : Option String
  /-- The record on one line. -/
  text : String
  deriving DecidableEq, Repr

namespace CaaRecord

/-- The issuer that a value names. -/
def issuerOf : CaaValue → Option String
  | .issuer (some name) _ => some (Domain.normalize name.render)
  | _ => none

/-- The policy of one record: nothing if it is no CAA record, and a failure if it cannot be
written. -/
def ofRecord? (r : Record) : Option (Option CaaRecord) :=
  match r.data with
  | some (.caa critical tag value) =>
    r.text?.map fun text => some ⟨critical, tag.lowerText, issuerOf value, text⟩
  | _ => some none

/-- The policy in a list of records, if all CAA records can be written. -/
def ofRecords? (records : List Record) : Option (List CaaRecord) :=
  (records.mapM ofRecord?).map fun found => found.filterMap id

/-- Does the record say who may issue? -/
def isIssue (r : CaaRecord) : Bool := r.tag == "issue"

/-- Does the record say who may issue for wildcards? -/
def isIssueWild (r : CaaRecord) : Bool := r.tag == "issuewild"

/-- Does the record demand understanding of a tag that is not understood? -/
def isCriticalUnknown (r : CaaRecord) : Bool :=
  r.critical && !(["issue", "issuewild", "iodef"].contains r.tag)

end CaaRecord

namespace Caa

/-- The issuer that must be allowed. -/
def issuer : String := "letsencrypt.org"

/-- Records one per line. -/
def listing (records : List CaaRecord) : String := "\n".intercalate (records.map CaaRecord.text)

/-- The note that lists the issuer records. -/
def note (records : List CaaRecord) : Problem :=
  .debug "CAA"
    ("CAA records control authorization for certificate authorities to issue certificates for " ++
      "a domain")
    (listing (records.filter CaaRecord.isIssue ++ records.filter CaaRecord.isIssueWild))

/-- Records demand understanding of tags that are not understood. -/
def criticalUnknown (domain : String) (wildcard : Bool) (records : List CaaRecord) : Problem :=
  ⟨"CAACriticalUnknown",
    s!"CAA record(s) exist on {domain} (wildcard={wildcard}) that are marked as critical but " ++
      "are unknown to Let's Encrypt. These record(s) as shown in the detail must be removed, or " ++
      "marked as non-critical, before a certificate can be issued by the Let's Encrypt CA.",
    listing records, .fatal⟩

/-- No record allows the issuer. -/
def notAllowed (domain : String) (wildcard : Bool) (records : List CaaRecord) : Problem :=
  ⟨"CAAIssuanceNotAllowed",
    s!"No CAA record on {domain} (wildcard={wildcard}) contains the issuance domain " ++
      s!"\"{issuer}\". You must either add an additional record to include \"{issuer}\" or " ++
      "remove every existing CAA record. A list of the CAA records are provided in the details.",
    listing records, .fatal⟩

/-- The records that decide: those for wildcards if one is asked for and there are any. -/
def relevant (wildcard : Bool) (records : List CaaRecord) : List CaaRecord :=
  let wild := records.filter CaaRecord.isIssueWild
  if wildcard && !wild.isEmpty then wild else records.filter CaaRecord.isIssue

/-- Does the set of records that decides allow the issuer? An empty set forbids nothing. -/
def allows (records : List CaaRecord) : Bool :=
  records.isEmpty || records.any fun r => r.issuer == some issuer

/-- The verdict of the records found at a domain. -/
def evaluate (domain : String) (wildcard : Bool) (records : List CaaRecord) : List Problem :=
  let unknown := records.filter CaaRecord.isCriticalUnknown
  if !unknown.isEmpty then [note records, criticalUnknown domain wildcard unknown]
  else if allows (relevant wildcard records) then [note records]
  else [note records, notAllowed domain wildcard (relevant wildcard records)]

end Caa

end Rehearsal
