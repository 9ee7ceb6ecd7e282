import Rehearsal.Check.Basic
import Rehearsal.Domain.Suffix

/-!
# The challenge record

For `dns-01` the authority asks for TXT records at the challenge label below the domain. An error
there ends the issuance. A frequent mistake is to type the name of the zone twice; such a record is
found one level further down, unless a wildcard record answers there too, which a name that nobody
can have entered shows.
-/

namespace Rehearsal

namespace Check

/-- The label of challenge records. -/
def challengeLabel : String := "_acme-challenge"

/-- The name of a domain's challenge records. -/
def challengeName (domain : String) : String := s!"{challengeLabel}.{domain}"

/-! ### Errors -/

/-- The challenge record cannot be looked up. -/
def challengeError (domain : String) (e : LookupError) : Problem :=
  ⟨"TXTRecordError",
    s!"An error occurred while attempting to lookup the TXT record on {challengeLabel}.{domain} " ++
      ". Any resolver errors that the Let's Encrypt CA encounters on this record will cause " ++
      "certificate issuance to fail.",
    e.message, .fatal⟩

/-- Can the challenge record be looked up? -/
def txtRecord : Checker :=
  .forMethod "txtRecord" .dns01 fun _ domain => do
    let domain := (Domain.stripWildcard domain).1
    match ← Job.lookup (challengeName domain) .txt with
    | .ok _ => return .ok []
    | .error e => return .ok [challengeError domain e]

/-! ### Names typed twice -/

/-- The TXT records of a name. -/
structure TxtAnswer where
  /-- The records, each on a line. -/
  records : List String
  /-- The texts of the records, sorted, each on a line. -/
  combined : String
  deriving DecidableEq, Repr

namespace TxtAnswer

/-- The TXT records among records. -/
def ofRecords (records : List Record) : TxtAnswer :=
  let txt := records.filter fun r => r.txtParts?.isSome
  ⟨txt.filterMap Record.text?, "\n".intercalate ((Record.txtStrings txt).mergeSort (· ≤ ·))⟩

/-- The TXT records of a lookup; one that failed has none. -/
def ofOutcome : LookupOutcome → TxtAnswer
  | .ok records => ofRecords records
  | .error _ => ofRecords []

end TxtAnswer

/-- Names that challenge records have if the name of the zone was typed twice. -/
def doubledNames (suffixes : List Domain.SuffixRule) (domain : String) : List String :=
  s!"{challengeName domain}.{domain}" ::
    ((Domain.registered suffixes domain).filter (· ≠ domain)).toList.map fun registered =>
      s!"{challengeName domain}.{registered}"

/-- Eight hexadecimal digits. -/
def hexLabel (n : Nat) : String :=
  let digits := Nat.toDigits 16 (n % 4294967296)
  String.ofList (List.replicate (8 - digits.length) '0' ++ digits)

/-- A name below the challenge label that nobody has entered. -/
def controlName (domain : String) (drawn : Nat) : String :=
  s!"{challengeLabel}.rand-{hexLabel drawn}.{domain}"

/-- Records were found whose names were typed twice. -/
def doubledLabel (found : List TxtAnswer) : Problem :=
  ⟨"TXTDoubleLabel",
    "Some DNS records were found that indicate TXT records may have been incorrectly manually " ++
      "entered into DNS editor interfaces. The correct way to enter these records is to either " ++
      "remove the domain from the label (so enter \"_acme-challenge.www.example.org\" as " ++
      "\"_acme-challenge.www\") or include a period (.) at the end of the label (enter " ++
      "\"_acme-challenge.example.org.\").",
    "The following probably-erroneous TXT records were found:\n" ++
      "\n".intercalate (found.flatMap TxtAnswer.records),
    .warning⟩

/-- The verdict on the answers for doubled names, given the answer for the control name. -/
def judgeDoubled (answers : List TxtAnswer) (control : TxtAnswer) : List Problem :=
  let found := answers.filter fun a => !a.records.isEmpty
  if found.isEmpty then []
  else if !control.combined.isEmpty && found.any fun a => a.combined = control.combined then []
  else [doubledLabel found]

/-- Are there challenge records whose names were typed twice, by rules for suffixes? -/
def txtDoubledLabelBy (suffixes : List Domain.SuffixRule) : Checker :=
  .forMethod "txtDoubledLabel" .dns01 fun _ domain => do
    let domain := (Domain.stripWildcard domain).1
    let drawn ← Job.ask (.draw 4294967296)
    let names := doubledNames suffixes domain ++ [controlName domain drawn]
    let outcomes ← Job.all (names.map fun name => Job.lookup name .txt)
    let answers := outcomes.map TxtAnswer.ofOutcome
    return .ok (judgeDoubled answers.dropLast (answers.getLastD (.ofRecords [])))

/-- Are there challenge records whose names were typed twice? -/
def txtDoubledLabel : Checker := txtDoubledLabelBy Domain.sampleSuffixRules

end Check

end Rehearsal
