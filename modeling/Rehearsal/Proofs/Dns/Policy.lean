import Rehearsal.Proofs.Dns.Record
import Rehearsal.Proofs.Domain.Spelling
import Mathlib.Logic.Relation

/-!
# The verdict of CAA records

A set of CAA records forbids to issue for one of two reasons. A critical record with a tag that the
authority does not know comes first; otherwise the records that decide, if there are any, have to
name the issuer.

What is reported depends on few things about each record, its `Bearing`, and only through whether
there is a record with them. So the order of the records does not matter, neither does the spelling
of their tags and issuers, nor what else was in the answer.

## Main definitions

* `CaaRecord.Bearing`: what the verdict asks of a record
* `Caa.Rewords`: an answer that says the same in another way
* `Caa.reported`: the names and severities of the findings about an answer

## Main results

* `Caa.evaluate_map`: what is reported, by the bearings of the records
* `Caa.reported_eq_of_rewords`: answers that say the same have the same findings
* `Caa.evaluate_verdict`: the verdict of every set of records
-/

namespace Rehearsal

theorem isEmpty_filter {α : Type} (p : α → Bool) (l : List α) :
    (l.filter p).isEmpty = !l.any p := by
  rw [Bool.eq_iff_iff, List.isEmpty_iff, List.filter_eq_nil_iff, Bool.not_eq_true',
    List.any_eq_false]

namespace CaaRecord

/-- What the verdict asks of a record. -/
structure Bearing where
  /-- Does it demand understanding of a tag that is not understood? -/
  unknown : Bool
  /-- Does it say who may issue? -/
  issue : Bool
  /-- Does it say who may issue for wildcards? -/
  wild : Bool
  /-- Does it name the issuer? -/
  allows : Bool

/-- What the verdict asks of a record. -/
def bearing (r : CaaRecord) : Bearing :=
  ⟨r.isCriticalUnknown, r.isIssue, r.isIssueWild, r.issuer == some Caa.issuer⟩

end CaaRecord

namespace Caa

open CaaRecord

variable {domain : String} {wildcard : Bool} {found : List CaaRecord}

/-! ### What is reported about a set of records -/

/-- Is the record among those that decide? -/
def decides (wildcard : Bool) (bearings : List Bearing) (b : Bearing) : Bool :=
  if wildcard && bearings.any Bearing.wild then b.wild else b.issue

/-- Are there records that decide, none of which names the issuer? -/
def refuses (wildcard : Bool) (bearings : List Bearing) : Bool :=
  bearings.any (decides wildcard bearings) &&
    !bearings.any fun b => decides wildcard bearings b && b.allows

/-- The name of the fatal finding about records with some bearings, if there is one. -/
def fatalName (wildcard : Bool) (bearings : List Bearing) : Option String :=
  if bearings.any Bearing.unknown then some "CAACriticalUnknown"
  else if refuses wildcard bearings then some "CAAIssuanceNotAllowed"
  else none

/-- Whether there are records with some bearing is all that matters. -/
theorem fatalName_congr (wildcard : Bool) {bearings bearings' : List Bearing}
    (h : ∀ b, b ∈ bearings ↔ b ∈ bearings') :
    fatalName wildcard bearings = fatalName wildcard bearings' := by
  have hany (p : Bearing → Bool) : bearings.any p = bearings'.any p := by
    rw [Bool.eq_iff_iff, List.any_eq_true, List.any_eq_true]
    exact exists_congr fun b => and_congr_left fun _ => h b
  have hdecides : decides wildcard bearings = decides wildcard bearings' := by
    funext b
    rw [decides, decides, hany]
  have hrefuses : refuses wildcard bearings = refuses wildcard bearings' := by
    rw [refuses, refuses, hdecides, hany, hany]
  rw [fatalName, fatalName, hany, hrefuses]

theorem relevant_eq (wildcard : Bool) (found : List CaaRecord) :
    relevant wildcard found =
      found.filter fun r => decides wildcard (found.map bearing) r.bearing := by
  have hwild : (found.map bearing).any Bearing.wild = !(found.filter isIssueWild).isEmpty := by
    rw [isEmpty_filter, Bool.not_not, List.any_map]
    rfl
  unfold relevant decides
  rw [hwild]
  dsimp only
  split <;> rfl

theorem allows_relevant (wildcard : Bool) (found : List CaaRecord) :
    allows (relevant wildcard found) = !refuses wildcard (found.map bearing) := by
  rw [relevant_eq, allows, isEmpty_filter, List.any_filter, refuses, List.any_map, List.any_map,
    Bool.not_and, Bool.not_not]
  rfl

/-- A verdict is a note and at most one more finding. -/
theorem evaluate_eq (domain : String) (wildcard : Bool) (found : List CaaRecord) :
    evaluate domain wildcard found = note found ::
      if (found.filter isCriticalUnknown).isEmpty then
        if allows (relevant wildcard found) then []
        else [notAllowed domain wildcard (relevant wildcard found)]
      else [criticalUnknown domain wildcard (found.filter isCriticalUnknown)] := by
  unfold evaluate
  dsimp only
  cases (found.filter isCriticalUnknown).isEmpty <;> cases allows (relevant wildcard found) <;> rfl

/-- **What is reported, by the bearings of the records.** -/
theorem evaluate_map (domain : String) (wildcard : Bool) (found : List CaaRecord) :
    (evaluate domain wildcard found).map (fun p => (p.name, p.severity)) = ("CAA", .debug) ::
      ((fatalName wildcard (found.map bearing)).map fun name => (name, Severity.fatal)).toList := by
  have hunknown : (found.map bearing).any Bearing.unknown = found.any isCriticalUnknown :=
    List.any_map
  rw [evaluate_eq, fatalName, hunknown, isEmpty_filter, allows_relevant, List.map_cons]
  refine congrArg₂ _ rfl ?_
  cases found.any isCriticalUnknown with
  | true => rfl
  | false => cases refuses wildcard (found.map bearing) <;> rfl

/-! ### What is reported about an answer -/

/-- A record with other data. -/
def withData (r : Record) (data : RecordData) : Record := { r with data := some data }

/-- What the verdict asks of a record in an answer. -/
def Bears (r : Record) (b : Bearing) : Prop := ∃ c, ofRecord? r = some (some c) ∧ c.bearing = b

/-- What the verdict asks of the data of a record. -/
def bearingOf (critical : Bool) (tag : CaaTag) (value : CaaValue) : Bearing :=
  bearing ⟨critical, tag.lowerText, issuerOf value, ""⟩

section Data

variable {r : Record} {critical : Bool} {tag : CaaTag} {value : CaaValue}

theorem isUnwritable_withData_iff : (withData r (.caa critical tag value)).IsUnwritable ↔
    ∃ bytes, value = .raw bytes ∧ Text.decode? bytes = none := by
  constructor
  · rintro ⟨_, _, bytes, hdata, hbytes⟩
    obtain ⟨-, -, rfl⟩ := RecordData.caa.inj (Option.some.inj hdata)
    exact ⟨bytes, rfl, hbytes⟩
  · rintro ⟨bytes, rfl, hbytes⟩
    exact ⟨critical, tag, bytes, rfl, hbytes⟩

theorem bears_withData_iff {b : Bearing} : Bears (withData r (.caa critical tag value)) b ↔
    (¬∃ bytes, value = .raw bytes ∧ Text.decode? bytes = none) ∧
      bearingOf critical tag value = b := by
  rw [← isUnwritable_withData_iff (r := r), ← Record.text?_eq_none_iff, Bears]
  unfold ofRecord?
  dsimp only [withData]
  generalize Record.text? _ = text
  cases text with
  | none => simp
  | some text =>
    rw [and_iff_right (Option.some_ne_none text)]
    constructor
    · rintro ⟨c, hc, rfl⟩
      obtain rfl := Option.some.inj (Option.some.inj hc)
      rfl
    · exact fun h => ⟨_, rfl, h⟩

/-- A record that says nothing about issuing asks nothing. -/
theorem not_bears_of_not_isCaa {r : Record} (h : ¬r.IsCaa) (b : Bearing) : ¬Bears r b := by
  rintro ⟨c, hc, -⟩
  exact h (isCaa_of_ofRecord? hc)

/-- A tag is compared with keywords only. -/
theorem lowerText_eq_iff {tag : CaaTag} {keyword : String} :
    tag.lowerText = keyword ↔ Text.lower tag.text.toList = keyword.toList := by
  have hform : tag.lowerText = String.ofList (Text.lower tag.text.toList) := by
    cases tag with
    | issue | issueWild | iodef => decide +kernel
    | unknown text => rfl
  rw [hform, ← String.toList_inj, String.toList_ofList]

theorem bearingOf_congr_tag {tag tag' : CaaTag}
    (h : Text.SameLetters tag.text.toList tag'.text.toList) :
    bearingOf critical tag value = bearingOf critical tag' value := by
  have hsame {keyword : String} (hkeyword : Text.IsKeyword keyword.toList) :
      (tag.lowerText == keyword) = (tag'.lowerText == keyword) := by
    rw [Bool.eq_iff_iff, beq_iff_eq, beq_iff_eq, lowerText_eq_iff, lowerText_eq_iff,
      h.lower_eq_iff hkeyword]
  have hissue : (tag.lowerText == "issue") = (tag'.lowerText == "issue") := hsame rfl
  have hwild : (tag.lowerText == "issuewild") = (tag'.lowerText == "issuewild") := hsame rfl
  have hiodef : (tag.lowerText == "iodef") = (tag'.lowerText == "iodef") := hsame rfl
  simp only [bearingOf, bearing, isCriticalUnknown, isIssue, isIssueWild, List.contains_cons,
    List.contains_nil, hissue, hwild, hiodef]

theorem bearingOf_congr_issuer {name name' : DomainName} {parameters : List (String × String)}
    (h : Domain.normalize name.render = issuer ↔ Domain.normalize name'.render = issuer) :
    bearingOf critical tag (.issuer (some name) parameters) =
      bearingOf critical tag (.issuer (some name') parameters) := by
  have hsame : (some (Domain.normalize name.render) == some issuer) =
      (some (Domain.normalize name'.render) == some issuer) := by
    rw [Bool.eq_iff_iff, beq_iff_eq, beq_iff_eq, Option.some.injEq, Option.some.injEq, h]
  simp only [bearingOf, bearing, isCriticalUnknown, isIssue, isIssueWild, issuerOf, hsame]

end Data

/-! ### Answers that say the same -/

/-- A tag or an issuer is spelled in another way. -/
inductive Respells : RecordData → RecordData → Prop where
  /-- Letters of the tag change their case. -/
  | tag {critical : Bool} {tag tag' : CaaTag} {value : CaaValue}
      (h : Text.SameLetters tag.text.toList tag'.text.toList) :
    Respells (.caa critical tag value) (.caa critical tag' value)
  /-- Letters of the issuer change their case. -/
  | issuer {critical : Bool} {tag : CaaTag} {name name' : DomainName}
      {parameters : List (String × String)}
      (h : Text.SameLetters name.render.toList name'.render.toList) :
    Respells (.caa critical tag (.issuer (some name) parameters))
      (.caa critical tag (.issuer (some name') parameters))
  /-- The issuer is written with or without the dot of the root. -/
  | root {critical : Bool} {tag : CaaTag} {name : DomainName} {parameters : List (String × String)}
      (h : name.IsProper) (root : Bool) :
    Respells (.caa critical tag (.issuer (some name) parameters))
      (.caa critical tag (.issuer (some { name with isAbsolute := root }) parameters))

/-- An answer says the same in another way. -/
inductive Rewords : List Record → List Record → Prop where
  /-- The records stand in another order. -/
  | permuted {records records' : List Record} (h : records.Perm records') : Rewords records records'
  /-- A record is spelled in another way. -/
  | respelled (front back : List Record) (r : Record) {data data' : RecordData}
      (h : Respells data data') :
    Rewords (front ++ withData r data :: back) (front ++ withData r data' :: back)
  /-- There is another record, which says nothing about issuing. -/
  | inserted (front back : List Record) {r : Record} (h : ¬r.IsCaa) :
    Rewords (front ++ back) (front ++ r :: back)

theorem Respells.same {data data' : RecordData} (h : Respells data data') (r : Record) :
    ((withData r data).IsUnwritable ↔ (withData r data').IsUnwritable) ∧
      ∀ b, Bears (withData r data) b ↔ Bears (withData r data') b := by
  have hkeyword : Text.IsKeyword Caa.issuer.toList := rfl
  cases h with
  | tag h => simp [isUnwritable_withData_iff, bears_withData_iff, bearingOf_congr_tag h]
  | issuer h =>
    have hsame := Domain.normalize_eq_iff_of_sameLetters h hkeyword
    simp [isUnwritable_withData_iff, bears_withData_iff, bearingOf_congr_issuer hsame]
  | root h root =>
    have hsame := DomainName.normalize_render_eq_iff h root hkeyword
    simp [isUnwritable_withData_iff, bears_withData_iff, bearingOf_congr_issuer hsame]

/-- What is asked of the records is the same in both answers. -/
theorem Rewords.same {records records' : List Record} (h : Rewords records records') :
    ((∃ r ∈ records, r.IsUnwritable) ↔ ∃ r ∈ records', r.IsUnwritable) ∧
      ∀ b, (∃ r ∈ records, Bears r b) ↔ ∃ r ∈ records', Bears r b := by
  cases h with
  | permuted h => simp only [h.mem_iff, implies_true, and_self]
  | respelled front back r h =>
    obtain ⟨hunwritable, hbears⟩ := h.same r
    simp only [List.mem_append, List.mem_cons, or_and_right, exists_or, exists_eq_left, hunwritable,
      hbears, implies_true, and_self]
  | inserted front back h =>
    simp [or_and_right, exists_or, not_bears_of_not_isCaa h, mt Record.IsUnwritable.isCaa h]

/-- The names and severities of what is reported about an answer, unless it breaks down. -/
def reported (domain : String) (wildcard : Bool) (records : List Record) :
    Option (List (String × Severity)) :=
  (ofRecords? records).map fun found =>
    (evaluate domain wildcard found).map fun p => (p.name, p.severity)

theorem mem_map_bearing_iff {records : List Record} (h : ofRecords? records = some found)
    {b : Bearing} : b ∈ found.map bearing ↔ ∃ r ∈ records, Bears r b := by
  rw [List.mem_map]
  constructor
  · rintro ⟨c, hc, rfl⟩
    obtain ⟨r, hr, hpolicy⟩ := (mem_iff h).mp hc
    exact ⟨r, hr, c, hpolicy, rfl⟩
  · rintro ⟨r, hr, c, hpolicy, rfl⟩
    exact ⟨c, (mem_iff h).mpr ⟨r, hr, hpolicy⟩, rfl⟩

theorem Rewords.reported_eq {records records' : List Record} (h : Rewords records records')
    (domain : String) (wildcard : Bool) :
    reported domain wildcard records = reported domain wildcard records' := by
  obtain ⟨hunwritable, hbears⟩ := h.same
  rw [← ofRecords?_eq_none_iff, ← ofRecords?_eq_none_iff] at hunwritable
  unfold reported
  cases hfound : ofRecords? records with
  | none => rw [hunwritable.mp hfound]
  | some found =>
    cases hfound' : ofRecords? records' with
    | none =>
      rw [hunwritable.mpr hfound'] at hfound
      cases hfound
    | some found' =>
      rw [Option.map_some, Option.map_some, evaluate_map, evaluate_map, fatalName_congr wildcard]
      intro b
      rw [mem_map_bearing_iff hfound, mem_map_bearing_iff hfound', hbears b]

/-- **Answers that say the same have the same findings.** -/
theorem reported_eq_of_rewords {records records' : List Record}
    (h : Relation.EqvGen Rewords records records') (domain : String) (wildcard : Bool) :
    reported domain wildcard records = reported domain wildcard records' := by
  induction h with
  | rel _ _ h => exact h.reported_eq domain wildcard
  | refl => rfl
  | symm _ _ _ ih => exact ih.symm
  | trans _ _ _ _ _ ih ih' => exact ih.trans ih'

/-! ### The verdict -/

/-- **The verdict of every set of records.** It is a note that lists the issuer records, and at most
one fatal finding. Answers that say the same in another way have the same verdict, up to what it
lists. -/
theorem evaluate_verdict (domain : String) (wildcard : Bool) :
    (∀ found : List CaaRecord,
      let issue := found.filter fun r => r.tag = "issue"
      let wild := found.filter fun r => r.tag = "issuewild"
      let unknown := found.filter fun r => r.critical ∧ r.tag ∉ ["issue", "issuewild", "iodef"]
      let deciding := if wildcard ∧ wild ≠ [] then wild else issue
      let lines (records : List CaaRecord) := "\n".intercalate (records.map CaaRecord.text)
      ∃ note fatal, evaluate domain wildcard found = note :: fatal ∧
        note.name = "CAA" ∧ note.severity = .debug ∧ note.detail = lines (issue ++ wild) ∧
        fatal.length ≤ 1 ∧
        (∀ p ∈ fatal, p.severity = .fatal ∧
          (p.name = "CAACriticalUnknown" ∧ p.detail = lines unknown ∨
            p.name = "CAAIssuanceNotAllowed" ∧ p.detail = lines deciding)) ∧
        ((∃ p ∈ fatal, p.name = "CAACriticalUnknown") ↔ unknown ≠ []) ∧
        ((∃ p ∈ fatal, p.name = "CAAIssuanceNotAllowed") ↔
          unknown = [] ∧ deciding ≠ [] ∧ ∀ r ∈ deciding, r.issuer ≠ some "letsencrypt.org")) ∧
    ∀ records records', Relation.EqvGen Rewords records records' →
      reported domain wildcard records = reported domain wildcard records' := by
  refine ⟨fun found => ?_, fun records records' h => reported_eq_of_rewords h domain wildcard⟩
  intro issue wild unknown deciding lines
  have hunknown : found.filter isCriticalUnknown = unknown := by
    refine List.filter_congr fun r _ => ?_
    simp [isCriticalUnknown]
  have hdeciding : relevant wildcard found = deciding := by
    refine if_congr ?_ rfl rfl
    rw [Bool.and_eq_true, Bool.not_eq_true', Bool.eq_false_iff, ne_eq, List.isEmpty_iff]
    rfl
  have hallows : allows deciding = true ↔
      ¬(deciding ≠ [] ∧ ∀ r ∈ deciding, r.issuer ≠ some "letsencrypt.org") := by
    rw [allows, Bool.or_eq_true, List.isEmpty_iff, List.any_eq_true]
    simp [issuer, imp_iff_not_or]
  refine ⟨note found, _, evaluate_eq domain wildcard found, rfl, rfl, rfl, ?_⟩
  rw [hunknown, hdeciding]
  by_cases hnone : unknown = []
  · rw [if_pos (List.isEmpty_iff.mpr hnone)]
    by_cases hallowed : allows deciding = true
    · rw [if_pos hallowed]
      exact ⟨Nat.zero_le _, fun _ hp => absurd hp List.not_mem_nil,
        iff_of_false (by simp) (not_not.mpr hnone),
        iff_of_false (by simp) fun h => hallows.mp hallowed h.2⟩
    · rw [if_neg hallowed]
      have hrefused := not_not.mp (mt hallows.mpr hallowed)
      exact ⟨le_rfl, List.forall_mem_singleton.mpr ⟨rfl, .inr ⟨rfl, rfl⟩⟩,
        iff_of_false (by simp [notAllowed]) (not_not.mpr hnone),
        iff_of_true ⟨_, List.mem_singleton_self _, rfl⟩ ⟨hnone, hrefused⟩⟩
  · rw [if_neg (mt List.isEmpty_iff.mp hnone)]
    exact ⟨le_rfl, List.forall_mem_singleton.mpr ⟨rfl, .inl ⟨rfl, rfl⟩⟩,
      iff_of_true ⟨_, List.mem_singleton_self _, rfl⟩ hnone,
      iff_of_false (by simp [criticalUnknown]) fun h => hnone h.1⟩

/-- A tag and an issuer in other letters, with the dot of the root, and a record of another type. -/
theorem reported_other_spelling :
    let issues (tag : CaaTag) (name : DomainName) : Record :=
      ⟨⟨[], true⟩, 300, .caa, some (.caa true tag (.issuer (some name) []))⟩
    let answer := [issues .issue ⟨["letsencrypt".toList, "org".toList], false⟩]
    let answer' := [.ofData ⟨[], true⟩ 300 (.a 0xC0000201),
      issues (.unknown "Issue") ⟨["LetsEncrypt".toList, "ORG".toList], true⟩]
    Relation.EqvGen Rewords answer answer' ∧
      reported "example.org" true answer = reported "example.org" true answer' ∧
      reported "example.org" true answer' = some [("CAA", .debug)] := by
  intro issues answer answer'
  let plain : DomainName := ⟨["letsencrypt".toList, "org".toList], false⟩
  let cased : DomainName := ⟨["LetsEncrypt".toList, "ORG".toList], false⟩
  have hproper : cased.IsProper := DomainName.isProper_of_ofText?
    (show DomainName.ofText? "LetsEncrypt.ORG" = .ok cased by decide +kernel)
  have hletters : Text.SameLetters plain.render.toList cased.render.toList := by decide +kernel
  have htag : Text.SameLetters CaaTag.issue.text.toList (CaaTag.unknown "Issue").text.toList := by
    decide +kernel
  have hspelled : Rewords answer [issues (.unknown "Issue") plain] :=
    .respelled [] [] (issues .issue plain) (.tag htag)
  have hissuer : Rewords [issues (.unknown "Issue") plain] [issues (.unknown "Issue") cased] :=
    .respelled [] [] (issues .issue plain) (.issuer hletters)
  have hroot : Rewords [issues (.unknown "Issue") cased]
      [issues (.unknown "Issue") { cased with isAbsolute := true }] :=
    .respelled [] [] (issues .issue plain) (.root hproper true)
  have hinsert : Rewords [issues (.unknown "Issue") { cased with isAbsolute := true }] answer' :=
    .inserted [] _ (by rintro ⟨_, _, _, h⟩; cases h)
  have hsame : Relation.EqvGen Rewords answer answer' :=
    .trans _ _ _ (.rel _ _ hspelled) (.trans _ _ _ (.rel _ _ hissuer)
      (.trans _ _ _ (.rel _ _ hroot) (.rel _ _ hinsert)))
  have heq := (evaluate_verdict "example.org" true).2 answer answer' hsame
  exact ⟨hsame, heq, heq.symm.trans (by decide +kernel)⟩

end Caa

end Rehearsal
