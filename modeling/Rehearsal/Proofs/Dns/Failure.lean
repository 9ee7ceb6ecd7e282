import Rehearsal.Proofs.Text.Word
import Rehearsal.Dns.Resolver

/-!
# What a source of extended errors can change

The source is a resolver that nobody has reason to trust. It is asked after something failed, and
what it tells may add to the failure but must not replace it. So runs of one lookup are compared
that differ in the source alone: it may be absent, or silent, or tell anything. The lookup succeeds
in all of them or in none.

What a failure means is told here by what it is, without following the order in which the program
looks into it.

## Main definitions

* `Lookup.HoldsMarker`: a text holds a word that marks failed validation, in any case
* `Lookup.Failure.IsSuspect`: a failed validation may hide under the code
* `Lookup.Confirms`: what the source tells concerns validation
* `Lookup.Means`: what a failure means, given what the source tells

## Main results

* `Lookup.isMarked_iff`: the texts that are taken for failed validation
* `Lookup.means_iff`: a failure means what it is classified as, and nothing else
* `Lookup.run_refines`: what the source can change
-/

namespace Rehearsal

namespace ExtendedError

/-- The kinds of extended errors that concern validation. -/
def validationCodes : List Nat := [1, 2, 5, 6, 7, 8, 9, 10, 11, 12]

theorem isDnssec_iff (e : ExtendedError) : e.isDnssec = true ↔ e.infoCode ∈ validationCodes := by
  simp only [isDnssec, validationCodes, Bool.or_eq_true, Bool.and_eq_true, beq_iff_eq,
    decide_eq_true_eq, List.mem_cons, List.not_mem_nil, or_false]
  omega

end ExtendedError

namespace Lookup

/-! ### Failures -/

/-- The text holds a word that marks failed validation, in any case. -/
def HoldsMarker (message : String) : Prop :=
  ∃ marker ∈ markers, ∃ part, part <:+: message.toList ∧ Text.Spells marker.toList part

theorem isWord_of_mem_markers :
    ∀ marker ∈ markers, Text.IsWord marker.toList ∧ marker.toList ≠ [] := by
  decide +kernel

/-- **The texts that are taken for failed validation.** -/
theorem isMarked_iff {message : String} : isMarked message = true ↔ HoldsMarker message := by
  rw [isMarked, List.any_eq_true, HoldsMarker]
  refine exists_congr fun marker => and_congr_right fun hmarker => ?_
  obtain ⟨hword, hne⟩ := isWord_of_mem_markers marker hmarker
  exact Text.mentions_lower_iff hword hne message

namespace Failure

/-- The code is one under which a failed validation may hide. -/
def IsSuspect (failure : Failure) : Prop :=
  failure = .noRecords .serverFailure ∨ failure = .noRecords .refused

/-- The failure is a text that tells of failed validation. -/
def IsMarked (failure : Failure) : Prop :=
  ∃ message, failure = .other message ∧ HoldsMarker message

theorem isSuspect_noRecords_iff {code : ResponseCode} :
    (noRecords code).IsSuspect ↔ isSuspect code = true := by
  simp [IsSuspect, isSuspect]

/-- The source is consulted about these failures only. -/
theorem consults_iff {failure : Failure} :
    failure.consults = true ↔ failure.IsSuspect ∨ failure.IsMarked := by
  cases failure with
  | noRecords code => simp [consults, IsMarked, isSuspect_noRecords_iff]
  | timeout => simp [consults, IsSuspect, IsMarked]
  | other message => simp [consults, IsSuspect, IsMarked, isMarked_iff]

end Failure

/-! ### Meanings -/

/-- What the source tells concerns validation. -/
def Confirms (said : Option ExtendedError) : Prop :=
  ∃ e, said = some e ∧ e.infoCode ∈ ExtendedError.validationCodes

/-- What a failure means for a lookup of a name, given what the source of extended errors tells. -/
inductive Means (name : String) (type : RecordType) (seconds : Nat) (said : Option ExtendedError) :
    Failure → LookupOutcome → Prop where
  /-- Nothing is there, and that is no error. -/
  | empty {code : ResponseCode} (harmless : ¬(Failure.noRecords code).IsSuspect) :
    Means name type seconds said (.noRecords code) (.ok [])
  /-- The source confirms that validation failed. -/
  | confirmed {code : ResponseCode} {e : ExtendedError}
    (suspect : (Failure.noRecords code).IsSuspect) (told : said = some e)
    (concerns : e.infoCode ∈ ExtendedError.validationCodes) :
    Means name type seconds said (.noRecords code)
      (.error (.bogus name type.name code.text (some e.render)))
  /-- The source does not confirm it. -/
  | unconfirmed {code : ResponseCode} (suspect : (Failure.noRecords code).IsSuspect)
    (unconfirmed : ¬Confirms said) :
    Means name type seconds said (.noRecords code)
      (.error (.responseCode name type.name code.text))
  /-- There was no response in time. -/
  | late : Means name type seconds said .timeout (.error (.timeout name type.name seconds))
  /-- The failure tells itself that validation failed. -/
  | marked {message : String} (marked : HoldsMarker message) :
    Means name type seconds said (.other message)
      (.error (.bogus name type.name message (said.map ExtendedError.render)))
  /-- Anything else. -/
  | other {message : String} (unmarked : ¬HoldsMarker message) :
    Means name type seconds said (.other message)
      (.error (.resolution name type.name message))

/-- The kinds of outcomes. -/
inductive Kind where
  | records
  | timeout
  | responseCode
  | bogus
  | resolution
  | invalidName
  deriving DecidableEq

/-- The kind of an outcome. -/
def kind : LookupOutcome → Kind
  | .ok _ => .records
  | .error (.timeout ..) => .timeout
  | .error (.responseCode ..) => .responseCode
  | .error (.bogus ..) => .bogus
  | .error (.resolution ..) => .resolution
  | .error (.invalidName ..) => .invalidName

section Meaning

variable {name : String} {type : RecordType} {seconds : Nat} {said : Option ExtendedError}
  {failure : Failure} {outcome : LookupOutcome}

theorem Means.eq_classify (h : Means name type seconds said failure outcome) :
    outcome = classify name type seconds said failure := by
  cases h with
  | empty harmless =>
    rw [Failure.isSuspect_noRecords_iff] at harmless
    rw [classify, if_neg harmless]
  | @confirmed _ e suspect told concerns =>
    rw [Failure.isSuspect_noRecords_iff] at suspect
    have hconcerns : e.isDnssec = true := e.isDnssec_iff.mpr concerns
    rw [classify, if_pos suspect, told, Option.filter_some, if_pos hconcerns]
  | unconfirmed suspect unconfirmed =>
    rw [Failure.isSuspect_noRecords_iff] at suspect
    have hnone : said.filter ExtendedError.isDnssec = none := by
      rw [Option.filter_eq_none_iff]
      exact fun e he hconcerns => unconfirmed ⟨e, he, e.isDnssec_iff.mp hconcerns⟩
    rw [classify, if_pos suspect, hnone]
  | late => rfl
  | marked marked => rw [classify, if_pos (isMarked_iff.mpr marked)]
  | other unmarked => rw [classify, if_neg (mt isMarked_iff.mp unmarked)]

theorem means_classify (name : String) (type : RecordType) (seconds : Nat)
    (said : Option ExtendedError) (failure : Failure) :
    Means name type seconds said failure (classify name type seconds said failure) := by
  cases failure with
  | noRecords code =>
    rw [classify]
    split
    next suspect =>
      have hsuspect := Failure.isSuspect_noRecords_iff.mpr suspect
      cases hfilter : said.filter ExtendedError.isDnssec with
      | some e =>
        obtain ⟨hsaid, hconcerns⟩ := Option.filter_eq_some_iff.mp hfilter
        exact .confirmed hsuspect hsaid (e.isDnssec_iff.mp hconcerns)
      | none =>
        refine .unconfirmed hsuspect ?_
        rintro ⟨e, he, hconcerns⟩
        exact Option.filter_eq_none_iff.mp hfilter e he (e.isDnssec_iff.mpr hconcerns)
    next harmless => exact .empty (mt Failure.isSuspect_noRecords_iff.mp harmless)
  | timeout => exact .late
  | other message =>
    rw [classify]
    split
    next marked => exact .marked (isMarked_iff.mp marked)
    next unmarked => exact .other (mt isMarked_iff.mpr unmarked)

/-- **A failure means what it is classified as**, and nothing else. -/
theorem means_iff : Means name type seconds said failure outcome ↔
    outcome = classify name type seconds said failure :=
  ⟨Means.eq_classify, fun h => h ▸ means_classify ..⟩

/-- **When a failure is none**: this does not depend on what the source tells. -/
theorem Means.eq_ok_iff (h : Means name type seconds said failure outcome)
    {records : List Record} :
    outcome = .ok records ↔
      records = [] ∧ (∃ code, failure = .noRecords code) ∧ ¬failure.IsSuspect := by
  cases h with
  | empty harmless => simp [harmless, eq_comm]
  | confirmed suspect | unconfirmed suspect => simp [suspect]
  | late | marked | other => simp

theorem Means.kind_eq_bogus_iff (h : Means name type seconds said failure outcome) :
    kind outcome = .bogus ↔ failure.IsSuspect ∧ Confirms said ∨ failure.IsMarked := by
  cases h with
  | empty harmless => simp [kind, harmless, Failure.IsMarked]
  | confirmed suspect told concerns =>
    exact iff_of_true rfl (.inl ⟨suspect, _, told, concerns⟩)
  | unconfirmed _ unconfirmed => simp [kind, unconfirmed, Failure.IsMarked]
  | late => simp [kind, Failure.IsSuspect, Failure.IsMarked]
  | marked marked => exact iff_of_true rfl (.inr ⟨_, rfl, marked⟩)
  | other unmarked => simp [kind, unmarked, Failure.IsSuspect, Failure.IsMarked]

theorem Means.kind_eq_responseCode_iff (h : Means name type seconds said failure outcome) :
    kind outcome = .responseCode ↔ failure.IsSuspect ∧ ¬Confirms said := by
  cases h with
  | empty harmless => simp [kind, harmless]
  | confirmed _ told concerns =>
    exact iff_of_false nofun fun hunconfirmed => hunconfirmed.2 ⟨_, told, concerns⟩
  | unconfirmed suspect unconfirmed => exact iff_of_true rfl ⟨suspect, unconfirmed⟩
  | late | marked | other => simp [kind, Failure.IsSuspect]

theorem Means.kind_eq_timeout_iff (h : Means name type seconds said failure outcome) :
    kind outcome = .timeout ↔ failure = .timeout := by
  cases h <;> simp [kind]

theorem Means.kind_eq_resolution_iff (h : Means name type seconds said failure outcome) :
    kind outcome = .resolution ↔ (∃ message, failure = .other message) ∧ ¬failure.IsMarked := by
  cases h with
  | empty | confirmed | unconfirmed | late => simp [kind]
  | marked marked => simp [kind, Failure.IsMarked, marked]
  | other unmarked => simp [kind, Failure.IsMarked, unmarked]

theorem Means.kind_ne_invalidName (h : Means name type seconds said failure outcome) :
    kind outcome ≠ .invalidName := by
  cases h <;> simp [kind]

/-- **The reason of failed validation is a text of the failure itself**, whatever the source
tells. -/
theorem Means.reason_eq {n t reason : String} {extended : Option String}
    (h : Means name type seconds said failure (.error (.bogus n t reason extended))) :
    (∃ code, failure = .noRecords code ∧ reason = code.text) ∨ failure = .other reason := by
  cases h with
  | confirmed => exact .inl ⟨_, rfl, rfl⟩
  | marked => exact .inr rfl

end Meaning

/-! ### Lookups -/

/-- What the source tells about a query, if there is a source. -/
def told (source : Option Source) (query : DomainName) (type : RecordType) :
    Option ExtendedError :=
  source.bind fun source => source query type

section Run

variable {seconds : Nat} {source : Option Source}
  {resolution : DomainName → RecordType → Resolution} {name : String} {type : RecordType}
  {query : DomainName} {failure : Failure}

/-- Where the source is not consulted, it does not matter what it would tell. -/
theorem classify_of_not_consults (h : failure.consults = false) (said : Option ExtendedError) :
    classify name type seconds said failure = classify name type seconds none failure := by
  cases failure with
  | noRecords code =>
    have hharmless : isSuspect code = false := h
    simp only [classify, hharmless, Bool.false_eq_true, if_false]
  | timeout => rfl
  | other message =>
    have hunmarked : isMarked message = false := h
    simp only [classify, hunmarked, Bool.false_eq_true, if_false]

/-- A failed lookup means what its failure does, given what the source tells. -/
theorem run_means (hname : DomainName.ofText? (Domain.absolute name) = .ok query)
    (hfailure : resolution query type = .error failure) :
    Means (Domain.absolute name) type seconds (told source query type) failure
      (run seconds source resolution name type).1 := by
  simp only [run, hname, hfailure]
  cases source with
  | none => exact means_classify ..
  | some source =>
    dsimp only
    split
    next => exact means_classify ..
    next hconsults =>
      rw [← classify_of_not_consults (Bool.eq_false_iff.mpr hconsults)]
      exact means_classify ..

/-- The source is consulted once about a failure that it may refine, and else not at all. -/
theorem run_asks (hname : DomainName.ofText? (Domain.absolute name) = .ok query)
    (hfailure : resolution query type = .error failure) :
    (source.isSome ∧ (failure.IsSuspect ∨ failure.IsMarked) →
        (run seconds source resolution name type).2 = [(query, type)]) ∧
      (¬(source.isSome ∧ (failure.IsSuspect ∨ failure.IsMarked)) →
        (run seconds source resolution name type).2 = []) := by
  simp only [run, hname, hfailure, ← Failure.consults_iff]
  cases source with
  | none => simp
  | some source => cases failure.consults <;> simp

/-- **What the source of extended errors can change.** A lookup that failed has records under one
source exactly if it has them under another, and these are none. Whatever the source is, the failure
has the meaning told by `Means`, so that it is known of which kind the outcome is. The reason of
failed validation is a text of the failure. The source is consulted at most once, about the name
that was looked up, and only about a code under which failed validation may hide or a text that
tells of it. -/
theorem run_refines (seconds : Nat) (resolution : DomainName → RecordType → Resolution)
    (name : String) (type : RecordType) {query : DomainName} {failure : Failure}
    (hname : DomainName.ofText? (Domain.absolute name) = .ok query)
    (hfailure : resolution query type = .error failure) :
    (∀ source source' records, (run seconds source resolution name type).1 = .ok records ↔
      (run seconds source' resolution name type).1 = .ok records) ∧
    ∀ source : Option Source,
      let said := told source query type
      let outcome := (run seconds source resolution name type).1
      let asked := (run seconds source resolution name type).2
      Means (Domain.absolute name) type seconds said failure outcome ∧
      (∀ records, outcome = .ok records ↔
        records = [] ∧ (∃ code, failure = .noRecords code) ∧ ¬failure.IsSuspect) ∧
      (kind outcome = .bogus ↔ failure.IsSuspect ∧ Confirms said ∨ failure.IsMarked) ∧
      (kind outcome = .responseCode ↔ failure.IsSuspect ∧ ¬Confirms said) ∧
      (kind outcome = .timeout ↔ failure = .timeout) ∧
      (kind outcome = .resolution ↔ (∃ message, failure = .other message) ∧ ¬failure.IsMarked) ∧
      kind outcome ≠ .invalidName ∧
      (∀ n t reason extended, outcome = .error (.bogus n t reason extended) →
        (∃ code, failure = .noRecords code ∧ reason = code.text) ∨ failure = .other reason) ∧
      (source.isSome ∧ (failure.IsSuspect ∨ failure.IsMarked) → asked = [(query, type)]) ∧
      (¬(source.isSome ∧ (failure.IsSuspect ∨ failure.IsMarked)) → asked = []) := by
  have hmeans (source : Option Source) :
      Means (Domain.absolute name) type seconds (told source query type) failure
        (run seconds source resolution name type).1 := run_means hname hfailure
  refine ⟨fun source source' records => ?_, fun source => ?_⟩
  · rw [(hmeans source).eq_ok_iff, (hmeans source').eq_ok_iff]
  · have h := hmeans source
    exact ⟨h, fun _ => h.eq_ok_iff, h.kind_eq_bogus_iff, h.kind_eq_responseCode_iff,
      h.kind_eq_timeout_iff, h.kind_eq_resolution_iff, h.kind_ne_invalidName,
      fun n t reason extended heq => Means.reason_eq (heq ▸ h), run_asks hname hfailure⟩

/-- A server that fails is taken at its word, unless the source tells that validation failed. -/
theorem run_refines_server_failure :
    let resolution : DomainName → RecordType → Resolution :=
      fun _ _ => .error (.noRecords .serverFailure)
    let bogus : Source := fun _ _ => some ⟨6, "signature expired"⟩
    ∃ query : DomainName, DomainName.ofText? (Domain.absolute "example.org") = .ok query ∧
      resolution query .a = .error (.noRecords .serverFailure) ∧
      kind (run 60 none resolution "example.org" .a).1 = .responseCode ∧
      kind (run 60 (some bogus) resolution "example.org" .a).1 = .bogus ∧
      (run 60 (some bogus) resolution "example.org" .a).2 = [(query, .a)] := by
  intro resolution bogus
  obtain ⟨query, hname⟩ : ∃ query, DomainName.ofText? (Domain.absolute "example.org") =
      .ok query := ⟨_, by rfl⟩
  have hsuspect : (Failure.noRecords .serverFailure).IsSuspect := .inl rfl
  obtain ⟨-, hmeans⟩ := run_refines 60 resolution "example.org" .a hname rfl
  obtain ⟨-, -, -, hcode, -⟩ := hmeans none
  obtain ⟨-, -, hbogus, -, -, -, -, -, hasked, -⟩ := hmeans (some bogus)
  refine ⟨query, hname, rfl, hcode.mpr ⟨hsuspect, ?_⟩, hbogus.mpr (.inl ⟨hsuspect, ?_⟩),
    hasked ⟨rfl, .inl hsuspect⟩⟩
  · rintro ⟨e, he, -⟩
    cases he
  · exact ⟨_, rfl, by decide⟩

end Run

end Lookup

end Rehearsal
