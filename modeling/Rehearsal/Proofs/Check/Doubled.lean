import Rehearsal.Proofs.Check.Disagreement
import Rehearsal.Proofs.Dns.Record
import Rehearsal.Proofs.Text.Line
import Rehearsal.Check.Challenge

/-!
# When doubled names are reported

Records at a doubled name are reported unless they come from a wildcard. That a wildcard is there is
told by a name that nobody has entered, which then serves the same. But the wildcard is looked for
among all doubled names at once: if one of them serves what that name serves, nothing is reported,
even if another one serves a record that was really entered. And what is compared are the sorted
texts as one text, a line for each, so texts that have line ends in them may seem to be the same,
and one empty text seems to be none.

Where texts have no line ends and are not empty, a warning is given if a doubled name serves records
and none of those that do is explained. This is the same as that one is not explained as long as all
of them are explained or none is.

## Main definitions

* `Check.txtRecordsOf`, `Check.textsOf`: the TXT records of a name, and their texts
* `Check.IsExplained`: a name serves the texts of another one, and there are any
* `Check.SeemsExplained`: so it seems when the texts are joined
* `Check.Stands`: there are answers with records, and nothing is said against any of them

## Main results

* `Check.judgeDoubled_ne_nil_iff`: the verdict on answers
* `Check.seemsExplained_iff`: where what seems to be is
* `Check.txtDoubledLabel_warns_iff`: when the warning is given, and what it tells
-/

namespace Rehearsal

/-! ### Joined texts -/

namespace Text

/-- Lines that are joined tell which lines there were, if there were any and none had an end in
it. -/
theorem intercalate_inj {texts texts' : List String} (h : ∀ t ∈ texts, '\n' ∉ t.toList)
    (h' : ∀ t ∈ texts', '\n' ∉ t.toList) (hne : texts ≠ []) (hne' : texts' ≠ [])
    (hjoined : "\n".intercalate texts = "\n".intercalate texts') : texts = texts' := by
  have hsame : texts.map String.toList = texts'.map String.toList := by
    rw [← splitOn_intercalate_lines h hne, hjoined, splitOn_intercalate_lines h' hne']
  exact List.map_injective_iff.mpr (fun _ _ => String.toList_inj.mp) hsame

theorem intercalate_ne_empty {texts : List String} (h : ∀ t ∈ texts, t ≠ "") (hne : texts ≠ []) :
    "\n".intercalate texts ≠ "" := by
  obtain ⟨t, rest, rfl⟩ := List.exists_cons_of_ne_nil hne
  intro hempty
  have hpart : t.toList <:+: ("\n".intercalate (t :: rest)).toList :=
    infix_intercalate_of_mem "\n" List.mem_cons_self
  rw [hempty] at hpart
  exact h t List.mem_cons_self (String.toList_eq_nil_iff.mp (List.infix_nil.mp hpart))

end Text

namespace Check

variable {resolve : Resolution} {control n : String}

/-! ### What names serve -/

/-- The TXT records of a name; none if the lookup fails. -/
def txtRecordsOf (resolve : Resolution) (n : String) : List Record :=
  (recordsOf (resolve (.ofName n .txt))).filter fun r => r.txtParts?.isSome

/-- The texts of the TXT records of a name, sorted. -/
def textsOf (resolve : Resolution) (n : String) : List String :=
  (Record.txtStrings (txtRecordsOf resolve n)).mergeSort (· ≤ ·)

/-- The answer for a name. -/
theorem ofOutcome_eq (resolve : Resolution) (n : String) :
    TxtAnswer.ofOutcome (resolve (.ofName n .txt)) =
      ⟨(txtRecordsOf resolve n).filterMap Record.text?, "\n".intercalate (textsOf resolve n)⟩ := by
  rw [textsOf, txtRecordsOf]
  cases resolve (.ofName n .txt) <;> rfl

/-- Every TXT record can be written. -/
theorem exists_text_of_mem {r : Record} (h : r ∈ txtRecordsOf resolve n) :
    ∃ text, r.text? = some text := by
  rw [← Option.ne_none_iff_exists', ne_eq, Record.text?_eq_none_iff]
  rintro ⟨critical, tag, bytes, hdata, -⟩
  have htxt := (List.mem_filter.mp h).2
  simp [Record.txtParts?, hdata] at htxt

/-- An answer has records if the name serves any. -/
theorem records_ofOutcome_eq_nil_iff :
    (TxtAnswer.ofOutcome (resolve (.ofName n .txt))).records = [] ↔
      txtRecordsOf resolve n = [] := by
  rw [ofOutcome_eq]
  dsimp only
  constructor
  · intro h
    refine List.eq_nil_iff_forall_not_mem.mpr fun r hr => ?_
    obtain ⟨text, htext⟩ := exists_text_of_mem hr
    exact List.not_mem_nil (h ▸ List.mem_filterMap.mpr ⟨r, hr, htext⟩)
  · intro h
    rw [h]
    rfl

/-- The control name serves the same texts as the name, and it serves any. -/
def IsExplained (resolve : Resolution) (control n : String) : Prop :=
  textsOf resolve n = textsOf resolve control ∧ textsOf resolve control ≠ []

/-- The texts of the control name and of the name are joined to the same text, and that is not
empty. -/
def SeemsExplained (resolve : Resolution) (control n : String) : Prop :=
  "\n".intercalate (textsOf resolve n) = "\n".intercalate (textsOf resolve control) ∧
    "\n".intercalate (textsOf resolve control) ≠ ""

/-- The texts of a name are not empty and have no line ends in them. -/
def ArePlainLines (resolve : Resolution) (n : String) : Prop :=
  ∀ t ∈ textsOf resolve n, t ≠ "" ∧ '\n' ∉ t.toList

/-- **Where texts are plain lines, names are explained that seem to be.** -/
theorem seemsExplained_iff (hcontrol : ArePlainLines resolve control)
    (hn : ArePlainLines resolve n) :
    SeemsExplained resolve control n ↔ IsExplained resolve control n := by
  constructor
  · rintro ⟨hjoined, hsome⟩
    have hne' : textsOf resolve control ≠ [] := by
      intro hnil
      rw [hnil] at hsome
      exact hsome rfl
    have hne : textsOf resolve n ≠ [] := by
      intro hnil
      rw [hnil] at hjoined
      exact hsome hjoined.symm
    exact ⟨Text.intercalate_inj (fun t ht => (hn t ht).2) (fun t ht => (hcontrol t ht).2) hne hne'
      hjoined, hne'⟩
  · rintro ⟨hsame, hne⟩
    exact ⟨congrArg _ hsame, Text.intercalate_ne_empty (fun t ht => (hcontrol t ht).1) hne⟩

/-! ### The verdict -/

/-- There are answers with records, and none of them is joined to the text of the answer for the
control name. -/
def Stands (answers : List TxtAnswer) (control : TxtAnswer) : Prop :=
  (∃ a ∈ answers, a.records ≠ []) ∧
    ∀ a ∈ answers, a.records ≠ [] → ¬(a.combined = control.combined ∧ control.combined ≠ "")

/-- **The verdict on answers that stand** tells all records. -/
theorem judgeDoubled_of_stands {answers : List TxtAnswer} {control : TxtAnswer}
    (h : Stands answers control) :
    judgeDoubled answers control =
      [doubledLabel (answers.filter fun a => !a.records.isEmpty)] := by
  obtain ⟨⟨a, ha, hrecords⟩, hnone⟩ := h
  rw [judgeDoubled, if_neg, if_neg]
  · intro htaken
    simp only [Bool.and_eq_true, List.any_eq_true, List.mem_filter, decide_eq_true_eq] at htaken
    obtain ⟨hsome, b, ⟨hb, hbrecords⟩, hsame⟩ := htaken
    exact hnone b hb (by simpa using hbrecords) ⟨hsame, by simpa using hsome⟩
  · simp only [List.isEmpty_iff, List.filter_eq_nil_iff]
    exact fun hempty => hempty a ha (by simpa using hrecords)

theorem judgeDoubled_of_not_stands {answers : List TxtAnswer} {control : TxtAnswer}
    (h : ¬Stands answers control) : judgeDoubled answers control = [] := by
  rw [judgeDoubled]
  by_cases hsome : ∃ a ∈ answers, a.records ≠ []
  · rw [Stands, and_iff_right hsome] at h
    simp only [not_forall, not_not] at h
    obtain ⟨a, ha, hrecords, hsame, hcontrol⟩ := h
    rw [if_pos (c := (_ && _) = true), ite_self]
    simp only [Bool.and_eq_true, List.any_eq_true, List.mem_filter, decide_eq_true_eq]
    exact ⟨by simpa using hcontrol, a, ⟨ha, by simpa using hrecords⟩, hsame⟩
  · rw [if_pos]
    simp only [List.isEmpty_iff, List.filter_eq_nil_iff]
    exact fun a ha hrecords => hsome ⟨a, ha, by simpa using hrecords⟩

theorem judgeDoubled_ne_nil_iff {answers : List TxtAnswer} {control : TxtAnswer} :
    judgeDoubled answers control ≠ [] ↔ Stands answers control := by
  by_cases h : Stands answers control
  · rw [judgeDoubled_of_stands h]
    exact iff_of_true (List.cons_ne_nil _ _) h
  · rw [judgeDoubled_of_not_stands h]
    exact iff_of_false (fun hne => hne rfl) h

/-- The detail of the warning has every record of the answers in it. -/
theorem infix_detail_of_mem {found : List TxtAnswer} {a : TxtAnswer} {text : String}
    (ha : a ∈ found) (htext : text ∈ a.records) :
    text.toList <:+: (doubledLabel found).detail.toList := by
  have hjoined : text.toList <:+: ("\n".intercalate (found.flatMap TxtAnswer.records)).toList :=
    Text.infix_intercalate_of_mem "\n" (List.mem_flatMap.mpr ⟨a, ha, htext⟩)
  rw [doubledLabel]
  dsimp only
  rw [String.toList_append]
  exact hjoined.trans (List.suffix_append _ _).isInfix

/-! ### The warning -/

/-- The answers for the doubled names and for the control name are judged. -/
theorem txtDoubledLabel_judges (suffixes : List Domain.SuffixRule) (context : ScanContext)
    (domain : String) (reply : Replies) :
    ((txtDoubledLabelBy suffixes).check context domain .dns01).Settles (.fixed resolve reply)
      (.returned (.ok (judgeDoubled
        ((doubledNames suffixes (Domain.stripWildcard domain).1).map fun n =>
          TxtAnswer.ofOutcome (resolve (.ofName n .txt)))
        (TxtAnswer.ofOutcome (resolve (.ofName (controlName (Domain.stripWildcard domain).1
          (reply (.draw 4294967296))) .txt)))))) := by
  have hlookup (n : String) : (Job.lookup n .txt).Settles (.fixed resolve reply)
      (.returned (resolve (.ofName n .txt))) := Job.settles_lookup n .txt
  refine Job.settles_ask_bind ((Job.settles_all hlookup _).bind ?_)
  intro o hgive
  rw [hgive.of_done]
  simp [Function.comp_def]

/-- The answers for names stand if some of these serve records, and those that do do not seem to be
explained. -/
theorem stands_iff (resolve : Resolution) (control : String) (names : List String) :
    Stands (names.map fun n => TxtAnswer.ofOutcome (resolve (.ofName n .txt)))
        (TxtAnswer.ofOutcome (resolve (.ofName control .txt))) ↔
      (∃ n ∈ names, txtRecordsOf resolve n ≠ []) ∧
        ∀ n ∈ names, txtRecordsOf resolve n ≠ [] → ¬SeemsExplained resolve control n := by
  have hcombined (n : String) : (TxtAnswer.ofOutcome (resolve (.ofName n .txt))).combined =
      "\n".intercalate (textsOf resolve n) := by rw [ofOutcome_eq]
  simp only [Stands, List.mem_map, exists_exists_and_eq_and, forall_exists_index, and_imp,
    forall_apply_eq_imp_iff₂, ne_eq, records_ofOutcome_eq_nil_iff, hcombined, SeemsExplained]

/-- The warning that records were found at doubled names, with the records of these names. -/
structure WarnsOfDoubled (resolve : Resolution) (names : List String) (p : Problem) : Prop where
  name : p.name = "TXTDoubleLabel"
  severity : p.severity = .warning
  /-- The text of each TXT record of each name is a part of the detail. -/
  detail : ∀ n ∈ names, ∀ r ∈ txtRecordsOf resolve n, ∃ text, r.text? = some text ∧
    text.toList <:+: p.detail.toList

theorem doubledLabel_warns (names : List String) :
    WarnsOfDoubled resolve names (doubledLabel
      ((names.map fun n => TxtAnswer.ofOutcome (resolve (.ofName n .txt))).filter fun a =>
        !a.records.isEmpty)) where
  name := rfl
  severity := rfl
  detail := by
    intro n hn r hr
    obtain ⟨text, htext⟩ := exists_text_of_mem hr
    have hmem : text ∈ (TxtAnswer.ofOutcome (resolve (.ofName n .txt))).records := by
      rw [ofOutcome_eq]
      exact List.mem_filterMap.mpr ⟨r, hr, htext⟩
    refine ⟨text, htext, infix_detail_of_mem (List.mem_filter.mpr ⟨List.mem_map_of_mem hn, ?_⟩)
      hmem⟩
    simpa using List.ne_nil_of_mem hmem

/-- **When the warning is given.** A run ends with one warning or with nothing. The warning tells
all TXT records of the doubled names. It is given exactly if one of them serves such a record and
none of those that do seems to be explained by what the control name serves. Where texts are plain
lines, what seems to be explained is explained; and unless one name is explained and another one
that serves records is not, the warning is given exactly if some name that serves records is not
explained. -/
theorem txtDoubledLabel_warns_iff (suffixes : List Domain.SuffixRule) (context : ScanContext)
    (domain : String) (peers : Peers) (reply : Replies) (hpeers : peers.Replying reply)
    (s : Session) :
    (∃ fuel outcome s', ((txtDoubledLabelBy suffixes).check context domain .dns01).run peers fuel
      s.forget = some (outcome, s')) ∧
    ∀ outcome s', ((txtDoubledLabelBy suffixes).check context domain .dns01).Ends peers s.forget
        outcome s' →
      (∃ resolve, s'.Resolves s.journal.length resolve) ∧
      ∀ resolve, s'.Resolves s.journal.length resolve →
        let name := (Domain.stripWildcard domain).1
        let control := controlName name (reply (.draw 4294967296))
        let doubled := doubledNames suffixes name
        let serving := doubled.filter fun n => !(txtRecordsOf resolve n).isEmpty
        ∃ problems, outcome = .returned (.ok problems) ∧
          (problems = [] ∨ ∃ p, problems = [p] ∧ WarnsOfDoubled resolve doubled p) ∧
          (problems ≠ [] ↔ serving ≠ [] ∧ ∀ n ∈ serving, ¬SeemsExplained resolve control n) ∧
          ((∀ n ∈ control :: doubled, ArePlainLines resolve n) →
            (problems ≠ [] ↔ serving ≠ [] ∧ ∀ n ∈ serving, ¬IsExplained resolve control n) ∧
            ((∀ n ∈ serving, ∀ m ∈ serving,
                IsExplained resolve control n → IsExplained resolve control m) →
              (problems ≠ [] ↔ ∃ n ∈ serving, ¬IsExplained resolve control n))) := by
  refine ⟨Job.exists_run peers _ rfl rfl, fun outcome s' h => ⟨h.exists_resolves, ?_⟩⟩
  intro resolve hresolves name control doubled serving
  have hgive := h.gives s.alone_forget.orderly (World.covers_replying hpeers hresolves)
  obtain rfl := txtDoubledLabel_judges suffixes context domain reply outcome hgive
  have hserving : serving ≠ [] ↔ ∃ n ∈ doubled, txtRecordsOf resolve n ≠ [] := by
    simp [serving]
  have hall {P : String → Prop} : (∀ n ∈ serving, P n) ↔
      ∀ n ∈ doubled, txtRecordsOf resolve n ≠ [] → P n := by
    simp [serving]
  have hwarns := judgeDoubled_ne_nil_iff.trans (stands_iff resolve control doubled)
  rw [← hserving, ← hall] at hwarns
  refine ⟨_, rfl, ?_, hwarns, fun hplain => ?_⟩
  · by_cases hstands : Stands (doubled.map fun n => TxtAnswer.ofOutcome (resolve (.ofName n .txt)))
        (TxtAnswer.ofOutcome (resolve (.ofName control .txt)))
    · exact .inr ⟨_, judgeDoubled_of_stands hstands, doubledLabel_warns doubled⟩
    · exact .inl (judgeDoubled_of_not_stands hstands)
  · obtain ⟨hcontrol, hdoubled⟩ := List.forall_mem_cons.mp hplain
    have hexplained : (∀ n ∈ serving, ¬SeemsExplained resolve control n) ↔
        ∀ n ∈ serving, ¬IsExplained resolve control n :=
      forall₂_congr fun n hn => not_congr
        (seemsExplained_iff hcontrol (hdoubled n (List.mem_filter.mp hn).1))
    rw [hexplained] at hwarns
    refine ⟨hwarns, fun hall => hwarns.trans ⟨?_, ?_⟩⟩
    · rintro ⟨hsome, hnone⟩
      obtain ⟨n, hn⟩ := List.exists_mem_of_ne_nil _ hsome
      exact ⟨n, hn, hnone n hn⟩
    · rintro ⟨n, hn, hnot⟩
      exact ⟨List.ne_nil_of_mem hn, fun m hm hexplains => hnot (hall m hm n hn hexplains)⟩

/-- A wildcard record explains one of the doubled names, and nothing is told about the record at the
other one. -/
theorem txtDoubledLabel_misses_name :
    let record (text : String) : Record :=
      ⟨⟨[], true⟩, 300, .txt, some (.txt [Text.encode text])⟩
    let mistyped := "_acme-challenge.www.example.org.example.org"
    let resolve : Resolution := fun key =>
      if key = .ofName mistyped .txt then .ok [record "token"] else .ok [record "wild"]
    let reply : Replies
      | .direct .. => .ok ⟨.noError, []⟩
      | .exchange .. => .error .silent
      | .addresses _ => []
      | .draw _ => 0
    (∃ s', (txtDoubledLabel.check ⟨.standard, .standard⟩ "www.example.org" .dns01).Ends
        (.timed resolve reply ⟨fun _ _ => 0, fun _ _ => 0⟩) Session.fresh.forget
        (.returned (.ok [])) s') ∧
      mistyped ∈ doubledNames Domain.sampleSuffixRules "www.example.org" ∧
      textsOf resolve mistyped = ["token"] ∧
      ¬IsExplained resolve (controlName "www.example.org" 0) mistyped := by
  intro record mistyped resolve reply
  obtain ⟨⟨fuel, outcome, s', hrun⟩, hends⟩ := txtDoubledLabel_warns_iff Domain.sampleSuffixRules
    ⟨.standard, .standard⟩ "www.example.org" _ reply
    (Peers.replying_timed resolve reply ⟨fun _ _ => 0, fun _ _ => 0⟩) .fresh
  have h := Job.ends_of_run hrun
  have hresolves : s'.Resolves 0 resolve := h.resolves fun _ _ => rfl
  have hname : (Domain.stripWildcard "www.example.org").1 = "www.example.org" := by decide +kernel
  have hnames : doubledNames Domain.sampleSuffixRules "www.example.org" =
      ["_acme-challenge.www.example.org.www.example.org", mistyped] := by decide +kernel
  have hserves {n text : String} (hn : resolve (.ofName n .txt) = .ok [record text])
      (hstring : Record.txtStrings [record text] = [text]) :
      txtRecordsOf resolve n = [record text] ∧ textsOf resolve n = [text] := by
    have hrecords : txtRecordsOf resolve n = [record text] := by
      rw [txtRecordsOf, hn]
      rfl
    rw [textsOf, hrecords, hstring, List.mergeSort_singleton]
    exact ⟨rfl, rfl⟩
  obtain ⟨hfirst, hfirstTexts⟩ := hserves
    (n := "_acme-challenge.www.example.org.www.example.org") (if_neg (by decide +kernel))
    (by decide +kernel)
  obtain ⟨-, hmistypedTexts⟩ := hserves (n := mistyped) (if_pos rfl) (by decide +kernel)
  obtain ⟨-, hcontrolTexts⟩ := hserves (n := controlName "www.example.org" 0)
    (if_neg (by decide +kernel)) (by decide +kernel)
  obtain ⟨problems, rfl, -, hwarns, -⟩ := (hends outcome s' h).2 resolve hresolves
  rw [hname, hnames] at hwarns
  have hnone : problems = [] := by
    by_contra hsome
    refine (hwarns.mp hsome).2 _ (List.mem_filter.mpr ⟨List.mem_cons_self, by simp [hfirst]⟩) ?_
    rw [SeemsExplained, hfirstTexts, hcontrolTexts]
    exact ⟨rfl, by decide⟩
  subst hnone
  refine ⟨⟨s', h⟩, hnames ▸ List.mem_cons_of_mem _ List.mem_cons_self, hmistypedTexts, ?_⟩
  rw [IsExplained, hmistypedTexts, hcontrolTexts]
  decide

end Check

end Rehearsal
