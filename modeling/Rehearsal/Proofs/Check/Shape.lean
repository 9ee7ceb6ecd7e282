import Rehearsal.Proofs.Check.Offline
import Rehearsal.Proofs.Domain.Chain

/-!
# The shape of names that are accepted

A name that no certificate can be issued for ends a scan before anything is asked for, so every
check after that builds on the shape of a name: labels with dots between them, a known suffix, and a
label before the suffix, with which it is the registered domain.

The check looks at characters, at the length of the whole, for addresses and for the suffix. None of
these looks at a single label. So a name may have empty labels, and labels of any length; if the
label before the suffix is the empty one then the registered domain begins with a dot, and if there
is nothing before the dot then there is none. That is all that is missing: a name that is accepted
has the full shape exactly if the sizes of its labels are right.

## Main definitions

* `Check.IsAcceptable`: what the check looks for in a name
* `Check.IsWellFormed`: the shape that names have

## Main results

* `Domain.publicSuffix_boundary`: a name is its known suffix, or lies under it
* `Check.classifyDomain_accepts_iff`: which names are accepted
* `Check.isWellFormed_iff`: well-formed names are the acceptable ones with labels of the right sizes
* `Check.validDomain_accepts`: what is true of every name
-/

namespace Rehearsal

namespace Domain

variable {rules : List SuffixRule} {name suffix : String}

/-! ### Known suffixes -/

/-- The last labels of a name that ends with a dot are not empty. -/
theorem lastLabels_ne_empty {size : Nat} (h : name.toList.getLast? = some '.') :
    lastLabels name (labelsFromRight name) size ≠ "" := by
  rw [lastLabels, if_pos h]
  intro hempty
  simpa using congrArg String.toList hempty

theorem anySuffix_of_known (h : publicSuffix rules name = some suffix) (hne : suffix ≠ "") :
    anySuffix rules name = some suffix := by
  obtain ⟨size, hsize, rfl⟩ := Option.map_eq_some_iff.mp h
  have hsome : (lastLabels name (labelsFromRight name) size).isEmpty = false := by
    rwa [Bool.eq_false_iff, ne_eq, String.isEmpty_iff]
  simp only [anySuffix, hsize, Option.getD_some, hsome, Bool.false_eq_true, if_false]

/-- **By proper rules a name is its known suffix, or lies under it.** In that case it is not
empty. -/
theorem publicSuffix_boundary (h : ∀ rule ∈ rules, rule.IsProper)
    (hsuffix : publicSuffix rules name = some suffix) :
    suffix = name ∨ suffix ≠ "" ∧ ∃ front, name = front ++ "." ++ suffix := by
  obtain ⟨size, hsize, hlast⟩ := Option.map_eq_some_iff.mp hsuffix
  have hpos : 0 < size := by
    simpa [hsize] using suffixSize_pos h (labelsFromRight name)
  rcases lastLabels_boundary name hpos with hwhole | ⟨front, hfront⟩
  · exact .inl (hlast.symm.trans hwhole)
  · rw [hlast] at hfront
    refine .inr ⟨?_, front, hfront⟩
    rintro rfl
    refine lastLabels_ne_empty ?_ hlast
    rw [hfront]
    simp

/-- The labels of a text have the characters of the text that are no dots. -/
theorem exists_mem_splitOn_iff {c : Char} {cs : List Char} :
    (∃ label ∈ cs.splitOn '.', c ∈ label) ↔ c ∈ cs ∧ c ≠ '.' := by
  induction cs with
  | nil => simp
  | cons d cs ih =>
    rw [List.splitOn_cons_eq_if_modifyHead, List.mem_cons]
    by_cases hd : d = '.'
    · simp only [hd, beq_self_eq_true, if_true, List.mem_cons, exists_eq_or_imp, List.not_mem_nil,
        false_or, ih]
      tauto
    · obtain ⟨label, labels, hlabels⟩ := List.exists_cons_of_ne_nil (List.splitOn_ne_nil '.' cs)
      rw [hlabels] at ih ⊢
      simp only [beq_iff_eq, hd, if_false, List.modifyHead_cons, List.mem_cons, exists_eq_or_imp,
        or_assoc] at ih ⊢
      rw [ih]
      have hne : c = d → c ≠ '.' := fun hcd => hcd ▸ hd
      tauto

/-- What follows the last dot of a name is one of its labels. -/
theorem lastLabel_mem_splitOn (cs : List Char) : lastLabel cs ∈ cs.splitOn '.' := by
  have hsingle : (lastLabel cs).splitOn '.' = [lastLabel cs] :=
    List.splitOn_eq_singleton (dot_notMem_lastLabel cs)
  obtain ⟨before, hbefore, rfl | ⟨before, rfl⟩⟩ := exists_before_lastLabel cs
  · rw [List.nil_append] at hbefore
    rw [← hbefore] at hsingle
    rw [hsingle, ← hbefore]
    exact List.mem_singleton_self _
  · rw [List.append_assoc, List.singleton_append] at hbefore
    rw [hbefore, List.splitOn_append_cons_self, ← hbefore, hsingle]
    exact List.mem_append_right _ (List.mem_singleton_self _)

end Domain

namespace Check

variable {suffixes : List Domain.SuffixRule} {name : String}

/-! ### Names that are accepted -/

/-- What is looked for in a name. -/
structure IsAcceptable (suffixes : List Domain.SuffixRule) (name : String) : Prop where
  /-- Only small letters, digits, dots and `-` stand in the name. -/
  characters : ∀ c ∈ name.toList, isNameCharacter c = true
  /-- The name is not too long. -/
  short : name.toList.length ≤ 230
  /-- The name is no address. -/
  not_address : IpAddress.ofText? name = none
  /-- The name lies under its suffix, and that is a known one. -/
  suffix : ∃ front suffix,
    Domain.publicSuffix suffixes name = some suffix ∧ name = front ++ "." ++ suffix

/-- A note tells the suffix of an acceptable name. -/
theorem IsAcceptable.classified (hname : IsAcceptable suffixes name) :
    (classifyDomain suffixes name).name = "PublicSuffix" := by
  obtain ⟨front, suffix, hsuffix, hfront⟩ := hname.suffix
  have hfind : name.toList.find? (fun c => !isNameCharacter c) = none :=
    List.find?_eq_none.mpr fun c hc => by simp [hname.characters c hc]
  have hpart : suffix ≠ name := by
    intro heq
    have hlength := Domain.length_append_dot front suffix
    rw [← hfront, heq] at hlength
    omega
  have hshort : ¬maxDomainLength < name.toList.length := Nat.not_lt.mpr hname.short
  rw [classifyDomain, hfind]
  dsimp only
  rw [if_neg hshort, hname.not_address, if_neg (by simp), hsuffix]
  exact congrArg Problem.name (if_neg hpart)

/-- A name that is not found invalid is acceptable. -/
theorem isAcceptable_of_classify (h : ∀ rule ∈ suffixes, rule.IsProper)
    (hname : (classifyDomain suffixes name).name ≠ "InvalidDomain") :
    IsAcceptable suffixes name := by
  have hcharacters := (name_of_accepted hname).2
  -- a name that fails one of the tests is found invalid
  rw [classifyDomain] at hname
  split at hname
  · exact absurd rfl hname
  split at hname
  · exact absurd rfl hname
  rename_i hshort
  split at hname
  · exact absurd rfl hname
  rename_i hother
  split at hname
  · exact absurd rfl hname
  rename_i suffix hsuffix
  split at hname
  · exact absurd rfl hname
  rename_i hpart
  obtain ⟨-, front, hfront⟩ := (Domain.publicSuffix_boundary h hsuffix).resolve_left hpart
  exact ⟨hcharacters, Nat.not_lt.mp hshort, by simpa using hother, front, suffix, hsuffix, hfront⟩

/-- **Which names are accepted.** -/
theorem classifyDomain_accepts_iff (h : ∀ rule ∈ suffixes, rule.IsProper) :
    (classifyDomain suffixes name).name ≠ "InvalidDomain" ↔ IsAcceptable suffixes name := by
  refine ⟨isAcceptable_of_classify h, fun hname => ?_⟩
  rw [hname.classified]
  simp

/-- **The registered domain of a name that is accepted** is its suffix with the label before it. If
only a dot is before the suffix, there is none. -/
theorem IsAcceptable.registered (h : ∀ rule ∈ suffixes, rule.IsProper)
    (hname : IsAcceptable suffixes name) :
    ∃ front suffix, Domain.publicSuffix suffixes name = some suffix ∧
      name = front ++ "." ++ suffix ∧
      Domain.registered suffixes name =
        if front = "" then none
        else some (String.ofList (Domain.lastLabel front.toList) ++ "." ++ suffix) := by
  obtain ⟨front, suffix, hsuffix, rfl⟩ := hname.suffix
  have hne : suffix ≠ "" := by
    rcases Domain.publicSuffix_boundary h hsuffix with heq | ⟨hne, -⟩
    · intro hempty
      simpa [hempty] using congrArg String.toList heq
    · exact hne
  exact ⟨front, suffix, hsuffix, rfl,
    Domain.registered_append (Domain.anySuffix_of_known hsuffix hne)⟩

/-! ### The shape of a name -/

/-- The shape of a name that a certificate can be issued for. -/
structure IsWellFormed (suffixes : List Domain.SuffixRule) (name : String) : Prop where
  /-- No label is empty, none is too long, and only small letters, digits and `-` stand in them. -/
  labels : ∀ label ∈ name.toList.splitOn '.', label ≠ [] ∧ label.length ≤ 63 ∧
    ∀ c ∈ label, isNameCharacter c = true ∧ c ≠ '.'
  /-- The name is not too long. -/
  short : name.toList.length ≤ 230
  /-- The name is no address. -/
  not_address : IpAddress.ofText? name = none
  /-- The registered domain is the suffix, which is a known one, with a label before it. -/
  registered : ∃ label suffix, Domain.publicSuffix suffixes name = some suffix ∧ label ≠ "" ∧
    '.' ∉ label.toList ∧ Domain.registered suffixes name = some (label ++ "." ++ suffix)

/-- The labels of a name have the sizes that labels have. -/
def HasLabelSizes (name : String) : Prop :=
  ∀ label ∈ name.toList.splitOn '.', label ≠ [] ∧ label.length ≤ 63

/-- **Well-formed names are the acceptable ones with labels of the right sizes.** -/
theorem isWellFormed_iff (h : ∀ rule ∈ suffixes, rule.IsProper) :
    IsWellFormed suffixes name ↔ IsAcceptable suffixes name ∧ HasLabelSizes name := by
  constructor
  · intro hname
    refine ⟨⟨fun c hc => ?_, hname.short, hname.not_address, ?_⟩,
      fun label hlabel => ⟨(hname.labels label hlabel).1, (hname.labels label hlabel).2.1⟩⟩
    · by_cases hdot : c = '.'
      · exact hdot ▸ by decide
      · obtain ⟨label, hlabel, hc⟩ := Domain.exists_mem_splitOn_iff.mpr ⟨hc, hdot⟩
        exact ((hname.labels label hlabel).2.2 c hc).1
    · obtain ⟨label, suffix, hsuffix, -, -, hregistered⟩ := hname.registered
      rcases Domain.publicSuffix_boundary h hsuffix with rfl | ⟨-, front, hfront⟩
      · -- a registered domain is no longer than the name
        have hlength := Domain.length_append_dot label suffix
        rcases Domain.registered_boundary h hregistered with heq | hunder
        · rw [heq] at hlength
          omega
        · have hshorter := hunder.length_lt
          omega
      · exact ⟨front, suffix, hsuffix, hfront⟩
  · rintro ⟨hname, hsizes⟩
    refine ⟨fun label hlabel => ⟨(hsizes label hlabel).1, (hsizes label hlabel).2, fun c hc => ?_⟩,
      hname.short, hname.not_address, ?_⟩
    · obtain ⟨hc, hdot⟩ := Domain.exists_mem_splitOn_iff.mp ⟨label, hlabel, hc⟩
      exact ⟨hname.characters c hc, hdot⟩
    · obtain ⟨front, suffix, hsuffix, rfl, hregistered⟩ := hname.registered h
      have hlabels : (front ++ "." ++ suffix).toList.splitOn '.' =
          front.toList.splitOn '.' ++ suffix.toList.splitOn '.' := by
        rw [← List.splitOn_append_cons_self]
        simp
      have hlast : Domain.lastLabel front.toList ≠ [] := by
        refine (hsizes _ ?_).1
        rw [hlabels]
        exact List.mem_append_left _ (Domain.lastLabel_mem_splitOn _)
      have hfront : front ≠ "" := by
        rintro rfl
        exact hlast rfl
      refine ⟨String.ofList (Domain.lastLabel front.toList), suffix, hsuffix, ?_, ?_, ?_⟩
      · simpa using hlast
      · rw [String.toList_ofList]
        exact Domain.dot_notMem_lastLabel _
      · rw [hregistered, if_neg hfront]

/-- **What is true of every name.** The check has one finding on it. Names that are not found
invalid lie under a known suffix, and their registered domain is the suffix with what follows the
last dot before it, unless nothing is there. They are well-formed if their labels are not empty and
not too long, and only then. -/
theorem validDomain_accepts (h : ∀ rule ∈ suffixes, rule.IsProper) (context : ScanContext)
    (domain : String) (method : Method) :
    let name := (Domain.stripWildcard domain).1
    ∃ p, (validDomainBy suffixes).check context domain method = .done (.ok [p]) ∧
      (p.name ≠ "InvalidDomain" ↔ IsAcceptable suffixes name) ∧
      (p.name ≠ "InvalidDomain" →
        ∃ front suffix, Domain.publicSuffix suffixes name = some suffix ∧
          name = front ++ "." ++ suffix ∧
          Domain.registered suffixes name =
            if front = "" then none
            else some (String.ofList (Domain.lastLabel front.toList) ++ "." ++ suffix)) ∧
      (IsWellFormed suffixes name ↔ p.name ≠ "InvalidDomain" ∧ HasLabelSizes name) := by
  intro name
  have haccepts : (classifyDomain suffixes name).name ≠ "InvalidDomain" ↔
      IsAcceptable suffixes name := classifyDomain_accepts_iff h
  refine ⟨_, rfl, haccepts, fun hname => (haccepts.mp hname).registered h, ?_⟩
  rw [haccepts]
  exact isWellFormed_iff h

/-- A name with an empty label is accepted. -/
theorem validDomain_accepts_empty_label :
    (∀ rule ∈ Domain.sampleSuffixRules, rule.IsProper) ∧
      ∃ p, validDomain.check ⟨.standard, .standard⟩ "a..org" .dns01 = .done (.ok [p]) ∧
        p.name ≠ "InvalidDomain" ∧ ¬IsWellFormed Domain.sampleSuffixRules "a..org" ∧
        Domain.registered Domain.sampleSuffixRules "a..org" = some ".org" := by
  have hproper : ∀ rule ∈ Domain.sampleSuffixRules, rule.IsProper := by decide
  obtain ⟨p, hcheck, haccepts, -, hshape⟩ :=
    validDomain_accepts hproper ⟨.standard, .standard⟩ "a..org" .dns01
  have hname : p.name ≠ "InvalidDomain" :=
    haccepts.mpr ⟨List.all_eq_true.mp (by decide), by decide, by decide, "a.", "org", by decide,
      by decide⟩
  refine ⟨hproper, p, hcheck, hname, fun hformed => ?_, by decide⟩
  exact absurd rfl ((hshape.mp hformed).2 [] (by decide)).1

end Check

end Rehearsal
