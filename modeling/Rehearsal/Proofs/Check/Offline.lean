import Rehearsal.Proofs.Check.Rule
import Rehearsal.Check.Offline

/-!
# Rules of the checks that ask nothing

They never fail, and each is fatal under a condition on the method and the name alone.

## Main results

* `Check.validMethod_obeys`, `Check.tlsSni_obeys`: methods
* `Check.validDomain_obeys`, `Check.wildcardDns01Only_obeys`: names
-/

namespace Rehearsal

namespace Check

variable {resolve : Resolution} {rule : Rule}

/-- A single finding that is fatal. -/
theorem fits_fatal {p : Problem} (hfatal : p.isFatal = true) (hname : p.name ∈ fatalNames)
    (hfails : ¬rule.fails) (h : rule.fatal) : Fits rule (.returned (.ok [p])) := by
  refine fits_ok hfails ⟨fun _ => h, fun _ => ?_⟩ fun q hq _ => ?_
  · rw [Problem.anyFatal, List.any_cons, hfatal, Bool.true_or]
  · rwa [List.mem_singleton.mp hq]

variable (context : ScanContext) (domain : String) (method : Method)

theorem validMethod_obeys :
    Obeys resolve (validMethod.check context domain method) ⟨False, method.isKnown = false⟩ := by
  refine obeys_done ?_
  dsimp only
  split
  next hknown => exact fits_notApplicable id (by simp [hknown])
  next hknown =>
    exact fits_fatal rfl (by simp [invalidMethod, fatalNames]) id (by simpa using hknown)

theorem tlsSni_obeys :
    Obeys resolve (tlsSni.check context domain method) ⟨False, method.isDisabled = true⟩ := by
  refine obeys_done ?_
  dsimp only
  split
  next hdisabled => exact fits_fatal rfl (by simp [disabledMethod, fatalNames]) id hdisabled
  next hdisabled => exact fits_notApplicable id hdisabled

/-! ### Names -/

/-- The verdict on a name is that it is invalid, or a note. -/
theorem classifyDomain_cases (suffixes : List Domain.SuffixRule) (name : String) :
    (∃ reason, classifyDomain suffixes name = invalidDomain name reason) ∨
      ∃ explanation detail,
        classifyDomain suffixes name = .debug "PublicSuffix" explanation detail := by
  unfold classifyDomain
  split
  · exact .inl ⟨_, rfl⟩
  · split
    · exact .inl ⟨_, rfl⟩
    · split
      · exact .inl ⟨_, rfl⟩
      · split
        · exact .inl ⟨_, rfl⟩
        · split
          · exact .inl ⟨_, rfl⟩
          · exact .inr ⟨_, _, rfl⟩

/-- By any rules the empty name is no name under a suffix. -/
theorem publicSuffix_empty {suffixes : List Domain.SuffixRule} {suffix : String}
    (h : Domain.publicSuffix suffixes "" = some suffix) : suffix = "" := by
  have hlabels : Domain.labelsFromRight "" = [""] := by decide
  obtain ⟨n, -, rfl⟩ := Option.map_eq_some_iff.mp h
  rw [hlabels, Domain.lastLabels]
  cases n with
  | zero => rfl
  | succ n =>
    rw [List.take_succ_cons, List.take_nil]
    rfl

/-- A name that is not found invalid has characters, and only such as stand in names. -/
theorem name_of_accepted {suffixes : List Domain.SuffixRule} {name : String}
    (h : (classifyDomain suffixes name).name ≠ "InvalidDomain") :
    name ≠ "" ∧ ∀ c ∈ name.toList, isNameCharacter c = true := by
  unfold classifyDomain at h
  split at h
  next => exact absurd rfl h
  next hnone =>
    refine ⟨?_, fun c hc => by simpa using List.find?_eq_none.mp hnone c hc⟩
    rintro rfl
    rw [if_neg (by decide), if_neg (by decide)] at h
    cases hsuffix : Domain.publicSuffix suffixes "" with
    | none =>
      rw [hsuffix] at h
      exact h rfl
    | some suffix =>
      rw [hsuffix] at h
      dsimp only at h
      rw [if_pos (publicSuffix_empty hsuffix)] at h
      exact h rfl

theorem validDomain_obeys (suffixes : List Domain.SuffixRule) :
    Obeys resolve ((validDomainBy suffixes).check context domain method)
      ⟨False,
        (classifyDomain suffixes (Domain.stripWildcard domain).1).name = "InvalidDomain"⟩ := by
  refine obeys_done ?_
  dsimp only
  rcases classifyDomain_cases suffixes (Domain.stripWildcard domain).1 with
    ⟨reason, heq⟩ | ⟨explanation, detail, heq⟩
  · rw [heq]
    exact fits_fatal rfl (by simp [invalidDomain, fatalNames]) id rfl
  · rw [heq]
    refine fits_ok id ?_ (wellNamed_of_not_fatal fun p hp => ?_)
    · simp [Problem.anyFatal, Problem.isFatal, Problem.debug]
    · rw [List.mem_singleton.mp hp]
      rfl

theorem wildcardDns01Only_obeys :
    Obeys resolve (wildcardDns01Only.check context domain method)
      ⟨False, (Domain.stripWildcard domain).2 = true ∧ method ≠ .dns01⟩ := by
  refine obeys_done ?_
  dsimp only
  split
  next hunsuitable =>
    exact fits_fatal rfl (by simp [unsuitableMethod, fatalNames]) id (by simpa using hunsuitable)
  next hsuitable => exact fits_notApplicable id (by simpa using hsuitable)

end Check

end Rehearsal
