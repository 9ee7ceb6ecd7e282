import Rehearsal.Check.Block
import Rehearsal.Proofs.Job.Calm
import Rehearsal.Proofs.Problem

/-!
# Rules of checkers

What matters of a checker for the course of a scan is when it fails and when one of its findings is
fatal. A rule tells both as conditions on the outcomes of lookups. Rules compose: a checker for one
method obeys its rule under that method, and a block fails when one of its members does and is fatal
when one of them is, whatever the order in which they end.

## Main definitions

* `Check.Rule`: when a checker fails, and when it is fatal
* `Check.fatalNames`: the names that fatal findings have
* `Check.Obeys`: a checker's job does what a rule tells

## Main results

* `Check.forMethod_obeys`: checkers for one method
* `Check.block_obeys`: checkers side by side
-/

namespace Rehearsal

namespace Check

/-- When a checker fails, and when one of its findings is fatal. -/
structure Rule where
  /-- It fails. -/
  fails : Prop
  /-- One of its findings is fatal. -/
  fatal : Prop

namespace Rule

/-- The rule of what neither fails nor is fatal. -/
def never : Rule := ⟨False, False⟩

/-- A rule that is in force under a condition. -/
def under (condition : Prop) (rule : Rule) : Rule :=
  ⟨condition ∧ rule.fails, condition ∧ rule.fatal⟩

end Rule

/-- The names that fatal findings have. -/
def fatalNames : List String := [
  "InvalidMethod",
  "ValidationMethodDisabled",
  "InvalidDomain",
  "MethodNotSuitable",
  "DNSLookupFailed",
  "CAACriticalUnknown",
  "CAAIssuanceNotAllowed",
  "TXTRecordError",
  "NoRecords",
  "ReservedAddress"]

/-- Fatal findings have one of the names that such findings have. -/
def WellNamed (problems : List Problem) : Prop :=
  ∀ p ∈ problems, p.isFatal = true → p.name ∈ fatalNames

/-- What a checker ended with is what a rule tells. -/
structure Fits (rule : Rule) (o : Outcome Verdict) : Prop where
  /-- It fails when the rule tells so. -/
  failure : (failure? o).isSome = true ↔ rule.fails
  /-- Otherwise one of its findings is fatal when the rule tells so. -/
  fatal : ¬rule.fails → (Problem.anyFatal (findings o) = true ↔ rule.fatal)
  /-- Its findings are well named. -/
  wellNamed : WellNamed (findings o)

/-- Whatever a checker ends with is what a rule tells. -/
def Obeys (resolve : Resolution) (job : Job Verdict) (rule : Rule) : Prop :=
  ∀ o, job.Gives (.calm resolve) o → Fits rule o

variable {resolve : Resolution} {job : Job Verdict} {rule : Rule} {o : Outcome Verdict}
  {problems : List Problem}

theorem Obeys.congr (h : Obeys resolve job rule) (rule' : Rule)
    (hfails : rule.fails ↔ rule'.fails) (hfatal : rule.fatal ↔ rule'.fatal) :
    Obeys resolve job rule' := by
  intro o hgive
  have hfits := h o hgive
  exact ⟨hfits.failure.trans hfails, fun hnot => (hfits.fatal (mt hfails.mp hnot)).trans hfatal,
    hfits.wellNamed⟩

/-! ### Verdicts -/

theorem fits_ok (hfails : ¬rule.fails) (hfatal : Problem.anyFatal problems = true ↔ rule.fatal)
    (hnamed : WellNamed problems) : Fits rule (.returned (.ok problems)) where
  failure := ⟨fun h => absurd h Bool.false_ne_true, fun h => absurd h hfails⟩
  fatal := fun _ => hfatal
  wellNamed := hnamed

theorem fits_notApplicable (hfails : ¬rule.fails) (hfatal : ¬rule.fatal) :
    Fits rule (.returned (.error .notApplicable)) where
  failure := ⟨fun h => absurd h Bool.false_ne_true, fun h => absurd h hfails⟩
  fatal := fun _ => ⟨fun h => absurd h Bool.false_ne_true, fun h => absurd h hfatal⟩
  wellNamed := fun _ hp => absurd hp List.not_mem_nil

theorem fits_crashed {message : String} (hfails : rule.fails) :
    Fits rule (.crashed message) where
  failure := ⟨fun _ => hfails, fun _ => rfl⟩
  fatal := fun h => absurd hfails h
  wellNamed := fun _ hp => absurd hp List.not_mem_nil

theorem wellNamed_of_not_fatal (h : ∀ p ∈ problems, p.isFatal = false) : WellNamed problems :=
  fun p hp hfatal => absurd hfatal (by rw [h p hp]; exact Bool.false_ne_true)

/-- A verdict without fatal findings. -/
def Harmless (verdict : Verdict) : Prop :=
  ∃ problems, verdict = .ok problems ∧ ∀ p ∈ problems, p.isFatal = false

theorem harmless_ok (h : ∀ p ∈ problems, p.isFatal = false) : Harmless (.ok problems) :=
  ⟨problems, rfl, h⟩

/-- What returns a verdict without fatal findings neither fails nor is fatal. -/
theorem obeys_never (h : job.Returns resolve Harmless) : Obeys resolve job .never := by
  intro o hgive
  obtain ⟨verdict, rfl, problems, rfl, hproblems⟩ := h o hgive
  refine fits_ok id ?_ (wellNamed_of_not_fatal hproblems)
  rw [Problem.anyFatal_eq_false hproblems]
  exact ⟨fun h => absurd h Bool.false_ne_true, False.elim⟩

theorem obeys_done {verdict : Verdict} (h : Fits rule (.returned verdict)) :
    Obeys resolve (.done verdict) rule := by
  intro o hgive
  rw [hgive.of_done]
  exact h

/-! ### Checkers for one method -/

/-- **A checker for one method obeys its rule under that method.** -/
theorem forMethod_obeys {name : String} {concerned : Method}
    {check : ScanContext → String → Job Verdict} (context : ScanContext) (domain : String)
    (method : Method) (h : Obeys resolve (check context domain) rule) :
    Obeys resolve ((Checker.forMethod name concerned check).check context domain method)
      (rule.under (method = concerned)) := by
  unfold Checker.forMethod
  simp only
  by_cases hmethod : method = concerned
  · rw [if_pos hmethod]
    intro o hgive
    have hfits := h o hgive
    refine ⟨?_, fun hfails => ?_, hfits.wellNamed⟩
    · rw [hfits.failure, Rule.under]
      exact (and_iff_right hmethod).symm
    · rw [hfits.fatal fun h => hfails ⟨hmethod, h⟩, Rule.under]
      exact (and_iff_right hmethod).symm
  · rw [if_neg hmethod]
    exact obeys_done (fits_notApplicable (fun h => hmethod h.1) fun h => hmethod h.1)

/-! ### Checkers side by side -/

/-- An error with which a member ends a block is an error of the block. -/
theorem failure?_error_of_failure? {e : CheckError} (h : failure? o = some e) :
    failure? (.returned (.error e)) = some e := by
  unfold failure? at h ⊢
  cases e with
  | notApplicable => split at h <;> simp_all
  | crashed | failed => rfl

/-- A block ends as its members do, in whatever order: it fails if one of them failed, and otherwise
its findings are theirs. -/
theorem merge_cases {ι : Type} (completions : List (ι × Outcome Verdict)) :
    (hasFailure completions = true ∧
        (failure? (.returned (mergeVerdicts completions))).isSome = true ∧
        findings (.returned (mergeVerdicts completions)) = []) ∨
      hasFailure completions = false ∧
        mergeVerdicts completions = .ok (completions.flatMap fun c => findings c.2) := by
  unfold mergeVerdicts
  cases hfirst : completions.findSome? fun c => failure? c.2 with
  | some e =>
    obtain ⟨c, hc, hfail⟩ := List.exists_of_findSome?_eq_some hfirst
    refine .inl ⟨List.any_eq_true.mpr ⟨c, hc, by rw [hfail]; rfl⟩, ?_, rfl⟩
    rw [failure?_error_of_failure? hfail]
    rfl
  | none =>
    rw [List.findSome?_eq_none_iff] at hfirst
    refine .inr ⟨?_, rfl⟩
    unfold hasFailure
    rw [List.any_eq_false]
    exact fun c hc => by rw [hfirst c hc]; exact Bool.false_ne_true

section Completions

variable {ι : Type} {rules : List Rule} {completions : List (ι × Outcome Verdict)}

/-- A block has failed when one of the rules tells that its member fails. -/
theorem hasFailure_iff (hfits : ∀ c ∈ completions, ∃ rule ∈ rules, Fits rule c.2)
    (hall : hasFailure completions = false → ∀ rule ∈ rules, ∃ c ∈ completions, Fits rule c.2) :
    hasFailure completions = true ↔ ∃ rule ∈ rules, rule.fails := by
  constructor
  · intro hany
    obtain ⟨c, hc, hfailure⟩ := List.any_eq_true.mp hany
    obtain ⟨rule, hrule, hrulefits⟩ := hfits c hc
    exact ⟨rule, hrule, hrulefits.failure.mp hfailure⟩
  · rintro ⟨rule, hrule, hfails⟩
    by_contra hnone
    obtain ⟨c, hc, hrulefits⟩ := hall (by simpa using hnone) rule hrule
    exact hnone (List.any_eq_true.mpr ⟨c, hc, hrulefits.failure.mpr hfails⟩)

/-- What a block makes of its completions is what the rules of its members tell, if each completion
fits one of them and, unless the block has failed, each of them is fitted by one. -/
theorem fits_mergeVerdicts (hfits : ∀ c ∈ completions, ∃ rule ∈ rules, Fits rule c.2)
    (hall : hasFailure completions = false → ∀ rule ∈ rules, ∃ c ∈ completions, Fits rule c.2) :
    Fits ⟨∃ rule ∈ rules, rule.fails, ∃ rule ∈ rules, rule.fatal⟩
      (.returned (mergeVerdicts completions)) := by
  have hfail := hasFailure_iff hfits hall
  rcases merge_cases completions with ⟨hany, hfailure, hnil⟩ | ⟨hok, hmerge⟩
  · have hfails := hfail.mp hany
    refine ⟨⟨fun _ => hfails, fun _ => hfailure⟩, fun hnot => absurd hfails hnot, ?_⟩
    rw [hnil]
    exact fun _ hp => absurd hp List.not_mem_nil
  · have hnot : ¬∃ rule ∈ rules, rule.fails := by
      rw [← hfail, hok]
      exact Bool.false_ne_true
    rw [hmerge]
    refine fits_ok hnot ?_ ?_
    · rw [Problem.anyFatal_flatMap]
      constructor
      · rintro ⟨c, hc, hfatal⟩
        obtain ⟨rule, hrule, hrulefits⟩ := hfits c hc
        exact ⟨rule, hrule, (hrulefits.fatal fun hfails => hnot ⟨rule, hrule, hfails⟩).mp hfatal⟩
      · rintro ⟨rule, hrule, hfatal⟩
        obtain ⟨c, hc, hrulefits⟩ := hall hok rule hrule
        exact ⟨c, hc, (hrulefits.fatal fun hfails => hnot ⟨rule, hrule, hfails⟩).mpr hfatal⟩
    · intro p hp
      obtain ⟨c, hc, hp⟩ := List.mem_flatMap.mp hp
      obtain ⟨rule, hrule, hrulefits⟩ := hfits c hc
      exact hrulefits.wellNamed p hp

end Completions

/-- **A block fails when one of its members does, and otherwise is fatal when one of them is.** -/
theorem block_obeys {members : List Checker} {rules : List Rule} {context : ScanContext}
    {domain : String} {method : Method}
    (h : List.Forall₂ (fun c rule => Obeys resolve (c.check context domain method) rule) members
      rules) :
    Obeys resolve ((block members).check context domain method)
      ⟨∃ rule ∈ rules, rule.fails, ∃ rule ∈ rules, rule.fatal⟩ := by
  intro o hgive
  obtain ⟨hlength, hget⟩ := List.forall₂_iff_get.mp h
  cases hgive with
  | @fork _ _ _ _ _ _ _ _ completions hnodup hchild hthrough hend =>
    rw [hend.of_done]
    refine fits_mergeVerdicts (fun c hc => ?_) fun hok rule hrule => ?_
    · exact ⟨_, List.get_mem rules ⟨c.1, hlength ▸ c.1.isLt⟩, hget c.1 c.1.isLt _ c.2 (hchild c hc)⟩
    · -- none has failed, so all members are through
      obtain ⟨i, hi, rfl⟩ := List.mem_iff_getElem.mp hrule
      have hfull : completions.length = members.length :=
        hthrough.resolve_right (by rw [hok]; exact Bool.false_ne_true)
      obtain ⟨o, hlookup⟩ := Job.exists_lookup_eq hnodup hfull ⟨i, hlength ▸ hi⟩
      have hmem := Job.mem_of_lookup_eq_some hlookup
      exact ⟨_, hmem, hget i (hlength ▸ hi) hi o (hchild _ hmem)⟩

end Check

end Rehearsal
