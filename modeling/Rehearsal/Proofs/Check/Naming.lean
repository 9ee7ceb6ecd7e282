import Rehearsal.Proofs.Check.Block
import Rehearsal.Proofs.Check.Caa
import Rehearsal.Proofs.Check.Effects
import Rehearsal.Proofs.Check.Nameservers

/-!
# Fatal findings have names

A finding without a name is left out of a scan, so it matters that fatal ones have names. They do
whatever is answered, even by peers that break down or change their minds.

## Main definitions

* `Check.NamesFatal`: a verdict whose fatal findings are well named

## Main results

* `Check.caa_namesFatal`: permission to issue
* `Check.standardBlock_namesFatal`: the checkers that run side by side
* `Check.caa_applicable`, `Check.block_applicable`: neither of them is ever not applicable
-/

namespace Rehearsal

namespace Check

variable {w : World} (context : ScanContext) (domain : String) (method : Method)

/-- The findings of a verdict are well named, if it has any. -/
def NamesFatal (verdict : Verdict) : Prop := ∀ problems, verdict = .ok problems → WellNamed problems

theorem namesFatal_ok {problems : List Problem} (h : WellNamed problems) :
    NamesFatal (.ok problems) :=
  fun _ heq => Except.ok.inj heq ▸ h

theorem namesFatal_error (e : CheckError) : NamesFatal (.error e) := fun _ heq => nomatch heq

theorem namesFatal_nil : NamesFatal (.ok []) :=
  namesFatal_ok fun _ hp => absurd hp List.not_mem_nil

theorem namesFatal_singleton {p : Problem} (h : p.name ∈ fatalNames) : NamesFatal (.ok [p]) :=
  namesFatal_ok fun _ hq _ => List.mem_singleton.mp hq ▸ h

theorem Harmless.namesFatal {verdict : Verdict} (h : Harmless verdict) : NamesFatal verdict := by
  obtain ⟨problems, rfl, hproblems⟩ := h
  exact namesFatal_ok (wellNamed_of_not_fatal hproblems)

theorem NamesFatal.findings {verdict : Verdict} (h : NamesFatal verdict) :
    WellNamed (findings (.returned verdict)) := by
  cases verdict with
  | ok problems => exact h problems rfl
  | error e => exact fun _ hp => absurd hp List.not_mem_nil

theorem forMethod_namesFatal {name : String} {concerned : Method}
    {check : ScanContext → String → Job Verdict} (h : (check context domain).Yields w NamesFatal) :
    ((Checker.forMethod name concerned check).check context domain method).Yields w NamesFatal := by
  unfold Checker.forMethod
  dsimp only
  split
  · exact h
  · exact Job.yields_done (namesFatal_error _)

/-! ### Permission to issue -/

theorem walkCaa_namesFatal (wildcard : Bool) (names : List String) :
    (walkCaa wildcard names).Yields w NamesFatal := by
  induction names with
  | nil => exact Job.yields_done namesFatal_nil
  | cons name names ih =>
    refine Job.yields_lookup_bind fun outcome _ => ?_
    cases outcome with
    | error e =>
      exact Job.yields_done (namesFatal_singleton (by simp [Problem.lookupFailed, fatalNames]))
    | ok records =>
      dsimp only
      split
      · exact Job.yields_crash _
      · exact ih
      · exact Job.yields_done (namesFatal_ok (wellNamed_evaluate _))

theorem caa_namesFatal (suffixes : List Domain.SuffixRule) :
    ((caaBy suffixes).check context domain method).Yields w NamesFatal :=
  walkCaa_namesFatal _ _

theorem walkCaa_applicable (wildcard : Bool) (names : List String) :
    (walkCaa wildcard names).Yields w fun verdict => verdict ≠ .error .notApplicable := by
  induction names with
  | nil => exact Job.yields_done nofun
  | cons name names ih =>
    refine Job.yields_lookup_bind fun outcome _ => ?_
    cases outcome with
    | error e => exact Job.yields_done nofun
    | ok records =>
      dsimp only
      split
      · exact Job.yields_crash _
      · exact ih
      · exact Job.yields_done nofun

theorem caa_applicable (suffixes : List Domain.SuffixRule) :
    ((caaBy suffixes).check context domain method).Yields w fun verdict =>
      verdict ≠ .error .notApplicable :=
  walkCaa_applicable _ _

/-! ### Addresses and the challenge record -/

theorem dnsA_namesFatal : (dnsA.check context domain method).Yields w NamesFatal := by
  refine forMethod_namesFatal context domain method
    (Job.Yields.bind (P := fun _ => True) (fun _ _ => trivial) fun answers _ => ?_)
  split
  · split
    next problems hjudge =>
      exact Job.yields_done (namesFatal_ok (judgeAddresses_refuse hjudge).wellNamed)
    next => exact Job.yields_crash _
  · exact Job.yields_done namesFatal_nil

theorem txtRecord_namesFatal : (txtRecord.check context domain method).Yields w NamesFatal := by
  refine forMethod_namesFatal context domain method (Job.yields_lookup_bind fun outcome _ => ?_)
  cases outcome with
  | ok records => exact Job.yields_done namesFatal_nil
  | error e =>
    exact Job.yields_done (namesFatal_singleton (by simp [challengeError, fatalNames]))

theorem txtDoubledLabel_namesFatal (suffixes : List Domain.SuffixRule) :
    ((txtDoubledLabelBy suffixes).check context domain method).Yields w NamesFatal := by
  refine forMethod_namesFatal context domain method (Job.yields_ask_bind fun drawn => ?_)
  refine Job.Yields.bind (P := fun _ => True) (fun _ _ => trivial) fun outcomes _ => ?_
  exact Job.yields_done (harmless_ok (judgeDoubled_not_fatal _ _)).namesFatal

/-! ### Nameservers -/

theorem collectAll_namesFatal {σ β : Type} {add : σ → Outcome β → Except Stop σ} {start : σ}
    {parts : List (Job β)}
    (hadd : ∀ known value stop, add known (.returned value) = .error stop → Harmless stop.verdict)
    (hcrash : ∀ known message, add known (.crashed message) = .error (.broken message)) :
    (collectAll add start parts).Yields w fun result =>
      ∀ stop, result = .error stop → NamesFatal stop.verdict := by
  refine Job.yields_race fun completions => Job.yields_done fun stop hstop => ?_
  obtain ⟨-, ⟨i, o⟩, -, known, -, -, hadded⟩ := exists_split_of_collect hstop
  cases o with
  | returned value => exact (hadd known value stop hadded).namesFatal
  | crashed message =>
    obtain rfl := Except.error.inj ((hcrash known message).symm.trans hadded)
    exact namesFatal_error _

theorem nsOutOfSync_namesFatal : (nsOutOfSync.check context domain method).Yields w NamesFatal := by
  refine forMethod_namesFatal context domain method (Job.yields_lookup_bind fun outcome _ => ?_)
  cases outcome with
  | error e =>
    exact Job.yields_done (namesFatal_singleton (by simp [Problem.lookupFailed, fatalNames]))
  | ok records =>
    dsimp only
    split
    · exact Job.yields_done (harmless_note (p := nsNote _ _) rfl).namesFatal
    · refine Job.Yields.bind (P := fun found => ∀ stop, found = .error stop →
        NamesFatal stop.verdict) ?_ fun found hfound => ?_
      · refine (collectAll_namesFatal addAddresses_harmless fun _ _ => rfl).bind
          fun found hfound => Job.yields_done fun stop hstop => ?_
        cases found with
        | ok servers => cases hstop
        | error stop' => exact hfound stop (congrArg Except.error (Except.error.inj hstop))
      · cases found with
        | error stop => exact Job.yields_done (hfound stop rfl)
        | ok servers =>
          refine (collectAll_namesFatal addAnswer_harmless fun _ _ => rfl).bind
            fun served hserved => ?_
          cases served with
          | error stop => exact Job.yields_done (hserved stop rfl)
          | ok served =>
            exact Job.yields_done (harmless_ok (compareServed_not_fatal _ _ _)).namesFatal

/-! ### Checkers side by side -/

theorem block_namesFatal {members : List Checker}
    (h : ∀ c ∈ members, (c.check context domain method).Yields w NamesFatal) :
    ((block members).check context domain method).Yields w NamesFatal := by
  intro verdict hgive problems hok
  cases hgive with
  | @fork _ _ _ _ _ _ _ _ completions _ hchild _ hend =>
    obtain rfl := Outcome.returned.inj hend.of_done
    obtain ⟨-, rfl⟩ := mergeVerdicts_eq_ok hok
    intro p hp
    obtain ⟨⟨i, o⟩, hc, hp⟩ := List.mem_flatMap.mp hp
    cases o with
    | returned verdict =>
      exact (h _ (List.get_mem members i) verdict (hchild _ hc)).findings p hp
    | crashed message => cases hp

theorem block_applicable (members : List Checker) :
    ((block members).check context domain method).Yields w fun verdict =>
      verdict ≠ .error .notApplicable := by
  intro verdict hgive
  cases hgive with
  | fork hnodup _ hthrough hend =>
    obtain rfl := Outcome.returned.inj hend.of_done
    exact (merges_of_through hnodup hthrough).applicable

theorem standardBlock_namesFatal (suffixes : List Domain.SuffixRule) :
    ((block (standardMembers suffixes)).check context domain method).Yields w NamesFatal := by
  refine block_namesFatal context domain method fun c hc => ?_
  simp only [List.mem_cons, List.not_mem_nil, or_false] at hc
  rcases hc with rfl | rfl | rfl | rfl
  · exact dnsA_namesFatal context domain method
  · exact txtRecord_namesFatal context domain method
  · exact txtDoubledLabel_namesFatal context domain method suffixes
  · exact nsOutOfSync_namesFatal context domain method

end Check

end Rehearsal
