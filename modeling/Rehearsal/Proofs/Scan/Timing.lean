import Rehearsal.Proofs.Check.Agreement
import Rehearsal.Proofs.Scan.Stages

/-!
# The time that answers take

Two scans of one name are given the same answers, but not at the same times. Lookups are then
shared, queued, answered and given up in different orders. What the scans find is the same all the
same, up to the order of findings, for a scan for `dns-01` up to the checkers that run side by side.
The one thing in which time can show is the text of the note about nameservers, and that only if
more than one thing makes their comparison stop.

## Main results

* `Scan.Course.agree`: courses that differ at most in what the last checker finds
* `Engine.timing_changes_one_note_at_most`: what two scans with the same answers find
-/

namespace Rehearsal

namespace Scan

variable {w : World} {peers peers' : Peers} {check : Checker → Job Verdict} {last : Checker}
  {front : List Checker} {s s' t t' : Session} {visits visits' : List Visit}

theorem resultOf_cons {v : Visit} (h : ¬v.IsLast) (visits : List Visit) :
    resultOf (v :: visits) = (resultOf visits).map (v.kept ++ ·) := by
  unfold resultOf
  rw [List.findSome?_cons, Visit.failure?_eq_none_of_not_isLast h, List.flatMap_cons]
  cases visits.findSome? Visit.failure? <;> rfl

/-- A course of one checker that has findings to give has these as its result. -/
theorem Course.result_of_singleton (h : Course peers check [last] s s' visits)
    (hgives : ∀ v ∈ visits, (check v.checker).Gives w v.outcome)
    (hlast : ∀ o, (check last).Gives w o → ∃ problems, o = .returned (.ok problems)) :
    ∃ problems, (check last).Gives w (.returned (.ok problems)) ∧
      resultOf visits = .ok (Engine.kept problems) := by
  obtain ⟨v, rest, rfl, rfl, hrest⟩ := h.cons_inv
  have hnil : rest = [] := by
    rcases hrest with ⟨-, rfl⟩ | ⟨-, hcourse⟩
    · rfl
    · exact List.map_eq_nil_iff.mp (List.prefix_nil.mp hcourse.inOrder)
  subst hnil
  have hgive := hgives v List.mem_cons_self
  obtain ⟨problems, houtcome⟩ := hlast _ hgive
  rw [houtcome] at hgive
  refine ⟨problems, hgive, ?_⟩
  simp [resultOf, Visit.failure?, Visit.kept_eq, houtcome, Check.findings, Check.memberVerdict]

/-- **Courses that differ at most in what the last checker finds**: each of the others can end in
one way only. -/
theorem Course.agree (h : Course peers check (front ++ [last]) s s' visits)
    (h' : Course peers' check (front ++ [last]) t t' visits')
    (hgives : ∀ v ∈ visits, (check v.checker).Gives w v.outcome)
    (hgives' : ∀ v ∈ visits', (check v.checker).Gives w v.outcome)
    (hfront : ∀ c ∈ front, ∃ o, (check c).Settles w o ∧ Check.OfOthers (Check.findings o))
    (hlast : ∀ o, (check last).Gives w o → ∃ problems, o = .returned (.ok problems)) :
    resultOf visits = resultOf visits' ∨
      ∃ found problems problems', Check.OfOthers found ∧
        (check last).Gives w (.returned (.ok problems)) ∧
        (check last).Gives w (.returned (.ok problems')) ∧
        resultOf visits = .ok (found ++ Engine.kept problems) ∧
        resultOf visits' = .ok (found ++ Engine.kept problems') := by
  induction front generalizing s t visits visits' with
  | nil =>
    obtain ⟨problems, hgive, hresult⟩ := h.result_of_singleton hgives hlast
    obtain ⟨problems', hgive', hresult'⟩ := h'.result_of_singleton hgives' hlast
    exact .inr ⟨[], problems, problems', Check.ofOthers_nil, hgive, hgive', hresult, hresult'⟩
  | cons c front ih =>
    obtain ⟨⟨_, before, o, after⟩, rest, rfl, rfl, hrest⟩ := h.cons_inv
    obtain ⟨⟨_, before', o', after'⟩, rest', rfl, hchecker, hrest'⟩ := h'.cons_inv
    obtain rfl := hchecker
    obtain ⟨hgive, hrestGives⟩ := List.forall_mem_cons.mp hgives
    obtain ⟨hgive', hrestGives'⟩ := List.forall_mem_cons.mp hgives'
    obtain ⟨⟨settled, hsettled, hothers⟩, hrestFront⟩ := List.forall_mem_cons.mp hfront
    obtain rfl : o = settled := hsettled _ hgive
    obtain rfl : o' = o := hsettled _ hgive'
    rcases hrest with ⟨hends, rfl⟩ | ⟨hgoes, hcourse⟩
    · rcases hrest' with ⟨-, rfl⟩ | ⟨hgoes', -⟩
      · exact .inl rfl
      · exact absurd hends hgoes'
    · rcases hrest' with ⟨hends', -⟩ | ⟨hgoes', hcourse'⟩
      · exact absurd hends' hgoes
      · rw [resultOf_cons hgoes, resultOf_cons hgoes']
        rcases ih hcourse hcourse' hrestGives hrestGives' hrestFront with hsame |
          ⟨found, problems, problems', hfound, hgive, hgive', hresult, hresult'⟩
        · exact .inl (congrArg _ hsame)
        · refine .inr ⟨Engine.kept (Check.findings o') ++ found, problems, problems', ?_, hgive,
            hgive', ?_, ?_⟩
          · exact Check.OfOthers.append (fun p hp => hothers p (List.mem_of_mem_filter hp)) hfound
          · rw [hresult, List.append_assoc, Visit.kept_eq]
            rfl
          · rw [hresult', List.append_assoc, Visit.kept_eq]
            rfl

end Scan

namespace Engine

open Check (Agree)

/-- The checkers of an ordinary scan up to those that run side by side. -/
theorem take_standardBy (suffixes : List Domain.SuffixRule) :
    (Check.standardBy suffixes).take 6 =
      (Check.offlineBy suffixes ++ [Check.caaBy suffixes]) ++
        [Check.block (Check.standardMembers suffixes)] :=
  rfl

/-- Before the checkers that run side by side, each can end in one way only. -/
theorem front_settles (resolve : Resolution) (reply : Replies) (suffixes : List Domain.SuffixRule)
    (context : ScanContext) (domain : String) :
    ∀ c ∈ Check.offlineBy suffixes ++ [Check.caaBy suffixes],
      ∃ o, (c.check context domain .dns01).Settles (.fixed resolve reply) o ∧
        Check.OfOthers (Check.findings o) := by
  refine List.forall_mem_append.mpr ⟨?_, List.forall_mem_singleton.mpr
    (Check.caa_settles resolve reply suffixes context domain .dns01)⟩
  simp only [Check.offlineBy, List.forall_mem_cons, List.not_mem_nil, false_imp_iff, implies_true,
    and_true]
  refine ⟨Check.offline_settles _ _ _ _ fun _ hp => ?_,
    Check.offline_settles _ _ _ _ fun _ hp => ?_,
    Check.offline_settles _ _ _ _ fun problems hp => ?_,
    Check.offline_settles _ _ _ _ fun _ hp => ?_⟩
  · cases hp
  · cases hp
  · obtain rfl := Except.ok.inj hp
    refine Check.ofOthers_singleton ?_
    rcases Check.classifyDomain_cases suffixes (Domain.stripWildcard domain).1 with
      ⟨reason, heq⟩ | ⟨explanation, detail, heq⟩ <;> rw [heq] <;>
      simp [Check.invalidDomain, Problem.debug, Check.nsOutOfSyncName]
  · simp at hp

/-- **The time that answers take shows in the text of one note at most.**

A scan for `dns-01` up to the checkers that run side by side ends with a result, whatever the
delays. Two such scans with the same answers, the random number among them, either both give
findings or both fail, in whatever order steps are taken. If they give findings, these have the same
names and severities. They are the same but for the text of one note about nameservers, and even
that unless there are two causes for the comparison of nameservers to stop. -/
theorem timing_changes_one_note_at_most (suffixes : List Domain.SuffixRule)
    (probes : ProbeSettings) (domain : String) (options : ScanOptions) (resolve : Resolution)
    (reply : Replies) :
    let scan := (⟨(Check.standardBy suffixes).take 6, probes⟩ : Engine).scan domain .dns01 options
    (∀ (delays : Delays) (s : Session), ∃ fuel result s',
      scan.run (.timed resolve reply delays) fuel s.forget = some (.returned result, s')) ∧
    ∀ (delays delays' : Delays) (s t s' t' : Session) (o o' : Outcome ScanResult),
      scan.Ends (.timed resolve reply delays) s.forget o s' →
      scan.Ends (.timed resolve reply delays') t.forget o' t' →
      ∃ result result', o = .returned result ∧ o' = .returned result' ∧
        ((∃ problems, result = .ok problems) ↔ ∃ problems', result' = .ok problems') ∧
        ∀ problems problems', result = .ok problems → result' = .ok problems' →
          (problems.map fun p => (p.name, p.severity)).Perm
            (problems'.map fun p => (p.name, p.severity)) ∧
          Agree resolve reply (Domain.stripWildcard (Domain.normalize domain)).1 problems
            problems' := by
  intro scan
  refine ⟨fun delays s => exists_run_scan _ domain .dns01 options _ s, ?_⟩
  intro delays delays' s t s' t' o o' h h'
  cases haccepted : options.validate with
  | error e =>
    obtain ⟨rfl, -⟩ := scan_refused haccepted h
    obtain ⟨rfl, -⟩ := scan_refused haccepted h'
    exact ⟨_, _, rfl, rfl, Iff.rfl, fun _ _ hok => nomatch hok⟩
  | ok =>
    obtain ⟨visits, hcourse, rfl⟩ := exists_course haccepted h
    obtain ⟨visits', hcourse', rfl⟩ := exists_course haccepted h'
    have hgives := hcourse.gives (Session.orderly_of_cache_eq_nil rfl rfl) (World.covers_fixed h)
    have hgives' := hcourse'.gives (Session.orderly_of_cache_eq_nil rfl rfl)
      (World.covers_fixed h')
    refine ⟨_, _, rfl, rfl, ?_⟩
    dsimp only at hcourse hcourse'
    rw [take_standardBy] at hcourse hcourse'
    have hblock (o : Outcome Verdict) (hgive : ((Check.block (Check.standardMembers suffixes)).check
        ⟨options, probes⟩ (Domain.normalize domain) .dns01).Gives (.fixed resolve reply) o) :
        ∃ problems, o = .returned (.ok problems) := by
      obtain ⟨problems, -, heq, -⟩ := Check.standardBlock_agrees suffixes _ _ hgive hgive
      exact ⟨problems, heq⟩
    rcases hcourse.agree hcourse' hgives hgives' (front_settles resolve reply suffixes _ _) hblock
      with hsame | ⟨others, found, found', hothers, hgive, hgive', hresult, hresult'⟩
    · refine ⟨by rw [hsame], fun problems problems' hok hok' => ?_⟩
      obtain rfl := Except.ok.inj ((hok.symm.trans hsame).trans hok')
      exact ⟨.refl _, .inl (.refl _)⟩
    · obtain ⟨_, _, heq, heq', hagree⟩ := Check.standardBlock_agrees suffixes _ _ hgive hgive'
      obtain rfl := Except.ok.inj (Outcome.returned.inj heq)
      obtain rfl := Except.ok.inj (Outcome.returned.inj heq')
      refine ⟨iff_of_true ⟨_, hresult⟩ ⟨_, hresult'⟩, fun problems problems' hok hok' => ?_⟩
      obtain rfl := Except.ok.inj (hresult.symm.trans hok)
      obtain rfl := Except.ok.inj (hresult'.symm.trans hok')
      have hkept : Agree resolve reply _ (kept found) (kept found') := hagree.filter fun _ _ => rfl
      have hwhole := hkept.append_left hothers
      exact ⟨hwhole.outline, hwhole⟩

end Engine

end Rehearsal
