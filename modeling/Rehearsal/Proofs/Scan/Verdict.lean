import Rehearsal.Proofs.Check.Caa
import Rehearsal.Proofs.Check.Web
import Rehearsal.Proofs.Scan.Course

/-!
# The verdict of a scan

When checkers obey rules, so does the scan: going through the checkers in order, it fails if one of
them does before another is fatal, and otherwise it has a fatal finding if one of them is fatal.

## Main definitions

* `Scan.FailsFirst`: a list of rules fails before it is fatal

## Main results

* `Scan.Course.obeys`: a course obeys the rules of its checkers
* `Check.standard_obeys`: the rules of an ordinary scan
-/

namespace Rehearsal

/-- Writing log lines keeps the invariant where the job holds no seat. -/
theorem Session.Orderly.logs {peers : Peers} {past : Nat} {s s' : Session} (h : s.Orderly 0 past)
    (hlogs : s.Logs peers s') : s'.Orderly 0 past :=
  hlogs.preserves (P := fun s => s.Orderly 0 past) (fun _ _ drifts h => h.drifts drifts)
    (fun _ _ h => h.note_quiet (fun _ => by simp) fun _ _ => by simp) h

namespace Scan

variable {peers : Peers} {check : Checker → Job Verdict} {checkers : List Checker}
  {resolve : Resolution} {past : Nat} {s s' : Session} {visits : List Visit}

theorem Linked.journal_grows (h : Linked peers s s' visits)
    (hruns : ∀ v ∈ visits, (check v.checker).Ends peers v.before v.outcome v.after) :
    s.journal <+: s'.journal := by
  induction visits generalizing s with
  | nil => exact Session.Logs.journal_grows h
  | cons v visits ih =>
    obtain ⟨hrun, hruns⟩ := List.forall_mem_cons.mp hruns
    exact (h.1.journal_grows.trans hrun.journal_grows).trans (ih h.2 hruns)

theorem Linked.orderly (h : Linked peers s s' visits)
    (hruns : ∀ v ∈ visits, (check v.checker).Ends peers v.before v.outcome v.after)
    (hs : s.Orderly 0 past) : s'.Orderly 0 past := by
  induction visits generalizing s with
  | nil => exact hs.logs h
  | cons v visits ih =>
    obtain ⟨hrun, hruns⟩ := List.forall_mem_cons.mp hruns
    exact ih h.2 hruns (hrun.orderly (hs.logs h.1))

/-- A visit begins after the visits before it, when nobody holds a seat, and ends before those that
follow. -/
theorem Course.around {v : Visit} (h : Course peers check checkers s s' visits)
    (hs : s.Orderly 0 past) (hv : v ∈ visits) :
    s.journal <+: v.before.journal ∧ v.before.Orderly 0 past ∧
      v.after.journal <+: s'.journal := by
  have hruns := h.runs
  have hlinked := h.linked
  clear h
  induction visits generalizing s with
  | nil => cases hv
  | cons u visits ih =>
    obtain ⟨hrun, hrest⟩ := List.forall_mem_cons.mp hruns
    have hbefore := hs.logs hlinked.1
    rcases List.mem_cons.mp hv with rfl | hv
    · exact ⟨hlinked.1.journal_grows, hbefore, Linked.journal_grows hlinked.2 hrest⟩
    · obtain ⟨hgrows, horderly, hend⟩ := ih (hrun.orderly hbefore) hv hrest hlinked.2
      exact ⟨(hlinked.1.journal_grows.trans hrun.journal_grows).trans hgrows, horderly, hend⟩

theorem Course.orderly (h : Course peers check checkers s s' visits) (hs : s.Orderly 0 past) :
    s'.Orderly 0 past :=
  h.linked.orderly h.runs hs

/-- What the visits of a scan ended with, the checkers give in every world that covers the answers
of the scan. -/
theorem Linked.gives {w : World} (hlinked : Linked peers s s' visits)
    (hruns : ∀ v ∈ visits, (check v.checker).Ends peers v.before v.outcome v.after)
    (hs : s.Orderly 0 past) (hw : w.Covers peers (s'.news past)) :
    ∀ v ∈ visits, (check v.checker).Gives w v.outcome := by
  induction visits generalizing s with
  | nil => exact fun _ hv => absurd hv List.not_mem_nil
  | cons v visits ih =>
    obtain ⟨hrun, hruns⟩ := List.forall_mem_cons.mp hruns
    have hbefore := hs.logs hlinked.1
    refine List.forall_mem_cons.mpr ⟨?_, ih hlinked.2 hruns (hrun.orderly hbefore)⟩
    exact hrun.gives hbefore
      (hw.mono (Session.news_subset (Linked.journal_grows hlinked.2 hruns) past))

theorem Course.gives {w : World} (h : Course peers check checkers s s' visits)
    (hs : s.Orderly 0 past) (hw : w.Covers peers (s'.news past)) :
    ∀ v ∈ visits, (check v.checker).Gives w v.outcome :=
  h.linked.gives h.runs hs hw

/-! ### Courses and rules -/

/-- A list of rules fails before it is fatal. -/
def FailsFirst : List Check.Rule → Prop
  | [] => False
  | rule :: rules => rule.fails ∨ ¬rule.fatal ∧ FailsFirst rules

theorem failure?_isSome_iff (v : Visit) :
    v.failure?.isSome = true ↔ (Check.failure? v.outcome).isSome = true := by
  unfold Visit.failure? Check.failure?
  cases v.outcome with
  | crashed message => exact Iff.rfl
  | returned verdict =>
    cases verdict with
    | ok problems => exact Iff.rfl
    | error e => cases e <;> exact Iff.rfl

/-- Findings that are well named are kept if they are fatal. -/
theorem anyFatal_kept_iff {v : Visit} (h : Check.WellNamed (Check.findings v.outcome)) :
    Problem.anyFatal v.kept = true ↔ Problem.anyFatal (Check.findings v.outcome) = true := by
  rw [Visit.kept_eq]
  unfold Engine.kept Problem.anyFatal
  rw [List.any_filter, List.any_eq_true, List.any_eq_true]
  refine exists_congr fun p => and_congr_right fun hp => ?_
  rw [Bool.and_eq_true]
  refine ⟨fun h => h.2, fun hfatal => ⟨?_, hfatal⟩⟩
  have hname := h p hp hfatal
  unfold Problem.isEmpty
  by_contra hempty
  have hnil : p.name = "" := by simpa using hempty
  rw [hnil] at hname
  simp [Check.fatalNames] at hname

/-- A course begins with a visit of the first checker, which ends it or is followed by a course of
the others. -/
theorem Course.cons_inv {checker : Checker}
    (h : Course peers check (checker :: checkers) s s' visits) :
    ∃ v rest, visits = v :: rest ∧ v.checker = checker ∧
      (v.IsLast ∧ rest = [] ∨ ¬v.IsLast ∧ Course peers check checkers v.after s' rest) := by
  cases visits with
  | nil =>
    obtain ⟨v, hv, -⟩ := h.stops (Nat.zero_lt_succ _)
    cases hv
  | cons v rest =>
    obtain ⟨hchecker, hbegins⟩ := List.cons_prefix_cons.mp h.inOrder
    have hgoes := List.pairwise_cons.mp h.goesOn
    refine ⟨v, rest, rfl, hchecker, ?_⟩
    by_cases hlast : v.IsLast
    · refine .inl ⟨hlast, ?_⟩
      cases rest with
      | nil => rfl
      | cons w rest => exact absurd hlast (hgoes.1 w List.mem_cons_self)
    · refine .inr ⟨hlast, hbegins, fun w hw => h.runs w (List.mem_cons_of_mem v hw), h.linked.2,
        hgoes.2, fun hshort => ?_⟩
      obtain ⟨w, hw, hwlast⟩ := h.stops (Nat.succ_lt_succ hshort)
      rcases List.mem_cons.mp hw with rfl | hw
      · exact absurd hwlast hlast
      · exact ⟨w, hw, hwlast⟩

/-- **A course obeys the rules of its checkers.** -/
theorem Course.obeys {rules : List Check.Rule} (h : Course peers check checkers s s' visits)
    (hrules : List.Forall₂ (fun c rule => Check.Obeys resolve (check c) rule) checkers rules)
    (hgives : ∀ v ∈ visits, (check v.checker).Gives (.calm resolve) v.outcome) :
    ((∃ v ∈ visits, v.failure?.isSome = true) ↔ FailsFirst rules) ∧
      (¬FailsFirst rules → ((∃ v ∈ visits, Problem.anyFatal v.kept = true) ↔
        ∃ rule ∈ rules, rule.fatal)) ∧
      ∀ v ∈ visits, Check.WellNamed (Check.findings v.outcome) := by
  induction hrules generalizing s visits with
  | nil =>
    obtain rfl : visits = [] := List.map_eq_nil_iff.mp (List.prefix_nil.mp h.inOrder)
    simp [FailsFirst]
  | @cons checker rule checkers rules hobeys _ ih =>
    obtain ⟨v, rest, rfl, rfl, hrest⟩ := h.cons_inv
    obtain ⟨hgive, hgives⟩ := List.forall_mem_cons.mp hgives
    have hfits := hobeys _ hgive
    have hfailure := (failure?_isSome_iff v).trans hfits.failure
    have hfatal (hfails : ¬rule.fails) := (anyFatal_kept_iff hfits.wellNamed).trans
      (hfits.fatal hfails)
    rw [FailsFirst, List.exists_mem_cons_iff, List.exists_mem_cons_iff, List.exists_mem_cons_iff,
      List.forall_mem_cons, hfailure]
    rcases hrest with ⟨hlast, rfl⟩ | ⟨hlast, hcourse⟩
    · by_cases hfails : rule.fails
      · simp [hfails, hfits.wellNamed]
      · -- whoever ends the scan without failing is fatal
        have hisfatal : rule.fatal := by
          rcases v.isLast_iff.mp hlast with hsome | hkept
          · exact absurd (hfailure.mp hsome) hfails
          · exact (hfatal hfails).mp hkept
        simp [hfails, hisfatal, hfatal hfails, hfits.wellNamed]
    · have hfails : ¬rule.fails := fun hfails => hlast (.inl (hfailure.mpr hfails))
      have hharmless : ¬rule.fatal := fun h =>
        hlast (v.isLast_iff.mpr (.inr ((hfatal hfails).mpr h)))
      obtain ⟨ihfails, ihfatal, ihnamed⟩ := ih hcourse hgives
      simp only [hfails, hharmless, false_or, not_false_eq_true, true_and, hfatal hfails]
      exact ⟨ihfails, ihfatal, hfits.wellNamed, ihnamed⟩

/-! ### Results -/

theorem resultOf_error_iff :
    (∃ e, resultOf visits = .error e) ↔ ∃ v ∈ visits, v.failure?.isSome = true := by
  unfold resultOf
  constructor
  · rintro ⟨e, h⟩
    split at h
    next e' hfirst =>
      obtain ⟨v, hv, hfailure⟩ := List.exists_of_findSome?_eq_some hfirst
      exact ⟨v, hv, by rw [hfailure]; rfl⟩
    next => cases h
  · rintro ⟨v, hv, hsome⟩
    split
    next e _ => exact ⟨e, rfl⟩
    next hnone =>
      rw [List.findSome?_eq_none_iff.mp hnone v hv] at hsome
      cases hsome

end Scan

namespace Engine

/-- **A scan obeys the rules of its checkers**: it fails if one of them does before another is
fatal, and otherwise it has a fatal finding if one of them is fatal. -/
theorem scan_obeys (engine : Engine) {rules : List Check.Rule} {domain : String} {method : Method}
    {options : ScanOptions} {peers : Peers} {resolve : Resolution} {s s' : Session}
    {outcome : Outcome ScanResult}
    (hrules : List.Forall₂ (fun c rule => Check.Obeys resolve
        (c.check ⟨options, engine.probes⟩ (Domain.normalize domain) method) rule)
      engine.checkers rules)
    (haccepted : options.validate = .ok ()) (hcalm : peers.Calm)
    (h : (engine.scan domain method options).Ends peers s.forget outcome s')
    (hresolves : s'.Resolves s.journal.length resolve) :
    ∃ result, outcome = .returned result ∧
      ((∃ e, result = .error e) ↔ Scan.FailsFirst rules) ∧
      ∀ problems, result = .ok problems →
        (Problem.anyFatal problems = true ↔ ∃ rule ∈ rules, rule.fatal) ∧
        Check.WellNamed problems := by
  obtain ⟨visits, hcourse, rfl⟩ := exists_course haccepted h
  have hgives : ∀ v ∈ visits, (v.checker.check ⟨options, engine.probes⟩ (Domain.normalize domain)
      method).Gives (.calm resolve) v.outcome :=
    hcourse.gives (Session.orderly_of_cache_eq_nil rfl rfl) (World.covers_calm hcalm hresolves)
  obtain ⟨hfails, hfatal, hnamed⟩ := hcourse.obeys hrules hgives
  refine ⟨_, rfl, Scan.resultOf_error_iff.trans hfails, fun problems hproblems => ?_⟩
  have hnot : ¬Scan.FailsFirst rules := by
    rw [← hfails, ← Scan.resultOf_error_iff, hproblems]
    rintro ⟨e, he⟩
    cases he
  obtain rfl := Scan.eq_flatMap_of_resultOf hproblems
  rw [Problem.anyFatal_flatMap]
  refine ⟨hfatal hnot, fun p hp hpfatal => ?_⟩
  obtain ⟨v, hv, hp⟩ := List.mem_flatMap.mp hp
  exact hnamed v hv p (List.mem_of_mem_filter hp) hpfatal

end Engine

namespace Check

variable {resolve : Resolution}

/-- The rules of the checkers that run side by side. -/
def blockRules (resolve : Resolution) (domain : String) (method : Method) : List Rule :=
  let name := (Domain.stripWildcard domain).1
  [ Rule.under (method = .http01)
      ⟨AddressesUnwritable (resolve (.ofName domain .a)) (resolve (.ofName domain .aaaa)),
        AddressesRefuse (resolve (.ofName domain .a)) (resolve (.ofName domain .aaaa))⟩,
    Rule.under (method = .dns01) ⟨False, IsError (resolve (.ofName (challengeName name) .txt))⟩,
    Rule.under (method = .dns01) .never,
    Rule.under (method = .dns01) ⟨False, IsError (resolve (.ofName name .ns))⟩]

/-- The rules of the checkers of an ordinary scan. -/
def standardRules (suffixes : List Domain.SuffixRule) (resolve : Resolution) (domain : String)
    (method : Method) : List Rule :=
  let name := (Domain.stripWildcard domain).1
  let isWildcard := (Domain.stripWildcard domain).2
  [ ⟨False, method.isKnown = false⟩,
    ⟨False, method.isDisabled = true⟩,
    ⟨False, (classifyDomain suffixes name).name = "InvalidDomain"⟩,
    ⟨False, isWildcard = true ∧ method ≠ .dns01⟩,
    ⟨CaaUnwritable resolve (Domain.chain suffixes name),
      CaaRefuses resolve isWildcard (Domain.chain suffixes name)⟩,
    ⟨∃ rule ∈ blockRules resolve domain method, rule.fails,
      ∃ rule ∈ blockRules resolve domain method, rule.fatal⟩,
    Rule.under (method = .http01) .never,
    .never,
    .never]

/-- **The checkers of an ordinary scan obey its rules.** -/
theorem standard_obeys (resolve : Resolution) (suffixes : List Domain.SuffixRule)
    (context : ScanContext) (domain : String) (method : Method) :
    List.Forall₂ (fun c rule => Obeys resolve (c.check context domain method) rule)
      (standardBy suffixes) (standardRules suffixes resolve domain method) :=
  .cons (validMethod_obeys context domain method) <|
  .cons (tlsSni_obeys context domain method) <|
  .cons (validDomain_obeys context domain method suffixes) <|
  .cons (wildcardDns01Only_obeys context domain method) <|
  .cons (caa_obeys suffixes context domain method) <|
  .cons (block_obeys <|
    .cons (dnsA_obeys context domain method) <|
    .cons (txtRecord_obeys context domain method) <|
    .cons (txtDoubledLabel_obeys suffixes context domain method) <|
    .cons (nsOutOfSync_obeys context domain method) .nil) <|
  .cons (httpAccessibility_obeys context domain method) <|
  .cons (cloudflare_obeys context domain method) <|
  .cons (statusPage_obeys context domain method) .nil

theorem blockRules_fails (domain : String) (method : Method) :
    (∃ rule ∈ blockRules resolve domain method, rule.fails) ↔
      method = .http01 ∧
        AddressesUnwritable (resolve (.ofName domain .a)) (resolve (.ofName domain .aaaa)) := by
  simp [blockRules, Rule.under, Rule.never]

theorem blockRules_fatal (domain : String) (method : Method) :
    (∃ rule ∈ blockRules resolve domain method, rule.fatal) ↔
      method = .http01 ∧
          AddressesRefuse (resolve (.ofName domain .a)) (resolve (.ofName domain .aaaa)) ∨
        method = .dns01 ∧
          (IsError (resolve (.ofName (Domain.stripWildcard domain).1 .ns)) ∨
            IsError (resolve (.ofName (challengeName (Domain.stripWildcard domain).1) .txt))) := by
  simp only [blockRules, Rule.under, Rule.never, List.exists_mem_cons_iff, List.not_mem_nil,
    false_and, exists_false, or_false, and_false, false_or]
  rw [← and_or_left, or_comm (a := IsError _)]

end Check

end Rehearsal
