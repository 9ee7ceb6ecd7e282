import Rehearsal.Proofs.Check.Naming
import Rehearsal.Proofs.Scan.Fatal

/-!
# How a scan reaches out

A scan asks no more than it has reason to. A hopeless case costs no question at all. As long as the
authority might not be permitted to issue, nothing but CAA records is looked up. And no emulated
validation request is sent before addresses and records have been found in order.

All of this is about the order of checkers and about what each of them does, so it holds whatever
the peers do: they may break down, or answer one question in many ways.

## Main definitions

* `Scan.Hopeless`: what is ruled out by the method and the name alone
* `Scan.Clears`: a checker has found nothing that rules issuance out

## Main results

* `Scan.Course.clears`: who does something that checkers up to some one do not do, comes after it
* `Engine.scan_reaches_out_in_stages`: when a scan reaches out, and how far
-/

namespace Rehearsal

namespace Session

variable {w : World} {P : Event → Prop} {peers : Peers} {past : Nat} {s s' : Session}

/-- An event without the property lies beyond what was added. -/
theorem Adds.prefix_of_not {before after : List Event} {event : Event} (h : s.Adds P s')
    (hgrows : s'.journal <+: before ++ event :: after) (hsince : s.journal.length ≤ before.length)
    (hevent : ¬P event) : s'.journal <+: before := by
  refine List.prefix_of_prefix_length_le hgrows (List.prefix_append _ _) ?_
  by_contra hbeyond
  rw [Nat.not_le] at hbeyond
  obtain ⟨events, heq, hall⟩ := h
  have hget : s'.journal[before.length]? = some event := by
    rw [List.getElem?_eq_getElem hbeyond, ← List.prefix_iff_getElem?.mp hgrows _ hbeyond,
      List.getElem?_append_right (Nat.le_refl _), Nat.sub_self, List.getElem?_cons_zero]
  rw [heq, List.getElem?_append_right hsince] at hget
  exact hevent (hall event (List.mem_of_getElem? hget))

/-- What happened since then, with what happened before it and after it. -/
theorem exists_split_of_mem_news {event : Event} (h : event ∈ s.news past) :
    ∃ before after, s.journal = before ++ event :: after ∧ past ≤ before.length := by
  obtain ⟨before, after, heq⟩ := List.append_of_mem h
  have hpast : past ≤ s.journal.length := by
    by_contra hshort
    rw [news, List.drop_of_length_le (Nat.le_of_not_le hshort)] at h
    cases h
  refine ⟨s.journal.take past ++ before, after, ?_, ?_⟩
  · rw [List.append_assoc, ← heq, news, List.take_append_drop]
  · rw [List.length_append, List.length_take_of_le hpast]
    exact Nat.le_add_right _ _

theorem Logs.only (h : s.Logs peers s') (hw : w.Covers peers (s'.news past))
    (hs : s.Orderly 0 past) (hline : ∀ line, P (.logged line)) (hstrays : s.StraysOnly w P) :
    s'.StraysOnly w P ∧ s.Adds P s' := by
  induction h with
  | refl => exact ⟨hstrays, adds_of_eq rfl⟩
  | @tail s₁ s₂ hbefore move ih =>
    have hgrows : s₁.journal <+: s₂.journal := Logs.journal_grows (.single move)
    obtain ⟨hstrays₁, hadds⟩ := ih (hw.mono (news_subset hgrows past))
    rcases move with drifts | ⟨line, rfl⟩
    · obtain ⟨hstrays₂, hadds'⟩ := drifts.only hw (hs.logs hbefore) hstrays₁
      exact ⟨hstrays₂, hadds.trans hadds'⟩
    · exact ⟨hstrays₁, hadds.trans (adds_note (hline line))⟩

end Session

namespace Scan

/-- A checker was visited and had ended, neither failing nor with a fatal finding, when the journal
was what is given. -/
def Clears (visits : List Visit) (checker : Checker) (journal : List Event) : Prop :=
  ∃ v ∈ visits, v.checker = checker ∧ v.after.journal <+: journal ∧
    ∃ problems, v.outcome = .returned (.ok problems) ∧ Problem.anyFatal problems = false

/-- The method and the name alone rule issuance out. -/
def Hopeless (suffixes : List Domain.SuffixRule) (domain : String) (method : Method) : Prop :=
  (method ≠ .http01 ∧ method ≠ .dns01) ∨
    (Check.classifyDomain suffixes (Domain.stripWildcard domain).1).name = "InvalidDomain" ∨
    ((Domain.stripWildcard domain).2 = true ∧ method ≠ .dns01)

variable {w : World} {P : Event → Prop} {peers : Peers} {check : Checker → Job Verdict}
  {checkers front back : List Checker} {checker : Checker} {past : Nat} {s s' : Session}
  {visits : List Visit}

/-- What a visit adds, with the log lines before it. -/
theorem visit_only {v : Visit} (hbefore : s.Logs peers v.before)
    (hrun : (check v.checker).Ends peers v.before v.outcome v.after)
    (honly : (check v.checker).Only w P) (hw : w.Covers peers (v.after.news past))
    (hs : s.Orderly 0 past) (hline : ∀ line, P (.logged line)) (hstrays : s.StraysOnly w P) :
    v.after.StraysOnly w P ∧ s.Adds P v.after := by
  obtain ⟨hstrays₁, hadds⟩ := hbefore.only
    (hw.mono (Session.news_subset hrun.journal_grows past)) hs hline hstrays
  obtain ⟨hstrays₂, hadds'⟩ := hrun.only hw (hs.logs hbefore) honly hstrays₁
  exact ⟨hstrays₂, hadds.trans hadds'⟩

/-- If the first checker does not do something that is done, another checker follows it. -/
theorem Course.first_visit {before after : List Event} {event : Event}
    (h : Course peers check (checker :: back) s s' visits) (honly : (check checker).Only w P)
    (hline : ∀ line, P (.logged line)) (hw : w.Covers peers (s'.news past))
    (hs : s.Orderly 0 past) (hstrays : s.StraysOnly w P)
    (hsplit : s'.journal = before ++ event :: after) (hsince : s.journal.length ≤ before.length)
    (hevent : ¬P event) :
    ∃ v rest, visits = v :: rest ∧ v.checker = checker ∧ ¬v.IsLast ∧
      v.after.journal <+: before ∧ v.after.StraysOnly w P ∧ v.after.Orderly 0 past ∧
      Course peers check back v.after s' rest := by
  obtain ⟨v, rest, rfl, rfl, hrest⟩ := h.cons_inv
  obtain ⟨hbefore, hlinked⟩ := h.linked
  obtain ⟨hrun, hruns⟩ := List.forall_mem_cons.mp h.runs
  have hgrows := Linked.journal_grows hlinked hruns
  have hafter : v.after.Orderly 0 past := hrun.orderly (hs.logs hbefore)
  obtain ⟨hstrays', hadds⟩ := visit_only hbefore hrun honly
    (hw.mono (Session.news_subset hgrows past)) hs hline hstrays
  rcases hrest with ⟨hlast, rfl⟩ | ⟨hlast, hcourse⟩
  · -- all that is done was added, so what was done has the property
    obtain ⟨-, hadds'⟩ := Session.Logs.only hlinked hw hafter hline hstrays'
    have hall := (hadds.trans hadds').prefix_of_not (by rw [hsplit]) hsince hevent
    rw [hsplit] at hall
    exact absurd hall.length_le (by simp)
  · exact ⟨v, rest, rfl, rfl, hlast, hadds.prefix_of_not (hsplit ▸ hgrows) hsince hevent, hstrays',
      hafter, hcourse⟩

/-- **Who does something that checkers up to some one do not do, comes after it**: that checker was
visited and did not end the scan. -/
theorem Course.visits_before {before after : List Event} {event : Event}
    (h : Course peers check (front ++ checker :: back) s s' visits)
    (honly : ∀ c ∈ front ++ [checker], (check c).Only w P) (hline : ∀ line, P (.logged line))
    (hw : w.Covers peers (s'.news past)) (hs : s.Orderly 0 past) (hstrays : s.StraysOnly w P)
    (hsplit : s'.journal = before ++ event :: after) (hsince : s.journal.length ≤ before.length)
    (hevent : ¬P event) :
    ∃ v ∈ visits, v.checker = checker ∧ ¬v.IsLast ∧ v.after.journal <+: before := by
  induction front generalizing s visits with
  | nil =>
    obtain ⟨v, rest, rfl, hchecker, hlast, hprefix, -⟩ := h.first_visit
      (honly checker (List.mem_singleton_self _)) hline hw hs hstrays hsplit hsince hevent
    exact ⟨v, List.mem_cons_self, hchecker, hlast, hprefix⟩
  | cons c front ih =>
    obtain ⟨v, rest, rfl, -, -, hprefix, hstrays', hafter, hcourse⟩ := h.first_visit
      (honly c List.mem_cons_self) hline hw hs hstrays hsplit hsince hevent
    obtain ⟨u, hu, hfound⟩ := ih hcourse (fun c' hc' => honly c' (List.mem_cons_of_mem c hc'))
      hafter hstrays' hprefix.length_le
    exact ⟨u, List.mem_cons_of_mem v hu, hfound⟩

/-- Who does not end a scan has findings to give, none of them fatal, unless there was nothing to
look at. -/
theorem ok_of_not_isLast {v : Visit} (hlast : ¬v.IsLast)
    (happlicable : ∀ verdict, v.outcome = .returned verdict → verdict ≠ .error .notApplicable)
    (hnamed : ∀ verdict, v.outcome = .returned verdict → Check.NamesFatal verdict) :
    ∃ problems, v.outcome = .returned (.ok problems) ∧ Problem.anyFatal problems = false := by
  have hfailure := Visit.failure?_eq_none_of_not_isLast hlast
  obtain ⟨-, hfatal⟩ := not_or.mp (mt v.isLast_iff.mpr hlast)
  unfold Visit.failure? at hfailure
  cases houtcome : v.outcome with
  | crashed message =>
    rw [houtcome] at hfailure
    cases hfailure
  | returned verdict =>
    have hfindings : Check.WellNamed (Check.findings v.outcome) := by
      rw [houtcome]
      exact (hnamed verdict houtcome).findings
    rw [anyFatal_kept_iff hfindings, houtcome, Bool.not_eq_true] at hfatal
    cases verdict with
    | ok problems => exact ⟨problems, rfl, hfatal⟩
    | error e =>
      cases e with
      | notApplicable => exact absurd rfl (happlicable _ houtcome)
      | crashed | failed =>
        rw [houtcome] at hfailure
        cases hfailure

end Scan

namespace Check

/-- The checkers of an ordinary scan that ask nothing. -/
def offlineBy (suffixes : List Domain.SuffixRule) : List Checker :=
  [validMethod, tlsSni, validDomainBy suffixes, wildcardDns01Only]

/-- Those that come first in an ordinary scan ask nothing, and are followed by the one that looks
for permission to issue and by the block. -/
theorem standardBy_eq (suffixes : List Domain.SuffixRule) :
    standardBy suffixes = offlineBy suffixes ++ caaBy suffixes ::
      block (standardMembers suffixes) :: [httpAccessibility, cloudflare, statusPage] :=
  rfl

theorem offlineBy_only {w : World} {P : Event → Prop} {suffixes : List Domain.SuffixRule}
    {context : ScanContext} {domain : String} {method : Method} :
    ∀ c ∈ offlineBy suffixes, (c.check context domain method).Only w P := by
  simp only [offlineBy, List.forall_mem_cons, List.not_mem_nil, false_imp_iff, implies_true,
    and_true]
  exact ⟨Job.only_done _, Job.only_done _, Job.only_done _, Job.only_done _⟩

end Check

namespace Engine

open Scan

section Standard

variable {suffixes : List Domain.SuffixRule} {context : ScanContext} {domain : String}
  {method : Method} {peers : Peers} {s s' : Session} {visits : List Visit}
  (h : Course peers (fun c => c.check context domain method) (Check.standardBy suffixes) s.forget s'
    visits)

include h

/-- Nothing is asked if one of the checkers that ask nothing rules issuance out. -/
theorem not_reaches_of_offline (checker : Checker) (hoffline : checker ∈ Check.offlineBy suffixes)
    {p : Problem} (hfound : checker.check context domain method = .done (.ok [p]))
    (hfatal : p.isFatal = true) (hname : p.isEmpty = false) :
    ∀ e ∈ s'.news s.journal.length, ¬e.Reaches := by
  intro e he hreaches
  obtain ⟨before, after, hjournal, hsince⟩ := Session.exists_split_of_mem_news he
  obtain ⟨front, back, hsplit⟩ := List.append_of_mem hoffline
  rw [Check.standardBy_eq, hsplit, List.append_assoc] at h
  have hfront : ∀ c ∈ front ++ [checker], c ∈ Check.offlineBy suffixes := by
    rw [hsplit]
    simp +contextual [or_imp]
  obtain ⟨v, hv, rfl, hlast, -⟩ := h.visits_before (P := fun e => ¬e.Reaches)
    (fun c hc => Check.offlineBy_only c (hfront c hc)) (fun _ => id) (World.covers_seen peers _)
    (Session.orderly_of_cache_eq_nil rfl rfl) (fun _ hx => absurd hx List.not_mem_nil) hjournal
    hsince (not_not_intro hreaches)
  have hrun := h.runs v hv
  simp only [hfound] at hrun
  refine hlast (v.isLast_iff.mpr (.inr ?_))
  rw [Visit.kept_eq, hrun.done.1]
  simp [kept, Check.findings, Check.memberVerdict, hname, hfatal, Problem.anyFatal]

/-- What is hopeless costs no question. -/
theorem not_reaches_of_hopeless (hhopeless : Hopeless suffixes domain method) :
    ∀ e ∈ s'.news s.journal.length, ¬e.Reaches := by
  rcases hhopeless with hmethod | hinvalid | ⟨hwildcard, hmethod⟩
  · rcases (unusable_iff method).mpr hmethod with hunknown | hdisabled
    · refine not_reaches_of_offline h Check.validMethod
        (p := Check.invalidMethod method) (by simp [Check.offlineBy]) ?_ rfl rfl
      simp [Check.validMethod, Checker.offline, hunknown]
    · refine not_reaches_of_offline h Check.tlsSni
        (p := Check.disabledMethod method) (by simp [Check.offlineBy]) ?_ rfl rfl
      simp [Check.tlsSni, Checker.offline, hdisabled]
  · rcases Check.classifyDomain_cases suffixes (Domain.stripWildcard domain).1 with
      ⟨reason, heq⟩ | ⟨explanation, detail, heq⟩
    · refine not_reaches_of_offline h (Check.validDomainBy suffixes)
        (p := Check.invalidDomain (Domain.stripWildcard domain).1 reason)
        (by simp [Check.offlineBy]) ?_ rfl rfl
      simp [Check.validDomainBy, Checker.offline, heq]
    · rw [heq] at hinvalid
      exact absurd hinvalid (by simp [Problem.debug])
  · refine not_reaches_of_offline h Check.wildcardDns01Only
      (p := Check.unsuitableMethod domain method) (by simp [Check.offlineBy]) ?_ rfl rfl
    simp [Check.wildcardDns01Only, Checker.offline, hwildcard, hmethod]

section Gated

variable {before after : List Event} {event : Event}
  (hjournal : s'.journal = before ++ event :: after) (hsince : s.journal.length ≤ before.length)

include hjournal hsince

/-- A checker clears the way to what neither it nor those before it do. -/
theorem clears_of_only {P : Event → Prop} {front back : List Checker} {checker : Checker}
    (hsplit : Check.standardBy suffixes = front ++ checker :: back)
    (honly : ∀ w, ∀ c ∈ front ++ [checker], (c.check context domain method).Only w P)
    (hline : ∀ line, P (.logged line)) (hevent : ¬P event)
    (happlicable : ∀ w, (checker.check context domain method).Yields w
      fun verdict => verdict ≠ .error .notApplicable)
    (hnamed : ∀ w, (checker.check context domain method).Yields w Check.NamesFatal) :
    Clears visits checker before := by
  let w := World.seen (s'.news s.journal.length)
  have hw : w.Covers peers (s'.news s.journal.length) := World.covers_seen peers _
  have hs : s.forget.Orderly 0 s.journal.length := Session.orderly_of_cache_eq_nil rfl rfl
  have hgives := h.gives hs hw
  rw [hsplit] at h
  obtain ⟨v, hv, rfl, hlast, hprefix⟩ := h.visits_before (honly w) hline hw hs
    (fun _ hx => absurd hx List.not_mem_nil) hjournal hsince hevent
  refine ⟨v, hv, rfl, hprefix, ok_of_not_isLast hlast (fun verdict hreturned => ?_)
    fun verdict hreturned => ?_⟩
  · exact happlicable w verdict (hreturned ▸ hgives v hv)
  · exact hnamed w verdict (hreturned ▸ hgives v hv)

/-- Nothing but CAA records is looked up before permission to issue has been found. -/
theorem clears_caa (hevent : event.ReachesPastCaa) :
    Clears visits (Check.caaBy suffixes) before := by
  refine clears_of_only h hjournal hsince (P := fun e => ¬e.ReachesPastCaa)
    (Check.standardBy_eq suffixes) (fun w => ?_) (fun _ => id) (not_not_intro hevent)
    (fun w => Check.caa_applicable context domain method suffixes)
    (fun w => Check.caa_namesFatal context domain method suffixes)
  exact List.forall_mem_append.mpr ⟨Check.offlineBy_only,
    List.forall_mem_singleton.mpr (Check.caa_only context domain method suffixes)⟩

/-- No emulated request is sent before the checkers that run side by side have found addresses and
records in order. -/
theorem clears_block (hevent : event.IsProbe) :
    Clears visits (Check.block (Check.standardMembers suffixes)) before := by
  have hsplit := Check.standardBy_eq suffixes
  refine clears_of_only h hjournal hsince (P := fun e => ¬e.IsProbe)
    (hsplit.trans (List.append_cons _ _ _)) (fun w => ?_) (fun _ => id) (not_not_intro hevent)
    (fun w => Check.block_applicable context domain method _)
    (fun w => Check.standardBlock_namesFatal context domain method suffixes)
  have hcaa := (Check.caa_only (w := w) context domain method suffixes).mono
    fun e => mt Event.IsProbe.reachesPastCaa
  exact List.forall_mem_append.mpr ⟨List.forall_mem_append.mpr ⟨Check.offlineBy_only,
    List.forall_mem_singleton.mpr hcaa⟩,
    List.forall_mem_singleton.mpr (Check.standardBlock_only context domain method suffixes)⟩

end Gated

end Standard

/-- With options that are refused nothing happens. -/
theorem news_of_refused {engine : Engine} {domain : String} {method : Method}
    {options : ScanOptions} {peers : Peers} {s s' : Session} {outcome : Outcome ScanResult}
    {e : ConfigError} (hrefused : options.validate = .error e)
    (h : (engine.scan domain method options).Ends peers s.forget outcome s') :
    s'.news s.journal.length = [] := by
  obtain ⟨-, drifts⟩ := scan_refused hrefused h
  rw [Session.news, (drifts.passes rfl).journal, Session.forget, List.drop_length]

/-- **A scan reaches out in stages**, whatever the peers do and in whatever order.

Whatever a scan has come to, it goes on from there to an end, so it is enough to look at whole
scans. Where options are refused, or the method and the name rule issuance out, nothing is asked at
all. Otherwise each thing that is asked for comes after what it depends on: anything but CAA records
after permission to issue was found, and emulated requests after the addresses and the challenge
record were found in order. -/
theorem scan_reaches_out_in_stages (suffixes : List Domain.SuffixRule) (probes : ProbeSettings)
    (domain : String) (method : Method) (options : ScanOptions) (peers : Peers) (s : Session) :
    (∀ due stage, Stage.Leads peers
        (.ready due ((⟨Check.standardBy suffixes, probes⟩ : Engine).scan domain method options),
          s.forget) stage →
      ∃ outcome s', ((⟨Check.standardBy suffixes, probes⟩ : Engine).scan domain method
        options).Ends peers s.forget outcome s' ∧ stage.2.journal <+: s'.journal) ∧
    ∀ outcome s', ((⟨Check.standardBy suffixes, probes⟩ : Engine).scan domain method options).Ends
        peers s.forget outcome s' →
      ((∃ e, options.validate = .error e) ∨ Hopeless suffixes (Domain.normalize domain) method →
        ∀ e ∈ s'.news s.journal.length, ¬e.Reaches) ∧
      (options.validate = .ok () → ∃ visits,
        Course peers (fun c => c.check ⟨options, probes⟩ (Domain.normalize domain) method)
          (Check.standardBy suffixes) s.forget s' visits ∧
        outcome = .returned (resultOf visits) ∧
        ∀ before event after, s'.journal = before ++ event :: after →
          s.journal.length ≤ before.length →
          (event.ReachesPastCaa → Clears visits (Check.caaBy suffixes) before) ∧
          (event.IsProbe →
            Clears visits (Check.block (Check.standardMembers suffixes)) before)) := by
  refine ⟨fun due stage hlead => ?_, fun outcome s' hends => ⟨?_, fun haccepted => ?_⟩⟩
  · exact hlead.exists_end rfl rfl
  · intro hnothing
    cases hvalidate : options.validate with
    | error e =>
      rw [news_of_refused hvalidate hends]
      exact fun _ hevent => absurd hevent List.not_mem_nil
    | ok =>
      obtain ⟨visits, hcourse, -⟩ := exists_course hvalidate hends
      refine not_reaches_of_hopeless hcourse (hnothing.resolve_left ?_)
      rintro ⟨e, heq⟩
      rw [hvalidate] at heq
      cases heq
  · obtain ⟨visits, hcourse, hresult⟩ := exists_course haccepted hends
    exact ⟨visits, hcourse, hresult, fun before event after hjournal hsince =>
      ⟨clears_caa hcourse hjournal hsince, clears_block hcourse hjournal hsince⟩⟩

end Engine

end Rehearsal
