import Rehearsal.Proofs.Check.Accessibility
import Rehearsal.Proofs.Scan.Stages

/-!
# No probe goes to a reserved address

A domain under test may well resolve to an address that it should not, and a resolver may change its
mind between two questions. Neither leads a probe astray: the checker of addresses has seen all of
them before, an address in a reserved network would have ended the scan there, and the cache keeps
the answers as they were.

## Main definitions

* `Scan.Examined`: what one visit found, another one probes

## Main results

* `Engine.exists_examined`: a visit that probes comes after one that examined the addresses
* `Engine.probes_reach_no_reserved_address`: where emulated requests go
-/

namespace Rehearsal

namespace Scan

variable {w : World} {P : Event → Prop} {peers : Peers} {check : Checker → Job Verdict}
  {checkers front back : List Checker} {checker : Checker} {past : Nat} {s s' : Session}
  {v : Visit} {visits : List Visit}

/-- What is visited after some checker comes after it: that checker was visited and did not end the
scan. -/
theorem Course.visited_after (h : Course peers check (front ++ checker :: back) s s' visits)
    (hs : s.Orderly 0 past) (hv : v ∈ visits) (hlater : v.checker ∉ front ++ [checker]) :
    ∃ u ∈ visits, u.checker = checker ∧ ¬u.IsLast ∧ u.before.Orderly 0 past ∧
      u.after.journal <+: v.before.journal := by
  induction front generalizing s visits with
  | nil =>
    obtain ⟨u, rest, rfl, rfl, hrest⟩ := h.cons_inv
    have hbefore := (h.around hs List.mem_cons_self).2.1
    have hrun := h.runs u List.mem_cons_self
    rcases List.mem_cons.mp hv with rfl | hv
    · exact absurd List.mem_cons_self hlater
    · rcases hrest with ⟨-, rfl⟩ | ⟨hlast, hcourse⟩
      · cases hv
      · exact ⟨u, List.mem_cons_self, rfl, hlast, hbefore,
          (hcourse.around (hrun.orderly hbefore) hv).1⟩
  | cons c front ih =>
    obtain ⟨u, rest, rfl, rfl, hrest⟩ := h.cons_inv
    have hbefore := (h.around hs List.mem_cons_self).2.1
    have hrun := h.runs u List.mem_cons_self
    rcases List.mem_cons.mp hv with rfl | hv
    · exact absurd List.mem_cons_self hlater
    · rcases hrest with ⟨-, rfl⟩ | ⟨-, hcourse⟩
      · cases hv
      · obtain ⟨u', hu', hfound⟩ := ih hcourse (hrun.orderly hbefore) hv
          fun hmem => hlater (List.mem_cons_of_mem _ hmem)
        exact ⟨u', List.mem_cons_of_mem u hu', hfound⟩

/-- What visits add, with the log lines around them. -/
theorem Linked.only (h : Linked peers s s' visits)
    (hruns : ∀ v ∈ visits, (check v.checker).Ends peers v.before v.outcome v.after)
    (honly : ∀ v ∈ visits, (check v.checker).Only w P) (hw : w.Covers peers (s'.news past))
    (hs : s.Orderly 0 past) (hline : ∀ line, P (.logged line)) (hstrays : s.StraysOnly w P) :
    s.Adds P s' := by
  induction visits generalizing s with
  | nil => exact (Session.Logs.only h hw hs hline hstrays).2
  | cons v visits ih =>
    obtain ⟨hrun, hruns⟩ := List.forall_mem_cons.mp hruns
    obtain ⟨hvonly, honly⟩ := List.forall_mem_cons.mp honly
    have hgrows := Linked.journal_grows h.2 hruns
    obtain ⟨hstrays', hadds⟩ := visit_only h.1 hrun hvonly
      (hw.mono (Session.news_subset hgrows past)) hs hline hstrays
    exact hadds.trans (ih h.2 hruns honly (hrun.orderly (hs.logs h.1)) hstrays')

theorem Course.only (h : Course peers check checkers s s' visits)
    (honly : ∀ v ∈ visits, (check v.checker).Only w P) (hw : w.Covers peers (s'.news past))
    (hs : s.Orderly 0 past) (hline : ∀ line, P (.logged line)) (hstrays : s.StraysOnly w P) :
    s.Adds P s' :=
  h.linked.only h.runs honly hw hs hline hstrays

/-- The addresses that one visit found in order are those that another one probes. -/
structure Examined (peers : Peers) (context : ScanContext) (domain : String) (past : Nat)
    (visits : List Visit) (examining probing : Visit) (v4 v6 : List Record) (s' : Session) : Prop
    where
  /-- One of the visits judged two outcomes, and found nothing fatal. -/
  judged : examining ∈ visits ∧ ∃ problems found,
    examining.outcome = .returned (.ok problems) ∧ Problem.anyFatal problems = false ∧
      Check.judgeAddresses domain (.ok v4) (.ok v6) = some found ∧ found ⊆ problems
  /-- It did so before the other one began. -/
  before : examining.after.journal <+: probing.before.journal
  /-- In the whole scan these are the only outcomes of the two lookups. -/
  only : Journal.returned (.ofName domain .aaaa) (s'.news past) = [.ok v6] ∧
    Journal.returned (.ofName domain .a) (s'.news past) = [.ok v4]
  /-- No address is reserved. -/
  reachable : ∀ address ∈ Record.addresses v6 ++ Record.addresses v4, address.isReserved = false
  /-- One probe is run for each address that is listed, IPv6 first, and nothing else. -/
  probed : ∃ begun, probing.before.Drifts peers begun ∧
    (Check.probeAll context domain (Record.addresses v6 ++ Record.addresses v4)).Ends peers begun
      probing.outcome probing.after
  /-- What is reported is about these probes. -/
  reported : ∀ verdict, probing.outcome = .returned verdict →
    ∃ probes, verdict = .ok (Check.reportProbes domain probes) ∧
      probes.map (fun probed => probed.1.address) = Record.addresses v6 ++ Record.addresses v4

end Scan

namespace Engine

open Scan

section Standard

variable {suffixes : List Domain.SuffixRule} {context : ScanContext} {domain : String}
  {peers : Peers} {s s' : Session} {v : Visit} {visits : List Visit}
  (h : Course peers (fun c => c.check context domain .http01) (Check.standardBy suffixes) s.forget
    s' visits)

theorem httpAccessibility_not_mem (suffixes : List Domain.SuffixRule) :
    Check.httpAccessibility ∉ (Check.offlineBy suffixes ++ [Check.caaBy suffixes]) ++
      [Check.block (Check.standardMembers suffixes)] := by
  intro hmem
  have hname : "httpAccessibility" ∈ ["validMethod", "tlssni", "validDomain", "wildcardDNS01Only",
      "caa", "asyncCheckerBlock"] := List.mem_map_of_mem (f := Checker.name) hmem
  revert hname
  decide

include h

/-- **A visit that probes comes after one that examined the addresses.** -/
theorem exists_examined (hv : v ∈ visits) (hchecker : v.checker = Check.httpAccessibility) :
    ∃ examining v4 v6, examining.checker = Check.block (Check.standardMembers suffixes) ∧
      Examined peers context domain s.journal.length visits examining v v4 v6 s' := by
  have hs : s.forget.Orderly 0 s.journal.length := Session.orderly_of_cache_eq_nil rfl rfl
  have hcourse := h
  rw [Check.standardBy_eq, ← List.singleton_append, ← List.append_assoc] at hcourse
  obtain ⟨u, hu, huchecker, hlast, hubefore, hprefix⟩ := hcourse.visited_after hs hv
    (hchecker ▸ httpAccessibility_not_mem suffixes)
  have hrun := h.runs u hu
  rw [huchecker] at hrun
  have hgive := hrun.gives hubefore (World.covers_seen peers _)
  obtain ⟨problems, houtcome, hfatal⟩ := ok_of_not_isLast hlast
    (fun verdict heq => Check.block_applicable context domain .http01 _ verdict (heq ▸ hgive))
    (fun verdict heq => Check.standardBlock_namesFatal context domain .http01 suffixes verdict
      (heq ▸ hgive))
  rw [houtcome] at hgive
  -- so its first member judged two outcomes, which are in the cache from then on
  obtain ⟨o, ho, hok, hsub⟩ := Check.member_of_block_ok hgive ⟨0, by simp⟩
  rcases Check.dnsA_gives ho with ⟨message, rfl⟩ | ⟨a, aaaa, found, ha, haaaa, hjudge, rfl⟩
  · cases hok
  have hrefuse : ¬Check.AddressesRefuse a aaaa := by
    intro hrefuse
    have hany := ((Check.judgeAddresses_refuse hjudge).fatal id).mpr hrefuse
    obtain ⟨p, hp, hpfatal⟩ := List.any_eq_true.mp hany
    exact List.any_eq_false.mp hfatal p (hsub hp) hpfatal
  obtain ⟨v4, v6, rfl, rfl, hsome, hreachable⟩ := Check.reachable_of_not_refuse hrefuse
  have hvbefore := (h.around hs hv).2.1
  have hvrun := h.runs v hv
  rw [hchecker] at hvrun
  obtain ⟨begun, hdrifts, hprobes⟩ := Check.httpAccessibility_ends hvrun hvbefore
    (Session.news_subset hprefix _ haaaa) (Session.news_subset hprefix _ ha) hsome
  have hs' := h.orderly hs
  have hend := (h.around hs hu).2.2
  refine ⟨u, v4, v6, huchecker, ⟨hu, problems, found, houtcome, hfatal, hjudge, hsub⟩, hprefix,
    ⟨hs'.returned_eq_singleton (Session.news_subset hend _ haaaa),
      hs'.returned_eq_singleton (Session.news_subset hend _ ha)⟩, hreachable,
    ⟨begun, hdrifts, hprobes⟩, fun verdict heq => ?_⟩
  exact Check.probeAll_reports verdict
    (heq ▸ hprobes.gives (hvbefore.drifts hdrifts) (World.covers_seen peers _))

/-- Every checker but one sends no emulated requests, and that one sends them for probes of
addresses that are not reserved. -/
theorem only_of_mem (hv : v ∈ visits) :
    (v.checker.check context domain .http01).Only (.seen (s'.news s.journal.length)) fun e =>
      e.IsProbe → ∃ address, address.isReserved = false ∧ e.IsOfProbe context domain address := by
  have hquiet {w : World} {job : Job Verdict} (hjob : job.Only w fun e => ¬e.IsProbe) :
      job.Only w fun e => e.IsProbe →
        ∃ address, address.isReserved = false ∧ e.IsOfProbe context domain address :=
    hjob.mono fun e hno hprobe => absurd hprobe hno
  have hmem := h.inOrder.subset (List.mem_map_of_mem hv)
  rw [Check.standardBy_eq, List.mem_append, List.mem_cons, List.mem_cons, List.mem_cons,
    List.mem_pair] at hmem
  rcases hmem with hoffline | hcaa | hblock | hprobes | hcloudflare | hstatus
  · exact Check.offlineBy_only _ hoffline
  · rw [hcaa]
    exact hquiet ((Check.caa_only context domain .http01 suffixes).mono
      fun e => mt Event.IsProbe.reachesPastCaa)
  · rw [hblock]
    exact hquiet (Check.standardBlock_only context domain .http01 suffixes)
  · obtain ⟨_, v4, v6, -, hexamined⟩ := exists_examined h hv hprobes
    have honly {key : LookupKey} {records : List Record} {outcome : LookupOutcome}
        (hreturned : Journal.returned key (s'.news s.journal.length) = [.ok records])
        (hsettled : .settled key outcome ∈ s'.news s.journal.length) : outcome = .ok records := by
      rw [← Journal.mem_returned, hreturned] at hsettled
      exact List.mem_singleton.mp hsettled
    rw [hprobes]
    exact Check.httpAccessibility_only (fun _ => honly hexamined.only.1)
      (fun _ => honly hexamined.only.2) (fun e hno hprobe => absurd hprobe hno)
      fun address haddress e he _ => ⟨address, hexamined.reachable address haddress, he⟩
  · rw [hcloudflare]
    exact hquiet (Check.cloudflare_only context domain .http01)
  · rw [hstatus]
    exact hquiet (Check.statusPage_only context domain .http01)

/-- All emulated requests of a scan are requests of probes of addresses that are not reserved. -/
theorem isOfProbe_of_isProbe :
    ∀ e ∈ s'.news s.journal.length, e.IsProbe →
      ∃ address, address.isReserved = false ∧ e.IsOfProbe context domain address := by
  obtain ⟨events, heq, hall⟩ := h.only (fun v hv => only_of_mem h hv) (World.covers_seen peers _)
    (Session.orderly_of_cache_eq_nil rfl rfl)
    (fun line (hprobe : Event.IsProbe (.logged line)) => hprobe.elim)
    fun _ hx => absurd hx List.not_mem_nil
  intro e he
  rw [Session.news, heq] at he
  exact hall e (by simpa [Session.forget] using he)

end Standard

/-- **No probe of the domain goes to a reserved address**, whatever the resolver answers and however
often it changes its mind.

Whatever a scan has come to, it goes on from there to an end, so it is enough to look at whole
scans. Each emulated request belongs to a probe of an address that is not reserved, and as long as
redirects lead back to the domain it goes to that address. When the scan comes to probe the domain,
it runs one probe for each address that was judged before, IPv6 first, and no others. -/
theorem probes_reach_no_reserved_address (suffixes : List Domain.SuffixRule)
    (probes : ProbeSettings) (domain : String) (options : ScanOptions) (peers : Peers)
    (s : Session) :
    (∀ due stage, Stage.Leads peers
        (.ready due ((⟨Check.standardBy suffixes, probes⟩ : Engine).scan domain .http01 options),
          s.forget) stage →
      ∃ outcome s', ((⟨Check.standardBy suffixes, probes⟩ : Engine).scan domain .http01
        options).Ends peers s.forget outcome s' ∧ stage.2.journal <+: s'.journal) ∧
    ∀ outcome s', ((⟨Check.standardBy suffixes, probes⟩ : Engine).scan domain .http01 options).Ends
        peers s.forget outcome s' →
      (∀ e ∈ s'.news s.journal.length, e.IsProbe → ∃ address, address.isReserved = false ∧
        e.IsOfProbe ⟨options, probes⟩ (Domain.normalize domain) address) ∧
      (options.validate = .ok () → ∃ visits,
        Course peers (fun c => c.check ⟨options, probes⟩ (Domain.normalize domain) .http01)
          (Check.standardBy suffixes) s.forget s' visits ∧
        outcome = .returned (resultOf visits) ∧
        ∀ v ∈ visits, v.checker = Check.httpAccessibility → ∃ examining v4 v6,
          examining.checker = Check.block (Check.standardMembers suffixes) ∧
          Examined peers ⟨options, probes⟩ (Domain.normalize domain) s.journal.length visits
            examining v v4 v6 s') := by
  refine ⟨fun due stage hlead => hlead.exists_end rfl rfl,
    fun outcome s' hends => ⟨?_, fun haccepted => ?_⟩⟩
  · cases hvalidate : options.validate with
    | error e =>
      rw [news_of_refused hvalidate hends]
      exact fun _ hevent => absurd hevent List.not_mem_nil
    | ok =>
      obtain ⟨visits, hcourse, -⟩ := exists_course hvalidate hends
      exact isOfProbe_of_isProbe hcourse
  · obtain ⟨visits, hcourse, hresult⟩ := exists_course haccepted hends
    exact ⟨visits, hcourse, hresult, fun v hv => exists_examined hcourse hv⟩

end Engine

end Rehearsal
