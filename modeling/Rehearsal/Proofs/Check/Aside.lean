import Rehearsal.Proofs.Check.Report
import Rehearsal.Proofs.Job.Aside
import Rehearsal.Proofs.Probe.Finding

/-!
# Each probe of a domain for itself

What a probe does was said of a probe that has the session to itself, and the probes of a domain run
side by side. But there is no fork in any of them, so each ends beside the others with what it ends
with alone, among peers that answer it as it was answered. It has a journey of its own, and the
responses on its way are those that came to it in the run of all. So what is true of every journey
is true of every probe in the report.

## Main definitions

* `Probe.Travels`: what a probe ended with is what a journey ends with

## Main results

* `Probe.exists_travels`: a probe that stands alone has a journey
* `Probe.Travels.tells`: its record and its finding are those of the journey
* `Check.httpAccessibility_standsAlone`: each probe of a domain stands alone
* `Check.httpAccessibility_travels`: what is true of journeys is true of each of them
-/

namespace Rehearsal

variable {settled : Outcomes} {heard : List Heard} {context : ScanContext} {domain : String}

namespace Probe

/-- A request of a leg with the answer to it. -/
def Leg.told (plan : Plan) (leg : Leg) (answer : Exchange) : Heard :=
  ⟨.exchange (leg.connection plan) (requestOf plan leg.url), answer⟩

/-- What a probe ended with is what a journey ends with. Its requests get answers that are given,
and on its way keys are resolved to outcomes that are given. -/
def Travels (settled : Outcomes) (heard : List Heard) (context : ScanContext) (domain : String)
    (legs : List Leg) (probed : ProbeResult × Option Problem) : Prop :=
  ∃ (peers : Peers) (past : Nat) (journal journal' : List Event) (stranded : Option Url),
    Journey peers past context domain probed.1.address journal legs stranded journal'
      (.returned probed) ∧
    (∀ leg ∈ legs, ∀ answer, leg.answer = .returned answer →
      leg.told (planOf context domain probed.1.address) answer ∈ heard) ∧
    ∀ key outcome, .settled key outcome ∈ journal'.drop past → settled key outcome

/-- **A probe that stands alone has a journey of its own.** -/
theorem exists_travels {probed : ProbeResult × Option Problem}
    (h : (run context domain probed.1.address).StandsAlone settled heard probed) :
    ∃ legs, Travels settled heard context domain legs probed := by
  obtain ⟨peers, alone', told, hends, htold, -, hsub, hsettled⟩ :=
    h 0 Session.fresh.forget Session.fresh.alone_forget fun _ _ hmem => absurd hmem
      List.not_mem_nil
  obtain ⟨legs, stranded, hjourney⟩ := run_journey Session.fresh.alone_forget hends
  refine ⟨legs, peers, _, _, _, stranded, hjourney, fun leg hleg answer hanswer => ?_, hsettled⟩
  obtain ⟨hruns, hbegun, hended⟩ := hjourney.runs leg hleg
  refine hsub.subset (htold ▸ ?_)
  exact Journal.mem_heard (hbegun.trans hruns.begun_grows) hended (hruns.answered.trans hanswer)

/-- **The record of such a probe is that of its journey, and so is its finding.** -/
theorem Travels.tells {legs : List Leg} {result : ProbeResult} {problem : Option Problem}
    (h : Travels settled heard context domain legs (result, problem))
    (hagent : isHeaderText context.probes.userAgent = true) :
    (∃ final, Records (openingLine context domain result.address) legs final result) ∧
      Verdict domain context.options.expectedBody legs result problem := by
  obtain ⟨peers, past, journal, journal', stranded, hjourney, -⟩ := h
  obtain ⟨final, -, hrecords⟩ := hjourney.records
  exact ⟨⟨final, hrecords⟩, hjourney.verdict hagent⟩

end Probe

namespace Check

variable {peers : Peers} {s s' : Session} {past : Nat} {verdict : Verdict}

/-- **The probes of a run stand alone**, and the report is about them. -/
theorem probeAll_standsAlone {addresses : List IpAddress}
    (h : (probeAll context domain addresses).Ends peers s (.returned verdict) s')
    (hs : s.Orderly 0 past) :
    ∃ (n : Nat) (probes : Fin n → Probed), verdict = .ok (reportProbes domain (List.ofFn probes)) ∧
      (List.ofFn fun i => (probes i).1.address) = addresses ∧
      ∀ i, (Probe.run context domain (probes i).1.address).StandsAlone
        (fun key outcome => .settled key outcome ∈ s'.news past)
        (Journal.heard peers s.journal s'.journal) (probes i) := by
  obtain ⟨probes, ended, s₁, hended, hdrifts, hperm, haddresses, -, hverdict⟩ :=
    probeAll_ends h hs (World.covers_ofPeers peers _)
  refine ⟨_, probes, hverdict, haddresses, fun i => ?_⟩
  have hstraight (j) : ((addresses.map (Probe.run context domain)).get j).Straight := by
    rw [List.get_eq_getElem, List.getElem_map]
    exact Probe.run_straight ..
  have hrun : (addresses.map (Probe.run context domain)).get i =
      Probe.run context domain (probes i).1.address := by
    have haddress : addresses[i.val]? = some (probes i).1.address := by
      refine (congrArg (·[i.val]?) haddresses.symm).trans ?_
      rw [List.getElem?_ofFn, dif_pos i.isLt]
    rw [List.get_eq_getElem, List.getElem_map, (List.getElem?_eq_some_iff.mp haddress).2]
  have halone := Job.Ends.standsAlone hended hs hstraight
    (fun key o hmem => Session.news_subset hdrifts.journal_grows past hmem)
    (fun key o o' => (h.orderly hs).eq_of_mem_news)
    (hperm.mem_iff.mpr (List.mem_ofFn.mpr ⟨i, rfl⟩))
  rw [hrun] at halone
  refine halone.mono ?_
  rw [Journal.heard_trans hended.journal_grows hdrifts.journal_grows]
  exact List.sublist_append_left ..

/-- **Each probe of a domain stands alone**, whatever else is looked up and asked meanwhile. -/
theorem httpAccessibility_standsAlone
    (h : (httpAccessibility.check context domain .http01).Ends peers s (.returned verdict) s')
    (hs : s.Orderly 0 past) :
    verdict = .ok [] ∨
      ∃ (n : Nat) (probes : Fin n → Probed),
        verdict = .ok (reportProbes domain (List.ofFn probes)) ∧
        ∀ i, (Probe.run context domain (probes i).1.address).StandsAlone
          (fun key outcome => .settled key outcome ∈ s'.news past)
          (Journal.heard peers s.journal s'.journal) (probes i) := by
  obtain ⟨aaaa, s₁, -, hs₁, hgrows₁, h₁⟩ := Job.Ends.lookup_settles h hs
  obtain ⟨a, s₂, -, hs₂, hgrows₂, h₂⟩ := Job.Ends.lookup_settles h₁ hs₁
  generalize Record.addresses (recordsOf aaaa) ++ Record.addresses (recordsOf a) = addresses at h₂
  replace h₂ : (if addresses.isEmpty then .done (.ok []) else
    probeAll context domain addresses).Ends peers s₂ (.returned verdict) s' := h₂
  split at h₂
  next => exact .inl (Outcome.returned.inj h₂.done.1)
  next =>
    obtain ⟨n, probes, hverdict, -, halone⟩ := probeAll_standsAlone h₂ hs₂
    refine .inr ⟨n, probes, hverdict, fun i => (halone i).mono ?_⟩
    rw [Journal.heard_trans (hgrows₁.trans hgrows₂) h₂.journal_grows]
    exact List.sublist_append_right ..

/-- **What each probe of a domain tells** is told by a journey of its own: the record by the
responses on it, and the finding by where it ended. -/
theorem httpAccessibility_travels
    (h : (httpAccessibility.check context domain .http01).Ends peers s (.returned verdict) s')
    (hs : s.Orderly 0 past) (hagent : Probe.isHeaderText context.probes.userAgent = true) :
    verdict = .ok [] ∨
      ∃ (n : Nat) (probes : Fin n → Probed),
        verdict = .ok (reportProbes domain (List.ofFn probes)) ∧
        ∀ i, ∃ legs, Probe.Travels (fun key outcome => .settled key outcome ∈ s'.news past)
            (Journal.heard peers s.journal s'.journal) context domain legs (probes i) ∧
          (∃ final, Probe.Records (Probe.openingLine context domain (probes i).1.address) legs final
            (probes i).1) ∧
          Probe.Verdict domain context.options.expectedBody legs (probes i).1 (probes i).2 := by
  refine (httpAccessibility_standsAlone h hs).imp_right ?_
  rintro ⟨n, probes, hverdict, halone⟩
  refine ⟨n, probes, hverdict, fun i => ?_⟩
  obtain ⟨legs, htravels⟩ := Probe.exists_travels (halone i)
  exact ⟨legs, htravels, htravels.tells hagent⟩

end Check

end Rehearsal
