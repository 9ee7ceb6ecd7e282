import Rehearsal.Proofs.Check.Effects
import Rehearsal.Proofs.Job.AtMostOnce
import Rehearsal.Proofs.Probe.Requests

/-!
# Which addresses are probed

The addresses of the domain are looked up once more when it is probed, and the cache gives the
outcomes that were judged before. So exactly those addresses are probed that were found in order,
each time one of them is listed, and none that the resolver might have added since.

## Main definitions

* `Check.probeAll`: one probe for each address, and the report about them

## Main results

* `Check.httpAccessibility_ends`: where both outcomes are known, the checker is such a series
* `Check.httpAccessibility_only`: all its emulated requests are requests of those probes
-/

namespace Rehearsal

namespace Check

variable {w : World} {context : ScanContext} {domain : String} {addresses : List IpAddress}
  {v4 v6 : List Record}

/-- One probe for each address, and the report about them. -/
def probeAll (context : ScanContext) (domain : String) (addresses : List IpAddress) : Job Verdict :=
  (Job.all (addresses.map (Probe.run context domain))).bind fun probes =>
    .done (.ok (reportProbes domain probes))

/-- The report is about one probe of each address, in their order. -/
theorem probeAll_reports :
    (probeAll context domain addresses).Yields w fun verdict =>
      ∃ probes, verdict = .ok (reportProbes domain probes) ∧
        probes.map (fun probed => probed.1.address) = addresses := by
  intro verdict hgive
  rcases hgive.of_bind with ⟨message, -, heq⟩ | ⟨probes, hprobes, hgive⟩
  · cases heq
  · refine ⟨probes, Outcome.returned.inj hgive.of_done, ?_⟩
    rcases hprobes.of_all with ⟨_, heq, -⟩ | ⟨probes', heq, hall⟩
    · cases heq
    · obtain rfl := Outcome.returned.inj heq
      rw [List.forall₂_map_left_iff] at hall
      have hsame := hall.imp fun address probed hgive =>
        Probe.run_address context domain address probed hgive
      rw [← List.forall₂_eq_eq_eq, List.forall₂_map_left_iff]
      exact hsame.flip

theorem probeAll_only {P : Event → Prop}
    (h : ∀ address ∈ addresses, ∀ e, e.IsOfProbe context domain address → P e) :
    (probeAll context domain addresses).Only w P := by
  refine (Job.only_all fun job hjob => ?_).bind fun probes _ => Job.only_done _
  obtain ⟨address, haddress, rfl⟩ := List.mem_map.mp hjob
  exact (Probe.run_only context domain address).mono (h address haddress)

/-- **Where both outcomes are known, the checker probes each address that they list**, and calls the
resolver for none of them. -/
theorem httpAccessibility_ends {peers : Peers} {s s' : Session} {o : Outcome Verdict} {past : Nat}
    (h : (httpAccessibility.check context domain .http01).Ends peers s o s')
    (hs : s.Orderly 0 past) (hv6 : .settled (.ofName domain .aaaa) (.ok v6) ∈ s.news past)
    (hv4 : .settled (.ofName domain .a) (.ok v4) ∈ s.news past)
    (hsome : Record.addresses v6 ++ Record.addresses v4 ≠ []) :
    ∃ s₁, s.Drifts peers s₁ ∧
      (probeAll context domain (Record.addresses v6 ++ Record.addresses v4)).Ends peers s₁ o
        s' := by
  obtain ⟨s₁, hdrifts₁, h⟩ := Job.Ends.lookupThen_known h hs hv6
  obtain ⟨s₂, hdrifts₂, h⟩ := Job.Ends.lookupThen_known h (hs.drifts hdrifts₁)
    (Session.news_subset hdrifts₁.journal_grows past hv4)
  refine ⟨s₂, hdrifts₁.trans hdrifts₂, ?_⟩
  replace h : (if (Record.addresses v6 ++ Record.addresses v4).isEmpty then .done (.ok [])
      else probeAll context domain (Record.addresses v6 ++ Record.addresses v4)).Ends peers s₂ o
        s' := h
  rwa [if_neg (by simpa using hsome)] at h

/-- All emulated requests of the checker are requests of probes of the addresses that are known. -/
theorem httpAccessibility_only {P : Event → Prop}
    (hv6 : ∀ outcome, w.settled (.ofName domain .aaaa) outcome → outcome = .ok v6)
    (hv4 : ∀ outcome, w.settled (.ofName domain .a) outcome → outcome = .ok v4)
    (hquiet : ∀ e, ¬e.IsProbe → P e)
    (h : ∀ address ∈ Record.addresses v6 ++ Record.addresses v4,
      ∀ e, e.IsOfProbe context domain address → P e) :
    (httpAccessibility.check context domain .http01).Only w P := by
  refine Job.only_lookup_bind (hquiet _ id) fun outcome hsettled => ⟨hquiet _ id, ?_⟩
  obtain rfl := hv6 outcome hsettled
  refine Job.only_lookup_bind (hquiet _ id) fun outcome hsettled => ⟨hquiet _ id, ?_⟩
  obtain rfl := hv4 outcome hsettled
  dsimp only
  split
  · exact Job.only_done _
  · exact probeAll_only h

end Check

end Rehearsal
