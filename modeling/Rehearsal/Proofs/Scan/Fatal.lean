import Rehearsal.Proofs.Scan.Failure

/-!
# What a fatal scan means

An ordinary scan has a fatal finding exactly when issuance is ruled out, and what rules it out is
said in terms of the method, the name and the outcomes of a few lookups. Web servers, proxies, the
authority's own state and what nameservers tell one another have no say in it.

## Main definitions

* `Scan.RuledOut`: the condition under which issuance is ruled out

## Main results

* `Engine.scan_fatal_iff`: a scan has a fatal finding exactly under that condition
-/

namespace Rehearsal

namespace Scan

/-- Issuance for a domain, in its normal form, is ruled out by the method, by the name, or by what
was looked up. -/
def RuledOut (suffixes : List Domain.SuffixRule) (resolve : Resolution) (domain : String)
    (method : Method) : Prop :=
  let name := (Domain.stripWildcard domain).1
  let isWildcard := (Domain.stripWildcard domain).2
  (method ≠ .http01 ∧ method ≠ .dns01) ∨
  (Check.classifyDomain suffixes name).name = "InvalidDomain" ∨
  (isWildcard = true ∧ method ≠ .dns01) ∨
  Check.CaaRefuses resolve isWildcard (Domain.chain suffixes name) ∨
  (method = .dns01 ∧
    (Check.IsError (resolve (.ofName name .ns)) ∨
      Check.IsError (resolve (.ofName (Check.challengeName name) .txt)))) ∨
  (method = .http01 ∧
    Check.AddressesRefuse (resolve (.ofName domain .a)) (resolve (.ofName domain .aaaa)))

variable {suffixes : List Domain.SuffixRule} {resolve : Resolution} {domain : String}
  {method : Method}

theorem unusable_iff (method : Method) :
    method.isKnown = false ∨ method.isDisabled = true ↔ method ≠ .http01 ∧ method ≠ .dns01 := by
  cases method <;> simp [Method.isKnown, Method.isDisabled]

theorem ruledOut_iff :
    (∃ rule ∈ Check.standardRules suffixes resolve domain method, rule.fatal) ↔
      RuledOut suffixes resolve domain method := by
  unfold RuledOut Check.standardRules
  simp only [List.exists_mem_cons_iff, Check.blockRules_fatal, Check.Rule.under, Check.Rule.never,
    List.not_mem_nil, false_and, exists_false, or_false, and_false]
  rw [← unusable_iff, or_assoc, or_comm (a := method = .http01 ∧ _)]

end Scan

namespace Engine

/-- **An ordinary scan that has a list of findings to give has a fatal one exactly when issuance is
ruled out**, whatever the peers answer and in whatever order they do. Any table of lookups will do
that agrees with those that were made, and there is one; where a lookup was not made, something else
decides. -/
theorem scan_fatal_iff (suffixes : List Domain.SuffixRule) (probes : ProbeSettings)
    (domain : String) (method : Method) (options : ScanOptions) (peers : Peers)
    (hcalm : peers.Calm) (s s' : Session) (problems : List Problem)
    (h : ((⟨Check.standardBy suffixes, probes⟩ : Engine).scan domain method options).Ends peers
      s.forget (.returned (.ok problems)) s') :
    (∃ resolve, s'.Resolves s.journal.length resolve) ∧
      (∀ resolve, s'.Resolves s.journal.length resolve →
        (Problem.anyFatal problems = true ↔
          Scan.RuledOut suffixes resolve (Domain.normalize domain) method)) ∧
      ∀ p ∈ problems, p.isFatal = true → p.name ∈ Check.fatalNames := by
  have hvalidate : options.validate = .ok () := by
    cases hvalidate : options.validate with
    | error e => cases (scan_refused hvalidate h).1
    | ok => rfl
  have hverdict (resolve : Resolution) (hresolves : s'.Resolves s.journal.length resolve) :
      (Problem.anyFatal problems = true ↔
          Scan.RuledOut suffixes resolve (Domain.normalize domain) method) ∧
        Check.WellNamed problems := by
    obtain ⟨result, heq, -, hok⟩ := scan_obeys ⟨Check.standardBy suffixes, probes⟩
      (Check.standard_obeys resolve suffixes ⟨options, probes⟩ _ method) hvalidate hcalm h hresolves
    obtain ⟨hfatal, hnamed⟩ := hok problems (Outcome.returned.inj heq).symm
    exact ⟨hfatal.trans Scan.ruledOut_iff, hnamed⟩
  obtain ⟨resolve, hresolves⟩ := h.exists_resolves
  exact ⟨⟨resolve, hresolves⟩, fun resolve hresolves => (hverdict resolve hresolves).1,
    (hverdict resolve hresolves).2⟩

/-- Where lookups find nothing at all, an ordinary scan for `http-01` has a fatal finding. -/
theorem scan_fatal_iff_of_no_records :
    ∃ problems s', ((⟨Check.standardBy Domain.sampleSuffixRules, .standard⟩ : Engine).scan
      "example.org" .http01 .standard).Ends (.answering fun _ => .ok []) Session.fresh.forget
        (.returned (.ok problems)) s' ∧ Problem.anyFatal problems = true := by
  let resolve : Resolution := fun _ => .ok []
  have hcalm := Peers.calm_answering resolve
  obtain ⟨fuel, result, s', hrun⟩ := exists_run_scan
    ⟨Check.standardBy Domain.sampleSuffixRules, .standard⟩ "example.org" .http01 .standard
    (.answering resolve) .fresh
  have h := Job.ends_of_run hrun
  have hresolves : s'.Resolves 0 resolve := h.resolves fun _ _ => rfl
  obtain ⟨result', heq, hfails⟩ := scan_returns (n := 9) (by decide) rfl hcalm h hresolves
  obtain rfl := Outcome.returned.inj heq
  cases result with
  | error e =>
    obtain ⟨key, records, hanswer, r, hr, -⟩ := (hfails.mp ⟨e, rfl⟩).exists_isUnwritable
    obtain rfl : [] = records := Except.ok.inj hanswer
    cases hr
  | ok problems =>
    obtain ⟨-, hfatal, -⟩ := scan_fatal_iff Domain.sampleSuffixRules .standard "example.org" .http01
      .standard (.answering resolve) hcalm .fresh s' problems h
    have hrefuse : Check.AddressesRefuse (.ok []) (.ok []) := .inr (.inr (.inl rfl))
    have hruled : Scan.RuledOut Domain.sampleSuffixRules resolve (Domain.normalize "example.org")
        .http01 :=
      .inr (.inr (.inr (.inr (.inr ⟨rfl, hrefuse⟩))))
    exact ⟨problems, s', h, (hfatal resolve hresolves).mpr hruled⟩

end Engine

end Rehearsal
