import Rehearsal.Proofs.Scan.Verdict

/-!
# When records make a scan fail

Whatever records the resolver and the nameservers answer with, most of them become findings or are
passed over. The exception are records that cannot be written: where the walk for permission to
issue ends at one, or one comes along with the addresses for `http-01`, the scan fails. Nothing else
that is looked up makes it fail.

## Main definitions

* `Scan.Breaks`: the condition under which a scan fails

## Main results

* `Scan.failsFirst_iff`: the checkers up to the block fail exactly under that condition, and those
  after it never do
* `Scan.Breaks.exists_isUnwritable`: only records that cannot be written make a scan fail
* `Engine.scan_fails_iff`: a scan up to the block fails exactly under that condition
-/

namespace Rehearsal

namespace Scan

/-- A record that cannot be written is written in a scan of a domain in its normal form: the method
and the name are accepted, and it is one of the records that decide on permission to issue or, if
issuance is permitted, one of those that come with addresses. -/
def Breaks (suffixes : List Domain.SuffixRule) (resolve : Resolution) (domain : String)
    (method : Method) : Prop :=
  let name := (Domain.stripWildcard domain).1
  let isWildcard := (Domain.stripWildcard domain).2
  (method = .http01 ∨ method = .dns01) ∧
  (Check.classifyDomain suffixes name).name ≠ "InvalidDomain" ∧
  (isWildcard = true → method = .dns01) ∧
  (Check.CaaUnwritable resolve (Domain.chain suffixes name) ∨
    ¬Check.CaaRefuses resolve isWildcard (Domain.chain suffixes name) ∧ method = .http01 ∧
      Check.AddressesUnwritable (resolve (.ofName domain .a)) (resolve (.ofName domain .aaaa)))

variable {suffixes : List Domain.SuffixRule} {resolve : Resolution} {domain : String}
  {method : Method}

theorem usable_iff (method : Method) :
    method.isKnown = true ∧ method.isDisabled = false ↔ method = .http01 ∨ method = .dns01 := by
  cases method <;> simp [Method.isKnown, Method.isDisabled]

theorem not_failsFirst {rules : List Check.Rule} (h : ∀ rule ∈ rules, ¬rule.fails) :
    ¬FailsFirst rules := by
  induction rules with
  | nil => exact id
  | cons rule rules ih =>
    obtain ⟨hrule, hrules⟩ := List.forall_mem_cons.mp h
    rintro (hfails | ⟨-, hfails⟩)
    · exact hrule hfails
    · exact ih hrules hfails

/-- What comes after the block does not matter: it never fails. -/
theorem failsFirst_iff {n : Nat} (h : 6 ≤ n) :
    FailsFirst ((Check.standardRules suffixes resolve domain method).take n) ↔
      Breaks suffixes resolve domain method := by
  obtain ⟨k, rfl⟩ := Nat.exists_eq_add_of_le' h
  have hrest : ¬FailsFirst
      (List.take k [Check.Rule.under (method = .http01) .never, .never, .never]) := by
    refine not_failsFirst fun rule hrule => ?_
    have hmem := List.mem_of_mem_take hrule
    simp only [List.mem_cons, List.not_mem_nil, or_false] at hmem
    rcases hmem with rfl | rfl | rfl <;> simp [Check.Rule.under, Check.Rule.never]
  unfold Check.standardRules Breaks
  simp only [List.take_succ_cons, FailsFirst, Check.blockRules_fails, false_or, hrest, and_false,
    or_false]
  rw [← usable_iff]
  simp only [Bool.not_eq_false, Bool.not_eq_true, ne_eq, not_and, not_not, and_assoc]

/-- Only records that cannot be written make a scan fail. -/
theorem Breaks.exists_isUnwritable (h : Breaks suffixes resolve domain method) :
    ∃ key records, resolve key = .ok records ∧ ∃ r ∈ records, r.IsUnwritable := by
  obtain ⟨-, -, -, ⟨name, records, -, hok, hno⟩ | ⟨-, -, -, r, hr, hno⟩⟩ := h
  · exact ⟨_, records, hok, hno⟩
  · have hrecords {key : LookupKey} (hr : r ∈ Check.recordsOf (resolve key)) :
        ∃ key records, resolve key = .ok records ∧ ∃ r ∈ records, r.IsUnwritable := by
      cases hanswer : resolve key with
      | ok records => exact ⟨key, records, hanswer, r, by rwa [hanswer] at hr, hno⟩
      | error e =>
        rw [hanswer] at hr
        cases hr
    rcases List.mem_append.mp hr with hr | hr
    · exact hrecords hr
    · exact hrecords hr

end Scan

namespace Engine

/-- A scan that runs the checkers up to the block, or more of them, returns, and fails exactly if a
record that cannot be written is written. -/
theorem scan_returns {n : Nat} (hblock : 6 ≤ n) {suffixes : List Domain.SuffixRule}
    {probes : ProbeSettings} {domain : String} {method : Method} {options : ScanOptions}
    {peers : Peers} {resolve : Resolution} {s s' : Session} {outcome : Outcome ScanResult}
    (haccepted : options.validate = .ok ()) (hcalm : peers.Calm)
    (h : ((⟨(Check.standardBy suffixes).take n, probes⟩ : Engine).scan domain method options).Ends
      peers s.forget outcome s')
    (hresolves : s'.Resolves s.journal.length resolve) :
    ∃ result, outcome = .returned result ∧
      ((∃ e, result = .error e) ↔
        Scan.Breaks suffixes resolve (Domain.normalize domain) method) := by
  have hrules := List.forall₂_take n
    (Check.standard_obeys resolve suffixes ⟨options, probes⟩ (Domain.normalize domain) method)
  obtain ⟨result, heq, hfails, -⟩ := scan_obeys _ hrules haccepted hcalm h hresolves
  exact ⟨result, heq, hfails.trans (Scan.failsFirst_iff hblock)⟩

/-- **A scan up to the block fails exactly if a record that cannot be written is written**, whatever
the peers answer and in whatever order they do. In every other case it returns a list of findings.
-/
theorem scan_fails_iff (suffixes : List Domain.SuffixRule) (probes : ProbeSettings)
    (domain : String) (method : Method) (options : ScanOptions)
    (haccepted : options.validate = .ok ()) (peers : Peers) (hcalm : peers.Calm) (s : Session) :
    (∃ fuel result s', ((⟨(Check.standardBy suffixes).take 6, probes⟩ : Engine).scan domain method
      options).run peers fuel s.forget = some (.returned result, s')) ∧
    ∀ outcome s', ((⟨(Check.standardBy suffixes).take 6, probes⟩ : Engine).scan domain method
      options).Ends peers s.forget outcome s' →
        ∃ result, outcome = .returned result ∧
          (∃ resolve, s'.Resolves s.journal.length resolve) ∧
          ∀ resolve, s'.Resolves s.journal.length resolve →
            ((∃ e, result = .error e) ↔
              Scan.Breaks suffixes resolve (Domain.normalize domain) method) := by
  refine ⟨exists_run_scan _ domain method options peers s, fun outcome s' h => ?_⟩
  obtain ⟨resolve, hresolves⟩ := h.exists_resolves
  obtain ⟨result, rfl, -⟩ := scan_returns (Nat.le_refl 6) haccepted hcalm h hresolves
  refine ⟨result, rfl, ⟨resolve, hresolves⟩, fun resolve hresolves => ?_⟩
  obtain ⟨result', heq, hiff⟩ := scan_returns (Nat.le_refl 6) haccepted hcalm h hresolves
  rwa [Outcome.returned.inj heq]

/-- A zone whose CAA record has a value that is no text makes a scan fail. -/
theorem scan_fails_iff_of_raw_value :
    let record : Record :=
      ⟨⟨[], true⟩, 300, .caa, some (.caa false (.unknown "tbs") (.raw [0xff]))⟩
    ∃ e s', ((⟨(Check.standardBy Domain.sampleSuffixRules).take 6, .standard⟩ : Engine).scan
      "example.org" .dns01 .standard).Ends (.answering fun _ => .ok [record]) Session.fresh.forget
        (.returned (.error e)) s' := by
  intro record
  let resolve : Resolution := fun _ => .ok [record]
  obtain ⟨⟨fuel, result, s', hrun⟩, hends⟩ := scan_fails_iff Domain.sampleSuffixRules .standard
    "example.org" .dns01 .standard rfl (.answering resolve) (Peers.calm_answering resolve) .fresh
  have h := Job.ends_of_run hrun
  have hresolves : s'.Resolves 0 resolve := h.resolves fun _ _ => rfl
  obtain ⟨result', heq, -, hiff⟩ := hends _ s' h
  obtain rfl := Outcome.returned.inj heq
  have hunwritable : record.IsUnwritable := ⟨false, _, [0xff], rfl, by decide +kernel⟩
  have hdecides : Check.DecidesCaa resolve (Domain.chain Domain.sampleSuffixRules "example.org")
      "example.org" := by
    have hchain : Domain.chain Domain.sampleSuffixRules "example.org" = ["example.org"] := by
      decide +kernel
    have hanswer : resolve (.ofName "example.org" .caa) = .ok [record] := rfl
    refine ⟨[], [], hchain, fun _ hn => absurd hn List.not_mem_nil, ?_⟩
    rw [Check.passesOn_iff hanswer]
    exact fun hnone => hnone record List.mem_cons_self hunwritable.isCaa
  have hbreaks : Scan.Breaks Domain.sampleSuffixRules resolve (Domain.normalize "example.org")
      .dns01 := by
    have hname : (Domain.stripWildcard (Domain.normalize "example.org")).1 = "example.org" := by
      decide +kernel
    unfold Scan.Breaks
    rw [hname]
    exact ⟨.inr rfl, by decide +kernel, fun _ => rfl,
      .inl ⟨_, _, hdecides, rfl, record, List.mem_cons_self, hunwritable⟩⟩
  obtain ⟨e, rfl⟩ := (hiff resolve hresolves).mpr hbreaks
  exact ⟨e, s', h⟩

end Engine

end Rehearsal
