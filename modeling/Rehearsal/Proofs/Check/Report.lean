import Rehearsal.Proofs.Check.Accessibility
import Rehearsal.Proofs.Check.Web
import Rehearsal.Proofs.Job.Race
import Rehearsal.Proofs.Probe.Hearing
import Rehearsal.Proofs.Text.Line

/-!
# The report about the probes of a domain

All addresses of a domain are probed at once, and what the probes end with becomes one report. It is
told by the probes alone, in the order of the addresses: the order in which they end leaves no trace
in it, for the values are gathered before anything is made of them.

Of each family only the first probe counts to which a response came. So a server that is silent does
not hide that the others answer differently, and two probes of one family are never compared. In the
record, a probe is silent if its status is zero, and that nothing came to it is another matter: it
follows as long as no server sends such a status.

The entries about the probes are lines of one text. That there are as many lines as probes is no
matter of course, for each entry repeats what a server calls itself. But a header of which any part
is shown is visible throughout, so only the domain could break a line.

## Main definitions

* `Session.Finds`: something was looked up, and the cache has it
* `Check.IsFirstHeard`, `Check.Differ`: the probes that are compared, and that they differ
* `Check.IsComparison`, `Check.IsAccount`: the findings about all probes
* `Check.IsReport`: the whole report
* `Check.IsProbed`: what a probe of its address ended with
* `Check.reportEnded`: what is reported when the probes have ended in some order

## Main results

* `Check.firstAnswered_eq_some_iff`: the probe that is compared is the first one that was heard
* `Check.isReport_reportProbes`: the findings are such a report
* `Check.reportEnded_of_perm`: it does not depend on the order in which the probes end
* `Check.httpAccessibility_reports`: what is true of every run of the checker
-/

namespace Rehearsal

/-! ### What is written on one line -/

theorem ProbeResult.isLine_render {r : ProbeResult} (h : Text.IsLine r.server) :
    Text.IsLine r.render := by
  have hfamily : Text.IsLine (family r.address) := by
    unfold family
    split <;> decide
  have hredirects : Text.IsLine (if 0 < r.redirects then
      s!",Number of Redirects={r.redirects},Final HTTP Status={r.status}" else "") := by
    split
    · simp only [Text.isLine_append, and_assoc]
      exact ⟨by decide, Text.isLine_toString _, by decide, Text.isLine_toString _⟩
    · decide
  unfold render
  simp only [Text.isLine_append, and_assoc]
  exact ⟨by decide, r.address.isLine_render, by decide, hfamily, by decide, h, by decide,
    by decide, Text.isLine_toString _, hredirects, by decide⟩

namespace Probe

variable {w : World} {domain : String}

theorem isLine_explain (address : IpAddress) (trace : List String) (failure : ProbeFailure) :
    Text.IsLine (explain domain address trace failure).name := by
  cases failure with
  | redirect message => exact (by decide : Text.IsLine "BadRedirect")
  | transport message timeout =>
    rw [explain_name]
    split
    · decide
    · cases address
      · exact (by decide : Text.IsLine "ANotWorking")
      · exact (by decide : Text.IsLine "AAAANotWorking")

theorem isLine_finish (domain expected : String) (arrived : Arrived) {p : Problem}
    (h : (finish domain expected arrived).2 = some p) : Text.IsLine p.name := by
  obtain ⟨record, elapsed, arrival⟩ := arrived
  cases arrival with
  | error failure =>
    obtain rfl := Option.some.inj h
    exact isLine_explain _ _ failure
  | ok response =>
    rcases judge_cases h with ⟨message, rfl⟩ | ⟨status, body, rfl⟩
    · exact isLine_explain _ _ _
    · exact (by decide : Text.IsLine "UnexpectedHttpResponse")

/-- What a probe finds has a name on one line. -/
theorem run_isLine (context : ScanContext) (domain : String) (address : IpAddress) :
    (run context domain address).Yields w fun probed => ∀ p ∈ probed.2, Text.IsLine p.name := by
  intro probed hgive p hp
  obtain ⟨message, rfl⟩ | ⟨failure, rfl⟩ | ⟨plan, began, left, url, arrived, -, rfl⟩ :=
    run_gives hgive
  · obtain rfl := Option.some.inj hp
    exact (by decide : Text.IsLine "InternalProblem")
  · exact isLine_finish domain "" (_, 0, .error failure) hp
  · exact isLine_finish _ _ arrived hp

end Probe

/-! ### What is looked up -/

/-- Something was looked up: the cache has the outcome at last, and it had no other before. -/
structure Session.Finds (s s' : Session) (key : LookupKey) (outcome : LookupOutcome) : Prop where
  /-- The cache has the outcome at last. -/
  known : (s'.entry key).cell.outcome = some outcome
  /-- An outcome that it had before is the same. -/
  same : ∀ before, (s.entry key).cell.outcome = some before → before = outcome

section Lookup

variable {peers : Peers} {s s' : Session} {past : Nat} {key : LookupKey} {outcome : LookupOutcome}

theorem Session.Orderly.finds (hs : s.Orderly 0 past) (hs' : s'.Orderly 0 past)
    (hgrows : s.journal <+: s'.journal) (h : .settled key outcome ∈ s'.news past) :
    s.Finds s' key outcome where
  known := hs'.outcome_of_mem_news h
  same _ hbefore := hs'.eq_of_mem_news (Session.news_subset hgrows past (hs.mem_news hbefore)) h

/-- A run that looks something up goes on with an outcome that is known from then on. -/
theorem Job.Ends.lookup_settles {α : Type} {name : String} {type : RecordType}
    {f : LookupOutcome → Job α} {value : α}
    (h : ((Job.lookup name type).bind f).Ends peers s (.returned value) s')
    (hs : s.Orderly 0 past) :
    ∃ outcome s₁, .settled (.ofName name type) outcome ∈ s₁.news past ∧ s₁.Orderly 0 past ∧
      s.journal <+: s₁.journal ∧ (f outcome).Ends peers s₁ (.returned value) s' := by
  rcases h.bind with ⟨_, heq, -⟩ | ⟨outcome, s₁, hlookup, hnext⟩
  · cases heq
  · have hgives := hlookup.gives hs (World.covers_ofPeers peers _)
    exact ⟨outcome, s₁, hgives.settled_of_lookup, hlookup.orderly hs, hlookup.journal_grows, hnext⟩

end Lookup

namespace Check

variable {w : World} {context : ScanContext} {n : Nat} {domain : String} {probes : Fin n → Probed}
  {peers : Peers} {s s' : Session} {past : Nat}

/-! ### The two families -/

/-- The probe is the first one of its family to which a response came. -/
structure IsFirstHeard (isV4 : Bool) (probes : Fin n → Probed) (i : Fin n) : Prop where
  /-- The address belongs to the family. -/
  family : (probes i).1.address.isV4 = isV4
  /-- A response came. -/
  heard : (probes i).1.isSilent = false
  /-- None came to any probe of the family before. -/
  first : ∀ j < i, (probes j).1.address.isV4 = isV4 → (probes j).1.isSilent = true

theorem firstAnswered_eq_some_iff {isV4 : Bool} {r : ProbeResult} :
    firstAnswered isV4 (List.ofFn probes) = some r ↔
      ∃ i, IsFirstHeard isV4 probes i ∧ (probes i).1 = r := by
  rw [firstAnswered, List.map_ofFn, List.find?_eq_some_iff_getElem]
  constructor
  · rintro ⟨hr, i, hi, rfl, hfirst⟩
    rw [List.length_ofFn] at hi
    simp only [List.getElem_ofFn, Function.comp_apply, Bool.and_eq_true, beq_iff_eq,
      Bool.not_eq_true'] at hr hfirst ⊢
    refine ⟨⟨i, hi⟩, ⟨hr.1, hr.2, fun j hj hfamily => ?_⟩, rfl⟩
    have hbefore := hfirst j.1 hj
    simpa [hfamily] using hbefore
  · rintro ⟨i, h, rfl⟩
    refine ⟨by simp [h.family, h.heard], i.1, by simp, by simp, fun j hj => ?_⟩
    have hbefore := h.first ⟨j, hj.trans i.2⟩ hj
    simp only [List.getElem_ofFn, Function.comp_apply]
    by_cases hfamily : (probes ⟨j, hj.trans i.2⟩).1.address.isV4 = isV4
    · simp [hbefore hfamily]
    · simp [hfamily]

/-- To each family a response came, and the first ones differ in the final status or in the server
that is named. -/
def Differ (probes : Fin n → Probed) : Prop :=
  ∃ i j, IsFirstHeard true probes i ∧ IsFirstHeard false probes j ∧
    ((probes i).1.status ≠ (probes j).1.status ∨ (probes i).1.server ≠ (probes j).1.server)

/-- What is found about the two families. -/
structure IsComparison (probes : Fin n → Probed) (compared : List Problem) : Prop where
  /-- There is one warning at most. -/
  length_le : compared.length ≤ 1
  /-- It is named for its cause. -/
  warns : ∀ p ∈ compared, p.name = "IPv4IPv6Discrepancy" ∧ p.severity = .warning
  /-- It shows the two probes that were compared. -/
  shows : ∀ p ∈ compared, ∃ i j, IsFirstHeard true probes i ∧ IsFirstHeard false probes j ∧
    p.detail = s!"{(probes i).1.render} vs {(probes j).1.render}"
  /-- It is there exactly if the families differ. -/
  ne_nil_iff : compared ≠ [] ↔ Differ probes

theorem isComparison_compareFamilies :
    IsComparison probes (compareFamilies domain (List.ofFn probes)) := by
  by_cases hdiffer : Differ probes
  · obtain ⟨i, j, hi, hj, hne⟩ := id hdiffer
    have hv4 := firstAnswered_eq_some_iff.mpr ⟨i, hi, rfl⟩
    have hv6 := firstAnswered_eq_some_iff.mpr ⟨j, hj, rfl⟩
    have hcompared : compareFamilies domain (List.ofFn probes) =
        [discrepancy domain (probes i).1 (probes j).1] := by
      rw [compareFamilies, hv4, hv6]
      exact if_pos (by simpa using hne)
    rw [hcompared]
    exact ⟨Nat.le_refl 1, List.forall_mem_singleton.mpr ⟨rfl, rfl⟩,
      List.forall_mem_singleton.mpr ⟨i, j, hi, hj, rfl⟩,
      iff_of_true (List.cons_ne_nil _ _) hdiffer⟩
  · have hnone : compareFamilies domain (List.ofFn probes) = [] := by
      unfold compareFamilies
      split
      next v4 v6 hv4 hv6 =>
        obtain ⟨i, hi, rfl⟩ := firstAnswered_eq_some_iff.mp hv4
        obtain ⟨j, hj, rfl⟩ := firstAnswered_eq_some_iff.mp hv6
        exact if_neg fun hne => hdiffer ⟨i, j, hi, hj, by simpa using hne⟩
      next => rfl
    rw [hnone]
    exact ⟨Nat.zero_le 1, fun _ hp => absurd hp List.not_mem_nil,
      fun _ hp => absurd hp List.not_mem_nil, iff_of_false (fun hne => hne rfl) hdiffer⟩

/-! ### The entries -/

/-- What is told of all probes: one entry for each, in the order of the probes. The entries are the
lines of the text, unless there is a line end in the domain. -/
structure IsAccount (domain : String) (probes : Fin n → Probed) (note : Problem) : Prop where
  /-- It is a note of its own kind. -/
  name : note.name = "HTTPCheck"
  /-- It is no finding against the domain. -/
  severity : note.severity = .debug
  /-- The entries are joined. -/
  detail : note.detail = "\n".intercalate (List.ofFn fun i => probeLine domain (probes i))
  /-- They can be told apart. -/
  lines : n ≠ 0 → Text.IsLine domain → note.detail.toList.splitOn '\n' =
    List.ofFn fun i => (probeLine domain (probes i)).toList

theorem isLine_probeLine {probed : Probed} (hdomain : Text.IsLine domain)
    (hserver : Text.IsLine probed.1.server) (hname : ∀ p ∈ probed.2, Text.IsLine p.name) :
    Text.IsLine (probeLine domain probed) := by
  have hissue : Text.IsLine ((probed.2.map Problem.name).getD "") := by
    cases hproblem : probed.2 with
    | none => decide
    | some p => exact hname p hproblem
  unfold probeLine
  simp only [Text.isLine_append, and_assoc]
  exact ⟨by decide, hdomain, by decide, probed.1.address.isLine_render, by decide,
    ProbeResult.isLine_render hserver, by decide, hissue⟩

theorem isAccount_reportProbes (hserver : ∀ i, Text.IsLine (probes i).1.server)
    (hname : ∀ i, ∀ p ∈ (probes i).2, Text.IsLine p.name) :
    IsAccount domain probes (.debug "HTTPCheck" "Requests made to the domain"
      ("\n".intercalate ((List.ofFn probes).map (probeLine domain)))) where
  name := rfl
  severity := rfl
  detail := by
    rw [List.map_ofFn]
    rfl
  lines hsome hdomain := by
    have hne : (List.ofFn probes).map (probeLine domain) ≠ [] := by
      rw [List.map_ofFn, ne_eq, List.ofFn_eq_nil_iff]
      exact hsome
    refine (Text.splitOn_intercalate_lines ?_ hne).trans ?_
    · intro line hline
      obtain ⟨probed, hprobed, rfl⟩ := List.mem_map.mp hline
      obtain ⟨i, rfl⟩ := List.mem_ofFn.mp hprobed
      exact isLine_probeLine hdomain (hserver i) (hname i)
    · rw [List.map_ofFn, List.map_ofFn]
      rfl

/-! ### The whole report -/

/-- The findings are those of the probes in their order, what is found about the two families, and
at last what is told of all probes. -/
def IsReport (domain : String) (probes : Fin n → Probed) (problems : List Problem) : Prop :=
  ∃ compared note, problems = (List.ofFn probes).filterMap (·.2) ++ compared ++ [note] ∧
    IsComparison probes compared ∧ IsAccount domain probes note

/-- What a probe of its address ended with in a world, told by the responses that came to it. -/
structure IsProbed (w : World) (context : ScanContext) (domain : String) (probed : Probed) :
    Prop where
  /-- The probe may end so. -/
  gives : (Probe.run context domain probed.1.address).Gives w (.returned probed)
  /-- The record tells of its responses. As long as these have statuses, the probe is silent exactly
  if there are none. -/
  hears : ∃ responses final,
    Probe.Hears w context domain probed.1.address responses final probed.1 ∧
    ((∀ response ∈ responses, response.status ≠ 0) →
      (probed.1.isSilent = true ↔ responses = []))

theorem isProbed_of_gives {address : IpAddress} {probed : Probed}
    (h : (Probe.run context domain address).Gives w (.returned probed)) :
    IsProbed w context domain probed ∧ probed.1.address = address := by
  obtain ⟨responses, final, hhears⟩ := Probe.run_hears context domain address probed h
  obtain rfl := hhears.address
  refine ⟨⟨h, responses, final, hhears, fun hstatus => ?_⟩, rfl⟩
  exact (beq_iff_eq (a := probed.1.status)).trans (hhears.status_eq_zero_iff hstatus)

theorem IsProbed.isLine_server {probed : Probed} (h : IsProbed w context domain probed) :
    Text.IsLine probed.1.server := by
  obtain ⟨responses, final, hhears, -⟩ := h.hears
  rw [hhears.server]
  cases hserver : final.bind fun response => response.textHeader? "server" with
  | none => decide
  | some value =>
    obtain ⟨response, -, hvalue⟩ := Option.bind_eq_some_iff.mp hserver
    exact response.isLine_textHeader hvalue

theorem isReport_reportProbes (h : ∀ i, IsProbed w context domain (probes i)) :
    IsReport domain probes (reportProbes domain (List.ofFn probes)) :=
  ⟨_, _, rfl, isComparison_compareFamilies, isAccount_reportProbes
    (fun i => (h i).isLine_server) fun i => Probe.run_isLine context domain _ _ (h i).gives⟩

/-! ### In any order -/

/-- What is reported when the probes of a domain have ended. -/
def reportEnded (domain : String) (ended : Completions n Probed) : Job Verdict :=
  (Job.gather ended).bind fun probes => .done (.ok (reportProbes domain probes))

theorem probeAll_eq_bind (context : ScanContext) (domain : String) (addresses : List IpAddress) :
    probeAll context domain addresses =
      (Job.endingsTogether (addresses.map (Probe.run context domain))).bind
        (reportEnded domain) := by
  rw [probeAll, Job.all_eq_bind, Job.bind_assoc]
  rfl

/-- **The report does not depend on the order** in which the probes end. -/
theorem reportEnded_of_perm {ended : Completions n Probed}
    (h : ended.Perm (List.ofFn fun i => (i, .returned (probes i)))) :
    reportEnded domain ended = .done (.ok (reportProbes domain (List.ofFn probes))) := by
  rw [reportEnded, Job.gather_of_perm h]
  rfl

/-- **The probes of a run** have ended in some order, and the report is about all of them. -/
theorem probeAll_ends {addresses : List IpAddress} {verdict : Verdict}
    (h : (probeAll context domain addresses).Ends peers s (.returned verdict) s')
    (hs : s.Orderly 0 past) (hw : w.Covers peers (s'.news past)) :
    ∃ (probes : Fin (addresses.map (Probe.run context domain)).length → Probed) (ended : _)
        (s₁ : Session),
      (Job.endingsTogether (addresses.map (Probe.run context domain))).Ends peers s
        (.returned ended) s₁ ∧
      s₁.Drifts peers s' ∧
      ended.Perm (List.ofFn fun i => (i, .returned (probes i))) ∧
      (List.ofFn fun i => (probes i).1.address) = addresses ∧
      (∀ i, IsProbed w context domain (probes i)) ∧
      verdict = .ok (reportProbes domain (List.ofFn probes)) := by
  rw [probeAll_eq_bind] at h
  rcases h.bind with ⟨_, heq, -⟩ | ⟨ended, s₁, hended, hreport⟩
  · cases heq
  have hw₁ := hw.mono (Session.news_subset hreport.journal_grows past)
  have hgives := hreport.gives (hended.orderly hs) hw
  cases hended.gives hs hw₁ with
  | @fork _ _ _ _ _ _ _ _ completions hnodup hchild hthrough hdone =>
    obtain rfl := Outcome.returned.inj hdone.of_done
    have hsound : ∀ c ∈ ended, c.2.crash? = none := by
      rcases hgives.of_bind with ⟨_, -, heq⟩ | ⟨values, hvalues, -⟩
      · cases heq
      · exact hvalues.sound_of_gather
    obtain ⟨probes, hperm⟩ :=
      Job.exists_values hnodup (Job.length_of_enough hsound hthrough) hsound
    rw [reportEnded_of_perm hperm] at hreport
    obtain ⟨hverdict, hdrifts⟩ := hreport.done
    have hprobed (i) : IsProbed w context domain (probes i) ∧
        (probes i).1.address = addresses.get (i.cast (List.length_map _)) := by
      have hgive := hchild _ (hperm.mem_iff.mpr (List.mem_ofFn.mpr ⟨i, rfl⟩))
      refine isProbed_of_gives ?_
      simpa using hgive
    refine ⟨probes, ended, s₁, hended, hdrifts, hperm, ?_, fun i => (hprobed i).1,
      Outcome.returned.inj hverdict⟩
    refine List.ext_get (by simp) fun i hi hi' => ?_
    simpa using (hprobed ⟨i, by simpa using hi⟩).2

/-! ### The checker -/

/-- **What is reported about the probes of a domain.** The addresses are those of the AAAA answer
and then those of the A answer, as the cache has them. If there are some, each is probed; the report
tells of all probes in this order, whatever they end with and whichever ends first. -/
theorem httpAccessibility_reports (context : ScanContext) (domain : String) (peers : Peers)
    {past : Nat} {s : Session} (hs : s.Orderly 0 past) (hstrays : ∀ x ∈ s.strays, x.live.Sound) :
    (∃ fuel outcome s',
      (httpAccessibility.check context domain .http01).run peers fuel s = some (outcome, s')) ∧
    ∀ outcome s', (httpAccessibility.check context domain .http01).Ends peers s outcome s' →
      (peers.Calm → ∃ verdict, outcome = .returned verdict) ∧
      ∀ verdict, outcome = .returned verdict →
        ∃ aaaa a, s.Finds s' (.ofName domain .aaaa) aaaa ∧ s.Finds s' (.ofName domain .a) a ∧
          let addresses := Record.addresses (recordsOf aaaa) ++ Record.addresses (recordsOf a)
          let jobs := addresses.map (Probe.run context domain)
          (addresses = [] → verdict = .ok []) ∧
          (addresses ≠ [] → ∃ (probes : Fin jobs.length → Probed) (problems : List Problem),
            verdict = .ok problems ∧
            (List.ofFn fun i => (probes i).1.address) = addresses ∧
            (∀ i, IsProbed (.ofPeers peers (s'.news past)) context domain (probes i)) ∧
            IsReport domain probes problems ∧
            ∃ ended s₁ s₂, s.journal <+: s₁.journal ∧ s₂.Drifts peers s' ∧
              (Job.endingsTogether jobs).Ends peers s₁ (.returned ended) s₂ ∧
              ended.Perm (List.ofFn fun i => (i, .returned (probes i))) ∧
              ∀ ended' : Completions jobs.length Probed, ended'.Perm ended →
                reportEnded domain ended' = .done verdict) := by
  refine ⟨Live.exists_run peers trivial hstrays hs, fun outcome s' h => ⟨fun hcalm => ?_, ?_⟩⟩
  · obtain ⟨resolve, hresolves⟩ := (h.orderly hs).exists_resolves
    have hfits := httpAccessibility_obeys context domain .http01 _
      (h.gives hs (World.covers_calm hcalm hresolves))
    cases outcome with
    | returned verdict => exact ⟨verdict, rfl⟩
    | crashed message => exact absurd (hfits.failure.mp rfl).2 id
  rintro verdict rfl
  obtain ⟨aaaa, s₁, haaaa, hs₁, hgrows₁, h₁⟩ := Job.Ends.lookup_settles h hs
  obtain ⟨a, s₂, ha, hs₂, hgrows₂, h₂⟩ := Job.Ends.lookup_settles h₁ hs₁
  have hgrows := h₂.journal_grows
  refine ⟨aaaa, a, hs.finds (h.orderly hs) h.journal_grows
      (Session.news_subset (hgrows₂.trans hgrows) past haaaa),
    hs.finds (h.orderly hs) h.journal_grows (Session.news_subset hgrows past ha), ?_⟩
  intro addresses jobs
  replace h₂ : (if addresses.isEmpty then .done (.ok []) else
    probeAll context domain addresses).Ends peers s₂ (.returned verdict) s' := h₂
  refine ⟨fun hnone => ?_, fun hsome => ?_⟩
  · rw [if_pos (by rw [hnone]; rfl)] at h₂
    exact Outcome.returned.inj h₂.done.1
  · rw [if_neg (by rwa [List.isEmpty_iff])] at h₂
    obtain ⟨probes, ended, s₃, hended, hdrifts, hperm, haddresses, hprobed, rfl⟩ :=
      probeAll_ends h₂ hs₂ (World.covers_ofPeers peers _)
    exact ⟨probes, _, rfl, haddresses, hprobed, isReport_reportProbes hprobed, ended, s₂, s₃,
      hgrows₁.trans hgrows₂, hdrifts, hended, hperm,
      fun ended' hperm' => reportEnded_of_perm (hperm'.trans hperm)⟩

/-- Of two IPv6 addresses the first does not answer. The other answers otherwise than the IPv4
address, which is found out all the same. -/
theorem httpAccessibility_reports_discrepancy :
    let v4 : IpAddress := .v4 0x5DB8D822
    let v6 (interface : BitVec 128) : IpAddress :=
      .v6 (0x26062800022000010000000000000000 + interface)
    let peers : Peers :=
      { lookup := fun _ key => .now (match key.type with
          | .aaaa => .ok [.ofData ⟨[], true⟩ 300 (.aaaa 0x26062800022000010000000000000001),
              .ofData ⟨[], true⟩ 300 (.aaaa 0x26062800022000010000000000000002)]
          | .a => .ok [.ofData ⟨[], true⟩ 300 (.a 0x5DB8D822)]
          | _ => .ok [])
        answer := fun _ question => .now (match question with
          | .direct .. => .ok ⟨.noError, []⟩
          | .exchange connection _ =>
            if connection.address = v4 then .ok ⟨200, [], [], none⟩
            else if connection.address = v6 2 then .ok ⟨404, [], [], none⟩
            else .error (.connect .refused)
          | .addresses _ => []
          | .draw _ => 0) }
    ∃ (problems : List Problem) (s' : Session),
      (httpAccessibility.check ⟨.standard, .standard⟩ "example.org" .http01).Ends peers
        Session.fresh.forget (.returned (.ok problems)) s' ∧
      problems.map Problem.name = ["AAAANotWorking", "IPv4IPv6Discrepancy", "HTTPCheck"] ∧
      ∃ (n : Nat) (probes : Fin n → Probed),
        (List.ofFn fun i => (probes i).1.address) = [v6 1, v6 2, v4] ∧
        IsReport "example.org" probes problems := by
  intro v4 v6 peers
  have hone : ((httpAccessibility.check ⟨.standard, .standard⟩ "example.org" .http01).run peers 60
      Session.fresh.forget).map (fun ended =>
        (ended.1.value?.bind fun verdict => verdict.toOption.map fun ps => ps.map Problem.name,
          [RecordType.aaaa, .a].map fun type =>
            ((ended.2.entry (.ofName "example.org" type)).cell.outcome.map fun found =>
              Record.addresses (recordsOf found)))) =
      some (some ["AAAANotWorking", "IPv4IPv6Discrepancy", "HTTPCheck"],
        [some [v6 1, v6 2], some [v4]]) := by
    decide +kernel
  obtain ⟨⟨outcome, s'⟩, hrun, hone⟩ := Option.map_eq_some_iff.mp hone
  obtain ⟨hvalue, hfound⟩ := Prod.mk.inj hone
  obtain ⟨verdict, houtcome, hnames⟩ := Option.bind_eq_some_iff.mp hvalue
  cases outcome with
  | crashed => cases houtcome
  | returned _ =>
    obtain rfl := Option.some.inj houtcome
    have h := Job.ends_of_run hrun
    obtain ⟨aaaa, a, haaaa, ha, -, hsome⟩ :=
      ((httpAccessibility_reports ⟨.standard, .standard⟩ "example.org" peers
        Session.fresh.alone_forget.orderly (fun _ hx => absurd hx List.not_mem_nil)).2 _ s' h).2 _
          rfl
    simp only [List.map_cons, List.map_nil, haaaa.known, ha.known, Option.map_some,
      List.cons.injEq, Option.some.injEq, and_true] at hfound
    obtain ⟨hv6, hv4⟩ := hfound
    obtain ⟨probes, problems, rfl, haddresses, -, hreport, -⟩ :=
      hsome (by rw [hv6]; exact List.cons_ne_nil _ _)
    refine ⟨problems, s', h, Option.some.inj hnames, _, probes, ?_, hreport⟩
    rw [haddresses, hv6, hv4]
    rfl

end Check

end Rehearsal
