import Rehearsal.Proofs.Http.Body
import Rehearsal.Proofs.Probe.Journey
import Rehearsal.Proofs.Text.Lossy

/-!
# Bodies that are expected

Where a body is expected, a probe has no finding if the response at the end shows the expected text.
The beginning of the body is kept, however it arrives in chunks, and more of it than the expected
text has bytes. So a longer body is never taken for the expected one.

The comparison is one of texts, and what is broken in a body is shown as replacement characters. It
is a comparison of bytes unless there is a replacement character in the expected text; otherwise a
body that is no text may be taken for it.

## Main results

* `Probe.conclude_eq_none_iff`: which bodies lead to no finding
* `Probe.run_compares_body`: what is true of every probe
-/

namespace Rehearsal

namespace Probe

variable {domain expected : String} {result : ProbeResult} {elapsed : Nat} {response : Response}

theorem byteLength_lt_bodyLimit (expected : String) :
    Text.byteLength expected < bodyLimit expected := by
  rw [bodyLimit]
  omega

/-- A body that is kept leads to no finding if it shows what is expected. -/
theorem judge_eq_none_iff (hexpected : expected ≠ "") :
    judge domain expected result none = none ↔ Text.decodeLossy result.content = expected := by
  have hsome : expected.isEmpty = false := by
    rwa [Bool.eq_false_iff, ne_eq, String.isEmpty_iff]
  simp only [judge, hsome, Bool.false_eq_true, if_false]
  split
  next heq => exact iff_of_true rfl heq
  next hne => exact iff_of_false (Option.some_ne_none _) hne

/-- **A body leads to no finding if it shows what is expected.** -/
theorem conclude_eq_none_iff (hexpected : expected ≠ "") (hcomplete : response.ending = none) :
    (conclude domain expected result elapsed response).2 = none ↔
      Text.decodeLossy response.body.flatten = expected := by
  rw [← Text.decodeLossy_take_eq_iff (byteLength_lt_bodyLimit expected)]
  unfold conclude
  rw [hcomplete, Body.read_of_complete]
  exact judge_eq_none_iff hexpected

/-- A response that leads nowhere is the one that the probe judges. -/
theorem Journey.concludes {peers : Peers} {past : Nat} {context : ScanContext} {domain : String}
    {address : IpAddress} {journal journal' : List Event} {legs : List Leg} {stranded : Option Url}
    {outcome : Outcome (ProbeResult × Option Problem)}
    (h : Journey peers past context domain address journal legs stranded journal' outcome)
    {leg : Leg} (hleg : leg ∈ legs) (hanswer : leg.answer = .returned (.ok response))
    (hlast : response.redirectTarget? leg.url = none) :
    ∃ record elapsed, outcome =
      .returned (conclude domain context.options.expectedBody record elapsed response) := by
  cases h with
  | nameless | unreadable => exact absurd hleg List.not_mem_nil
  | travelled _ _ route verdict =>
    obtain ⟨record, elapsed, rfl⟩ := route.arrived_ends hleg hanswer hlast
    cases verdict with
    | returned => exact ⟨record, elapsed, rfl⟩

/-- **Which bodies are accepted.** A probe that comes to a complete response has no finding exactly
if the body shows the expected text, whatever its status, its chunks and its length are. Where there
is no replacement character in that text, this means that the body has the bytes of the text. -/
theorem run_compares_body (context : ScanContext) (domain : String) (address : IpAddress)
    (peers : Peers) {past : Nat} {s : Session} (hs : s.Alone past)
    (hexpected : context.options.expectedBody ≠ "") :
    (∃ fuel outcome s', (run context domain address).run peers fuel s = some (outcome, s')) ∧
    ∀ outcome s', (run context domain address).Ends peers s outcome s' →
      ∃ legs : List Leg,
        Journal.requests (s'.journal.drop s.journal.length) =
          legs.map (Leg.exchange (planOf context domain address)) ∧
        (∀ leg ∈ legs, leg.Runs peers past (planOf context domain address)) ∧
        ∀ leg ∈ legs, ∀ response, leg.answer = .returned (.ok response) →
          response.redirectTarget? leg.url = none → response.ending = none →
            ∃ result problem, outcome = .returned (result, problem) ∧
              (problem = none ↔
                Text.decodeLossy response.body.flatten = context.options.expectedBody) ∧
              ('\uFFFD' ∉ context.options.expectedBody.toList → (problem = none ↔
                response.body.flatten = Text.encode context.options.expectedBody)) := by
  refine ⟨Job.exists_run_alone peers _ hs, fun outcome s' h => ?_⟩
  obtain ⟨legs, stranded, hjourney⟩ := run_journey hs h
  refine ⟨legs, hjourney.requests_eq, fun leg hleg => (hjourney.runs leg hleg).1, ?_⟩
  intro leg hleg response hanswer hlast hcomplete
  obtain ⟨record, elapsed, rfl⟩ := hjourney.concludes hleg hanswer hlast
  have hproblem :
      (conclude domain context.options.expectedBody record elapsed response).2 = none ↔
      Text.decodeLossy response.body.flatten = context.options.expectedBody :=
    conclude_eq_none_iff hexpected hcomplete
  exact ⟨_, _, rfl, hproblem, fun hplain => hproblem.trans (Text.decodeLossy_eq_iff hplain)⟩

/-- A byte that is no text is accepted where a replacement character is expected. -/
theorem run_accepts_broken_body :
    let options : ScanOptions := { ScanOptions.standard with expectedBody := "\uFFFD" }
    let peers : Peers :=
      { lookup := fun _ _ => .now (.ok [])
        answer := fun _ question => .now (match question with
          | .direct .. => .ok ⟨.noError, []⟩
          | .exchange .. => .ok ⟨200, [], [[0xFF]], none⟩
          | .addresses _ => []
          | .draw _ => 0) }
    [0xFF] ≠ Text.encode options.expectedBody ∧
      ∃ result s', (run ⟨options, .standard⟩ "example.org" (.v4 0x5DB8D822)).Ends peers
        Session.fresh.forget (.returned (result, none)) s' := by
  intro options peers
  refine ⟨by decide +kernel, ?_⟩
  have hone : ((run ⟨options, .standard⟩ "example.org" (.v4 0x5DB8D822)).run peers 8
      Session.fresh.forget).map (fun ended => (Journal.requests ended.2.journal).length) =
        some 1 := by decide +kernel
  obtain ⟨⟨outcome, s'⟩, hrun, hone⟩ := Option.map_eq_some_iff.mp hone
  have h := Job.ends_of_run hrun
  obtain ⟨legs, hrequests, hruns, hbodies⟩ :=
    (run_compares_body ⟨options, .standard⟩ "example.org" (.v4 0x5DB8D822) peers
      Session.fresh.alone_forget (by decide +kernel)).2 outcome s' h
  obtain ⟨leg, rfl⟩ := exists_eq_singleton hrequests hone
  have hleg : leg ∈ [leg] := List.mem_cons_self
  obtain ⟨result, problem, rfl, haccepts, -⟩ :=
    hbodies leg hleg _ (hruns leg hleg).answered.symm rfl rfl
  obtain rfl := haccepts.mpr (by decide +kernel)
  exact ⟨result, s', h⟩

end Probe

end Rehearsal
