import Rehearsal.Proofs.Probe.Record

/-!
# The finding of a probe

A probe ends in one of three ways: a redirect is refused, there is no response, or there is one and
it is judged. In each of them there is at most one finding. Whoever reads it has to see what
happened, so its detail ends with the trace, and the trace is the one of the record at the end: the
line about the error or about the response is in it. That line is written last, just before the
finding is made up, and this is where it could get lost.

A finding of a probe is never fatal, since a certificate authority may have more luck.

## Main definitions

* `Probe.ShowsTrace`: the detail of a finding ends with a trace
* `Probe.IsRefused`: a redirect is refused
* `Probe.Verdict`: the ways in which a probe ends

## Main results

* `Probe.Journey.verdict`: there are no others
* `Probe.Verdict.name_eq_badRedirect_iff`, `Probe.Verdict.severity`, `Probe.Verdict.showsTrace`:
  what is true of the finding in all of them
* `Probe.run_finds`: what is true of every probe
-/

namespace Rehearsal

namespace Probe

variable {domain expected : String} {legs : List Leg} {result : ProbeResult} {p : Problem}

/-! ### Findings that show the trace -/

/-- The detail of a finding ends with the lines of a trace. -/
def ShowsTrace (trace : List String) (p : Problem) : Prop :=
  ∃ front, p.detail = front ++ "Trace:\n" ++ "\n".intercalate trace

theorem exists_withTrace (message : String) (trace : List String) :
    ∃ front, withTrace message trace = front ++ "Trace:\n" ++ "\n".intercalate trace := by
  have hmark : ("\n\nTrace:\n" : String) = "\n\n" ++ "Trace:\n" := by decide +kernel
  refine ⟨message ++ "\n\n", ?_⟩
  rw [withTrace, hmark]
  exact congrArg (· ++ "\n".intercalate trace) String.append_assoc.symm

theorem explain_showsTrace (domain : String) (address : IpAddress) (trace : List String)
    (failure : ProbeFailure) : ShowsTrace trace (explain domain address trace failure) := by
  cases failure with
  | redirect message => exact exists_withTrace _ _
  | transport message timeout =>
    rw [explain]
    split
    next => exact exists_withTrace _ _
    next => cases address <;> exact exists_withTrace _ _

/-- A finding on a failure is an error. -/
theorem explain_severity (domain : String) (address : IpAddress) (trace : List String)
    (failure : ProbeFailure) : (explain domain address trace failure).severity = .error := by
  cases failure with
  | redirect => rfl
  | transport message timeout =>
    rw [explain]
    split
    next => rfl
    next => cases address <;> rfl

theorem explain_transport_name_ne {address : IpAddress} {trace : List String} {message : String}
    {timeout : Bool} :
    (explain domain address trace (.transport message timeout)).name ≠ "BadRedirect" ∧
      (explain domain address trace (.transport message timeout)).name ≠
        "UnexpectedHttpResponse" := by
  rw [explain_name]
  split
  next => decide
  next => cases address <;> simp [notWorkingName]

/-! ### The ways in which a probe ends -/

/-- One of the redirects is refused. -/
def IsRefused (legs : List Leg) : Prop :=
  ∃ front leg back target refusal, front ++ leg :: back = legs ∧ leg.LeadsTo target ∧
    Refuses (maxHops - 1) front.length target refusal

/-- The ways in which a probe ends, with the record at the end and the finding, if there is one. -/
inductive Verdict (domain expected : String) (legs : List Leg) (result : ProbeResult) :
    Option Problem → Prop where
  /-- A redirect is refused. -/
  | refused {refusal : Refusal} (refused : IsRefused legs) :
    Verdict domain expected legs result (some (badRedirect domain refusal.message result.trace))
  /-- There is no response at the end. -/
  | failed {message : String} {timeout : Bool} {elapsed : Nat} (followed : ¬IsRefused legs)
      (none : ∀ leg ∈ legs, ∀ response, ¬leg.ArrivesAt response)
      (last : result.trace.getLast? = some (ProbeResult.stamp elapsed (errorLine message))) :
    Verdict domain expected legs result
      (some (explain domain result.address result.trace (.transport message timeout)))
  /-- The response at the end is judged. -/
  | judged {leg : Leg} {response : Response} (followed : ¬IsRefused legs) (mem : leg ∈ legs)
      (arrives : leg.ArrivesAt response) :
    Verdict domain expected legs result
      (judge domain expected result (readBody expected response).2)

/-- **A finding is named for a redirect exactly if one is refused.** -/
theorem Verdict.name_eq_badRedirect_iff {problem : Option Problem}
    (h : Verdict domain expected legs result problem) :
    (∃ p ∈ problem, p.name = "BadRedirect") ↔ IsRefused legs := by
  cases h with
  | refused hrefused => exact iff_of_true ⟨_, rfl, rfl⟩ hrefused
  | failed followed =>
    refine iff_of_false ?_ followed
    rintro ⟨p, hp, hname⟩
    obtain rfl := Option.some.inj hp
    exact explain_transport_name_ne.1 hname
  | judged followed =>
    refine iff_of_false ?_ followed
    rintro ⟨p, hp, hname⟩
    exact judge_name hp hname

/-- **A finding is an error, or it is a warning and named for an unexpected response.** -/
theorem Verdict.severity (h : Verdict domain expected legs result (some p)) :
    p.severity = .error ∧ p.name ≠ "UnexpectedHttpResponse" ∨
      p.severity = .warning ∧ p.name = "UnexpectedHttpResponse" := by
  generalize hp : some p = problem at h
  cases h with
  | refused =>
    obtain rfl := Option.some.inj hp
    exact .inl ⟨rfl, (by decide : "BadRedirect" ≠ "UnexpectedHttpResponse")⟩
  | failed =>
    obtain rfl := Option.some.inj hp
    exact .inl ⟨explain_severity .., explain_transport_name_ne.2⟩
  | judged =>
    rcases judge_cases hp.symm with ⟨message, rfl⟩ | ⟨status, body, rfl⟩
    · exact .inl ⟨explain_severity .., explain_transport_name_ne.2⟩
    · exact .inr ⟨rfl, rfl⟩

/-- **A finding shows the trace of the record.** -/
theorem Verdict.showsTrace (h : Verdict domain expected legs result (some p)) :
    ShowsTrace result.trace p := by
  generalize hp : some p = problem at h
  cases h with
  | refused =>
    obtain rfl := Option.some.inj hp
    exact exists_withTrace _ _
  | failed =>
    obtain rfl := Option.some.inj hp
    exact explain_showsTrace ..
  | judged =>
    rcases judge_cases hp.symm with ⟨message, rfl⟩ | ⟨status, body, rfl⟩
    · exact explain_showsTrace ..
    · exact exists_withTrace _ _

/-! ### There are no others -/

section Journey

variable {peers : Peers} {past : Nat} {journal journal' : List Event} {stranded : Option Url}

/-- A route that ends with a redirect that is not followed ends with one that is refused. -/
theorem Route.exists_refused {left elapsed : Nat} {plan : Plan} {url : Url} {record : ProbeResult}
    {message : String} {outcome : Outcome Arrived}
    (h : Route peers past plan left url result journal legs stranded journal' outcome)
    (houtcome : outcome = .returned (record, elapsed, .error (.redirect message))) :
    ∃ front leg target refusal, front ++ [leg] = legs ∧ leg.LeadsTo target ∧
      Refuses left front.length target refusal ∧ message = refusal.message := by
  induction h with
  | lost | broken => cases houtcome
  | late | nowhere | failed | arrived => cases houtcome
  | @spent _ _ _ leg response target _ answer leads =>
    cases houtcome
    exact ⟨[], leg, target, .tooMany target maxHops, rfl, ⟨response, answer, leads⟩,
      by rw [Refuses, if_neg (Nat.not_lt_zero _)], rfl⟩
  | @refused _ _ _ _ leg response target refusal _ answer leads refusal_eq =>
    cases houtcome
    exact ⟨[], leg, target, refusal, rfl, ⟨response, answer, leads⟩,
      by rwa [Refuses, List.length_nil, if_pos (Nat.succ_pos _)], rfl⟩
  | @followed _ _ _ _ leg _ _ _ _ _ _ _ _ _ _ _ ih =>
    obtain ⟨front, last, target, refusal, hlegs, hleads, hrefuses, hmessage⟩ := ih houtcome
    refine ⟨leg :: front, last, target, refusal, by rw [← hlegs]; rfl, hleads, ?_, hmessage⟩
    simpa [Refuses] using hrefuses

/-- A route that ends otherwise has no redirect that is refused. -/
theorem Route.not_isRefused {plan : Plan} {url : Url} {record : ProbeResult} {elapsed : Nat}
    {arrival : Arrival} {outcome : Outcome Arrived}
    (h : Route peers past plan (maxHops - 1) url result journal legs stranded journal' outcome)
    (houtcome : outcome = .returned (record, elapsed, arrival))
    (harrival : ∀ message, arrival ≠ .error (.redirect message)) : ¬IsRefused legs := by
  rintro ⟨front, leg, back, target, refusal, hlegs, hleads, hrefuses⟩
  obtain ⟨-, record', elapsed', hreturned⟩ := h.refused_ends hlegs hleads hrefuses
  cases houtcome.symm.trans hreturned
  exact harrival _ rfl

/-- A URL that cannot be requested is no redirect. -/
theorem exists_transport_of_firstUrl {text : String} {failure : ProbeFailure}
    (h : firstUrl text = .error failure) : ∃ message, failure = .transport message false := by
  unfold firstUrl at h
  split at h
  next => exact ⟨_, (Except.error.inj h).symm⟩
  next =>
    dsimp only at h
    split at h
    next => cases h
    next => exact ⟨_, (Except.error.inj h).symm⟩

/-- **The ways in which a probe ends** whose client can be built. -/
theorem Journey.verdict {context : ScanContext} {address : IpAddress} {problem : Option Problem}
    (h : Journey peers past context domain address journal legs stranded journal'
      (.returned (result, problem)))
    (hagent : isHeaderText context.probes.userAgent = true) :
    Verdict domain context.options.expectedBody legs result problem := by
  generalize houtcome : Outcome.returned (result, problem) = outcome at h
  have herror (message : String) (elapsed : Nat) (result : ProbeResult) :
      (result.note elapsed s!"Experienced error: {message}").trace.getLast? =
        some (ProbeResult.stamp elapsed (errorLine message)) :=
    List.getLast?_concat
  cases h with
  | nameless agent =>
    rw [agent] at hagent
    cases hagent
  | unreadable _ first =>
    obtain ⟨message, rfl⟩ := exists_transport_of_firstUrl first
    obtain ⟨rfl, rfl⟩ := Prod.mk.inj (Outcome.returned.inj houtcome)
    refine .failed ?_ (fun _ hleg => absurd hleg List.not_mem_nil) (herror message 0 _)
    rintro ⟨front, leg, back, target, refusal, hlegs, -⟩
    exact absurd hlegs (by simp)
  | travelled _ _ route verdict =>
    cases verdict with
    | crashed => cases houtcome
    | @returned arrived =>
      obtain ⟨record, elapsed, arrival⟩ := arrived
      obtain ⟨rfl, rfl⟩ := Prod.mk.inj (Outcome.returned.inj houtcome)
      cases arrival with
      | ok response =>
        obtain ⟨leg, hleg, harrives⟩ := route.exists_arrives rfl
        exact .judged (route.not_isRefused rfl nofun) hleg harrives
      | error failure =>
        cases failure with
        | redirect message =>
          obtain ⟨front, leg, target, refusal, hlegs, hleads, hrefuses, rfl⟩ :=
            route.exists_refused rfl
          exact .refused ⟨front, leg, [], target, refusal, hlegs, hleads, hrefuses⟩
        | transport message timeout =>
          exact .failed (route.not_isRefused rfl nofun) (route.not_arrives rfl)
            (herror message elapsed record)

end Journey

/-! ### Every probe -/

/-- Where no body is expected, there is a finding on a response that could be read exactly if its
status is no success and does not tell that the file is absent. -/
theorem judge_ne_none_iff :
    judge domain "" result none ≠ none ↔
      ¬(200 ≤ result.status ∧ result.status ≤ 299) ∧ result.status ≠ 404 := by
  have hexpected : HttpStatus.isExpected result.status = true ↔
      200 ≤ result.status ∧ result.status ≤ 299 ∨ result.status = 404 := by
    simp [HttpStatus.isExpected]
  rw [judge, if_pos (by decide), ← not_or, ← hexpected]
  cases HttpStatus.isExpected result.status <;> simp

/-- **What a probe finds**, if its client can be built. It has at most one finding, which is named
for a redirect exactly if one is refused. The finding is an error, or it is a warning and named for
an unexpected response. Its detail ends with the trace of the record, in which there is a line for
each response. The last line is about the response that is judged or else, where no redirect is
refused, about the error. Where no body is expected, a response that could be read leads to a
finding exactly if its status is no success and not the one of an absent file. -/
theorem run_finds (context : ScanContext) (domain : String) (address : IpAddress) (peers : Peers)
    {past : Nat} {s : Session} (hs : s.Alone past)
    (hagent : isHeaderText context.probes.userAgent = true) :
    (∃ fuel outcome s', (run context domain address).run peers fuel s = some (outcome, s')) ∧
    ∀ outcome s', (run context domain address).Ends peers s outcome s' →
      ∃ legs : List Leg,
        Journal.requests (s'.journal.drop s.journal.length) =
          legs.map (Leg.exchange (planOf context domain address)) ∧
        (∀ leg ∈ legs, leg.Runs peers past (planOf context domain address)) ∧
        ∀ result problem, outcome = .returned (result, problem) →
          ((∃ p ∈ problem, p.name = "BadRedirect") ↔ IsRefused legs) ∧
          (∀ p ∈ problem, ShowsTrace result.trace p ∧
            (p.severity = .error ∧ p.name ≠ "UnexpectedHttpResponse" ∨
              p.severity = .warning ∧ p.name = "UnexpectedHttpResponse")) ∧
          (∀ leg ∈ legs, ∀ response, leg.answer = .returned (.ok response) →
            ∃ elapsed, ProbeResult.stamp elapsed (responseLine response) ∈ result.trace) ∧
          (∀ leg ∈ legs, ∀ response, leg.ArrivesAt response → ∃ elapsed,
            result.trace.getLast? = some (ProbeResult.stamp elapsed (responseLine response))) ∧
          (¬IsRefused legs → (∀ leg ∈ legs, ∀ response, ¬leg.ArrivesAt response) →
            ∃ message timeout elapsed,
              problem = some (explain domain address result.trace (.transport message timeout)) ∧
              result.trace.getLast? = some (ProbeResult.stamp elapsed (errorLine message))) ∧
          (context.options.expectedBody = "" → ∀ leg ∈ legs, ∀ response content,
            leg.ArrivesAt response → readBody "" response = (content, none) →
              (problem ≠ none ↔
                ¬(200 ≤ response.status ∧ response.status ≤ 299) ∧ response.status ≠ 404)) := by
  refine ⟨Job.exists_run_alone peers _ hs, fun outcome s' h => ?_⟩
  obtain ⟨legs, stranded, hjourney⟩ := run_journey hs h
  refine ⟨legs, hjourney.requests_eq, fun leg hleg => (hjourney.runs leg hleg).1, ?_⟩
  rintro result problem rfl
  have hverdict := hjourney.verdict hagent
  have haddress : result.address = address :=
    run_address context domain address _ (h.gives hs.orderly (World.covers_seen _ _))
  obtain ⟨final, -, hrecords⟩ := hjourney.records
  have hconcludes {leg : Leg} {response : Response} (hleg : leg ∈ legs)
      (harrives : leg.ArrivesAt response) : ∃ record elapsed, (result, problem) =
        conclude domain context.options.expectedBody record elapsed response := by
    obtain ⟨record, elapsed, hreturned⟩ := hjourney.concludes hleg harrives.1 harrives.2
    exact ⟨record, elapsed, Outcome.returned.inj hreturned⟩
  refine ⟨hverdict.name_eq_badRedirect_iff, ?_, ?_, ?_, ?_, ?_⟩
  · rintro p rfl
    exact ⟨hverdict.showsTrace, hverdict.severity⟩
  · intro leg hleg response hanswer
    have hline : responseLine response ∈ result.texts.filter isResponseLine := by
      rw [hrecords.lines]
      exact List.mem_map_of_mem
        (List.mem_filterMap.mpr ⟨leg, hleg, Leg.response?_eq_some hanswer⟩)
    exact hrecords.stamped.exists_mem_trace (List.mem_filter.mp hline).1
  · intro leg hleg response harrives
    obtain ⟨record, elapsed, hconclude⟩ := hconcludes hleg harrives
    have hresult : result = _ := congrArg Prod.fst hconclude
    rw [hresult]
    exact ⟨elapsed, List.getLast?_concat⟩
  · intro hfollowed hnone
    generalize hproblem : problem = found at hverdict
    cases hverdict with
    | refused hrefused => exact absurd hrefused hfollowed
    | failed _ _ last => exact ⟨_, _, _, by rw [haddress], last⟩
    | judged _ mem arrives => exact absurd arrives (hnone _ mem _)
  · intro hexpected leg hleg response content harrives hread
    obtain ⟨record, elapsed, hconclude⟩ := hconcludes hleg harrives
    have hproblem : problem = _ := congrArg Prod.snd hconclude
    rw [hproblem, hexpected, conclude_snd, hread]
    exact judge_ne_none_iff

/-- A server that fails is warned about, and the finding shows that it failed. -/
theorem run_finds_failing_server :
    let failure : Response := ⟨500, [], [], none⟩
    let peers : Peers :=
      { lookup := fun _ _ => .now (.ok [])
        answer := fun _ question => .now (match question with
          | .direct .. => .ok ⟨.noError, []⟩
          | .exchange .. => .ok failure
          | .addresses _ => []
          | .draw _ => 0) }
    ∃ result p s', (run ⟨.standard, .standard⟩ "example.org" (.v4 0x5DB8D822)).Ends peers
        Session.fresh.forget (.returned (result, some p)) s' ∧
      ShowsTrace result.trace p ∧
      (∃ elapsed, ProbeResult.stamp elapsed (responseLine failure) ∈ result.trace) ∧
      p.severity ≠ .fatal := by
  intro failure peers
  have hone : ((run ⟨.standard, .standard⟩ "example.org" (.v4 0x5DB8D822)).run peers 8
      Session.fresh.forget).map (fun ended =>
        ((Journal.requests ended.2.journal).length,
          ended.1.value?.map fun probed => probed.2.isSome)) = some (1, some true) := by
    decide +kernel
  obtain ⟨⟨outcome, s'⟩, hrun, hone⟩ := Option.map_eq_some_iff.mp hone
  obtain ⟨hone, hvalue⟩ := Prod.mk.inj hone
  obtain ⟨⟨result, problem⟩, houtcome, hsome⟩ := Option.map_eq_some_iff.mp hvalue
  obtain ⟨p, rfl⟩ := Option.isSome_iff_exists.mp hsome
  cases outcome with
  | crashed => cases houtcome
  | returned probed =>
    obtain rfl := Option.some.inj houtcome
    have h := Job.ends_of_run hrun
    obtain ⟨legs, hrequests, hruns, hfinds⟩ :=
      (run_finds ⟨.standard, .standard⟩ "example.org" (.v4 0x5DB8D822) peers
        Session.fresh.alone_forget (by decide)).2 _ s' h
    obtain ⟨-, hfinding, hlines, -⟩ := hfinds result (some p) rfl
    obtain ⟨hshows, hseverity⟩ := hfinding p rfl
    obtain ⟨leg, rfl⟩ := exists_eq_singleton hrequests hone
    refine ⟨result, p, s', h, hshows,
      hlines leg List.mem_cons_self failure (hruns leg List.mem_cons_self).answered.symm, ?_⟩
    rcases hseverity with ⟨hseverity, -⟩ | ⟨hseverity, -⟩ <;> rw [hseverity] <;> decide

end Probe

end Rehearsal
