import Rehearsal.Proofs.Probe.Explanation

/-!
# What the record of a probe tells

A probe writes one record from three places: where it settles on a place, where it is led on, and at
its end. The comparison over the two address families relies on it: on the two statuses, on their
being zero where nothing came back, and on the number of redirects. So it has to be right on every
way through a probe, also where a connection fails after some redirects.

What the record tells is what the legs of the probe saw. Each way to go on keeps that with one more
response, and the rest follows by induction on the route.

A status of zero is no status that a server can send, but it is one that the record can hold. What
relies on it says so; nothing else does.

## Main definitions

* `Probe.Leg.response?`, `Probe.Leg.redirect?`: the response of a leg, and whether it leads on
* `Probe.isResponseLine`: the lines of a trace about responses
* `Probe.Tells`: a record tells of some responses
* `Probe.IsLedOn`: a record of a probe that was led on by them, and is not at its end
* `Probe.Records`: the record at the end

## Main results

* `Probe.Route.isLedOn`: the record along a route
* `Probe.run_records`: what is true of every probe
-/

namespace Rehearsal

namespace Probe

/-! ### The responses of legs -/

namespace Leg

/-- The response, if one came. -/
def response? (leg : Leg) : Option Response :=
  match leg.answer with
  | .returned (.ok response) => some response
  | _ => none

/-- The response, if it leads on. These are the ones that a redirect policy decides about. -/
def redirect? (leg : Leg) : Option Response :=
  leg.response?.filter fun response => (response.redirectTarget? leg.url).isSome

theorem response?_eq_some {leg : Leg} {response : Response}
    (h : leg.answer = .returned (.ok response)) : leg.response? = some response := by
  rw [response?, h]

theorem redirect?_eq_some {leg : Leg} {response : Response} {target : Url}
    (h : leg.answer = .returned (.ok response))
    (hleads : response.redirectTarget? leg.url = some target) : leg.redirect? = some response := by
  rw [redirect?, response?_eq_some h, Option.filter_some, hleads]
  rfl

theorem redirect?_eq_none {leg : Leg} {response : Response} (h : leg.ArrivesAt response) :
    leg.redirect? = none := by
  rw [redirect?, response?_eq_some h.1, Option.filter_some, h.2]
  rfl

end Leg

/-! ### The lines about responses -/

/-- Does a line of a trace tell of a response? -/
def isResponseLine (text : String) : Bool :=
  "Server response: HTTP ".toList.isPrefixOf text.toList

theorem isResponseLine_responseLine (response : Response) :
    isResponseLine (responseLine response) = true := by
  unfold isResponseLine responseLine
  rw [String.toList_append]
  rfl

theorem isResponseLine_errorLine (message : String) :
    isResponseLine (errorLine message) = false := by
  unfold isResponseLine errorLine
  rw [String.toList_append]
  rfl

/-! ### Records that tell of responses -/

/-- A record, whose first line is given, tells of some responses. -/
structure Tells (opening : String) (responses : List Response) (result : ProbeResult) : Prop where
  /-- The status is that of the last response. -/
  status : result.status = responses.getLast?.elim 0 Response.status
  /-- The first status is that of the first response that has one. -/
  firstStatus : result.firstStatus =
    (responses.find? fun response => response.status ≠ 0).elim 0 Response.status
  /-- The trace begins with the first line. -/
  opens : [opening] <+: result.trace
  /-- Each line of the trace begins with a time. -/
  stamped : result.IsStamped
  /-- There is one line for each response, in order. -/
  lines : result.texts.filter isResponseLine = responses.map responseLine

section Tells

variable {opening : String} {responses : List Response} {result : ProbeResult}

/-- A note that begins otherwise tells of no response. -/
theorem Tells.note (h : Tells opening responses result) {line : String}
    (hline : isResponseLine line = false) (elapsed : Nat) :
    Tells opening responses (result.note elapsed line) where
  status := h.status
  firstStatus := h.firstStatus
  opens := h.opens.trans (List.prefix_append _ _)
  stamped := h.stamped.note elapsed line
  lines := by
    rw [ProbeResult.texts_note, List.filter_append, List.filter_singleton, hline, h.lines]
    exact List.append_nil _

/-- A response that is noted is told of. -/
theorem Tells.observe (h : Tells opening responses result) (elapsed : Nat) (response : Response)
    (server : String) :
    Tells opening (responses ++ [response]) (result.observe elapsed response.status server) where
  status := by
    rw [List.getLast?_append]
    rfl
  firstStatus := by
    rw [List.find?_append]
    change (if result.firstStatus = 0 then response.status else result.firstStatus) = _
    rw [h.firstStatus]
    cases hfirst : responses.find? fun response => response.status ≠ 0 with
    | none =>
      rw [Option.none_or, List.find?_singleton, Option.elim_none, if_pos rfl]
      split
      next => rfl
      next hzero => simpa using hzero
    | some first =>
      have hsome : first.status ≠ 0 := by simpa using List.find?_some hfirst
      rw [Option.some_or, Option.elim_some, if_neg hsome]
  opens := h.opens.trans (List.prefix_append _ _)
  stamped := h.stamped.observe elapsed response.status server
  lines := by
    have htexts : (result.observe elapsed response.status server).texts =
        result.texts ++ [responseLine response] := ProbeResult.texts_observe ..
    rw [htexts, List.filter_append, h.lines, List.filter_singleton, isResponseLine_responseLine,
      List.map_append]
    rfl

theorem Tells.keep (h : Tells opening responses result) (content : Bytes) :
    Tells opening responses (result.keep content) :=
  ⟨h.status, h.firstStatus, h.opens, h.stamped, h.lines⟩

/-- Where every response has a status, none is told of exactly if the status is zero. -/
theorem Tells.status_eq_zero_iff (h : Tells opening responses result)
    (hstatus : ∀ response ∈ responses, response.status ≠ 0) :
    result.status = 0 ↔ responses = [] := by
  rw [h.status]
  cases hlast : responses.getLast? with
  | none => exact iff_of_true rfl (List.getLast?_eq_none_iff.mp hlast)
  | some last =>
    refine iff_of_false (hstatus last (List.mem_of_getLast? hlast)) ?_
    rintro rfl
    cases hlast

/-- Where every response has a status, the first one is that of the first response. -/
theorem Tells.firstStatus_eq (h : Tells opening responses result)
    (hstatus : ∀ response ∈ responses, response.status ≠ 0) :
    result.firstStatus = responses.head?.elim 0 Response.status := by
  rw [h.firstStatus]
  cases responses with
  | nil => rfl
  | cons first rest =>
    rw [List.find?_cons_of_pos (by simpa using hstatus first List.mem_cons_self)]
    rfl

theorem Tells.firstStatus_eq_zero_iff (h : Tells opening responses result)
    (hstatus : ∀ response ∈ responses, response.status ≠ 0) :
    result.firstStatus = 0 ↔ responses = [] := by
  rw [h.firstStatus_eq hstatus]
  cases responses with
  | nil => exact iff_of_true rfl rfl
  | cons first rest => exact iff_of_false (hstatus first List.mem_cons_self) (List.cons_ne_nil _ _)

end Tells

/-! ### Along a route -/

/-- The record of a probe that was led on by some responses. -/
structure IsLedOn (opening : String) (responses : List Response) (result : ProbeResult) : Prop
    extends Tells opening responses result where
  /-- No server is named before the end. -/
  server : result.server = ""
  /-- Every redirect is counted. -/
  redirects : result.redirects = responses.length

section Route

variable {opening : String} {led : List Response} {result : ProbeResult}

theorem IsLedOn.note (h : IsLedOn opening led result) {line : String}
    (hline : isResponseLine line = false) (elapsed : Nat) :
    IsLedOn opening led (result.note elapsed line) :=
  ⟨h.toTells.note hline elapsed, h.server, h.redirects⟩

theorem isResponseLine_dialing (address : IpAddress) :
    isResponseLine s!"Dialing {address}" = false := by
  rw [isResponseLine, String.toList_append]
  rfl

theorem IsLedOn.noted (h : IsLedOn opening led result) (elapsed : Nat) (leg : Leg) :
    IsLedOn opening led (leg.noted elapsed result) := by
  unfold Leg.noted
  split
  next => exact h.note (isResponseLine_dialing leg.address) elapsed
  next => exact h

theorem IsLedOn.counted (h : IsLedOn opening led result) (elapsed : Nat) (response : Response) :
    IsLedOn opening (led ++ [response]) (counted elapsed response result) where
  toTells :=
    have htold := h.toTells.observe elapsed response ""
    ⟨htold.status, htold.firstStatus, htold.opens, htold.stamped, htold.lines⟩
  server := rfl
  redirects := by
    rw [List.length_append]
    exact congrArg (· + 1) h.redirects

theorem IsLedOn.received (h : IsLedOn opening led result) (elapsed : Nat) (response : Response)
    (target : Url) :
    IsLedOn opening (led ++ [response]) (received elapsed response target result) :=
  (h.counted elapsed response).note (by rw [isResponseLine, String.toList_append]; rfl) elapsed

/-- **The record along a route** tells of the responses that lead on. One more is left to tell of if
the route ends with it. -/
theorem Route.isLedOn {peers : Peers} {past left elapsed : Nat} {plan : Plan} {url : Url}
    {journal journal' : List Event} {legs : List Leg} {stranded : Option Url}
    {outcome : Outcome Arrived} {record : ProbeResult} {arrival : Arrival}
    (h : Route peers past plan left url result journal legs stranded journal' outcome)
    (houtcome : outcome = .returned (record, elapsed, arrival))
    (hled : IsLedOn opening led result) :
    IsLedOn opening (led ++ legs.filterMap Leg.redirect?) record ∧
      legs.filterMap Leg.response? =
        legs.filterMap Leg.redirect? ++ arrival.toOption.toList := by
  induction h generalizing led with
  | lost | broken => cases houtcome
  | late | nowhere =>
    cases houtcome
    exact ⟨by simpa using hled, rfl⟩
  | @failed _ _ _ _ leg _ _ answer =>
    cases houtcome
    have hnone : leg.response? = none := by rw [Leg.response?, answer]
    have hno : leg.redirect? = none := by rw [Leg.redirect?, hnone]; rfl
    exact ⟨by simpa [hno] using hled.noted _ leg, by simp [hno, hnone, Except.toOption]⟩
  | @arrived _ _ _ _ leg response _ answer last =>
    cases houtcome
    have hno : leg.redirect? = none := Leg.redirect?_eq_none ⟨answer, last⟩
    have hsome := Leg.response?_eq_some answer
    exact ⟨by simpa [hno] using hled.noted _ leg, by simp [hno, hsome, Except.toOption]⟩
  | @spent _ _ _ leg response _ _ answer leads =>
    cases houtcome
    have hredirect := Leg.redirect?_eq_some answer leads
    have hsome := Leg.response?_eq_some answer
    exact ⟨by simpa [hredirect] using (hled.noted _ leg).counted _ response,
      by simp [hredirect, hsome, Except.toOption]⟩
  | @refused _ _ _ _ leg response target _ _ answer leads =>
    cases houtcome
    have hredirect := Leg.redirect?_eq_some answer leads
    have hsome := Leg.response?_eq_some answer
    exact ⟨by simpa [hredirect] using (hled.noted _ leg).received _ response target,
      by simp [hredirect, hsome, Except.toOption]⟩
  | @followed _ _ _ _ leg _ response target _ _ _ _ answer leads _ _ ih =>
    obtain ⟨hrecord, hresponses⟩ := ih houtcome ((hled.noted _ leg).received _ response target)
    rw [List.filterMap_cons_some (Leg.redirect?_eq_some answer leads),
      List.filterMap_cons_some (Leg.response?_eq_some answer), hresponses]
    exact ⟨by simpa using hrecord, rfl⟩

end Route

/-! ### The whole probe -/

/-- The first line of the trace of a probe. -/
def openingLine (context : ScanContext) (domain : String) (address : IpAddress) : String :=
  let text := challengeUrl domain context.options.effectivePath
  ProbeResult.stamp 0 s!"Making a request to {text} (using initial IP {address})"

/-- What the record at the end tells of the legs of a probe, and of the response that it ends with,
if there is one. -/
structure Records (opening : String) (legs : List Leg) (final : Option Response)
    (result : ProbeResult) : Prop
    extends Tells opening (legs.filterMap Leg.response?) result where
  /-- The redirects are the responses that lead on, refused or not. -/
  redirects : result.redirects = (legs.filterMap Leg.redirect?).length
  /-- All responses are these and the one at the end. -/
  responses : legs.filterMap Leg.response? = legs.filterMap Leg.redirect? ++ final.toList
  /-- The server is the one that the response at the end names. -/
  server : result.server = (final.bind fun response => response.textHeader? "server").getD ""

section Journey

variable {peers : Peers} {past : Nat} {context : ScanContext} {domain : String}
  {address : IpAddress} {journal journal' : List Event} {legs : List Leg} {stranded : Option Url}
  {opening : String} {result : ProbeResult}

theorem isLedOn_announced (context : ScanContext) (domain : String) (address : IpAddress) :
    IsLedOn (openingLine context domain address) [] (announced context domain address) where
  status := rfl
  firstStatus := rfl
  opens := List.prefix_rfl
  stamped := (ProbeResult.isStamped_fresh address).note 0 _
  lines := by
    rw [announced, ProbeResult.texts_note, List.filter_append, List.filter_singleton]
    simp only [isResponseLine, String.toList_append]
    rfl
  server := rfl
  redirects := rfl

/-- The record of a probe that comes to no response at the end. -/
theorem IsLedOn.records (h : IsLedOn opening (legs.filterMap Leg.redirect?) result)
    (hresponses : legs.filterMap Leg.response? = legs.filterMap Leg.redirect?) :
    Records opening legs none result where
  toTells := hresponses ▸ h.toTells
  redirects := h.redirects
  responses := hresponses.trans (List.append_nil _).symm
  server := h.server

theorem IsLedOn.giveUp {led : List Response} (h : IsLedOn opening led result) (domain : String)
    (elapsed : Nat) (failure : ProbeFailure) :
    IsLedOn opening led (giveUp domain result elapsed failure).1 := by
  cases failure with
  | redirect => exact h
  | transport message => exact h.note (isResponseLine_errorLine message) elapsed

/-- The record of a probe that ends with a response. -/
theorem IsLedOn.records_conclude (h : IsLedOn opening (legs.filterMap Leg.redirect?) result)
    {response : Response} (domain expected : String) (elapsed : Nat)
    (hresponses : legs.filterMap Leg.response? = legs.filterMap Leg.redirect? ++ [response]) :
    Records opening legs (some response) (conclude domain expected result elapsed response).1 where
  toTells := hresponses ▸ (h.toTells.observe elapsed response _).keep _
  redirects := h.redirects
  responses := hresponses
  server := rfl

/-- A probe without a response at the end has no leg that arrives at one. -/
theorem Route.not_arrives {left elapsed : Nat} {plan : Plan} {url : Url}
    {outcome : Outcome Arrived} {record : ProbeResult} {failure : ProbeFailure}
    (h : Route peers past plan left url result journal legs stranded journal' outcome)
    (houtcome : outcome = .returned (record, elapsed, .error failure)) :
    ∀ leg ∈ legs, ∀ response, ¬leg.ArrivesAt response := by
  rintro leg hleg response ⟨hanswer, hlast⟩
  obtain ⟨record', elapsed', hreturned⟩ := h.arrived_ends hleg hanswer hlast
  cases houtcome.symm.trans hreturned

/-- **The record of a probe** tells of the responses of its legs. -/
theorem Journey.records {problem : Option Problem}
    (h : Journey peers past context domain address journal legs stranded journal'
      (.returned (result, problem))) :
    ∃ final : Option Response,
      (∀ response, final = some response ↔ ∃ leg ∈ legs, leg.ArrivesAt response) ∧
      Records (openingLine context domain address) legs final result := by
  generalize houtcome : Outcome.returned (result, problem) = outcome at h
  have hnobody {legs : List Leg} (h : ∀ leg ∈ legs, ∀ response, ¬leg.ArrivesAt response)
      (response : Response) :
      (none : Option Response) = some response ↔ ∃ leg ∈ legs, leg.ArrivesAt response :=
    ⟨nofun, fun ⟨leg, hleg, harrives⟩ => absurd harrives (h leg hleg response)⟩
  have hannounced := isLedOn_announced context domain address
  cases h with
  | nameless =>
    obtain ⟨rfl, -⟩ := Prod.mk.inj (Outcome.returned.inj houtcome)
    exact ⟨none, hnobody (fun _ hleg => absurd hleg List.not_mem_nil),
      IsLedOn.records hannounced rfl⟩
  | @unreadable failure =>
    obtain ⟨rfl, -⟩ := Prod.mk.inj (Outcome.returned.inj houtcome)
    exact ⟨none, hnobody (fun _ hleg => absurd hleg List.not_mem_nil),
      IsLedOn.records (hannounced.giveUp domain 0 failure) rfl⟩
  | travelled _ _ route verdict =>
    cases verdict with
    | crashed => cases houtcome
    | @returned arrived =>
      obtain ⟨record, elapsed, arrival⟩ := arrived
      obtain ⟨hled, hresponses⟩ := route.isLedOn rfl hannounced
      obtain ⟨rfl, -⟩ := Prod.mk.inj (Outcome.returned.inj houtcome)
      cases arrival with
      | error failure =>
        exact ⟨none, hnobody (route.not_arrives rfl),
          (hled.giveUp domain elapsed failure).records (hresponses.trans (List.append_nil _))⟩
      | ok response =>
        refine ⟨some response, fun response' => ⟨?_, ?_⟩, hled.records_conclude _ _ _ hresponses⟩
        · rintro ⟨⟩
          exact route.exists_arrives rfl
        · rintro ⟨leg, hleg, hanswer, hlast⟩
          obtain ⟨record', elapsed', hreturned⟩ := route.arrived_ends hleg hanswer hlast
          cases hreturned
          rfl

end Journey

/-- **What the record of a probe tells.** Its status is that of the last response and its first one
that of the first response, and they are zero only where none came. The redirects are those that the
probe was asked to follow, also the one that was refused, and every other response is the one at the
end, whose server is named. The trace begins with the line about the first URL and has one line for
each response, in order. -/
theorem run_records (context : ScanContext) (domain : String) (address : IpAddress) (peers : Peers)
    {past : Nat} {s : Session} (hs : s.Alone past) :
    (∃ fuel outcome s', (run context domain address).run peers fuel s = some (outcome, s')) ∧
    ∀ outcome s', (run context domain address).Ends peers s outcome s' →
      ∃ legs : List Leg,
        Journal.requests (s'.journal.drop s.journal.length) =
          legs.map (Leg.exchange (planOf context domain address)) ∧
        (∀ leg ∈ legs, leg.Runs peers past (planOf context domain address)) ∧
        ∀ result problem, outcome = .returned (result, problem) →
          let responses := legs.filterMap Leg.response?
          ∃ final : Option Response,
            (∀ response, final = some response ↔ ∃ leg ∈ legs, leg.ArrivesAt response) ∧
            Records (openingLine context domain address) legs final result ∧
            responses.length = result.redirects + (if final.isSome then 1 else 0) ∧
            ((∀ response ∈ responses, response.status ≠ 0) →
              result.firstStatus = responses.head?.elim 0 Response.status ∧
              (result.firstStatus = 0 ↔ responses = []) ∧
              (result.status = 0 ↔ responses = []) ∧
              (result.isSilent = true ↔ responses = [])) := by
  refine ⟨Job.exists_run_alone peers _ hs, fun outcome s' h => ?_⟩
  obtain ⟨legs, stranded, hjourney⟩ := run_journey hs h
  refine ⟨legs, hjourney.requests_eq, fun leg hleg => (hjourney.runs leg hleg).1, ?_⟩
  rintro result problem rfl
  obtain ⟨final, hfinal, hrecords⟩ := hjourney.records
  refine ⟨final, hfinal, hrecords, ?_, fun hstatus => ?_⟩
  · rw [hrecords.responses, List.length_append, hrecords.redirects]
    cases final <;> rfl
  · have hzero := hrecords.status_eq_zero_iff hstatus
    exact ⟨hrecords.firstStatus_eq hstatus, hrecords.firstStatus_eq_zero_iff hstatus, hzero,
      (beq_iff_eq (a := result.status)).trans hzero⟩

/-- A redirect that is refused is counted, and its server is not named. -/
theorem run_records_refused :
    let redirect : Response :=
      ⟨302, [("Location", Text.encode "http://example.org:8080/"), ("Server", Text.encode "nginx")],
        [], none⟩
    let peers : Peers :=
      { lookup := fun _ _ => .now (.ok [])
        answer := fun _ question => .now (match question with
          | .direct .. => .ok ⟨.noError, []⟩
          | .exchange .. => .ok redirect
          | .addresses _ => []
          | .draw _ => 0) }
    ∃ (result : ProbeResult) (problem : Option Problem) (s' : Session),
      (run ⟨.standard, .standard⟩ "example.org" (.v4 0x5DB8D822)).Ends peers
        Session.fresh.forget (.returned (result, problem)) s' ∧
      result.redirects = 1 ∧ result.server = "" ∧ result.status = 302 ∧ result.firstStatus = 302 ∧
      result.texts.filter isResponseLine = [responseLine redirect] := by
  intro redirect peers
  have hone : ((run ⟨.standard, .standard⟩ "example.org" (.v4 0x5DB8D822)).run peers 8
      Session.fresh.forget).map (fun ended =>
        ((Journal.requests ended.2.journal).length,
          ended.1.value?.map fun probed => probed.1.redirects)) = some (1, some 1) := by
    decide +kernel
  obtain ⟨⟨outcome, s'⟩, hrun, hone⟩ := Option.map_eq_some_iff.mp hone
  obtain ⟨hone, hvalue⟩ := Prod.mk.inj hone
  obtain ⟨⟨result, problem⟩, houtcome, hredirects⟩ := Option.map_eq_some_iff.mp hvalue
  cases outcome with
  | crashed => cases houtcome
  | returned probed =>
    obtain rfl := Option.some.inj houtcome
    have h := Job.ends_of_run hrun
    obtain ⟨legs, hrequests, hruns, hrecords⟩ :=
      (run_records ⟨.standard, .standard⟩ "example.org" (.v4 0x5DB8D822) peers
        Session.fresh.alone_forget).2 _ s' h
    obtain ⟨final, -, hrecords, hcount, hfirst⟩ := hrecords result problem rfl
    obtain ⟨leg, rfl⟩ := exists_eq_singleton hrequests hone
    have hresponses : [leg].filterMap Leg.response? = [redirect] :=
      List.filterMap_cons_some
        (Leg.response?_eq_some (hruns leg List.mem_cons_self).answered.symm)
    rw [hresponses] at hcount hfirst
    have hnone : final = none := by
      cases final with
      | none => rfl
      | some _ => simp [show result.redirects = 1 from hredirects] at hcount
    refine ⟨result, problem, s', h, hredirects, ?_, ?_, ?_, ?_⟩
    · rw [hrecords.server, hnone]
      rfl
    · rw [hrecords.status, hresponses]
      rfl
    · exact (hfirst (by simp [redirect])).1
    · rw [hrecords.lines, hresponses]
      rfl

end Probe

end Rehearsal
