import Rehearsal.Proofs.Probe.Record

/-!
# What a probe hears beside others

The probes of a domain run side by side. They share what is looked up, and the answers of one come
between the questions of another, so none of them has the journal to itself. What a record tells
does not depend on that: whatever else happens, it tells of the responses that came to this one
probe, all of which were sent by somebody.

## Main definitions

* `World.Sends`: a request may be answered with a response
* `Probe.Hears`: a record tells of the responses that came to a probe

## Main results

* `Probe.visit_isLedOn`: the record from one URL on
* `Probe.run_gives`: how a probe ends
* `Probe.run_hears`: the record at the end
-/

namespace Rehearsal

/-- A request may be answered with the response. -/
def World.Sends (w : World) (response : Response) : Prop :=
  ∃ connection request, w.answers (.exchange connection request) (.returned (.ok response))

namespace Probe

variable {w : World} {context : ScanContext} {domain : String} {address : IpAddress}

/-- The record of a probe of an address tells of the responses that came to it, the last of which
may be the one that it ends with. -/
structure Hears (w : World) (context : ScanContext) (domain : String) (address : IpAddress)
    (responses : List Response) (final : Option Response) (result : ProbeResult) : Prop
    extends Tells (openingLine context domain address) responses result where
  /-- The record names the address. -/
  address : result.address = address
  /-- Each response was sent by somebody. -/
  sent : ∀ response ∈ responses, w.Sends response
  /-- The response at the end is the last one. -/
  last : final.toList <:+ responses
  /-- The server is the one that the response at the end names. -/
  server : result.server = (final.bind fun response => response.textHeader? "server").getD ""

/-! ### From one URL on -/

/-- **The record from one URL on** tells of responses that were sent. One more was sent if the probe
comes to it. -/
theorem visit_isLedOn {opening : String} (plan : Plan) (began left : Nat) (url : Url)
    {led : List Response} {result : ProbeResult} (hled : IsLedOn opening led result)
    (hsent : ∀ response ∈ led, w.Sends response) :
    (visit plan began left url result).Yields w fun arrived =>
      ∃ more, IsLedOn opening more arrived.1 ∧
        ∀ response ∈ more ++ arrived.2.2.toOption.toList, w.Sends response := by
  have hnothing {e : ProbeFailure} {led : List Response}
      (h : ∀ response ∈ led, w.Sends response) :
      ∀ response ∈ led ++ (Except.error e : Arrival).toOption.toList, w.Sends response := by
    simpa [Except.toOption] using h
  induction left using Nat.strong_induction_on generalizing url led result with
  | _ left ih =>
    rw [visit_eq]
    refine Job.Yields.bind (P := fun _ => True) (fun _ _ => trivial) fun place _ =>
      yields_since_bind fun elapsed => ?_
    split
    next => exact Job.yields_done ⟨led, hled, hnothing hsent⟩
    next =>
      cases place with
      | error e => exact Job.yields_done ⟨led, hled, hnothing hsent⟩
      | ok found =>
        obtain ⟨place, lookedFor⟩ := found
        have hnoted : IsLedOn opening led
            (if lookedFor = true then result.note elapsed s!"Dialing {place}" else result) := by
          split
          · exact hled.note (isResponseLine_dialing place) elapsed
          · exact hled
        refine Job.yields_answer_bind fun answer hanswer => yields_since_bind fun elapsed => ?_
        have hmore {response : Response} (hresponse : answer = .ok response) :
            ∀ r ∈ led ++ [response], w.Sends r :=
          List.forall_mem_append.mpr
            ⟨hsent, List.forall_mem_singleton.mpr ⟨_, _, hresponse ▸ hanswer⟩⟩
        refine receive_cases (P := fun job => job.Yields w _) answer ?failed ?arrived ?spent
          ?refused ?followed
        case failed => exact fun _ _ => Job.yields_done ⟨led, hnoted, hnothing hsent⟩
        case arrived =>
          intro response hresponse _
          exact Job.yields_done ⟨led, hnoted, hmore hresponse⟩
        case spent =>
          intro response target hresponse _ _
          exact Job.yields_done ⟨_, hnoted.counted _ response, hnothing (hmore hresponse)⟩
        case refused =>
          intro response target more refusal hresponse _ _ _
          exact Job.yields_done ⟨_, hnoted.received _ response target, hnothing (hmore hresponse)⟩
        case followed =>
          rintro response target more hresponse - rfl -
          exact ih more (Nat.lt_succ_self more) _ (hnoted.received _ response target)
            (hmore hresponse)

/-! ### The whole probe -/

/-- **How a probe ends**: nobody could send a request, there was no URL, or else the first URL was
requested. -/
theorem run_gives {probed : ProbeResult × Option Problem}
    (h : (run context domain address).Gives w (.returned probed)) :
    (∃ message, probed =
      (announced context domain address, some (.internal message .error))) ∨
    (∃ failure, probed = giveUp domain (announced context domain address) 0 failure) ∨
    ∃ plan began left url arrived,
      (visit plan began left url (announced context domain address)).Gives w (.returned arrived) ∧
      probed = finish domain context.options.expectedBody arrived := by
  cases hagent : isHeaderText context.probes.userAgent with
  | false =>
    rw [run, hagent] at h
    exact .inl ⟨_, Outcome.returned.inj h.of_done⟩
  | true =>
    cases hfirst : firstUrl (challengeUrl domain context.options.effectivePath) with
    | error failure =>
      rw [run, hagent, hfirst] at h
      exact .inr (.inl ⟨failure, Outcome.returned.inj h.of_done⟩)
    | ok urls =>
      rw [run_eq address hagent hfirst] at h
      obtain ⟨began, h⟩ := h.of_time_bind
      rcases h.of_bind with ⟨_, -, heq⟩ | ⟨arrived, hvisit, hlast⟩
      · cases heq
      · exact .inr (.inr ⟨_, began, _, _, arrived, hvisit, Outcome.returned.inj hlast.of_done⟩)

/-- The record of a probe that comes to no response at the end. -/
theorem IsLedOn.hears {responses : List Response} {result : ProbeResult}
    (h : IsLedOn (openingLine context domain address) responses result)
    (haddress : result.address = address) (hsent : ∀ response ∈ responses, w.Sends response) :
    Hears w context domain address responses none result :=
  ⟨h.toTells, haddress, hsent, List.nil_suffix, h.server⟩

/-- **The record at the end** tells of the responses that came to the probe. -/
theorem run_hears (context : ScanContext) (domain : String) (address : IpAddress) :
    (run context domain address).Yields w fun probed =>
      ∃ responses final, Hears w context domain address responses final probed.1 := by
  intro probed hgive
  have haddress := run_address context domain address probed hgive
  have hannounced := isLedOn_announced context domain address
  have hnobody : ∀ response ∈ ([] : List Response), w.Sends response :=
    fun _ hmem => absurd hmem List.not_mem_nil
  obtain ⟨message, rfl⟩ | ⟨failure, rfl⟩ |
    ⟨plan, began, left, url, ⟨record, elapsed, arrival⟩, hvisit, rfl⟩ := run_gives hgive
  · exact ⟨[], none, hannounced.hears haddress hnobody⟩
  · exact ⟨[], none, (hannounced.giveUp domain 0 failure).hears haddress hnobody⟩
  · obtain ⟨more, hled, hsent⟩ := visit_isLedOn _ _ _ _ hannounced hnobody _ hvisit
    cases arrival with
    | error failure =>
      refine ⟨more, none, (hled.giveUp domain elapsed failure).hears haddress ?_⟩
      simpa [Except.toOption] using hsent
    | ok response =>
      exact ⟨more ++ [response], some response, (hled.toTells.observe elapsed response _).keep _,
        haddress, hsent, List.suffix_append _ _, rfl⟩

end Probe

end Rehearsal
