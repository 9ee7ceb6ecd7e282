import Rehearsal.Proofs.Probe.Dialing

/-!
# The requests of a probe

A probe requests one URL and then those that it is redirected to. Wherever redirects lead, a URL
whose host is the domain under test, in any spelling, is requested at the address that the domain is
pinned to; for any other host an address is looked for.

## Main definitions

* `Probe.Reaches`: the URLs that a probe requests
* `Probe.Sends`: how a URL is requested
* `Event.IsOfProbe`: whatever request this is, a probe of an address sends it

## Main results

* `Probe.visit_eq`, `Probe.receive_cases`: the steps of a visit, which is not opened elsewhere
* `Probe.run_only`: all requests of a probe are requests of that probe
* `Probe.run_address`: what a probe gives tells the address that was probed
-/

namespace Rehearsal

namespace Probe

/-- The URLs that a probe requests: the first one, and whatever an answer leads to if it is allowed.
-/
inductive Reaches (first : Url) : Url → Prop where
  | first : Reaches first first
  | redirected {url target : Url} {response : Response} (h : Reaches first url)
      (hredirect : response.redirectTarget? url = some target)
      (hallowed : checkTarget target = .ok ()) : Reaches first target

/-- How a URL is requested. -/
structure Sends (plan : Plan) (url : Url) (connection : Connection) (request : Request) : Prop where
  /-- The request is the one for the URL. -/
  request : request = requestOf plan url
  /-- Any certificate is good. -/
  lenient : connection.lenient = true
  /-- The domain under test stays pinned to the address that is probed. -/
  pinned : ∀ host, url.host = some (.name host) →
    Domain.normalize host = Domain.normalize plan.domain → connection.address = plan.address

end Probe

/-- If this is a request, a probe of an address of a domain sends it. -/
def Event.IsOfProbe (context : ScanContext) (domain : String) (address : IpAddress) : Event → Prop
  | .asked (.exchange connection request) => ∃ shown first url,
      Probe.firstUrl (Probe.challengeUrl domain context.options.effectivePath) =
        .ok (shown, first) ∧
      Probe.Reaches first url ∧
      Probe.Sends ⟨domain, address, context.probes, shown⟩ url connection request
  | _ => True

theorem Event.isOfProbe_of_not_isRequest {context : ScanContext} {domain : String}
    {address : IpAddress} {e : Event} (h : ¬e.IsRequest) : e.IsOfProbe context domain address := by
  cases e with
  | called | settled | logged => exact trivial
  | asked question =>
    cases question with
    | exchange => exact absurd trivial h
    | direct | addresses | draw => exact trivial

namespace Probe

variable {w : World} {context : ScanContext} {domain : String} {address : IpAddress}

/-! ### The steps of a visit -/

/-- What a visit does with what comes of its request. -/
def receive (plan : Plan) (began left : Nat) (url : Url) (result : ProbeResult) (elapsed : Nat) :
    Exchange → Job Arrived
  | .error fault =>
    .done (result, elapsed, .error (requestFailure plan fault.layers fault.isTimeout))
  | .ok response =>
    match response.redirectTarget? url with
    | none => .done (result, elapsed, .ok response)
    | some target =>
      let result := (result.observe elapsed response.status "").countRedirect
      match left with
      | 0 => .done (result, elapsed, .error (.redirect (Refusal.tooMany target maxHops).message))
      | left + 1 =>
        let result := result.note elapsed s!"Received redirect to {target.render}"
        match checkTarget target with
        | .error refusal => .done (result, elapsed, .error (.redirect refusal.message))
        | .ok () => visit plan began left target result

/-- What a visit does once it is settled where its request goes. -/
def send (plan : Plan) (began left : Nat) (url : Url) (result : ProbeResult) (elapsed : Nat) :
    Except NoAddress (IpAddress × Bool) → Job Arrived
  | .error e =>
    .done (result, elapsed,
      .error (requestFailure plan ("client error (Connect)" :: "dns error" :: e.layers) false))
  | .ok (address, lookedFor) =>
    let result := if lookedFor then result.note elapsed s!"Dialing {address}" else result
    let connection : Connection :=
      ⟨address, dialPort plan url lookedFor, url.scheme == "https", true⟩
    (Job.ask (.exchange connection (requestOf plan url))).bind fun answer =>
      (since began).bind fun elapsed => receive plan began left url result elapsed answer

/-- A visit settles on a place, and sends its request if time is left. -/
theorem visit_eq (plan : Plan) (began left : Nat) (url : Url) (result : ProbeResult) :
    visit plan began left url result = (dial plan url).bind fun place =>
      (since began).bind fun elapsed =>
        if isLate plan elapsed url then .done (result, elapsed, .error (lateFailure plan))
        else send plan began left url result elapsed place := by
  rw [visit.eq_def]
  refine congrArg (Job.bind (dial plan url)) (funext fun place => ?_)
  refine congrArg (Job.bind (since began)) (funext fun elapsed => ?_)
  split
  next => rfl
  next =>
    cases place with
    | error e => rfl
    | ok found =>
      refine congrArg (Job.askThen _) (funext fun answer => ?_)
      refine congrArg (Job.bind (since began)) (funext fun elapsed => ?_)
      cases answer with
      | error fault => rfl
      | ok response =>
        dsimp only [receive]
        generalize response.redirectTarget? url = target
        cases target with
        | none => rfl
        | some target => cases left <;> rfl

/-- The record of a probe after a response that leads on. -/
def counted (elapsed : Nat) (response : Response) (result : ProbeResult) : ProbeResult :=
  (result.observe elapsed response.status "").countRedirect

/-- The record of a probe that was led on to a URL. -/
def received (elapsed : Nat) (response : Response) (target : Url) (result : ProbeResult) :
    ProbeResult :=
  (counted elapsed response result).note elapsed s!"Received redirect to {target.render}"

/-- **What comes of a request**: the probe ends there, with a fault, a response or a redirect that
is refused, or it goes on to the URL that it is led to. -/
theorem receive_cases {P : Job Arrived → Prop} {plan : Plan} {began left elapsed : Nat} {url : Url}
    {result : ProbeResult} (answer : Exchange)
    (failed : ∀ fault, answer = .error fault →
      P (.done (result, elapsed, .error (requestFailure plan fault.layers fault.isTimeout))))
    (arrived : ∀ response, answer = .ok response → response.redirectTarget? url = none →
      P (.done (result, elapsed, .ok response)))
    (spent : ∀ response target, answer = .ok response →
      response.redirectTarget? url = some target → left = 0 →
      P (.done (counted elapsed response result, elapsed,
        .error (.redirect (Refusal.tooMany target maxHops).message))))
    (refused : ∀ response target more refusal, answer = .ok response →
      response.redirectTarget? url = some target → left = more + 1 →
      checkTarget target = .error refusal →
      P (.done (received elapsed response target result, elapsed,
        .error (.redirect refusal.message))))
    (followed : ∀ response target more, answer = .ok response →
      response.redirectTarget? url = some target → left = more + 1 → checkTarget target = .ok () →
      P (visit plan began more target (received elapsed response target result))) :
    P (receive plan began left url result elapsed answer) := by
  cases answer with
  | error fault => exact failed fault rfl
  | ok response =>
    dsimp only [receive]
    cases hleads : response.redirectTarget? url with
    | none => exact arrived response rfl hleads
    | some target =>
      cases left with
      | zero => exact spent response target rfl hleads rfl
      | succ left =>
        dsimp only
        cases hallowed : checkTarget target with
        | error refusal => exact refused response target left refusal rfl hleads rfl hallowed
        | ok => exact followed response target left rfl hleads rfl hallowed

/-! ### Requests -/

theorem visit_only {shown first : Url}
    (hfirst : firstUrl (challengeUrl domain context.options.effectivePath) = .ok (shown, first))
    (began left : Nat) {url : Url} (hreaches : Reaches first url) (result : ProbeResult) :
    (visit ⟨domain, address, context.probes, shown⟩ began left url result).Only w
      (Event.IsOfProbe context domain address) := by
  induction left using Nat.strong_induction_on generalizing url result with
  | _ left ih =>
    rw [visit_eq]
    refine ((dial_only _ url).mono fun _ => Event.isOfProbe_of_not_isRequest).bind
      fun place hplace => only_since_bind fun elapsed => ?_
    have hpinned := dial_pinned _ url place hplace
    split
    next => exact Job.only_done _
    next =>
      cases place with
      | error e => exact Job.only_done _
      | ok found =>
        refine Job.only_ask_bind ?_ fun answer => only_since_bind fun elapsed => ?_
        · exact ⟨shown, first, url, hfirst, hreaches, rfl, rfl, hpinned found rfl⟩
        · refine receive_cases (P := fun job => job.Only w _) answer ?failed ?arrived ?spent
            ?refused ?followed
          case followed =>
            rintro response target more - hleads rfl hallowed
            exact ih more (Nat.lt_succ_self more) (hreaches.redirected hleads hallowed) _
          all_goals
            intros
            exact Job.only_done _

/-- **All requests of a probe are requests of that probe.** -/
theorem run_only (context : ScanContext) (domain : String) (address : IpAddress) :
    (run context domain address).Only w (Event.IsOfProbe context domain address) := by
  unfold run
  dsimp only
  split
  · exact Job.only_done _
  · split
    next => exact Job.only_done _
    next shown first hfirst =>
      exact Job.only_time_bind fun began =>
        (visit_only hfirst began _ .first _).bind fun arrived _ => Job.only_done _

/-! ### What a probe tells -/

/-- What is wrong with a response is its status, or else that it is not the expected one, which
counts as a failure to get that. -/
theorem judge_cases {expected : String} {result : ProbeResult} {broken : Option BodyFault}
    {p : Problem} (h : judge domain expected result broken = some p) :
    (∃ message, p = explain domain result.address result.trace (.transport message false)) ∨
      ∃ status body, p = unexpectedResponse domain status body result.trace := by
  unfold judge at h
  dsimp only at h
  split at h
  · split at h <;> exact .inl ⟨_, (Option.some.inj h).symm⟩
  · split at h
    · split at h
      · cases h
      · exact .inr ⟨_, _, (Option.some.inj h).symm⟩
    · split at h
      · cases h
      · exact .inl ⟨_, (Option.some.inj h).symm⟩

/-- What is wrong with a response is never that it leads elsewhere. -/
theorem judge_name {expected : String} {result : ProbeResult} {broken : Option BodyFault}
    {p : Problem} (h : judge domain expected result broken = some p) : p.name ≠ "BadRedirect" := by
  rcases judge_cases h with ⟨message, rfl⟩ | ⟨status, body, rfl⟩
  · unfold explain
    dsimp only
    split
    · exact (by decide : "WebserverMisconfiguration" ≠ "BadRedirect")
    · split
      · exact (by decide : "AAAANotWorking" ≠ "BadRedirect")
      · exact (by decide : "ANotWorking" ≠ "BadRedirect")
  · exact (by decide : "UnexpectedHttpResponse" ≠ "BadRedirect")

theorem visit_address (plan : Plan) (began left : Nat) (url : Url) (result : ProbeResult) :
    (visit plan began left url result).Yields w fun arrived =>
      arrived.1.address = result.address := by
  induction left using Nat.strong_induction_on generalizing url result with
  | _ left ih =>
    rw [visit_eq]
    refine Job.Yields.bind (P := fun _ => True) (fun _ _ => trivial) fun place _ =>
      yields_since_bind fun elapsed => ?_
    split
    next => exact Job.yields_done rfl
    next =>
      cases place with
      | error e => exact Job.yields_done rfl
      | ok found =>
        have hnoted (note : String) :
            (if found.2 = true then result.note elapsed note else result).address =
              result.address := by
          split <;> rfl
        refine Job.yields_ask_bind fun answer => yields_since_bind fun elapsed => ?_
        refine receive_cases (P := fun job => job.Yields w _) answer ?failed ?arrived ?spent
          ?refused ?followed
        case followed =>
          rintro response target more - - rfl - arrived hgive
          exact (ih more (Nat.lt_succ_self more) _ _ arrived hgive).trans (hnoted _)
        all_goals
          intros
          exact Job.yields_done (hnoted _)

theorem finish_address (domain expected : String) (arrived : Arrived) :
    (finish domain expected arrived).1.address = arrived.1.address := by
  obtain ⟨result, elapsed, arrival⟩ := arrived
  cases arrival with
  | ok response => rfl
  | error failure => cases failure <;> rfl

/-- What a probe gives tells the address that was probed. -/
theorem run_address (context : ScanContext) (domain : String) (address : IpAddress) :
    (run context domain address).Yields w fun probed => probed.1.address = address := by
  unfold run
  dsimp only
  split
  · exact Job.yields_done rfl
  · split
    next failure _ => exact Job.yields_done (finish_address domain "" (_, 0, .error failure))
    next shown first hfirst =>
      exact Job.yields_time_bind fun began => (visit_address _ began _ first _).bind
        fun arrived harrived => Job.yields_done ((finish_address ..).trans harrived)

end Probe

end Rehearsal
