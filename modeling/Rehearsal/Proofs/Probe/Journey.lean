import Rehearsal.Check.Address
import Rehearsal.Proofs.Probe.Redirects
import Rehearsal.Proofs.Probe.Trace

/-!
# The journey of a probe

A probe that has the session to itself goes from URL to URL. At each of them it is settled where the
request goes; then the request is sent, and its answer ends the journey or leads on. Here all that
can happen on the way is said once, with a rule for each way to go on, whatever the peers do: they
may change their minds, redirect for ever or break down. What is true of all probes is then found by
induction on these rules, and no job is opened again.

A leg of the journey is a request that was sent. A journey may also end before the request for a
URL, which is then left stranded. The rules do not say how long anything takes; only that it took
longer than a probe may, if that is why a URL is left stranded.

## Main definitions

* `Probe.Finds`, `Probe.Placed`: how it is settled where a request goes
* `Probe.Leg`, `Probe.Route`: the requests from one URL on
* `Probe.Journey`: a whole probe

## Main results

* `Probe.dial_placed`, `Probe.visit_route`, `Probe.run_journey`: these are the runs there are
* `Probe.Route.requests_eq`, `Probe.Route.length_le`, `Probe.Route.isChain`: what is requested
* `Probe.Route.refused_ends`, `Probe.Route.arrived_ends`, `Probe.Route.stranded_placed`: how a route
  ends
-/

namespace Rehearsal

namespace Probe

variable {peers : Peers} {past : Nat} {plan : Plan}

/-! ### Where a request goes -/

/-- The last lookup that failed, after another one. -/
def lastFailure (failed : Option LookupError) : LookupOutcome → Option LookupError
  | .error e => some e
  | .ok _ => failed

/-- A search for an address of a host under some types in turn. -/
inductive Finds (peers : Peers) (past : Nat) (host : String) : Option LookupError →
    List RecordType → List Event → List Event → Outcome (Except NoAddress IpAddress) → Prop where
  /-- No type is left. -/
  | exhausted {failed : Option LookupError} {journal : List Event} :
    Finds peers past host failed [] journal journal (.returned (.error ⟨host, failed⟩))
  /-- There is no address under the type, and the next one is tried. -/
  | passed {failed : Option LookupError} {type : RecordType} {types : List RecordType}
      {journal middle journal' : List Event} {o : LookupOutcome}
      {found : Outcome (Except NoAddress IpAddress)}
      (lookup : LooksUp peers past (.ofName host type) journal middle (.returned o))
      (none : Record.addresses (Check.recordsOf o) = [])
      (rest : Finds peers past host (lastFailure failed o) types middle journal' found) :
    Finds peers past host failed (type :: types) journal journal' found
  /-- One of the addresses under the type is drawn. -/
  | drawn {failed : Option LookupError} {type : RecordType} {types : List RecordType}
      {journal middle : List Event} {o : LookupOutcome} {address : IpAddress} {below : Nat}
      (lookup : LooksUp peers past (.ofName host type) journal middle (.returned o))
      (mem : address ∈ Record.addresses (Check.recordsOf o)) :
    Finds peers past host failed (type :: types) journal (middle ++ [.asked (.draw below)])
      (.returned (.ok address))
  /-- The drawing breaks down. -/
  | undrawn {failed : Option LookupError} {type : RecordType} {types : List RecordType}
      {journal middle : List Event} {o : LookupOutcome} {below : Nat} {message : String}
      (lookup : LooksUp peers past (.ofName host type) journal middle (.returned o))
      (some : Record.addresses (Check.recordsOf o) ≠ [])
      (broken : (peers.answer middle (.draw below)).outcome = .crashed message) :
    Finds peers past host failed (type :: types) journal (middle ++ [.asked (.draw below)])
      (.crashed message)
  /-- The resolver breaks down. -/
  | lost {failed : Option LookupError} {type : RecordType} {types : List RecordType}
      {journal journal' : List Event} {message : String}
      (lookup : LooksUp peers past (.ofName host type) journal journal' (.crashed message)) :
    Finds peers past host failed (type :: types) journal journal' (.crashed message)

/-- How it is settled where the request for a URL goes, and whether the place was looked for. -/
inductive Placed (peers : Peers) (past : Nat) (plan : Plan) (url : Url) (journal : List Event) :
    List Event → Outcome (Except NoAddress (IpAddress × Bool)) → Prop where
  /-- The host is written as an IPv4 address. -/
  | v4 {address : BitVec 32} (host : url.host = some (.v4 address)) :
    Placed peers past plan url journal journal (.returned (.ok (.v4 address, false)))
  /-- The host is written as an IPv6 address. -/
  | v6 {address : BitVec 128} (host : url.host = some (.v6 address)) :
    Placed peers past plan url journal journal (.returned (.ok (.v6 address, false)))
  /-- There is no host. -/
  | hostless (host : url.host = none) :
    Placed peers past plan url journal journal (.returned (.error ⟨"", none⟩))
  /-- The domain under test is where it is pinned. -/
  | pinned {name : String} (host : url.host = some (.name name))
      (own : Domain.normalize name = Domain.normalize plan.domain) :
    Placed peers past plan url journal journal (.returned (.ok (plan.address, true)))
  /-- An address of another host is looked for and found. -/
  | found {name : String} {address : IpAddress} {journal' : List Event}
      (host : url.host = some (.name name))
      (other : Domain.normalize name ≠ Domain.normalize plan.domain)
      (search : Finds peers past (Domain.normalize name) none [.aaaa, .a] journal journal'
        (.returned (.ok address))) :
    Placed peers past plan url journal journal' (.returned (.ok (address, true)))
  /-- Another host has no address. -/
  | nowhere {name : String} {e : NoAddress} {journal' : List Event}
      (host : url.host = some (.name name))
      (other : Domain.normalize name ≠ Domain.normalize plan.domain)
      (search : Finds peers past (Domain.normalize name) none [.aaaa, .a] journal journal'
        (.returned (.error e))) :
    Placed peers past plan url journal journal' (.returned (.error e))
  /-- A peer breaks down over the search. -/
  | lost {name message : String} {journal' : List Event} (host : url.host = some (.name name))
      (other : Domain.normalize name ≠ Domain.normalize plan.domain)
      (search : Finds peers past (Domain.normalize name) none [.aaaa, .a] journal journal'
        (.crashed message)) :
    Placed peers past plan url journal journal' (.crashed message)

theorem findUnder_finds {host : String} {failed : Option LookupError} {types : List RecordType}
    {s s' : Session} {found : Outcome (Except NoAddress IpAddress)} (hs : s.Alone past)
    (h : (findUnder host failed types).Ends peers s found s') :
    Finds peers past host failed types s.journal s'.journal found := by
  induction types generalizing failed s with
  | nil =>
    obtain ⟨rfl, hjournal⟩ := Job.Ends.done_alone h hs
    exact hjournal ▸ .exhausted
  | cons type types ih =>
    rcases Job.Ends.looksUp h hs with ⟨o, s₁, hlookup, hs₁, hrest⟩ | ⟨message, hlookup, rfl⟩
    · cases o with
      | error e => exact .passed hlookup rfl (ih hs₁ hrest)
      | ok records =>
        change ((pick records).bind _).Ends peers s₁ found s' at hrest
        unfold pick at hrest
        split at hrest
        next hnone => exact .passed hlookup hnone (ih hs₁ hrest)
        next first rest hsome =>
          obtain ⟨s₂, hs₂, hjournal, hrest⟩ := Job.Ends.ask_alone hrest hs₁
          cases hanswer : (peers.answer s₁.journal (.draw (rest.length + 1))).outcome with
          | crashed message =>
            rw [hanswer] at hrest
            obtain ⟨rfl, hlast⟩ := Job.Ends.crash_alone hrest hs₂
            rw [hlast, hjournal]
            exact .undrawn hlookup (hsome ▸ List.cons_ne_nil first rest) hanswer
          | returned n =>
            rw [hanswer] at hrest
            obtain ⟨rfl, hlast⟩ := Job.Ends.done_alone hrest hs₂
            rw [hlast, hjournal]
            refine .drawn hlookup ?_
            have hlt : n % (rest.length + 1) < (first :: rest).length := Nat.mod_lt _ (by simp)
            rw [List.getD_eq_getElem?_getD, List.getElem?_eq_getElem hlt, Option.getD_some]
            rw [Check.recordsOf, hsome]
            exact List.getElem_mem hlt
    · exact .lost hlookup

/-- **How it is settled where a request goes.** -/
theorem dial_placed {url : Url} {s s' : Session}
    {place : Outcome (Except NoAddress (IpAddress × Bool))} (hs : s.Alone past)
    (h : (dial plan url).Ends peers s place s') :
    Placed peers past plan url s.journal s'.journal place := by
  unfold dial at h
  split at h
  next address hhost =>
    obtain ⟨rfl, hjournal⟩ := Job.Ends.done_alone h hs
    exact hjournal ▸ .v4 hhost
  next address hhost =>
    obtain ⟨rfl, hjournal⟩ := Job.Ends.done_alone h hs
    exact hjournal ▸ .v6 hhost
  next name hhost =>
    dsimp only at h
    split at h
    next hown =>
      obtain ⟨rfl, hjournal⟩ := Job.Ends.done_alone h hs
      exact hjournal ▸ .pinned hhost hown
    next hother =>
      obtain ⟨found, s₁, hfind, hjournal, hplace⟩ := h.map_alone hs (findUnder_straight _ _ _)
      have hfinds := findUnder_finds hs hfind
      rw [hjournal]
      rcases hplace with ⟨message, rfl, rfl⟩ | ⟨place, rfl, rfl⟩
      · exact .lost hhost hother hfinds
      · cases place with
        | error e => exact .nowhere hhost hother hfinds
        | ok address => exact .found hhost hother hfinds
  next hhost =>
    obtain ⟨rfl, hjournal⟩ := Job.Ends.done_alone h hs
    exact hjournal ▸ .hostless hhost

/-- Nothing is requested while a place is searched. -/
theorem Finds.quiet {host : String} {failed : Option LookupError} {types : List RecordType}
    {journal journal' : List Event} {found : Outcome (Except NoAddress IpAddress)}
    (h : Finds peers past host failed types journal journal' found) :
    Journal.Extends (fun e => ¬e.IsRequest) journal journal' := by
  have hlookup {key : LookupKey} {journal journal' : List Event} {o : Outcome LookupOutcome}
      (h : LooksUp peers past key journal journal' o) :
      Journal.Extends (fun e => ¬e.IsRequest) journal journal' :=
    h.journal_extends.mono fun e he => by
      rcases he with rfl | ⟨o, rfl⟩ <;> exact id
  have hdraw (journal : List Event) (below : Nat) :
      Journal.Extends (fun e => ¬e.IsRequest) journal (journal ++ [.asked (.draw below)]) :=
    ⟨_, rfl, fun e he => List.mem_singleton.mp he ▸ id⟩
  induction h with
  | exhausted => exact .refl _ _
  | passed lookup _ _ ih => exact (hlookup lookup).trans ih
  | drawn lookup _ => exact (hlookup lookup).trans (hdraw _ _)
  | undrawn lookup _ _ => exact (hlookup lookup).trans (hdraw _ _)
  | lost lookup => exact hlookup lookup

/-- Nothing is requested before it is settled where the request goes. -/
theorem Placed.quiet {url : Url} {journal journal' : List Event}
    {place : Outcome (Except NoAddress (IpAddress × Bool))}
    (h : Placed peers past plan url journal journal' place) :
    Journal.Extends (fun e => ¬e.IsRequest) journal journal' := by
  cases h with
  | v4 | v6 | hostless | pinned => exact .refl _ _
  | found _ _ search | nowhere _ _ search | lost _ _ search => exact search.quiet

/-! ### Legs -/

/-- A request that is sent, and what comes of it. -/
structure Leg where
  /-- The URL. -/
  url : Url
  /-- The address that the request goes to. -/
  address : IpAddress
  /-- Was the address looked for? -/
  lookedFor : Bool
  /-- The journal before that. -/
  begun : List Event
  /-- The journal after it, when the request is sent. -/
  sent : List Event
  /-- What comes of the request. -/
  answer : Outcome Exchange

namespace Leg

/-- The connection over which the request is sent. -/
def connection (plan : Plan) (leg : Leg) : Connection :=
  ⟨leg.address, dialPort plan leg.url leg.lookedFor, leg.url.scheme == "https", true⟩

/-- The request with its connection. -/
def exchange (plan : Plan) (leg : Leg) : Connection × Request :=
  (leg.connection plan, requestOf plan leg.url)

/-- The journal when the request is answered. -/
def ended (plan : Plan) (leg : Leg) : List Event :=
  leg.sent ++ [.asked (.exchange (leg.connection plan) (requestOf plan leg.url))]

/-- The record of a probe once it is settled where the request goes. -/
def noted (elapsed : Nat) (result : ProbeResult) (leg : Leg) : ProbeResult :=
  if leg.lookedFor then result.note elapsed s!"Dialing {leg.address}" else result

/-- The answer leads to a URL. -/
def LeadsTo (leg : Leg) (target : Url) : Prop :=
  ∃ response, leg.answer = .returned (.ok response) ∧
    response.redirectTarget? leg.url = some target

/-- The place, and then the answer, are those that the peers give. -/
structure Runs (peers : Peers) (past : Nat) (plan : Plan) (leg : Leg) : Prop where
  /-- It is settled where the request goes. -/
  placed : Placed peers past plan leg.url leg.begun leg.sent
    (.returned (.ok (leg.address, leg.lookedFor)))
  /-- The request is answered. -/
  answered : (peers.answer leg.sent
    (.exchange (leg.connection plan) (requestOf plan leg.url))).outcome = leg.answer

theorem response_unique {leg : Leg} {response response' : Response}
    (h : leg.answer = .returned (.ok response)) (h' : leg.answer = .returned (.ok response')) :
    response = response' :=
  Except.ok.inj (Outcome.returned.inj (h.symm.trans h'))

theorem LeadsTo.unique {leg : Leg} {target target' : Url} (h : leg.LeadsTo target)
    (h' : leg.LeadsTo target') : target = target' := by
  obtain ⟨response, hanswer, htarget⟩ := h
  obtain ⟨response', hanswer', htarget'⟩ := h'
  obtain rfl := response_unique hanswer hanswer'
  exact Option.some.inj (htarget.symm.trans htarget')

end Leg

/-! ### The requests from one URL on -/

/-- The requests from one URL on, where `left` more may follow the first, with the journal before
and after them and the URL that is left stranded, if one is. -/
inductive Route (peers : Peers) (past : Nat) (plan : Plan) : Nat → Url → ProbeResult → List Event →
    List Leg → Option Url → List Event → Outcome Arrived → Prop where
  /-- A peer breaks down before it is settled where the request goes. -/
  | lost {left : Nat} {url : Url} {result : ProbeResult} {journal journal' : List Event}
      {message : String} (place : Placed peers past plan url journal journal' (.crashed message)) :
    Route peers past plan left url result journal [] (some url) journal' (.crashed message)
  /-- The time runs out while the host is looked up. -/
  | late {left elapsed : Nat} {url : Url} {result : ProbeResult} {journal journal' : List Event}
      {found : Except NoAddress (IpAddress × Bool)}
      (place : Placed peers past plan url journal journal' (.returned found))
      (late : isLate plan elapsed url = true) :
    Route peers past plan left url result journal [] (some url) journal'
      (.returned (result, elapsed, .error (lateFailure plan)))
  /-- The request has nowhere to go. -/
  | nowhere {left elapsed : Nat} {url : Url} {result : ProbeResult} {journal journal' : List Event}
      {e : NoAddress} (place : Placed peers past plan url journal journal' (.returned (.error e))) :
    Route peers past plan left url result journal [] (some url) journal'
      (.returned (result, elapsed,
        .error (requestFailure plan ("client error (Connect)" :: "dns error" :: e.layers) false)))
  /-- The peer that is asked breaks down. -/
  | broken {left : Nat} {result : ProbeResult} {leg : Leg} {message : String}
      (runs : leg.Runs peers past plan) (answer : leg.answer = .crashed message) :
    Route peers past plan left leg.url result leg.begun [leg] none (leg.ended plan)
      (.crashed message)
  /-- There is no response. -/
  | failed {left elapsed elapsed' : Nat} {result : ProbeResult} {leg : Leg} {fault : ExchangeFault}
      (runs : leg.Runs peers past plan) (answer : leg.answer = .returned (.error fault)) :
    Route peers past plan left leg.url result leg.begun [leg] none (leg.ended plan)
      (.returned (leg.noted elapsed result, elapsed',
        .error (requestFailure plan fault.layers fault.isTimeout)))
  /-- The response leads nowhere, and is the last one. -/
  | arrived {left elapsed elapsed' : Nat} {result : ProbeResult} {leg : Leg} {response : Response}
      (runs : leg.Runs peers past plan) (answer : leg.answer = .returned (.ok response))
      (last : response.redirectTarget? leg.url = none) :
    Route peers past plan left leg.url result leg.begun [leg] none (leg.ended plan)
      (.returned (leg.noted elapsed result, elapsed', .ok response))
  /-- The response leads on, but no request is left. -/
  | spent {elapsed elapsed' : Nat} {result : ProbeResult} {leg : Leg} {response : Response}
      {target : Url} (runs : leg.Runs peers past plan)
      (answer : leg.answer = .returned (.ok response))
      (leads : response.redirectTarget? leg.url = some target) :
    Route peers past plan 0 leg.url result leg.begun [leg] none (leg.ended plan)
      (.returned (counted elapsed' response (leg.noted elapsed result), elapsed',
        .error (.redirect (Refusal.tooMany target maxHops).message)))
  /-- The response leads on to a URL that must not be requested. -/
  | refused {left elapsed elapsed' : Nat} {result : ProbeResult} {leg : Leg} {response : Response}
      {target : Url} {refusal : Refusal} (runs : leg.Runs peers past plan)
      (answer : leg.answer = .returned (.ok response))
      (leads : response.redirectTarget? leg.url = some target)
      (refusal_eq : checkTarget target = .error refusal) :
    Route peers past plan (left + 1) leg.url result leg.begun [leg] none (leg.ended plan)
      (.returned (received elapsed' response target (leg.noted elapsed result), elapsed',
        .error (.redirect refusal.message)))
  /-- The response leads on, and it is followed. -/
  | followed {left elapsed elapsed' : Nat} {result : ProbeResult} {leg : Leg} {legs : List Leg}
      {response : Response} {target : Url} {stranded : Option Url} {journal' : List Event}
      {outcome : Outcome Arrived} (runs : leg.Runs peers past plan)
      (answer : leg.answer = .returned (.ok response))
      (leads : response.redirectTarget? leg.url = some target)
      (allowed : checkTarget target = .ok ())
      (rest : Route peers past plan left target
        (received elapsed' response target (leg.noted elapsed result)) (leg.ended plan) legs
        stranded journal' outcome) :
    Route peers past plan (left + 1) leg.url result leg.begun (leg :: legs) stranded journal'
      outcome

/-- What comes of a request ends the route, or it is followed by a shorter one. -/
theorem receive_route {began left elapsed : Nat} {leg : Leg} {result : ProbeResult}
    {s s' : Session} {outcome : Outcome Arrived} (hruns : leg.Runs peers past plan)
    (hs : s.Alone past) (hended : s.journal = leg.ended plan)
    (h : (Live.afterAnswer (fun answer => (since began).bind fun elapsed' =>
      receive plan began left leg.url (leg.noted elapsed result) elapsed' answer) leg.answer).Ends
        peers s outcome s')
    (hvisit : ∀ m < left, ∀ target result s₁, s₁.Alone past → s₁.journal = s.journal →
      (visit plan began m target result).Ends peers s₁ outcome s' →
        ∃ legs stranded, Route peers past plan m target result s₁.journal legs stranded s'.journal
          outcome) :
    ∃ legs stranded, Route peers past plan left leg.url result leg.begun legs stranded s'.journal
      outcome := by
  generalize hanswer : leg.answer = answer at h
  cases answer with
  | crashed message =>
    obtain ⟨rfl, hjournal⟩ := Job.Ends.crash_alone h hs
    exact ⟨[leg], none, by rw [hjournal, hended]; exact .broken hruns hanswer⟩
  | returned exchange =>
    obtain ⟨elapsed', s₁, hs₁, hsame, h⟩ := ends_since_bind h hs
    have hlast {value : Arrived} (h : (Job.done value).Ends peers s₁ outcome s')
        (hroute : Route peers past plan left leg.url result leg.begun [leg] none (leg.ended plan)
          (.returned value)) :
        ∃ legs stranded, Route peers past plan left leg.url result leg.begun legs stranded
          s'.journal outcome := by
      obtain ⟨rfl, hjournal⟩ := Job.Ends.done_alone h hs₁
      exact ⟨[leg], none, by rwa [hjournal, hsame, hended]⟩
    refine receive_cases (P := fun job => job.Ends peers s₁ outcome s' → ∃ legs stranded,
      Route peers past plan left leg.url result leg.begun legs stranded s'.journal outcome) exchange
      ?failed ?arrived ?spent ?refused ?followed h
    case failed =>
      rintro fault rfl h
      exact hlast h (.failed hruns hanswer)
    case arrived =>
      rintro response rfl hleads h
      exact hlast h (.arrived hruns hanswer hleads)
    case spent =>
      rintro response target rfl hleads rfl h
      exact hlast h (.spent hruns hanswer hleads)
    case refused =>
      rintro response target more refusal rfl hleads rfl hallowed h
      exact hlast h (.refused hruns hanswer hleads hallowed)
    case followed =>
      rintro response target more rfl hleads rfl hallowed h
      obtain ⟨legs, stranded, hroute⟩ :=
        hvisit more (Nat.lt_succ_self more) target _ s₁ hs₁ hsame h
      rw [hsame, hended] at hroute
      exact ⟨leg :: legs, stranded, .followed hruns hanswer hleads hallowed hroute⟩

/-- **The requests that a visit sends.** -/
theorem visit_route {began left : Nat} {url : Url} {result : ProbeResult} {s s' : Session}
    {outcome : Outcome Arrived} (hs : s.Alone past)
    (h : (visit plan began left url result).Ends peers s outcome s') :
    ∃ legs stranded, Route peers past plan left url result s.journal legs stranded s'.journal
      outcome := by
  induction left using Nat.strong_induction_on generalizing url result s with
  | _ left ih =>
    rw [visit_eq] at h
    rcases h.bind with ⟨message, rfl, hdial⟩ | ⟨place, s₀, hdial, hrest⟩
    · exact ⟨[], some url, .lost (dial_placed hs hdial)⟩
    have hplaced := dial_placed hs hdial
    obtain ⟨elapsed, s₁, hs₁, hsame, hrest⟩ :=
      ends_since_bind hrest (hdial.alone hs (dial_straight plan url))
    rw [← hsame] at hplaced
    split at hrest
    next hlate =>
      obtain ⟨rfl, hjournal⟩ := Job.Ends.done_alone hrest hs₁
      exact ⟨[], some url, by rw [hjournal]; exact .late hplaced hlate⟩
    next =>
      cases place with
      | error e =>
        obtain ⟨rfl, hjournal⟩ := Job.Ends.done_alone hrest hs₁
        exact ⟨[], some url, by rw [hjournal]; exact .nowhere hplaced⟩
      | ok found =>
        obtain ⟨s₂, hs₂, hjournal, hrest⟩ := Job.Ends.ask_alone hrest hs₁
        let leg : Leg := ⟨url, found.1, found.2, s.journal, s₁.journal,
          (peers.answer s₁.journal (.exchange ⟨found.1, dialPort plan url found.2,
            url.scheme == "https", true⟩ (requestOf plan url))).outcome⟩
        have hruns : leg.Runs peers past plan := ⟨hplaced, rfl⟩
        exact receive_route hruns hs₂ hjournal hrest fun m hm _ _ _ hs₃ _ => ih m hm hs₃

/-! ### What is true of all routes -/

section Route

variable {left : Nat} {url : Url} {result : ProbeResult} {journal journal' : List Event}
  {legs : List Leg} {stranded : Option Url} {outcome : Outcome Arrived}

/-- One request is sent for a leg. -/
theorem Leg.Runs.requests_eq {leg : Leg} (h : leg.Runs peers past plan) :
    ∃ events, leg.ended plan = leg.begun ++ events ∧
      Journal.requests events = [leg.exchange plan] := by
  obtain ⟨events, hsent, hquiet⟩ := h.placed.quiet
  refine ⟨events ++ [.asked (.exchange (leg.connection plan) (requestOf plan leg.url))], ?_, ?_⟩
  · rw [Leg.ended, hsent, List.append_assoc]
  · rw [Journal.requests_append, Journal.requests_eq_nil hquiet, List.nil_append]
    rfl

/-- **The requests that are sent are those of the legs, in order.** -/
theorem Route.requests_eq
    (h : Route peers past plan left url result journal legs stranded journal' outcome) :
    ∃ events, journal' = journal ++ events ∧
      Journal.requests events = legs.map (Leg.exchange plan) := by
  induction h with
  | lost place | late place | nowhere place =>
    obtain ⟨events, heq, hquiet⟩ := place.quiet
    exact ⟨events, heq, Journal.requests_eq_nil hquiet⟩
  | broken runs | failed runs | arrived runs | spent runs | refused runs => exact runs.requests_eq
  | followed runs _ _ _ _ ih =>
    obtain ⟨events, heq, hrequests⟩ := runs.requests_eq
    obtain ⟨events', rfl, hrest⟩ := ih
    refine ⟨events ++ events', by rw [heq, List.append_assoc], ?_⟩
    rw [Journal.requests_append, hrequests, hrest]
    rfl

theorem Route.journal_grows
    (h : Route peers past plan left url result journal legs stranded journal' outcome) :
    journal <+: journal' := by
  obtain ⟨events, rfl, -⟩ := h.requests_eq
  exact List.prefix_append journal events

theorem Leg.Runs.begun_grows {leg : Leg} (h : leg.Runs peers past plan) :
    leg.begun <+: leg.sent :=
  h.placed.quiet.isPrefix

/-- Each leg is one that runs, some time between the beginning and the end. -/
theorem Route.runs
    (h : Route peers past plan left url result journal legs stranded journal' outcome) :
    ∀ leg ∈ legs, leg.Runs peers past plan ∧ journal <+: leg.begun ∧
      leg.ended plan <+: journal' := by
  induction h with
  | lost | late | nowhere => exact fun _ hleg => absurd hleg List.not_mem_nil
  | broken runs | failed runs | arrived runs | spent runs | refused runs =>
    exact List.forall_mem_singleton.mpr ⟨runs, List.prefix_rfl, List.prefix_rfl⟩
  | followed runs _ _ _ rest ih =>
    refine List.forall_mem_cons.mpr ⟨⟨runs, List.prefix_rfl, rest.journal_grows⟩,
      fun leg hleg => ?_⟩
    obtain ⟨hruns, hbegun, hlast⟩ := ih leg hleg
    exact ⟨hruns, (runs.begun_grows.trans (List.prefix_append _ _)).trans hbegun, hlast⟩

/-- No more requests are sent than are left. -/
theorem Route.length_le
    (h : Route peers past plan left url result journal legs stranded journal' outcome) :
    legs.length ≤ left + 1 := by
  induction h with
  | lost | late | nowhere => exact Nat.zero_le _
  | broken | failed | arrived | spent | refused => exact Nat.succ_le_succ (Nat.zero_le _)
  | followed _ _ _ _ _ ih => exact Nat.succ_le_succ ih

theorem Route.head_url
    (h : Route peers past plan left url result journal legs stranded journal' outcome) :
    ∀ leg ∈ legs.head?, leg.url = url := by
  cases h with
  | lost | late | nowhere => exact fun _ hleg => absurd hleg (Option.not_mem_none _)
  | broken | failed | arrived | spent | refused | followed =>
    rintro leg hleg
    rw [Option.mem_some.mp hleg]

/-- **Each leg after the first goes where the answer before it leads**, and may be requested. -/
theorem Route.isChain
    (h : Route peers past plan left url result journal legs stranded journal' outcome) :
    legs.IsChain fun leg next => leg.LeadsTo next.url ∧ checkTarget next.url = .ok () := by
  induction h with
  | lost | late | nowhere => exact .nil
  | broken | failed | arrived | spent | refused => exact .singleton _
  | followed _ answer leads allowed rest ih =>
    refine List.isChain_cons.mpr ⟨fun next hnext => ?_, ih⟩
    rw [rest.head_url next hnext]
    exact ⟨⟨_, answer, leads⟩, allowed⟩

/-- A redirect is refused after so many others: its target must not be requested, or no request is
left. -/
def Refuses (left followed : Nat) (target : Url) (refusal : Refusal) : Prop :=
  if followed < left then checkTarget target = .error refusal
  else refusal = .tooMany target maxHops

/-- **A redirect that is refused ends the route.** -/
theorem Route.refused_ends
    (h : Route peers past plan left url result journal legs stranded journal' outcome)
    {front back : List Leg} {leg : Leg} {target : Url} {refusal : Refusal}
    (hlegs : front ++ leg :: back = legs) (hleads : leg.LeadsTo target)
    (hrefuses : Refuses left front.length target refusal) :
    back = [] ∧ ∃ record elapsed,
      outcome = .returned (record, elapsed, .error (.redirect refusal.message)) := by
  have hone {front : List Leg} {last : Leg} (h : front ++ leg :: back = [last]) :
      leg = last ∧ front.length = 0 ∧ back = [] := by
    rcases List.append_eq_singleton_iff.mp h with ⟨rfl, h⟩ | ⟨-, h⟩
    · exact ⟨(List.cons.inj h).1, rfl, (List.cons.inj h).2⟩
    · cases h
  induction h generalizing front with
  | lost | late | nowhere => exact absurd hlegs (by simp)
  | broken _ answer | failed _ answer =>
    obtain ⟨rfl, -⟩ := hone hlegs
    obtain ⟨response, hanswer, -⟩ := hleads
    rw [answer] at hanswer
    cases hanswer
  | arrived _ answer last =>
    obtain ⟨rfl, -⟩ := hone hlegs
    obtain ⟨response, hanswer, htarget⟩ := hleads
    obtain rfl := Leg.response_unique answer hanswer
    rw [last] at htarget
    cases htarget
  | spent _ answer leads =>
    obtain ⟨rfl, -, hback⟩ := hone hlegs
    obtain rfl := hleads.unique ⟨_, answer, leads⟩
    rw [Refuses, if_neg (Nat.not_lt_zero _)] at hrefuses
    exact ⟨hback, _, _, by rw [hrefuses]⟩
  | refused _ answer leads refusal_eq =>
    obtain ⟨rfl, hfront, hback⟩ := hone hlegs
    obtain rfl := hleads.unique ⟨_, answer, leads⟩
    rw [Refuses, hfront, if_pos (Nat.succ_pos _), refusal_eq] at hrefuses
    exact ⟨hback, _, _, by rw [Except.error.inj hrefuses]⟩
  | followed _ answer leads allowed rest ih =>
    cases front with
    | nil =>
      obtain ⟨rfl, -⟩ := List.cons.inj hlegs
      obtain rfl := hleads.unique ⟨_, answer, leads⟩
      simp [Refuses, allowed] at hrefuses
    | cons first front =>
      exact ih (List.cons.inj hlegs).2 (by simpa [Refuses] using hrefuses)

/-- **A response that leads nowhere ends the route.** -/
theorem Route.arrived_ends
    (h : Route peers past plan left url result journal legs stranded journal' outcome) {leg : Leg}
    {response : Response} (hleg : leg ∈ legs) (hanswer : leg.answer = .returned (.ok response))
    (hlast : response.redirectTarget? leg.url = none) :
    ∃ record elapsed, outcome = .returned (record, elapsed, .ok response) := by
  induction h with
  | lost | late | nowhere => exact absurd hleg List.not_mem_nil
  | broken _ answer | failed _ answer =>
    obtain rfl := List.mem_singleton.mp hleg
    rw [answer] at hanswer
    cases hanswer
  | arrived _ answer =>
    obtain rfl := List.mem_singleton.mp hleg
    obtain rfl := Leg.response_unique answer hanswer
    exact ⟨_, _, rfl⟩
  | spent _ answer leads | refused _ answer leads =>
    obtain rfl := List.mem_singleton.mp hleg
    obtain rfl := Leg.response_unique answer hanswer
    rw [leads] at hlast
    cases hlast
  | followed _ answer leads _ _ ih =>
    rcases List.mem_cons.mp hleg with rfl | hleg
    · obtain rfl := Leg.response_unique answer hanswer
      rw [leads] at hlast
      cases hlast
    · exact ih hleg

/-- **A route that strands a URL finds no place for its request**, or not in time, and ends with
that. -/
theorem Route.stranded_placed
    (h : Route peers past plan left url result journal legs stranded journal' outcome) {lost : Url}
    (hlost : lost ∈ stranded) :
    ∃ begun, journal <+: begun ∧
      ((∃ message, Placed peers past plan lost begun journal' (.crashed message) ∧
          outcome = .crashed message) ∨
        (∃ elapsed record, isLate plan elapsed lost = true ∧
          outcome = .returned (record, elapsed, .error (lateFailure plan))) ∨
        ∃ e record elapsed, Placed peers past plan lost begun journal' (.returned (.error e)) ∧
          outcome = .returned (record, elapsed, .error (requestFailure plan
            ("client error (Connect)" :: "dns error" :: e.layers) false))) := by
  induction h with
  | lost place =>
    obtain rfl := Option.some.inj hlost
    exact ⟨_, List.prefix_rfl, .inl ⟨_, place, rfl⟩⟩
  | late _ late =>
    obtain rfl := Option.some.inj hlost
    exact ⟨_, List.prefix_rfl, .inr (.inl ⟨_, _, late, rfl⟩)⟩
  | nowhere place =>
    obtain rfl := Option.some.inj hlost
    exact ⟨_, List.prefix_rfl, .inr (.inr ⟨_, _, _, place, rfl⟩)⟩
  | broken | failed | arrived | spent | refused => cases hlost
  | followed runs _ _ _ _ ih =>
    obtain ⟨begun, hbegun, hends⟩ := ih hlost
    obtain ⟨events, hended, -⟩ := runs.requests_eq
    exact ⟨begun, (hended ▸ List.prefix_append _ events).trans hbegun, hends⟩

end Route

/-! ### The whole probe -/

section Journey

variable {context : ScanContext} {domain : String} {address : IpAddress}

/-- What a probe goes by. It names the URL of the challenge file, if there is one. -/
def planOf (context : ScanContext) (domain : String) (address : IpAddress) : Plan where
  domain := domain
  address := address
  settings := context.probes
  first :=
    match firstUrl (challengeUrl domain context.options.effectivePath) with
    | .ok (shown, _) => shown
    | .error _ => ⟨"", "", "", none, none, .plain "", none, none⟩

theorem planOf_eq {shown url : Url}
    (hfirst : firstUrl (challengeUrl domain context.options.effectivePath) = .ok (shown, url)) :
    planOf context domain address = ⟨domain, address, context.probes, shown⟩ := by
  rw [planOf, hfirst]

/-- What a probe makes of the end of its route. -/
inductive Concludes (domain expected : String) :
    Outcome Arrived → Outcome (ProbeResult × Option Problem) → Prop where
  /-- A peer broke down on the way. -/
  | crashed {message : String} : Concludes domain expected (.crashed message) (.crashed message)
  /-- There is a verdict. -/
  | returned {arrived : Arrived} :
    Concludes domain expected (.returned arrived) (.returned (finish domain expected arrived))

/-- A whole probe, with the journal before and after it. -/
inductive Journey (peers : Peers) (past : Nat) (context : ScanContext) (domain : String)
    (address : IpAddress) (journal : List Event) : List Leg → Option Url → List Event →
      Outcome (ProbeResult × Option Problem) → Prop where
  /-- The agent's name cannot stand in a header. -/
  | nameless (agent : isHeaderText context.probes.userAgent = false) :
    Journey peers past context domain address journal [] none journal
      (.returned (announced context domain address, some (.internal
        "Failed to construct validation request: builder error: failed to parse header value"
        .error)))
  /-- There is no URL to begin with. -/
  | unreadable {failure : ProbeFailure} (agent : isHeaderText context.probes.userAgent = true)
      (first : firstUrl (challengeUrl domain context.options.effectivePath) = .error failure) :
    Journey peers past context domain address journal [] none journal
      (.returned (giveUp domain (announced context domain address) 0 failure))
  /-- The requests are sent. -/
  | travelled {shown url : Url} {legs : List Leg} {stranded : Option Url} {journal' : List Event}
      {arrived : Outcome Arrived} {outcome : Outcome (ProbeResult × Option Problem)}
      (agent : isHeaderText context.probes.userAgent = true)
      (first : firstUrl (challengeUrl domain context.options.effectivePath) = .ok (shown, url))
      (route : Route peers past (planOf context domain address) (maxHops - 1) url
        (announced context domain address) journal legs stranded journal' arrived)
      (verdict : Concludes domain context.options.expectedBody arrived outcome) :
    Journey peers past context domain address journal legs stranded journal' outcome

/-- **The runs of a probe.** -/
theorem run_journey {s s' : Session} {outcome : Outcome (ProbeResult × Option Problem)}
    (hs : s.Alone past) (h : (run context domain address).Ends peers s outcome s') :
    ∃ legs stranded, Journey peers past context domain address s.journal legs stranded s'.journal
      outcome := by
  cases hagent : isHeaderText context.probes.userAgent with
  | false =>
    rw [run, hagent] at h
    obtain ⟨rfl, hjournal⟩ := Job.Ends.done_alone h hs
    exact ⟨[], none, hjournal ▸ .nameless hagent⟩
  | true =>
    cases hfirst : firstUrl (challengeUrl domain context.options.effectivePath) with
    | error failure =>
      rw [run, hagent, hfirst] at h
      obtain ⟨rfl, hjournal⟩ := Job.Ends.done_alone h hs
      exact ⟨[], none, hjournal ▸ .unreadable hagent hfirst⟩
    | ok urls =>
      obtain ⟨shown, url⟩ := urls
      obtain ⟨began, s₀, arrived, s₁, hs₀, hsame, hvisit, hjournal, hends⟩ :=
        run_ends hs hagent hfirst h
      rw [← planOf_eq hfirst] at hvisit
      obtain ⟨legs, stranded, hroute⟩ := visit_route hs₀ hvisit
      rw [hsame] at hroute
      rw [hjournal]
      rcases hends with ⟨message, rfl, rfl⟩ | ⟨arrived, rfl, rfl⟩
      · exact ⟨legs, stranded, .travelled hagent hfirst hroute .crashed⟩
      · exact ⟨legs, stranded, .travelled hagent hfirst hroute .returned⟩

section

variable {journal journal' : List Event} {legs : List Leg} {stranded : Option Url}
  {outcome : Outcome (ProbeResult × Option Problem)}

/-- The requests of a probe are those of its legs. -/
theorem Journey.requests_eq
    (h : Journey peers past context domain address journal legs stranded journal' outcome) :
    Journal.requests (journal'.drop journal.length) =
      legs.map (Leg.exchange (planOf context domain address)) := by
  cases h with
  | nameless | unreadable => rw [List.drop_length, Journal.requests_nil, List.map_nil]
  | travelled _ _ route =>
    obtain ⟨events, rfl, hrequests⟩ := route.requests_eq
    rw [List.drop_left, hrequests]

/-- A probe that sends one request has one leg. -/
theorem exists_eq_singleton {plan : Plan}
    (h : Journal.requests journal = legs.map (Leg.exchange plan))
    (hone : (Journal.requests journal).length = 1) : ∃ leg, legs = [leg] := by
  rw [h, List.length_map] at hone
  exact List.length_eq_one_iff.mp hone

/-- Each leg of a probe is one that runs while it lasts. -/
theorem Journey.runs
    (h : Journey peers past context domain address journal legs stranded journal' outcome) :
    ∀ leg ∈ legs, leg.Runs peers past (planOf context domain address) ∧ journal <+: leg.begun ∧
      leg.ended (planOf context domain address) <+: journal' := by
  cases h with
  | nameless | unreadable => exact fun _ hleg => absurd hleg List.not_mem_nil
  | travelled _ _ route => exact route.runs

end

end Journey

end Probe

end Rehearsal
