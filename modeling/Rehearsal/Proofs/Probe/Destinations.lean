import Rehearsal.Proofs.Probe.Journey

/-!
# Where the requests of a probe go

Wherever redirects lead, the domain under test is at the address that it is pinned to, and nothing
is looked up for it. Another host is at one of the addresses that the lookups of the scan have for
it: an IPv6 address if there is one, and only otherwise an IPv4 address. Each outcome of a lookup is
kept, so it does not matter which probe called the resolver.

Where no address is known, or not in time, the request is not sent, and the probe ends with that.
Every request whose place was looked for leaves a line in the trace, which names the address.

## Main definitions

* `Probe.Known`: the addresses of a host that the kept outcomes hold
* `Probe.Dialed`: where a request may go
* `Probe.dialings`: the lines of a trace about places

## Main results

* `Probe.Leg.Runs.dialed`: where the request of a leg goes
* `Probe.Route.dialings_eq`: the lines of a trace about places are those of the legs
* `Probe.run_dials`: what is true of every probe
-/

namespace Rehearsal

namespace Probe

variable {peers : Peers} {past : Nat} {plan : Plan} {host : String} {journal journal' : List Event}

/-! ### What is known of a host -/

/-- These are the addresses of a host in the outcome that is kept for a type. -/
def Known (past : Nat) (journal : List Event) (host : String) (type : RecordType)
    (addresses : List IpAddress) : Prop :=
  ∃ o, Journal.returned (.ofName host type) (journal.drop past) = [o] ∧
    Record.addresses (Check.recordsOf o) = addresses

/-- For each key there is one outcome. -/
def Single (past : Nat) (journal : List Event) : Prop :=
  ∀ key o, .settled key o ∈ journal.drop past → Journal.returned key (journal.drop past) = [o]

/-- What was looked up is known from then on. -/
theorem known_of_looksUp {type : RecordType} {middle : List Event} {o : LookupOutcome}
    (h : LooksUp peers past (.ofName host type) journal middle (.returned o))
    (hpast : past ≤ journal.length) (hend : middle <+: journal') (hsingle : Single past journal') :
    Known past journal' host type (Record.addresses (Check.recordsOf o)) :=
  ⟨o, hsingle _ _ ((hend.drop past).subset (h.settled_mem hpast)), rfl⟩

theorem Known.unique {type : RecordType} {addresses addresses' : List IpAddress}
    (h : Known past journal host type addresses) (h' : Known past journal host type addresses') :
    addresses = addresses' := by
  obtain ⟨o, ho, rfl⟩ := h
  obtain ⟨o', ho', rfl⟩ := h'
  obtain rfl := (List.cons.inj (ho.symm.trans ho')).1
  rfl

/-! ### Searches -/

/-- A search that finds nothing knows that there is nothing. -/
theorem Finds.known_nil {failed : Option LookupError} {types : List RecordType}
    {middle : List Event} {found : Outcome (Except NoAddress IpAddress)} {e : NoAddress}
    (h : Finds peers past host failed types journal middle found)
    (hfound : found = .returned (.error e)) (hpast : past ≤ journal.length)
    (hend : middle <+: journal') (hsingle : Single past journal') :
    ∀ type ∈ types, Known past journal' host type [] := by
  induction h with
  | exhausted => exact fun _ htype => absurd htype List.not_mem_nil
  | passed lookup none rest ih =>
    have hgrown := lookup.journal_extends.isPrefix
    refine List.forall_mem_cons.mpr ⟨?_, ih hfound (hpast.trans hgrown.length_le) hend⟩
    exact none ▸ known_of_looksUp lookup hpast (rest.quiet.isPrefix.trans hend) hsingle
  | drawn => exact absurd (Outcome.returned.inj hfound) nofun
  | undrawn | lost => cases hfound

/-- A search that breaks down does not know whether there is nothing. -/
theorem Finds.not_known_nil {failed : Option LookupError} {types : List RecordType}
    {found : Outcome (Except NoAddress IpAddress)} {message : String}
    (h : Finds peers past host failed types journal journal' found)
    (hfound : found = .crashed message) (hpast : past ≤ journal.length)
    (hsingle : Single past journal') :
    ∃ type ∈ types, ¬Known past journal' host type [] := by
  induction h with
  | exhausted | drawn => cases hfound
  | passed lookup none rest ih =>
    have hgrown := lookup.journal_extends.isPrefix
    obtain ⟨type, htype, hunknown⟩ := ih hfound (hpast.trans hgrown.length_le) hsingle
    exact ⟨type, List.mem_cons_of_mem _ htype, hunknown⟩
  | undrawn lookup some =>
    refine ⟨_, List.mem_cons_self, fun hnone => some ?_⟩
    exact (known_of_looksUp lookup hpast (List.prefix_append _ _) hsingle).unique hnone
  | lost lookup =>
    refine ⟨_, List.mem_cons_self, fun ⟨o, ho, _⟩ => ?_⟩
    have hsettled := Journal.mem_returned.mp (ho ▸ List.mem_singleton_self o)
    cases lookup with
    | lost new =>
      rw [List.drop_append_of_le_length hpast] at hsettled
      rcases List.mem_append.mp hsettled with hsettled | hsettled
      · exact new o hsettled
      · cases List.mem_singleton.mp hsettled

/-! ### Where requests go -/

/-- Where the request for a URL with a named host goes, by the lookups that are known in the end.
The events are those between the request and what was before it. -/
inductive Dialed (past : Nat) (plan : Plan) (journal : List Event) (name : String)
    (events : List Event) (address : IpAddress) : Prop where
  /-- The domain under test is at its address, and nothing is looked up. -/
  | pinned (own : Domain.normalize name = Domain.normalize plan.domain)
      (address_eq : address = plan.address) (quiet : events = [])
  /-- Another host is at one of its IPv6 addresses, and no others are looked up. -/
  | aaaa {addresses : List IpAddress} (other : Domain.normalize name ≠ Domain.normalize plan.domain)
      (known : Known past journal (Domain.normalize name) .aaaa addresses)
      (mem : address ∈ addresses) (spared : .called (.ofName (Domain.normalize name) .a) ∉ events)
  /-- It is at one of its IPv4 addresses if there are no others. -/
  | a {addresses : List IpAddress} (other : Domain.normalize name ≠ Domain.normalize plan.domain)
      (none : Known past journal (Domain.normalize name) .aaaa [])
      (known : Known past journal (Domain.normalize name) .a addresses) (mem : address ∈ addresses)

/-- **A request goes to one of the addresses that are known.** -/
theorem Leg.Runs.dialed {leg : Leg} (h : leg.Runs peers past plan)
    (hpast : past ≤ leg.begun.length) (hend : leg.sent <+: journal')
    (hsingle : Single past journal') {name : String} (hname : leg.url.host = some (.name name)) :
    Dialed past plan journal' name (leg.sent.drop leg.begun.length) leg.address := by
  obtain ⟨url, address, lookedFor, begun, sent, answer⟩ := leg
  obtain ⟨placed, -⟩ := h
  dsimp only at placed hname hpast hend ⊢
  cases placed with
  | v4 hhost | v6 hhost =>
    rw [hname] at hhost
    cases hhost
  | pinned hhost own =>
    obtain rfl := UrlHost.name.inj (Option.some.inj (hname.symm.trans hhost))
    exact .pinned own rfl (List.drop_length ..)
  | found hhost other search =>
    obtain rfl := UrlHost.name.inj (Option.some.inj (hname.symm.trans hhost))
    cases search with
    | @drawn _ _ _ _ middle _ _ below lookup mem =>
      have hlookup : Journal.Extends (· ≠ .called (.ofName (Domain.normalize name) .a)) begun
          middle := lookup.journal_extends.mono fun e he => by
        rcases he with rfl | ⟨o, rfl⟩ <;> simp [LookupKey.ofName]
      have hspared := hlookup.trans ⟨[.asked (.draw below)], rfl, by simp⟩
      have hknown := known_of_looksUp lookup hpast ((List.prefix_append _ _).trans hend) hsingle
      exact .aaaa other hknown mem fun hcalled => hspared.forall_mem_drop _ hcalled rfl
    | passed lookup none rest =>
      have hgrown := lookup.journal_extends.isPrefix
      cases rest with
      | drawn lookup' mem =>
        have hlast := (List.prefix_append _ _).trans hend
        have hpast' := hpast.trans hgrown.length_le
        refine .a other ?_ (known_of_looksUp lookup' hpast' hlast hsingle) mem
        exact none ▸ known_of_looksUp lookup hpast
          (lookup'.journal_extends.isPrefix.trans hlast) hsingle
      | passed _ _ rest => cases rest

/-- A place is looked for if the host is a name. -/
theorem Leg.Runs.lookedFor_iff {leg : Leg} (h : leg.Runs peers past plan) :
    leg.lookedFor = true ↔ ∃ name, leg.url.host = some (.name name) := by
  obtain ⟨url, address, lookedFor, begun, sent, answer⟩ := leg
  obtain ⟨placed, -⟩ := h
  dsimp only at placed ⊢
  cases placed with
  | v4 hhost | v6 hhost => simp [hhost]
  | pinned hhost | found hhost => simp [hhost]

/-! ### Lines of the trace -/

/-- Does a line of a trace tell of a place? -/
def isDialing (text : String) : Bool := "Dialing ".toList.isPrefixOf text.toList

/-- What the lines of a trace about places say. -/
def dialings (result : ProbeResult) : List String := result.texts.filter isDialing

/-- What the line about the place of a leg says. -/
def Leg.dialing (leg : Leg) : String := s!"Dialing {leg.address}"

/-- A note that begins otherwise is not about a place. -/
theorem dialings_note {line : String} (h : isDialing line = false) (elapsed : Nat)
    (result : ProbeResult) : dialings (result.note elapsed line) = dialings result := by
  rw [dialings, ProbeResult.texts_note, List.filter_append, List.filter_singleton, h]
  exact List.append_nil _

theorem dialings_noted (elapsed : Nat) (leg : Leg) (result : ProbeResult) :
    dialings (leg.noted elapsed result) =
      dialings result ++ if leg.lookedFor then [leg.dialing] else [] := by
  unfold Leg.noted
  split
  next =>
    have hdialing : isDialing leg.dialing = true := by
      rw [isDialing, Leg.dialing, String.toList_append]
      rfl
    rw [dialings, ProbeResult.texts_note, ← Leg.dialing, List.filter_append,
      List.filter_singleton, hdialing]
    rfl
  next => exact (List.append_nil _).symm

theorem isDialing_responseLine (response : Response) :
    isDialing (responseLine response) = false := by
  unfold isDialing responseLine
  rw [String.toList_append]
  rfl

theorem dialings_counted (elapsed : Nat) (response : Response) (result : ProbeResult) :
    dialings (counted elapsed response result) = dialings result :=
  dialings_note (isDialing_responseLine response) elapsed _

theorem dialings_received (elapsed : Nat) (response : Response) (target : Url)
    (result : ProbeResult) :
    dialings (received elapsed response target result) = dialings result := by
  rw [received, dialings_note (by rw [isDialing, String.toList_append]; rfl), dialings_counted]

theorem dialings_announced (context : ScanContext) (domain : String) (address : IpAddress) :
    dialings (announced context domain address) = [] :=
  dialings_note (by simp only [isDialing, String.toList_append]; rfl) 0 _

theorem dialings_finish (domain expected : String) (arrived : Arrived) :
    dialings (finish domain expected arrived).1 = dialings arrived.1 := by
  obtain ⟨result, elapsed, arrival⟩ := arrived
  have hclosing : ∀ text ∈ closing arrival, isDialing text = false := by
    rintro text htext
    cases arrival with
    | ok response => exact Option.some.inj htext ▸ isDialing_responseLine response
    | error failure =>
      cases failure with
      | redirect => cases htext
      | transport message timeout =>
        obtain rfl := Option.some.inj htext
        unfold isDialing errorLine
        rw [String.toList_append]
        rfl
  rw [dialings, texts_finish, List.filter_append, ← dialings,
    List.filter_eq_nil_iff.mpr fun text htext => by simp [hclosing text (by simpa using htext)],
    List.append_nil]

/-- **The lines of a trace about places are those of the legs**, in order. -/
theorem Route.dialings_eq {left : Nat} {url : Url} {result : ProbeResult} {legs : List Leg}
    {stranded : Option Url} {outcome : Outcome Arrived}
    (h : Route peers past plan left url result journal legs stranded journal' outcome)
    {arrived : Arrived} (houtcome : outcome = .returned arrived) :
    dialings arrived.1 = dialings result ++ (legs.filter Leg.lookedFor).map Leg.dialing := by
  have hone (elapsed : Nat) (leg : Leg) (result : ProbeResult) :
      dialings (leg.noted elapsed result) =
        dialings result ++ ([leg].filter Leg.lookedFor).map Leg.dialing := by
    rw [dialings_noted, List.filter_singleton]
    cases leg.lookedFor <;> rfl
  induction h with
  | lost | broken => cases houtcome
  | late | nowhere =>
    obtain rfl := Outcome.returned.inj houtcome
    exact (List.append_nil _).symm
  | failed | arrived =>
    obtain rfl := Outcome.returned.inj houtcome
    exact hone _ _ _
  | spent =>
    obtain rfl := Outcome.returned.inj houtcome
    rw [dialings_counted, hone]
  | refused =>
    obtain rfl := Outcome.returned.inj houtcome
    rw [dialings_received, hone]
  | @followed _ _ _ _ leg legs _ _ _ _ _ _ _ _ _ _ ih =>
    rw [ih houtcome, dialings_received, hone, List.append_assoc, ← List.map_append,
      ← List.filter_append, List.singleton_append]

/-! ### The whole probe -/

/-- What becomes of a probe that is left stranded at a host: it is not the domain under test, and
the time ran out while it was looked up, or no address is known of it, which are findings, or else a
peer broke down. -/
def Strands (past : Nat) (plan : Plan) (journal : List Event) (name : String)
    (outcome : Outcome (ProbeResult × Option Problem)) : Prop :=
  Domain.normalize name ≠ Domain.normalize plan.domain ∧
    ((∃ elapsed result, plan.settings.timeout ≤ elapsed ∧
        outcome = .returned (giveUp plan.domain result elapsed (lateFailure plan))) ∨
      ((∀ type ∈ [RecordType.aaaa, .a], Known past journal (Domain.normalize name) type []) ∧
        ∃ result p, outcome = .returned (result, some p)) ∨
      (∃ type ∈ [RecordType.aaaa, .a], ¬Known past journal (Domain.normalize name) type []) ∧
        ∃ message, outcome = .crashed message)

/-- A route that strands a URL ends with what becomes of it. -/
theorem Route.strands {left : Nat} {url lost : Url} {result : ProbeResult} {legs : List Leg}
    {stranded : Option Url} {arrived : Outcome Arrived} {expected : String}
    {outcome : Outcome (ProbeResult × Option Problem)}
    (h : Route peers past plan left url result journal legs stranded journal' arrived)
    (hverdict : Concludes plan.domain expected arrived outcome) (hpast : past ≤ journal.length)
    (hsingle : Single past journal') (hlost : lost ∈ stranded) {name : String}
    (hname : lost.host = some (.name name)) : Strands past plan journal' name outcome := by
  obtain ⟨begun, hgrown, hends⟩ := h.stranded_placed hlost
  have hpast' := hpast.trans hgrown.length_le
  rcases hends with ⟨message, place, rfl⟩ | ⟨elapsed, record, late, rfl⟩ |
    ⟨e, record, elapsed, place, rfl⟩
  · cases hverdict
    cases place with
    | lost hhost other search =>
      obtain rfl := UrlHost.name.inj (Option.some.inj (hname.symm.trans hhost))
      exact ⟨other, .inr (.inr ⟨search.not_known_nil rfl hpast' hsingle, message, rfl⟩)⟩
  · cases hverdict
    obtain ⟨spent, other⟩ := (isLate_iff hname).mp late
    exact ⟨other, .inl ⟨elapsed, record, spent, rfl⟩⟩
  · cases hverdict
    cases place with
    | hostless hhost =>
      rw [hname] at hhost
      cases hhost
    | nowhere hhost other search =>
      obtain rfl := UrlHost.name.inj (Option.some.inj (hname.symm.trans hhost))
      exact ⟨other,
        .inr (.inl ⟨search.known_nil rfl hpast' List.prefix_rfl hsingle, _, _, rfl⟩)⟩

/-- The lines of the trace of a probe about places. -/
theorem Journey.dialings_eq {context : ScanContext} {domain : String} {address : IpAddress}
    {legs : List Leg} {stranded : Option Url} {ended : ProbeResult × Option Problem}
    (h : Journey peers past context domain address journal legs stranded journal'
      (.returned ended)) :
    dialings ended.1 = (legs.filter Leg.lookedFor).map Leg.dialing := by
  cases h with
  | nameless => exact dialings_announced context domain address
  | unreadable =>
    exact (dialings_finish domain "" (_, 0, .error _)).trans
      (dialings_announced context domain address)
  | travelled _ _ route verdict =>
    cases verdict with
    | returned => rw [dialings_finish, route.dialings_eq rfl, dialings_announced, List.nil_append]

/-- **Where the requests of a probe go.** The domain under test is at the address that it is pinned
to; another host is at one of the IPv6 addresses that are known of it, or else at one of the others.
If none is known, or not in time, no request is sent and the probe ends in a finding. -/
theorem run_dials (context : ScanContext) (domain : String) (address : IpAddress) (peers : Peers)
    {past : Nat} {s : Session} (hs : s.Alone past) :
    (∃ fuel outcome s', (run context domain address).run peers fuel s = some (outcome, s')) ∧
    ∀ outcome s', (run context domain address).Ends peers s outcome s' →
      ∃ legs stranded,
        Journey peers past context domain address s.journal legs stranded s'.journal outcome ∧
        Journal.requests (s'.journal.drop s.journal.length) =
          legs.map (Leg.exchange (planOf context domain address)) ∧
        (∀ leg ∈ legs, (leg.lookedFor = true ↔ ∃ name, leg.url.host = some (.name name)) ∧
          ∀ name, leg.url.host = some (.name name) → Dialed past (planOf context domain address)
            s'.journal name (leg.sent.drop leg.begun.length) leg.address) ∧
        (∀ url ∈ stranded, ∀ name, url.host = some (.name name) →
          Strands past (planOf context domain address) s'.journal name outcome) ∧
        ∀ ended, outcome = .returned ended →
          dialings ended.1 = (legs.filter Leg.lookedFor).map Leg.dialing := by
  refine ⟨Job.exists_run_alone peers _ hs, fun outcome s' h => ?_⟩
  obtain ⟨legs, stranded, hjourney⟩ := run_journey hs h
  have hsingle : Single past s'.journal := fun key o hmem =>
    (h.orderly hs.orderly).returned_eq_singleton hmem
  have hpast : past ≤ s.journal.length := hs.orderly.past_le
  refine ⟨legs, stranded, hjourney, hjourney.requests_eq, fun leg hleg => ?_, ?_, ?_⟩
  · obtain ⟨hruns, hbegun, hended⟩ := hjourney.runs leg hleg
    have hsent := (List.prefix_append _ _).trans hended
    exact ⟨hruns.lookedFor_iff, fun name hname =>
      hruns.dialed (hpast.trans hbegun.length_le) hsent hsingle hname⟩
  · generalize s'.journal = journal' at hjourney hsingle ⊢
    cases hjourney with
    | nameless | unreadable => exact fun _ hurl => absurd hurl (Option.not_mem_none _)
    | travelled _ _ route verdict =>
      exact fun url hurl name hname => route.strands verdict hpast hsingle hurl hname
  · rintro ended rfl
    exact hjourney.dialings_eq

/-- A probe that leaves the domain and comes back to it: the other host is looked up, the domain is
not. -/
theorem run_dials_other_host :
    let redirect (location : String) : Response := ⟨302, [("Location", Text.encode location)], [],
      none⟩
    let peers : Peers :=
      { lookup := fun _ key => .now (
          if key = .ofName "www.example.net" .a then
            .ok [.ofData ⟨[], true⟩ 300 (.a 0xC0000207)]
          else .error (.timeout "www.example.net" "AAAA" 5))
        answer := fun _ question => .now (match question with
          | .direct .. => .ok ⟨.noError, []⟩
          | .exchange _ request =>
            if request.target = "/" then .ok (redirect "https://EXAMPLE.ORG/last")
            else if request.target = "/last" then .ok ⟨200, [], [], none⟩
            else .ok (redirect "http://www.example.net/")
          | .addresses _ => []
          | .draw _ => 0) }
    let plan := planOf ⟨.standard, .standard⟩ "example.org" (.v4 0x5DB8D822)
    ∃ (legs : List Leg) (outcome : _) (s' : Session),
      (run ⟨.standard, .standard⟩ "example.org" (.v4 0x5DB8D822)).Ends peers Session.fresh.forget
        outcome s' ∧
      legs.map Leg.address = [.v4 0x5DB8D822, .v4 0xC0000207, .v4 0x5DB8D822] ∧
      (∀ leg ∈ legs, ∀ name, leg.url.host = some (.name name) →
        Dialed 0 plan s'.journal name (leg.sent.drop leg.begun.length) leg.address) ∧
      ∃ ended, outcome = .returned ended ∧
        dialings ended.1 = (legs.filter Leg.lookedFor).map Leg.dialing := by
  intro redirect peers plan
  let addresses (journal : List Event) := (Journal.requests journal).map fun sent => sent.1.address
  have haddresses : ((run ⟨.standard, .standard⟩ "example.org" (.v4 0x5DB8D822)).run peers 40
      Session.fresh.forget).map (fun ended => (ended.1.value?.isSome, addresses ended.2.journal)) =
        some (true, [.v4 0x5DB8D822, .v4 0xC0000207, .v4 0x5DB8D822]) := by decide +kernel
  obtain ⟨⟨outcome, s'⟩, hrun, haddresses⟩ := Option.map_eq_some_iff.mp haddresses
  obtain ⟨hvalue, haddresses⟩ := Prod.mk.inj haddresses
  have h := Job.ends_of_run hrun
  obtain ⟨legs, stranded, -, hrequests, hlegs, -, hlines⟩ :=
    (run_dials ⟨.standard, .standard⟩ "example.org" (.v4 0x5DB8D822) peers
      Session.fresh.alone_forget).2 outcome s' h
  refine ⟨legs, outcome, s', h, ?_, fun leg hleg => (hlegs leg hleg).2, ?_⟩
  · rw [← haddresses]
    refine Eq.trans ?_ (congrArg (List.map fun sent => sent.1.address) hrequests).symm
    rw [List.map_map]
    rfl
  · cases outcome with
    | crashed => cases hvalue
    | returned ended => exact ⟨ended, rfl, hlines ended rfl⟩

end Probe

end Rehearsal
