import Rehearsal.Job.Journal
import Rehearsal.Proofs.Job.Places

/-!
# Lookups are made at most once

However lookups of one key are spread over a job, in whatever order its steps are taken, and
whatever becomes of calls of the resolver, there is at most one call at a time and at most one that
ever returns. What it returns is what every lookup of the key gets. A call that breaks down or is
given up leaves nothing behind, and somebody else calls in its stead. All this is about places of
the job and of strays alike: what was left behind shares the cache with the job.

Keys are made by `Job.lookup`, so two spellings of a name that have one normal form are one key.

## Main definitions

* `Live.AtMostOnce`: the guarantee for one key at one stage of a run

## Main results

* `Live.Turn.journal_eq`: a turn adds an outcome only by a call that returns
* `Live.Awaits.step`: what a lookup becomes by its step
* `Job.Ends.lookupThen_known`: a lookup whose outcome is known calls nobody
* `Job.lookups_at_most_once`: the guarantee holds at every stage of every run
-/

namespace Rehearsal

namespace Live

variable {α β γ : Type} {peers : Peers} {s s' : Session} {p : Place} {key : LookupKey}
  {past : Nat}

/-! ### What is stored -/

/-- A turn adds an outcome to the journal only if a call returns it to whoever made it. -/
theorem Turn.journal_eq {live live' : Live α} (h : Turn peers live s live' s') (key : LookupKey) :
    ∃ events, s'.journal = s.journal ++ events ∧
      (Journal.returned key events = [] ∨
        ∃ (p : List Nat) (β : Type) (due : Due) (seat : Seat) (outcome : LookupOutcome)
          (next : LookupOutcome → Job β),
          live.At p (calling due key seat (.returned outcome) next) ∧
          (∃ due', live'.At p (ready due' (next outcome))) ∧ events = [.settled key outcome]) := by
  induction h with
  | done | crash | wait | hit | fork | serve | sleep | join =>
    exact ⟨[], (List.append_nil _).symm, .inl rfl⟩
  | log | ask | call | takeOver => exact ⟨_, rfl, .inl rfl⟩
  | @settle _ due _ key' seat outcome next s =>
    refine ⟨_, rfl, ?_⟩
    by_cases hkey : key' = key
    · subst hkey
      exact .inr ⟨[], _, due, seat, outcome, next, .here, ⟨_, .here⟩, rfl⟩
    · refine .inl ?_
      rw [Journal.returned_singleton_settled, if_neg hkey]
  | lose => exact ⟨[], by rw [Session.journal_leave, List.append_nil], .inl rfl⟩
  | finish => exact ⟨[], by rw [journal_abandonAll, List.append_nil], .inl rfl⟩
  | part i _ _ ih | partEnds i _ _ ih =>
    obtain ⟨events, hjournal, hevents⟩ := ih
    refine ⟨events, hjournal, hevents.imp_right ?_⟩
    rintro ⟨p, β, due, seat, outcome, next, hat, ⟨due', hafter⟩, heq⟩
    refine ⟨i.val :: p, β, due, seat, outcome, next, .child i hat, ⟨due', .child i ?_⟩, heq⟩
    rwa [Function.update_self]

/-- A step of any place adds an outcome to the journal only if a call returns it to whoever made
it. -/
theorem go_journal_eq (peers : Peers) (live : Live α) (s : Session) (outer : Bool) (due : Due)
    (q : Place) (key : LookupKey) :
    let later := live.go peers outer due q s
    ∃ events, later.2.journal = s.journal ++ events ∧
      (Journal.returned key events = [] ∨
        ∃ (p : Place) (β : Type) (due : Due) (seat : Seat) (outcome : LookupOutcome)
          (next : LookupOutcome → Job β),
          Stage.At (live, s) p (calling due key seat (.returned outcome) next) ∧
          (∃ due', Stage.At later p (ready due' (next outcome))) ∧
          events = [.settled key outcome]) := by
  intro later
  cases q with
  | own path =>
    rcases @advance_turn _ peers live outer due path s with hidle | ⟨s₁, turn, passes⟩
    · refine ⟨[], ?_, .inl rfl⟩
      rw [show later = (live, s) from hidle, List.append_nil]
    · obtain ⟨events, hjournal, hevents⟩ := turn.journal_eq key
      refine ⟨events, passes.journal.trans hjournal, hevents.imp_right ?_⟩
      rintro ⟨p, β, due, seat, outcome, next, hat, ⟨due', hafter⟩, heq⟩
      exact ⟨.own p, β, due, seat, outcome, next, .own hat, ⟨due', .own hafter⟩, heq⟩
  | stray i path =>
    cases at_ : s.strays[i]? with
    | none =>
      refine ⟨[], ?_, .inl rfl⟩
      rw [show later.2 = s by simp only [later, go, advanceStray, at_], List.append_nil]
    | some stray =>
      obtain ⟨halike, hnow⟩ := advanceStray_self peers due path at_
      rcases @advance_turn _ peers stray.live false due path
        { s with strays := s.strays.set i .gone } with hidle | ⟨s₁, turn, passes⟩
      · refine ⟨[], halike.journal.trans ?_, .inl rfl⟩
        rw [hidle, List.append_nil]
      · obtain ⟨events, hjournal, hevents⟩ := turn.journal_eq key
        refine ⟨events, halike.journal.trans (passes.journal.trans hjournal),
          hevents.imp_right ?_⟩
        rintro ⟨p, β, due', seat, outcome, next, hat, ⟨due'', hafter⟩, heq⟩
        exact ⟨.stray i p, β, due', seat, outcome, next, .stray at_ hat,
          ⟨due'', .stray hnow hafter⟩, heq⟩

/-! ### What a lookup becomes -/

section Awaits

variable {place : Live β} {next : LookupOutcome → Job β}

theorem Awaits.outcome?_eq_none (h : place.Awaits key next) : place.outcome? = none := by
  cases h <;> rfl

/-- A lookup has no places below it. -/
theorem Awaits.advance_eq (h : place.Awaits key next) (due : Due) (s : Session) (outer : Bool)
    (q : List Nat) : place.advance peers outer due q s = place.advance peers true due [] s := by
  cases h <;> rfl

/-- By its step a lookup goes on waiting, or its call breaks down, or it gets the outcome. -/
theorem Awaits.step (h : place.Awaits key next) (due : Due) (s : Session) :
    (place.advance peers true due [] s).1.Awaits key next ∨
      (∃ due' seat message, place = calling due' key seat (.crashed message) next ∧
        (place.advance peers true due [] s).1 = ended (.crashed message)) ∨
      ∃ due' outcome, (place.advance peers true due [] s).1 = ready due' (next outcome) ∧
        ((place.advance peers true due [] s).2.entry key).cell.outcome = some outcome := by
  cases h with
  | @asks due' =>
    unfold advance step lookUp
    simp only
    split
    next outcome known => exact .inr (.inr ⟨due', outcome, rfl, known⟩)
    next =>
      split
      · exact .inl .calls
      · exact .inl .waits
  | @calls due' seat answer =>
    cases answer with
    | returned outcome =>
      exact .inr (.inr ⟨due', outcome, rfl, by simp [advance, LookupCell.settle]⟩)
    | crashed message => exact .inr (.inl ⟨due', seat, message, rfl, rfl⟩)
  | waits =>
    unfold advance
    split
    next outcome known => exact .inr (.inr ⟨due, outcome, rfl, known⟩)
    next =>
      split
      · exact .inl .calls
      · exact .inl .waits

end Awaits

/-! ### Who calls -/

/-- What is where does not depend on the time. -/
theorem at_clock {live : Live α} {place : Live β} (h : Stage.At (live, s) p place) (clock : Nat) :
    Stage.At (live, { s with clock }) p place := by
  cases h with
  | own hat => exact .own hat
  | stray at_ hat => exact .stray at_ hat

/-- A place calls the resolver by its step. -/
def WouldCall (peers : Peers) (live : Live α) (s : Session) (p : Place) (key : LookupKey) : Prop :=
  ∀ outer due clock,
    (live.go peers outer due p { s with clock }).2.journal = s.journal ++ [.called key] ∧
    ∃ (β : Type) (place : Live β),
      Stage.At (live.go peers outer due p { s with clock }) p place ∧ place.Calls key

theorem wouldCall_of_at {live : Live α} {place : Live β} {next : LookupOutcome → Job β}
    (h : Stage.At (live, s) p place) (hplace : place.Awaits key next)
    (hcall : ∀ due s', s.Alike s' →
      (place.advance peers true due [] s').2.journal = s.journal ++ [.called key] ∧
      (place.advance peers true due [] s').1.Calls key) :
    WouldCall peers live s p key := by
  intro outer due clock
  obtain ⟨s₁, hbefore, hat, hafter⟩ :=
    (at_clock h clock).step_self peers hplace.outcome?_eq_none (hplace.advance_eq due) outer
  have hcalled := hcall due s₁ ⟨hbefore.cache, hbefore.journal⟩
  exact ⟨hafter.journal.trans hcalled.1, _, _, hat, hcalled.2⟩

/-- Where a key is neither known nor called and somebody waits for it, somebody who waits would
call. -/
theorem exists_seated_wouldCall {live : Live α} (hs : s.Orderly live.holdings past)
    (hunknown : (s.entry key).cell.outcome = none)
    (hnone : ∀ (p : Place) (β : Type) (x : Live β), Stage.At (live, s) p x → ¬x.Calls key)
    (hqueue : (s.entry key).cell.queue ≠ []) :
    ∃ (q : Place) (γ : Type) (seat : Seat) (next : LookupOutcome → Job γ),
      Stage.At (live, s) q (seated key seat next) ∧ WouldCall peers live s q key := by
  obtain ⟨first, rest, hcons⟩ := List.exists_cons_of_ne_nil hqueue
  have hfirst : first ∈ (s.entry key).cell.queue := by
    rw [hcons]
    exact List.mem_cons_self
  obtain ⟨calls, hmem⟩ := (hs.mem_queue key hunknown first).mp hfirst
  obtain ⟨q, γ, place, next, hat, ⟨due, answer, rfl⟩ | rfl⟩ :=
    Stage.exists_at_of_mem_holdings hmem
  · exact absurd .intro (hnone q γ _ hat)
  · refine ⟨q, γ, first, next, hat, wouldCall_of_at hat .waits fun due s' halike => ?_⟩
    have hcaller : (s'.entry key).cell.caller? = some first := by
      rw [halike.entry, LookupCell.caller?, hunknown, hcons]
      rfl
    unfold advance
    rw [halike.entry] at hcaller
    rw [halike.entry, hunknown, if_pos hcaller]
    refine ⟨(Session.passes_later ..).journal.trans ?_, .intro⟩
    rw [Session.note, halike.journal]

/-- Where a key is neither known nor called and nobody waits for it, whoever asks would call. -/
theorem asks_wouldCall {live : Live α} {due : Due} {next : LookupOutcome → Job β}
    (h : Stage.At (live, s) p (ready due (.lookupThen key next)))
    (hunknown : (s.entry key).cell.outcome = none) (hqueue : (s.entry key).cell.queue = []) :
    WouldCall peers live s p key := by
  refine wouldCall_of_at h .asks fun due' s' halike => ?_
  unfold advance Live.step lookUp
  simp only [halike.entry, hunknown, hqueue]
  refine ⟨(Session.passes_later ..).journal.trans ?_, .intro⟩
  simp [Session.note, Session.store, halike.journal]

/-! ### The guarantee -/

/-- Lookups of a key are made at most once: what holds at a stage of a run, `past` being the length
of the journal when it began. Places are those of the job and of strays. -/
structure AtMostOnce (peers : Peers) (past : Nat) (key : LookupKey) (live : Live α) (s : Session) :
    Prop where
  /-- No two calls for the key are under way. -/
  underWay : ∀ (p q : Place) (β γ : Type) (x : Live β) (y : Live γ), Stage.At (live, s) p x →
    Stage.At (live, s) q y → x.Calls key → y.Calls key → p = q
  /-- At most one call for the key has returned. -/
  returned : (Journal.returned key (s.news past)).length ≤ 1
  /-- Once a call has returned, there is no other. -/
  closed : ∀ front outcome back, s.news past = front ++ .settled key outcome :: back →
    .called key ∉ back
  /-- Whatever step is taken next, a lookup goes on waiting unless its place is taken away, or its
  own call breaks down, or it gets what the one call returned. -/
  outcome : ∀ outer due q clock (p : Place) (β : Type) (place : Live β)
    (next : LookupOutcome → Job β), Stage.At (live, s) p place → place.Awaits key next →
    let later := live.go peers outer due q { s with clock }
    Stage.Gone later p ∨ ∃ place' : Live β, Stage.At later p place' ∧
      (place'.Awaits key next ∨
        (∃ due' seat message, place = calling due' key seat (.crashed message) next ∧
          place' = ended (.crashed message)) ∨
        ∃ due' outcome, place' = ready due' (next outcome) ∧
          Journal.returned key (later.2.news past) = [outcome])
  /-- Whatever step is taken next, nothing is stored but what a call returns to whoever made it. -/
  stored : ∀ outer due q clock,
    let later := live.go peers outer due q { s with clock }
    Journal.returned key (later.2.news past) = Journal.returned key (s.news past) ∨
      ∃ (p : Place) (β : Type) (due' : Due) (seat : Seat) (outcome : LookupOutcome)
        (next : LookupOutcome → Job β),
        Stage.At (live, s) p (calling due' key seat (.returned outcome) next) ∧
        (∃ due'', Stage.At later p (ready due'' (next outcome))) ∧
        Journal.returned key (s.news past) = [] ∧
        Journal.returned key (later.2.news past) = [outcome]
  /-- If no call has returned and none is under way, whoever wants the outcome would call the
  resolver, or somebody would who waits for it already. -/
  calledAnew : Journal.returned key (s.news past) = [] →
    (∀ (p : Place) (β : Type) (x : Live β), Stage.At (live, s) p x → ¬x.Calls key) →
    ∀ (p : Place) (β : Type) (place : Live β) (next : LookupOutcome → Job β),
      Stage.At (live, s) p place → place.Awaits key next → WouldCall peers live s p key ∨
        ∃ (q : Place) (γ : Type) (seat : Seat) (next' : LookupOutcome → Job γ),
          Stage.At (live, s) q (seated key seat next') ∧ WouldCall peers live s q key

/-- Two calls for one key would sit at the head of one queue. -/
theorem eq_of_calls {live : Live α} {q : Place} {x : Live β} {y : Live γ}
    (hs : s.Orderly live.holdings past) (hx : Stage.At (live, s) p x)
    (hy : Stage.At (live, s) q y) (hcallx : x.Calls key) (hcally : y.Calls key) : p = q := by
  by_contra hne
  have hle := hx.holdings_add_le hy hcallx hcally hne
  cases hcallx with
  | @intro _ seat =>
    cases hcally with
    | @intro _ seat' =>
      have hcaller := hs.caller ⟨key, seat, true⟩
        (Multiset.mem_of_le hle (Multiset.mem_add.mpr (.inl (Multiset.mem_singleton_self _)))) rfl
      have hcaller' := hs.caller ⟨key, seat', true⟩
        (Multiset.mem_of_le hle (Multiset.mem_add.mpr (.inr (Multiset.mem_singleton_self _)))) rfl
      obtain rfl : seat = seat' := Option.some.inj (hcaller.symm.trans hcaller')
      have hnodup := Multiset.nodup_of_le (Multiset.map_le_map hle) hs.nodup
      rw [Multiset.map_add, Multiset.nodup_add] at hnodup
      exact Multiset.disjoint_left.mp hnodup.2.2
        (Multiset.mem_map_of_mem _ (Multiset.mem_singleton_self _))
        (Multiset.mem_map_of_mem _ (Multiset.mem_singleton_self _))

theorem orderly_go {live : Live α} (hs : s.Orderly live.holdings past) (peers : Peers)
    (outer : Bool) (due : Due) (q : Place) (clock : Nat) :
    Session.Orderly (live.go peers outer due q { s with clock }).1.holdings past
      (live.go peers outer due q { s with clock }).2 := by
  have hlead : Stage.Leads peers (live, s) (live.go peers outer due q { s with clock }) :=
    .single ⟨outer, due, q, clock, rfl⟩
  exact hlead.orderly hs

/-- A lookup gets what the one call returned, if a step gives it anything. -/
theorem outcome_of_orderly {live : Live α} {place : Live β} {next : LookupOutcome → Job β}
    (hat : Stage.At (live, s) p place) (hplace : place.Awaits key next)
    (hs : s.Orderly live.holdings past) (peers : Peers) (outer : Bool) (due : Due)
    (q : Place) (clock : Nat) :
    let later := live.go peers outer due q { s with clock }
    Stage.Gone later p ∨ ∃ place' : Live β, Stage.At later p place' ∧
      (place'.Awaits key next ∨
        (∃ due' seat message, place = calling due' key seat (.crashed message) next ∧
          place' = ended (.crashed message)) ∨
        ∃ due' outcome, place' = ready due' (next outcome) ∧
          Journal.returned key (later.2.news past) = [outcome]) := by
  intro later
  rcases (at_clock hat clock).step peers hplace.outcome?_eq_none
    (hplace.advance_eq due) outer q with hgone | hsame | ⟨s₁, -, hstep, halike⟩
  · exact .inl hgone
  · exact .inr ⟨place, hsame, .inl hplace⟩
  · refine .inr ⟨_, hstep, ?_⟩
    rcases hplace.step due s₁ with hwait | hlost | ⟨due', outcome, hready, hknown⟩
    · exact .inl hwait
    · exact .inr (.inl hlost)
    · refine .inr (.inr ⟨due', outcome, hready, ?_⟩)
      rw [(orderly_go hs peers outer due q clock).returned, halike.entry, hknown]
      rfl

/-- A step stores nothing but what a call returns to whoever made it, and only if nothing is stored
yet. -/
theorem stored_of_orderly {live : Live α} (hs : s.Orderly live.holdings past) (peers : Peers)
    (outer : Bool) (due : Due) (q : Place) (clock : Nat) :
    let later := live.go peers outer due q { s with clock }
    Journal.returned key (later.2.news past) = Journal.returned key (s.news past) ∨
      ∃ (p : Place) (β : Type) (due' : Due) (seat : Seat) (outcome : LookupOutcome)
        (next : LookupOutcome → Job β),
        Stage.At (live, s) p (calling due' key seat (.returned outcome) next) ∧
        (∃ due'', Stage.At later p (ready due'' (next outcome))) ∧
        Journal.returned key (s.news past) = [] ∧
        Journal.returned key (later.2.news past) = [outcome] := by
  intro later
  obtain ⟨events, hjournal, hevents⟩ := go_journal_eq peers live { s with clock } outer due q key
  have hnews : later.2.news past = s.news past ++ events :=
    Session.news_append_of_journal hs.past_le hjournal
  rw [hnews, Journal.returned_append]
  rcases hevents with hnone | ⟨p, β, due', seat, outcome, next, hat, hafter, rfl⟩
  · left
    rw [hnone, List.append_nil]
  · right
    have hone := (orderly_go hs peers outer due q clock).length_returned_le key
    rw [hnews, Journal.returned_append, Journal.returned_singleton_settled, if_pos rfl,
      List.length_append, List.length_singleton] at hone
    have hempty : Journal.returned key (s.news past) = [] :=
      List.eq_nil_of_length_eq_zero (by omega)
    refine ⟨p, β, due', seat, outcome, next, at_clock hat s.clock, hafter, hempty, ?_⟩
    rw [hempty, Journal.returned_singleton_settled, if_pos rfl, List.nil_append]

/-- Where no call has returned and none is under way, whoever waits would call, or somebody
who waited before. -/
theorem calledAnew_of_orderly {live : Live α} {place : Live β} {next : LookupOutcome → Job β}
    (hat : Stage.At (live, s) p place) (hplace : place.Awaits key next)
    (hs : s.Orderly live.holdings past) (hreturned : Journal.returned key (s.news past) = [])
    (hnone : ∀ (p : Place) (β : Type) (x : Live β), Stage.At (live, s) p x → ¬x.Calls key) :
    WouldCall peers live s p key ∨
      ∃ (q : Place) (γ : Type) (seat : Seat) (next' : LookupOutcome → Job γ),
        Stage.At (live, s) q (seated key seat next') ∧ WouldCall peers live s q key := by
  have hunknown : (s.entry key).cell.outcome = none := by
    rw [hs.returned] at hreturned
    cases houtcome : (s.entry key).cell.outcome with
    | none => rfl
    | some outcome =>
      rw [houtcome] at hreturned
      cases hreturned
  by_cases hqueue : (s.entry key).cell.queue = []
  · cases hplace with
    | asks => exact .inl (asks_wouldCall hat hunknown hqueue)
    | calls => exact absurd .intro (hnone p β _ hat)
    | @waits seat =>
      have hmem := (hs.mem_queue key hunknown seat).mpr
        ⟨false, Multiset.mem_of_le hat.holdings_le (Multiset.mem_singleton_self _)⟩
      rw [hqueue] at hmem
      cases hmem
  · exact .inr (exists_seated_wouldCall hs hunknown hnone hqueue)

theorem atMostOnce_of_orderly {live : Live α} (hs : s.Orderly live.holdings past) :
    AtMostOnce peers past key live s where
  underWay := fun _ _ _ _ _ _ hx hy => eq_of_calls hs hx hy
  returned := hs.length_returned_le key
  closed := by
    intro front outcome back hnews hmem
    have hclosed := hs.closed
    rw [hnews, Journal.Closed, List.pairwise_append, List.pairwise_cons] at hclosed
    exact hclosed.2.1.1 _ hmem key outcome rfl rfl
  outcome := fun outer due q clock _ _ _ _ hat hplace =>
    outcome_of_orderly hat hplace hs peers outer due q clock
  stored := stored_of_orderly hs peers
  calledAnew := fun hreturned hnone _ _ _ _ hat hplace =>
    calledAnew_of_orderly hat hplace hs hreturned hnone

end Live

/-- Peers among which a table tells the outcomes of lookups, no server is reached and nobody knows
any address. -/
def Peers.answering (resolve : LookupKey → LookupOutcome) : Peers where
  lookup _ key := .now (resolve key)
  answer _ question := .now (match question with
    | .direct .. => .ok ⟨.noError, []⟩
    | .exchange .. => .error (.connect .refused)
    | .addresses _ => []
    | .draw _ => 0)

namespace Job

variable {α : Type}

/-- A lookup whose outcome is known gives it, and nothing is called. -/
theorem Ends.lookupThen_known {peers : Peers} {key : LookupKey} {next : LookupOutcome → Job α}
    {s s' : Session} {o : Outcome α} {outcome : LookupOutcome} {past : Nat}
    (h : (Job.lookupThen key next).Ends peers s o s') (hs : s.Orderly 0 past)
    (hknown : .settled key outcome ∈ s.news past) :
    ∃ s₁, s.Drifts peers s₁ ∧ (next outcome).Ends peers s₁ o s' := by
  obtain ⟨due, s₀, live, s₁, s₂, before, turn, after, hlead⟩ := h.turn
  have hnow := (hs.drifts before).outcome_of_mem_news
    (Session.news_subset before.journal_grows past hknown)
  cases turn with
  | hit known =>
    obtain rfl := Option.some.inj (known.symm.trans hnow)
    exact ⟨s₂, before.trans after.drifts, _, hlead⟩
  | call unknown | join unknown =>
    rw [hnow] at unknown
    cases unknown

/-- **Lookups are made at most once**, at every stage of every run of every job that begins with an
empty cache. -/
theorem lookups_at_most_once (peers : Peers) (job : Job α) (due : Due) (s : Session)
    (key : LookupKey) (live : Live α) (s' : Session)
    (h : Stage.Leads peers (.ready due job, s.forget) (live, s')) :
    live.AtMostOnce peers s.journal.length key s' :=
  Live.atMostOnce_of_orderly (h.orderly_of_cache_eq_nil rfl rfl)

/-- Two lookups of one name, each in a spelling of its own. The first calls, and the second waits
for it; the call is lost, so that the second calls anew, and what that call returns is kept. -/
theorem lookups_at_most_once_called_anew :
    let key : LookupKey := .ofName "example.org" .a
    let peers : Peers := { Peers.answering fun _ => .ok [] with
      lookup history _ := if history.isEmpty then ⟨0, .crashed "lost"⟩ else .now (.ok []) }
    let job := Job.all [Job.lookup "Example.org." .a, Job.lookup "example.ORG" .a]
    let start : Stage (List LookupOutcome) := (.ready .start job, .fresh)
    let turn (stage : Stage (List LookupOutcome)) (path : List Nat) :=
      stage.1.go peers true .start (.own path) stage.2
    let waiting := [[], [0], [1]].foldl turn start
    let lost := [[], [0], [1], [0]].foldl turn start
    let served := [[], [0], [1], [0], [1], [1]].foldl turn start
    (waiting.1.AtMostOnce peers 0 key waiting.2 ∧ Journal.calls waiting.2.journal = [key] ∧
      (waiting.2.entry key).cell.queue = [3, 4]) ∧
    (lost.1.AtMostOnce peers 0 key lost.2 ∧ Journal.calls lost.2.journal = [key] ∧
      (lost.2.entry key).cell.queue = [4]) ∧
    served.1.AtMostOnce peers 0 key served.2 ∧ Journal.calls served.2.journal = [key, key] ∧
      Journal.returned key served.2.journal = [.ok []] := by
  intro key peers job start turn waiting lost served
  have leads (paths : List (List Nat)) (stage : Stage (List LookupOutcome)) :
      Stage.Leads peers stage (paths.foldl turn stage) := by
    induction paths generalizing stage with
    | nil => exact .refl
    | cons path paths ih =>
      exact .head ⟨true, .start, .own path, stage.2.clock, rfl⟩ (ih (turn stage path))
  have once (paths : List (List Nat)) :
      (paths.foldl turn start).1.AtMostOnce peers 0 key (paths.foldl turn start).2 :=
    lookups_at_most_once peers job .start .fresh key _ _ (leads paths start)
  exact ⟨⟨once [[], [0], [1]], by decide +kernel, by decide +kernel⟩,
    ⟨once [[], [0], [1], [0]], by decide +kernel, by decide +kernel⟩,
    once [[], [0], [1], [0], [1], [1]], by decide +kernel, by decide +kernel⟩

end Job

end Rehearsal
