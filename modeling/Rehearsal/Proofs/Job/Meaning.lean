import Rehearsal.Proofs.Job.Ending

/-!
# What a job gives

A run has a clock, tickets, seats and an order of steps. What a job ends with depends on them only
through the answers that it gets. `Job.Gives` tells what a job may end with in a world, which is a
set of answers: it follows the tree, and at a fork it takes any children in any order. Two lookups
of one key may still get different answers there; that they do not is for the world to say, and a
run always has such a world.

A run is read backwards: what a job under way gives after a turn, it gives before it.

## Main definitions

* `World`: the answers there may be
* `Job.Gives`: what a job may end with in a world
* `World.Covers`: the answers of a run are among those of a world
* `Job.Yields`: whatever value a job returns, something is true of it

## Main results

* `Live.Turn.gives`: a turn takes no outcome away
* `Job.Ends.gives`: what a run ends with, the job gives
* `Job.Gives.of_bind`, `Job.Gives.of_all`: what jobs that are put together give
* `Job.gather_of_perm`: what is gathered from completions does not depend on their order
* `Job.Yields.bind`, `Job.yields_race`: the rules for what is true of values
-/

namespace Rehearsal

/-- The answers there may be. -/
structure World where
  /-- What lookups of a key may return. -/
  settled : LookupKey → LookupOutcome → Prop
  /-- With what calls of the resolver for a key may break down. -/
  lost : LookupKey → String → Prop
  /-- What a question may be answered with. -/
  answers : (question : Question) → Outcome question.Answer → Prop

namespace Job

variable {α β : Type} {w : World}

/-- What a job may end with in a world. -/
inductive Gives (w : World) : {α : Type} → Job α → Outcome α → Prop where
  | done {α : Type} {value : α} : Gives w (done value) (.returned value)
  | crash {α : Type} {message : String} : Gives w (crash message : Job α) (.crashed message)
  | logThen {α : Type} {line : LogLine} {next : Job α} {o : Outcome α} (h : Gives w next o) :
    Gives w (logThen line next) o
  | waitThen {α : Type} {milliseconds time : Nat} {next : Nat → Job α} {o : Outcome α}
    (h : Gives w (next time) o) : Gives w (waitThen milliseconds next) o
  | askThen {α : Type} {question : Question} {next : question.Answer → Job α} {o : Outcome α}
    {answer : question.Answer} (hanswer : w.answers question (.returned answer))
    (h : Gives w (next answer) o) : Gives w (askThen question next) o
  | askLost {α : Type} {question : Question} {next : question.Answer → Job α} {message : String}
    (hanswer : w.answers question (.crashed message)) :
    Gives w (askThen question next) (.crashed message)
  | lookupThen {α : Type} {key : LookupKey} {next : LookupOutcome → Job α} {o : Outcome α}
    {outcome : LookupOutcome} (houtcome : w.settled key outcome) (h : Gives w (next outcome) o) :
    Gives w (lookupThen key next) o
  | lookupLost {α : Type} {key : LookupKey} {next : LookupOutcome → Job α} {message : String}
    (hlost : w.lost key message) : Gives w (lookupThen key next) (.crashed message)
  | fork {α β : Type} {manner : Manner} {n : Nat} {child : Fin n → Job β}
    {enough : Completions n β → Bool} {finish : Completions n β → Job α} {o : Outcome α}
    {completions : Completions n β} (hnodup : (completions.map Prod.fst).Nodup)
    (hchild : ∀ c ∈ completions, Gives w (child c.1) c.2)
    (hthrough : completions.length = n ∨ enough completions = true)
    (h : Gives w (finish completions) o) : Gives w (fork manner n child enough finish) o

end Job

namespace Live

variable {α β : Type} {w : World} {peers : Peers} {s s' : Session}

/-- What a job under way may end with in a world. -/
def Gives (w : World) : {α : Type} → Live α → Outcome α → Prop
  | _, ended outcome, o => o = outcome
  | _, ready _ job, o => job.Gives w o
  | _, calling _ key _ (.returned outcome) next, o =>
    w.settled key outcome ∧ (next outcome).Gives w o
  | _, calling _ _ _ (.crashed message) _, o => o = .crashed message
  | _, seated key _ next, o => (Job.lookupThen key next).Gives w o
  | _, forked _ n children completions _ enough finish, o =>
    ∃ more : Completions n _, ((completions ++ more).map Prod.fst).Nodup ∧
      (∀ c ∈ more, (children c.1).Gives w c.2) ∧
      ((completions ++ more).length = n ∨ enough (completions ++ more) = true) ∧
      (finish (completions ++ more)).Gives w o

end Live

namespace World

/-- The answers of the peers, and what calls returned in a run, are among those of a world. -/
structure Covers (w : World) (peers : Peers) (news : List Event) : Prop where
  /-- What calls of the resolver returned. -/
  settled : ∀ key outcome, .settled key outcome ∈ news → w.settled key outcome
  /-- With what they may have broken down. -/
  lost : ∀ journal key message, (peers.lookup journal key).outcome = .crashed message →
    w.lost key message
  /-- What the others may have answered. -/
  answers : ∀ journal question, w.answers question (peers.answer journal question).outcome

theorem Covers.mono {w : World} {peers : Peers} {news news' : List Event}
    (h : w.Covers peers news') (hsub : news ⊆ news') : w.Covers peers news :=
  ⟨fun key outcome hmem => h.settled key outcome (hsub hmem), h.lost, h.answers⟩

/-- The world in which lookups return what calls returned in a run, and everything else may happen.
-/
def seen (news : List Event) : World where
  settled key outcome := .settled key outcome ∈ news
  lost _ _ := True
  answers _ _ := True

theorem covers_seen (peers : Peers) (news : List Event) : (seen news).Covers peers news :=
  ⟨fun _ _ h => h, fun _ _ _ _ => trivial, fun _ _ => trivial⟩

/-- The world in which lookups return what calls returned in a run, and the peers do what they may
do at any time. -/
def ofPeers (peers : Peers) (news : List Event) : World where
  settled key outcome := .settled key outcome ∈ news
  lost key message := ∃ journal, (peers.lookup journal key).outcome = .crashed message
  answers question outcome := ∃ journal, (peers.answer journal question).outcome = outcome

theorem covers_ofPeers (peers : Peers) (news : List Event) :
    (ofPeers peers news).Covers peers news :=
  ⟨fun _ _ h => h, fun journal _ _ h => ⟨journal, h⟩, fun journal _ => ⟨journal, rfl⟩⟩

end World

namespace Live

variable {α β : Type} {w : World} {peers : Peers} {s s' : Session}

/-! ### A run read backwards -/

/-- A call of the resolver gives what its lookup gives. -/
theorem gives_lookupThen_of_calling {news : List Event} (hw : w.Covers peers news) {due : Due}
    {key : LookupKey} {seat : Seat} {journal : List Event} {next : LookupOutcome → Job α}
    {o : Outcome α}
    (h : (calling due key seat (peers.lookup journal key).outcome next).Gives w o) :
    (Job.lookupThen key next).Gives w o := by
  cases hanswer : (peers.lookup journal key).outcome with
  | returned outcome =>
    rw [hanswer] at h
    exact .lookupThen h.1 h.2
  | crashed message =>
    rw [hanswer] at h
    obtain rfl : o = .crashed message := h
    exact .lookupLost (hw.lost journal key message hanswer)

/-- What more children of a fork may end with after one of them has gone on. -/
theorem forall_gives_of_update {n : Nat} {children : Fin n → Live β} {i : Fin n} {child : Live β}
    {more : Completions n β} (hchild : ∀ o, child.Gives w o → (children i).Gives w o)
    (h : ∀ c ∈ more, (Function.update children i child c.1).Gives w c.2) :
    ∀ c ∈ more, (children c.1).Gives w c.2 := by
  intro c hc
  have hgive := h c hc
  rw [Function.update_apply] at hgive
  split at hgive
  next hi => exact hi ▸ hchild c.2 hgive
  next => exact hgive

/-- What more children of a fork may end with after one of them has ended, which ends no second
time. -/
theorem forall_gives_of_ended {n : Nat} {children : Fin n → Live β} {i : Fin n}
    {outcome : Outcome β} {completions more : Completions n β}
    (hnodup : ((completions ++ (i, outcome) :: more).map Prod.fst).Nodup)
    (hchild : (children i).Gives w outcome)
    (h : ∀ c ∈ more, (Function.update children i (ended outcome) c.1).Gives w c.2) :
    ∀ c ∈ (i, outcome) :: more, (children c.1).Gives w c.2 := by
  refine List.forall_mem_cons.mpr ⟨hchild, fun c hc => ?_⟩
  have hgive := h c hc
  rwa [Function.update_of_ne] at hgive
  rintro rfl
  rw [List.map_append, List.nodup_append, List.map_cons, List.nodup_cons] at hnodup
  exact hnodup.2.1.1 (List.mem_map.mpr ⟨c, hc, rfl⟩)

/-- **A turn takes no outcome away**: what a job under way gives after it, it gives before. -/
theorem Turn.gives {live live' : Live α} {o : Outcome α} {F : Multiset Holding} {past : Nat}
    (h : Turn peers live s live' s') (hw : w.Covers peers (s'.news past)) (hsound : live.Sound)
    (hs : s.Orderly (live.holdings + F) past) (hgives : live'.Gives w o) : live.Gives w o := by
  induction h generalizing F with
  | done =>
    obtain rfl := hgives
    exact .done
  | crash =>
    obtain rfl := hgives
    exact .crash
  | log => exact .logThen hgives
  | wait => exact .waitThen hgives
  | @ask _ _ _ question next s =>
    have hanswer := hw.answers s.journal question
    cases hreply : (peers.answer s.journal question).outcome with
    | returned value =>
      rw [hreply] at hgives hanswer
      exact .askThen hanswer hgives
    | crashed message =>
      rw [hreply] at hgives hanswer
      cases hgives
      exact .askLost hanswer
  | hit known => exact .lookupThen (hw.settled _ _ (hs.mem_news known)) hgives
  | call | takeOver => exact gives_lookupThen_of_calling hw hgives
  | join => exact hgives
  | fork =>
    obtain ⟨more, hnodup, hchild, hthrough, h⟩ := hgives
    exact .fork hnodup hchild hthrough h
  | @settle _ _ _ key _ outcome _ s =>
    refine ⟨hw.settled key outcome ?_, hgives⟩
    rw [Session.news_append_of_journal hs.past_le (Session.journal_settle key outcome s)]
    exact List.mem_append_right _ (List.mem_singleton_self _)
  | lose => exact hgives
  | serve known => exact .lookupThen (hw.settled _ _ (hs.mem_news known)) hgives
  | finish through =>
    refine ⟨[], ?_, fun _ hc => absurd hc List.not_mem_nil, ?_, ?_⟩ <;> rw [List.append_nil]
    · exact hsound.2.nodup
    · exact through
    · exact hgives
  | sleep => exact hgives
  | part i turn _ ih =>
    obtain ⟨more, hnodup, hchild, hthrough, h⟩ := hgives
    rw [holdings_forked_add i] at hs
    exact ⟨more, hnodup, forall_gives_of_update (fun _ => ih hw (hsound.1 i) hs) hchild, hthrough,
      h⟩
  | @partEnds _ _ _ n children outcome completions _ _ _ _ _ _ i turn _ ih =>
    obtain ⟨more, hnodup, hchild, hthrough, h⟩ := hgives
    rw [List.append_assoc, List.singleton_append] at hnodup hthrough h
    rw [holdings_forked_add i] at hs
    exact ⟨(i, outcome) :: more, hnodup,
      forall_gives_of_ended hnodup (ih hw (hsound.1 i) hs rfl) hchild, hthrough, h⟩

end Live

namespace Stage

variable {α : Type} {w : World} {peers : Peers}

/-- What a run ends with, the job under way gives from the start. -/
theorem Leads.gives {now : Stage α} {o : Outcome α} {s' : Session} {past : Nat}
    (h : Leads peers now (.ended o, s')) (hw : w.Covers peers (s'.news past))
    (hsound : now.1.Sound) (hs : now.2.Orderly now.1.holdings past) : now.1.Gives w o := by
  induction h using Relation.ReflTransGen.head_induction_on with
  | refl => rfl
  | @head a c move hrest ih =>
    rcases move.turn with ⟨hlive, drifts⟩ | ⟨s₀, s₁, before, turn, after⟩
    · rw [← hlive]
      exact ih (hlive ▸ hsound) (hlive ▸ hs.drifts drifts)
    · have hs₀ := hs.passes before
      have hc := ih (turn.sound hsound) ((turn.orderly_self hs₀).passes after)
      rw [← add_zero a.1.holdings] at hs₀
      refine turn.gives (hw.mono (Session.news_subset ?_ past)) hsound hs₀ hc
      exact after.journal ▸ Leads.journal_grows hrest

end Stage

namespace Job

variable {α β : Type} {w : World} {peers : Peers}

/-- **What a run ends with, the job gives** in every world that covers the answers of the run. -/
theorem Ends.gives {job : Job α} {s s' : Session} {o : Outcome α} {past : Nat}
    (h : job.Ends peers s o s') (hs : s.Orderly 0 past) (hw : w.Covers peers (s'.news past)) :
    job.Gives w o := by
  obtain ⟨due, h⟩ := h
  exact h.gives hw trivial hs

/-- Between jobs nobody holds a seat. -/
theorem Ends.orderly {job : Job α} {s s' : Session} {o : Outcome α} {past : Nat}
    (h : job.Ends peers s o s') (hs : s.Orderly 0 past) : s'.Orderly 0 past := by
  obtain ⟨due, h⟩ := h
  exact h.orderly hs

theorem Ends.journal_grows {job : Job α} {s s' : Session} {o : Outcome α}
    (h : job.Ends peers s o s') : s.journal <+: s'.journal := by
  obtain ⟨due, h⟩ := h
  exact h.journal_grows

/-! ### Jobs that are put together -/

theorem Gives.of_done {value : α} {o : Outcome α} (h : (Job.done value).Gives w o) :
    o = .returned value := by
  cases h
  rfl

theorem Gives.of_crash {message : String} {o : Outcome α}
    (h : (Job.crash message : Job α).Gives w o) : o = .crashed message := by
  cases h
  rfl

/-- **Jobs in sequence give what the first gives and then what the second does**, unless the first
breaks down. -/
theorem Gives.of_bind {job : Job α} {f : α → Job β} {o : Outcome β} (h : (job.bind f).Gives w o) :
    (∃ message, job.Gives w (.crashed message) ∧ o = .crashed message) ∨
      ∃ value, job.Gives w (.returned value) ∧ (f value).Gives w o := by
  induction job with
  | done value => exact .inr ⟨value, .done, h⟩
  | crash message => exact .inl ⟨message, .crash, h.of_crash⟩
  | logThen line next ih =>
    rw [Job.bind] at h
    cases h with
    | logThen h =>
      rcases ih h with ⟨message, hgive, rfl⟩ | ⟨value, hgive, h⟩
      · exact .inl ⟨message, .logThen hgive, rfl⟩
      · exact .inr ⟨value, .logThen hgive, h⟩
  | waitThen milliseconds next ih =>
    rw [Job.bind] at h
    cases h with
    | @waitThen _ _ time _ _ h =>
      rcases ih time h with ⟨message, hgive, rfl⟩ | ⟨value, hgive, h⟩
      · exact .inl ⟨message, .waitThen hgive, rfl⟩
      · exact .inr ⟨value, .waitThen hgive, h⟩
  | askThen question next ih =>
    rw [Job.bind] at h
    cases h with
    | @askThen _ _ _ _ answer hanswer h =>
      rcases ih answer h with ⟨message, hgive, rfl⟩ | ⟨value, hgive, h⟩
      · exact .inl ⟨message, .askThen hanswer hgive, rfl⟩
      · exact .inr ⟨value, .askThen hanswer hgive, h⟩
    | askLost hanswer => exact .inl ⟨_, .askLost hanswer, rfl⟩
  | lookupThen key next ih =>
    rw [Job.bind] at h
    cases h with
    | @lookupThen _ _ _ _ outcome houtcome h =>
      rcases ih outcome h with ⟨message, hgive, rfl⟩ | ⟨value, hgive, h⟩
      · exact .inl ⟨message, .lookupThen houtcome hgive, rfl⟩
      · exact .inr ⟨value, .lookupThen houtcome hgive, h⟩
    | lookupLost hlost => exact .inl ⟨_, .lookupLost hlost, rfl⟩
  | fork manner n child enough finish _ ih =>
    rw [Job.bind] at h
    cases h with
    | @fork _ _ _ _ _ _ _ _ completions hnodup hchild hthrough h =>
      rcases ih completions h with ⟨message, hgive, rfl⟩ | ⟨value, hgive, h⟩
      · exact .inl ⟨message, .fork hnodup hchild hthrough hgive, rfl⟩
      · exact .inr ⟨value, .fork hnodup hchild hthrough hgive, h⟩

/-- A job that looks at the clock goes on at some time. -/
theorem Gives.of_time_bind {f : Nat → Job β} {o : Outcome β} (h : (Job.time.bind f).Gives w o) :
    ∃ now, (f now).Gives w o := by
  cases h with
  | waitThen h => exact ⟨_, h⟩

/-- A job that is sure to return, and of whose value something is true, hands such a value on. -/
theorem Gives.of_bind_returns {job : Job α} {f : α → Job β} {o : Outcome β} {P : α → Prop}
    (h : (job.bind f).Gives w o)
    (hjob : ∀ o', job.Gives w o' → ∃ value, o' = .returned value ∧ P value) :
    ∃ value, P value ∧ (f value).Gives w o := by
  rcases h.of_bind with ⟨message, hcrash, -⟩ | ⟨value, hvalue, hnext⟩
  · obtain ⟨value, heq, -⟩ := hjob _ hcrash
    cases heq
  · obtain ⟨value', heq, hP⟩ := hjob _ hvalue
    obtain rfl := Outcome.returned.inj heq
    exact ⟨value, hP, hnext⟩

/-- What a lookup returns is one of the outcomes of its key. -/
theorem Gives.settled_of_lookup {name : String} {type : RecordType} {outcome : LookupOutcome}
    (h : (Job.lookup name type).Gives w (.returned outcome)) :
    w.settled (.ofName name type) outcome := by
  cases h with
  | lookupThen hsettled hnext =>
    obtain rfl := Outcome.returned.inj hnext.of_done
    exact hsettled

/-- When as many children have ended as there are, all have, each once. -/
theorem perm_finRange_of_length {n : Nat} {completions : Completions n β}
    (hnodup : (completions.map Prod.fst).Nodup) (hlength : completions.length = n) :
    (completions.map Prod.fst).Perm (List.finRange n) :=
  (hnodup.subperm fun j _ => List.mem_finRange j).perm_of_length_le
    (by rw [List.length_map, hlength, List.length_finRange])

theorem exists_lookup_eq {n : Nat} {completions : Completions n β}
    (hnodup : (completions.map Prod.fst).Nodup) (hlength : completions.length = n) (i : Fin n) :
    ∃ o, completions.lookup i = some o := by
  have hperm := perm_finRange_of_length hnodup hlength
  obtain ⟨c, hc, rfl⟩ := List.mem_map.mp (hperm.mem_iff.mpr (List.mem_finRange i))
  refine Option.isSome_iff_exists.mp ?_
  rw [List.lookup_isSome_iff]
  exact ⟨c, hc, beq_self_eq_true c.1⟩

theorem mem_of_lookup_eq_some {ι κ : Type} [BEq ι] [LawfulBEq ι] {l : List (ι × κ)} {k : ι} {v : κ}
    (h : l.lookup k = some v) : (k, v) ∈ l := by
  obtain ⟨l₁, l₂, rfl, -⟩ := List.lookup_eq_some_iff.mp h
  exact List.mem_append_right _ List.mem_cons_self

section Gather

variable {n : Nat} {completions : Completions n β}

/-- As long as no child has broken down, all children must have ended. -/
theorem length_of_enough (hsound : ∀ c ∈ completions, c.2.crash? = none)
    (hthrough : completions.length = n ∨ (completions.any fun c => c.2.isCrash) = true) :
    completions.length = n := by
  refine hthrough.resolve_right fun hany => ?_
  obtain ⟨c, hc, hcrashed⟩ := List.any_eq_true.mp hany
  rw [Outcome.isCrash, hsound c hc] at hcrashed
  cases hcrashed

/-- When all children have ended and none has broken down, each has a value. -/
theorem exists_values (hnodup : (completions.map Prod.fst).Nodup)
    (hlength : completions.length = n) (hsound : ∀ c ∈ completions, c.2.crash? = none) :
    ∃ values : Fin n → β, completions.Perm (List.ofFn fun i => (i, .returned (values i))) := by
  have hvalue (i : Fin n) : ∃ value, (i, .returned value) ∈ completions := by
    obtain ⟨o, hlookup⟩ := exists_lookup_eq hnodup hlength i
    have hmem := mem_of_lookup_eq_some hlookup
    cases o with
    | returned value => exact ⟨value, hmem⟩
    | crashed message => cases hsound _ hmem
  choose values hmem using hvalue
  refine ⟨values, (List.perm_ext_iff_of_nodup hnodup.of_map ?_).mpr fun c => ?_⟩
  · exact List.nodup_ofFn.mpr fun i j h => (Prod.mk.inj h).1
  · rw [List.mem_ofFn]
    constructor
    · intro hc
      exact ⟨c.1, List.inj_on_of_nodup_map hnodup (hmem c.1) hc rfl⟩
    · rintro ⟨i, rfl⟩
      exact hmem i

/-- **The values are gathered in the order of the children**, whichever ended first. -/
theorem gather_of_perm {values : Fin n → β}
    (h : completions.Perm (List.ofFn fun i => (i, .returned (values i)))) :
    gather completions = done (List.ofFn values) := by
  have hreturned : ∀ c ∈ completions, c.2 = .returned (values c.1) := by
    intro c hc
    obtain ⟨i, rfl⟩ := List.mem_ofFn.mp (h.mem_iff.mp hc)
    rfl
  have hkeys : (completions.map Prod.fst).Perm (List.finRange n) := by
    have hmap := h.map Prod.fst
    rwa [List.map_ofFn, show Prod.fst ∘ (fun i => (i, Outcome.returned (values i))) = id from rfl,
      List.ofFn_id] at hmap
  have hlookup (i : Fin n) : completions.lookup i = some (.returned (values i)) := by
    obtain ⟨o, hlookup⟩ := exists_lookup_eq (hkeys.nodup_iff.mpr (List.nodup_finRange n))
      (by rw [h.length_eq, List.length_ofFn]) i
    exact hlookup.trans (congrArg some (hreturned _ (mem_of_lookup_eq_some hlookup)))
  have hcrash : completions.findSome? (fun c => c.2.crash?) = none := by
    rw [List.findSome?_eq_none_iff]
    intro c hc
    rw [hreturned c hc]
    rfl
  rw [gather, hcrash]
  refine congrArg done ?_
  rw [List.ofFn_eq_map, ← List.filterMap_eq_map]
  refine congrArg (List.filterMap · _) (funext fun i => ?_)
  rw [hlookup]
  rfl

/-- What is gathered only returns where no child has broken down. -/
theorem Gives.sound_of_gather {values : List β}
    (h : (gather completions).Gives w (.returned values)) :
    ∀ c ∈ completions, c.2.crash? = none := by
  unfold gather at h
  split at h
  next => cases h.of_crash
  next hnone => exact List.findSome?_eq_none_iff.mp hnone

end Gather

/-- **Jobs that run together give the values of all of them**, unless one of them breaks down. -/
theorem Gives.of_all {jobs : List (Job β)} {o : Outcome (List β)} (h : (Job.all jobs).Gives w o) :
    (∃ message, o = .crashed message ∧ ∃ job ∈ jobs, job.Gives w (.crashed message)) ∨
      ∃ values, o = .returned values ∧
        List.Forall₂ (fun job value => job.Gives w (.returned value)) jobs values := by
  cases h with
  | @fork _ _ _ _ _ _ _ _ completions hnodup hchild hthrough h =>
    cases hcrash : completions.findSome? fun c => c.2.crash? with
    | some message =>
      rw [gather, hcrash] at h
      obtain ⟨c, hc, hmessage⟩ := List.exists_of_findSome?_eq_some hcrash
      refine .inl ⟨message, h.of_crash, _, List.get_mem jobs c.1, ?_⟩
      have hgive := hchild c hc
      cases hc2 : c.2 with
      | returned value =>
        rw [hc2] at hmessage
        cases hmessage
      | crashed m =>
        rw [hc2, Outcome.crash?, Option.some.injEq] at hmessage
        rwa [hc2, hmessage] at hgive
    | none =>
      rw [List.findSome?_eq_none_iff] at hcrash
      have hlength := length_of_enough hcrash hthrough
      obtain ⟨values, hperm⟩ := exists_values hnodup hlength hcrash
      rw [gather_of_perm hperm] at h
      refine .inr ⟨List.ofFn values, h.of_done, ?_⟩
      refine List.forall₂_iff_get.mpr ⟨by rw [List.length_ofFn], fun i hi hi' => ?_⟩
      rw [List.get_ofFn]
      exact hchild _ (hperm.mem_iff.mpr (List.mem_ofFn.mpr ⟨⟨i, hi⟩, rfl⟩))

/-! ### What is true of values -/

/-- Whatever value a job returns in a world, something is true of it. -/
def Yields (w : World) (job : Job α) (P : α → Prop) : Prop :=
  ∀ value, job.Gives w (.returned value) → P value

section Yields

variable {P : α → Prop} {Q : β → Prop}

theorem yields_done {value : α} (h : P value) : (done value).Yields w P :=
  fun _ hgive => Outcome.returned.inj hgive.of_done ▸ h

theorem yields_crash (message : String) : (crash message : Job α).Yields w P :=
  fun _ hgive => nomatch hgive.of_crash

theorem Yields.bind {job : Job α} {f : α → Job β} (h : job.Yields w P)
    (hf : ∀ value, P value → (f value).Yields w Q) : (job.bind f).Yields w Q := by
  intro value hgive
  rcases hgive.of_bind with ⟨message, -, heq⟩ | ⟨v, hv, hnext⟩
  · cases heq
  · exact hf v (h v hv) value hnext

theorem yields_lookup_bind {name : String} {type : RecordType} {f : LookupOutcome → Job β}
    (h : ∀ outcome, w.settled (.ofName name type) outcome → (f outcome).Yields w Q) :
    ((Job.lookup name type).bind f).Yields w Q := by
  intro value hgive
  cases hgive with
  | lookupThen hsettled hnext => exact h _ hsettled value hnext

theorem yields_answer_bind {question : Question} {f : question.Answer → Job β}
    (h : ∀ answer, w.answers question (.returned answer) → (f answer).Yields w Q) :
    ((Job.ask question).bind f).Yields w Q := by
  intro value hgive
  cases hgive with
  | askThen hanswer hnext => exact h _ hanswer value hnext

theorem yields_ask_bind {question : Question} {f : question.Answer → Job β}
    (h : ∀ answer, (f answer).Yields w Q) : ((Job.ask question).bind f).Yields w Q :=
  yields_answer_bind fun answer _ => h answer

theorem yields_time_bind {f : Nat → Job β} (h : ∀ now, (f now).Yields w Q) :
    (Job.time.bind f).Yields w Q := by
  intro value hgive
  obtain ⟨now, hnext⟩ := hgive.of_time_bind
  exact h now value hnext

/-- What is true of all that may be made of completions, is true of what a race makes of them. -/
theorem yields_race {jobs : List (Job α)} {enough : Completions jobs.length α → Bool}
    {finish : Completions jobs.length α → Job β}
    (h : ∀ completions, (finish completions).Yields w Q) :
    (race jobs enough finish).Yields w Q := by
  intro value hgive
  cases hgive with
  | fork _ _ _ hnext => exact h _ value hnext

end Yields

end Job

end Rehearsal
