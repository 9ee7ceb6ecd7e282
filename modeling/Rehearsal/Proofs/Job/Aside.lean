import Rehearsal.Job.Journal
import Rehearsal.Proofs.Job.Meaning
import Rehearsal.Proofs.Job.Sequence

/-!
# One job beside others

A job that runs beside others shares the cache with them, and their questions come between its own.
All that it gets to know of this are the answers to its questions, the outcomes of its lookups and
the time. So what it ends with, it could have ended with alone: there are peers that give it the
same answers in the same order, and return for each key what the one call for it returned in the
run of all.

A run is read backwards to find what a job heard in it, and what was heard is then told to it again
from the front. This needs a job without forks, which has one place only.

## Main definitions

* `Heard`, `Journal.heard`: the answers that came while a journal grew
* `Job.Hears`: a job comes to a value by some answers
* `Peers.Recites`: peers answer as was heard
* `Job.StandsAlone`: what a job ended with beside others, it ends with alone

## Main results

* `Stage.Leads.hears`: what a child of a fork has heard is part of what all have heard
* `Job.Hears.tells`: what was heard can be told again
* `Job.Ends.standsAlone`: the children of a fork stand alone
-/

namespace Rehearsal

/-- A question with its answer. -/
structure Heard where
  /-- The question. -/
  question : Question
  /-- The answer. -/
  answer : question.Answer

namespace Journal

variable {peers : Peers} {journal journal' journal'' : List Event}

/-- The answer to a question, where an event is a question that is answered. -/
def heard? (peers : Peers) (journal : List Event) : Event → Option Heard
  | .asked question =>
    (peers.answer journal question).outcome.value?.map fun answer => ⟨question, answer⟩
  | _ => none

/-- The answers that come when some events follow a journal. -/
def heardAfter (peers : Peers) : (journal events : List Event) → List Heard
  | _, [] => []
  | journal, e :: events =>
    (heard? peers journal e).toList ++ heardAfter peers (journal ++ [e]) events

/-- The answers that came while a journal grew. -/
def heard (peers : Peers) (journal journal' : List Event) : List Heard :=
  heardAfter peers journal (journal'.drop journal.length)

theorem heardAfter_append (journal events events' : List Event) :
    heardAfter peers journal (events ++ events') =
      heardAfter peers journal events ++ heardAfter peers (journal ++ events) events' := by
  induction events generalizing journal with
  | nil => rw [List.append_nil]; rfl
  | cons e events ih =>
    rw [List.cons_append, heardAfter, ih, heardAfter, List.append_assoc, List.append_assoc,
      List.singleton_append]

@[simp] theorem heard_self (journal : List Event) : heard peers journal journal = [] := by
  rw [heard, List.drop_length, heardAfter]

theorem heard_concat (journal : List Event) (e : Event) :
    heard peers journal (journal ++ [e]) = (heard? peers journal e).toList := by
  rw [heard, List.drop_left, heardAfter, heardAfter, List.append_nil]

theorem heard_trans (h : journal <+: journal') (h' : journal' <+: journal'') :
    heard peers journal journal'' =
      heard peers journal journal' ++ heard peers journal' journal'' := by
  obtain ⟨events, rfl⟩ := h
  obtain ⟨events', rfl⟩ := h'
  simp only [heard, List.drop_left, List.append_assoc]
  rw [heardAfter_append, ← List.append_assoc, List.drop_left]

/-- A question that is answered while a journal grows is heard. -/
theorem mem_heard {before : List Event} {question : Question} {answer : question.Answer}
    (hbefore : journal <+: before) (hafter : before ++ [.asked question] <+: journal')
    (hanswer : (peers.answer before question).outcome = .returned answer) :
    ⟨question, answer⟩ ∈ heard peers journal journal' := by
  have hasked : before <+: before ++ [.asked question] := List.prefix_append _ _
  rw [heard_trans hbefore (hasked.trans hafter), heard_trans hasked hafter, heard_concat, heard?,
    hanswer]
  exact List.mem_append_right _ (List.mem_append_left _ (List.mem_singleton_self _))

end Journal

/-! ### What a job hears -/

/-- The outcomes that keys resolve to. -/
abbrev Outcomes := LookupKey → LookupOutcome → Prop

namespace Job

/-- A job comes to a value, step by step, when its questions are answered as was heard and keys
resolve to some outcomes. -/
inductive Hears (settled : Outcomes) : {α : Type} → Job α → List Heard → α → Prop where
  | done {α : Type} {value : α} : Hears settled (done value) [] value
  | logThen {α : Type} {line : LogLine} {next : Job α} {heard : List Heard} {value : α}
    (h : Hears settled next heard value) : Hears settled (logThen line next) heard value
  | waitThen {α : Type} {milliseconds time : Nat} {next : Nat → Job α} {heard : List Heard}
    {value : α} (passed : milliseconds ≤ time) (h : Hears settled (next time) heard value) :
    Hears settled (waitThen milliseconds next) heard value
  | askThen {α : Type} {question : Question} {next : question.Answer → Job α}
    {answer : question.Answer} {heard : List Heard} {value : α}
    (h : Hears settled (next answer) heard value) :
    Hears settled (askThen question next) (⟨question, answer⟩ :: heard) value
  | lookupThen {α : Type} {key : LookupKey} {next : LookupOutcome → Job α}
    {outcome : LookupOutcome} {heard : List Heard} {value : α} (known : settled key outcome)
    (h : Hears settled (next outcome) heard value) : Hears settled (lookupThen key next) heard value

end Job

namespace Live

variable {α β : Type} {peers : Peers} {s s' : Session} {settled : Outcomes}

/-- There is no fork in what is under way. -/
def Straight : {α : Type} → Live α → Prop
  | _, ended _ => True
  | _, ready _ job => job.Straight
  | _, calling _ _ _ _ next => ∀ outcome, (next outcome).Straight
  | _, seated _ _ next => ∀ outcome, (next outcome).Straight
  | _, forked .. => False

/-- What is under way comes to a value when it hears some answers from now on. -/
def Hears (settled : Outcomes) : {α : Type} → Live α → List Heard → α → Prop
  | _, ended outcome, heard, value => outcome = .returned value ∧ heard = []
  | _, ready _ job, heard, value => job.Hears settled heard value
  | _, calling _ key _ answer next, heard, value =>
    ∃ outcome, answer = .returned outcome ∧ settled key outcome ∧
      (next outcome).Hears settled heard value
  | _, seated key _ next, heard, value => (Job.lookupThen key next).Hears settled heard value
  | _, forked .., _, _ => False

/-- A turn brings no fork into what has none. -/
theorem Turn.straight {live live' : Live α} (turn : Turn peers live s live' s')
    (h : live.Straight) : live'.Straight := by
  cases turn with
  | done | crash | lose => exact trivial
  | log | call | join | takeOver => exact h
  | wait => exact h _
  | @ask _ _ _ question next =>
    cases (peers.answer s.journal question).outcome with
    | returned answer => exact h answer
    | crashed message => exact trivial
  | hit | settle | serve => exact h _
  | fork | finish | sleep | part | partEnds => exact h.elim

/-- A call of the resolver hears what its lookup hears. -/
theorem Hears.lookupThen {due : Due} {key : LookupKey} {seat : Seat}
    {answer : Outcome LookupOutcome} {next : LookupOutcome → Job α} {heard : List Heard} {value : α}
    (h : (calling due key seat answer next).Hears settled heard value) :
    (Job.lookupThen key next).Hears settled heard value := by
  obtain ⟨outcome, -, known, h⟩ := h
  exact .lookupThen known h

/-- **A turn read backwards**: what is heard after it was heard before, and the answer to a question
that was asked by it comes first. -/
theorem Turn.hears {live live' : Live α} {past : Nat} {F : Multiset Holding} {heard : List Heard}
    {value : α} (turn : Turn peers live s live' s') (hstraight : live.Straight)
    (hs : s.Orderly (live.holdings + F) past)
    (hsettled : ∀ key outcome, .settled key outcome ∈ s'.news past → settled key outcome)
    (h : live'.Hears settled heard value) :
    live.Hears settled (Journal.heard peers s.journal s'.journal ++ heard) value := by
  cases turn with
  | done =>
    obtain ⟨hvalue, rfl⟩ := h
    obtain rfl := Outcome.returned.inj hvalue
    rw [Journal.heard_self]
    exact .done
  | crash | lose => cases h.1
  | log =>
    rw [Session.journal_note, Journal.heard_concat]
    exact .logThen h
  | wait passed =>
    rw [Journal.heard_self]
    exact .waitThen passed h
  | @ask _ _ _ question next =>
    rw [Session.journal_note, Journal.heard_concat, Journal.heard?]
    cases hanswer : (peers.answer s.journal question).outcome with
    | returned answer =>
      rw [hanswer] at h
      exact .askThen h
    | crashed message =>
      rw [hanswer] at h
      cases h
  | hit known | serve known =>
    rw [Journal.heard_self]
    exact Job.Hears.lookupThen (hsettled _ _ (hs.mem_news known)) h
  | call =>
    rw [Session.journal_note, Session.journal_sit, Journal.heard_concat]
    exact h.lookupThen
  | takeOver =>
    rw [Session.journal_note, Journal.heard_concat]
    exact h.lookupThen
  | join =>
    rw [Session.journal_sit, Journal.heard_self]
    exact h
  | @settle _ _ _ key _ outcome =>
    rw [Session.journal_settle, Journal.heard_concat]
    refine ⟨outcome, rfl, hsettled key outcome ?_, h⟩
    rw [Session.news_append_of_journal hs.past_le (Session.journal_settle key outcome s)]
    exact List.mem_append_right _ (List.mem_singleton_self _)
  | fork | finish | sleep | part | partEnds => exact hstraight.elim

/-- What a child of a fork hears after one of the children has gone on. -/
theorem Hears.of_update {n : Nat} {children : Fin n → Live β} {i j : Fin n} {child : Live β}
    {past : Nat} {F : Multiset Holding} {heard : List Heard} {value : β}
    (turn : Turn peers (children j) s child s') (hstraight : (children j).Straight)
    (hs : s.Orderly ((children j).holdings + F) past)
    (hsettled : ∀ key outcome, .settled key outcome ∈ s'.news past → settled key outcome)
    (h : (Function.update children j child i).Hears settled heard value) :
    ∃ heard', heard'.Sublist (Journal.heard peers s.journal s'.journal ++ heard) ∧
      (children i).Hears settled heard' value := by
  rw [Function.update_apply] at h
  split at h
  next hi =>
    subst hi
    exact ⟨_, .refl _, turn.hears hstraight hs hsettled h⟩
  next => exact ⟨heard, List.sublist_append_right .., h⟩

end Live

namespace Stage

variable {β : Type} {peers : Peers} {settled : Outcomes} {past : Nat}

/-- **What a child of a fork has heard is part of what all have heard.** The child comes to its
value by answers that came in the run, in the same order, and by outcomes that were returned in
it. -/
theorem Leads.hears {manner : Manner} {n : Nat} {children : Fin n → Live β}
    {completions ended : Completions n β} {wake : Option Due} {enough : Completions n β → Bool}
    {s s' : Session} {i : Fin n} {value : β}
    (h : Leads peers (.forked manner n children completions wake enough .done, s)
      (.ended (.returned ended), s'))
    (hsettled : ∀ key outcome, .settled key outcome ∈ s'.news past → settled key outcome)
    (hstraight : ∀ j, (children j).Straight) (htally : Live.Tally children completions wake)
    (hs : s.Orderly (∑ j, (children j).holdings) past) (hmem : (i, .returned value) ∈ ended) :
    ∃ heard : List Heard, heard.Sublist (Journal.heard peers s.journal s'.journal) ∧
      (children i).Hears settled heard value := by
  generalize hnow : ((Live.forked manner n children completions wake enough .done, s) :
    Stage (Completions n β)) = now at h
  induction h using Relation.ReflTransGen.head_induction_on generalizing children completions wake s
    with
  | refl => cases hnow
  | @head now later move hrest ih =>
    subst hnow
    obtain ⟨live, s₂⟩ := later
    rcases move.turn with ⟨rfl, drifts⟩ | ⟨s₀, s₁, before, turn, after⟩
    · obtain ⟨heard, hsub, hhears⟩ := ih hstraight htally (hs.drifts drifts) rfl
      refine ⟨heard, ?_, hhears⟩
      rw [Journal.heard_trans drifts.journal_grows (Leads.journal_grows hrest)]
      exact hsub.trans (List.sublist_append_right ..)
    · have hs₀ := hs.passes before
      have hs₂ := (turn.orderly_self hs₀).passes after
      have hgrows : s₂.journal <+: s'.journal := Leads.journal_grows hrest
      rw [← before.journal, Journal.heard_trans (after.journal ▸ turn.journal_grows) hgrows]
      -- the turn of a child, whether it ends by it or not
      have hupdate (j : Fin n) (child : Live β) (turn : Live.Turn peers (children j) s₀ child s₁) :
          ∀ k, (Function.update children j child k).Straight :=
        (Function.forall_update_iff children fun _ live => live.Straight).mpr
          ⟨turn.straight (hstraight j), fun k _ => hstraight k⟩
      have hpart (j : Fin n) (child : Live β) (turn : Live.Turn peers (children j) s₀ child s₁)
          (heard : List Heard) (hsub : heard.Sublist (Journal.heard peers s₂.journal s'.journal))
          (hhears : (Function.update children j child i).Hears settled heard value) :
          ∃ heard : List Heard, heard.Sublist (Journal.heard peers s₀.journal s₂.journal ++
            Journal.heard peers s₂.journal s'.journal) ∧
            (children i).Hears settled heard value := by
        rw [← Finset.add_sum_erase _ _ (Finset.mem_univ j)] at hs₀
        obtain ⟨heard', hsub', hhears'⟩ := hhears.of_update turn (hstraight j) hs₀ fun key o hmem =>
          hsettled key o (Session.news_subset (after.journal ▸ hgrows) past hmem)
        rw [← after.journal] at hsub'
        exact ⟨heard', hsub'.trans (hsub.append_left _), hhears'⟩
      cases turn with
      | finish =>
        obtain ⟨heq, -⟩ := Job.Ends.done ⟨_, hrest⟩
        obtain rfl := Outcome.returned.inj heq
        rw [(htally.mem i _).mp hmem]
        exact ⟨[], List.nil_sublist _, rfl, rfl⟩
      | sleep short =>
        obtain ⟨heard, hsub, hhears⟩ :=
          ih hstraight ⟨htally.nodup, htally.mem, fun _ => short⟩ hs₂ rfl
        exact ⟨heard, hsub.trans (List.sublist_append_right ..), hhears⟩
      | part j turn going =>
        obtain ⟨heard, hsub, hhears⟩ := ih (hupdate j _ turn)
          (htally.part turn.outcome?_eq_none going) hs₂ rfl
        exact hpart j _ turn heard hsub hhears
      | partEnds j turn awake =>
        obtain ⟨heard, hsub, hhears⟩ := ih (hupdate j _ turn)
          (htally.partEnds turn.outcome?_eq_none awake) hs₂ rfl
        exact hpart j _ turn heard hsub hhears

end Stage

section Fork

variable {β : Type} {peers : Peers} {manner : Manner} {n : Nat} {child : Fin n → Job β}
  {enough : Completions n β → Bool} {ended : Completions n β} {s s' : Session} {past : Nat}
  {settled : Outcomes}

/-- **What a child of a fork hears in a run** is part of what all hear in it. -/
theorem Job.Ends.hears
    (h : (Job.fork manner n child enough .done).Ends peers s (.returned ended) s')
    (hs : s.Orderly 0 past)
    (hsettled : ∀ key outcome, .settled key outcome ∈ s'.news past → settled key outcome)
    (hchild : ∀ j, (child j).Straight) {i : Fin n} {value : β}
    (hmem : (i, .returned value) ∈ ended) :
    ∃ heard : List Heard, heard.Sublist (Journal.heard peers s.journal s'.journal) ∧
      (child i).Hears settled heard value := by
  obtain ⟨due, s₀, live, s₁, s₂, before, turn, after, hrest⟩ := h.turn
  have hs₂ := (turn.orderly_self (hs.drifts before)).passes after
  have htally := (turn.sound trivial : live.Sound)
  cases turn with
  | fork awake =>
    obtain ⟨heard, hsub, hhears⟩ :=
      Stage.Leads.hears hrest hsettled hchild htally.2 hs₂ hmem
    refine ⟨heard, hsub.trans ?_, hhears⟩
    rw [Journal.heard_trans (Session.Drifts.journal_grows (before.trans after.drifts))
      (Stage.Leads.journal_grows hrest)]
    exact List.sublist_append_right ..

end Fork

/-! ### What was heard is told again -/

/-- The peers answer the questions that come after a journal as was heard, one after another, and
keys resolve to what they resolve to. -/
structure Peers.Recites (peers : Peers) (start : Nat) (settled : Outcomes) (heard : List Heard) :
    Prop where
  /-- Keys resolve so. -/
  resolves : ∀ journal key outcome, settled key outcome →
    (peers.lookup journal key).outcome = .returned outcome
  /-- The answer to a question is told by how many have been asked. -/
  answers : ∀ journal (h : Heard),
    heard[(Journal.questions (journal.drop start)).length]? = some h →
      (peers.answer journal h.question).outcome = .returned h.answer

/-- If each key resolves to one outcome only, peers can recite what was heard. -/
theorem Peers.exists_recites {settled : Outcomes}
    (hsingle : ∀ key o o', settled key o → settled key o' → o = o') (start : Nat)
    (heard : List Heard) : ∃ peers : Peers, peers.Recites start settled heard := by
  classical
  refine ⟨{
    lookup := fun _ key => ⟨0, if h : ∃ o, settled key o then .returned h.choose else .crashed ""⟩
    answer := fun journal question => ⟨0,
      match heard[(Journal.questions (journal.drop start)).length]? with
      | none => .crashed ""
      | some h => if heq : h.question = question then .returned (heq ▸ h.answer) else .crashed ""⟩
    }, fun journal key o ho => ?_, fun journal h hget => ?_⟩
  · have hexists : ∃ o, settled key o := ⟨o, ho⟩
    simp only [dif_pos hexists]
    exact congrArg _ (hsingle key _ _ hexists.choose_spec ho)
  · simp only [hget, dif_pos]

/-! ### Steps of a job that is alone -/

namespace Stage

variable {α : Type} {peers : Peers} {past : Nat} {due : Due} {s : Session}

/-- A job takes its step. -/
theorem moves_step (due : Due) (job : Job α) (s : Session) :
    Moves peers (.ready due job, s) (Live.step peers due job s) :=
  ⟨true, due, .own [], s.clock, rfl⟩

/-- A job that waits may be told any time that is late enough. -/
theorem leads_wait (due : Due) {milliseconds time : Nat} (next : Nat → Job α) (s : Session)
    (passed : milliseconds ≤ time) :
    ∃ due' s', Leads peers (.ready due (.waitThen milliseconds next), s)
      (.ready due' (next time), s') ∧ s.Passes s' := by
  obtain ⟨clock, rfl⟩ := Nat.exists_eq_add_of_le' passed
  exact ⟨_, _, .single ⟨true, due, .own [], clock, rfl⟩,
    (s.passes_clock clock).trans (Session.passes_later due milliseconds _)⟩

theorem leads_ask {question : Question} {answer : question.Answer} (due : Due)
    (next : question.Answer → Job α)
    (hanswer : (peers.answer s.journal question).outcome = .returned answer) :
    ∃ due' s', Leads peers (.ready due (.askThen question next), s)
      (.ready due' (next answer), s') ∧ (s.note (.asked question)).Passes s' := by
  have hmove : Moves peers _ _ := moves_step due (.askThen question next) s
  rw [Live.step, hanswer] at hmove
  exact ⟨_, _, .single hmove, Session.passes_later ..⟩

theorem leads_hit {key : LookupKey} {outcome : LookupOutcome} (due : Due)
    (next : LookupOutcome → Job α) (known : (s.entry key).cell.outcome = some outcome) :
    Leads peers (.ready due (.lookupThen key next), s) (.ready due (next outcome), s) := by
  have hmove : Moves peers _ _ := moves_step due (.lookupThen key next) s
  simp only [Live.step, Live.lookUp, known] at hmove
  exact .single hmove

/-- Where nobody waits, the resolver is called and returns. -/
theorem leads_call {key : LookupKey} {outcome : LookupOutcome} (due : Due)
    (next : LookupOutcome → Job α) (hs : s.Alone past)
    (unknown : (s.entry key).cell.outcome = none)
    (hanswer : (peers.lookup s.journal key).outcome = .returned outcome) :
    ∃ due' s', Leads peers (.ready due (.lookupThen key next), s) (.ready due' (next outcome), s') ∧
      s'.Alone past ∧ s'.journal = s.journal ++ [.called key, .settled key outcome] := by
  have hqueue := hs.queue_eq_nil unknown
  have hcall : Moves peers _ _ := moves_step due (.lookupThen key next) s
  simp only [Live.step, Live.lookUp, unknown, hqueue] at hcall
  obtain ⟨due', s₁, passes, hcall⟩ : ∃ due' s₁, ((s.sit key).note (.called key)).Passes s₁ ∧
      Moves peers (.ready due (.lookupThen key next), s)
        (.calling due' key s.ticket (peers.lookup s.journal key).outcome next, s₁) :=
    ⟨_, _, Session.passes_later due (peers.lookup s.journal key).delay _, hcall⟩
  have turn : Live.Turn peers (.ready due (.lookupThen key next)) s
      (.calling due' key s.ticket (peers.lookup s.journal key).outcome next)
      ((s.sit key).note (.called key)) := .call unknown hqueue
  have horderly : s₁.Orderly {⟨key, s.ticket, true⟩} past :=
    (turn.orderly_self hs.orderly).passes passes
  rw [hanswer] at hcall
  have hsettle : Moves peers (.calling due' key s.ticket (.returned outcome) next, s₁)
      (.ready due' (next outcome), s₁.settle key outcome) :=
    ⟨true, due', .own [], s₁.clock, rfl⟩
  refine ⟨due', _, .tail (.single hcall) hsettle, ⟨passes.strays.trans hs.strays,
    horderly.settle outcome⟩, ?_⟩
  rw [Session.journal_settle, passes.journal, Session.journal_note, Session.journal_sit,
    List.append_assoc]
  rfl

end Stage

/-- A session that a job has to itself, after some answers were recited in it. -/
structure Session.Recited (past start : Nat) (settled : Outcomes) (front : List Heard)
    (s : Session) : Prop where
  /-- The job has it to itself. -/
  alone : s.Alone past
  /-- What was returned in it is what keys resolve to. -/
  known : ∀ key outcome, .settled key outcome ∈ s.news past → settled key outcome
  /-- Nothing is taken out of the journal. -/
  start_le : start ≤ s.journal.length
  /-- The questions are those that were answered. -/
  questions_eq : Journal.questions (s.journal.drop start) = front.map Heard.question

/-- More answers are recited. -/
theorem Session.Recited.append {past start : Nat} {settled : Outcomes} {front more : List Heard}
    {s s' : Session} {events : List Event} (h : s.Recited past start settled front)
    (halone : s'.Alone past) (hjournal : s'.journal = s.journal ++ events)
    (hknown : ∀ key outcome, .settled key outcome ∈ events → settled key outcome)
    (hquestions : Journal.questions events = more.map Heard.question) :
    s'.Recited past start settled (front ++ more) where
  alone := halone
  known key outcome hmem := by
    rw [news_append_of_journal h.alone.orderly.past_le hjournal, List.mem_append] at hmem
    exact hmem.elim (h.known key outcome) (hknown key outcome)
  start_le := by
    rw [hjournal, List.length_append]
    exact Nat.le_add_right_of_le h.start_le
  questions_eq := by
    rw [hjournal, List.drop_append_of_le_length h.start_le, List.map_append, ← h.questions_eq,
      ← hquestions]
    exact List.filterMap_append

/-- What happens without a question leaves the answers as they are. -/
theorem Session.Recited.quiet {past start : Nat} {settled : Outcomes} {front : List Heard}
    {s s' : Session} {events : List Event} (h : s.Recited past start settled front)
    (halone : s'.Alone past) (hjournal : s'.journal = s.journal ++ events)
    (hknown : ∀ key outcome, .settled key outcome ∈ events → settled key outcome)
    (hquiet : Journal.questions events = []) : s'.Recited past start settled front := by
  have hmore := h.append halone hjournal hknown (hquiet.trans List.map_nil.symm)
  rwa [List.append_nil] at hmore

theorem Session.Recited.passes {past start : Nat} {settled : Outcomes} {front : List Heard}
    {s s' : Session} (h : s.Recited past start settled front) (hpass : s.Passes s') :
    s'.Recited past start settled front :=
  h.quiet (h.alone.passes hpass) (hpass.journal.trans (List.append_nil _).symm)
    (fun _ _ hmem => absurd hmem List.not_mem_nil) rfl

/-- A stage leads to a value while the rest of some answers is recited. -/
def Stage.Tells {α : Type} (peers : Peers) (past start : Nat) (settled : Outcomes)
    (front rest : List Heard) (stage : Stage α) (value : α) : Prop :=
  ∃ s', Stage.Leads peers stage (.ended (.returned value), s') ∧
    Journal.heard peers stage.2.journal s'.journal = rest ∧
    s'.Recited past start settled (front ++ rest)

/-- What is told later, after some more answers, is told now. -/
theorem Stage.Leads.tells {α : Type} {peers : Peers} {past start : Nat} {settled : Outcomes}
    {front more rest : List Heard} {now later : Stage α} {value : α}
    (h : Stage.Leads peers now later)
    (hmore : Journal.heard peers now.2.journal later.2.journal = more)
    (hrest : later.Tells peers past start settled (front ++ more) rest value) :
    now.Tells peers past start settled front (more ++ rest) value := by
  obtain ⟨s', hlead, hheard, hs'⟩ := hrest
  refine ⟨s', h.trans hlead, ?_, List.append_assoc .. ▸ hs'⟩
  rw [Journal.heard_trans h.journal_grows hlead.journal_grows, hmore, hheard]

theorem Stage.Leads.tells_quiet {α : Type} {peers : Peers} {past start : Nat} {settled : Outcomes}
    {front rest : List Heard} {now later : Stage α} {value : α} (h : Stage.Leads peers now later)
    (hquiet : Journal.heard peers now.2.journal later.2.journal = [])
    (hrest : later.Tells peers past start settled front rest value) :
    now.Tells peers past start settled front rest value :=
  h.tells hquiet ((List.append_nil front).symm ▸ hrest)

namespace Job

variable {α : Type} {peers : Peers} {past start : Nat} {settled : Outcomes}

/-- **What was heard can be told again**, to a job that has a session to itself. -/
theorem Hears.tells {job : Job α} {front rest : List Heard} {value : α} {s : Session}
    (h : job.Hears settled rest value) (hpeers : peers.Recites start settled (front ++ rest))
    (hsingle : ∀ key o o', settled key o → settled key o' → o = o')
    (hs : s.Recited past start settled front) (due : Due) :
    Stage.Tells peers past start settled front rest (.ready due job, s) value := by
  induction h generalizing front s due with
  | done =>
    refine ⟨s, .single (Stage.moves_step due _ s), Journal.heard_self _, ?_⟩
    rwa [List.append_nil]
  | @logThen line next _ _ h ih =>
    have hlead : Stage.Leads peers (.ready due (.logThen line next), s)
        (.ready due next, s.note (.logged line)) := .single (Stage.moves_step due _ s)
    have hs₁ : (s.note (.logged line)).Recited past start settled front :=
      hs.quiet ⟨hs.alone.strays, hs.alone.orderly.note_quiet (fun _ => nofun) fun _ _ => nofun⟩
        (Session.journal_note ..) (fun _ _ hmem => by simp at hmem) rfl
    exact hlead.tells_quiet (Journal.heard_concat ..) (ih hpeers hs₁ due)
  | waitThen passed h ih =>
    obtain ⟨due', s₁, hlead, passes⟩ := Stage.leads_wait due _ s passed
    refine hlead.tells_quiet ?_ (ih hpeers (hs.passes passes) due')
    rw [passes.journal, Journal.heard_self]
  | @askThen question next answer rest _ h ih =>
    have hanswer := hpeers.answers s.journal ⟨question, answer⟩
      (by
      rw [hs.questions_eq, List.length_map, List.getElem?_append_right le_rfl, Nat.sub_self]
      rfl)
    obtain ⟨due', s₁, hlead, passes⟩ := Stage.leads_ask due next hanswer
    have hs₁ : s₁.Recited past start settled (front ++ [⟨question, answer⟩]) :=
      (hs.append (hs.alone.note_asked question) (Session.journal_note ..)
        (fun _ _ hmem => by simp at hmem) rfl).passes passes
    refine hlead.tells ?_ (ih ?_ hs₁ due')
    · rw [passes.journal, Session.journal_note, Journal.heard_concat, Journal.heard?, hanswer]
      rfl
    · rwa [List.append_assoc, List.singleton_append]
  | @lookupThen key next outcome _ _ known h ih =>
    cases hcell : (s.entry key).cell.outcome with
    | some outcome' =>
      obtain rfl := hsingle key _ _ known (hs.known key _ (hs.alone.orderly.mem_news hcell))
      exact (Stage.leads_hit due next hcell).tells_quiet (Journal.heard_self _) (ih hpeers hs due)
    | none =>
      obtain ⟨due', s₁, hlead, halone, hjournal⟩ := Stage.leads_call due next hs.alone hcell
        (hpeers.resolves s.journal key outcome known)
      have hs₁ : s₁.Recited past start settled front := by
        refine hs.quiet halone hjournal (fun k o hmem => ?_) rfl
        obtain ⟨rfl, rfl⟩ : k = key ∧ o = outcome := by simpa using hmem
        exact known
      refine hlead.tells_quiet ?_ (ih hpeers hs₁ due')
      rw [hjournal, Journal.heard, List.drop_left]
      rfl

/-- A job ends with a value alone as well. In any session that it has to itself, if keys were
resolved there to the same outcomes, there are peers with which it does. All that it asks is
answered, by some of the answers that are given, in the same order, and keys are resolved to the
outcomes that are given. -/
def StandsAlone (settled : Outcomes) (heard : List Heard) (job : Job α) (value : α) : Prop :=
  ∀ (own : Nat) (alone : Session), alone.Alone own →
    (∀ key outcome, .settled key outcome ∈ alone.news own → settled key outcome) →
    ∃ (peers : Peers) (alone' : Session) (told : List Heard),
      job.Ends peers alone (.returned value) alone' ∧
      Journal.heard peers alone.journal alone'.journal = told ∧
      Journal.questions (alone'.journal.drop alone.journal.length) = told.map Heard.question ∧
      told.Sublist heard ∧
      ∀ key outcome, .settled key outcome ∈ alone'.news own → settled key outcome

theorem StandsAlone.mono {job : Job α} {value : α} {heard heard' : List Heard}
    (h : job.StandsAlone settled heard value) (hsub : heard.Sublist heard') :
    job.StandsAlone settled heard' value := by
  intro own alone halone hknown
  obtain ⟨peers, alone', told, hends, htold, hquestions, hsub', hsettled⟩ :=
    h own alone halone hknown
  exact ⟨peers, alone', told, hends, htold, hquestions, hsub'.trans hsub, hsettled⟩

/-- **Jobs that run side by side stand alone**: what each of them ends with does not depend on the
others but for the answers and the time. -/
theorem Ends.standsAlone {manner : Manner} {n : Nat} {child : Fin n → Job α}
    {enough : Completions n α → Bool} {ended : Completions n α} {s s' : Session}
    (h : (Job.fork manner n child enough .done).Ends peers s (.returned ended) s')
    (hs : s.Orderly 0 past) (hchild : ∀ j, (child j).Straight)
    (hsettled : ∀ key outcome, .settled key outcome ∈ s'.news past → settled key outcome)
    (hsingle : ∀ key o o', settled key o → settled key o' → o = o') {i : Fin n} {value : α}
    (hmem : (i, .returned value) ∈ ended) :
    (child i).StandsAlone settled (Journal.heard peers s.journal s'.journal) value := by
  intro own alone halone hknown
  obtain ⟨heard, hsub, hhears⟩ := h.hears hs hsettled hchild hmem
  obtain ⟨peers', hrecites⟩ := Peers.exists_recites hsingle alone.journal.length heard
  have hbegins : alone.Recited own alone.journal.length settled [] :=
    ⟨halone, hknown, le_rfl, by rw [List.drop_length]; rfl⟩
  obtain ⟨alone', hlead, hheard, hrecited⟩ := hhears.tells hrecites hsingle hbegins .start
  exact ⟨peers', alone', heard, ⟨_, hlead⟩, hheard, hrecited.questions_eq, hsub, hrecited.known⟩

end Job

end Rehearsal
