import Rehearsal.Job.Lemmas
import Rehearsal.Proofs.Job.Meaning

/-!
# What a job does to the outside

A job reaches the outside by events alone: calls of the resolver, questions, log lines. A property
of events holds of all that a job does if it holds of whatever stands in its tree, as far as the
answers of a world lead there. What a job that is given up leaves behind is part of the same tree,
so it does nothing else either.

## Main definitions

* `Job.Only`, `Live.Only`: all that a job does in a world has a property
* `Session.Adds`: what was added to the journal has a property

## Main results

* `Live.Turn.only`: a turn does what the job does, and leads to nothing else
* `Job.Ends.only`: what a run adds to the journal has the property
* `Job.Only.bind`, `Job.only_all`, `Job.only_race`: the rules for going along a job
-/

namespace Rehearsal

namespace Job

/-- All that a job does in a world has a property. -/
def Only (w : World) (P : Event → Prop) : {α : Type} → Job α → Prop
  | _, done _ => True
  | _, crash _ => True
  | _, logThen line next => P (.logged line) ∧ next.Only w P
  | _, waitThen _ next => ∀ time, (next time).Only w P
  | _, askThen question next =>
    P (.asked question) ∧ ∀ answer, w.answers question (.returned answer) → (next answer).Only w P
  | _, lookupThen key next =>
    P (.called key) ∧
      ∀ outcome, w.settled key outcome → P (.settled key outcome) ∧ (next outcome).Only w P
  | _, fork _ n child enough finish =>
    (∀ i, (child i).Only w P) ∧ ∀ completions : Completions n _,
      (completions.map Prod.fst).Nodup → (∀ c ∈ completions, (child c.1).Gives w c.2) →
      (completions.length = n ∨ enough completions = true) → (finish completions).Only w P

end Job

namespace Live

/-- All that a job under way does in a world has a property. -/
def Only (w : World) (P : Event → Prop) : {α : Type} → Live α → Prop
  | _, ended _ => True
  | _, ready _ job => job.Only w P
  | _, calling _ key _ (.returned outcome) next =>
    w.settled key outcome → P (.settled key outcome) ∧ (next outcome).Only w P
  | _, calling _ _ _ (.crashed _) _ => True
  | _, seated key _ next => (Job.lookupThen key next).Only w P
  | _, forked _ n children completions _ enough finish =>
    (∀ i, (children i).Only w P) ∧ ∀ more : Completions n _,
      ((completions ++ more).map Prod.fst).Nodup → (∀ c ∈ more, (children c.1).Gives w c.2) →
      ((completions ++ more).length = n ∨ enough (completions ++ more) = true) →
      (finish (completions ++ more)).Only w P

end Live

namespace Session

variable {P : Event → Prop} {s s' s'' : Session}

/-- What was added to the journal has a property. -/
def Adds (P : Event → Prop) (s s' : Session) : Prop :=
  ∃ events, s'.journal = s.journal ++ events ∧ ∀ e ∈ events, P e

theorem adds_of_eq (h : s'.journal = s.journal) : s.Adds P s' :=
  ⟨[], by rw [h, List.append_nil], fun _ he => absurd he List.not_mem_nil⟩

theorem adds_note {event : Event} (h : P event) : s.Adds P (s.note event) :=
  ⟨[event], rfl, fun _ he => List.mem_singleton.mp he ▸ h⟩

theorem Adds.trans (h : s.Adds P s') (h' : s'.Adds P s'') : s.Adds P s'' := by
  obtain ⟨events, heq, hall⟩ := h
  obtain ⟨events', heq', hall'⟩ := h'
  exact ⟨events ++ events', by rw [heq', heq, List.append_assoc],
    List.forall_mem_append.mpr ⟨hall, hall'⟩⟩

/-- All that strays do has a property. -/
def StraysOnly (w : World) (P : Event → Prop) (s : Session) : Prop :=
  ∀ x ∈ s.strays, x.live.Sound ∧ x.live.Only w P

end Session

/-! ### A turn does what the job does -/

namespace Live

variable {α β : Type} {w : World} {P : Event → Prop} {peers : Peers} {F : Multiset Holding}
  {past : Nat} {s s' : Session}

theorem child_only {x root : Stray} (h : Child x root)
    (hroot : root.live.Sound ∧ root.live.Only w P) : x.live.Sound ∧ x.live.Only w P := by
  cases h with
  | intro i => exact ⟨hroot.1.1 i, hroot.2.1 i⟩

/-- A call of the resolver does what its lookup does. -/
theorem only_calling {due : Due} {key : LookupKey} {seat : Seat} {answer : Outcome LookupOutcome}
    {next : LookupOutcome → Job α} (h : (Job.lookupThen key next).Only w P) :
    (calling due key seat answer next).Only w P := by
  cases answer with
  | returned outcome => exact h.2 outcome
  | crashed message => exact trivial

/-- **A turn does what the job does, and leads to nothing else.** -/
theorem Turn.only {live live' : Live α} (h : Turn peers live s live' s')
    (hw : w.Covers peers (s'.news past)) (hsound : live.Sound)
    (hs : s.Orderly (live.holdings + F) past) (honly : live.Only w P) :
    live'.Only w P ∧ s.Adds P s' := by
  induction h generalizing F with
  | done | crash => exact ⟨trivial, Session.adds_of_eq rfl⟩
  | log => exact ⟨honly.2, Session.adds_note honly.1⟩
  | wait => exact ⟨honly _, Session.adds_of_eq rfl⟩
  | @ask _ _ _ question next s =>
    refine ⟨?_, Session.adds_note honly.1⟩
    have hanswer := hw.answers s.journal question
    cases hreply : (peers.answer s.journal question).outcome with
    | returned value => exact honly.2 value (hreply ▸ hanswer)
    | crashed message => exact trivial
  | hit known =>
    exact ⟨(honly.2 _ (hw.settled _ _ (hs.mem_news known))).2, Session.adds_of_eq rfl⟩
  | call => exact ⟨only_calling honly, Session.adds_note honly.1⟩
  | join => exact ⟨honly, Session.adds_of_eq rfl⟩
  | fork => exact ⟨⟨honly.1, fun more => honly.2 more⟩, Session.adds_of_eq rfl⟩
  | @settle _ _ _ key _ outcome _ s =>
    have hnews : .settled key outcome ∈ (s.settle key outcome).news past := by
      rw [Session.news_append_of_journal hs.past_le (Session.journal_settle key outcome s)]
      exact List.mem_append_right _ (List.mem_singleton_self _)
    have hnow := honly (hw.settled key outcome hnews)
    exact ⟨hnow.2, [_], Session.journal_settle .., fun _ he => List.mem_singleton.mp he ▸ hnow.1⟩
  | lose => exact ⟨trivial, Session.adds_of_eq (Session.journal_leave ..)⟩
  | serve known =>
    exact ⟨(honly.2 _ (hw.settled _ _ (hs.mem_news known))).2, Session.adds_of_eq rfl⟩
  | takeOver => exact ⟨only_calling honly, Session.adds_note honly.1⟩
  | finish through =>
    refine ⟨?_, Session.adds_of_eq (journal_abandonAll ..)⟩
    have hfinish := honly.2 []
    rw [List.append_nil] at hfinish
    exact hfinish hsound.2.nodup (fun _ hc => absurd hc List.not_mem_nil) through
  | sleep => exact ⟨honly, Session.adds_of_eq rfl⟩
  | part i turn _ ih =>
    rw [holdings_forked_add i] at hs
    have hchild := ih hw (hsound.1 i) hs (honly.1 i)
    refine ⟨⟨fun j => ?_, fun more hnodup hgives => honly.2 more hnodup ?_⟩, hchild.2⟩
    · rw [Function.update_apply]
      split
      · exact hchild.1
      · exact honly.1 j
    · exact forall_gives_of_update (fun _ => turn.gives hw (hsound.1 i) hs) hgives
  | @partEnds _ _ _ n children outcome completions _ _ _ _ _ _ i turn _ ih =>
    rw [holdings_forked_add i] at hs
    have hchild := ih hw (hsound.1 i) hs (honly.1 i)
    refine ⟨⟨fun j => ?_, fun more hnodup hgives => ?_⟩, hchild.2⟩
    · rw [Function.update_apply]
      split
      · exact trivial
      · exact honly.1 j
    · rw [List.append_assoc, List.singleton_append] at hnodup ⊢
      exact honly.2 _ hnodup
        (forall_gives_of_ended hnodup (turn.gives hw (hsound.1 i) hs rfl) hgives)

/-- A turn leaves nothing behind that does anything else. -/
theorem Turn.straysOnly {live live' : Live α} (h : Turn peers live s live' s')
    (hsound : live.Sound) (honly : live.Only w P) (hs : s.StraysOnly w P) : s'.StraysOnly w P :=
  h.strays (P := fun x => x.live.Sound ∧ x.live.Only w P) (fun _ _ => child_only)
    ⟨hsound, honly⟩ hs

end Live

/-! ### Runs -/

namespace Session

variable {w : World} {P : Event → Prop} {peers : Peers} {H : Multiset Holding} {past : Nat}
  {s s' : Session}

theorem Drift.only (h : Drift peers s s') (hw : w.Covers peers (s'.news past))
    (hs : s.Orderly H past) (hstrays : s.StraysOnly w P) : s'.StraysOnly w P ∧ s.Adds P s' := by
  obtain ⟨i, at_, turn⟩ := h
  obtain ⟨hsound, honly⟩ := hstrays _ (List.mem_of_getElem? at_)
  have hlater := turn.only hw hsound (hs.lend at_) honly
  refine ⟨fun x hx => ?_, hlater.2⟩
  rcases List.mem_or_eq_of_mem_set hx with hx | rfl
  · refine turn.straysOnly hsound honly (fun y hy => ?_) x hx
    rcases List.mem_or_eq_of_mem_set hy with hy | rfl
    · exact hstrays y hy
    · exact ⟨trivial, trivial⟩
  · exact ⟨turn.sound hsound, hlater.1⟩

theorem Passes.straysOnly (h : s.Passes s') (hstrays : s.StraysOnly w P) : s'.StraysOnly w P := by
  rw [StraysOnly, h.strays]
  exact hstrays

theorem Drifts.only (h : s.Drifts peers s') (hw : w.Covers peers (s'.news past))
    (hs : s.Orderly H past) (hstrays : s.StraysOnly w P) : s'.StraysOnly w P ∧ s.Adds P s' := by
  induction h with
  | refl => exact ⟨hstrays, adds_of_eq rfl⟩
  | @tail s₁ s₂ hbefore move ih =>
    have hgrows : s₁.journal <+: s₂.journal :=
      Drifts.journal_grows (.single move : s₁.Drifts peers s₂)
    obtain ⟨hstrays₁, hadds⟩ := ih (hw.mono (news_subset hgrows past))
    rcases move with passes | drift
    · exact ⟨passes.straysOnly hstrays₁, hadds.trans (adds_of_eq passes.journal)⟩
    · obtain ⟨hstrays₂, hadds'⟩ := drift.only hw (hs.drifts hbefore) hstrays₁
      exact ⟨hstrays₂, hadds.trans hadds'⟩

end Session

namespace Stage

variable {α : Type} {w : World} {P : Event → Prop} {peers : Peers} {past : Nat}

theorem Leads.sound {now later : Stage α} (h : Leads peers now later) (hsound : now.1.Sound) :
    later.1.Sound :=
  h.preserves (P := fun live _ => live.Sound) (fun _ _ _ _ h => h) (fun _ _ _ _ h => h)
    (fun _ _ _ _ turn h => turn.sound h) hsound

/-- **What a run adds to the journal has the property** that all has which the job and strays do. -/
theorem Leads.only {now later : Stage α} (h : Leads peers now later)
    (hw : w.Covers peers (later.2.news past)) (hsound : now.1.Sound)
    (hs : now.2.Orderly now.1.holdings past) (honly : now.1.Only w P)
    (hstrays : now.2.StraysOnly w P) :
    later.1.Only w P ∧ later.2.StraysOnly w P ∧ now.2.Adds P later.2 := by
  induction h with
  | refl => exact ⟨honly, hstrays, Session.adds_of_eq rfl⟩
  | @tail b c hbefore move ih =>
    have hgrows := Leads.journal_grows (.single move : Leads peers b c)
    obtain ⟨honly₁, hstrays₁, hadds⟩ := ih (hw.mono (Session.news_subset hgrows past))
    have hs₁ := Leads.orderly hbefore hs
    have hsound₁ := Leads.sound hbefore hsound
    rcases move.turn with ⟨hlive, drifts⟩ | ⟨s₀, s₁, before, turn, after⟩
    · obtain ⟨hstrays₂, hadds'⟩ := drifts.only hw hs₁ hstrays₁
      exact ⟨hlive ▸ honly₁, hstrays₂, hadds.trans hadds'⟩
    · have hw₁ : w.Covers peers (s₁.news past) := by
        rw [Session.news, ← after.journal]
        exact hw
      have hs₀ := hs₁.passes before
      rw [← add_zero b.1.holdings] at hs₀
      obtain ⟨honly₂, hadds'⟩ := turn.only hw₁ hsound₁ hs₀ honly₁
      refine ⟨honly₂, after.straysOnly (turn.straysOnly hsound₁ honly₁
        (before.straysOnly hstrays₁)), hadds.trans ?_⟩
      exact (Session.adds_of_eq before.journal).trans
        (hadds'.trans (Session.adds_of_eq after.journal))

end Stage

namespace Job

variable {α β : Type} {w : World} {P : Event → Prop} {peers : Peers} {past : Nat}

/-- **What a run adds to the journal has the property** that all has which the job and strays do. -/
theorem Ends.only {job : Job α} {s s' : Session} {o : Outcome α} (h : job.Ends peers s o s')
    (hw : w.Covers peers (s'.news past)) (hs : s.Orderly 0 past) (honly : job.Only w P)
    (hstrays : s.StraysOnly w P) : s'.StraysOnly w P ∧ s.Adds P s' := by
  obtain ⟨due, h⟩ := h
  exact (h.only hw trivial hs honly hstrays).2

/-! ### Going along a job -/

theorem only_done (value : α) : (done value).Only w P := trivial

theorem only_crash (message : String) : (crash message : Job α).Only w P := trivial

theorem Only.mono {Q : Event → Prop} {job : Job α} (h : job.Only w P) (himp : ∀ e, P e → Q e) :
    job.Only w Q := by
  induction job with
  | done | crash => exact trivial
  | logThen line next ih => exact ⟨himp _ h.1, ih h.2⟩
  | waitThen milliseconds next ih => exact fun time => ih time (h time)
  | askThen question next ih =>
    exact ⟨himp _ h.1, fun answer hanswer => ih answer (h.2 answer hanswer)⟩
  | lookupThen key next ih =>
    exact ⟨himp _ h.1, fun outcome hsettled =>
      ⟨himp _ (h.2 outcome hsettled).1, ih outcome (h.2 outcome hsettled).2⟩⟩
  | fork manner n child enough finish ihchild ihfinish =>
    exact ⟨fun i => ihchild i (h.1 i), fun completions hnodup hgives hthrough =>
      ihfinish completions (h.2 completions hnodup hgives hthrough)⟩

theorem Only.bind {job : Job α} {f : α → Job β} (h : job.Only w P)
    (hf : ∀ value, job.Gives w (.returned value) → (f value).Only w P) :
    (job.bind f).Only w P := by
  induction job with
  | done value => exact hf value .done
  | crash => exact trivial
  | logThen line next ih => exact ⟨h.1, ih h.2 fun value hgive => hf value (.logThen hgive)⟩
  | waitThen milliseconds next ih =>
    exact fun time => ih time (h time) fun value hgive => hf value (.waitThen hgive)
  | askThen question next ih =>
    exact ⟨h.1, fun answer hanswer => ih answer (h.2 answer hanswer) fun value hgive =>
      hf value (.askThen hanswer hgive)⟩
  | lookupThen key next ih =>
    exact ⟨h.1, fun outcome hsettled => ⟨(h.2 outcome hsettled).1,
      ih outcome (h.2 outcome hsettled).2 fun value hgive => hf value (.lookupThen hsettled hgive)⟩⟩
  | fork manner n child enough finish _ ih =>
    exact ⟨h.1, fun completions hnodup hgives hthrough =>
      ih completions (h.2 completions hnodup hgives hthrough) fun value hgive =>
        hf value (.fork hnodup hgives hthrough hgive)⟩

theorem only_lookup_bind {name : String} {type : RecordType} {f : LookupOutcome → Job β}
    (hcalled : P (.called (.ofName name type)))
    (h : ∀ outcome, w.settled (.ofName name type) outcome →
      P (.settled (.ofName name type) outcome) ∧ (f outcome).Only w P) :
    ((Job.lookup name type).bind f).Only w P :=
  ⟨hcalled, h⟩

theorem only_ask_bind {question : Question} {f : question.Answer → Job β}
    (hasked : P (.asked question)) (h : ∀ answer, (f answer).Only w P) :
    ((Job.ask question).bind f).Only w P :=
  ⟨hasked, fun answer _ => h answer⟩

theorem only_time_bind {f : Nat → Job β} (h : ∀ now, (f now).Only w P) :
    (Job.time.bind f).Only w P :=
  h

theorem only_lookup {name : String} {type : RecordType} (hcalled : P (.called (.ofName name type)))
    (h : ∀ outcome, P (.settled (.ofName name type) outcome)) : (Job.lookup name type).Only w P :=
  ⟨hcalled, fun outcome _ => ⟨h outcome, trivial⟩⟩

theorem only_fork {manner : Manner} {n : Nat} {child : Fin n → Job α}
    {enough : Completions n α → Bool} {finish : Completions n α → Job β}
    (h : ∀ i, (child i).Only w P) (hfinish : ∀ completions, (finish completions).Only w P) :
    (fork manner n child enough finish).Only w P :=
  ⟨h, fun completions _ _ _ => hfinish completions⟩

theorem only_race {jobs : List (Job α)} {enough : Completions jobs.length α → Bool}
    {finish : Completions jobs.length α → Job β} (h : ∀ job ∈ jobs, job.Only w P)
    (hfinish : ∀ completions, (finish completions).Only w P) :
    (race jobs enough finish).Only w P :=
  only_fork (fun i => h _ (List.get_mem jobs i)) hfinish

theorem only_all {jobs : List (Job α)} (h : ∀ job ∈ jobs, job.Only w P) :
    (all jobs).Only w P := by
  refine only_fork (fun i => h _ (List.get_mem jobs i)) fun completions => ?_
  unfold gather
  split <;> exact trivial

-- From here on the rules are used; seeing through the recursion would evaluate the job.
attribute [irreducible] Only

end Job

end Rehearsal
