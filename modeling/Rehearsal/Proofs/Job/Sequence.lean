import Rehearsal.Proofs.Job.Fork

/-!
# One step after another

A job that has nobody beside it takes its steps one after another, and between them time passes and
nothing else happens. So its run can be read off its text: a question is answered from the journal
as it stands, and a lookup either finds the outcome of an earlier call or calls the resolver and
waits for it to return. Nobody else can have called, since who has called holds a seat.

The rules here tell the whole journal of such a run, where the rules of `Job.Gives` tell only its
outcome.

A job in which no children are loose takes all of itself along when it is given up, so it leaves
nobody behind. Where it is followed by another one, it is enough to know that. A job in which there
is no fork at all is one of these.

## Main definitions

* `Session.Alone`: a job has the session to itself
* `Journal.Extends`: a journal goes on with events of a kind
* `LooksUp`: a lookup, told by the journal before and after it
* `Job.Attached`, `Job.Straight`: there are no loose children in a job, or no forks at all

## Main results

* `Job.Ends.turn_alone`: a run begins with a turn of the job in the session as it is
* `Job.Ends.wait_alone`, `Job.Ends.ask_alone`: the first step of a run is a wait or a question
* `Job.Ends.lookup_alone`, `Job.Ends.looksUp`: the first steps of a run are a lookup
* `Job.Ends.alone_of_attached`: a job without loose children leaves the session to whoever comes
  after it
-/

namespace Rehearsal

namespace Session

variable {past : Nat} {s s' : Session}

/-- A job has the session to itself: nothing was left behind, and nobody waits for an outcome. -/
structure Alone (past : Nat) (s : Session) : Prop where
  /-- Nothing was left behind. -/
  strays : s.strays = []
  /-- Nobody holds a seat. -/
  orderly : s.Orderly 0 past

theorem alone_forget (s : Session) : s.forget.Alone s.journal.length :=
  ⟨rfl, orderly_of_cache_eq_nil rfl rfl⟩

theorem Alone.passes (h : s.Alone past) (hpass : s.Passes s') : s'.Alone past :=
  ⟨hpass.strays.trans h.strays, h.orderly.passes hpass⟩

theorem Alone.note_asked (h : s.Alone past) (question : Question) :
    (s.note (.asked question)).Alone past :=
  ⟨h.strays, h.orderly.note_quiet (fun _ => by simp) fun _ _ => by simp⟩

/-- Where nobody holds a seat, nobody waits. -/
theorem Alone.queue_eq_nil (h : s.Alone past) {key : LookupKey}
    (unknown : (s.entry key).cell.outcome = none) : (s.entry key).cell.queue = [] := by
  refine List.eq_nil_iff_forall_not_mem.mpr fun seat hseat => ?_
  obtain ⟨calls, hholding⟩ := (h.orderly.mem_queue key unknown seat).mp hseat
  rw [zero_add, held_of_strays_eq_nil h.strays] at hholding
  exact Multiset.notMem_zero _ hholding

end Session

namespace Job

variable {α : Type} {peers : Peers} {past : Nat} {s s' : Session} {outcome : Outcome α}

/-- What is under way in a session of its own begins with a turn in the session as it is. -/
theorem turn_alone_of_leads {live : Live α} {H : Multiset Holding}
    (h : Stage.Leads peers (live, s) (.ended outcome, s')) (hgoing : live.outcome? = none)
    (hstrays : s.strays = []) (hs : s.Orderly H past) :
    ∃ s₀ live' s₁ s₂, s.Passes s₀ ∧ s₀.Orderly H past ∧ Live.Turn peers live s₀ live' s₁ ∧
      s₁.Passes s₂ ∧ Stage.Leads peers (live', s₂) (.ended outcome, s') := by
  obtain ⟨s₀, live', s₁, s₂, before, turn, after, hrest⟩ := turn_of_leads h hgoing
  have passes := before.passes hstrays
  exact ⟨s₀, live', s₁, s₂, passes, hs.passes passes, turn, after, hrest⟩

/-- **A run begins with a turn of the job in the session as it is.** -/
theorem Ends.turn_alone {job : Job α} (h : job.Ends peers s outcome s') (hs : s.Alone past) :
    ∃ due s₀ live s₁ s₂, s.Passes s₀ ∧ s₀.Alone past ∧
      Live.Turn peers (.ready due job) s₀ live s₁ ∧ s₁.Passes s₂ ∧
      Stage.Leads peers (live, s₂) (.ended outcome, s') := by
  obtain ⟨due, s₀, live, s₁, s₂, before, turn, after, hrest⟩ := h.turn
  have passes := before.passes hs.strays
  exact ⟨due, s₀, live, s₁, s₂, passes, hs.passes passes, turn, after, hrest⟩

theorem Ends.done_alone {value : α} (h : (Job.done value).Ends peers s outcome s')
    (hs : s.Alone past) : outcome = .returned value ∧ s'.journal = s.journal := by
  obtain ⟨houtcome, drifts⟩ := h.done
  exact ⟨houtcome, (drifts.passes hs.strays).journal⟩

theorem Ends.crash_alone {message : String}
    (h : (Job.crash message : Job α).Ends peers s outcome s') (hs : s.Alone past) :
    outcome = .crashed message ∧ s'.journal = s.journal := by
  obtain ⟨due, s₀, live, s₁, s₂, before, alone, turn, after, hrest⟩ := h.turn_alone hs
  cases turn
  obtain ⟨rfl, drifts⟩ := eq_of_leads_ended hrest
  have hlast := drifts.passes (after.strays.trans alone.strays)
  exact ⟨rfl, hlast.journal.trans (after.journal.trans before.journal)⟩

/-- **A question is answered from the journal as it stands**, and the job goes on with the
answer. -/
theorem Ends.ask_alone {question : Question} {next : question.Answer → Job α}
    (h : (Job.askThen question next).Ends peers s outcome s') (hs : s.Alone past) :
    ∃ s₁, s₁.Alone past ∧ s₁.journal = s.journal ++ [.asked question] ∧
      (Live.afterAnswer next (peers.answer s.journal question).outcome).Ends peers s₁ outcome
        s' := by
  obtain ⟨due, s₀, live, s₁, s₂, before, alone, turn, after, hrest⟩ := h.turn_alone hs
  cases turn with
  | ask =>
    rw [before.journal] at hrest
    refine ⟨s₂, (alone.note_asked question).passes after, ?_, _, hrest⟩
    rw [after.journal, Session.note, before.journal]

/-- Time passes, and the job is told how late it is. -/
theorem Ends.wait_alone {milliseconds : Nat} {next : Nat → Job α}
    (h : (Job.waitThen milliseconds next).Ends peers s outcome s') (hs : s.Alone past) :
    ∃ time s₁, s₁.Alone past ∧ s₁.journal = s.journal ∧ (next time).Ends peers s₁ outcome s' := by
  obtain ⟨due, s₀, live, s₁, s₂, before, alone, turn, after, hrest⟩ := h.turn_alone hs
  cases turn with
  | wait =>
    exact ⟨_, s₂, alone.passes after, after.journal.trans before.journal, _, hrest⟩

/-- **A lookup finds the outcome of an earlier call, or it calls the resolver**; the call returns,
and its outcome is kept, or it breaks down and the job with it. -/
theorem Ends.lookup_alone {key : LookupKey} {next : LookupOutcome → Job α}
    (h : (Job.lookupThen key next).Ends peers s outcome s') (hs : s.Alone past) :
    (∃ o s₁, .settled key o ∈ s.news past ∧ s₁.Alone past ∧ s₁.journal = s.journal ∧
        (next o).Ends peers s₁ outcome s') ∨
      (∃ o s₁, (∀ o', .settled key o' ∉ s.news past) ∧
        (peers.lookup s.journal key).outcome = .returned o ∧ s₁.Alone past ∧
        s₁.journal = s.journal ++ [.called key, .settled key o] ∧
        (next o).Ends peers s₁ outcome s') ∨
      ∃ message, (∀ o', .settled key o' ∉ s.news past) ∧
        (peers.lookup s.journal key).outcome = .crashed message ∧ outcome = .crashed message ∧
        s'.journal = s.journal ++ [.called key] := by
  obtain ⟨due, s₀, live, s₁, s₂, before, alone, turn, after, hrest⟩ := h.turn_alone hs
  have hnews : s₀.news past = s.news past := by rw [Session.news, before.journal, Session.news]
  cases turn with
  | @hit _ _ _ _ _ _ o known =>
    refine .inl ⟨o, s₂, hnews ▸ alone.orderly.mem_news known, alone.passes after, ?_, _, hrest⟩
    rw [after.journal, before.journal]
  | join unknown others => exact absurd (alone.queue_eq_nil unknown) others
  | call unknown hqueue =>
    right
    have hnew (o' : LookupOutcome) : .settled key o' ∉ s.news past := by
      intro hmem
      have hknown := alone.orderly.outcome_of_mem_news (hnews.symm ▸ hmem)
      rw [unknown] at hknown
      cases hknown
    have hcaller : ((s₀.sit key).entry key).cell.caller? = some s₀.ticket := by
      rw [Session.cell_entry_sit, if_pos rfl, LookupCell.caller?, LookupCell.join]
      simp only [unknown, hqueue, List.nil_append, List.head?_cons]
    have horderly : s₂.Orderly (⟨key, s₀.ticket, true⟩ ::ₘ 0) past :=
      ((alone.orderly.sit unknown).called hcaller).passes after
    have hjournal : s₂.journal = s.journal ++ [.called key] := by
      rw [after.journal, ← before.journal]
      rfl
    have hstrays : s₂.strays = [] := after.strays.trans alone.strays
    -- the call returns, or it breaks down
    obtain ⟨s₃, live', s₄, s₅, before', horderly', turn', after', hrest'⟩ :=
      turn_alone_of_leads hrest rfl hstrays horderly
    rw [before.journal] at turn'
    generalize hanswer : (peers.lookup s.journal key).outcome = answer at turn'
    cases turn' with
    | @settle _ _ _ _ _ o =>
      refine .inl ⟨o, s₅, hnew, rfl, ⟨?_, (horderly'.settle o).passes after'⟩, ?_, _, hrest'⟩
      · rw [after'.strays]
        exact before'.strays.trans hstrays
      · rw [after'.journal, Session.journal_settle, before'.journal, hjournal, List.append_assoc]
        rfl
    | @lose _ _ _ _ message =>
      obtain ⟨rfl, drifts⟩ := eq_of_leads_ended hrest'
      have hlast := drifts.passes (after'.strays.trans
        ((Session.strays_leave ..).trans (before'.strays.trans hstrays)))
      refine .inr ⟨message, hnew, rfl, rfl, ?_⟩
      rw [hlast.journal, after'.journal, Session.journal_leave, before'.journal, hjournal]

/-- A job that has the session to itself comes to an end. -/
theorem exists_run_alone (peers : Peers) (job : Job α) (hs : s.Alone past) :
    ∃ fuel outcome s', job.run peers fuel s = some (outcome, s') :=
  Live.exists_run peers trivial (fun x hx => by rw [hs.strays] at hx; cases hx) hs.orderly

end Job

/-! ### Lookups by their journals -/

namespace Journal

variable {P Q : Event → Prop} {journal middle journal' : List Event}

/-- A journal goes on with events of a kind. -/
def Extends (P : Event → Prop) (journal journal' : List Event) : Prop :=
  ∃ events, journal' = journal ++ events ∧ ∀ e ∈ events, P e

theorem Extends.refl (P : Event → Prop) (journal : List Event) : Extends P journal journal :=
  ⟨[], (List.append_nil _).symm, fun _ he => absurd he List.not_mem_nil⟩

theorem Extends.trans (h : Extends P journal middle) (h' : Extends P middle journal') :
    Extends P journal journal' := by
  obtain ⟨events, rfl, hall⟩ := h
  obtain ⟨events', rfl, hall'⟩ := h'
  exact ⟨events ++ events', List.append_assoc .., List.forall_mem_append.mpr ⟨hall, hall'⟩⟩

theorem Extends.mono (h : Extends P journal journal') (himp : ∀ e, P e → Q e) :
    Extends Q journal journal' := by
  obtain ⟨events, heq, hall⟩ := h
  exact ⟨events, heq, fun e he => himp e (hall e he)⟩

theorem Extends.isPrefix (h : Extends P journal journal') : journal <+: journal' := by
  obtain ⟨events, rfl, -⟩ := h
  exact List.prefix_append journal events

theorem Extends.forall_mem_drop (h : Extends P journal journal') :
    ∀ e ∈ journal'.drop journal.length, P e := by
  obtain ⟨events, rfl, hall⟩ := h
  rwa [List.drop_left]

end Journal

/-- A lookup by a job that has the session to itself, told by the journal before and after it. -/
inductive LooksUp (peers : Peers) (past : Nat) (key : LookupKey) (journal : List Event) :
    List Event → Outcome LookupOutcome → Prop where
  /-- The outcome of an earlier call is kept. -/
  | kept {o : LookupOutcome} (known : .settled key o ∈ journal.drop past) :
    LooksUp peers past key journal journal (.returned o)
  /-- The resolver is called, and its answer will be kept. -/
  | called {o : LookupOutcome} (new : ∀ o', .settled key o' ∉ journal.drop past)
      (answer : (peers.lookup journal key).outcome = .returned o) :
    LooksUp peers past key journal (journal ++ [.called key, .settled key o]) (.returned o)
  /-- The resolver is called and breaks down. -/
  | lost {message : String} (new : ∀ o', .settled key o' ∉ journal.drop past)
      (answer : (peers.lookup journal key).outcome = .crashed message) :
    LooksUp peers past key journal (journal ++ [.called key]) (.crashed message)

namespace LooksUp

variable {peers : Peers} {past : Nat} {key : LookupKey} {journal journal' : List Event}

/-- The outcome of a lookup is kept. -/
theorem settled_mem {o : LookupOutcome} (h : LooksUp peers past key journal journal' (.returned o))
    (hpast : past ≤ journal.length) : .settled key o ∈ journal'.drop past := by
  cases h with
  | kept known => exact known
  | called =>
    rw [List.drop_append_of_le_length hpast]
    exact List.mem_append_right _ (List.mem_cons_of_mem _ List.mem_cons_self)

/-- A lookup does nothing else. -/
theorem journal_extends {o : Outcome LookupOutcome}
    (h : LooksUp peers past key journal journal' o) :
    Journal.Extends (fun e => e = .called key ∨ ∃ o, e = .settled key o) journal journal' := by
  cases h with
  | kept => exact .refl _ _
  | called => exact ⟨_, rfl, by simp⟩
  | lost => exact ⟨_, rfl, by simp⟩

end LooksUp

/-- **A run that begins with a lookup** goes on with its outcome, unless the resolver breaks down.
-/
theorem Job.Ends.looksUp {α : Type} {peers : Peers} {past : Nat} {s s' : Session}
    {key : LookupKey} {next : LookupOutcome → Job α} {outcome : Outcome α}
    (h : (Job.lookupThen key next).Ends peers s outcome s') (hs : s.Alone past) :
    (∃ o s₁, LooksUp peers past key s.journal s₁.journal (.returned o) ∧ s₁.Alone past ∧
        (next o).Ends peers s₁ outcome s') ∨
      ∃ message, LooksUp peers past key s.journal s'.journal (.crashed message) ∧
        outcome = .crashed message := by
  rcases Job.Ends.lookup_alone h hs with ⟨o, s₁, hknown, hs₁, hjournal, hrest⟩ |
    ⟨o, s₁, hnew, hanswer, hs₁, hjournal, hrest⟩ | ⟨message, hnew, hanswer, houtcome, hjournal⟩
  · refine .inl ⟨o, s₁, ?_, hs₁, hrest⟩
    rw [hjournal]
    exact .kept hknown
  · exact .inl ⟨o, s₁, hjournal ▸ .called hnew hanswer, hs₁, hrest⟩
  · exact .inr ⟨message, hjournal ▸ .lost hnew hanswer, houtcome⟩

/-! ### Jobs that leave nobody behind -/

namespace Job

/-- No children are loose: whoever gives a job up gives up all of it. -/
def Attached : {α : Type} → Job α → Prop
  | _, done _ => True
  | _, crash _ => True
  | _, logThen _ next => next.Attached
  | _, waitThen _ next => ∀ time, (next time).Attached
  | _, askThen _ next => ∀ answer, (next answer).Attached
  | _, lookupThen _ next => ∀ outcome, (next outcome).Attached
  | _, fork manner _ child _ finish =>
    manner ≠ .loose ∧ (∀ i, (child i).Attached) ∧ ∀ completions, (finish completions).Attached

end Job

namespace Live

variable {α β : Type} {peers : Peers} {s s' : Session}

/-- No children are loose in what is under way. -/
def Attached : {α : Type} → Live α → Prop
  | _, ended _ => True
  | _, ready _ job => job.Attached
  | _, calling _ _ _ _ next => ∀ outcome, (next outcome).Attached
  | _, seated _ _ next => ∀ outcome, (next outcome).Attached
  | _, forked manner _ children _ _ _ finish =>
    manner ≠ .loose ∧ (∀ i, (children i).Attached) ∧ ∀ completions, (finish completions).Attached

theorem attached_ready_afterAnswer {due : Due} {next : β → Job α}
    (h : ∀ answer, (next answer).Attached) (answer : Outcome β) :
    (ready due (afterAnswer next answer)).Attached := by
  cases answer with
  | returned value => exact h value
  | crashed message => exact trivial

theorem attached_update {n : Nat} {children : Fin n → Live β} {i : Fin n} {child : Live β}
    (h : ∀ j, (children j).Attached) (hchild : child.Attached) (j : Fin n) :
    (Function.update children i child j).Attached :=
  (Function.forall_update_iff children fun _ live => live.Attached).mpr
    ⟨hchild, fun k _ => h k⟩ j

theorem Attached.leftBehind_eq_nil {live : Live α} (h : live.Attached) : live.leftBehind = [] := by
  induction live with
  | ended | ready | calling | seated => rfl
  | forked manner n children _ _ _ _ ih =>
    rw [leftBehind_forked, if_neg h.1, List.flatMap_eq_nil_iff]
    exact fun i _ => ih i (h.2.1 i)

/-- A turn of a job without loose children leaves nobody behind. -/
theorem Turn.attached {live live' : Live α} (turn : Turn peers live s live' s')
    (h : live.Attached) : live'.Attached ∧ s'.strays = s.strays := by
  induction turn with
  | done | crash => exact ⟨trivial, rfl⟩
  | log | call | join | takeOver => exact ⟨h, rfl⟩
  | wait => exact ⟨h _, rfl⟩
  | ask => exact ⟨attached_ready_afterAnswer h _, rfl⟩
  | hit | settle | serve => exact ⟨h _, rfl⟩
  | lose => exact ⟨trivial, Session.strays_leave ..⟩
  | fork | sleep => exact ⟨h, rfl⟩
  | finish =>
    refine ⟨h.2.2 _, ?_⟩
    rw [strays_abandonAll, List.flatMap_eq_nil_iff.mpr fun i _ => (h.2.1 i).leftBehind_eq_nil,
      List.append_nil]
  | part i _ _ ih =>
    obtain ⟨hchild, hstrays⟩ := ih (h.2.1 i)
    exact ⟨⟨h.1, attached_update h.2.1 hchild, h.2.2⟩, hstrays⟩
  | partEnds i _ _ ih =>
    obtain ⟨hchild, hstrays⟩ := ih (h.2.1 i)
    exact ⟨⟨h.1, attached_update h.2.1 hchild, h.2.2⟩, hstrays⟩

end Live

namespace Job

variable {α : Type} {peers : Peers} {past : Nat} {s s' : Session} {outcome : Outcome α}

/-- **A job without loose children leaves the session to whoever comes after it.** -/
theorem Ends.alone_of_attached {job : Job α} (h : job.Ends peers s outcome s') (hs : s.Alone past)
    (hjob : job.Attached) : s'.Alone past := by
  obtain ⟨due, h⟩ := h
  refine ⟨?_, h.orderly hs.orderly⟩
  refine (h.preserves (P := fun live s => live.Attached ∧ s.strays = []) ?_ ?_ ?_
    ⟨hjob, hs.strays⟩).2
  · exact fun live s₁ s₂ passes hnow => ⟨hnow.1, passes.strays.trans hnow.2⟩
  · rintro live s₁ s₂ ⟨i, at_, -⟩ ⟨-, hnone⟩
    rw [hnone] at at_
    cases at_
  · intro live s₁ live' s₂ turn hnow
    obtain ⟨hlive, hstrays⟩ := turn.attached hnow.1
    exact ⟨hlive, hstrays.trans hnow.2⟩

end Job

/-! ### Jobs without forks -/

namespace Job

variable {α : Type} {peers : Peers} {past : Nat} {s s' : Session} {outcome : Outcome α}

/-- There is no fork in a job: it takes its steps one after another. -/
def Straight : {α : Type} → Job α → Prop
  | _, done _ => True
  | _, crash _ => True
  | _, logThen _ next => next.Straight
  | _, waitThen _ next => ∀ time, (next time).Straight
  | _, askThen _ next => ∀ answer, (next answer).Straight
  | _, lookupThen _ next => ∀ outcome, (next outcome).Straight
  | _, fork .. => False

theorem Straight.bind {β : Type} {job : Job α} {f : α → Job β} (h : job.Straight)
    (hf : ∀ value, (f value).Straight) : (job.bind f).Straight := by
  induction job with
  | done value => exact hf value
  | crash message => exact trivial
  | logThen line next ih => exact ih h hf
  | waitThen milliseconds next ih => exact fun time => ih time (h time) hf
  | askThen question next ih => exact fun answer => ih answer (h answer) hf
  | lookupThen key next ih => exact fun outcome => ih outcome (h outcome) hf
  | fork => exact h.elim

theorem Straight.attached {job : Job α} (h : job.Straight) : job.Attached := by
  induction job with
  | done | crash => exact trivial
  | logThen line next ih => exact ih h
  | waitThen milliseconds next ih => exact fun time => ih time (h time)
  | askThen question next ih => exact fun answer => ih answer (h answer)
  | lookupThen key next ih => exact fun outcome => ih outcome (h outcome)
  | fork => exact h.elim

theorem Ends.alone {job : Job α} (h : job.Ends peers s outcome s') (hs : s.Alone past)
    (hjob : job.Straight) : s'.Alone past :=
  h.alone_of_attached hs hjob.attached

/-- What is made of the value of a job without forks adds nothing to the journal. -/
theorem Ends.map_alone {β : Type} {job : Job β} {f : β → α}
    (h : (job.bind fun value => .done (f value)).Ends peers s outcome s') (hs : s.Alone past)
    (hjob : job.Straight) :
    ∃ o s₁, job.Ends peers s o s₁ ∧ s'.journal = s₁.journal ∧
      ((∃ message, o = .crashed message ∧ outcome = .crashed message) ∨
        ∃ value, o = .returned value ∧ outcome = .returned (f value)) := by
  rcases h.bind with ⟨message, houtcome, hbroken⟩ | ⟨value, s₁, hvalue, hrest⟩
  · exact ⟨_, s', hbroken, rfl, .inl ⟨message, rfl, houtcome⟩⟩
  · obtain ⟨houtcome, hjournal⟩ := hrest.done_alone (hvalue.alone hs hjob)
    exact ⟨_, s₁, hvalue, hjournal, .inr ⟨value, rfl, houtcome⟩⟩

end Job

end Rehearsal
