import Rehearsal.Proofs.Job.Race

/-!
# Runs that are chosen

`Job.Ends` lets steps be taken in any order. What holds of all of these runs holds of the ones that
the clock chooses, but some things hold of those alone: a child that can begin at once is not
overtaken by its parent, say. To tell both from one reading of a job, a schedule is any choice of
runs of which a part is chosen again. Nothing else is asked of it: in particular it may depend on
the job and on all that happened before.

By the clock this is so because it can be told whose turn it is without looking at what comes next:
what follows a job changes nothing in the places at which the job waits.

## Main definitions

* `Job.EndsOnTime`: what a job ends with by the clock
* `Schedule`: a choice of runs

## Main results

* `Live.turn?_bind`: what follows a job does not change whose turn it is
* `Schedule.onTime`: the runs by the clock are a choice of runs
* `Schedule.race`: a run of a race is a run of its completions and then one of what follows
-/

namespace Rehearsal

/-! ### Whose turn it is in a sequence -/

namespace Live

variable {α β : Type} {peers : Peers}

theorem next?_clock (live : Live α) (clock : Nat) (s : Session) :
    live.next? { s with clock } = live.next? s := by
  induction live with
  | ended | ready | calling | seated => rfl
  | forked manner n children completions wake enough finish ih =>
    simp only [next?, ih]

/-- Time does not change whose turn it is. -/
theorem turn?_clock (live : Live α) (clock : Nat) (s : Session) :
    live.turn? { s with clock } = live.turn? s := by
  simp only [turn?, nextStray?, next?_clock]

/-- What follows a job does not change whose turn it is. -/
theorem turn?_bind (live : Live α) (f : α → Job β) (h : live.value? = none) (s : Session) :
    (live.bind f).turn? s = live.turn? s := by
  have hnext : (live.bind f).next? s = live.next? s := by
    cases live with
    | ended outcome =>
      cases outcome with
      | returned value => cases h
      | crashed message => rfl
    | ready | calling | seated | forked => rfl
  rw [turn?, turn?, hnext]

end Live

namespace Stage

variable {α β : Type} {peers : Peers}

/-- Steps by the clock, in any number. -/
abbrev TicksTo (peers : Peers) : Stage α → Stage α → Prop := Relation.ReflTransGen (Ticks peers)

/-- Where nobody was left behind, it is the turn of the job itself. -/
theorem Ticks.cases_alone {now later : Stage α} (h : Ticks peers now later)
    (hnone : now.2.strays = []) :
    ∃ due path, now.1.next? now.2 = some (due, path) ∧
      later = now.1.advance peers true due path
        { now.2 with clock := max now.2.clock due.time } := by
  obtain ⟨due, place, hturn, rfl⟩ := h
  rcases Live.earlier_eq_some hturn with hown | hstray
  · obtain ⟨⟨due', path⟩, hnext, heq⟩ := Option.map_eq_some_iff.mp hown
    obtain ⟨rfl, rfl⟩ := Prod.mk.inj heq
    exact ⟨due', path, hnext, rfl⟩
  · obtain ⟨i, path, -, x, hx, -⟩ := Live.exists_of_nextStray?_eq_some hstray
    rw [hnone] at hx
    cases hx

theorem TicksTo.leads {now later : Stage α} (h : TicksTo peers now later) :
    Leads peers now later :=
  Relation.ReflTransGen.mono (fun _ _ => Ticks.moves) _ _ h

/-- A stage that is reached by the clock by a job that is followed by another: of the job itself, or
of what follows once the value is there. -/
private def IsTimedPart (peers : Peers) (start : Stage α) (f : α → Job β) (stage : Stage β) :
    Prop :=
  (∃ live s, TicksTo peers start (live, s) ∧ live.value? = none ∧ stage = (live.bind f, s)) ∨
    ∃ value s due, TicksTo peers start (.ready due (.done value), s) ∧
      TicksTo peers (.ready due (f value), s) stage

private theorem isTimedPart_bind {start : Stage α} (f : α → Job β) {live : Live α} {s : Session}
    (h : TicksTo peers start (live, s)) (going : live.outcome? = none) :
    IsTimedPart peers start f (live.bind f, s) := by
  cases hvalue : live.value? with
  | none => exact .inl ⟨live, s, h, hvalue, rfl⟩
  | some value =>
    cases live with
    | ended => cases going
    | calling | seated | forked => cases hvalue
    | ready due job =>
      cases job with
      | done v => exact .inr ⟨v, s, due, h, .refl⟩
      | crash | logThen | waitThen | askThen | lookupThen | fork => cases hvalue

private theorem IsTimedPart.tick {start : Stage α} {f : α → Job β} {stage stage' : Stage β}
    (h : IsTimedPart peers start f stage) (tick : Ticks peers stage stage') :
    IsTimedPart peers start f stage' := by
  rcases h with ⟨live, s, hlead, hvalue, rfl⟩ | ⟨value, s, due, hlead, hnext⟩
  · obtain ⟨due, place, hturn, hmove⟩ := tick
    rw [Live.turn?_bind live f hvalue] at hturn
    rw [Live.go_bind live f hvalue] at hmove
    have hticked : Ticks peers (live, s)
        (live.go peers true due place { s with clock := max s.clock due.time }) :=
      ⟨due, place, hturn, rfl⟩
    rw [hmove]
    generalize live.go peers true due place { s with clock := max s.clock due.time } = next
      at hticked ⊢
    cases hend : next.1.outcome? with
    | none => exact isTimedPart_bind f (hlead.tail hticked) hend
    | some outcome =>
      have heq := Live.eq_ended_of_outcome?_eq_some hend
      refine .inl ⟨next.1, next.2, hlead.tail hticked, ?_, rfl⟩
      cases outcome with
      | crashed message =>
        rw [heq]
        rfl
      | returned value =>
        -- only a value that was there already can be given, and then the next job had begun
        exfalso
        rcases (show Moves peers (live, s) (next.1, next.2) from hticked.moves).turn with
          ⟨hlive, -⟩ | ⟨s₀, s₁, -, turn, -⟩
        · rw [← hlive, heq] at hvalue
          cases hvalue
        · rw [heq] at turn
          obtain ⟨due, rfl⟩ := turn.eq_done
          cases hvalue
  · exact .inr ⟨value, s, due, hlead, hnext.tail tick⟩

/-- A job that waits for its turn does so whatever it is: one that only gives a value could wait in
its place, and then it would give the value at the moment at which the other one begins. -/
theorem TicksTo.after_done {job : Job β} {due : Due} {s s' : Session} {outcome : Outcome β}
    (value : α) (h : TicksTo peers (.ready due job, s) (.ended outcome, s')) :
    ∃ s₁, TicksTo peers (.ready due (.done value), s) (.ended (.returned value), s₁) ∧
      TicksTo peers (.ready due job, s₁) (.ended outcome, s') := by
  generalize hfirst : ((.ready due job, s) : Stage β) = first at h
  induction h using Relation.ReflTransGen.head_induction_on generalizing s with
  | refl => cases hfirst
  | @head a c tick hrest ih =>
    subst hfirst
    obtain ⟨due', place, hturn, rfl⟩ := tick
    have hfree : Live.turn? (.ready due (.done value)) s = some (due', place) := hturn
    cases place with
    | stray i path =>
      obtain ⟨s₁, hdone, hjob⟩ := ih rfl
      exact ⟨s₁, .head ⟨due', .stray i path, hfree, rfl⟩ hdone, hjob⟩
    | own path =>
      -- it is the turn of the job, and it still is when that moment has come
      have hnow : due' = due := by
        rcases Live.earlier_eq_some hturn with hown | hstray
        · exact (congrArg Prod.fst (Option.some.inj hown)).symm
        · obtain ⟨i, path', heq, -⟩ := Live.exists_of_nextStray?_eq_some hstray
          cases heq
      subst hnow
      refine ⟨{ s with clock := max s.clock due'.time }, .single ⟨due', _, hfree, rfl⟩, ?_⟩
      refine .head ⟨due', .own path, (Live.turn?_clock _ _ s).trans hturn, ?_⟩ hrest
      rw [max_eq_left (Nat.le_max_right ..)]

end Stage

/-! ### Runs by the clock -/

namespace Job

variable {α β : Type} {peers : Peers} {s s' : Session}

/-- By the clock, the job ends with the outcome and leaves the session as `s'`. -/
def EndsOnTime (peers : Peers) (job : Job α) (s : Session) (outcome : Outcome α) (s' : Session) :
    Prop :=
  ∃ due, Stage.TicksTo peers (.ready due job, s) (.ended outcome, s')

theorem endsOnTime_of_run {fuel : Nat} {job : Job α} {outcome : Outcome α}
    (h : job.run peers fuel s = some (outcome, s')) : job.EndsOnTime peers s outcome s' :=
  ⟨_, Stage.ticks_of_run h⟩

theorem EndsOnTime.ends {job : Job α} {outcome : Outcome α}
    (h : job.EndsOnTime peers s outcome s') : job.Ends peers s outcome s' := by
  obtain ⟨due, h⟩ := h
  exact ⟨due, h.leads⟩

/-- **By the clock, two jobs in sequence run one after the other**, unless the first breaks down. -/
theorem EndsOnTime.bind {job : Job α} {f : α → Job β} {outcome : Outcome β}
    (h : (job.bind f).EndsOnTime peers s outcome s') :
    (∃ message, outcome = .crashed message ∧ job.EndsOnTime peers s (.crashed message) s') ∨
      ∃ value s₁, job.EndsOnTime peers s (.returned value) s₁ ∧
        (f value).EndsOnTime peers s₁ outcome s' := by
  obtain ⟨due, h⟩ := h
  have hpart : Stage.IsTimedPart peers (.ready due job, s) f (.ended outcome, s') := by
    generalize hlast : ((.ended outcome, s') : Stage β) = last at h ⊢
    clear hlast
    induction h with
    | refl => exact Stage.isTimedPart_bind f .refl rfl
    | tail _ tick ih => exact ih.tick tick
  rcases hpart with ⟨live, s₁, hlead, hvalue, heq⟩ | ⟨value, s₁, due', hlead, hnext⟩
  · rw [Prod.mk.injEq] at heq
    obtain ⟨hlive, rfl⟩ := heq
    cases live with
    | ended o =>
      cases o with
      | returned value => cases hvalue
      | crashed message =>
        refine .inl ⟨message, ?_, due, hlead⟩
        simpa [Live.bind] using hlive
    | ready | calling | seated | forked => cases hlive
  · obtain ⟨s₂, hvalue, hnext⟩ := hnext.after_done value
    exact .inr ⟨value, s₂, ⟨due, hlead.trans hvalue⟩, due', hnext⟩

end Job

/-! ### Choices of runs -/

/-- A choice of runs: all of them, or only some. Of jobs in sequence a run is chosen only if its
parts are. -/
structure Schedule (peers : Peers) where
  /-- A run that is chosen leads from one session to another. -/
  Ends : {α : Type} → Job α → Session → Outcome α → Session → Prop
  /-- It is a run. -/
  ends : ∀ {α : Type} {job : Job α} {s s' : Session} {outcome : Outcome α},
    Ends job s outcome s' → job.Ends peers s outcome s'
  /-- Jobs in sequence run one after the other, unless the first breaks down. -/
  bind : ∀ {α β : Type} {job : Job α} {f : α → Job β} {s s' : Session} {outcome : Outcome β},
    Ends (job.bind f) s outcome s' →
      (∃ message, outcome = .crashed message ∧ Ends job s (.crashed message) s') ∨
        ∃ value s₁, Ends job s (.returned value) s₁ ∧ Ends (f value) s₁ outcome s'

namespace Schedule

variable {α β : Type} {peers : Peers} {s s' : Session}

/-- All runs. -/
def any (peers : Peers) : Schedule peers := ⟨Job.Ends peers, id, Job.Ends.bind⟩

/-- The runs by the clock. -/
def onTime (peers : Peers) : Schedule peers :=
  ⟨Job.EndsOnTime peers, Job.EndsOnTime.ends, Job.EndsOnTime.bind⟩

/-- **A run of a race is a run of its completions and then one of what follows.** -/
theorem race (schedule : Schedule peers) {jobs : List (Job β)}
    {enough : Completions jobs.length β → Bool} {finish : Completions jobs.length β → Job α}
    {outcome : Outcome α} (h : schedule.Ends (.race jobs enough finish) s outcome s') :
    ∃ completions s₁, schedule.Ends (Job.endings jobs enough) s (.returned completions) s₁ ∧
      schedule.Ends (finish completions) s₁ outcome s' := by
  rw [Job.race_eq_bind] at h
  rcases schedule.bind h with ⟨message, -, hlost⟩ | ⟨completions, s₁, hends, hnext⟩
  · obtain ⟨_, heq, -⟩ := (schedule.ends hlost).endings
    cases heq
  · exact ⟨completions, s₁, hends, hnext⟩

end Schedule

end Rehearsal
