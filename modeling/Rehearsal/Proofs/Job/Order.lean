import Rehearsal.Proofs.Job.Turn
import Mathlib.Logic.Relation

/-!
# Runs in any order

The clock is one way to settle whose turn it is. Statements about a scan should not depend on it:
they are made about `Job.Ends`, which lets steps be taken at any places, in any order and at any
times. A run by the clock is one such run.

## Main definitions

* `Stage`: a job under way with the session that it shares
* `Stage.Leads`: steps in any order
* `Job.Ends`: what a job may end with

## Main results

* `Stage.Leads.preserves`: what turns and the passing of time preserve, runs preserve
* `Job.ends_of_run`: a run by the clock is a run
* `Job.Ends.bind`, `Job.Ends.attempt`: a run of jobs in sequence is a run of each of them
-/

namespace Rehearsal

/-- A job under way with the session that it shares. -/
abbrev Stage (α : Type) := Live α × Session

namespace Stage

variable {α : Type} {peers : Peers}

/-- One step, of any place and at any time. -/
def Moves (peers : Peers) (now later : Stage α) : Prop :=
  ∃ outer due place clock, later = now.1.go peers outer due place { now.2 with clock }

/-- Steps in any number and order. -/
abbrev Leads (peers : Peers) : Stage α → Stage α → Prop := Relation.ReflTransGen (Moves peers)

/-- A step is a turn, with time passing before and after it, or the job stays as it is. -/
theorem Moves.turn {live live' : Live α} {s s' : Session}
    (h : Moves peers (live, s) (live', s')) :
    (live' = live ∧ s.Drifts peers s') ∨
      ∃ s₀ s₁, s.Passes s₀ ∧ Live.Turn peers live s₀ live' s₁ ∧ s₁.Passes s' := by
  obtain ⟨outer, due, place, clock, h⟩ := h
  cases place with
  | own path =>
    rw [Live.go] at h
    rcases @Live.advance_turn _ peers live outer due path { s with clock } with hidle | hturn
    · rw [hidle, Prod.mk.injEq] at h
      obtain ⟨rfl, rfl⟩ := h
      exact .inl ⟨rfl, (s.passes_clock clock).drifts⟩
    · rw [← h] at hturn
      obtain ⟨s₁, turn, passes⟩ := hturn
      exact .inr ⟨_, s₁, s.passes_clock clock, turn, passes⟩
  | stray i path =>
    rw [Live.go, Prod.mk.injEq] at h
    obtain ⟨rfl, rfl⟩ := h
    exact .inl ⟨rfl, (s.passes_clock clock).drifts.trans (Live.advanceStray_drifts i due path _)⟩

/-- **What turns, those of strays among them, and the passing of time preserve, runs preserve.** -/
theorem Leads.preserves {P : Live α → Session → Prop}
    (hpass : ∀ live s s', s.Passes s' → P live s → P live s')
    (hdrift : ∀ live s s', Session.Drift peers s s' → P live s → P live s')
    (hturn : ∀ live s live' s', Live.Turn peers live s live' s' → P live s → P live' s')
    {now later : Stage α} (h : Leads peers now later) (hnow : P now.1 now.2) :
    P later.1 later.2 := by
  induction h with
  | refl => exact hnow
  | tail _ move ih =>
    rcases move.turn with ⟨hlive, drifts⟩ | ⟨s₀, s₁, before, turn, after⟩
    · exact hlive ▸ drifts.preserves (hpass _) (hdrift _) ih
    · exact hpass _ _ _ after (hturn _ _ _ _ turn (hpass _ _ _ before ih))

theorem Leads.journal_grows {now later : Stage α} (h : Leads peers now later) :
    now.2.journal <+: later.2.journal :=
  h.preserves (P := fun _ s => now.2.journal <+: s.journal)
    (fun _ _ _ passes hgrows => passes.journal ▸ hgrows)
    (fun _ _ _ drift hgrows => hgrows.trans drift.journal_grows)
    (fun _ _ _ _ turn hgrows => hgrows.trans turn.journal_grows) List.prefix_rfl

end Stage

/-! ### Runs by the clock -/

namespace Live

variable {α : Type} {peers : Peers}

/-- A run by the clock is a run. -/
theorem leads_of_run {fuel : Nat} {live : Live α} {s s' : Session} {outcome : Outcome α}
    (h : live.run peers fuel s = some (outcome, s')) :
    Stage.Leads peers (live, s) (ended outcome, s') := by
  induction fuel generalizing live s with
  | zero => cases h
  | succ fuel ih =>
    rw [run] at h
    split at h
    next o hend =>
      rw [Option.some.injEq, Prod.mk.injEq] at h
      obtain ⟨rfl, rfl⟩ := h
      rw [eq_ended_of_outcome?_eq_some hend]
    next =>
      split at h
      next => cases h
      next due place _ =>
        exact .head ⟨true, due, place, max s.clock due.time, rfl⟩ (ih h)

end Live

namespace Job

variable {α β : Type} {peers : Peers}

/-- In some order of steps, the job ends with the outcome and leaves the session as `s'`. -/
def Ends (peers : Peers) (job : Job α) (s : Session) (outcome : Outcome α) (s' : Session) : Prop :=
  ∃ due, Stage.Leads peers (.ready due job, s) (.ended outcome, s')

theorem ends_of_run {fuel : Nat} {job : Job α} {s s' : Session} {outcome : Outcome α}
    (h : job.run peers fuel s = some (outcome, s')) : job.Ends peers s outcome s' :=
  ⟨_, Live.leads_of_run h⟩

end Job

/-! ### Jobs in sequence -/

namespace Live

variable {α β : Type} {peers : Peers}

/-- A job under way, with what follows its value. Only a job that has not ended goes on as one that
is followed. -/
def bind : Live α → (α → Job β) → Live β
  | ended (.returned value), f => ready .start (f value)
  | ended (.crashed message), _ => ended (.crashed message)
  | ready due job, f => ready due (job.bind f)
  | calling due key seat answer next, f => calling due key seat answer fun o => (next o).bind f
  | seated key seat next, f => seated key seat fun o => (next o).bind f
  | forked manner n children completions wake enough finish, f =>
    forked manner n children completions wake enough fun cs => (finish cs).bind f

/-- The value is there, and what follows may begin. -/
def value? : Live α → Option α
  | ended (.returned value) => some value
  | ready _ (.done value) => some value
  | _ => none

/-- Until the value is there, a job that is followed by others goes on as if it were not. -/
theorem advance_bind (live : Live α) (f : α → Job β) (h : live.value? = none) (outer : Bool)
    (due : Due) (path : List Nat) (s : Session) :
    (live.bind f).advance peers outer due path s =
      ((live.advance peers outer due path s).1.bind f,
        (live.advance peers outer due path s).2) := by
  cases live with
  | ended outcome =>
    cases outcome with
    | returned value => cases h
    | crashed message => rfl
  | ready due' job =>
    cases job with
    | done value => cases h
    | crash | logThen | waitThen | fork => rfl
    | askThen question next =>
      simp only [bind, Job.bind, advance, step]
      cases (peers.answer s.journal question).outcome <;> rfl
    | lookupThen key next =>
      simp only [bind, Job.bind, advance, step, lookUp]
      split
      · rfl
      · split <;> rfl
  | calling due' key seat answer next => cases answer <;> rfl
  | seated key seat next =>
    simp only [bind, advance]
    split
    · rfl
    · split <;> rfl
  | forked manner n children completions wake enough finish =>
    cases path with
    | nil =>
      simp only [bind, advance]
      split <;> rfl
    | cons i path =>
      simp only [bind, advance]
      split
      · split <;> rfl
      · rfl

theorem go_bind (live : Live α) (f : α → Job β) (h : live.value? = none) (outer : Bool)
    (due : Due) (place : Place) (s : Session) :
    (live.bind f).go peers outer due place s =
      ((live.go peers outer due place s).1.bind f, (live.go peers outer due place s).2) := by
  cases place with
  | own path => exact advance_bind live f h outer due path s
  | stray i path => rfl

/-- A job has its value by giving it. -/
theorem Turn.eq_done {live : Live α} {s s' : Session} {value : α}
    (h : Turn peers live s (ended (.returned value)) s') :
    ∃ due, live = ready due (.done value) := by
  cases h
  exact ⟨_, rfl⟩

end Live

namespace Stage

variable {α β : Type} {peers : Peers}

/-- A stage that is reached by a job that is followed by another: of the job itself, or of what
follows. -/
def IsPart (peers : Peers) (start : Stage α) (f : α → Job β) (stage : Stage β) : Prop :=
  (∃ live s, Leads peers start (live, s) ∧ live.value? = none ∧ stage = (live.bind f, s)) ∨
    ∃ value s due, Leads peers start (.ended (.returned value), s) ∧
      Leads peers (.ready due (f value), s) stage

/-- Where a job is, what follows it has not begun or is about to begin. -/
theorem isPart_bind {start : Stage α} (f : α → Job β) {live : Live α} {s : Session}
    (h : Leads peers start (live, s)) (going : live.outcome? = none) :
    IsPart peers start f (live.bind f, s) := by
  cases hvalue : live.value? with
  | none => exact .inl ⟨live, s, h, hvalue, rfl⟩
  | some value =>
    cases live with
    | ended => cases going
    | calling | seated | forked => cases hvalue
    | ready due job =>
      cases job with
      | done v => exact .inr ⟨v, s, due, h.tail ⟨true, due, .own [], s.clock, rfl⟩, .refl⟩
      | crash | logThen | waitThen | askThen | lookupThen | fork => cases hvalue

theorem IsPart.moves {start : Stage α} {f : α → Job β} {stage stage' : Stage β}
    (h : IsPart peers start f stage) (move : Moves peers stage stage') :
    IsPart peers start f stage' := by
  rcases h with ⟨live, s, hlead, hvalue, rfl⟩ | ⟨value, s, due, hlead, hnext⟩
  · obtain ⟨outer, due, place, clock, hmove⟩ := move
    have hmoved : Moves peers (live, s) (live.go peers outer due place { s with clock }) :=
      ⟨outer, due, place, clock, rfl⟩
    rw [Live.go_bind live f hvalue] at hmove
    rw [hmove]
    generalize live.go peers outer due place { s with clock } = next at hmoved ⊢
    cases hend : next.1.outcome? with
    | none => exact isPart_bind f (hlead.tail hmoved) hend
    | some outcome =>
      have heq := Live.eq_ended_of_outcome?_eq_some hend
      cases outcome with
      | crashed message =>
        refine .inl ⟨next.1, next.2, hlead.tail hmoved, ?_, rfl⟩
        rw [heq]
        rfl
      | returned value =>
        -- only a value that was there already can be given, and then the next job had begun
        exfalso
        rcases (show Moves peers (live, s) (next.1, next.2) from hmoved).turn with
          ⟨hlive, -⟩ | ⟨s₀, s₁, -, turn, -⟩
        · rw [← hlive, heq] at hvalue
          cases hvalue
        · rw [heq] at turn
          obtain ⟨due, rfl⟩ := turn.eq_done
          cases hvalue
  · exact .inr ⟨value, s, due, hlead, hnext.tail move⟩

end Stage

namespace Job

variable {α β : Type} {peers : Peers}

/-- **A run of two jobs in sequence is a run of the first and then one of the second**, unless the
first breaks down. -/
theorem Ends.bind {job : Job α} {f : α → Job β} {s s' : Session} {outcome : Outcome β}
    (h : (job.bind f).Ends peers s outcome s') :
    (∃ message, outcome = .crashed message ∧ job.Ends peers s (.crashed message) s') ∨
      ∃ value s₁, job.Ends peers s (.returned value) s₁ ∧ (f value).Ends peers s₁ outcome s' := by
  obtain ⟨due, h⟩ := h
  have hpart : Stage.IsPart peers (.ready due job, s) f (.ended outcome, s') := by
    generalize hlast : ((.ended outcome, s') : Stage β) = last at h ⊢
    clear hlast
    induction h with
    | refl => exact Stage.isPart_bind f .refl rfl
    | tail _ move ih => exact ih.moves move
  rcases hpart with ⟨live, s₁, hlead, hvalue, heq⟩ | ⟨value, s₁, due', hlead, hnext⟩
  · rw [Prod.mk.injEq] at heq
    obtain ⟨hlive, rfl⟩ := heq
    cases live with
    | ended o =>
      cases o with
      | returned value => cases hvalue
      | crashed message =>
        refine .inl ⟨message, ?_, due, hlead⟩
        simpa [Live.bind] using hlive
    | ready | calling | seated | forked => cases hlive
  · exact .inr ⟨value, s₁, ⟨due, hlead⟩, ⟨due', hnext⟩⟩

/-! ### Single steps -/

/-- What has ended stays as it is. -/
theorem eq_of_leads_ended {o o' : Outcome α} {s s' : Session}
    (h : Stage.Leads peers (.ended o, s) (.ended o', s')) : o' = o ∧ s.Drifts peers s' := by
  have hlast := h.preserves (P := fun live s₁ => live = .ended o ∧ s.Drifts peers s₁)
    (fun live s₁ s₂ passes hnow => ⟨hnow.1, hnow.2.tail (.inl passes)⟩)
    (fun live s₁ s₂ drift hnow => ⟨hnow.1, hnow.2.tail (.inr drift)⟩)
    (fun live s₁ live' s₂ turn hnow => by
      rw [hnow.1] at turn
      cases turn)
    ⟨rfl, .refl⟩
  exact ⟨Live.ended.inj hlast.1, hlast.2⟩

/-- What has not ended begins with a turn of its own. -/
theorem turn_of_leads {live : Live α} {s s' : Session} {outcome : Outcome α}
    (h : Stage.Leads peers (live, s) (.ended outcome, s')) (hgoing : live.outcome? = none) :
    ∃ s₀ live' s₁ s₂, s.Drifts peers s₀ ∧ Live.Turn peers live s₀ live' s₁ ∧ s₁.Passes s₂ ∧
      Stage.Leads peers (live', s₂) (.ended outcome, s') := by
  generalize hfirst : ((live, s) : Stage α) = first at h
  induction h using Relation.ReflTransGen.head_induction_on generalizing s with
  | refl =>
    obtain ⟨rfl, rfl⟩ := Prod.mk.inj hfirst
    cases hgoing
  | @head a c move hrest ih =>
    subst hfirst
    rcases move.turn with ⟨hlive, drifts⟩ | ⟨s₀, s₁, before, turn, after⟩
    · obtain ⟨s₀, live', s₁, s₂, before, hturn⟩ := ih (s := c.2) (by rw [← hlive])
      exact ⟨s₀, live', s₁, s₂, drifts.trans before, hturn⟩
    · exact ⟨s₀, c.1, s₁, c.2, before.drifts, turn, after, hrest⟩

/-- A run begins with a turn of the job. -/
theorem Ends.turn {job : Job α} {s s' : Session} {outcome : Outcome α}
    (h : job.Ends peers s outcome s') :
    ∃ due s₀ live s₁ s₂, s.Drifts peers s₀ ∧ Live.Turn peers (.ready due job) s₀ live s₁ ∧
      s₁.Passes s₂ ∧ Stage.Leads peers (live, s₂) (.ended outcome, s') := by
  obtain ⟨due, h⟩ := h
  exact ⟨due, turn_of_leads h rfl⟩

theorem Ends.done {value : α} {s s' : Session} {outcome : Outcome α}
    (h : (Job.done value).Ends peers s outcome s') :
    outcome = .returned value ∧ s.Drifts peers s' := by
  obtain ⟨due, s₀, live, s₁, s₂, before, turn, after, hlead⟩ := h.turn
  cases turn
  obtain ⟨rfl, drifts⟩ := eq_of_leads_ended hlead
  exact ⟨rfl, before.trans (after.drifts.trans drifts)⟩

theorem Ends.logThen {line : LogLine} {next : Job α} {s s' : Session} {outcome : Outcome α}
    (h : (Job.logThen line next).Ends peers s outcome s') :
    ∃ s₀ s₁, s.Drifts peers s₀ ∧ (s₀.note (.logged line)).Passes s₁ ∧
      next.Ends peers s₁ outcome s' := by
  obtain ⟨due, s₀, live, s₁, s₂, before, turn, after, hlead⟩ := h.turn
  cases turn
  exact ⟨s₀, s₂, before, after, _, hlead⟩

/-! ### A job whose crash is caught -/

/-- A stage that is reached by catching the crash of a job: the job goes on as it does by itself, or
it has ended and its outcome is handed over. -/
private def IsAttempt (peers : Peers) (start : Stage α) (stage : Stage (Outcome α)) : Prop :=
  (∃ child completions wake s clock, Stage.Leads peers start (child, s) ∧
      stage = (.forked .together 1 (fun _ => child) completions wake (fun _ => false)
        (fun cs => match cs with
          | c :: _ => .done c.2
          | [] => .crash "nothing was attempted"), { s with clock }) ∧
      (completions = [] ∧ child.outcome? = none ∨
        ∃ o, child = .ended o ∧ completions = [(0, o)])) ∨
    ∃ o s, Stage.Leads peers start (.ended o, s) ∧ s.Drifts peers stage.2 ∧
      ((∃ due, stage.1 = .ready due (.done o)) ∨ stage.1 = .ended (.returned o))

private theorem IsAttempt.moves {start : Stage α} {stage stage' : Stage (Outcome α)}
    (h : IsAttempt peers start stage) (move : Stage.Moves peers stage stage') :
    IsAttempt peers start stage' := by
  rcases h with ⟨child, completions, wake, s, clock', hlead, rfl, hcs⟩ | ⟨o, s, hlead, hpass, hnow⟩
  · obtain ⟨outer, due, place, clock, hmove⟩ := move
    cases place with
    | stray i path =>
      exact .inl ⟨child, completions, wake, _, _,
        hlead.tail ⟨outer, due, .stray i path, clock, rfl⟩, hmove, hcs⟩
    | own path =>
      cases path with
      | nil =>
        rcases hcs with ⟨rfl, hgoing⟩ | ⟨o, rfl, rfl⟩
        · exact .inl ⟨child, [], none, s, clock, hlead, hmove, .inl ⟨rfl, hgoing⟩⟩
        · refine .inr ⟨o, s, hlead, ?_, .inl ⟨due, ?_⟩⟩ <;> rw [hmove]
          · exact (s.passes_clock clock).drifts
          · rfl
      | cons i path =>
        rw [Live.go] at hmove
        by_cases hi : i < 1
        · obtain rfl : i = (0 : Fin 1).val := by simpa using hi
          rcases hcs with ⟨rfl, hgoing⟩ | ⟨o, rfl, rfl⟩
          · obtain ⟨⟨next, s₁⟩, hstep⟩ : ∃ next, child.advance peers (outer && Manner.together =
                .together) due path { s with clock } = next := ⟨_, rfl⟩
            have hlead' : Stage.Leads peers start (next, s₁) :=
              hlead.tail ⟨_, due, .own path, clock, hstep.symm⟩
            have hupdate : Function.update (fun _ : Fin 1 => child) 0 next = fun _ => next := by
              funext j
              rw [Subsingleton.elim j 0, Function.update_self]
            rw [Live.advance_child (i := (0 : Fin 1)) hgoing hstep, hupdate] at hmove
            cases hend : next.outcome? with
            | none =>
              rw [hend] at hmove
              exact .inl ⟨next, [], wake, s₁, s₁.clock, hlead', hmove, .inl ⟨rfl, hend⟩⟩
            | some o =>
              rw [hend] at hmove
              exact .inl ⟨next, _, _, s₁, s₁.clock, hlead', hmove,
                .inr ⟨o, Live.eq_ended_of_outcome?_eq_some hend, rfl⟩⟩
          · rw [Live.advance_child_ended (i := (0 : Fin 1)) rfl] at hmove
            exact .inl ⟨.ended o, _, wake, s, clock, hlead, hmove, .inr ⟨o, rfl, rfl⟩⟩
        · rw [Live.advance_beside hi] at hmove
          exact .inl ⟨child, completions, wake, s, clock, hlead, hmove, hcs⟩
  · rcases (show Stage.Moves peers (stage.1, stage.2) (stage'.1, stage'.2) from move).turn with
      ⟨hlive, drifts⟩ | ⟨s₀, s₁, before, turn, after⟩
    · exact .inr ⟨o, s, hlead, hpass.trans drifts, hlive ▸ hnow⟩
    · rcases hnow with ⟨due', hready⟩ | hended
      · rw [hready] at turn
        generalize hlive : stage'.1 = live' at turn
        cases turn
        exact .inr ⟨o, s, hlead, hpass.trans (before.drifts.trans after.drifts), .inr hlive⟩
      · rw [hended] at turn
        cases turn

/-- **A run of a job whose crash is caught is a run of the job**, and its outcome is the value. -/
theorem Ends.attempt {job : Job α} {s s' : Session} {outcome : Outcome (Outcome α)}
    (h : (Job.attempt job).Ends peers s outcome s') :
    ∃ o s₀ s₁, s.Drifts peers s₀ ∧ job.Ends peers s₀ o s₁ ∧ s₁.Drifts peers s' ∧
      outcome = .returned o := by
  obtain ⟨due, s₀, live, s₁, s₂, before, turn, after, hlead⟩ := h.turn
  cases turn with
  | @fork _ _ _ _ _ _ _ _ _ dues wake _ =>
    have hlast : IsAttempt peers (.ready (dues 0) job, s₂) (.ended outcome, s') := by
      generalize hlast : ((.ended outcome, s') : Stage (Outcome α)) = last at hlead ⊢
      clear hlast
      induction hlead with
      | refl =>
        refine .inl ⟨.ready (dues 0) job, [], wake, s₂, s₂.clock, .refl, ?_, .inl ⟨rfl, rfl⟩⟩
        have hdues : (fun i => Live.ready (dues i) job) = fun _ => .ready (dues 0) job := by
          funext i
          rw [Subsingleton.elim i 0]
        exact hdues ▸ rfl
      | tail _ move ih => exact ih.moves move
    rcases hlast with ⟨child, _, _, _, _, _, heq, _⟩ | ⟨o, s₃, hends, hpass, hnow⟩
    · cases heq
    · refine ⟨o, s₂, s₃, before.trans after.drifts, ⟨_, hends⟩, hpass, ?_⟩
      rcases hnow with ⟨due', hready⟩ | hended
      · cases hready
      · exact Live.ended.inj hended

end Job

end Rehearsal
