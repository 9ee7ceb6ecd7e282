import Rehearsal.Proofs.Job.Clock

/-!
# The run of a fork

A fork runs its children, each once from its beginning, until their completions are enough for it or
all of them are through. Then it goes on with what follows, and the children that have not ended are
given up: of those nothing is left but loose children of forks below them.

## Main definitions

* `Live.leftBehind`: what is left of a job that is given up

## Main results

* `Live.strays_abandonAll`: what is left of children that are given up
* `Job.Ends.fork`: a run of a fork is a run of its children and then one of what follows
-/

namespace Rehearsal

namespace Live

variable {α β : Type} {peers : Peers}

/-- What is left of a job that is given up. -/
def leftBehind : {α : Type} → Live α → List Stray
  | _, forked .loose n children .. => (List.finRange n).map fun i => ⟨children i⟩
  | _, forked _ n children .. => (List.finRange n).flatMap fun i => (children i).leftBehind
  | _, _ => []

theorem leftBehind_forked {manner : Manner} {n : Nat} {children : Fin n → Live β}
    {completions : Completions n β} {wake : Option Due} {enough : Completions n β → Bool}
    {finish : Completions n β → Job α} :
    (forked manner n children completions wake enough finish).leftBehind =
      if manner = .loose then (List.finRange n).map fun i => ⟨children i⟩
      else (List.finRange n).flatMap fun i => (children i).leftBehind := by
  cases manner <;> rfl

theorem strays_abandonAll_of {n : Nat} {children : Fin n → Live β}
    (h : ∀ i s, ((children i).abandon s).strays = s.strays ++ (children i).leftBehind)
    (s : Session) :
    (abandonAll children s).strays =
      s.strays ++ (List.finRange n).flatMap fun i => (children i).leftBehind := by
  unfold abandonAll
  generalize List.finRange n = is
  induction is generalizing s with
  | nil => exact (List.append_nil _).symm
  | cons i is ih => rw [List.foldl_cons, ih, h, List.flatMap_cons, List.append_assoc]

theorem strays_abandon (live : Live α) (s : Session) :
    (live.abandon s).strays = s.strays ++ live.leftBehind := by
  induction live generalizing s with
  | ended | ready => exact (List.append_nil _).symm
  | calling | seated =>
    exact (Session.strays_leave ..).trans (List.append_nil _).symm
  | forked manner n children _ _ _ _ ih =>
    rw [abandon_forked, leftBehind_forked]
    split
    · rfl
    · exact strays_abandonAll_of ih s

/-- **Of children that are given up nothing is left but loose children below them.** -/
theorem strays_abandonAll {n : Nat} (children : Fin n → Live β) (s : Session) :
    (abandonAll children s).strays =
      s.strays ++ (List.finRange n).flatMap fun i => (children i).leftBehind :=
  strays_abandonAll_of (fun i => strays_abandon (children i)) s

end Live

/-! ### Runs of forks -/

section Fork

variable {α β : Type} {peers : Peers} {manner : Manner} {n : Nat} {child : Fin n → Job β}
  {enough : Completions n β → Bool} {finish : Completions n β → Job α}

/-- The children of a fork have come from what they were at its beginning. -/
def Live.Came (peers : Peers) (child : Fin n → Job β) (children : Fin n → Live β) : Prop :=
  ∀ i, ∃ due, Relation.ReflTransGen (Live.Turns peers) (.ready due (child i)) (children i)

theorem Live.Came.update {children : Fin n → Live β} {i : Fin n} {next : Live β} {s s' : Session}
    (h : Live.Came peers child children) (turn : Live.Turn peers (children i) s next s') :
    Live.Came peers child (Function.update children i next) := by
  intro j
  rw [Function.update_apply]
  split
  next hj =>
    subst hj
    obtain ⟨due, hcame⟩ := h j
    exact ⟨due, hcame.tail ⟨s, s', turn⟩⟩
  next => exact h j

/-- A stage that is reached by a fork while its children run, or after it has gone on. -/
private def IsForked (peers : Peers) (start : Stage α) (child : Fin n → Job β) (manner : Manner)
    (enough : Completions n β → Bool) (finish : Completions n β → Job α) (stage : Stage α) : Prop :=
  (∃ children completions wake,
      stage.1 = .forked manner n children completions wake enough finish ∧
      Stage.Leads peers start stage ∧ Live.Came peers child children ∧
      Live.Tally children completions wake) ∨
    ∃ children completions wake s before after due,
      Stage.Leads peers start (.forked manner n children completions wake enough finish, s) ∧
      Live.Came peers child children ∧ Live.Tally children completions wake ∧
      (completions.length = n ∨ enough completions = true) ∧
      s.Passes before ∧ (Live.abandonAll children before).Passes after ∧
      Stage.Leads peers (.ready due (finish completions), after) stage

private theorem IsForked.moves {start stage stage' : Stage α}
    (h : IsForked peers start child manner enough finish stage)
    (move : Stage.Moves peers stage stage') :
    IsForked peers start child manner enough finish stage' := by
  rcases h with ⟨children, completions, wake, hlive, hlead, hcame, htally⟩ |
    ⟨children, completions, wake, s, before, after, due, hlead, hcame, htally, hthrough, hpass,
      hgiven, hnext⟩
  · rcases (show Stage.Moves peers (stage.1, stage.2) (stage'.1, stage'.2) from move).turn with
      ⟨hsame, -⟩ | ⟨s₀, s₁, before, turn, after⟩
    · exact .inl ⟨children, completions, wake, hsame.trans hlive, hlead.tail move, hcame, htally⟩
    · rw [hlive] at turn
      generalize hnext : stage'.1 = next at turn
      cases turn with
      | @finish _ _ due _ _ _ _ _ _ _ _ through =>
        refine .inr ⟨children, completions, wake, stage.2, s₀, stage'.2, due, ?_, hcame, htally,
          through, before, after, ?_⟩
        · rw [← hlive]
          exact hlead
        · rw [← hnext]
      | sleep short =>
        exact .inl ⟨children, completions, none, hnext, hlead.tail move, hcame, htally.nodup,
          htally.mem, fun _ => short⟩
      | part i turn going =>
        exact .inl ⟨_, completions, wake, hnext, hlead.tail move, hcame.update turn,
          htally.part turn.outcome?_eq_none going⟩
      | partEnds i turn awake =>
        exact .inl ⟨_, _, _, hnext, hlead.tail move, hcame.update turn,
          htally.partEnds turn.outcome?_eq_none awake⟩
  · exact .inr ⟨children, completions, wake, s, before, after, due, hlead, hcame, htally, hthrough,
      hpass, hgiven, hnext.tail move⟩

/-- **A run of a fork is a run of its children and then one of what follows.** The children come
from their beginnings, the completions are theirs, and when they are enough the children that have
not ended are given up. -/
theorem Job.Ends.fork {s s' : Session} {outcome : Outcome α}
    (h : (Job.fork manner n child enough finish).Ends peers s outcome s') :
    ∃ (dues : Fin n → Due) (wake₀ : Option Due) (begun : Session) (children : Fin n → Live β)
        (completions : Completions n β) (wake : Option Due) (reached before after : Session),
      s.Drifts peers begun ∧
      Stage.Leads peers
        (.forked manner n (fun i => .ready (dues i) (child i)) [] wake₀ enough finish, begun)
        (.forked manner n children completions wake enough finish, reached) ∧
      Live.Came peers child children ∧ Live.Tally children completions wake ∧
      (completions.length = n ∨ enough completions = true) ∧
      reached.Passes before ∧ (Live.abandonAll children before).Passes after ∧
      (finish completions).Ends peers after outcome s' := by
  obtain ⟨due, s₀, live, s₁, begun, hbefore, turn, hafter, hlead⟩ := h.turn
  have htally := (turn.sound trivial : live.Sound)
  cases turn with
  | @fork _ _ _ _ _ _ _ _ _ dues wake₀ awake =>
    have hlast : IsForked peers
        (.forked manner n (fun i => .ready (dues i) (child i)) [] wake₀ enough finish, begun) child
        manner enough finish (.ended outcome, s') := by
      generalize hlast : ((.ended outcome, s') : Stage α) = last at hlead ⊢
      clear hlast
      induction hlead with
      | refl => exact .inl ⟨_, _, _, rfl, .refl, fun i => ⟨dues i, .refl⟩, htally.2⟩
      | tail _ move ih => exact ih.moves move
    rcases hlast with ⟨_, _, _, heq, -⟩ | ⟨children, completions, wake, reached, before, after,
      due', hreached, hcame, htally, hthrough, hpass, hgiven, hnext⟩
    · cases heq
    · exact ⟨dues, wake₀, begun, children, completions, wake, reached, before, after,
        hbefore.trans hafter.drifts, hreached, hcame, htally, hthrough, hpass, hgiven, due', hnext⟩

end Fork

end Rehearsal
