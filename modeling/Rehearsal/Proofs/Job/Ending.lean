import Rehearsal.Proofs.Job.Seats
import Mathlib.Logic.Hydra

/-!
# Every run ends

A job is a well-founded tree, and a turn goes down in it. What runs side by side is a hydra, one
head for each child of a fork; a turn of a child replaces its head by a lesser one, and the hydra
loses. A job with its strays is a hydra as well: what a turn leaves behind was below the job, so its
heads are lesser too. That no place is left waiting for ever rests on the seats: somebody sits at
the head of each queue, and whoever sits there can call the resolver.

## Main definitions

* `Live.Descends`: a job under way comes from another by a turn or as a child
* `Live.Sound`: what a fork knows of its children is so
* `Stage.heads`: a job under way with its strays, as a hydra

## Main results

* `Live.acc_descends`: no run goes on for ever
* `Live.turn?_ne_none`: what has not ended can go on
* `Job.exists_run`: a run by the clock ends
-/

namespace Rehearsal

namespace Live

variable {α β : Type} {peers : Peers}

/-- A job under way comes from another. -/
inductive Descends (peers : Peers) : Stray → Stray → Prop where
  /-- By a turn. -/
  | turn {α : Type} {now later : Live α} {s s' : Session} (h : Turn peers now s later s') :
    Descends peers ⟨later⟩ ⟨now⟩
  /-- As a child. -/
  | child {x root : Stray} (h : Child x root) : Descends peers x root

/-! ### Turns go down -/

/-- No run goes on for ever from a job under way. -/
abbrev IsMortal (peers : Peers) (live : Live α) : Prop := Acc (Descends peers) ⟨live⟩

/-- Jobs under way from which no run goes on for ever. -/
abbrev Mortal (peers : Peers) (β : Type) := { live : Live β // live.IsMortal peers }

/-- One mortal job comes from another. -/
def Mortal.Descends (later now : Mortal peers β) : Prop :=
  Live.Descends peers ⟨later.1⟩ ⟨now.1⟩

theorem Mortal.wellFounded_descends :
    WellFounded (Mortal.Descends : Mortal peers β → Mortal peers β → Prop) :=
  ⟨fun live => InvImage.accessible (fun live : Mortal peers β => (⟨live.1⟩ : Stray)) live.2⟩

/-- The children of a fork as a hydra, with one head for each child. -/
def heads {n : Nat} (children : Fin n → Mortal peers β) : Multiset (Mortal peers β) :=
  ∑ i, {children i}

/-- When a child goes on, its head is replaced by a lesser one. -/
theorem cutExpand_heads {n : Nat} (children : Fin n → Mortal peers β) (i : Fin n)
    (child : Mortal peers β) (h : Mortal.Descends child (children i)) :
    Relation.CutExpand Mortal.Descends (heads (Function.update children i child))
      (heads children) := by
  rw [heads, heads, sum_update_child (fun live => ({live} : Multiset _)),
    ← Finset.add_sum_erase _ _ (Finset.mem_univ i)]
  exact Relation.cutExpand_single_add h _

theorem coe_update_mortal {n : Nat} (children : Fin n → Mortal peers β) (i : Fin n)
    (child : Mortal peers β) :
    (fun j => (Function.update children i child j).1) =
      Function.update (fun j => (children j).1) i child.1 := by
  funext j
  rw [Function.update_apply, Function.update_apply]
  split <;> rfl

/-- What is no fork is mortal if whatever comes from it by a turn is. -/
theorem isMortal_of_turn {live : Live α}
    (hchild : ∀ x, ¬Child x ⟨live⟩)
    (h : ∀ later s s', Turn peers live s later s' → later.IsMortal peers) :
    live.IsMortal peers := by
  refine Acc.intro _ fun x hdescends => ?_
  cases hdescends with
  | turn turn => exact h _ _ _ turn
  | child hx => exact absurd hx (hchild x)

section Fork

variable {manner : Manner} {n : Nat} {enough : Completions n β → Bool}
  {finish : Completions n β → Job α}

/-- No run of a fork goes on for ever if none of its children does, nor what follows. -/
theorem isMortal_forked
    (hfinish : ∀ due completions, IsMortal peers (ready due (finish completions)))
    (children : Fin n → Mortal peers β) (completions : Completions n β) (wake : Option Due) :
    IsMortal peers
      (forked manner n (fun i => (children i).1) completions wake enough finish) := by
  generalize hhydra : heads children = hydra
  induction hydra using Mortal.wellFounded_descends.cutExpand.induction
    generalizing children completions wake with
  | _ hydra ih =>
    subst hhydra
    -- a child goes on: the hydra is lesser, whatever the parent makes of it
    have hpart (i : Fin n) (child : Live β) (s s' : Session)
        (turn : Turn peers (children i).1 s child s') (completions : Completions n β)
        (wake : Option Due) :
        IsMortal peers (forked manner n
          (Function.update (fun j => (children j).1) i child) completions wake enough finish) := by
      have hdescends : Descends peers ⟨child⟩ ⟨(children i).1⟩ := .turn turn
      have hcut := cutExpand_heads children i ⟨child, (children i).2.inv hdescends⟩ hdescends
      have hmortal := ih _ hcut _ completions wake rfl
      rwa [coe_update_mortal] at hmortal
    -- between the turns of children the parent can go to sleep once
    have hasleep (completions : Completions n β) : IsMortal peers
        (forked manner n (fun i => (children i).1) completions none enough finish) := by
      refine Acc.intro _ fun x hdescends => ?_
      cases hdescends with
      | child hchild =>
        cases hchild with
        | intro i => exact (children i).2
      | turn turn =>
        cases turn with
        | finish => exact hfinish _ _
        | part i turn => exact hpart i _ _ _ turn _ _
        | partEnds i turn => exact hpart i _ _ _ turn _ _
    refine Acc.intro _ fun x hdescends => ?_
    cases hdescends with
    | child hchild =>
      cases hchild with
      | intro i => exact (children i).2
    | turn turn =>
      cases turn with
      | finish => exact hfinish _ _
      | sleep => exact hasleep _
      | part i turn => exact hpart i _ _ _ turn _ _
      | partEnds i turn => exact hpart i _ _ _ turn _ _

end Fork

theorem isMortal_ended (outcome : Outcome α) : IsMortal peers (ended outcome) :=
  isMortal_of_turn (fun _ h => by cases h) fun _ _ _ turn => by cases turn

section Lookup

variable {key : LookupKey} {seat : Seat} {next : LookupOutcome → Job α}

theorem isMortal_calling
    (hnext : ∀ due outcome, IsMortal peers (ready due (next outcome)))
    (due : Due) (answer : Outcome LookupOutcome) :
    IsMortal peers (calling due key seat answer next) := by
  refine isMortal_of_turn (fun _ h => by cases h) fun later s s' turn => ?_
  cases turn with
  | settle => exact hnext _ _
  | lose => exact isMortal_ended _

theorem isMortal_seated
    (hnext : ∀ due outcome, IsMortal peers (ready due (next outcome))) :
    IsMortal peers (seated key seat next) := by
  refine isMortal_of_turn (fun _ h => by cases h) fun later s s' turn => ?_
  cases turn with
  | serve => exact hnext _ _
  | takeOver => exact isMortal_calling hnext _ _

end Lookup

theorem isMortal_ready (due : Due) (job : Job α) : IsMortal peers (ready due job) := by
  induction job generalizing due with
  | done | crash =>
    refine isMortal_of_turn (fun _ h => by cases h) fun later s s' turn => ?_
    cases turn
    exact isMortal_ended _
  | logThen line next ih =>
    refine isMortal_of_turn (fun _ h => by cases h) fun later s s' turn => ?_
    cases turn
    exact ih _
  | waitThen milliseconds next ih =>
    refine isMortal_of_turn (fun _ h => by cases h) fun later s s' turn => ?_
    cases turn
    exact ih _ _
  | askThen question next ih =>
    refine isMortal_of_turn (fun _ h => by cases h) fun later s s' turn => ?_
    cases turn
    cases (peers.answer s.journal question).outcome with
    | returned value => exact ih value _
    | crashed message =>
      refine isMortal_of_turn (fun _ h => by cases h) fun later s s' turn => ?_
      cases turn
      exact isMortal_ended _
  | lookupThen key next ih =>
    refine isMortal_of_turn (fun _ h => by cases h) fun later s s' turn => ?_
    cases turn with
    | hit => exact ih _ _
    | call => exact isMortal_calling (fun due outcome => ih outcome due) _ _
    | join => exact isMortal_seated fun due outcome => ih outcome due
  | fork manner n child enough finish ihchild ihfinish =>
    refine isMortal_of_turn (fun _ h => by cases h) fun later s s' turn => ?_
    cases turn with
    | @fork _ _ _ _ _ _ _ _ _ dues wake _ =>
      exact isMortal_forked (fun due completions => ihfinish completions due)
        (fun i => ⟨ready (dues i) (child i), ihchild i (dues i)⟩) [] wake

/-- **No run goes on for ever.** -/
theorem acc_descends (peers : Peers) (live : Live α) : IsMortal peers live := by
  induction live with
  | ended outcome => exact isMortal_ended outcome
  | ready due job => exact isMortal_ready due job
  | calling due key seat answer next =>
    exact isMortal_calling (fun _ _ => isMortal_ready _ _) due answer
  | seated key seat next => exact isMortal_seated fun _ _ => isMortal_ready _ _
  | forked manner n children completions wake enough finish ih =>
    exact isMortal_forked (fun _ _ => isMortal_ready _ _) (fun i => ⟨children i, ih i⟩) completions
      wake

theorem wellFounded_descends (peers : Peers) : WellFounded (Descends peers) :=
  ⟨fun x => acc_descends peers x.live⟩

/-! ### What a fork knows of its children -/

/-- The completions of a fork are those of its children, and it looks at them when all are there. -/
structure Tally {n : Nat} (children : Fin n → Live β) (completions : Completions n β)
    (wake : Option Due) : Prop where
  /-- No child ends twice. -/
  nodup : (completions.map Prod.fst).Nodup
  /-- The completions tell what has ended, and with what. -/
  mem : ∀ i outcome, (i, outcome) ∈ completions ↔ children i = ended outcome
  /-- Once all children have ended, the fork looks at them. -/
  awake : wake = none → completions.length ≠ n

/-- What every fork knows of its children is so. -/
def Sound : {α : Type} → Live α → Prop
  | _, forked _ _ children completions wake _ _ =>
    (∀ i, (children i).Sound) ∧ Tally children completions wake
  | _, _ => True

section Tally

variable {n : Nat} {children : Fin n → Live β} {completions : Completions n β}
  {wake wake' : Option Due}

theorem Tally.length_le (h : Tally children completions wake) : completions.length ≤ n := by
  have hlength := h.nodup.length_le_card
  rwa [List.length_map, Fintype.card_fin] at hlength

/-- As long as the completions are short, some child has not ended. -/
theorem Tally.exists_going (h : Tally children completions wake) (hshort : completions.length < n) :
    ∃ i, (children i).outcome? = none := by
  by_contra hall
  push Not at hall
  have hmem (i : Fin n) : i ∈ completions.map Prod.fst := by
    obtain ⟨outcome, hend⟩ := Option.ne_none_iff_exists'.mp (hall i)
    exact List.mem_map.mpr
      ⟨(i, outcome), (h.mem i outcome).mpr (eq_ended_of_outcome?_eq_some hend), rfl⟩
  have hcard := (List.nodup_finRange n).subperm fun i _ => hmem i
  have hlength := hcard.length_le
  rw [List.length_finRange, List.length_map] at hlength
  omega

theorem Tally.part (h : Tally children completions wake) {i : Fin n} {child : Live β}
    (hwas : (children i).outcome? = none) (hgoing : child.outcome? = none) :
    Tally (Function.update children i child) completions wake := by
  refine ⟨h.nodup, fun j outcome => ?_, h.awake⟩
  rw [h.mem, Function.update_apply]
  split
  next hj =>
    subst hj
    constructor <;> intro heq
    · rw [heq] at hwas
      cases hwas
    · rw [heq] at hgoing
      cases hgoing
  next => rfl

theorem Tally.partEnds (h : Tally children completions wake) {i : Fin n} {outcome : Outcome β}
    (hwas : (children i).outcome? = none) (hawake : wake'.isSome) :
    Tally (Function.update children i (ended outcome)) (completions ++ [(i, outcome)]) wake' := by
  have hnew (o : Outcome β) : (i, o) ∉ completions := by
    intro hmem
    rw [(h.mem i o).mp hmem] at hwas
    cases hwas
  refine ⟨?_, fun j o => ?_, ?_⟩
  · rw [List.map_append, List.map_cons, List.map_nil, List.nodup_append]
    refine ⟨h.nodup, List.nodup_singleton i, ?_⟩
    rintro j hj k hk rfl
    obtain ⟨⟨j', o⟩, hmem, rfl⟩ := List.mem_map.mp hj
    obtain rfl : j' = i := List.mem_singleton.mp hk
    exact hnew o hmem
  · rw [List.mem_append, List.mem_singleton, Prod.mk.injEq, Function.update_apply]
    by_cases hj : j = i
    · subst hj
      simp only [hnew, false_or, true_and, if_true, ended.injEq]
      exact eq_comm
    · rw [if_neg hj, h.mem]
      simp only [hj, false_and, or_false]
  · rintro rfl
    cases hawake

end Tally

theorem Turn.sound {live live' : Live α} {s s' : Session} (h : Turn peers live s live' s')
    (hsound : live.Sound) : live'.Sound := by
  induction h with
  | done | crash | log | wait | ask | hit | call | join => exact trivial
  | settle | lose | serve | takeOver | finish => exact trivial
  | @fork _ _ _ _ n _ _ _ _ dues wake awake =>
    refine ⟨fun _ => trivial, List.nodup_nil, fun i outcome => ?_, ?_⟩
    · constructor <;> intro h <;> cases h
    · rintro rfl hn
      cases awake hn.symm
  | sleep short => exact ⟨hsound.1, hsound.2.nodup, hsound.2.mem, fun _ => short⟩
  | part i turn going ih =>
    refine ⟨fun j => ?_, hsound.2.part turn.outcome?_eq_none going⟩
    rw [Function.update_apply]
    split
    · exact ih (hsound.1 i)
    · exact hsound.1 j
  | partEnds i turn awake ih =>
    refine ⟨fun j => ?_, hsound.2.partEnds turn.outcome?_eq_none awake⟩
    rw [Function.update_apply]
    split
    · exact trivial
    · exact hsound.1 j

/-! ### Something can always go on -/

theorem earlier_eq_none {κ : Type} {a b : Option (Due × κ)} :
    earlier a b = none ↔ a = none ∧ b = none := by
  cases a <;> cases b <;> simp [earlier]
  split <;> simp

theorem earlier_eq_some {κ : Type} {a b : Option (Due × κ)} {t : Due × κ}
    (h : earlier a b = some t) : a = some t ∨ b = some t := by
  cases a with
  | none => exact .inr h
  | some a =>
    cases b with
    | none => exact .inl h
    | some b =>
      rw [earlier] at h
      split at h
      · exact .inr h
      · exact .inl h

theorem foldl_earlier_eq_none {ι κ : Type} {turn : ι → Option (Due × κ)} {is : List ι}
    {best : Option (Due × κ)} :
    is.foldl (fun best i => earlier best (turn i)) best = none ↔
      best = none ∧ ∀ i ∈ is, turn i = none := by
  induction is generalizing best with
  | nil => simp
  | cons i is ih => rw [List.foldl_cons, ih, List.forall_mem_cons, earlier_eq_none, and_assoc]

theorem eq_some_of_foldl_earlier {ι κ : Type} {turn : ι → Option (Due × κ)} {is : List ι}
    {best : Option (Due × κ)} {t : Due × κ}
    (h : is.foldl (fun best i => earlier best (turn i)) best = some t) :
    best = some t ∨ ∃ i ∈ is, turn i = some t := by
  induction is generalizing best with
  | nil => exact .inl h
  | cons i is ih =>
    rcases ih h with hbest | ⟨j, hj, hturn⟩
    · exact (earlier_eq_some hbest).imp_right fun hi => ⟨i, List.mem_cons_self, hi⟩
    · exact .inr ⟨j, List.mem_cons_of_mem i hj, hturn⟩

theorem nextStray?_eq_none {s : Session} (h : nextStray? s = none) :
    ∀ x ∈ s.strays, x.live.next? s = none := by
  intro x hx
  obtain ⟨i, hi, rfl⟩ := List.mem_iff_getElem.mp hx
  rw [nextStray?, foldl_earlier_eq_none] at h
  exact Option.map_eq_none_iff.mp (h.2 ⟨i, hi⟩ (List.mem_finRange _))

theorem exists_of_nextStray?_eq_some {s : Session} {due : Due} {place : Place}
    (h : nextStray? s = some (due, place)) :
    ∃ i path, place = .stray i path ∧ ∃ x, s.strays[i]? = some x ∧
      x.live.next? s = some (due, path) := by
  rcases eq_some_of_foldl_earlier h with hnone | ⟨i, -, hi⟩
  · cases hnone
  · obtain ⟨⟨due', path⟩, hnext, heq⟩ := Option.map_eq_some_iff.mp hi
    rw [Prod.mk.injEq] at heq
    obtain ⟨rfl, rfl⟩ := heq
    exact ⟨i, path, rfl, s.strays[i], List.getElem?_eq_getElem i.isLt, hnext⟩

/-- Where nothing can go on, nobody has called the resolver and all wait for their seats' turn. -/
theorem turn?_eq_none_of_next?_eq_none {live : Live α} {s : Session} (h : live.next? s = none) :
    ∀ x ∈ live.holdings, x.calls = false ∧ s.turn? x.key x.seat = none := by
  induction live with
  | ended => exact fun x hx => absurd hx (Multiset.notMem_zero x)
  | ready | calling => cases h
  | seated key seat next =>
    intro x hx
    rw [holdings, Multiset.mem_singleton] at hx
    subst hx
    rw [next?, Option.map_eq_none_iff] at h
    exact ⟨rfl, h⟩
  | forked manner n children completions wake enough finish ih =>
    intro x hx
    rw [holdings, Multiset.mem_sum] at hx
    obtain ⟨i, -, hx⟩ := hx
    rw [next?, foldl_earlier_eq_none] at h
    exact ih i (Option.map_eq_none_iff.mp (h.2 i (List.mem_finRange i))) x hx

/-- Where nothing can go on although not all has ended, somebody waits. -/
theorem exists_mem_holdings {live : Live α} {s : Session} (hsound : live.Sound)
    (h : live.next? s = none) (hgoing : live.outcome? = none) : ∃ x, x ∈ live.holdings := by
  induction live with
  | ended => cases hgoing
  | ready | calling => cases h
  | seated => exact ⟨_, Multiset.mem_singleton_self _⟩
  | forked manner n children completions wake enough finish ih =>
    rw [next?, foldl_earlier_eq_none, Option.map_eq_none_iff] at h
    have hshort : completions.length < n :=
      lt_of_le_of_ne hsound.2.length_le (hsound.2.awake h.1)
    obtain ⟨i, hi⟩ := hsound.2.exists_going hshort
    obtain ⟨x, hx⟩ := ih i (hsound.1 i)
      (Option.map_eq_none_iff.mp (h.2 i (List.mem_finRange i))) hi
    exact ⟨x, Multiset.mem_sum.mpr ⟨i, Finset.mem_univ i, hx⟩⟩

/-- **What has not ended can go on**: if somebody waits, the head of their queue can call, be it a
stray. -/
theorem turn?_ne_none {live : Live α} {s : Session} {past : Nat} (hsound : live.Sound)
    (hs : s.Orderly live.holdings past) (hgoing : live.outcome? = none) : live.turn? s ≠ none := by
  intro h
  obtain ⟨hown, hstrays⟩ := earlier_eq_none.mp h
  rw [Option.map_eq_none_iff] at hown
  have hstuck : ∀ x ∈ live.holdings + s.held, x.calls = false ∧ s.turn? x.key x.seat = none := by
    intro x hx
    rcases Multiset.mem_add.mp hx with hx | hx
    · exact turn?_eq_none_of_next?_eq_none hown x hx
    · obtain ⟨stray, hstray, hx⟩ := Session.mem_held.mp hx
      exact turn?_eq_none_of_next?_eq_none (nextStray?_eq_none hstrays stray hstray) x hx
  obtain ⟨⟨key, seat, calls⟩, hx⟩ := exists_mem_holdings hsound hown hgoing
  replace hx := Multiset.mem_add.mpr (.inl (b := _ ∈ s.held) hx)
  have hunknown : (s.entry key).cell.outcome = none := by
    have hturn := (hstuck _ hx).2
    simp only [Session.turn?, ite_eq_right_iff] at hturn
    cases houtcome : (s.entry key).cell.outcome with
    | none => rfl
    | some outcome => simp [houtcome] at hturn
  have hmem := (hs.mem_queue key hunknown seat).mpr ⟨calls, hx⟩
  obtain ⟨first, hfirst⟩ : ∃ first, (s.entry key).cell.queue.head? = some first := by
    cases hqueue : (s.entry key).cell.queue with
    | nil =>
      rw [hqueue] at hmem
      cases hmem
    | cons first rest => exact ⟨first, rfl⟩
  obtain ⟨calls', hx'⟩ :=
    (hs.mem_queue key hunknown first).mp (List.mem_of_mem_head? hfirst)
  have hcaller : (s.entry key).cell.caller? = some first := by
    rw [LookupCell.caller?, hunknown, hfirst]
  have hturn := (hstuck _ hx').2
  simp [Session.turn?, hcaller] at hturn

/-- The place whose turn it is goes on. -/
theorem turnsInto_of_next? (peers : Peers) {live : Live α} {s : Session} (s' : Session)
    {due : Due} {path : List Nat} (hsound : live.Sound) (h : live.next? s = some (due, path))
    (hcache : s'.cache = s.cache) (outer : Bool) :
    TurnsInto peers live s' (live.advance peers outer due path s') := by
  induction live generalizing outer path with
  | ended => cases h
  | ready due' job => exact step_turn due' job s'
  | calling due' key seat answer next =>
    cases answer with
    | returned outcome => exact ⟨_, .settle, .refl _⟩
    | crashed message => exact ⟨_, .lose, .refl _⟩
  | seated key seat next =>
    rw [next?, Option.map_eq_some_iff] at h
    obtain ⟨due', hturn, -⟩ := h
    have hentry : s'.entry key = s.entry key := by
      unfold Session.entry
      rw [hcache]
    unfold advance
    split
    next outcome known => exact ⟨s', .serve known, .refl s'⟩
    next unknown =>
      split
      next head => exact ⟨_, .takeOver head, Session.passes_later ..⟩
      next hother =>
        rw [hentry] at unknown hother
        simp [Session.turn?, unknown, hother] at hturn
  | forked manner n children completions wake enough finish ih =>
    rw [next?] at h
    rcases eq_some_of_foldl_earlier h with hwake | ⟨i, -, hchild⟩
    · rw [Option.map_eq_some_iff] at hwake
      obtain ⟨wakeDue, rfl, heq⟩ := hwake
      rw [Prod.mk.injEq] at heq
      obtain ⟨rfl, rfl⟩ := heq
      unfold advance
      simp only
      split
      next through => exact ⟨_, .finish (by simpa using through), .refl _⟩
      next short => exact ⟨s', .sleep (by simp_all), .refl s'⟩
    · rw [Option.map_eq_some_iff] at hchild
      obtain ⟨⟨due', path'⟩, hnext, heq⟩ := hchild
      rw [Prod.mk.injEq] at heq
      obtain ⟨rfl, rfl⟩ := heq
      obtain ⟨⟨child, s₂⟩, hstep⟩ : ∃ stage, (children i).advance peers
          (outer && manner = .together) due' path' s' = stage := ⟨_, rfl⟩
      have hturn := ih i (hsound.1 i) hnext (outer && manner = .together)
      rw [hstep] at hturn
      obtain ⟨s₁, turn, passes⟩ := hturn
      rw [advance_child turn.outcome?_eq_none hstep]
      cases hend : child.outcome? with
      | none => exact ⟨s₁, .part _ turn hend, passes⟩
      | some outcome =>
        rw [eq_ended_of_outcome?_eq_some hend] at turn ⊢
        refine ⟨s₁, .partEnds _ turn ?_, passes.trans (passes_wakeAfter outer manner due' s₂)⟩
        cases wake <;> rfl

/-- The place whose turn it is goes on, of the job or of a stray. -/
theorem go_of_turn? (peers : Peers) {live : Live α} {s : Session} (s' : Session) {due : Due}
    {place : Place} (hsound : live.Sound) (hstrays : ∀ x ∈ s.strays, x.live.Sound)
    (h : live.turn? s = some (due, place)) (hcache : s'.cache = s.cache)
    (hsame : s'.strays = s.strays) (outer : Bool) :
    TurnsInto peers live s' (live.go peers outer due place s') ∨
      (live.go peers outer due place s').1 = live ∧
        ∃ s₁, Session.Drift peers s' s₁ ∧ s₁.Passes (live.go peers outer due place s').2 := by
  rcases earlier_eq_some h with hown | hstray
  · obtain ⟨⟨due', path⟩, hnext, heq⟩ := Option.map_eq_some_iff.mp hown
    rw [Prod.mk.injEq] at heq
    obtain ⟨rfl, rfl⟩ := heq
    exact .inl (turnsInto_of_next? peers s' hsound hnext hcache outer)
  · obtain ⟨i, path, rfl, stray, hi, hnext⟩ := exists_of_nextStray?_eq_some hstray
    refine .inr ⟨rfl, ?_⟩
    rw [← hsame] at hi
    obtain ⟨s₁, turn, passes⟩ := turnsInto_of_next? peers
      { s' with strays := s'.strays.set i .gone }
      (hstrays stray (hsame ▸ List.mem_of_getElem? hi)) hnext hcache false
    simp only [go, advanceStray, hi]
    refine ⟨_, .intro i hi turn, passes.cache, passes.journal, ?_, passes.ticket⟩
    simp only [passes.strays]

end Live

/-! ### Runs by the clock end -/

namespace Stage

variable {α : Type} {peers : Peers} {live live' : Live α} {s s' : Session}

/-- A job under way and its strays, as a hydra. -/
def heads (live : Live α) (s : Session) : Multiset Stray := ⟨live⟩ ::ₘ ↑s.strays

/-- Some head of a hydra is replaced by lesser ones. -/
abbrev Loses (peers : Peers) : Multiset Stray → Multiset Stray → Prop :=
  Relation.CutExpand (Relation.TransGen (Live.Descends peers))

theorem wellFounded_loses (peers : Peers) : WellFounded (Loses peers) :=
  (Live.wellFounded_descends peers).transGen.cutExpand

theorem descends_of_below {x root : Stray} (h : Live.Below x root) :
    Relation.TransGen (Live.Descends peers) x root :=
  h.lift id fun _ _ => .child

theorem heads_congr {live : Live α} (h : s'.strays = s.strays) : heads live s' = heads live s := by
  rw [heads, h, heads]

theorem loses_of_turn (h : Live.Turn peers live s live' s') :
    Loses peers (heads live' s') (heads live s) := by
  obtain ⟨strays, heq, hbelow⟩ := h.leavesBehind
  refine ⟨⟨live'⟩ ::ₘ ↑strays, ⟨live⟩, fun x hx => ?_, ?_⟩
  · rcases Multiset.mem_cons.mp hx with rfl | hx
    · exact .single (.turn h)
    · exact descends_of_below (hbelow x (Multiset.mem_coe.mp hx))
  · simp only [heads, heq, ← Multiset.coe_add, ← Multiset.singleton_add]
    abel

theorem loses_of_drift (live : Live α) (h : Session.Drift peers s s') :
    Loses peers (heads live s') (heads live s) := by
  obtain ⟨front, back, strays, stray, later, s₁, hsplit, turn, -, hbelow, rfl⟩ := h.split
  refine ⟨⟨later⟩ ::ₘ ↑strays, stray, fun x hx => ?_, ?_⟩
  · rcases Multiset.mem_cons.mp hx with rfl | hx
    · exact .single (.turn turn)
    · exact descends_of_below (hbelow x (Multiset.mem_coe.mp hx))
  · simp only [heads, hsplit, ← Multiset.coe_add, ← Multiset.cons_coe, ← Multiset.singleton_add]
    abel

end Stage

namespace Live

variable {α : Type} {peers : Peers}

theorem child_sound {x root : Stray} (h : Child x root) (hroot : root.live.Sound) :
    x.live.Sound := by
  cases h with
  | intro i => exact hroot.1 i

theorem exists_run (peers : Peers) {live : Live α} {s : Session} {past : Nat} (hsound : live.Sound)
    (hstrays : ∀ x ∈ s.strays, x.live.Sound) (hs : s.Orderly live.holdings past) :
    ∃ fuel outcome s', live.run peers fuel s = some (outcome, s') := by
  generalize hhydra : Stage.heads live s = hydra
  induction hydra using (Stage.wellFounded_loses peers).induction generalizing live s with
  | _ hydra ih =>
    subst hhydra
    cases hgoing : live.outcome? with
    | some outcome => exact ⟨1, outcome, s, by rw [run, hgoing]⟩
    | none =>
      obtain ⟨⟨due, place⟩, hturn⟩ :=
        Option.ne_none_iff_exists'.mp (turn?_ne_none hsound hs hgoing)
      have hs' := hs.passes (s.passes_clock (max s.clock due.time))
      obtain ⟨fuel, outcome, s', hrun⟩ : ∃ fuel outcome s', (live.go peers true due place
          { s with clock := max s.clock due.time }).1.run peers fuel
          (live.go peers true due place { s with clock := max s.clock due.time }).2 =
            some (outcome, s') := by
        rcases go_of_turn? peers { s with clock := max s.clock due.time } hsound hstrays hturn rfl
          rfl true with ⟨s₁, turn, passes⟩ | ⟨hlive, s₁, drift, passes⟩
        · have hloses := Stage.loses_of_turn turn
          rw [← Stage.heads_congr passes.strays] at hloses
          refine ih _ hloses (turn.sound hsound) ?_ ((turn.orderly_self hs').passes passes) rfl
          rw [passes.strays]
          exact turn.strays (P := fun x => x.live.Sound) (fun _ _ => child_sound) hsound hstrays
        · have hloses := Stage.loses_of_drift live drift
          rw [← Stage.heads_congr passes.strays] at hloses
          rw [hlive]
          refine ih _ hloses hsound ?_ ((hs'.drift drift).passes passes) rfl
          rw [passes.strays]
          exact drift.strays (P := fun x => x.live.Sound) (fun _ _ => child_sound)
            (fun turn => turn.sound) trivial hstrays
      refine ⟨fuel + 1, outcome, s', ?_⟩
      rw [run, hgoing, hturn]
      exact hrun

end Live

/-- **Whatever a job has come to, it goes on from there to an end.** -/
theorem Stage.Leads.exists_end {α : Type} {peers : Peers} {job : Job α} {due : Due} {s : Session}
    {stage : Stage α} (h : Stage.Leads peers (.ready due job, s) stage) (hcache : s.cache = [])
    (hstrays : s.strays = []) :
    ∃ outcome s', job.Ends peers s outcome s' ∧ stage.2.journal <+: s'.journal := by
  have hsound : stage.1.Sound ∧ ∀ x ∈ stage.2.strays, x.live.Sound := by
    refine h.preserves (P := fun live s => live.Sound ∧ ∀ x ∈ s.strays, x.live.Sound)
      (fun _ _ _ passes h => by rwa [passes.strays]) (fun _ _ _ drift h => ⟨h.1, ?_⟩)
      (fun _ _ _ _ turn h => ⟨turn.sound h.1, ?_⟩) ⟨trivial, ?_⟩
    · exact drift.strays (P := fun x => x.live.Sound) (fun _ _ => Live.child_sound)
        (fun turn => turn.sound) trivial h.2
    · exact turn.strays (P := fun x => x.live.Sound) (fun _ _ => Live.child_sound) h.1 h.2
    · rw [hstrays]
      exact fun x hx => absurd hx List.not_mem_nil
  obtain ⟨fuel, outcome, s', hrun⟩ := Live.exists_run peers hsound.1 hsound.2
    (h.orderly_of_cache_eq_nil hcache hstrays)
  have hrest := Live.leads_of_run hrun
  exact ⟨outcome, s', ⟨due, h.trans hrest⟩, hrest.journal_grows⟩

/-- **A run by the clock ends.** -/
theorem Job.exists_run {α : Type} (peers : Peers) (job : Job α) {s : Session} (h : s.cache = [])
    (hstrays : s.strays = []) :
    ∃ fuel outcome s', job.run peers fuel s = some (outcome, s') :=
  Live.exists_run peers trivial (fun x hx => by rw [hstrays] at hx; cases hx)
    (Session.orderly_of_cache_eq_nil h hstrays)

end Rehearsal
