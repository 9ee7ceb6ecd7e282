import Rehearsal.Proofs.Job.Seats

/-!
# Places

A job under way is a tree, and what runs in it has a place: the path from the root on which steps
find it. A step of one place leaves every other place as it is, unless a fork above it goes on
without its children; then the place is gone, and what was there is given up or goes on as a stray.
Strays have places of their own, which steps of the job never touch.

## Main definitions

* `Live.At`, `Stage.At`: what is at a place of a job, what is at a place of the job or of a stray
* `Live.Awaits`, `Live.Calls`: a lookup that is not through, a call of the resolver

## Main results

* `Live.At.step`, `Stage.At.step`: what a step does at a place
* `Live.At.step_self`, `Stage.At.step_self`: what the step of a place does there
* `Stage.At.holdings_add_le`: two places do not share what they hold
-/

namespace Rehearsal

namespace Session

variable {s s' s'' : Session}

/-- The cache and the journal are the same. -/
structure Alike (s s' : Session) : Prop where
  /-- The cache is the same. -/
  cache : s'.cache = s.cache
  /-- The journal is the same. -/
  journal : s'.journal = s.journal

theorem Passes.alike (h : s.Passes s') : s.Alike s' := ⟨h.cache, h.journal⟩

theorem Alike.entry (h : s.Alike s') (key : LookupKey) : s'.entry key = s.entry key := by
  unfold Session.entry
  rw [h.cache]

/-! ### Parts of what is held -/

theorem part_le_sum {n : Nat} (held : Fin n → Multiset Holding) (i : Fin n) :
    held i ≤ ∑ j, held j :=
  Finset.single_le_sum (fun _ _ => Multiset.zero_le _) (Finset.mem_univ i)

theorem parts_le_sum {n : Nat} (held : Fin n → Multiset Holding) {i j : Fin n} (hne : j ≠ i) :
    held i + held j ≤ ∑ k, held k := by
  rw [← Finset.add_sum_erase _ _ (Finset.mem_univ i)]
  exact add_le_add_right (Finset.single_le_sum (fun _ _ => Multiset.zero_le _)
    (Finset.mem_erase.mpr ⟨hne, Finset.mem_univ j⟩)) _

theorem held_eq_sum (s : Session) :
    s.held = ∑ i, (s.strays.get i).live.holdings :=
  (Fin.sum_univ_fun_getElem s.strays fun x => x.live.holdings).symm

theorem stray_le_held {i : Nat} {stray : Stray} (at_ : s.strays[i]? = some stray) :
    stray.live.holdings ≤ s.held := by
  obtain ⟨hi, rfl⟩ := List.getElem?_eq_some_iff.mp at_
  rw [held_eq_sum]
  exact part_le_sum (fun i => (s.strays.get i).live.holdings) ⟨i, hi⟩

theorem strays_le_held {i j : Nat} {stray stray' : Stray} (at_ : s.strays[i]? = some stray)
    (at' : s.strays[j]? = some stray') (hne : j ≠ i) :
    stray.live.holdings + stray'.live.holdings ≤ s.held := by
  obtain ⟨hi, rfl⟩ := List.getElem?_eq_some_iff.mp at_
  obtain ⟨hj, rfl⟩ := List.getElem?_eq_some_iff.mp at'
  rw [held_eq_sum]
  exact parts_le_sum (fun i => (s.strays.get i).live.holdings)
    (i := ⟨i, hi⟩) (j := ⟨j, hj⟩) fun heq => hne (congrArg Fin.val heq)

end Session

namespace Live

variable {α β γ : Type} {peers : Peers} {s s' : Session} {p q : List Nat} {key : LookupKey}

/-- What is at the end of a path. -/
inductive At : {α β : Type} → Live α → List Nat → Live β → Prop where
  | here {α : Type} {live : Live α} : At live [] live
  | child {α β γ : Type} {manner : Manner} {n : Nat} {children : Fin n → Live β}
      {completions : Completions n β} {wake : Option Due} {enough : Completions n β → Bool}
      {finish : Completions n β → Job α} {path : List Nat} {place : Live γ} (i : Fin n)
      (h : At (children i) path place) :
    At (forked manner n children completions wake enough finish) (i.val :: path) place

/-- Nothing is at the end of a path. -/
def Gone (live : Live α) (p : List Nat) : Prop := ∀ (β : Type) (place : Live β), ¬live.At p place

/-- A call of the resolver for a key is under way. -/
inductive Calls (key : LookupKey) : {α : Type} → Live α → Prop where
  | intro {α : Type} {due : Due} {seat : Seat} {answer : Outcome LookupOutcome}
      {next : LookupOutcome → Job α} : Calls key (calling due key seat answer next)

/-- A lookup of a key has not got its outcome yet; `next` is what follows. -/
inductive Awaits (key : LookupKey) (next : LookupOutcome → Job α) : Live α → Prop where
  /-- It is about to be made. -/
  | asks {due : Due} : Awaits key next (ready due (.lookupThen key next))
  /-- It has called the resolver. -/
  | calls {due : Due} {seat : Seat} {answer : Outcome LookupOutcome} :
    Awaits key next (calling due key seat answer next)
  /-- It waits for somebody else's call. -/
  | waits {seat : Seat} : Awaits key next (seated key seat next)

/-! ### What places hold -/

theorem At.outcome?_eq_none {live : Live α} {place : Live β} (h : live.At p place)
    (hgoing : place.outcome? = none) : live.outcome? = none := by
  cases h with
  | here => exact hgoing
  | child => rfl

section Fork

variable {manner : Manner} {n : Nat} {children : Fin n → Live β} {completions : Completions n β}
  {wake : Option Due} {enough : Completions n β → Bool} {finish : Completions n β → Job α}

theorem holdings_child_le (i : Fin n) :
    (children i).holdings ≤ (forked manner n children completions wake enough finish).holdings :=
  Session.part_le_sum (fun j => (children j).holdings) i

theorem holdings_children_le {i j : Fin n} (hne : j ≠ i) :
    (children i).holdings + (children j).holdings ≤
      (forked manner n children completions wake enough finish).holdings :=
  Session.parts_le_sum (fun j => (children j).holdings) hne

end Fork

theorem At.holdings_le {live : Live α} {place : Live β} (h : live.At p place) :
    place.holdings ≤ live.holdings := by
  induction h with
  | here => exact le_rfl
  | child i _ ih => exact ih.trans (holdings_child_le i)

/-- Two calls at different places hold different seats. -/
theorem At.holdings_add_le {key' : LookupKey} {live : Live α} {x : Live β} {y : Live γ}
    (hx : live.At p x) (hy : live.At q y) (hcallx : x.Calls key) (hcally : y.Calls key')
    (hne : p ≠ q) : x.holdings + y.holdings ≤ live.holdings := by
  induction hx generalizing q with
  | here =>
    cases hcallx
    cases hy
    exact absurd rfl hne
  | child i hx ih =>
    cases hy with
    | here => cases hcally
    | child j hy =>
      by_cases hij : j = i
      · subst hij
        exact (ih hy hcallx fun heq => hne (heq ▸ rfl)).trans (holdings_child_le j)
      · exact (add_le_add hx.holdings_le hy.holdings_le).trans (holdings_children_le hij)

/-- Who holds a seat is at some place. -/
theorem exists_at_of_mem_holdings {live : Live α} {x : Holding} (h : x ∈ live.holdings) :
    ∃ (p : List Nat) (β : Type) (place : Live β) (next : LookupOutcome → Job β), live.At p place ∧
      ((∃ due answer, place = calling due x.key x.seat answer next) ∨
        place = seated x.key x.seat next) := by
  induction live with
  | ended | ready => exact absurd h (Multiset.notMem_zero x)
  | calling due key seat answer next =>
    obtain rfl := Multiset.mem_singleton.mp h
    exact ⟨[], _, _, next, .here, .inl ⟨due, answer, rfl⟩⟩
  | seated key seat next =>
    obtain rfl := Multiset.mem_singleton.mp h
    exact ⟨[], _, _, next, .here, .inr rfl⟩
  | forked manner n children completions wake enough finish ih =>
    obtain ⟨i, -, hx⟩ := Multiset.mem_sum.mp h
    obtain ⟨p, β, place, next, hat, hplace⟩ := ih i hx
    exact ⟨i.val :: p, β, place, next, .child i hat, hplace⟩

/-! ### Steps and places -/

section Fork

variable {manner : Manner} {n : Nat} {children : Fin n → Live β} {completions : Completions n β}
  {wake : Option Due} {enough : Completions n β → Bool} {finish : Completions n β → Job α}

/-- When a child goes on, its parent is a fork with that child in its place. -/
theorem exists_advance_child (peers : Peers) (completions : Completions n β) (wake : Option Due)
    (enough : Completions n β → Bool) (finish : Completions n β → Job α) (outer : Bool) (due : Due)
    (path : List Nat) (s : Session) {i : Fin n} (going : (children i).outcome? = none) :
    let next := (children i).advance peers (outer && manner = .together) due path s
    ∃ completions' wake' s', next.2.Passes s' ∧
      (forked manner n children completions wake enough finish).advance peers outer due
          (i.val :: path) s =
        (forked manner n (Function.update children i next.1) completions' wake' enough finish,
          s') := by
  intro next
  rw [advance_child going (show _ = (next.1, next.2) from rfl)]
  cases next.1.outcome? with
  | none => exact ⟨_, _, _, .refl next.2, rfl⟩
  | some outcome => exact ⟨_, _, _, passes_wakeAfter outer manner due next.2, rfl⟩

/-- A step of one child leaves the others as they are. -/
theorem at_advance_of_ne {outer : Bool} {due : Due} {i : Fin n} {j : Nat} {path : List Nat}
    {place : Live γ} (h : (children i).At p place) (hne : j ≠ i.val) :
    ((forked manner n children completions wake enough finish).advance peers outer due
      (j :: path) s).1.At (i.val :: p) place := by
  by_cases hj : j < n
  · cases hgoing : (children ⟨j, hj⟩).outcome? with
    | some outcome =>
      rw [advance_child_ended (i := ⟨j, hj⟩) (eq_ended_of_outcome?_eq_some hgoing)]
      exact .child i h
    | none =>
      obtain ⟨completions', wake', s'', -, hstep⟩ :=
        exists_advance_child peers completions wake enough finish outer due path s hgoing
      rw [hstep]
      refine .child i ?_
      rwa [Function.update_of_ne fun heq => hne (congrArg Fin.val heq).symm]
  · rw [advance_beside hj]
    exact .child i h

end Fork

/-- What the step of a place does there, and to the session. -/
theorem At.step_self (peers : Peers) (s : Session) {live : Live α} {place : Live β} {due : Due}
    (h : live.At p place)
    (hgoing : place.outcome? = none)
    (hpath : ∀ outer q, place.advance peers outer due q s = place.advance peers true due [] s)
    (outer : Bool) (rest : List Nat) :
    (live.advance peers outer due (p ++ rest) s).1.At p (place.advance peers true due [] s).1 ∧
      (place.advance peers true due [] s).2.Passes
        (live.advance peers outer due (p ++ rest) s).2 := by
  induction h generalizing outer with
  | here =>
    rw [List.nil_append, hpath]
    exact ⟨.here, .refl _⟩
  | @child _ _ _ manner n children completions wake enough finish path place i h ih =>
    obtain ⟨hat, hpass⟩ := ih hgoing hpath (outer && manner = .together)
    obtain ⟨completions', wake', s'', hpass', hstep⟩ :=
      exists_advance_child peers completions wake enough finish outer due (path ++ rest) s
        (h.outcome?_eq_none hgoing)
    rw [List.cons_append, hstep]
    refine ⟨.child i ?_, hpass.trans hpass'⟩
    rwa [Function.update_self]

theorem gone_cons {manner : Manner} {n : Nat} {children : Fin n → Live β}
    {completions : Completions n β} {wake : Option Due} {enough : Completions n β → Bool}
    {finish : Completions n β → Job α} {i : Fin n} (h : (children i).Gone p) :
    (forked manner n children completions wake enough finish).Gone (i.val :: p) := by
  intro γ place hat
  generalize hpath : i.val :: p = path at hat
  cases hat with
  | here => cases hpath
  | child j hat =>
    rw [List.cons.injEq] at hpath
    obtain ⟨hij, rfl⟩ := hpath
    obtain rfl := Fin.val_injective hij
    exact h γ place hat

/-- **What a step does at a place**: it takes the place away, or leaves it as it is, or is the step
of the place itself. -/
theorem At.step (peers : Peers) (s : Session) {live : Live α} {place : Live β} {due : Due}
    (h : live.At p place)
    (hgoing : place.outcome? = none)
    (hpath : ∀ outer q, place.advance peers outer due q s = place.advance peers true due [] s)
    (outer : Bool) (path : List Nat) :
    (live.advance peers outer due path s).1.Gone p ∨
      (live.advance peers outer due path s).1.At p place ∨
      (live.advance peers outer due path s).1.At p (place.advance peers true due [] s).1 ∧
        (place.advance peers true due [] s).2.Passes (live.advance peers outer due path s).2 := by
  induction h generalizing outer path with
  | here =>
    rw [hpath]
    exact .inr (.inr ⟨.here, .refl _⟩)
  | @child _ _ _ manner n children completions wake enough finish p place i h ih =>
    cases path with
    | nil =>
      unfold advance
      simp only
      split
      · refine .inl fun γ place hat => ?_
        cases hat
      · exact .inr (.inl (.child i h))
    | cons j path =>
      by_cases hj : j = i.val
      · subst hj
        obtain ⟨completions', wake', s'', hpass', hstep⟩ :=
          exists_advance_child peers completions wake enough finish outer due path s
            (h.outcome?_eq_none hgoing)
        rw [hstep]
        rcases ih hgoing hpath (outer && manner = .together) path with hgone | hsame | ⟨hat, hpass⟩
        · refine .inl (gone_cons ?_)
          rwa [Function.update_self]
        · refine .inr (.inl (.child i ?_))
          rwa [Function.update_self]
        · refine .inr (.inr ⟨.child i ?_, hpass.trans hpass'⟩)
          rwa [Function.update_self]
      · exact .inr (.inl (at_advance_of_ne h hj))

/-! ### Steps and strays -/

/-- A step of the job leaves strays where they are. -/
theorem advance_strays_grow (peers : Peers) (live : Live α) (outer : Bool) (due : Due)
    (path : List Nat) (s : Session) :
    s.strays <+: (live.advance peers outer due path s).2.strays := by
  rcases @advance_turn _ peers live outer due path s with hidle | ⟨s₁, turn, passes⟩
  · rw [hidle]
  · rw [passes.strays]
    exact turn.strays_grow

theorem getElem?_strays_advance {live : Live α} {outer : Bool} {due : Due} {path : List Nat}
    {i : Nat} {stray : Stray} (at_ : s.strays[i]? = some stray) :
    (live.advance peers outer due path s).2.strays[i]? = some stray := by
  obtain ⟨strays, heq⟩ := advance_strays_grow peers live outer due path s
  rw [← heq, List.getElem?_append_left (List.getElem?_eq_some_iff.mp at_).1, at_]

/-- The step of a stray changes that stray. -/
theorem advanceStray_self (peers : Peers) (due : Due) (path : List Nat) {i : Nat} {stray : Stray}
    (at_ : s.strays[i]? = some stray) :
    let next := stray.live.advance peers false due path { s with strays := s.strays.set i .gone }
    next.2.Alike (advanceStray peers i due path s) ∧
      (advanceStray peers i due path s).strays[i]? = some ⟨next.1⟩ := by
  intro next
  have hlt : i < next.2.strays.length := by
    have hlength := (advance_strays_grow peers stray.live false due path
      { s with strays := s.strays.set i .gone }).length_le
    rw [List.length_set] at hlength
    exact (List.getElem?_eq_some_iff.mp at_).1.trans_le hlength
  simp only [advanceStray, at_]
  exact ⟨⟨rfl, rfl⟩, List.getElem?_set_self hlt⟩

/-- The step of a stray leaves the others as they are. -/
theorem advanceStray_of_ne {due : Due} {path : List Nat} {i j : Nat} {stray : Stray}
    (at_ : s.strays[i]? = some stray) (hne : j ≠ i) :
    (advanceStray peers j due path s).strays[i]? = some stray := by
  unfold advanceStray
  split
  next => exact at_
  next =>
    simp only
    rw [List.getElem?_set_ne hne]
    refine getElem?_strays_advance ?_
    rw [List.getElem?_set_ne hne, at_]

end Live

/-! ### Places of the job and of strays -/

namespace Stage

variable {α β γ : Type} {live : Live α} {s : Session} {p q : Live.Place} {x : Live β}
  {key : LookupKey}

/-- What is at a place, of the job or of a stray. -/
inductive At (stage : Stage α) : {β : Type} → Live.Place → Live β → Prop where
  | own {β : Type} {path : List Nat} {x : Live β} (h : stage.1.At path x) :
    At stage (.own path) x
  | stray {β : Type} {i : Nat} {path : List Nat} {stray : Stray} {x : Live β}
      (at_ : stage.2.strays[i]? = some stray) (h : stray.live.At path x) :
    At stage (.stray i path) x

/-- Nothing is at a place. -/
def Gone (stage : Stage α) (p : Live.Place) : Prop := ∀ (β : Type) (x : Live β), ¬stage.At p x

theorem gone_own {stage : Stage α} {path : List Nat} (h : stage.1.Gone path) :
    stage.Gone (.own path) := by
  intro β x hat
  cases hat with
  | own hat => exact h β x hat

theorem gone_stray {stage : Stage α} {i : Nat} {path : List Nat} {stray : Stray}
    (at_ : stage.2.strays[i]? = some stray) (h : stray.live.Gone path) :
    stage.Gone (.stray i path) := by
  intro β x hat
  cases hat with
  | stray at' hat =>
    obtain rfl := Option.some.inj (at_.symm.trans at')
    exact h β x hat

/-- What the step of a place does there, and to the session. -/
theorem At.step_self (peers : Peers) {due : Due} (h : At (live, s) p x)
    (hgoing : x.outcome? = none)
    (hpath : ∀ s outer q, x.advance peers outer due q s = x.advance peers true due [] s)
    (outer : Bool) :
    ∃ s₁, s.Alike s₁ ∧ At (live.go peers outer due p s) p (x.advance peers true due [] s₁).1 ∧
      (x.advance peers true due [] s₁).2.Alike (live.go peers outer due p s).2 := by
  cases h with
  | @own path _ hat =>
    obtain ⟨hat, hpass⟩ := hat.step_self peers s hgoing (hpath s) outer []
    rw [List.append_nil] at hat hpass
    exact ⟨s, ⟨rfl, rfl⟩, .own hat, hpass.alike⟩
  | @stray i path stray _ at_ hat =>
    obtain ⟨hat, hpass⟩ := hat.step_self peers { s with strays := s.strays.set i .gone } hgoing
      (hpath _) false []
    rw [List.append_nil] at hat hpass
    obtain ⟨halike, hnow⟩ := Live.advanceStray_self peers due path at_
    exact ⟨{ s with strays := s.strays.set i .gone }, ⟨rfl, rfl⟩, .stray hnow hat,
      halike.cache.trans hpass.cache, halike.journal.trans hpass.journal⟩

/-- **What a step does at a place**: it takes the place away, or leaves it as it is, or is the step
of the place itself. -/
theorem At.step (peers : Peers) {due : Due} (h : At (live, s) p x) (hgoing : x.outcome? = none)
    (hpath : ∀ s outer q, x.advance peers outer due q s = x.advance peers true due [] s)
    (outer : Bool) (q : Live.Place) :
    Gone (live.go peers outer due q s) p ∨ At (live.go peers outer due q s) p x ∨
      ∃ s₁, s.Alike s₁ ∧ At (live.go peers outer due q s) p (x.advance peers true due [] s₁).1 ∧
        (x.advance peers true due [] s₁).2.Alike (live.go peers outer due q s).2 := by
  cases h with
  | own hat =>
    cases q with
    | stray j path => exact .inr (.inl (.own hat))
    | own path =>
      rcases hat.step peers s hgoing (hpath s) outer path with hgone | hsame | ⟨hat, hpass⟩
      · exact .inl (gone_own hgone)
      · exact .inr (.inl (.own hsame))
      · exact .inr (.inr ⟨s, ⟨rfl, rfl⟩, .own hat, hpass.alike⟩)
  | @stray i _ stray _ at_ hat =>
    cases q with
    | own path => exact .inr (.inl (.stray (Live.getElem?_strays_advance at_) hat))
    | stray j path =>
      by_cases hj : j = i
      · subst hj
        obtain ⟨halike, hnow⟩ :=
          Live.advanceStray_self peers due path at_
        rcases hat.step peers { s with strays := s.strays.set j .gone } hgoing (hpath _) false path
          with hgone | hsame | ⟨hat, hpass⟩
        · exact .inl (gone_stray hnow hgone)
        · exact .inr (.inl (.stray hnow hsame))
        · exact .inr (.inr ⟨{ s with strays := s.strays.set j .gone }, ⟨rfl, rfl⟩,
            .stray hnow hat, halike.cache.trans hpass.cache,
            halike.journal.trans hpass.journal⟩)
      · exact .inr (.inl (.stray (Live.advanceStray_of_ne at_ hj) hat))

theorem At.holdings_le (h : At (live, s) p x) : x.holdings ≤ live.holdings + s.held := by
  cases h with
  | own hat => exact hat.holdings_le.trans (Multiset.le_add_right _ _)
  | stray at_ hat =>
    exact hat.holdings_le.trans ((Session.stray_le_held at_).trans (Multiset.le_add_left _ _))

/-- Two calls at different places hold different seats. -/
theorem At.holdings_add_le {key' : LookupKey} {y : Live γ} (hx : At (live, s) p x)
    (hy : At (live, s) q y) (hcallx : x.Calls key) (hcally : y.Calls key') (hne : p ≠ q) :
    x.holdings + y.holdings ≤ live.holdings + s.held := by
  cases hx with
  | own hx =>
    cases hy with
    | own hy =>
      exact (hx.holdings_add_le hy hcallx hcally fun heq => hne (heq ▸ rfl)).trans
        (Multiset.le_add_right _ _)
    | stray at' hy =>
      exact add_le_add hx.holdings_le (hy.holdings_le.trans (Session.stray_le_held at'))
  | @stray i _ _ _ at_ hx =>
    cases hy with
    | own hy =>
      rw [add_comm]
      exact add_le_add hy.holdings_le (hx.holdings_le.trans (Session.stray_le_held at_))
    | @stray j _ _ _ at' hy =>
      refine le_trans ?_ (Multiset.le_add_left _ _)
      by_cases hij : j = i
      · subst hij
        obtain rfl := Option.some.inj (at_.symm.trans at')
        exact (hx.holdings_add_le hy hcallx hcally fun heq => hne (heq ▸ rfl)).trans
          (Session.stray_le_held at_)
      · exact (add_le_add hx.holdings_le hy.holdings_le).trans
          (Session.strays_le_held at_ at' hij)

/-- Who holds a seat is at some place. -/
theorem exists_at_of_mem_holdings {h : Holding} (hmem : h ∈ live.holdings + s.held) :
    ∃ (p : Live.Place) (β : Type) (x : Live β) (next : LookupOutcome → Job β), At (live, s) p x ∧
      ((∃ due answer, x = .calling due h.key h.seat answer next) ∨
        x = .seated h.key h.seat next) := by
  rcases Multiset.mem_add.mp hmem with hmem | hmem
  · obtain ⟨path, β, x, next, hat, hx⟩ := Live.exists_at_of_mem_holdings hmem
    exact ⟨.own path, β, x, next, .own hat, hx⟩
  · obtain ⟨stray, hstray, hmem⟩ := Session.mem_held.mp hmem
    obtain ⟨i, hi, rfl⟩ := List.mem_iff_getElem.mp hstray
    obtain ⟨path, β, x, next, hat, hx⟩ := Live.exists_at_of_mem_holdings hmem
    exact ⟨.stray i path, β, x, next, .stray (List.getElem?_eq_getElem hi) hat, hx⟩

end Stage

end Rehearsal
