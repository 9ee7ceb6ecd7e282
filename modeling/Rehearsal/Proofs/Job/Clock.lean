import Rehearsal.Proofs.Job.Ending

/-!
# Runs by the clock

By the clock it is always the turn of the place that is due before all others, and of the first one
in the order of the children where several are due alike. Children of a fork get tickets in their
order, so they begin in that order, whatever else runs beside them.

## Main definitions

* `Stage.Ticks`: one step of the place whose turn it is
* `Live.Turns`: a job under way becomes another by one turn
* `Live.BegunInOrder`: the first children of a fork have begun, and no others

## Main results

* `Live.eq_foldl_earlier`: whose turn it is, is due before all that come first
* `Live.BegunInOrder.tick`: by the clock, children begin in order
-/

namespace Rehearsal

/-! ### The order of turns -/

namespace Due

variable {a b c : Due}

theorem isBefore_iff : a.isBefore b = true ↔ a.time < b.time ∨ a.time = b.time ∧
    (a.rank < b.rank ∨ a.rank = b.rank ∧
      (a.ticket < b.ticket ∨ a.ticket = b.ticket ∧ a.seat < b.seat)) := by
  simp only [isBefore, Bool.or_eq_true, Bool.and_eq_true, decide_eq_true_eq]

theorem isBefore_trans_le (h : a.isBefore b = true) (h' : c.isBefore b = false) :
    a.isBefore c = true := by
  rw [← Bool.not_eq_true, isBefore_iff] at h'
  rw [isBefore_iff] at h ⊢
  omega

theorem le_trans_le (h : b.isBefore a = false) (h' : c.isBefore b = false) :
    c.isBefore a = false := by
  rw [← Bool.not_eq_true, isBefore_iff] at h h' ⊢
  omega

theorem isBefore_asymm (h : a.isBefore b = true) : b.isBefore a = false := by
  rw [← Bool.not_eq_true, isBefore_iff]
  rw [isBefore_iff] at h
  omega

theorem isBefore_self (a : Due) : a.isBefore a = false := by
  rw [← Bool.not_eq_true, isBefore_iff]
  omega

end Due

namespace Live

variable {α β ι κ : Type} {peers : Peers} {s : Session}

/-- Neither of two turns comes before the earlier one. -/
theorem isBefore_earlier {a b : Option (Due × κ)} {t : Due × κ} (h : earlier a b = some t) :
    ∀ x, a = some x ∨ b = some x → x.1.isBefore t.1 = false := by
  rintro x (rfl | rfl)
  · cases b with
    | none =>
      obtain rfl := Option.some.inj h
      exact x.1.isBefore_self
    | some b =>
      rw [earlier] at h
      split at h <;> obtain rfl := Option.some.inj h
      next hb => exact Due.isBefore_asymm hb
      next => exact x.1.isBefore_self
  · cases a with
    | none =>
      obtain rfl := Option.some.inj h
      exact x.1.isBefore_self
    | some a =>
      rw [earlier] at h
      split at h <;> obtain rfl := Option.some.inj h
      next => exact x.1.isBefore_self
      next ha => simpa using ha

/-- Nothing comes before the turn that is picked. -/
theorem isBefore_foldl_earlier {turn : ι → Option (Due × κ)} {is : List ι}
    {best : Option (Due × κ)} {t : Due × κ}
    (h : is.foldl (fun best i => earlier best (turn i)) best = some t) :
    (∀ x, best = some x → x.1.isBefore t.1 = false) ∧
      ∀ i ∈ is, ∀ x, turn i = some x → x.1.isBefore t.1 = false := by
  induction is generalizing best with
  | nil =>
    obtain rfl : best = some t := h
    refine ⟨fun x hx => ?_, fun _ hi => absurd hi List.not_mem_nil⟩
    rw [Option.some.inj hx]
    exact x.1.isBefore_self
  | cons i is ih =>
    rw [List.foldl_cons] at h
    obtain ⟨hbest, his⟩ := ih h
    -- whatever is not picked here comes after what is picked here, and that after what is picked
    have hfirst : ∀ x, best = some x ∨ turn i = some x → x.1.isBefore t.1 = false := by
      intro x hx
      cases hnow : earlier best (turn i) with
      | none =>
        rw [earlier_eq_none] at hnow
        rcases hx with hx | hx
        · rw [hnow.1] at hx
          cases hx
        · rw [hnow.2] at hx
          cases hx
      | some y =>
        exact Due.le_trans_le (hbest y hnow) (isBefore_earlier hnow x hx)
    refine ⟨fun x hx => hfirst x (.inl hx), List.forall_mem_cons.mpr ⟨?_, his⟩⟩
    exact fun x hx => hfirst x (.inr hx)

/-- **The turn that is picked is due before all that come first.** -/
theorem eq_foldl_earlier {turn : ι → Option (Due × κ)} {is : List ι} {best : Option (Due × κ)}
    {t : Due × κ} (h : is.foldl (fun best i => earlier best (turn i)) best = some t) :
    best = some t ∨ ∃ front i back, is = front ++ i :: back ∧ turn i = some t ∧
      ∀ j ∈ front, ∀ x, turn j = some x → t.1.isBefore x.1 = true := by
  induction is using List.reverseRecOn with
  | nil => exact .inl h
  | append_singleton is i ih =>
    rw [List.foldl_append, List.foldl_cons, List.foldl_nil] at h
    cases hbefore : is.foldl (fun best i => earlier best (turn i)) best with
    | none =>
      rw [hbefore] at h
      refine .inr ⟨is, i, [], rfl, h, fun j hj x hx => ?_⟩
      rw [(foldl_earlier_eq_none.mp hbefore).2 j hj] at hx
      cases hx
    | some y =>
      rw [hbefore] at h
      -- either the last one is strictly earlier than all others, or it is passed over
      cases hlast : turn i with
      | none =>
        rw [hlast] at h
        obtain rfl := Option.some.inj h
        exact (ih hbefore).imp_right fun ⟨front, k, back, heq, hrest⟩ =>
          ⟨front, k, back ++ [i], by rw [heq, List.append_assoc, List.cons_append], hrest⟩
      | some z =>
        rw [hlast, earlier] at h
        split at h <;> obtain rfl := Option.some.inj h
        next hz =>
          refine .inr ⟨is, i, [], rfl, hlast, fun j hj x hx => ?_⟩
          exact Due.isBefore_trans_le hz ((isBefore_foldl_earlier hbefore).2 j hj x hx)
        next =>
          exact (ih hbefore).imp_right fun ⟨front, k, back, heq, hrest⟩ =>
            ⟨front, k, back ++ [i], by rw [heq, List.append_assoc, List.cons_append], hrest⟩

end Live

/-! ### Steps by the clock -/

namespace Stage

variable {α : Type} {peers : Peers}

/-- One step of the place whose turn it is. -/
def Ticks (peers : Peers) (now later : Stage α) : Prop :=
  ∃ due place, now.1.turn? now.2 = some (due, place) ∧
    later = now.1.go peers true due place { now.2 with clock := max now.2.clock due.time }

theorem Ticks.moves {now later : Stage α} (h : Ticks peers now later) : Moves peers now later := by
  obtain ⟨due, place, -, heq⟩ := h
  exact ⟨true, due, place, _, heq⟩

/-- A step by the clock is a step of the job at the place where it is its turn, or of a stray. -/
theorem Ticks.cases {now later : Stage α} (h : Ticks peers now later) :
    (∃ due path clock, now.1.next? now.2 = some (due, path) ∧
        later = now.1.advance peers true due path { now.2 with clock }) ∨
      later.1 = now.1 := by
  obtain ⟨due, place, hturn, rfl⟩ := h
  rcases Live.earlier_eq_some hturn with hown | hstray
  · obtain ⟨⟨due', path⟩, hnext, heq⟩ := Option.map_eq_some_iff.mp hown
    rw [Prod.mk.injEq] at heq
    obtain ⟨rfl, rfl⟩ := heq
    exact .inl ⟨due', path, _, hnext, rfl⟩
  · obtain ⟨i, path, rfl, -⟩ := Live.exists_of_nextStray?_eq_some hstray
    exact .inr rfl

/-- A run by the clock is made of such steps. -/
theorem ticks_of_run {fuel : Nat} {live : Live α} {s s' : Session} {outcome : Outcome α}
    (h : live.run peers fuel s = some (outcome, s')) :
    Relation.ReflTransGen (Ticks peers) (live, s) (.ended outcome, s') := by
  induction fuel generalizing live s with
  | zero => cases h
  | succ fuel ih =>
    rw [Live.run] at h
    split at h
    next o hend =>
      rw [Option.some.injEq, Prod.mk.injEq] at h
      obtain ⟨rfl, rfl⟩ := h
      rw [Live.eq_ended_of_outcome?_eq_some hend]
    next =>
      split at h
      next => cases h
      next due place hturn => exact .head ⟨due, place, hturn, rfl⟩ (ih h)

end Stage

/-! ### Children begin in order -/

namespace Live

variable {α β : Type} {peers : Peers}

/-- A job under way becomes another by one turn. -/
def Turns (peers : Peers) (now later : Live α) : Prop := ∃ s s', Turn peers now s later s'

/-- The first children of a fork have begun, and no others. -/
def BegunInOrder (peers : Peers) {n : Nat} (child : Fin n → Job β) (dues : Fin n → Due)
    (children : Fin n → Live β) : Prop :=
  ∃ m, ∀ i : Fin n,
    (i.val < m → Relation.TransGen (Turns peers) (ready (dues i) (child i)) (children i)) ∧
    (m ≤ i.val → children i = ready (dues i) (child i))

section Fork

variable {manner : Manner} {n : Nat} {child : Fin n → Job β} {dues : Fin n → Due}
  {children : Fin n → Live β} {completions : Completions n β} {wake : Option Due}
  {enough : Completions n β → Bool} {finish : Completions n β → Job α}

theorem begunInOrder_none (peers : Peers) (child : Fin n → Job β) (dues : Fin n → Due) :
    BegunInOrder peers child dues fun i => ready (dues i) (child i) :=
  ⟨0, fun _ => ⟨fun h => absurd h (Nat.not_lt_zero _), fun _ => rfl⟩⟩

/-- Where a child is to take the next step, the children before it are due later. -/
theorem isBefore_of_next? {s : Session} {due : Due} {k : Nat} {path : List Nat}
    (h : (forked manner n children completions wake enough finish).next? s =
      some (due, k :: path)) :
    ∃ i : Fin n, i.val = k ∧ (children i).next? s = some (due, path) ∧
      ∀ j < i, ∀ x, (children j).next? s = some x → due.isBefore x.1 = true := by
  rw [next?] at h
  rcases eq_foldl_earlier h with hwake | ⟨front, i, back, hsplit, hturn, hfront⟩
  · obtain ⟨_, -, heq⟩ := Option.map_eq_some_iff.mp hwake
    cases heq
  · obtain ⟨⟨due', path'⟩, hnext, heq⟩ := Option.map_eq_some_iff.mp hturn
    obtain ⟨rfl, hpath⟩ := Prod.mk.inj heq
    obtain ⟨hk, rfl⟩ := List.cons.inj hpath
    refine ⟨i, hk, hnext, fun j hj x hx => ?_⟩
    refine hfront j ?_ (x.1, j.val :: x.2) (by rw [hx]; rfl)
    -- the children are listed in order, so what is before is in front
    have hsorted : (front ++ i :: back).Pairwise (· < ·) := hsplit ▸ List.pairwise_lt_finRange n
    rcases List.mem_append.mp (hsplit ▸ List.mem_finRange j) with hmem | hmem
    · exact hmem
    · rw [List.pairwise_append, List.pairwise_cons] at hsorted
      rcases List.mem_cons.mp hmem with rfl | hmem
      · exact absurd hj (lt_irrefl _)
      · exact absurd (hj.trans (hsorted.2.1.1 j hmem)) (lt_irrefl _)

/-- When the child whose turn it is goes on, the first children have begun, and no others. -/
theorem BegunInOrder.update {s s' : Session} {due : Due} {i : Fin n} {path : List Nat}
    (h : BegunInOrder peers child dues children) (outer : Bool) (next : Live β)
    (hdues : ∀ i j, i < j → (dues j).isBefore (dues i) = false)
    (hnext : (children i).next? s = some (due, path))
    (hfirst : ∀ j < i, ∀ x, (children j).next? s = some x → due.isBefore x.1 = true)
    (hstep : next = ((children i).advance peers outer due path s').1) :
    BegunInOrder peers child dues (Function.update children i next) := by
  obtain ⟨m, hm⟩ := h
  rcases lt_trichotomy i.val m with hi | hi | hi
  · -- the child had begun
    have hbegun := (hm i).1 hi
    refine ⟨m, fun j => ?_⟩
    rw [Function.update_apply]
    split
    next hj =>
      subst hj
      refine ⟨fun _ => ?_, fun hle => absurd hi (Nat.not_lt.mpr hle)⟩
      rcases @advance_turn _ peers (children j) outer due path s' with hidle | ⟨s₁, turn, -⟩
      · rw [hstep, hidle]
        exact hbegun
      · exact hstep ▸ hbegun.tail ⟨_, _, turn⟩
    next => exact hm j
  · -- the child begins
    have hready := (hm i).2 hi.ge
    refine ⟨m + 1, fun j => ?_⟩
    rw [Function.update_apply]
    split
    next hj =>
      subst hj
      refine ⟨fun _ => .single ?_, fun hle => absurd hle (by omega)⟩
      rw [hready] at hstep
      obtain ⟨s₁, turn, -⟩ := @step_turn _ peers (dues j) (child j) s'
      exact hstep ▸ ⟨_, _, turn⟩
    next hj =>
      have hne : j.val ≠ i.val := fun heq => hj (Fin.ext heq)
      exact ⟨fun hlt => (hm j).1 (by omega), fun hle => (hm j).2 (by omega)⟩
  · -- a child before it has not begun, so it would be that one's turn
    exfalso
    have hfree := (hm ⟨m, hi.trans i.isLt⟩).2 (Nat.le_refl m)
    have hbefore := hfirst ⟨m, hi.trans i.isLt⟩ hi (dues ⟨m, hi.trans i.isLt⟩, [])
      (by rw [hfree, next?])
    rw [(hm i).2 hi.le, next?, Option.some.injEq, Prod.mk.injEq] at hnext
    rw [← hnext.1, hdues _ _ hi] at hbefore
    cases hbefore

/-- **By the clock, children begin in order**, if they are due in order. -/
theorem BegunInOrder.tick {s s' : Session} {live : Live α}
    (hdues : ∀ i j, i < j → (dues j).isBefore (dues i) = false)
    (h : BegunInOrder peers child dues children)
    (htick : Stage.Ticks peers (forked manner n children completions wake enough finish, s)
      (live, s')) :
    (∃ children' completions' wake', BegunInOrder peers child dues children' ∧
        live = forked manner n children' completions' wake' enough finish) ∨
      ∃ due, live = ready due (finish completions) := by
  rcases htick.cases with ⟨due, path, clock, hnext, hlater⟩ | hsame
  · cases path with
    | nil =>
      unfold advance at hlater
      simp only at hlater
      split at hlater <;> obtain ⟨rfl, -⟩ := Prod.mk.inj hlater
      · exact .inr ⟨due, rfl⟩
      · exact .inl ⟨children, completions, none, h, rfl⟩
    | cons k path =>
      obtain ⟨i, rfl, hchild, hfirst⟩ := isBefore_of_next? hnext
      have going : (children i).outcome? = none := by
        cases hend : (children i).outcome? with
        | none => rfl
        | some o =>
          rw [eq_ended_of_outcome?_eq_some hend] at hchild
          cases hchild
      obtain ⟨⟨next, s₁⟩, hstep⟩ : ∃ stage, (children i).advance peers
          (true && manner = .together) due path { s with clock } = stage := ⟨_, rfl⟩
      have hbegun := h.update (true && manner = .together) next hdues hchild hfirst
        (congrArg Prod.fst hstep).symm
      rw [advance_child going hstep] at hlater
      cases hend : next.outcome? with
      | none =>
        rw [hend] at hlater
        exact .inl ⟨_, _, _, hbegun, (Prod.mk.inj hlater).1⟩
      | some o =>
        rw [hend] at hlater
        exact .inl ⟨_, _, _, hbegun, (Prod.mk.inj hlater).1⟩
  · exact .inl ⟨children, completions, wake, h, hsame⟩

end Fork

end Live

end Rehearsal
