import Rehearsal.Proofs.Job.Order
import Mathlib.Algebra.BigOperators.Fin
import Mathlib.Algebra.Order.BigOperators.Group.Finset
import Mathlib.Tactic.Abel

/-!
# Seats and calls

Who wants the outcome of a lookup holds a seat in the queue of its key, and nobody else does. That
is the invariant behind the cache: the queues hold the seats of the places that wait, no more and no
less, so the head of a queue is always somebody who can call the resolver, and at most one place has
called it. What was left behind goes on holding its seats. The journal agrees with the cache: a key
has an outcome just when its one call has returned, and after that it is never called again.

## Main definitions

* `Live.holdings`, `Session.held`: the seats that are held in a job under way and by strays
* `Session.Seating`: the queues hold just the seats of some multiset
* `Session.Orderly`: the invariant, for the seats that are held beside those of strays

## Main results

* `Live.Turn.orderly`: a turn keeps the invariant, whatever else holds seats
* `Stage.Leads.orderly`: so does a run
-/

namespace Rehearsal

/-- A seat that is held. -/
structure Holding where
  /-- The key whose outcome is wanted. -/
  key : LookupKey
  /-- The seat. -/
  seat : Seat
  /-- Has its holder called the resolver? -/
  calls : Bool
  deriving DecidableEq

namespace Live

/-- The seats that are held in a job under way. -/
def holdings : {α : Type} → Live α → Multiset Holding
  | _, ended _ => 0
  | _, ready .. => 0
  | _, calling _ key seat .. => {⟨key, seat, true⟩}
  | _, seated key seat _ => {⟨key, seat, false⟩}
  | _, forked _ _ children .. => ∑ i, (children i).holdings

/-- A sum over children, one child apart from the others. -/
theorem sum_update_child {X M : Type*} [AddCommMonoid M] {n : Nat} (f : X → M)
    (children : Fin n → X) (i : Fin n) (child : X) :
    ∑ j, f (Function.update children i child j) =
      f child + ∑ j ∈ Finset.univ.erase i, f (children j) := by
  rw [← Finset.add_sum_erase _ _ (Finset.mem_univ i), Function.update_self]
  congr 1
  refine Finset.sum_congr rfl fun j hj => ?_
  rw [Function.update_of_ne (Finset.ne_of_mem_erase hj)]

/-- What one child holds, and what the others hold. -/
theorem holdings_forked_add {α β : Type} {manner : Manner} {n : Nat} {children : Fin n → Live β}
    {completions : Completions n β} {wake : Option Due} {enough : Completions n β → Bool}
    {finish : Completions n β → Job α} (i : Fin n) (F : Multiset Holding) :
    (forked manner n children completions wake enough finish).holdings + F =
      (children i).holdings + (∑ j ∈ Finset.univ.erase i, (children j).holdings + F) := by
  rw [holdings, ← Finset.add_sum_erase _ _ (Finset.mem_univ i), add_assoc]

end Live

namespace Journal

/-- The outcomes with which calls for a key returned. -/
def returned (key : LookupKey) (journal : List Event) : List LookupOutcome :=
  journal.filterMap fun e =>
    match e with
    | .settled k outcome => if k = key then some outcome else none
    | _ => none

/-- After a call for a key has returned, there is no other. -/
def Closed (journal : List Event) : Prop :=
  journal.Pairwise fun e e' => ∀ key outcome, e = .settled key outcome → e' ≠ .called key

@[simp] theorem returned_nil (key : LookupKey) : returned key [] = [] := rfl

@[simp] theorem returned_append (key : LookupKey) (j j' : List Event) :
    returned key (j ++ j') = returned key j ++ returned key j' := List.filterMap_append

theorem returned_singleton_settled (key key' : LookupKey) (outcome : LookupOutcome) :
    returned key [.settled key' outcome] = if key' = key then [outcome] else [] := by
  by_cases h : key' = key <;> simp [returned, h]

theorem mem_returned {key : LookupKey} {journal : List Event} {outcome : LookupOutcome} :
    outcome ∈ returned key journal ↔ .settled key outcome ∈ journal := by
  simp only [returned, List.mem_filterMap]
  constructor
  · rintro ⟨e, he, h⟩
    cases e with
    | settled k o =>
      simp only [Option.ite_none_right_eq_some, Option.some.injEq] at h
      obtain ⟨rfl, rfl⟩ := h
      exact he
    | called | asked | logged => cases h
  · exact fun h => ⟨_, h, by simp⟩

end Journal

namespace Session

variable {H F : Multiset Holding} {past : Nat} {s s' : Session} {key : LookupKey} {seat : Seat}

/-- What happened since the journal had some length. -/
def news (past : Nat) (s : Session) : List Event := s.journal.drop past

/-- The queues hold the seats that are held, and the journal tells what the cache knows. -/
structure Seating (H : Multiset Holding) (past : Nat) (s : Session) : Prop where
  /-- No seat is held twice. -/
  nodup : (H.map Holding.seat).Nodup
  /-- Seats are tickets that were given out. -/
  lt_ticket : ∀ h ∈ H, h.seat < s.ticket
  /-- While an outcome is wanted, the queue holds the seats of those who want it. -/
  mem_queue : ∀ key, (s.entry key).cell.outcome = none → ∀ seat,
    seat ∈ (s.entry key).cell.queue ↔ ∃ calls, ⟨key, seat, calls⟩ ∈ H
  /-- Who has called the resolver sits at the head. -/
  caller : ∀ h ∈ H, h.calls = true → (s.entry h.key).cell.caller? = some h.seat
  /-- Nothing is taken out of the journal. -/
  past_le : past ≤ s.journal.length
  /-- The outcome of a key is what its call returned. -/
  returned : ∀ key, Journal.returned key (s.news past) = (s.entry key).cell.outcome.toList
  /-- A key with an outcome is not called again. -/
  closed : Journal.Closed (s.news past)

/-- A session in which nobody waits and nothing is known. -/
theorem seating_of_cache_eq_nil (h : s.cache = []) : s.Seating 0 s.journal.length where
  nodup := Multiset.nodup_zero
  lt_ticket := fun h hh => absurd hh (Multiset.notMem_zero h)
  mem_queue := fun key _ seat => by simp [entry_of_cache_eq_nil h, LookupCell.fresh]
  caller := fun h hh => absurd hh (Multiset.notMem_zero h)
  past_le := Nat.le_refl _
  returned := fun key => by simp [news, entry_of_cache_eq_nil h, LookupCell.fresh]
  closed := by simp [news, Journal.Closed]

theorem Seating.passes (h : s.Seating H past) (hpass : s.Passes s') : s'.Seating H past where
  nodup := h.nodup
  lt_ticket := fun x hx => Nat.lt_of_lt_of_le (h.lt_ticket x hx) hpass.ticket
  mem_queue := fun key => by
    rw [hpass.entry]
    exact h.mem_queue key
  caller := fun x hx => by
    rw [hpass.entry]
    exact h.caller x hx
  past_le := hpass.journal ▸ h.past_le
  returned := fun key => by
    rw [news, hpass.entry, hpass.journal]
    exact h.returned key
  closed := by
    rw [news, hpass.journal]
    exact h.closed

/-- It does not matter who holds the seats. -/
theorem Seating.besides (h : s.Seating H past) (strays : List Stray) :
    ({ s with strays } : Session).Seating H past :=
  ⟨h.nodup, h.lt_ticket, h.mem_queue, h.caller, h.past_le, h.returned, h.closed⟩

/-! ### What operations do to the invariant -/

theorem news_append_of_journal (hpast : past ≤ s.journal.length) {events : List Event}
    (h : s'.journal = s.journal ++ events) : s'.news past = s.news past ++ events := by
  rw [news, h, List.drop_append_of_le_length hpast, news]

theorem Seating.note_quiet (h : s.Seating H past) {event : Event}
    (hcalled : ∀ key, event ≠ .called key)
    (hsettled : ∀ key outcome, event ≠ .settled key outcome) :
    (s.note event).Seating H past := by
  have hnews : (s.note event).news past = s.news past ++ [event] :=
    news_append_of_journal h.past_le rfl
  refine ⟨h.nodup, h.lt_ticket, h.mem_queue, h.caller, ?_, fun key => ?_, ?_⟩
  · exact Nat.le_trans h.past_le (by simp [note])
  · have hnone : Journal.returned key [event] = [] := by
      cases event with
      | settled k o => exact absurd rfl (hsettled k o)
      | called | asked | logged => rfl
    rw [hnews, Journal.returned_append, hnone, List.append_nil, h.returned, entry_note]
  · rw [hnews]
    refine List.pairwise_append.mpr ⟨h.closed, List.pairwise_singleton _ _, ?_⟩
    rintro e - e' he' k o -
    rw [List.mem_singleton.mp he']
    exact hcalled k

theorem outcome_eq_none_of_caller? {c : LookupCell} (h : c.caller? = some seat) :
    c.outcome = none := by
  unfold LookupCell.caller? at h
  split at h
  · cases h
  · assumption

theorem head_of_caller? {c : LookupCell} (h : c.caller? = some seat) :
    c.queue.head? = some seat := by
  rwa [LookupCell.caller?, outcome_eq_none_of_caller? h] at h

theorem Seating.sit (h : s.Seating H past) (unknown : (s.entry key).cell.outcome = none) :
    (s.sit key).Seating (⟨key, s.ticket, false⟩ ::ₘ H) past := by
  refine ⟨?_, ?_, ?_, ?_, h.past_le, ?_, h.closed⟩
  · rw [Multiset.map_cons, Multiset.nodup_cons]
    refine ⟨fun hmem => ?_, h.nodup⟩
    obtain ⟨x, hx, heq⟩ := Multiset.mem_map.mp hmem
    exact Nat.lt_irrefl _ (heq ▸ h.lt_ticket x hx)
  · intro x hx
    rcases Multiset.mem_cons.mp hx with rfl | hx
    · exact Nat.lt_succ_self _
    · exact Nat.lt_succ_of_lt (h.lt_ticket x hx)
  · intro k hk seat
    rw [cell_entry_sit] at hk ⊢
    by_cases hkey : k = key
    · subst hkey
      rw [if_pos rfl, LookupCell.join, List.mem_append, h.mem_queue k unknown seat,
        List.mem_singleton]
      constructor
      · rintro (⟨calls, hx⟩ | rfl)
        · exact ⟨calls, Multiset.mem_cons_of_mem hx⟩
        · exact ⟨false, Multiset.mem_cons_self _ _⟩
      · rintro ⟨calls, hx⟩
        rcases Multiset.mem_cons.mp hx with heq | hx
        · exact .inr (by injection heq)
        · exact .inl ⟨calls, hx⟩
    · rw [if_neg hkey] at hk ⊢
      rw [h.mem_queue k hk seat]
      refine exists_congr fun calls => ⟨Multiset.mem_cons_of_mem, fun hx => ?_⟩
      rcases Multiset.mem_cons.mp hx with heq | hx
      · exact absurd (by injection heq) hkey
      · exact hx
  · intro x hx hcalls
    rcases Multiset.mem_cons.mp hx with rfl | hx
    · cases hcalls
    · have hcaller := h.caller x hx hcalls
      rw [cell_entry_sit]
      split
      next hkey =>
        rw [hkey] at hcaller
        have hhead := head_of_caller? hcaller
        rw [LookupCell.caller?, LookupCell.join, unknown]
        simp only [List.head?_append, hhead, Option.some_or]
      next => exact hcaller
  · intro k
    rw [show (s.sit key).news past = s.news past from rfl, h.returned, cell_entry_sit]
    split
    next hkey => rw [hkey, LookupCell.join]
    next => rfl

theorem Seating.called (h : s.Seating (⟨key, seat, false⟩ ::ₘ H) past)
    (head : (s.entry key).cell.caller? = some seat) :
    (s.note (.called key)).Seating (⟨key, seat, true⟩ ::ₘ H) past := by
  have hnews : (s.note (.called key)).news past = s.news past ++ [.called key] :=
    news_append_of_journal h.past_le rfl
  refine ⟨?_, ?_, ?_, ?_, ?_, ?_, ?_⟩
  · simpa using h.nodup
  · intro x hx
    rcases Multiset.mem_cons.mp hx with rfl | hx
    · exact h.lt_ticket ⟨key, seat, false⟩ (Multiset.mem_cons_self _ _)
    · exact h.lt_ticket x (Multiset.mem_cons_of_mem hx)
  · intro k hk st
    rw [entry_note] at hk ⊢
    rw [h.mem_queue k hk st]
    simp only [Multiset.mem_cons, Holding.mk.injEq]
    constructor
    · rintro ⟨calls, ⟨rfl, rfl, -⟩ | hx⟩
      · exact ⟨true, .inl ⟨rfl, rfl, rfl⟩⟩
      · exact ⟨calls, .inr hx⟩
    · rintro ⟨calls, ⟨rfl, rfl, -⟩ | hx⟩
      · exact ⟨false, .inl ⟨rfl, rfl, rfl⟩⟩
      · exact ⟨calls, .inr hx⟩
  · intro x hx hcalls
    rcases Multiset.mem_cons.mp hx with rfl | hx
    · exact head
    · exact h.caller x (Multiset.mem_cons_of_mem hx) hcalls
  · exact Nat.le_trans h.past_le (by simp [note])
  · intro k
    rw [hnews, Journal.returned_append, h.returned, entry_note]
    simp [Journal.returned]
  · rw [hnews]
    refine List.pairwise_append.mpr ⟨h.closed, List.pairwise_singleton _ _, ?_⟩
    rintro e he e' he' k o rfl heq
    rw [List.mem_singleton.mp he', Event.called.injEq] at heq
    subst heq
    -- the key is called, so it has no outcome, so no call for it has returned
    have hmem : o ∈ Journal.returned key (s.news past) := Journal.mem_returned.mpr he
    rw [h.returned, outcome_eq_none_of_caller? head] at hmem
    cases hmem

/-- A seat is held by one place only. -/
theorem Seating.cons {x : Holding} (h : s.Seating (x ::ₘ H) past) :
    (H.map Holding.seat).Nodup ∧ ∀ y ∈ H, y.seat ≠ x.seat := by
  have hnodup := h.nodup
  rw [Multiset.map_cons, Multiset.nodup_cons] at hnodup
  exact ⟨hnodup.2, fun y hy heq => hnodup.1 (heq ▸ Multiset.mem_map_of_mem _ hy)⟩

theorem Seating.settle (h : s.Seating (⟨key, seat, true⟩ ::ₘ H) past) (outcome : LookupOutcome) :
    (s.settle key outcome).Seating H past := by
  have hcaller := h.caller _ (Multiset.mem_cons_self _ _) rfl
  have hnews : (s.settle key outcome).news past = s.news past ++ [.settled key outcome] :=
    news_append_of_journal h.past_le rfl
  refine ⟨h.cons.1, ?_, ?_, ?_, ?_, ?_, ?_⟩
  · exact fun x hx => Nat.lt_succ_of_lt (h.lt_ticket x (Multiset.mem_cons_of_mem hx))
  · intro k hk st
    rw [cell_entry_settle] at hk ⊢
    by_cases hkey : k = key
    · rw [if_pos hkey] at hk
      cases hk
    · rw [if_neg hkey] at hk ⊢
      simp [h.mem_queue k hk st, hkey]
  · intro x hx hcalls
    have hx' := h.caller x (Multiset.mem_cons_of_mem hx) hcalls
    rw [cell_entry_settle]
    split
    next hkey =>
      -- a second caller for the key would hold the same seat
      rw [hkey, hcaller, Option.some.injEq] at hx'
      exact absurd hx'.symm (h.cons.2 x hx)
    next => exact hx'
  · exact Nat.le_trans h.past_le (by simp)
  · intro k
    rw [hnews, Journal.returned_append, h.returned, Journal.returned_singleton_settled,
      cell_entry_settle]
    by_cases hkey : k = key
    · subst hkey
      rw [outcome_eq_none_of_caller? hcaller]
      simp [LookupCell.settle]
    · simp [hkey, Ne.symm hkey]
  · rw [hnews]
    refine List.pairwise_append.mpr ⟨h.closed, List.pairwise_singleton _ _, ?_⟩
    rintro e - e' he' k o - heq
    rw [List.mem_singleton.mp he'] at heq
    cases heq

theorem Seating.leave {calls : Bool} (h : s.Seating (⟨key, seat, calls⟩ ::ₘ H) past) :
    (s.leave key seat).Seating H past := by
  refine ⟨h.cons.1, ?_, ?_, ?_, ?_, ?_, ?_⟩
  · exact fun x hx => Nat.lt_of_lt_of_le (h.lt_ticket x (Multiset.mem_cons_of_mem hx))
      (ticket_le_leave ..)
  · intro k hk st
    rw [cell_entry_leave] at hk ⊢
    by_cases hkey : k = key
    · subst hkey
      rw [if_pos rfl] at hk ⊢
      rw [LookupCell.leave, List.mem_filter, h.mem_queue k hk st]
      simp only [Multiset.mem_cons, Holding.mk.injEq, decide_eq_true_eq]
      constructor
      · rintro ⟨⟨c, ⟨-, rfl, -⟩ | hx⟩, hne⟩
        · exact absurd rfl hne
        · exact ⟨c, hx⟩
      · exact fun ⟨c, hx⟩ => ⟨⟨c, .inr hx⟩, h.cons.2 _ hx⟩
    · rw [if_neg hkey] at hk ⊢
      simp [h.mem_queue k hk st, hkey]
  · intro x hx hcalls
    have hx' := h.caller x (Multiset.mem_cons_of_mem hx) hcalls
    rw [cell_entry_leave]
    split
    next hkey =>
      -- the seat that is left is another one, so the head stays where it is
      rw [hkey] at hx'
      have hhead := head_of_caller? hx'
      have hnone := outcome_eq_none_of_caller? hx'
      obtain ⟨rest, hrest⟩ := List.head?_eq_some_iff.mp hhead
      rw [LookupCell.caller?, LookupCell.leave, hnone, hrest,
        List.filter_cons_of_pos (by simpa using h.cons.2 x hx)]
      rfl
    next => exact hx'
  · rw [journal_leave]
    exact h.past_le
  · intro k
    rw [news, journal_leave, ← news, h.returned, cell_entry_leave]
    split
    next hkey => rw [hkey, LookupCell.leave]
    next => rfl
  · rw [news, journal_leave]
    exact h.closed

/-- Who waited gets up when the outcome is there. -/
theorem Seating.rise {calls : Bool} (h : s.Seating (⟨key, seat, calls⟩ ::ₘ H) past)
    {outcome : LookupOutcome} (known : (s.entry key).cell.outcome = some outcome) :
    s.Seating H past := by
  refine ⟨h.cons.1, ?_, ?_, ?_, h.past_le, h.returned, h.closed⟩
  · exact fun x hx => h.lt_ticket x (Multiset.mem_cons_of_mem hx)
  · intro k hk st
    have hkey : k ≠ key := by
      rintro rfl
      rw [known] at hk
      cases hk
    simp [h.mem_queue k hk st, hkey]
  · exact fun x hx => h.caller x (Multiset.mem_cons_of_mem hx)

/-! ### Seats of strays -/

/-- The seats that strays hold. -/
def held (s : Session) : Multiset Holding := (s.strays.map fun x => x.live.holdings).sum

@[simp] theorem held_of_strays_eq_nil (h : s.strays = []) : s.held = 0 := by
  rw [held, h, List.map_nil, List.sum_nil]

theorem held_congr (h : s'.strays = s.strays) : s'.held = s.held := by
  rw [held, h, held]

theorem mem_held {x : Holding} : x ∈ s.held ↔ ∃ stray ∈ s.strays, x ∈ stray.live.holdings := by
  rw [held]
  induction s.strays with
  | nil => simp
  | cons stray strays ih => rw [List.map_cons, List.sum_cons, Multiset.mem_add, ih,
      List.exists_mem_cons_iff]

/-- The queues hold the seats that are held, by strays or otherwise, and the journal tells what the
cache knows. -/
def Orderly (H : Multiset Holding) (past : Nat) (s : Session) : Prop := s.Seating (H + s.held) past

/-- A session in which nobody waits and nothing is known. -/
theorem orderly_of_cache_eq_nil (h : s.cache = []) (hstrays : s.strays = []) :
    s.Orderly 0 s.journal.length := by
  rw [Orderly, held_of_strays_eq_nil hstrays]
  exact seating_of_cache_eq_nil h

theorem Orderly.passes (h : s.Orderly H past) (hpass : s.Passes s') : s'.Orderly H past := by
  rw [Orderly, held_congr hpass.strays]
  exact Seating.passes h hpass

theorem Orderly.note_quiet (h : s.Orderly H past) {event : Event}
    (hcalled : ∀ key, event ≠ .called key)
    (hsettled : ∀ key outcome, event ≠ .settled key outcome) :
    (s.note event).Orderly H past :=
  Seating.note_quiet h hcalled hsettled

theorem Orderly.sit (h : s.Orderly H past) (unknown : (s.entry key).cell.outcome = none) :
    (s.sit key).Orderly (⟨key, s.ticket, false⟩ ::ₘ H) past := by
  rw [Orderly, Multiset.cons_add]
  exact Seating.sit h unknown

theorem Orderly.called (h : s.Orderly (⟨key, seat, false⟩ ::ₘ H) past)
    (head : (s.entry key).cell.caller? = some seat) :
    (s.note (.called key)).Orderly (⟨key, seat, true⟩ ::ₘ H) past := by
  rw [Orderly, Multiset.cons_add] at h ⊢
  exact Seating.called h head

theorem Orderly.settle (h : s.Orderly (⟨key, seat, true⟩ ::ₘ H) past) (outcome : LookupOutcome) :
    (s.settle key outcome).Orderly H past := by
  rw [Orderly, Multiset.cons_add] at h
  exact Seating.settle h outcome

theorem Orderly.leave {calls : Bool} (h : s.Orderly (⟨key, seat, calls⟩ ::ₘ H) past) :
    (s.leave key seat).Orderly H past := by
  rw [Orderly, Multiset.cons_add] at h
  rw [Orderly, held_congr (strays_leave ..)]
  exact Seating.leave h

theorem Orderly.rise {calls : Bool} (h : s.Orderly (⟨key, seat, calls⟩ ::ₘ H) past)
    {outcome : LookupOutcome} (known : (s.entry key).cell.outcome = some outcome) :
    s.Orderly H past := by
  rw [Orderly, Multiset.cons_add] at h
  exact Seating.rise h known

/-- What is left behind keeps its seats. -/
theorem Orderly.leaveBehind {strays : List Stray}
    (h : s.Orderly ((strays.map fun x => x.live.holdings).sum + H) past) :
    (s.leaveBehind strays).Orderly H past := by
  have hheld : (s.leaveBehind strays).held =
      s.held + (strays.map fun x => x.live.holdings).sum := by
    rw [held, strays_leaveBehind, List.map_append, List.sum_append, held]
  rw [Orderly, add_comm _ H, add_assoc, add_comm _ s.held] at h
  rw [Orderly, hheld]
  exact h.besides _

/-- The outcome that the cache has for a key was returned by a call. -/
theorem Orderly.mem_news {outcome : LookupOutcome} (h : s.Orderly H past)
    (known : (s.entry key).cell.outcome = some outcome) : .settled key outcome ∈ s.news past := by
  rw [← Journal.mem_returned, h.returned, known]
  exact List.mem_singleton_self outcome

/-- The cache has the outcome that a call returned. -/
theorem Orderly.outcome_of_mem_news {outcome : LookupOutcome} (h : s.Orderly H past)
    (hmem : .settled key outcome ∈ s.news past) :
    (s.entry key).cell.outcome = some outcome := by
  rw [← Journal.mem_returned, h.returned, Option.mem_toList] at hmem
  exact hmem

/-- A key resolves to one outcome only. -/
theorem Orderly.eq_of_mem_news {o o' : LookupOutcome} (h : s.Orderly H past)
    (ho : .settled key o ∈ s.news past) (ho' : .settled key o' ∈ s.news past) : o = o' :=
  Option.some.inj ((h.outcome_of_mem_news ho).symm.trans (h.outcome_of_mem_news ho'))

/-- What a call returned is all that was ever returned for the key. -/
theorem Orderly.returned_eq_singleton {outcome : LookupOutcome} (h : s.Orderly H past)
    (hmem : .settled key outcome ∈ s.news past) :
    Journal.returned key (s.news past) = [outcome] := by
  rw [h.returned, h.outcome_of_mem_news hmem]
  rfl

theorem Orderly.length_returned_le (h : s.Orderly H past) (key : LookupKey) :
    (Journal.returned key (s.news past)).length ≤ 1 := by
  rw [h.returned]
  cases (s.entry key).cell.outcome with
  | none => exact Nat.zero_le 1
  | some outcome => exact Nat.le_refl 1

/-- What happened stays in the journal. -/
theorem news_subset (h : s.journal <+: s'.journal) (past : Nat) : s.news past ⊆ s'.news past :=
  (h.drop past).subset

end Session

namespace Live

variable {α β : Type} {peers : Peers} {H F : Multiset Holding} {past : Nat} {s s' : Session}

theorem holdings_forked {manner : Manner} {n : Nat} {children : Fin n → Live β}
    {completions : Completions n β} {wake : Option Due} {enough : Completions n β → Bool}
    {finish : Completions n β → Job α} :
    (forked manner n children completions wake enough finish).holdings =
      ((List.finRange n).map fun i => (children i).holdings).sum := by
  rw [holdings, Fin.sum_univ_def]

theorem orderly_abandonAll {n : Nat} {children : Fin n → Live β}
    (ih : ∀ i {F : Multiset Holding} {s : Session}, s.Orderly ((children i).holdings + F) past →
      ((children i).abandon s).Orderly F past)
    (h : s.Orderly (((List.finRange n).map fun i => (children i).holdings).sum + F) past) :
    (abandonAll children s).Orderly F past := by
  unfold abandonAll
  generalize List.finRange n = is at h ⊢
  induction is generalizing s with
  | nil =>
    rw [List.map_nil, List.sum_nil, zero_add] at h
    exact h
  | cons i is ihs =>
    rw [List.map_cons, List.sum_cons, add_assoc] at h
    exact ihs (ih i h)

/-- Whatever is given up leaves its seats or keeps them as a stray, and what others hold is as
before. -/
theorem orderly_abandon (live : Live α) (h : s.Orderly (live.holdings + F) past) :
    (live.abandon s).Orderly F past := by
  induction live generalizing s F with
  | ended | ready =>
    rw [holdings, zero_add] at h
    exact h
  | calling | seated =>
    rw [holdings, Multiset.singleton_add] at h
    exact h.leave
  | forked manner n children _ _ _ _ ih =>
    rw [holdings_forked] at h
    rw [abandon_forked]
    split
    · refine Session.Orderly.leaveBehind ?_
      rw [List.map_map]
      exact h
    · exact orderly_abandonAll ih h

/-- **A turn keeps the invariant**, whatever else holds seats. -/
theorem Turn.orderly {live live' : Live α} (h : Turn peers live s live' s')
    (hs : s.Orderly (live.holdings + F) past) : s'.Orderly (live'.holdings + F) past := by
  induction h generalizing F with
  | done | crash | wait | hit | sleep => exact hs
  | log | ask => exact hs.note_quiet (fun _ => by simp) fun _ _ => by simp
  | fork =>
    simpa [holdings] using hs
  | call unknown alone =>
    rw [holdings, zero_add] at hs
    rw [holdings, Multiset.singleton_add]
    refine (hs.sit unknown).called ?_
    rw [Session.cell_entry_sit, if_pos rfl, LookupCell.caller?, LookupCell.join, unknown, alone]
    rfl
  | join unknown =>
    rw [holdings, zero_add] at hs
    rw [holdings, Multiset.singleton_add]
    exact hs.sit unknown
  | settle =>
    rw [holdings, Multiset.singleton_add] at hs
    rw [holdings, zero_add]
    exact hs.settle _
  | lose =>
    rw [holdings, Multiset.singleton_add] at hs
    rw [holdings, zero_add]
    exact hs.leave
  | serve known =>
    rw [holdings, Multiset.singleton_add] at hs
    rw [holdings, zero_add]
    exact hs.rise known
  | takeOver head =>
    rw [holdings, Multiset.singleton_add] at hs
    rw [holdings, Multiset.singleton_add]
    exact hs.called head
  | finish =>
    rw [holdings_forked] at hs
    rw [holdings, zero_add]
    exact orderly_abandonAll (fun i => orderly_abandon _) hs
  | part i _ _ ih | partEnds i _ _ ih =>
    rw [holdings_forked_add i] at hs
    rw [holdings, sum_update_child, add_assoc]
    exact ih hs

/-- A turn keeps the invariant where nobody else holds a seat. -/
theorem Turn.orderly_self {live live' : Live α} (h : Turn peers live s live' s')
    (hs : s.Orderly live.holdings past) : s'.Orderly live'.holdings past := by
  rw [← add_zero live.holdings] at hs
  rw [← add_zero live'.holdings]
  exact h.orderly hs

end Live

namespace Session

variable {peers : Peers} {H : Multiset Holding} {past : Nat} {s s' : Session}

/-- The seats of strays when one of them is replaced. -/
theorem held_set {i : Nat} {old : Stray} (at_ : s.strays[i]? = some old) (new : Stray) :
    new.live.holdings + s.held =
      old.live.holdings + held { s with strays := s.strays.set i new } := by
  obtain ⟨hi, hget⟩ := List.getElem?_eq_some_iff.mp at_
  obtain ⟨front, back, hsplit, -, hset⟩ : ∃ front back,
      s.strays = front ++ s.strays[i] :: back ∧ front.length = i ∧
        s.strays.set i new = front ++ new :: back :=
    List.exists_of_set hi
  rw [hget] at hsplit
  simp only [held]
  rw [hset, hsplit]
  simp only [List.map_append, List.map_cons, List.sum_append, List.sum_cons]
  abel

/-- While a stray takes its turn, it holds its seats beside the others. -/
theorem Orderly.lend (h : s.Orderly H past) {i : Nat} {stray : Stray}
    (at_ : s.strays[i]? = some stray) :
    Orderly (stray.live.holdings + H) past { s with strays := s.strays.set i .gone } := by
  have hheld : s.held = stray.live.holdings + held { s with strays := s.strays.set i .gone } := by
    rw [← held_set at_ .gone]
    exact (zero_add _).symm
  refine Seating.besides (H := _) ?_ _
  rw [Orderly, hheld] at h
  convert h using 1
  abel

theorem Orderly.giveBack {type : Type} {live : Live type}
    (h : s.Orderly (live.holdings + H) past) {i : Nat} (at_ : s.strays[i]? = some .gone) :
    Orderly H past { s with strays := s.strays.set i ⟨live⟩ } := by
  have hheld : live.holdings + s.held = held { s with strays := s.strays.set i ⟨live⟩ } := by
    rw [held_set at_ ⟨live⟩]
    exact zero_add _
  refine Seating.besides (H := _) ?_ _
  rw [← hheld]
  rw [Orderly] at h
  convert h using 1
  abel

/-- While a stray takes a turn, nothing stands in its place. -/
theorem gone_of_turn {i : Nat} {stray : Stray} {live : Live stray.type}
    (at_ : s.strays[i]? = some stray)
    (turn : Live.Turn peers stray.live { s with strays := s.strays.set i .gone } live s') :
    s'.strays[i]? = some .gone := by
  obtain ⟨strays, heq⟩ := turn.strays_grow
  have hi := (List.getElem?_eq_some_iff.mp at_).1
  rw [← heq, List.getElem?_append_left (by rwa [List.length_set]), List.getElem?_set_self hi]

/-- A turn of a stray keeps the invariant. -/
theorem Orderly.drift (h : s.Orderly H past) (hdrift : Drift peers s s') : s'.Orderly H past := by
  obtain ⟨i, at_, turn⟩ := hdrift
  exact (turn.orderly (h.lend at_)).giveBack (gone_of_turn at_ turn)

theorem Orderly.drifts (h : s.Orderly H past) (hdrifts : s.Drifts peers s') : s'.Orderly H past :=
  hdrifts.preserves (P := fun s => s.Orderly H past) (fun _ _ passes h => h.passes passes)
    (fun _ _ drift h => h.drift drift) h

end Session

namespace Stage

variable {α : Type} {peers : Peers}

/-- **A run keeps the invariant.** -/
theorem Leads.orderly {now later : Stage α} {past : Nat} (h : Leads peers now later)
    (hnow : now.2.Orderly now.1.holdings past) : later.2.Orderly later.1.holdings past := by
  exact h.preserves (P := fun live s => s.Orderly live.holdings past)
    (fun _ _ _ passes h => h.passes passes) (fun _ _ _ drift h => h.drift drift)
    (fun _ _ _ _ turn h => turn.orderly_self h) hnow

/-- A job that begins with an empty cache holds no seats. -/
theorem Leads.orderly_of_cache_eq_nil {job : Job α} {due : Due} {s : Session} {later : Stage α}
    (h : Leads peers (.ready due job, s) later) (hcache : s.cache = []) (hstrays : s.strays = []) :
    later.2.Orderly later.1.holdings s.journal.length :=
  h.orderly (Session.orderly_of_cache_eq_nil hcache hstrays)

end Stage

end Rehearsal
