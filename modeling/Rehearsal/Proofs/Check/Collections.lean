import Rehearsal.Proofs.Check.Nameservers
import Rehearsal.Proofs.Job.Timing
import Mathlib.Data.List.Perm.Basic
import Mathlib.Data.List.Sort

/-!
# Collections in any order

What is known of nameservers is kept in lists that are sorted by keys, and grows by one entry at a
time, in the order in which answers come. A list does not remember that order: two entries may
change places, and so may any number of them. The one condition is that values that meet under one
key are joined alike in either order. Addresses are not, for they are put one after another, but
they are once they have been sorted.

## Main definitions

* `Check.IsSortedBy`: entries are sorted by keys
* `Check.gathered`: what comes of entries that are put in one after another

## Main results

* `IpAddress.mergeSort_eq_of_perm`: sorted addresses do not tell in which order they came
* `Check.insertSorted_comm`: two entries may change places
* `Check.isSortedBy_insertSorted`, `Check.mem_insertSorted_cases`: a list stays sorted, and what is
  in it afterwards
* `Check.map_insertSorted`: what is done to values may be done before they are put in
* `Check.gives_collectAll`: what a collection whose parts have one value each is made of
-/

namespace Rehearsal

namespace IpAddress

/-- The position of an address in the order of addresses. -/
def rank : IpAddress → Nat
  | v4 a => a.toNat
  | v6 a => 2 ^ 32 + a.toNat

theorem le_iff_rank_le (a b : IpAddress) : a.le b = true ↔ a.rank ≤ b.rank := by
  cases a with
  | v4 a =>
    cases b with
    | v4 b => exact decide_eq_true_iff
    | v6 b => exact iff_of_true rfl (a.isLt.le.trans (Nat.le_add_right _ _))
  | v6 a =>
    cases b with
    | v4 b =>
      have hlt : b.toNat < 2 ^ 32 + a.toNat := b.isLt.trans_le (Nat.le_add_right _ _)
      exact iff_of_false Bool.false_ne_true (Nat.not_le.mpr hlt)
    | v6 b => exact decide_eq_true_iff.trans Nat.add_le_add_iff_left.symm

theorem rank_injective : Function.Injective rank := by
  intro a b h
  cases a with
  | v4 a =>
    cases b with
    | v4 b => exact congrArg v4 (BitVec.eq_of_toNat_eq h)
    | v6 b => exact absurd h (Nat.ne_of_lt (a.isLt.trans_le (Nat.le_add_right _ _)))
  | v6 a =>
    cases b with
    | v4 b => exact absurd h (Nat.ne_of_gt (b.isLt.trans_le (Nat.le_add_right _ _)))
    | v6 b => exact congrArg v6 (BitVec.eq_of_toNat_eq (Nat.add_left_cancel h))

theorem pairwise_mergeSort (l : List IpAddress) :
    (l.mergeSort le).Pairwise fun a b => a.le b = true := by
  refine List.pairwise_mergeSort (fun a b c hab hbc => ?_) (fun a b => ?_) l
  · rw [le_iff_rank_le] at *
    exact hab.trans hbc
  · rw [Bool.or_eq_true, le_iff_rank_le, le_iff_rank_le]
    exact Nat.le_total _ _

/-- Sorted addresses do not tell in which order they came. -/
theorem mergeSort_eq_of_perm {l l' : List IpAddress} (h : l.Perm l') :
    l.mergeSort le = l'.mergeSort le := by
  refine List.Perm.eq_of_pairwise (fun a b _ _ hab hba => ?_) (pairwise_mergeSort l)
    (pairwise_mergeSort l')
    (((List.mergeSort_perm l le).trans h).trans (List.mergeSort_perm l' le).symm)
  rw [le_iff_rank_le] at hab hba
  exact rank_injective (Nat.le_antisymm hab hba)

end IpAddress

namespace Check

/-! ### The order of keys -/

theorem compareServers_eq (a b : String × IpAddress) :
    compareServers a b = (compare a.1 b.1).then (compare a.2.rank b.2.rank) := by
  unfold compareServers
  congr 1
  split
  next heq =>
    rw [heq]
    exact Std.ReflCmp.compare_self.symm
  next hne =>
    replace hne : a.2.rank ≠ b.2.rank := fun heq => hne (IpAddress.rank_injective heq)
    split
    next hle =>
      rw [IpAddress.le_iff_rank_le] at hle
      exact (Nat.compare_eq_lt.mpr (lt_of_le_of_ne hle hne)).symm
    next hle =>
      rw [IpAddress.le_iff_rank_le] at hle
      exact (Nat.compare_eq_gt.mpr (Nat.not_le.mp hle)).symm

instance : Std.TransCmp compareServers := by
  have h : compareServers = compareLex (compareOn Prod.fst) (compareOn fun s => s.2.rank) :=
    funext fun a => funext fun b => compareServers_eq a b
  rw [h]
  infer_instance

instance : Std.LawfulEqCmp compareServers where
  eq_of_compare {a b} h := by
    rw [compareServers_eq, Ordering.then_eq_eq] at h
    exact Prod.ext (Std.LawfulEqCmp.eq_of_compare h.1)
      (IpAddress.rank_injective (Std.LawfulEqCmp.eq_of_compare h.2))

/-! ### Entries -/

section Entries

variable {κ ν μ : Type} {cmp : κ → κ → Ordering} {join : ν → ν → ν} {k k' : κ} {v v' : ν}

/-- What is done to values may be done before they are put in. -/
theorem map_insertSorted {f : ν → μ} {join' : μ → μ → μ}
    (hf : ∀ x y, f (join x y) = join' (f x) (f y)) (l : List (κ × ν)) :
    (insertSorted cmp join k v l).map (Prod.map id f) =
      insertSorted cmp join' k (f v) (l.map (Prod.map id f)) := by
  induction l with
  | nil => rfl
  | cons head l ih =>
    obtain ⟨a, x⟩ := head
    cases h : cmp k a <;> simp [insertSorted, h, ih, hf]

variable [Std.LawfulEqCmp cmp]

theorem mem_keys_insertSorted {a : κ} (l : List (κ × ν)) :
    a ∈ (insertSorted cmp join k v l).map Prod.fst ↔ a = k ∨ a ∈ l.map Prod.fst := by
  induction l with
  | nil => simp [insertSorted]
  | cons head l ih =>
    obtain ⟨b, x⟩ := head
    cases h : cmp k b with
    | lt => simp [insertSorted, h]
    | eq =>
      obtain rfl := Std.LawfulEqCmp.eq_of_compare h
      simp [insertSorted, h]
    | gt =>
      simp only [insertSorted, h, List.map_cons, List.mem_cons, ih]
      exact or_left_comm

/-- An entry of a collection is the one that was put in or was there before, if values under one key
are the newest ones. -/
theorem mem_insertSorted {e : κ × ν} {l : List (κ × ν)}
    (h : e ∈ insertSorted cmp (fun _ new => new) k v l) :
    e = (k, v) ∨ e ∈ l := by
  induction l with
  | nil => exact .inl (List.mem_singleton.mp h)
  | cons head l ih =>
    obtain ⟨a, x⟩ := head
    cases hcmp : cmp k a with
    | lt =>
      rw [insertSorted, hcmp] at h
      exact List.mem_cons.mp h
    | eq =>
      obtain rfl := Std.LawfulEqCmp.eq_of_compare hcmp
      rw [insertSorted, hcmp] at h
      exact (List.mem_cons.mp h).imp_right (List.mem_cons_of_mem _)
    | gt =>
      rw [insertSorted, hcmp] at h
      rcases List.mem_cons.mp h with rfl | h
      · exact .inr List.mem_cons_self
      · exact (ih h).imp_right (List.mem_cons_of_mem _)

variable [Std.TransCmp cmp]

/-- Two entries that both come first may change places. -/
theorem insertSorted_comm_front {rest : List (κ × ν)} (hjoin : k = k' → join v v' = join v' v)
    (h : insertSorted cmp join k v rest = (k, v) :: rest)
    (h' : insertSorted cmp join k' v' rest = (k', v') :: rest) :
    insertSorted cmp join k v ((k', v') :: rest) =
      insertSorted cmp join k' v' ((k, v) :: rest) := by
  cases hk : cmp k k' with
  | lt => simp [insertSorted, hk, Std.OrientedCmp.gt_iff_lt.mpr hk, h']
  | gt => simp [insertSorted, hk, Std.OrientedCmp.gt_iff_lt.mp hk, h]
  | eq =>
    obtain rfl := Std.LawfulEqCmp.eq_of_compare hk
    simp [insertSorted, hk, hjoin rfl]

/-- **Two entries may change places**, if their values are joined alike in either order. -/
theorem insertSorted_comm
    (hjoin : k = k' → join v v' = join v' v ∧ ∀ x, join (join x v) v' = join (join x v') v)
    (l : List (κ × ν)) :
    insertSorted cmp join k v (insertSorted cmp join k' v' l) =
      insertSorted cmp join k' v' (insertSorted cmp join k v l) := by
  induction l with
  | nil => exact insertSorted_comm_front (fun h => (hjoin h).1) rfl rfl
  | cons head l ih =>
    obtain ⟨a, x⟩ := head
    have hfront {k : κ} {v : ν} (h : cmp k a = .lt) :
        insertSorted cmp join k v ((a, x) :: l) = (k, v) :: (a, x) :: l := by
      simp [insertSorted, h]
    -- an entry before the head leaves it to the other one to go on
    cases h : cmp k a with
    | lt =>
      cases h' : cmp k' a with
      | lt =>
        rw [hfront h, hfront h']
        exact insertSorted_comm_front (fun h => (hjoin h).1) (hfront h) (hfront h')
      | eq =>
        obtain rfl := Std.LawfulEqCmp.eq_of_compare h'
        simp [insertSorted, h, h', Std.OrientedCmp.gt_iff_lt.mpr h]
      | gt =>
        have hk := Std.TransCmp.gt_trans h' (Std.OrientedCmp.gt_iff_lt.mpr h)
        simp [insertSorted, h, h', hk]
    | eq =>
      obtain rfl := Std.LawfulEqCmp.eq_of_compare h
      cases h' : cmp k' k with
      | lt => simp [insertSorted, h, h', Std.OrientedCmp.gt_iff_lt.mpr h']
      | eq =>
        obtain rfl := Std.LawfulEqCmp.eq_of_compare h'
        simp [insertSorted, h', (hjoin rfl).2]
      | gt => simp [insertSorted, h, h']
    | gt =>
      cases h' : cmp k' a with
      | lt =>
        have hk := Std.TransCmp.gt_trans h (Std.OrientedCmp.gt_iff_lt.mpr h')
        simp [insertSorted, h, h', hk]
      | eq => simp [insertSorted, h, h']
      | gt => simp [insertSorted, h, h', ih]

/-- Entries are sorted by keys, no two of which are alike. -/
def IsSortedBy (cmp : κ → κ → Ordering) (l : List (κ × ν)) : Prop :=
  l.Pairwise fun a b => cmp a.1 b.1 = .lt

theorem isSortedBy_insertSorted {l : List (κ × ν)} (h : IsSortedBy cmp l) :
    IsSortedBy cmp (insertSorted cmp join k v l) := by
  induction l with
  | nil => exact List.pairwise_singleton _ _
  | cons head l ih =>
    obtain ⟨a, x⟩ := head
    obtain ⟨hhead, hrest⟩ := List.pairwise_cons.mp h
    cases hcmp : cmp k a with
    | lt =>
      rw [insertSorted, hcmp]
      refine List.pairwise_cons.mpr ⟨List.forall_mem_cons.mpr ⟨hcmp, fun e he => ?_⟩, h⟩
      exact Std.TransCmp.lt_trans hcmp (hhead e he)
    | eq =>
      rw [insertSorted, hcmp]
      exact List.pairwise_cons.mpr ⟨hhead, hrest⟩
    | gt =>
      rw [insertSorted, hcmp]
      refine List.pairwise_cons.mpr ⟨fun e he => ?_, ih hrest⟩
      rcases (mem_keys_insertSorted l).mp (List.mem_map_of_mem he) with hkey | hkey
      · exact hkey ▸ Std.OrientedCmp.gt_iff_lt.mp hcmp
      · obtain ⟨e', he', heq⟩ := List.mem_map.mp hkey
        exact heq ▸ hhead e' he'

omit [Std.LawfulEqCmp cmp] in
/-- What comes no later than the first key is none of the other ones. -/
theorem IsSortedBy.notMem_keys {e : κ × ν} {l : List (κ × ν)} (h : IsSortedBy cmp (e :: l))
    (hk : cmp k e.1 ≠ .gt) : k ∉ l.map Prod.fst := by
  intro hmem
  obtain ⟨e', he', rfl⟩ := List.mem_map.mp hmem
  exact hk (Std.OrientedCmp.gt_iff_lt.mpr ((List.pairwise_cons.mp h).1 e' he'))

/-- **What is in a sorted list after an entry was put in**: the entries under other keys, and under
this key the value joined to the one that was there. -/
theorem mem_insertSorted_cases {l : List (κ × ν)} {e : κ × ν} (hl : IsSortedBy cmp l)
    (h : e ∈ insertSorted cmp join k v l) :
    e ∈ l ∧ e.1 ≠ k ∨ (∃ x, (k, x) ∈ l ∧ e = (k, join x v)) ∨ k ∉ l.map Prod.fst ∧ e = (k, v) := by
  induction l with
  | nil => exact .inr (.inr ⟨List.not_mem_nil, List.mem_singleton.mp h⟩)
  | cons head l ih =>
    obtain ⟨a, x⟩ := head
    have hne (hk : cmp k a ≠ .eq) : k ≠ a := fun heq => hk (heq ▸ Std.ReflCmp.compare_self)
    have hnot (hnew : k ∉ l.map Prod.fst) (hk : cmp k a ≠ .eq) :
        k ∉ ((a, x) :: l).map Prod.fst := by
      rw [List.map_cons, List.mem_cons, not_or]
      exact ⟨hne hk, hnew⟩
    cases hcmp : cmp k a with
    | lt =>
      rw [insertSorted, hcmp] at h
      have hnew := hnot (hl.notMem_keys (k := k) (by simp [hcmp])) (by simp [hcmp])
      rcases List.mem_cons.mp h with rfl | hold
      · exact .inr (.inr ⟨hnew, rfl⟩)
      · exact .inl ⟨hold, fun heq => hnew (heq ▸ List.mem_map_of_mem hold)⟩
    | eq =>
      obtain rfl := Std.LawfulEqCmp.eq_of_compare hcmp
      rw [insertSorted, hcmp] at h
      rcases List.mem_cons.mp h with rfl | hold
      · exact .inr (.inl ⟨x, List.mem_cons_self, rfl⟩)
      · have hnew := hl.notMem_keys (k := k) (by simp [hcmp])
        exact .inl ⟨List.mem_cons_of_mem _ hold,
          fun heq => hnew (heq ▸ List.mem_map_of_mem hold)⟩
    | gt =>
      rw [insertSorted, hcmp] at h
      rcases List.mem_cons.mp h with rfl | h
      · exact .inl ⟨List.mem_cons_self, (hne (by simp [hcmp])).symm⟩
      · rcases ih (List.pairwise_cons.mp hl).2 h with ⟨h, hkey⟩ | ⟨y, hy, rfl⟩ | ⟨hnew, rfl⟩
        · exact .inl ⟨List.mem_cons_of_mem _ h, hkey⟩
        · exact .inr (.inl ⟨y, List.mem_cons_of_mem _ hy, rfl⟩)
        · exact .inr (.inr ⟨hnot hnew (by simp [hcmp]), rfl⟩)

/-! ### Entries one after another -/

section Gathered

variable {ι : Type} {key : ι → κ} {value : ι → ν} {qs : List ι}

/-- What comes of entries that are put in one after another. -/
def gathered (cmp : κ → κ → Ordering) (join : ν → ν → ν) (key : ι → κ) (value : ι → ν)
    (qs : List ι) : List (κ × ν) :=
  qs.foldl (fun known q => insertSorted cmp join (key q) (value q) known) []

omit [Std.LawfulEqCmp cmp] [Std.TransCmp cmp] in
theorem gathered_concat (q : ι) : gathered cmp join key value (qs ++ [q]) =
    insertSorted cmp join (key q) (value q) (gathered cmp join key value qs) := by
  rw [gathered, gathered, List.foldl_concat]

/-- What is gathered is sorted. -/
theorem isSortedBy_gathered : IsSortedBy cmp (gathered cmp join key value qs) := by
  induction qs using List.reverseRecOn with
  | nil => exact .nil
  | append_singleton qs q ih =>
    rw [gathered_concat]
    exact isSortedBy_insertSorted ih

omit [Std.TransCmp cmp] in
/-- What is gathered has all keys. -/
theorem mem_keys_gathered {a : κ} :
    a ∈ (gathered cmp join key value qs).map Prod.fst ↔ a ∈ qs.map key := by
  induction qs using List.reverseRecOn with
  | nil => exact Iff.rfl
  | append_singleton qs q ih =>
    rw [gathered_concat, mem_keys_insertSorted, List.map_append, List.mem_append, ih, or_comm,
      List.map_singleton, List.mem_singleton]

end Gathered

end Entries

/-! ### Collections -/

section Collections

variable {ι σ β γ : Type} {w : World} {add : σ → Outcome β → Except Stop σ} {value : γ → β}
  {job : γ → Job β} {start : σ} {xs : List γ}

/-- What parts ended with that came to their values. -/
def cameTo (value : γ → β) (came : List γ) : List (γ × Outcome β) :=
  came.map fun x => (x, .returned (value x))

theorem collect_eq_foldlM (completions : List (ι × Outcome β)) :
    collect add start completions = (completions.map Prod.snd).foldlM add start := by
  rw [collect, List.foldlM_map]

theorem collect_concat_ok {completions : List (ι × Outcome β)} {c : ι × Outcome β} {last : σ} :
    collect add start (completions ++ [c]) = .ok last ↔
      ∃ known, collect add start completions = .ok known ∧ add known c.2 = .ok last := by
  unfold collect
  rw [List.foldlM_append]
  cases completions.foldlM (fun known c => add known c.2) start with
  | error stop => simp [bind, Except.bind]
  | ok known => cases hadd : add known c.2 <;> simp [bind, Except.bind, pure, Except.pure, hadd]

/-- **What a collection is made of**, if each part has one value: of some of these values, of each
at most once, and unless it ends early, of all of them. -/
theorem gives_collectAll (hjob : ∀ x, (job x).Settles w (.returned (value x)))
    {o : Outcome (Except Stop σ)} (h : (collectAll add start (xs.map job)).Gives w o) :
    ∃ found, o = .returned found ∧ ∃ came, came.Subperm xs ∧
      found = collect add start (cameTo value came) ∧ ∀ last, found = .ok last → came.Perm xs := by
  obtain ⟨completions, came, hcame, hsub, hthrough, hend⟩ := h.of_race hjob
  have hsame : collect add start completions = collect add start (cameTo value came) := by
    rw [collect_eq_foldlM, collect_eq_foldlM, hcame, cameTo, List.map_map, List.map_map]
    rfl
  refine ⟨_, hend.of_done, came, hsub, hsame, fun last hlast => hthrough.resolve_right ?_⟩
  rw [stops, hlast]
  exact Bool.false_ne_true

end Collections

end Check

end Rehearsal
