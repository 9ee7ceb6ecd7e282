import Rehearsal.Error.Scan
import Rehearsal.Proofs.Text.Line
import Mathlib.Data.List.Destutter
import Mathlib.Data.List.Sort
import Mathlib.Order.Bounds.Basic

/-!
# What a chain of errors tells

The text of a chain joins texts of its layers. A layer is left out if the text that was kept last
holds its text, and that is not always the text of the layer before: where layers are left out one
after another, all of them are compared with the same text. A layer that says nothing is always left
out, unless it is the outermost one. A text that is held by an earlier one only, with another text
kept in between, is told again.

Which layers are kept is described by their positions, without saying how they are found; there is
one such description for each chain. It is carried along the layers from the outermost one, each of
which is visited once.

## Main definitions

* `ErrorChain.visit`: what is kept after one more layer
* `ErrorChain.IsTold`: the text that is kept last before a layer holds a text
* `ErrorChain.IsSelection`: the positions of the layers that are kept
* `ErrorChain.textsAt`: the texts at positions

## Main results

* `ErrorChain.kept_cons`: the layers are visited one after another
* `ErrorChain.kept_eq_destutter`: no text that is kept holds the one that is kept after it
* `ErrorChain.IsSelection.unique`: there is one selection of layers at most
* `ErrorChain.exists_isSelection`: what is kept is one
* `ErrorChain.render_loses_nothing`: what the text of a chain tells
-/

namespace Rehearsal

namespace ErrorChain

variable {layers : List String} {positions positions' : List Nat} {i : Nat} {text : String}

/-! ### Layer by layer -/

/-- What is kept after one more layer, if `texts` was kept of those before. -/
def visit (texts : List String) (text : String) : List String :=
  if texts.getLast?.any fun last => Text.mentions last text then texts else texts ++ [text]

theorem visit_concat (before : List String) (last text : String) :
    visit (before ++ [last]) text =
      if Text.mentions last text then before ++ [last] else before ++ [last] ++ [text] := by
  rw [visit, List.getLast?_concat, Option.any_some]

theorem foldl_visit (before : List String) (last : String) (rest : List String) :
    rest.foldl visit (before ++ [last]) = before ++ last :: keptAfter last rest := by
  induction rest generalizing before last with
  | nil => rfl
  | cons text rest ih =>
    rw [List.foldl_cons, visit_concat, keptAfter]
    split
    next => exact ih before last
    next => rw [ih (before ++ [last]) text, List.append_assoc, List.singleton_append]

/-- **Each layer is visited once**, from the one after the outermost to the innermost. -/
theorem kept_cons (first : String) (rest : List String) :
    kept (first :: rest) = rest.foldl visit [first] :=
  (foldl_visit [] first rest).symm

theorem kept_concat (first : String) (rest : List String) (text : String) :
    kept (first :: rest ++ [text]) = visit (kept (first :: rest)) text := by
  rw [List.cons_append, kept_cons, kept_cons, List.foldl_concat]

theorem destutter'_eq (last : String) (rest : List String) :
    rest.destutter' (fun last text => ¬text.toList <:+: last.toList) last =
      last :: keptAfter last rest := by
  induction rest generalizing last with
  | nil => rfl
  | cons text rest ih =>
    rw [List.destutter'_cons, keptAfter, ih, ih]
    simp only [ite_not, Text.mentions_iff]
    split <;> rfl

/-- **No text that is kept holds the next one**: greedily, one text after another is kept so that
this is true. -/
theorem kept_eq_destutter (layers : List String) :
    kept layers = layers.destutter fun last text => ¬text.toList <:+: last.toList := by
  cases layers with
  | nil => rfl
  | cons first rest => exact (destutter'_eq first rest).symm

/-! ### Which layers are kept -/

/-- The last text that is kept before the layer at `i` holds the text. -/
def IsTold (layers : List String) (positions : List Nat) (i : Nat) (text : String) : Prop :=
  ∃ j last, IsGreatest {k | k ∈ positions ∧ k < i} j ∧ layers[j]? = some last ∧
    text.toList <:+: last.toList

/-- **The positions of the layers that are kept.** -/
structure IsSelection (layers : List String) (positions : List Nat) : Prop where
  /-- The layers keep their order, and none comes twice. -/
  sorted : positions.Pairwise (· < ·)
  /-- The outermost layer comes first. -/
  head : positions.head? = some 0
  /-- Every position is one of a layer. -/
  inside : ∀ i ∈ positions, i < layers.length
  /-- A layer is left out exactly if the last text that is kept before it holds its text. -/
  omits_iff : ∀ i text, layers[i]? = some text → (i ∉ positions ↔ IsTold layers positions i text)

/-- The texts of the layers at some positions. -/
def textsAt (layers : List String) (positions : List Nat) : List String :=
  positions.filterMap (layers[·]?)

/-- What is told before a layer is a matter of the layers before it that are kept. -/
theorem isTold_congr (h : ∀ k < i, k ∈ positions ↔ k ∈ positions') :
    IsTold layers positions i text ↔ IsTold layers positions' i text := by
  have hsame : {k | k ∈ positions ∧ k < i} = {k | k ∈ positions' ∧ k < i} :=
    Set.ext fun k => and_congr_left (h k)
  rw [IsTold, IsTold, hsame]

/-- What is told before a layer does not depend on what comes after. -/
theorem isTold_append (more : List String) (h : i ≤ layers.length) :
    IsTold (layers ++ more) positions i text ↔ IsTold layers positions i text := by
  refine exists_congr fun j => exists_congr fun last => and_congr_right fun hlatest => ?_
  rw [List.getElem?_append_left (Nat.lt_of_lt_of_le hlatest.1.2 h)]

namespace IsSelection

/-- **There is one selection of layers at most**, since whether a layer is kept is decided by those
before it. -/
theorem unique (h : IsSelection layers positions) (h' : IsSelection layers positions') :
    positions = positions' := by
  refine h.sorted.eq_of_mem_iff h'.sorted fun i => ?_
  induction i using Nat.strongRecOn with
  | ind i ih =>
    by_cases hi : i < layers.length
    · have htext : layers[i]? = some layers[i] := List.getElem?_eq_getElem hi
      rw [← not_iff_not, h.omits_iff i _ htext, h'.omits_iff i _ htext]
      exact isTold_congr ih
    · exact iff_of_false (fun hmem => hi (h.inside i hmem)) fun hmem => hi (h'.inside i hmem)

/-- The last position, the text there, and what is before it. -/
theorem exists_last (h : IsSelection layers positions) :
    ∃ front j last, positions = front ++ [j] ∧ layers[j]? = some last ∧
      textsAt layers positions = textsAt layers front ++ [last] := by
  rcases List.eq_nil_or_concat' positions with rfl | ⟨front, j, rfl⟩
  · cases h.head
  · have hj : j < layers.length := h.inside j (List.mem_append_right front List.mem_cons_self)
    have hlast : layers[j]? = some layers[j] := List.getElem?_eq_getElem hj
    refine ⟨front, j, layers[j], rfl, hlast, ?_⟩
    rw [textsAt, List.filterMap_append, List.filterMap_cons_some hlast, List.filterMap_nil, textsAt]

/-- What is told after all layers is what the last text that is kept holds. -/
theorem isTold_iff {front : List Nat} {j : Nat} {last : String}
    (h : IsSelection layers (front ++ [j])) (hlast : layers[j]? = some last) :
    IsTold layers (front ++ [j]) layers.length text ↔ text.toList <:+: last.toList := by
  have hmem : j ∈ front ++ [j] := List.mem_append_right front List.mem_cons_self
  have hlatest : IsGreatest {k | k ∈ front ++ [j] ∧ k < layers.length} j := by
    refine ⟨⟨hmem, h.inside j hmem⟩, fun k hk => ?_⟩
    rcases List.mem_append.mp hk.1 with hfront | hj
    · exact ((List.pairwise_append.mp h.sorted).2.2 k hfront j List.mem_cons_self).le
    · exact (List.mem_singleton.mp hj).le
  refine ⟨?_, fun hheld => ⟨j, last, hlatest, hlast, hheld⟩⟩
  rintro ⟨j', last', hlatest', hlast', hheld⟩
  obtain rfl := hlatest.unique hlatest'
  obtain rfl : last = last' := Option.some_injective _ (hlast.symm.trans hlast')
  exact hheld

/-- The positions for one more layer are those for the layers before it, and its own one unless its
text is told. -/
theorem concat (h : IsSelection layers positions) (hsorted : positions'.Pairwise (· < ·))
    (hhead : positions'.head? = some 0) (hinside : ∀ i ∈ positions', i ≤ layers.length)
    (hbefore : ∀ k < layers.length, k ∈ positions' ↔ k ∈ positions)
    (hlast : layers.length ∉ positions' ↔ IsTold layers positions layers.length text) :
    IsSelection (layers ++ [text]) positions' where
  sorted := hsorted
  head := hhead
  inside i hi := by
    rw [List.length_append, List.length_singleton]
    exact Nat.lt_succ_of_le (hinside i hi)
  omits_iff i t ht := by
    obtain ⟨hi, -⟩ := List.getElem?_eq_some_iff.mp ht
    rw [List.length_append, List.length_singleton] at hi
    have hle : i ≤ layers.length := Nat.le_of_lt_succ hi
    rw [isTold_append [text] hle, isTold_congr fun k hk => hbefore k (Nat.lt_of_lt_of_le hk hle)]
    rcases Nat.lt_or_eq_of_le hle with hlt | rfl
    · rw [List.getElem?_append_left hlt] at ht
      rw [hbefore i hlt]
      exact h.omits_iff i t ht
    · rw [List.getElem?_concat_length] at ht
      obtain rfl := Option.some_injective _ ht
      exact hlast

/-- The texts at positions stay where they are when a layer comes after them. -/
theorem textsAt_append (h : ∀ i ∈ positions, i < layers.length) (more : List String) :
    textsAt (layers ++ more) positions = textsAt layers positions :=
  List.filterMap_congr fun i hi => List.getElem?_append_left (h i hi)

/-- **One more layer**: if what is kept of the layers before it is a selection of them, what is kept
after it is one with it. -/
theorem exists_visit (h : IsSelection layers positions) (text : String) :
    ∃ positions', IsSelection (layers ++ [text]) positions' ∧
      textsAt (layers ++ [text]) positions' = visit (textsAt layers positions) text := by
  obtain ⟨front, j, last, rfl, hlast, htexts⟩ := h.exists_last
  have hnew : layers.length ∉ front ++ [j] := fun hmem => Nat.lt_irrefl _ (h.inside _ hmem)
  rw [htexts, visit_concat, ← htexts]
  by_cases hheld : text.toList <:+: last.toList
  · -- The layer is left out, and the positions are those from before.
    refine ⟨front ++ [j], h.concat h.sorted h.head (fun i hi => (h.inside i hi).le)
      (fun k _ => Iff.rfl) (iff_of_true hnew ((h.isTold_iff hlast).mpr hheld)), ?_⟩
    rw [if_pos (Text.mentions_iff.mpr hheld), textsAt_append h.inside]
  · -- The layer is kept, at a position after all others.
    refine ⟨front ++ [j] ++ [layers.length], h.concat ?_ ?_ ?_ ?_ ?_, ?_⟩
    · refine List.pairwise_append.mpr ⟨h.sorted, List.pairwise_singleton _ _, fun i hi k hk => ?_⟩
      rw [List.mem_singleton.mp hk]
      exact h.inside i hi
    · rw [List.head?_append, h.head, Option.some_or]
    · intro i hi
      rcases List.mem_append.mp hi with hi | hi
      · exact (h.inside i hi).le
      · exact (List.mem_singleton.mp hi).le
    · intro k hk
      rw [List.mem_append, List.mem_singleton]
      exact or_iff_left hk.ne
    · refine iff_of_false (fun hleft => hleft (List.mem_append_right _ List.mem_cons_self)) ?_
      exact fun htold => hheld ((h.isTold_iff hlast).mp htold)
    · rw [if_neg fun hmentions => hheld (Text.mentions_iff.mp hmentions), textsAt,
        List.filterMap_append, ← textsAt, textsAt_append h.inside, List.filterMap_cons_some
          List.getElem?_concat_length, List.filterMap_nil]

/-- The text of each layer is a part of what the texts at the positions are joined to. -/
theorem infix_intercalate (h : IsSelection layers positions) (separator : String)
    (htext : text ∈ layers) :
    text.toList <:+: (separator.intercalate (textsAt layers positions)).toList := by
  obtain ⟨i, hi⟩ := List.mem_iff_getElem?.mp htext
  have hkept : ∀ {k t}, k ∈ positions → layers[k]? = some t →
      t.toList <:+: (separator.intercalate (textsAt layers positions)).toList := fun hk ht =>
    Text.infix_intercalate_of_mem separator (List.mem_filterMap.mpr ⟨_, hk, ht⟩)
  by_cases hmem : i ∈ positions
  · exact hkept hmem hi
  · obtain ⟨j, last, hlatest, hlast, hheld⟩ := (h.omits_iff i text hi).mp hmem
    exact hheld.trans (hkept hlatest.1.1 hlast)

end IsSelection

/-- **What is kept is a selection of the layers.** -/
theorem exists_isSelection (first : String) (rest : List String) :
    ∃ positions, IsSelection (first :: rest) positions ∧
      textsAt (first :: rest) positions = kept (first :: rest) := by
  induction rest using List.reverseRecOn with
  | nil =>
    refine ⟨[0], ⟨List.pairwise_singleton _ _, rfl, by simp, fun i text ht => ?_⟩, rfl⟩
    obtain rfl : i = 0 := by
      simpa using (List.getElem?_eq_some_iff.mp ht).1
    refine iff_of_false (fun hleft => hleft List.mem_cons_self) ?_
    rintro ⟨j, -, hlatest, -⟩
    exact Nat.not_lt_zero j hlatest.1.2
  | append_singleton rest text ih =>
    obtain ⟨positions, h, htexts⟩ := ih
    rw [← List.cons_append, kept_concat, ← htexts]
    exact h.exists_visit text

/-- Layers that are left out one after another are compared with the same text, and a text may be
told again once another one stands in between. -/
example : kept ["a b", "b", "a", "c", "b"] = ["a b", "c", "b"] := by decide

/-! ### The text of a chain -/

theorem keptAfter_sublist (last : String) (rest : List String) :
    (keptAfter last rest).Sublist rest := by
  have h := rest.destutter'_sublist (fun last text => ¬text.toList <:+: last.toList) last
  rwa [destutter'_eq, List.cons_sublist_cons] at h

/-- A layer right below the outermost one is left out if that one holds its text. -/
theorem IsSelection.one_not_mem {first second : String} {rest : List String}
    (h : IsSelection (first :: second :: rest) positions)
    (hheld : second.toList <:+: first.toList) : 1 ∉ positions := by
  have hhead : 0 ∈ positions := List.mem_of_head? h.head
  have hlatest : IsGreatest {k | k ∈ positions ∧ k < 1} 0 :=
    ⟨⟨hhead, Nat.one_pos⟩, fun k hk => Nat.le_of_lt_succ hk.2⟩
  exact (h.omits_iff 1 second rfl).mpr ⟨0, first, hlatest, rfl, hheld⟩

/-- What a failed check says ends what is said of the scan that it fails. -/
theorem infix_message_checker (name : String) (check : CheckError) :
    check.message.toList <:+: (ScanError.checker name check).message.toList := by
  have hends : (ScanError.checker name check).message =
      "checker " ++ name ++ " failed: " ++ check.message := rfl
  rw [hends, String.toList_append]
  exact (List.suffix_append _ _).isInfix

/-- **The text of a chain loses nothing.** The layers that it joins are those of the one selection
there is: they stand in order, the outermost one comes first, and a layer is left out exactly if the
last text that is kept before it holds its text. They are found by visiting each layer once. No text
that is kept holds the next one that is, and every text of a layer is a part of the whole.

So where a check fails a scan, what the check says is told by the outermost layer and not told again
by its own one, which is left out: all that follows are causes. -/
theorem render_loses_nothing :
    (∀ (first : String) (rest : List String), ∃ positions,
      IsSelection (first :: rest) positions ∧
      (∀ others, IsSelection (first :: rest) others → others = positions) ∧
      render (first :: rest) = ": ".intercalate (textsAt (first :: rest) positions) ∧
      textsAt (first :: rest) positions = rest.foldl visit [first] ∧
      (textsAt (first :: rest) positions).IsChain
        (fun text next => ¬next.toList <:+: text.toList) ∧
      ∀ text ∈ first :: rest, text.toList <:+: (render (first :: rest)).toList) ∧
    ∀ (name : String) (check : CheckError), ∃ positions, ∃ causes told : List String,
      check.layers = check.message :: causes ∧ told.Sublist causes ∧
      IsSelection (ScanError.checker name check).layers positions ∧ 1 ∉ positions ∧
      textsAt (ScanError.checker name check).layers positions =
        s!"checker {name} failed: {check.message}" :: told ∧
      (ScanError.checker name check).chain =
        ": ".intercalate (s!"checker {name} failed: {check.message}" :: told) := by
  refine ⟨fun first rest => ?_, fun name check => ?_⟩
  · obtain ⟨positions, h, htexts⟩ := exists_isSelection first rest
    have hrender : render (first :: rest) =
        ": ".intercalate (textsAt (first :: rest) positions) := by
      rw [render, htexts]
    refine ⟨positions, h, fun others h' => h'.unique h, hrender, ?_, ?_, fun text htext => ?_⟩
    · rw [htexts, kept_cons]
    · rw [htexts, kept_eq_destutter]
      exact List.isChain_destutter _ _
    · rw [hrender]
      exact h.infix_intercalate ": " htext
  · obtain ⟨causes, hlayers⟩ : ∃ causes, check.layers = check.message :: causes := by
      cases check <;> exact ⟨_, rfl⟩
    have hheld := infix_message_checker name check
    have hkept : kept (ScanError.checker name check).layers =
        s!"checker {name} failed: {check.message}" ::
          keptAfter (ScanError.checker name check).message causes := by
      rw [ScanError.layers, hlayers, kept, keptAfter, if_pos (Text.mentions_iff.mpr hheld)]
      rfl
    obtain ⟨positions, h, htexts⟩ :=
      exists_isSelection (ScanError.checker name check).message check.layers
    refine ⟨positions, causes, _, hlayers, keptAfter_sublist _ causes, h, ?_,
      htexts.trans hkept, ?_⟩
    · rw [hlayers] at h
      exact h.one_not_mem hheld
    · rw [ScanError.chain, render, hkept]

end ErrorChain

end Rehearsal
