import Rehearsal.Text.Blank
import Mathlib.Data.List.DropRight

/-!
# What trimming leaves

What stands at the end of a text is dropped up to a character that stays, and nothing in front of
such a character is touched. `Text.dropEndWhile` is Mathlib's `List.rdropWhile`.

## Main results

* `Text.dropEndWhile_append`: a character that stays keeps what stands in front of it
* `Text.trim_append`: so it does when both ends are trimmed
* `Text.exists_trim`, `Text.trim_of_blanks`: what trimming removes, and what it leaves
-/

namespace Rehearsal

namespace Text

section DropEndWhile

variable {α : Type} {p : α → Bool}

theorem dropEndWhile_eq_rdropWhile (l : List α) : dropEndWhile p l = l.rdropWhile p := rfl

@[simp] theorem dropEndWhile_nil : dropEndWhile p [] = [] := rfl

theorem dropEndWhile_eq_nil_iff {l : List α} : dropEndWhile p l = [] ↔ ∀ x ∈ l, p x = true :=
  List.rdropWhile_eq_nil_iff

/-- What is left is the beginning of the text. -/
theorem dropEndWhile_isPrefix (l : List α) : dropEndWhile p l <+: l :=
  List.rdropWhile_prefix p l

/-- A character that stays keeps what stands in front of it. -/
theorem dropEndWhile_append {l r : List α} (h : dropEndWhile p r ≠ []) :
    dropEndWhile p (l ++ r) = l ++ dropEndWhile p r := by
  induction r using List.reverseRecOn with
  | nil => exact absurd rfl h
  | append_singleton r x ih =>
    simp only [dropEndWhile_eq_rdropWhile] at h ih ⊢
    rw [← List.append_assoc]
    by_cases hx : p x
    · rw [List.rdropWhile_concat_pos _ _ _ hx] at h ⊢
      rw [List.rdropWhile_concat_pos _ _ _ hx, ih h]
    · rw [List.rdropWhile_concat_neg _ _ _ hx, List.rdropWhile_concat_neg _ _ _ hx,
        List.append_assoc]

theorem dropEndWhile_cons {x : α} (h : p x = false) (l : List α) :
    dropEndWhile p (x :: l) = x :: dropEndWhile p l := by
  by_cases hl : dropEndWhile p l = []
  · have hnone : ∀ y ∈ l.reverse, p y = true := fun y hy =>
      dropEndWhile_eq_nil_iff.mp hl y (List.mem_reverse.mp hy)
    rw [hl, dropEndWhile, List.reverse_cons, List.dropWhile_append_of_pos hnone,
      List.dropWhile_cons_of_neg (by simp [h])]
    rfl
  · exact dropEndWhile_append (l := [x]) hl

theorem dropEndWhile_append_of_pos {l back : List α} (h : ∀ x ∈ back, p x = true) :
    dropEndWhile p (l ++ back) = dropEndWhile p l := by
  rw [dropEndWhile, List.reverse_append,
    List.dropWhile_append_of_pos fun x hx => h x (List.mem_reverse.mp hx)]
  rfl

end DropEndWhile

/-- A character that stays keeps what stands around it, up to the two ends. -/
theorem trim_append {c : Char} (h : isBlank c = false) (front back : List Char) :
    trim (front ++ c :: back) =
      front.dropWhile isBlank ++ c :: dropEndWhile isBlank back := by
  have hcons := dropEndWhile_cons h back
  have hstays : dropEndWhile isBlank (c :: back) ≠ [] := hcons ▸ List.cons_ne_nil _ _
  rw [trim]
  by_cases hfront : ∀ x ∈ front, isBlank x = true
  · rw [List.dropWhile_append_of_pos hfront, List.dropWhile_cons_of_neg (by simp [h]), hcons,
      List.dropWhile_eq_nil_iff.mpr hfront, List.nil_append]
  · rw [List.dropWhile_append, if_neg (by simpa [List.isEmpty_iff] using hfront),
      dropEndWhile_append hstays, hcons]

/-- The first character that is left is no white space. -/
theorem isBlank_of_head_trim {c : Char} {cs rest : List Char} (h : trim cs = c :: rest) :
    isBlank c = false := by
  have hprefix : c :: rest <+: cs.dropWhile isBlank := h ▸ dropEndWhile_isPrefix _
  obtain ⟨back, hback⟩ := hprefix
  simpa [← hback] using List.head?_dropWhile_not isBlank cs

/-- The last character that is left is no white space. -/
theorem isBlank_of_last_trim {c : Char} {cs front : List Char} (h : trim cs = front ++ [c]) :
    isBlank c = false := by
  have hlast := List.head?_dropWhile_not isBlank (cs.dropWhile isBlank).reverse
  rw [trim, dropEndWhile] at h
  rw [← List.reverse_reverse ((cs.dropWhile isBlank).reverse.dropWhile isBlank), h] at hlast
  simpa using hlast

/-- A text that neither begins nor ends with white space is left as it is. -/
theorem trim_eq_self_of_ends {cs : List Char} (hhead : ∀ c rest, cs = c :: rest → isBlank c = false)
    (hlast : ∀ front c, cs = front ++ [c] → isBlank c = false) : trim cs = cs := by
  have hfront : cs.dropWhile isBlank = cs := by
    cases cs with
    | nil => rfl
    | cons c cs => rw [List.dropWhile_cons_of_neg (by simp [hhead c cs rfl])]
  rw [trim, hfront, dropEndWhile_eq_rdropWhile, List.rdropWhile_eq_self_iff]
  intro hne hblank
  have hend := hlast cs.dropLast (cs.getLast hne) (List.dropLast_append_getLast hne).symm
  exact Bool.false_ne_true (hend.symm.trans hblank)

theorem trim_eq_self {cs : List Char} (h : ∀ c ∈ cs, isBlank c = false) : trim cs = cs :=
  trim_eq_self_of_ends (fun c _ heq => h c (heq ▸ List.mem_cons_self))
    fun _ c heq => h c (heq ▸ List.mem_concat_self)

/-- What trimming removes is white space at the two ends. -/
theorem exists_trim (cs : List Char) : ∃ front back, cs = front ++ trim cs ++ back ∧
    (∀ c ∈ front, isBlank c = true) ∧ ∀ c ∈ back, isBlank c = true := by
  refine ⟨cs.takeWhile isBlank, (cs.dropWhile isBlank).rtakeWhile isBlank, ?_,
    fun c hc => List.mem_takeWhile_imp hc, fun c hc => List.mem_rtakeWhile_imp hc⟩
  rw [trim, dropEndWhile_eq_rdropWhile, List.append_assoc, List.rdropWhile_append_rtakeWhile,
    List.takeWhile_append_dropWhile]

/-- A text without white space is what is left of it between white space. -/
theorem trim_of_blanks {front core back : List Char} (hfront : ∀ c ∈ front, isBlank c = true)
    (hcore : ∀ c ∈ core, isBlank c = false) (hback : ∀ c ∈ back, isBlank c = true) :
    trim (front ++ core ++ back) = core := by
  cases core with
  | nil =>
    rw [trim, List.append_nil, List.dropWhile_append_of_pos hfront,
      List.dropWhile_eq_nil_iff.mpr hback, dropEndWhile_nil]
  | cons c core =>
    have hself := trim_eq_self hcore
    rw [trim, List.dropWhile_cons_of_neg (by simp [hcore c List.mem_cons_self])] at hself
    rw [trim, List.append_assoc, List.dropWhile_append_of_pos hfront, List.cons_append,
      List.dropWhile_cons_of_neg (by simp [hcore c List.mem_cons_self]), ← List.cons_append,
      dropEndWhile_append_of_pos hback, hself]

/-- What is left are characters of the text. -/
theorem trim_sublist (cs : List Char) : (trim cs).Sublist cs :=
  (dropEndWhile_isPrefix _).sublist.trans (List.dropWhile_sublist _)

end Text

end Rehearsal
