import Rehearsal.Domain.Name
import Rehearsal.Proofs.Domain.Normal
import Rehearsal.Proofs.Text.Case

/-!
# Spellings of a name

A name may be written with or without the dot of the root. Its normal form has no such dot, so this
does not matter when the normal form is compared with a keyword.

The normal form of a name whose last label ends with a dot is different: there the dot that is
dropped belongs to the label, and the backslash in front of it is left behind. But then both normal
forms have a backslash in them, and no keyword has one.

## Main definitions

* `DomainName.IsProper`: names with labels that may be written
* `DomainName.written`: the labels in their written form

## Main results

* `DomainName.isProper_of_ofText?`: every name that is read is proper
* `DomainName.normalize_render_eq_iff`: the dot of the root does not matter
-/

namespace Rehearsal

namespace DomainName

/-- The labels are such as are written. -/
def IsProper (name : DomainName) : Prop := ∀ label ∈ name.labels, checkLabel label = .ok label

/-! ### Names that are read -/

theorem checkLabel_eq_self {label label' : List Char} (h : checkLabel label = .ok label') :
    label' = label := by
  unfold checkLabel at h
  dsimp only at h
  split at h
  · cases h
  · split at h
    · cases h
    · split at h
      · exact (Except.ok.inj h).symm
      · cases h

theorem exists_of_bind_eq_ok {ε α β : Type} {x : Except ε α} {f : α → Except ε β} {value : β}
    (h : x >>= f = .ok value) : ∃ a, x = .ok a ∧ f a = .ok value := by
  cases x with
  | error e => cases h
  | ok a => exact ⟨a, rfl, h⟩

theorem appendLabel_proper {done done' : List (List Char)} {label : List Char}
    (h : appendLabel done label = .ok done') (hdone : ∀ l ∈ done, checkLabel l = .ok l) :
    ∀ l ∈ done', checkLabel l = .ok l := by
  obtain ⟨label', hlabel, hrest⟩ := exists_of_bind_eq_ok h
  obtain rfl := checkLabel_eq_self hlabel
  dsimp only at hrest
  split at hrest
  · cases hrest
  · obtain rfl := Except.ok.inj hrest
    exact List.forall_mem_append.mpr ⟨hdone, List.forall_mem_singleton.mpr hlabel⟩

theorem readLabels_proper {done : List (List Char)} {label cs : List Char} {name : DomainName}
    (h : readLabels done label cs = .ok name) (hdone : ∀ l ∈ done, checkLabel l = .ok l) :
    name.IsProper := by
  fun_induction readLabels done label cs with
  | case1 done label =>
    obtain rfl := Except.ok.inj h
    exact hdone
  | case2 done label =>
    obtain ⟨done', hdone', hname⟩ := exists_of_bind_eq_ok h
    obtain rfl := Except.ok.inj hname
    exact appendLabel_proper hdone' hdone
  | case3 done label cs ih =>
    obtain ⟨done', hdone', hrest⟩ := exists_of_bind_eq_ok h
    exact ih done' hrest (appendLabel_proper hdone' hdone)
  | case4 done label ih => exact ih h hdone
  | case5 done label c _ d e rest ih =>
    obtain ⟨first, -, h⟩ := exists_of_bind_eq_ok h
    obtain ⟨second, -, h⟩ := exists_of_bind_eq_ok h
    obtain ⟨third, -, h⟩ := exists_of_bind_eq_ok h
    exact ih first second third h hdone
  | case6 done label c _ d ih =>
    obtain ⟨first, -, h⟩ := exists_of_bind_eq_ok h
    obtain ⟨second, -, h⟩ := exists_of_bind_eq_ok h
    exact ih h hdone
  | case7 done label c _ ih =>
    obtain ⟨first, -, h⟩ := exists_of_bind_eq_ok h
    exact ih h hdone
  | case8 done label c cs _ ih => exact ih h hdone
  | case9 => cases h
  | case10 done label c cs _ _ _ _ ih => exact ih h hdone

/-- **Every name that is read is proper.** -/
theorem isProper_of_ofText? {text : String} {name : DomainName} (h : ofText? text = .ok name) :
    name.IsProper := by
  unfold ofText? at h
  split at h
  · obtain rfl := Except.ok.inj h
    exact fun _ hlabel => absurd hlabel List.not_mem_nil
  · obtain rfl := Except.ok.inj h
    exact fun _ hlabel => absurd hlabel List.not_mem_nil
  · exact readLabels_proper h fun _ hlabel => absurd hlabel List.not_mem_nil

/-! ### The dot of the root -/

/-- The labels in their written form, with dots between them. -/
def written (labels : List (List Char)) : List Char :=
  ['.'].intercalate (labels.map fun label => label.flatMap escapeChar)

theorem toList_render (name : DomainName) :
    name.render.toList = written name.labels ++ if name.isAbsolute then ['.'] else [] := by
  rw [render, String.toList_append, String.toList_intercalate, List.map_map, written]
  refine congrArg₂ _ (congrArg _ (List.map_congr_left fun label _ => String.toList_ofList)) ?_
  split <;> rfl

theorem written_cons (label : List Char) {labels : List (List Char)} (h : labels ≠ []) :
    written (label :: labels) = label.flatMap escapeChar ++ '.' :: written labels := by
  rw [written, List.map_cons, List.intercalate_cons_of_ne_nil (by simpa using h), ← written,
    List.append_assoc, List.singleton_append]

theorem ne_nil_of_checkLabel {label : List Char} (h : checkLabel label = .ok label) :
    label ≠ [] := by
  rintro rfl
  cases h

/-- Letters and digits are printable, and take one byte. -/
theorem toNat_of_isAlphanum {c : Char} (h : c.isAlphanum = true) :
    0x2A ≤ c.toNat ∧ c.toNat < 0x80 := by
  have hbetween {low high : Char} (hc : low.val ≤ c.val ∧ c.val ≤ high.val)
      (hlow : 0x2A ≤ low.toNat) (hhigh : high.toNat < 0x80) : 0x2A ≤ c.toNat ∧ c.toNat < 0x80 :=
    ⟨hlow.trans (UInt32.le_iff_toNat_le.mp hc.1),
      (UInt32.le_iff_toNat_le.mp hc.2).trans_lt hhigh⟩
  rcases Bool.or_eq_true_iff.mp h with hletter | hdigit
  · rcases Bool.or_eq_true_iff.mp hletter with hupper | hlower
    · exact hbetween (of_decide_eq_true hupper) (by decide) (by decide)
    · exact hbetween ((Bool.and_eq_true_iff.mp hlower).imp of_decide_eq_true of_decide_eq_true)
        (by decide) (by decide)
  · exact hbetween ((Bool.and_eq_true_iff.mp hdigit).imp of_decide_eq_true of_decide_eq_true)
      (by decide) (by decide)

theorem isBlank_of_isLabelChar {first : Bool} {c : Char} (h : isLabelChar first c = true) :
    Text.isBlank c = false := by
  have hprintable : 0x2A ≤ c.toNat ∧ c.toNat < 0x80 := by
    simp only [isLabelChar, Bool.or_eq_true, Bool.and_eq_true, beq_iff_eq] at h
    rcases h with (((h | ⟨rfl, -⟩) | rfl) | ⟨rfl, -⟩) | rfl
    · exact toNat_of_isAlphanum h
    all_goals decide
  simp only [Text.isBlank, Bool.or_eq_false_iff, Bool.and_eq_false_iff, decide_eq_false_iff_not,
    beq_eq_false_iff_ne]
  omega

/-- No character in a label is blank. -/
theorem isBlank_of_checkLabel {label : List Char} (h : checkLabel label = .ok label) :
    ∀ c ∈ label, Text.isBlank c = false := by
  unfold checkLabel at h
  dsimp only at h
  split at h
  · cases h
  · split at h
    · cases h
    · split at h
      next hall =>
        obtain ⟨hfirst, hrest⟩ := Bool.and_eq_true_iff.mp hall
        exact List.forall_mem_cons.mpr ⟨isBlank_of_isLabelChar hfirst,
          fun c hc => isBlank_of_isLabelChar (List.all_eq_true.mp hrest c hc)⟩
      next => cases h

section Proper

variable {labels : List (List Char)} (h : ∀ label ∈ labels, checkLabel label = .ok label)

include h

/-- No character of the written form is blank. -/
theorem isBlank_written : ∀ c ∈ written labels, Text.isBlank c = false := by
  have hlabel {label : List Char} (hok : checkLabel label = .ok label) :
      ∀ c ∈ label.flatMap escapeChar, Text.isBlank c = false := by
    intro c hc
    obtain ⟨d, hd, hc⟩ := List.mem_flatMap.mp hc
    unfold escapeChar at hc
    split at hc
    · rcases List.mem_pair.mp hc with rfl | rfl <;> rfl
    · obtain rfl := List.mem_singleton.mp hc
      exact isBlank_of_checkLabel hok c hd
  induction labels with
  | nil => exact fun _ hc => absurd hc List.not_mem_nil
  | cons label labels ih =>
    obtain ⟨hok, hrest⟩ := List.forall_mem_cons.mp h
    cases labels with
    | nil => simpa [written, List.intercalate_singleton] using hlabel hok
    | cons next labels =>
      rw [written_cons label (List.cons_ne_nil _ _)]
      exact List.forall_mem_append.mpr
        ⟨hlabel hok, List.forall_mem_cons.mpr ⟨rfl, ih hrest⟩⟩

/-- The written form ends with a character of the last label. -/
theorem written_ends (hne : labels ≠ []) :
    ∃ front c, written labels = front ++ escapeChar c := by
  induction labels with
  | nil => exact absurd rfl hne
  | cons label labels ih =>
    obtain ⟨hok, hrest⟩ := List.forall_mem_cons.mp h
    cases labels with
    | nil =>
      have hlast := List.dropLast_append_getLast (ne_nil_of_checkLabel hok)
      refine ⟨label.dropLast.flatMap escapeChar, label.getLast (ne_nil_of_checkLabel hok), ?_⟩
      conv_lhs => rw [← hlast]
      simp [written]
    | cons next labels =>
      obtain ⟨front, c, hfront⟩ := ih hrest (List.cons_ne_nil _ _)
      refine ⟨label.flatMap escapeChar ++ '.' :: front, c, ?_⟩
      rw [written_cons label (List.cons_ne_nil _ _), hfront, List.append_assoc, List.cons_append]

end Proper

section Keyword

variable {keyword : List Char} (hkeyword : Text.IsKeyword keyword)

include hkeyword

/-- A dot at the end of the last label is dropped, but no keyword is left. -/
theorem lower_dropFinalDot_written_iff {labels : List (List Char)}
    (h : ∀ label ∈ labels, checkLabel label = .ok label) :
    Text.lower (Domain.dropFinalDot (written labels)) = keyword ↔
      Text.lower (written labels) = keyword := by
  by_cases hne : labels = []
  · rw [hne]
    rfl
  obtain ⟨front, c, hends⟩ := written_ends h hne
  rw [hends]
  by_cases hdot : c = '.'
  · have hescape (back : List Char) : Text.lower (front ++ '\\' :: back) ≠ keyword :=
      Text.lower_ne_of_mem hkeyword (List.mem_append_right _ List.mem_cons_self) rfl rfl
    rw [hdot, show escapeChar '.' = ['\\', '.'] from rfl,
      Domain.dropFinalDot_append _ (List.cons_ne_nil _ _)]
    exact iff_of_false (hescape _) (hescape _)
  · rw [escapeChar, if_neg (by simpa using hdot), Domain.dropFinalDot, if_neg (by simpa using hdot)]

end Keyword

/-- **The dot of the root does not matter** for a comparison with a keyword. -/
theorem normalize_render_eq_iff {name : DomainName} (h : name.IsProper) (root : Bool)
    {keyword : String} (hkeyword : Text.IsKeyword keyword.toList) :
    Domain.normalize { name with isAbsolute := root }.render = keyword ↔
      Domain.normalize name.render = keyword := by
  have hblank := isBlank_written h
  -- both are equivalent to what is true of the written form
  suffices hform : ∀ root, Domain.normalize { name with isAbsolute := root }.render = keyword ↔
      Text.lower (written name.labels) = keyword.toList from
    (hform root).trans (hform name.isAbsolute).symm
  intro root
  rw [Domain.normalize_eq_iff, toList_render]
  cases root with
  | false =>
    rw [if_neg Bool.false_ne_true, List.append_nil, Text.trim_eq_self hblank]
    exact lower_dropFinalDot_written_iff hkeyword h
  | true =>
    have hdropped : Domain.dropFinalDot (written name.labels ++ ['.']) = written name.labels := by
      rw [Domain.dropFinalDot_append _ (List.cons_ne_nil _ _)]
      exact List.append_nil _
    have hplain : ∀ c ∈ written name.labels ++ ['.'], Text.isBlank c = false :=
      List.forall_mem_append.mpr ⟨hblank, List.forall_mem_singleton.mpr rfl⟩
    rw [if_pos rfl, Text.trim_eq_self hplain, hdropped]

end DomainName

end Rehearsal
