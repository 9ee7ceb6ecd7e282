import Rehearsal.Domain.Normal
import Rehearsal.Proofs.Text.Trim
import Mathlib.Algebra.GroupWithZero.Nat

/-!
# Lowercase, and keywords in capital and small letters

What stands before a text matters for its lowercase, but not for how long it is, and no character
has an empty lowercase.

A text is compared with a keyword by its lowercase. Then the case of the letters from A to Z does
not matter, neither in the text itself nor in the normal form of a name.

Lowercasing looks beyond one character for the final sigma only, and no keyword has a sigma in it.
So a text whose lowercase is a keyword has none either, and its characters may be taken one by one.

## Main definitions

* `Text.SameLetters`: texts that differ in the case of letters from A to Z
* `Text.IsKeyword`: texts of letters, digits and dots

## Main results

* `Text.length_lower_append`: lowercase is no shorter for a longer text
* `Text.lower_eq_iff`: the texts whose lowercase is a keyword
* `Text.SameLetters.lower_eq_iff`, `Domain.normalize_eq_iff_of_sameLetters`: the case of letters
  does not matter for that
-/

namespace Rehearsal

namespace Text

/-- The texts differ in the case of letters from A to Z at most. -/
def SameLetters (cs cs' : List Char) : Prop := cs.map asciiLower = cs'.map asciiLower

instance (cs cs' : List Char) : Decidable (SameLetters cs cs') :=
  inferInstanceAs (Decidable (_ = _))

/-- A keyword is made of letters, digits and dots. -/
def IsKeyword (cs : List Char) : Prop := (cs.all fun c => c.isAlphanum || c == '.') = true

theorem IsKeyword.not_mem {keyword : List Char} (h : IsKeyword keyword) (c : Char)
    (hc : (c.isAlphanum || c == '.') = false) : c ∉ keyword :=
  fun hmem => Bool.false_ne_true (hc.symm.trans (List.all_eq_true.mp h c hmem))

/-! ### Characters -/

/-- What is the same for each letter and its small form is the same for every character and its
small form. -/
theorem apply_asciiLower {α : Type} (f : Char → α)
    (h : ∀ i < 26, f (Char.ofNat (97 + i)) = f (Char.ofNat (65 + i))) (c : Char) :
    f (asciiLower c) = f c := by
  unfold asciiLower
  split
  next hletter =>
    have hfirst : 65 ≤ c.toNat := hletter.1
    have hlast : c.toNat ≤ 90 := hletter.2
    have hc := h (c.toNat - 65) (by omega)
    rwa [show 97 + (c.toNat - 65) = c.toNat + 32 by omega,
      show 65 + (c.toNat - 65) = c.toNat by omega, Char.ofNat_toNat] at hc
  next => rfl

theorem isBlank_asciiLower (c : Char) : isBlank (asciiLower c) = isBlank c :=
  apply_asciiLower isBlank (by decide +kernel) c

theorem lowerChar_asciiLower (c : Char) : lowerChar (asciiLower c) = lowerChar c :=
  apply_asciiLower lowerChar (by decide +kernel) c

/-- A character that is no letter is the small form of itself only. -/
theorem asciiLower_eq_iff {d : Char}
    (h : ∀ i < 26, Char.ofNat (97 + i) ≠ d ∧ Char.ofNat (65 + i) ≠ d) (c : Char) :
    asciiLower c = d ↔ c = d := by
  have hsame (i : Nat) (hi : i < 26) :
      decide (Char.ofNat (97 + i) = d) = decide (Char.ofNat (65 + i) = d) := by
    rw [decide_eq_false (h i hi).1, decide_eq_false (h i hi).2]
  exact decide_eq_decide.mp (apply_asciiLower (fun c => decide (c = d)) hsame c)

theorem asciiLower_eq_sigma_iff (c : Char) : asciiLower c = 'Σ' ↔ c = 'Σ' :=
  asciiLower_eq_iff (by decide +kernel) c

theorem asciiLower_eq_dot_iff (c : Char) : asciiLower c = '.' ↔ c = '.' :=
  asciiLower_eq_iff (by decide +kernel) c

/-! ### Lowercase -/

theorem lowerAfter_eq_flatMap {cs : List Char} (h : 'Σ' ∉ cs) (before : List Char) :
    lowerAfter before cs = cs.flatMap lowerChar := by
  induction cs generalizing before with
  | nil => rfl
  | cons c cs ih =>
    obtain ⟨hc, hcs⟩ := not_or.mp (mt List.mem_cons.mpr h)
    rw [lowerAfter, if_neg fun heq => hc heq.symm, ih hcs, List.flatMap_cons]

theorem mem_lowerAfter_of_sigma {cs : List Char} (h : 'Σ' ∈ cs) (before : List Char) :
    'σ' ∈ lowerAfter before cs ∨ 'ς' ∈ lowerAfter before cs := by
  induction cs generalizing before with
  | nil => cases h
  | cons c cs ih =>
    rw [lowerAfter]
    rcases List.mem_cons.mp h with rfl | hmem
    · rw [if_pos rfl]
      split <;> simp
    · exact (ih hmem _).imp (List.mem_append_right _) (List.mem_append_right _)

/-! ### The length of lowercase -/

theorem image?_ofText_ne_nil (table : String) (c : Char) :
    (Runs.ofText table).image? c ≠ some [] := by
  intro h
  obtain ⟨codes, hcodes, hnil⟩ := Option.map_eq_some_iff.mp h
  obtain rfl := List.map_eq_nil_iff.mp hnil
  obtain ⟨run, hrun, himage⟩ := List.exists_of_findSome?_eq_some hcodes
  obtain ⟨written, -, rfl⟩ := List.mem_map.mp hrun
  have hne : (Run.ofWritten written).image ≠ [] := by
    simp [Run.ofWritten, List.splitOn_ne_nil]
  unfold Run.image? at himage
  split at himage
  · split at himage
    · cases himage
    · exact hne (Option.some.inj himage)
  · cases himage

theorem lowerChar_ne_nil (c : Char) : lowerChar c ≠ [] := by
  unfold lowerChar
  split
  · exact List.cons_ne_nil _ _
  · split
    · exact List.cons_ne_nil _ _
    · cases himage : lowerRuns.image? c with
      | none => exact List.cons_ne_nil _ _
      | some image =>
        rintro rfl
        exact image?_ofText_ne_nil _ c himage

/-- How many characters the lowercase of a character has. -/
def lowerWidth (c : Char) : Nat := if c = 'Σ' then 1 else (lowerChar c).length

theorem lowerWidth_pos (c : Char) : 0 < lowerWidth c := by
  unfold lowerWidth
  split
  · exact Nat.one_pos
  · exact List.length_pos_iff.mpr (lowerChar_ne_nil c)

/-- What stands before a text matters for its lowercase, but not for how long it is. -/
theorem length_lowerAfter (before cs : List Char) :
    (lowerAfter before cs).length = (cs.map lowerWidth).sum := by
  induction cs generalizing before with
  | nil => rfl
  | cons c cs ih =>
    rw [lowerAfter, List.length_append, ih, List.map_cons, List.sum_cons, lowerWidth]
    split <;> rfl

theorem length_lower_append (front back : List Char) :
    (lower (front ++ back)).length = (lower front).length + (lower back).length := by
  simp only [lower, length_lowerAfter, List.map_append, List.sum_append]

theorem length_lower_pos {cs : List Char} (h : cs ≠ []) : 0 < (lower cs).length := by
  cases cs with
  | nil => exact absurd rfl h
  | cons c cs =>
    rw [lower, length_lowerAfter, List.map_cons, List.sum_cons]
    exact Nat.add_pos_left (lowerWidth_pos c) _

/-! ### Keywords -/

section Keyword

variable {cs cs' keyword : List Char} (hkeyword : IsKeyword keyword)

include hkeyword

/-- **The texts whose lowercase is a keyword.** -/
theorem lower_eq_iff : lower cs = keyword ↔ 'Σ' ∉ cs ∧ cs.flatMap lowerChar = keyword := by
  by_cases hsigma : 'Σ' ∈ cs
  · refine iff_of_false (fun h => ?_) fun h => h.1 hsigma
    rcases mem_lowerAfter_of_sigma hsigma [] with hmem | hmem
    · exact hkeyword.not_mem 'σ' rfl (h ▸ hmem)
    · exact hkeyword.not_mem 'ς' rfl (h ▸ hmem)
  · rw [lower, lowerAfter_eq_flatMap hsigma, and_iff_right hsigma]

theorem lower_map_asciiLower_eq_iff : lower (cs.map asciiLower) = keyword ↔ lower cs = keyword := by
  rw [lower_eq_iff hkeyword, lower_eq_iff hkeyword, List.flatMap_map]
  simp only [lowerChar_asciiLower, List.mem_map, asciiLower_eq_sigma_iff, exists_eq_right]

/-- **The case of letters does not matter for a keyword.** -/
theorem SameLetters.lower_eq_iff (h : SameLetters cs cs') :
    lower cs = keyword ↔ lower cs' = keyword := by
  rw [← lower_map_asciiLower_eq_iff hkeyword, h, lower_map_asciiLower_eq_iff hkeyword]

/-- A text with a character that no keyword has, and that has no small form, is no keyword. -/
theorem lower_ne_of_mem {c : Char} (hmem : c ∈ cs) (hsame : lowerChar c = [c])
    (hc : (c.isAlphanum || c == '.') = false) : lower cs ≠ keyword := by
  intro heq
  obtain ⟨-, rfl⟩ := (lower_eq_iff hkeyword).mp heq
  refine hkeyword.not_mem c hc (List.mem_flatMap.mpr ⟨c, hmem, ?_⟩)
  rw [hsame]
  exact List.mem_singleton_self c

end Keyword

/-! ### Names -/

theorem dropWhile_map_asciiLower {p : Char → Bool} (hp : ∀ c, p (asciiLower c) = p c)
    (cs : List Char) :
    (cs.map asciiLower).dropWhile p = (cs.dropWhile p).map asciiLower := by
  rw [List.dropWhile_map, show p ∘ asciiLower = p from funext hp]

theorem trim_map_asciiLower (cs : List Char) :
    trim (cs.map asciiLower) = (trim cs).map asciiLower := by
  simp only [trim, dropEndWhile, dropWhile_map_asciiLower isBlank_asciiLower, ← List.map_reverse]

end Text

namespace Domain

open Text

theorem dropFinalDot_map_asciiLower (cs : List Char) :
    dropFinalDot (cs.map asciiLower) = (dropFinalDot cs).map asciiLower := by
  have hlast : (cs.map asciiLower).getLast? = some '.' ↔ cs.getLast? = some '.' := by
    rw [List.getLast?_map, Option.map_eq_some_iff]
    simp only [asciiLower_eq_dot_iff, exists_eq_right]
  simp only [dropFinalDot, hlast]
  split
  next => exact List.map_dropLast.symm
  next => rfl

/-- The part of a name whose lowercase is its normal form. -/
theorem sameLetters_dropFinalDot_trim {cs cs' : List Char} (h : SameLetters cs cs') :
    SameLetters (dropFinalDot (trim cs)) (dropFinalDot (trim cs')) := by
  rw [SameLetters, ← dropFinalDot_map_asciiLower, ← trim_map_asciiLower, h, trim_map_asciiLower,
    dropFinalDot_map_asciiLower]

theorem normalize_eq_iff {name keyword : String} :
    normalize name = keyword ↔ lower (dropFinalDot (trim name.toList)) = keyword.toList := by
  rw [normalize, ← String.toList_inj, String.toList_ofList]

/-- **The case of letters does not matter for the normal form of a name.** -/
theorem normalize_eq_iff_of_sameLetters {n m keyword : String} (h : SameLetters n.toList m.toList)
    (hkeyword : IsKeyword keyword.toList) : normalize n = keyword ↔ normalize m = keyword := by
  rw [normalize_eq_iff, normalize_eq_iff]
  exact (sameLetters_dropFinalDot_trim h).lower_eq_iff hkeyword

end Domain

end Rehearsal
