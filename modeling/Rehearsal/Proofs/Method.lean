import Rehearsal.Method
import Rehearsal.Proofs.Text.Case

/-!
# Texts that spell a method

A text spells the name of a method if nothing but white space stands around the name, and letters
from A to Z may be capital ones. Such texts are read as the method. Every other text is kept as it
is, so what is read from it is different for different texts and does not spell a method either.

## Main definitions

* `Method.IsSpelledBy`: the texts that spell a method

## Main results

* `Method.ofText_eq_iff`: the texts that are read as a method with a name
* `Method.ofText_eq_unknown_iff`: the texts that are kept
* `Method.ofText_eq_ofText_iff`: when two texts are read as the same method
* `Method.ofText_name_ofText`: the name of what was read is read as the same
-/

namespace Rehearsal

namespace Method

open Text

/-- The text is the name of the method, in capital or small letters, between white space. -/
def IsSpelledBy (m : Method) (text : String) : Prop :=
  ∃ front core back, text.toList = front ++ core ++ back ∧ (∀ c ∈ front, isBlank c = true) ∧
    SameLetters core m.name.toList ∧ ∀ c ∈ back, isBlank c = true

/-- No name has a capital letter or white space in it. -/
theorem name_of_mem_named : ∀ m ∈ named,
    m.name.toList.map asciiLower = m.name.toList ∧ ∀ c ∈ m.name.toList, isBlank c = false := by
  have hall : ∀ m ∈ named, m.name.toList.map asciiLower = m.name.toList ∧
      m.name.toList.all (fun c => !isBlank c) = true := by decide +kernel
  intro m hm
  obtain ⟨hsmall, hshown⟩ := hall m hm
  exact ⟨hsmall, by simpa using hshown⟩

/-- **The texts with a keyword.** -/
theorem keyword_eq_name_iff {m : Method} (hm : m ∈ named) {text : String} :
    keyword text = m.name ↔ m.IsSpelledBy text := by
  obtain ⟨hsmall, hshown⟩ := name_of_mem_named m hm
  rw [keyword, ← String.toList_inj, String.toList_ofList]
  constructor
  · intro h
    obtain ⟨front, back, htext, hfront, hback⟩ := exists_trim text.toList
    exact ⟨front, trim text.toList, back, htext, hfront, h.trans hsmall.symm, hback⟩
  · rintro ⟨front, core, back, htext, hfront, hcore, hback⟩
    have hname : core.map asciiLower = m.name.toList := hcore.trans hsmall
    have hcoreShown : ∀ c ∈ core, isBlank c = false := fun c hc => by
      rw [← isBlank_asciiLower]
      exact hshown _ (hname ▸ List.mem_map_of_mem hc)
    rw [htext, trim_of_blanks hfront hcoreShown hback, hname]

theorem find?_named_eq_some_iff {m : Method} (hm : m ∈ named) {word : String} :
    named.find? (fun n => n.name == word) = some m ↔ word = m.name := by
  constructor
  · intro h
    have hname := List.find?_some h
    exact (eq_of_beq hname).symm
  · rintro rfl
    have hall : ∀ m ∈ named, named.find? (fun n => n.name == m.name) = some m := by decide +kernel
    exact hall m hm

theorem ne_unknown_of_mem_named {m : Method} (hm : m ∈ named) (text : String) :
    m ≠ unknown text := by
  rintro rfl
  simp [named] at hm

/-- **The texts that are read as a method with a name** are those that spell it. -/
theorem ofText_eq_iff {m : Method} (hm : m ∈ named) {text : String} :
    ofText text = m ↔ m.IsSpelledBy text := by
  rw [← keyword_eq_name_iff hm, ← find?_named_eq_some_iff hm, ofText]
  cases hfind : named.find? fun n => n.name == keyword text with
  | none => simpa using (ne_unknown_of_mem_named hm text).symm
  | some n => simp

/-- **Every other text is kept**, and nothing is kept that spells a method. -/
theorem ofText_eq_unknown_iff {text kept : String} :
    ofText text = unknown kept ↔ text = kept ∧ ∀ m ∈ named, ¬m.IsSpelledBy text := by
  constructor
  · intro h
    have hnone : ∀ m ∈ named, ¬m.IsSpelledBy text := fun m hm hspelled =>
      ne_unknown_of_mem_named hm kept ((ofText_eq_iff hm).mpr hspelled ▸ h)
    refine ⟨?_, hnone⟩
    unfold ofText at h
    split at h
    next m hfind =>
      exact absurd h (ne_unknown_of_mem_named (List.mem_of_find?_eq_some hfind) kept)
    next => exact unknown.inj h
  · rintro ⟨rfl, hnone⟩
    unfold ofText
    split
    next m hfind =>
      have hm := List.mem_of_find?_eq_some hfind
      exact absurd ((keyword_eq_name_iff hm).mp ((find?_named_eq_some_iff hm).mp hfind))
        (hnone m hm)
    next => rfl

/-- What is read is a method with a name, or the text itself. -/
theorem ofText_mem_or (text : String) :
    (ofText text ∈ named ∧ (ofText text).IsSpelledBy text) ∨
      (ofText text = unknown text ∧ ∀ m ∈ named, ¬m.IsSpelledBy text) := by
  by_cases hnamed : ∃ m ∈ named, m.IsSpelledBy text
  · obtain ⟨m, hm, hspelled⟩ := hnamed
    rw [(ofText_eq_iff hm).mpr hspelled]
    exact .inl ⟨hm, hspelled⟩
  · have hnone : ∀ m ∈ named, ¬m.IsSpelledBy text := fun m hm hspelled =>
      hnamed ⟨m, hm, hspelled⟩
    exact .inr ⟨ofText_eq_unknown_iff.mpr ⟨rfl, hnone⟩, hnone⟩

/-- **Two texts are read as the same method** if they are the same or spell the same name. -/
theorem ofText_eq_ofText_iff {text text' : String} : ofText text = ofText text' ↔
    text = text' ∨ ∃ m ∈ named, m.IsSpelledBy text ∧ m.IsSpelledBy text' := by
  constructor
  · intro h
    rcases ofText_mem_or text with ⟨hm, hspelled⟩ | ⟨hkept, -⟩
    · exact .inr ⟨_, hm, hspelled, (ofText_eq_iff hm).mp h.symm⟩
    · exact .inl (ofText_eq_unknown_iff.mp (h ▸ hkept)).1.symm
  · rintro (rfl | ⟨m, hm, hspelled, hspelled'⟩)
    · rfl
    · rw [(ofText_eq_iff hm).mpr hspelled, (ofText_eq_iff hm).mpr hspelled']

/-- **The name of what was read is read as the same.** -/
theorem ofText_name_ofText (text : String) : ofText (ofText text).name = ofText text := by
  rcases ofText_mem_or text with ⟨hm, -⟩ | ⟨hkept, -⟩
  · have hall : ∀ m ∈ named, ofText m.name = m := by decide +kernel
    exact hall _ hm
  · rw [hkept, name, hkept]

end Method

end Rehearsal
