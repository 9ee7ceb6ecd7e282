import Rehearsal.Proofs.Domain.Chain
import Rehearsal.Proofs.Text.Case

/-!
# Names that are looked up apart

Outcomes of lookups are kept under the normal form of a name. A name and one that it lies under have
different normal forms, since the normal form of the longer name is longer: what is trimmed, what is
dropped and what becomes of the case of a character is the same at the common end. The only names of
which this is not true are blank ones.

## Main results

* `Domain.normalize_ne_of_isUnder`: names that lie under each other are kept apart
-/

namespace Rehearsal

namespace Domain

variable {n m : String}

theorem dropFinalDot_append (front : List Char) {back : List Char} (h : back ≠ []) :
    dropFinalDot (front ++ back) = front ++ dropFinalDot back := by
  unfold dropFinalDot
  rw [List.getLast?_append_of_ne_nil _ h, List.dropLast_append_of_ne_nil h]
  split <;> rfl

/-- A name that is not blank keeps its end when something is put in front of it. -/
theorem trim_append_of_not_blank {cs : List Char} (h : ∃ c ∈ cs, Text.isBlank c = false)
    (front : List Char) :
    Text.trim cs ≠ [] ∧ ∃ between, Text.trim (front ++ '.' :: cs) =
      front.dropWhile Text.isBlank ++ '.' :: between ++ Text.trim cs := by
  obtain ⟨c, back, hdrop, hc⟩ : ∃ c back, cs.dropWhile Text.isBlank = c :: back ∧
      Text.isBlank c = false := by
    have hne : cs.dropWhile Text.isBlank ≠ [] := by
      obtain ⟨c, hmem, hc⟩ := h
      exact fun hnil => Bool.false_ne_true (hc ▸ List.dropWhile_eq_nil_iff.mp hnil c hmem)
    exact ⟨_, _, (List.cons_head_tail hne).symm, List.head_dropWhile_not _ hne⟩
  have hsplit := List.takeWhile_append_dropWhile (p := Text.isBlank) (l := cs)
  generalize cs.takeWhile Text.isBlank = between at hsplit
  have htrim : Text.trim cs = c :: Text.dropEndWhile Text.isBlank back := by
    rw [Text.trim, hdrop, Text.dropEndWhile_cons hc]
  have hend : Text.dropEndWhile Text.isBlank cs = between ++ Text.trim cs := by
    rw [htrim, ← Text.dropEndWhile_cons hc, ← hsplit, hdrop]
    exact Text.dropEndWhile_append (Text.dropEndWhile_cons hc back ▸ List.cons_ne_nil _ _)
  refine ⟨htrim ▸ List.cons_ne_nil _ _, between, ?_⟩
  rw [Text.trim_append rfl, hend, List.append_assoc, List.cons_append]

/-- **A name and one that it lies under are kept apart**, unless that one is blank. -/
theorem normalize_ne_of_isUnder (h : IsUnder n m) (hm : ∃ c ∈ m.toList, Text.isBlank c = false) :
    normalize n ≠ normalize m := by
  obtain ⟨front, hfront⟩ := h
  obtain ⟨hne, between, htrim⟩ := trim_append_of_not_blank hm front
  intro heq
  have hlength := congrArg (fun name => name.toList.length) heq
  simp only [normalize, String.toList_ofList, ← hfront, htrim, dropFinalDot_append _ hne,
    Text.length_lower_append] at hlength
  have hpos : 0 < (Text.lower ('.' :: between)).length :=
    Text.length_lower_pos (List.cons_ne_nil _ _)
  omega

end Domain

end Rehearsal
