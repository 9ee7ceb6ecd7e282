import Rehearsal.Problem

/-!
# Fatal findings in lists

## Main results

* `Problem.anyFatal_iff`: a list is fatal if it has a finding of that severity
* `Problem.anyFatal_append`, `Problem.anyFatal_flatMap`: lists that are put together
* `Problem.anyFatal_eq_false`: lists without fatal findings
-/

namespace Rehearsal

namespace Problem

universe u

@[simp] theorem isFatal_iff (p : Problem) : p.isFatal = true ↔ p.severity = .fatal := beq_iff_eq

theorem anyFatal_iff (ps : List Problem) :
    anyFatal ps = true ↔ ∃ p ∈ ps, p.severity = .fatal := by
  simp only [anyFatal, List.any_eq_true, isFatal_iff]

theorem anyFatal_append (ps qs : List Problem) :
    anyFatal (ps ++ qs) = (anyFatal ps || anyFatal qs) := List.any_append

theorem anyFatal_flatMap {ι : Type u} (l : List ι) (f : ι → List Problem) :
    anyFatal (l.flatMap f) = true ↔ ∃ x ∈ l, anyFatal (f x) = true := by
  simp only [anyFatal, List.any_eq_true, List.mem_flatMap]
  constructor
  · rintro ⟨p, ⟨x, hx, hp⟩, hfatal⟩
    exact ⟨x, hx, p, hp, hfatal⟩
  · rintro ⟨x, hx, p, hp, hfatal⟩
    exact ⟨p, ⟨x, hx, hp⟩, hfatal⟩

theorem anyFatal_eq_false {problems : List Problem} (h : ∀ p ∈ problems, p.isFatal = false) :
    anyFatal problems = false := by
  unfold anyFatal
  rw [List.any_eq_false]
  exact fun p hp => by rw [h p hp]; exact Bool.false_ne_true

end Problem

end Rehearsal
