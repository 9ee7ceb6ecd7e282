import Rehearsal.Http.Exchange
import Rehearsal.Net.Address
import Mathlib.Data.List.Infix

/-!
# Texts on one line

Reports put one entry on each line. Such a report can be taken apart again if no entry has a line
end in it, so what is made of numbers, addresses and fixed words is looked at once, here.

## Main definitions

* `Text.IsLine`: a text without line ends

## Main results

* `Text.splitOn_intercalate_lines`: lines that are joined are taken apart again
* `Text.infix_intercalate_of_mem`: each text is a part of what it is joined to
* `IpAddress.isLine_render`: an address is written on one line
* `Response.isLine_textHeader`: so is a header
-/

namespace Rehearsal

namespace Text

/-- There is no line end in the text. -/
def IsLine (s : String) : Prop := '\n' ∉ s.toList

instance (s : String) : Decidable (IsLine s) := inferInstanceAs (Decidable (_ ∉ _))

@[simp] theorem isLine_append {s t : String} : IsLine (s ++ t) ↔ IsLine s ∧ IsLine t := by
  rw [IsLine, String.toList_append, List.mem_append, not_or]
  rfl

/-- **Lines that are joined are taken apart again**, if there are any. -/
theorem splitOn_intercalate_lines {lines : List String} (h : ∀ line ∈ lines, IsLine line)
    (hne : lines ≠ []) :
    ("\n".intercalate lines).toList.splitOn '\n' = lines.map String.toList := by
  rw [String.toList_intercalate]
  refine List.splitOn_intercalate '\n' ?_ (by simpa using hne)
  intro cs hcs
  obtain ⟨line, hline, rfl⟩ := List.mem_map.mp hcs
  exact h line hline

/-- Each text is a part of what they are joined to. -/
theorem infix_intercalate_of_mem (separator : String) {t : String} {texts : List String}
    (h : t ∈ texts) :
    t.toList <:+: (separator.intercalate texts).toList := by
  induction texts with
  | nil => cases h
  | cons first texts ih =>
    cases texts with
    | nil =>
      rw [List.mem_singleton.mp h, String.intercalate_singleton]
    | cons second texts =>
      rw [String.intercalate_cons_cons, String.append_assoc, String.toList_append,
        String.toList_append]
      rcases List.mem_cons.mp h with rfl | h
      · exact (List.prefix_append _ _).isInfix
      · exact (ih h).trans ((List.suffix_append _ _).trans (List.suffix_append _ _)).isInfix

theorem isLine_intercalate {separator : String} (hseparator : IsLine separator)
    {parts : List String} (h : ∀ part ∈ parts, IsLine part) :
    IsLine (separator.intercalate parts) := by
  induction parts with
  | nil => exact List.not_mem_nil
  | cons part parts ih =>
    have hpart := h part List.mem_cons_self
    have hrest := ih fun p hp => h p (List.mem_cons_of_mem part hp)
    cases parts with
    | nil => rwa [String.intercalate_singleton]
    | cons next parts =>
      rw [String.intercalate_cons_cons]
      exact isLine_append.mpr ⟨isLine_append.mpr ⟨hpart, hseparator⟩, hrest⟩

/-- No digit is a line end. -/
theorem not_mem_toDigits {base : Nat} (hbase : 1 < base) (n : Nat) :
    '\n' ∉ Nat.toDigits base n := by
  induction n using Nat.strongRecOn with
  | ind n ih =>
    rw [Nat.toDigits_eq_if hbase]
    split
    next => simp
    next => simpa using ih (n / base) (Nat.div_lt_self (by omega) hbase)

theorem isLine_toString (n : Nat) : IsLine (toString n) := by
  rw [IsLine, Nat.toString_eq_ofList_toDigits, String.toList_ofList]
  exact not_mem_toDigits (by decide) _

end Text

namespace IpAddress

open Text

theorem isLine_renderV4 (a : BitVec 32) : IsLine (renderV4 a) := by
  refine isLine_intercalate (by decide) fun part hpart => ?_
  obtain ⟨octet, -, rfl⟩ := List.mem_map.mp hpart
  exact isLine_toString octet

theorem isLine_renderGroups (gs : List Nat) : IsLine (renderGroups gs) := by
  refine isLine_intercalate (by decide) fun part hpart => ?_
  obtain ⟨group, -, rfl⟩ := List.mem_map.mp hpart
  rw [IsLine, String.toList_ofList]
  exact not_mem_toDigits (by decide) _

/-- **An address is written on one line.** -/
theorem isLine_render (a : IpAddress) : IsLine (toString a) := by
  cases a with
  | v4 a => exact isLine_renderV4 a
  | v6 a =>
    change IsLine (renderV6 a)
    unfold renderV6
    split
    next inner _ => exact isLine_append.mpr ⟨by decide, isLine_renderV4 inner⟩
    next =>
      unfold renderShort
      dsimp only
      split
      · exact isLine_renderGroups _
      · exact isLine_append.mpr ⟨isLine_append.mpr ⟨isLine_renderGroups _, by decide⟩,
          isLine_renderGroups _⟩

end IpAddress

/-- The text of a header is on one line. -/
theorem Response.isLine_textHeader {response : Response} {name value : String}
    (h : response.textHeader? name = some value) : Text.IsLine value := by
  obtain ⟨bytes, -, hvalue⟩ := Option.bind_eq_some_iff.mp h
  rw [Option.ite_none_right_eq_some, Option.some.injEq] at hvalue
  obtain ⟨hvisible, rfl⟩ := hvalue
  rw [Text.IsLine, String.toList_ofList, List.mem_map]
  rintro ⟨b, hb, hend⟩
  have hvalid : b.toNat.isValidChar := .inl (by have := b.toNat_lt; omega)
  have hcode : '\n'.toNat = b.toNat := by
    rw [← hend, Char.ofNat, dif_pos hvalid]
    rfl
  have hline : isVisible b = false := by
    rw [isVisible, ← hcode]
    rfl
  exact absurd (List.all_eq_true.mp hvisible b hb) (by rw [hline]; exact Bool.false_ne_true)

end Rehearsal
