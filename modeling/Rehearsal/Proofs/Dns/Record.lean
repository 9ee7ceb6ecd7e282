import Rehearsal.Dns.Caa
import Mathlib.Data.List.Basic

/-!
# Records that cannot be written

Whatever resolvers answer with is shown somewhere, so every record has to be written on a line. All
can be but one kind: a CAA record with a value of unknown meaning that is no text. A list of records
cannot be written if one of them cannot, and neither can its CAA policy be read.

## Main definitions

* `Record.IsCaa`: records that say who may issue
* `Record.IsUnwritable`: records that cannot be written

## Main results

* `Record.text?_eq_none_iff`: the records without a line
* `CaaRecord.ofRecords?_eq_none_iff`, `CaaRecord.eq_nil_iff`: the policies of lists of records
-/

namespace Rehearsal

theorem mapM_eq_none_iff {ι κ : Type} {f : ι → Option κ} {l : List ι} :
    l.mapM f = none ↔ ∃ x ∈ l, f x = none := by
  induction l with
  | nil => simp
  | cons x l ih =>
    rw [List.mapM_cons, List.exists_mem_cons_iff, ← ih]
    cases f x <;> cases l.mapM f <;> simp

theorem mem_iff_of_mapM_eq_some {ι κ : Type} {f : ι → Option κ} {l : List ι} {values : List κ}
    (h : l.mapM f = some values) {y : κ} : y ∈ values ↔ ∃ x ∈ l, f x = some y := by
  induction l generalizing values with
  | nil =>
    obtain rfl : [] = values := by simpa using h
    simp
  | cons x l ih =>
    cases hx : f x with
    | none => simp [hx] at h
    | some value =>
      cases hrest : l.mapM f with
      | none => simp [hx, hrest] at h
      | some rest =>
        obtain rfl : value :: rest = values := by simpa [hx, hrest] using h
        rw [List.mem_cons, List.exists_mem_cons_iff, ih hrest, hx, Option.some.injEq, eq_comm]

namespace Record

variable {r : Record} {records : List Record}

/-- The record says who may issue. -/
def IsCaa (r : Record) : Prop := ∃ critical tag value, r.data = some (.caa critical tag value)

/-- The record cannot be written: its value has no known meaning, and its bytes are no text. -/
def IsUnwritable (r : Record) : Prop :=
  ∃ critical tag bytes, r.data = some (.caa critical tag (.raw bytes)) ∧ Text.decode? bytes = none

theorem IsUnwritable.isCaa (h : r.IsUnwritable) : r.IsCaa := by
  obtain ⟨critical, tag, bytes, hdata, -⟩ := h
  exact ⟨critical, tag, .raw bytes, hdata⟩

theorem text?_eq_none_iff : r.text? = none ↔ r.IsUnwritable := by
  unfold text?
  constructor
  · intro h
    split at h
    next => cases h
    next data hdata =>
      rw [Option.map_eq_none_iff] at h
      cases data with
      | caa critical tag value =>
        cases value with
        | raw bytes => exact ⟨critical, tag, bytes, hdata, Option.map_eq_none_iff.mp h⟩
        | issuer | url => cases h
      | a | aaaa | ns | cname | mx | txt => cases h
  · rintro ⟨critical, tag, bytes, hdata, hbytes⟩
    rw [hdata]
    simp [RecordData.text?, CaaValue.text?, hbytes]

theorem textOfAll?_eq_none_iff : textOfAll? records = none ↔ ∃ r ∈ records, r.IsUnwritable := by
  unfold textOfAll?
  rw [Option.map_eq_none_iff, mapM_eq_none_iff]
  exact exists_congr fun r => and_congr_right fun _ => text?_eq_none_iff

end Record

namespace CaaRecord

variable {r : Record} {records : List Record} {found : List CaaRecord}

theorem ofRecord?_of_not_isCaa (h : ¬r.IsCaa) : ofRecord? r = some none := by
  unfold ofRecord?
  split
  next critical tag value hdata => exact absurd ⟨critical, tag, value, hdata⟩ h
  next => rfl

theorem ofRecord?_eq_none_iff : ofRecord? r = none ↔ r.IsUnwritable := by
  rw [← Record.text?_eq_none_iff]
  by_cases h : r.IsCaa
  · obtain ⟨critical, tag, value, hdata⟩ := h
    unfold ofRecord?
    rw [hdata]
    exact Option.map_eq_none_iff
  · rw [ofRecord?_of_not_isCaa h, Record.text?_eq_none_iff]
    exact ⟨fun heq => (by cases heq), fun hno => absurd hno.isCaa h⟩

theorem isCaa_of_ofRecord? {c : CaaRecord} (h : ofRecord? r = some (some c)) : r.IsCaa := by
  by_cases hcaa : r.IsCaa
  · exact hcaa
  · rw [ofRecord?_of_not_isCaa hcaa] at h
    cases h

theorem ofRecords?_eq_none_iff : ofRecords? records = none ↔ ∃ r ∈ records, r.IsUnwritable := by
  unfold ofRecords?
  rw [Option.map_eq_none_iff, mapM_eq_none_iff]
  exact exists_congr fun r => and_congr_right fun _ => ofRecord?_eq_none_iff

/-- The policies of a list of records. -/
theorem mem_iff (h : ofRecords? records = some found) {c : CaaRecord} :
    c ∈ found ↔ ∃ r ∈ records, ofRecord? r = some (some c) := by
  obtain ⟨all, hall, rfl⟩ := Option.map_eq_some_iff.mp h
  rw [List.mem_filterMap, ← mem_iff_of_mapM_eq_some hall]
  simp

/-- A policy is empty when there are no CAA records. -/
theorem eq_nil_iff (h : ofRecords? records = some found) :
    found = [] ↔ ∀ r ∈ records, ¬r.IsCaa := by
  rw [List.eq_nil_iff_forall_not_mem]
  constructor
  · intro hnone r hr hcaa
    have hwritten : ofRecord? r ≠ none := fun hno => Option.some_ne_none found
      (h.symm.trans (ofRecords?_eq_none_iff.mpr ⟨r, hr, ofRecord?_eq_none_iff.mp hno⟩))
    obtain ⟨critical, tag, value, hdata⟩ := hcaa
    cases htext : r.text? with
    | none => exact hwritten (by rw [ofRecord?, hdata, htext]; rfl)
    | some text => exact hnone _ ((mem_iff h).mpr ⟨r, hr, by rw [ofRecord?, hdata, htext]; rfl⟩)
  · intro hall c hc
    obtain ⟨r, hr, hpolicy⟩ := (mem_iff h).mp hc
    exact hall r hr (isCaa_of_ofRecord? hpolicy)

end CaaRecord

end Rehearsal
