import Rehearsal.Proofs.Scan.Course
import Rehearsal.Proofs.Text.Settled

/-!
# The spelling of names is stable

The normal form of a name is made where a scan begins, again for every lookup, and once more for the
wire. This does no harm if a name in its normal form is left as it is. Its lowercase is settled, and
white space is trimmed before the final dot is dropped. But only one dot is, and what stood before
it may be another dot, or white space, which the next time takes away. These are the only names
whose normal form is not normal.

Where no end is hidden, lookups that would put the same name on the wire share one key.

## Main definitions

* `Domain.HidesEnd`: a dot or white space stands before the final dot of a name

## Main results

* `Domain.normalize_ends_iff`: which normal forms end with white space or a dot
* `Domain.normalize_normalize_iff`: which normal forms are normal
* `Domain.ofName_eq_of_absolute_eq`: lookups of the same name on the wire share one key
* `Engine.scan_spells_names`: the name that a scan hands on, and the keys of lookups
-/

namespace Rehearsal

namespace Domain

variable {name : String} {cs : List Char}

/-! ### Dropping a final dot -/

theorem dropFinalDot_concat_dot (cs : List Char) : dropFinalDot (cs ++ ['.']) = cs := by
  simp [dropFinalDot]

theorem dropFinalDot_eq_self_iff : dropFinalDot cs = cs ↔ ∀ front, cs ≠ front ++ ['.'] := by
  constructor
  · rintro h front rfl
    rw [dropFinalDot_concat_dot] at h
    simpa using congrArg List.length h
  · intro h
    refine if_neg fun hlast => ?_
    obtain ⟨front, hfront⟩ := List.getLast?_eq_some_iff.mp hlast
    exact h front hfront

theorem dropFinalDot_isPrefix (cs : List Char) : dropFinalDot cs <+: cs := by
  rw [dropFinalDot]
  split
  · exact List.dropLast_prefix cs
  · exact List.prefix_rfl

/-! ### Ends -/

/-- A dot or white space stands before the final dot of the name, once it is trimmed. -/
def HidesEnd (name : String) : Prop :=
  ∃ front c, Text.trim name.toList = front ++ [c, '.'] ∧ (c = '.' ∨ Text.isBlank c = true)

/-- Where an end is hidden, it shows when the final dot is dropped, and only there. -/
theorem hidesEnd_iff : HidesEnd name ↔ ∃ front c,
    dropFinalDot (Text.trim name.toList) = front ++ [c] ∧ (c = '.' ∨ Text.isBlank c = true) := by
  constructor
  · rintro ⟨front, c, htrim, hc⟩
    refine ⟨front, c, ?_, hc⟩
    rw [htrim, show front ++ [c, '.'] = front ++ [c] ++ ['.'] by simp, dropFinalDot_concat_dot]
  · rintro ⟨front, c, hdrop, hc⟩
    by_cases hdot : ∃ front', Text.trim name.toList = front' ++ ['.']
    · obtain ⟨front', htrim⟩ := hdot
      rw [htrim, dropFinalDot_concat_dot] at hdrop
      exact ⟨front, c, by rw [htrim, hdrop]; simp, hc⟩
    · have hsame := dropFinalDot_eq_self_iff.mpr (not_exists.mp hdot)
      rw [hsame] at hdrop
      rcases hc with rfl | hblank
      · exact absurd ⟨front, hdrop⟩ hdot
      · exact absurd (Text.isBlank_of_last_trim hdrop) (by simp [hblank])

/-- The text of which a normal form is the lowercase begins with no white space. -/
theorem isBlank_of_head_dropFinalDot {c : Char} {rest : List Char}
    (h : dropFinalDot (Text.trim cs) = c :: rest) : Text.isBlank c = false := by
  obtain ⟨back, hback⟩ := dropFinalDot_isPrefix (Text.trim cs)
  rw [h] at hback
  exact Text.isBlank_of_head_trim hback.symm

/-- A normal form begins with no white space. -/
theorem isBlank_of_head_normalize {c : Char} {rest : List Char}
    (h : (normalize name).toList = c :: rest) : Text.isBlank c = false := by
  rw [normalize, String.toList_ofList] at h
  cases hdrop : dropFinalDot (Text.trim name.toList) with
  | nil =>
    rw [hdrop] at h
    cases h
  | cons b bs =>
    obtain ⟨d, ds, hlower, hkind⟩ := Text.exists_lower_cons b bs
    rw [hdrop, hlower] at h
    obtain ⟨rfl, -⟩ := List.cons.inj h
    exact hkind.1.trans (isBlank_of_head_dropFinalDot hdrop)

/-- **A normal form ends with white space or a dot exactly if the name hides its end.** -/
theorem normalize_ends_iff : HidesEnd name ↔ ∃ front c,
    (normalize name).toList = front ++ [c] ∧ (c = '.' ∨ Text.isBlank c = true) := by
  rw [hidesEnd_iff, normalize, String.toList_ofList]
  rcases List.eq_nil_or_concat' (dropFinalDot (Text.trim name.toList)) with hdrop | ⟨bs, b, hdrop⟩
  · rw [hdrop]
    simp [Text.lower, Text.lowerAfter]
  · obtain ⟨ds, d, hlower, hblank, hdot⟩ := Text.exists_lower_concat bs b
    rw [hdrop, hlower]
    constructor
    · rintro ⟨front, c, heq, hc⟩
      obtain ⟨rfl, hbc⟩ := List.append_inj' heq rfl
      obtain rfl := List.singleton_inj.mp hbc
      exact ⟨ds, d, rfl, hc.imp hdot.mpr hblank.trans⟩
    · rintro ⟨front, c, heq, hc⟩
      obtain ⟨rfl, hdc⟩ := List.append_inj' heq rfl
      obtain rfl := List.singleton_inj.mp hdc
      exact ⟨bs, b, rfl, hc.imp hdot.mp hblank.symm.trans⟩

/-! ### Normal forms -/

theorem isSettled_of_mem_normalize {c : Char} (h : c ∈ (normalize name).toList) :
    Text.IsSettled c := by
  rw [normalize, String.toList_ofList] at h
  exact Text.isSettled_of_mem_lower h

/-- The normal form of a normal form is what trimming and dropping a dot leave of it. -/
theorem toList_normalize_normalize (name : String) : (normalize (normalize name)).toList =
    dropFinalDot (Text.trim (normalize name).toList) := by
  have hsettled : ∀ c ∈ (normalize name).toList, Text.IsSettled c :=
    fun _ hc => isSettled_of_mem_normalize hc
  rw [normalize, String.toList_ofList]
  refine Text.lower_eq_self fun c hc => hsettled c ?_
  exact ((dropFinalDot_isPrefix _).sublist.trans (Text.trim_sublist _)).subset hc

/-- What does not begin with white space is left as it is if it ends neither with that nor with a
dot. -/
theorem dropFinalDot_trim_eq_self_iff (hhead : ∀ c rest, cs = c :: rest → Text.isBlank c = false) :
    dropFinalDot (Text.trim cs) = cs ↔
      ¬∃ front c, cs = front ++ [c] ∧ (c = '.' ∨ Text.isBlank c = true) := by
  constructor
  · rintro h ⟨front, c, hend, hc⟩
    have htrim : Text.trim cs = cs := by
      refine (Text.trim_sublist cs).eq_of_length_le ?_
      calc cs.length = (dropFinalDot (Text.trim cs)).length := by rw [h]
        _ ≤ (Text.trim cs).length := (dropFinalDot_isPrefix _).length_le
    rcases hc with rfl | hblank
    · rw [htrim] at h
      exact dropFinalDot_eq_self_iff.mp h front hend
    · exact absurd (Text.isBlank_of_last_trim (htrim.trans hend)) (by simp [hblank])
  · intro h
    have hlast : ∀ front c, cs = front ++ [c] → Text.isBlank c = false := by
      intro front c hend
      by_contra hblank
      exact h ⟨front, c, hend, .inr (by simpa using hblank)⟩
    rw [Text.trim_eq_self_of_ends hhead hlast, dropFinalDot_eq_self_iff]
    exact fun front hend => h ⟨front, '.', hend, .inl rfl⟩

/-- **A normal form is normal exactly if the name does not hide its end.** -/
theorem normalize_normalize_iff : normalize (normalize name) = normalize name ↔ ¬HidesEnd name := by
  rw [← String.toList_inj, toList_normalize_normalize, normalize_ends_iff]
  exact dropFinalDot_trim_eq_self_iff fun _ _ => isBlank_of_head_normalize

/-- **Lookups of the same name on the wire share one key**, if no end is hidden. -/
theorem ofName_eq_of_absolute_eq {n m : String} {type : RecordType} (hn : ¬HidesEnd n)
    (hm : ¬HidesEnd m)
    (h : absolute (LookupKey.ofName n type).name = absolute (LookupKey.ofName m type).name) :
    LookupKey.ofName n type = LookupKey.ofName m type := by
  have hwire : normalize (normalize n) = normalize (normalize m) := by
    simpa [absolute, LookupKey.ofName, ← String.toList_inj] using h
  rw [normalize_normalize_iff.mpr hn, normalize_normalize_iff.mpr hm] at hwire
  rw [LookupKey.ofName, LookupKey.ofName, hwire]

end Domain

namespace Engine

open Scan

/-- **The spelling of names is stable in a scan**, up to names that hide their end. All checkers are
handed one name. It begins with no white space, lowercasing changes none of its characters, and it
ends with white space or a dot only if the name that the scan is given hides that; making it normal
again changes it in this case only. Lookups of names that do not hide their end have the same key if
the same name would go out for them. -/
theorem scan_spells_names (engine : Engine) (domain : String) (method : Method)
    (options : ScanOptions) (peers : Peers) (s : Session) :
    (∃ fuel result s', (engine.scan domain method options).run peers fuel s.forget =
      some (.returned result, s')) ∧
    (∀ outcome s', (engine.scan domain method options).Ends peers s.forget outcome s' →
      options.validate = .ok () → ∃ visits handed,
        Course peers (fun c => c.check ⟨options, engine.probes⟩ handed method)
          engine.checkers s.forget s' visits ∧
        (∀ c rest, handed.toList = c :: rest → Text.isBlank c = false) ∧
        (∀ c ∈ handed.toList, Text.lower [c] = [c]) ∧
        ((∃ front c, handed.toList = front ++ [c] ∧ (c = '.' ∨ Text.isBlank c = true)) ↔
          Domain.HidesEnd domain) ∧
        (Domain.normalize handed = handed ↔ ¬Domain.HidesEnd domain)) ∧
    (∀ name, Domain.normalize (Domain.normalize name) = Domain.normalize name ↔
      ¬Domain.HidesEnd name) ∧
    ∀ n m type, ¬Domain.HidesEnd n → ¬Domain.HidesEnd m →
      Domain.absolute (LookupKey.ofName n type).name =
        Domain.absolute (LookupKey.ofName m type).name →
      LookupKey.ofName n type = LookupKey.ofName m type := by
  refine ⟨exists_run_scan engine domain method options peers s, fun outcome s' h haccepted => ?_,
    fun name => Domain.normalize_normalize_iff, fun n m type => Domain.ofName_eq_of_absolute_eq⟩
  obtain ⟨visits, hcourse, -⟩ := exists_course haccepted h
  refine ⟨visits, _, hcourse, fun c rest => Domain.isBlank_of_head_normalize, fun c hc => ?_,
    Domain.normalize_ends_iff.symm, Domain.normalize_normalize_iff⟩
  exact Text.lower_eq_self fun d hd =>
    List.mem_singleton.mp hd ▸ Domain.isSettled_of_mem_normalize hc

/-- Two dots or a space before the final dot are hidden, and the two lookups have different keys. -/
theorem hidden_ends_show :
    Domain.normalize (Domain.normalize "a..") ≠ Domain.normalize "a.." ∧
      Domain.normalize (Domain.normalize "a .") ≠ Domain.normalize "a ." ∧
      Domain.absolute (LookupKey.ofName "a.." .a).name =
        Domain.absolute (LookupKey.ofName "a" .a).name ∧
      LookupKey.ofName "a.." .a ≠ LookupKey.ofName "a" .a := by
  decide +kernel

end Engine

end Rehearsal
