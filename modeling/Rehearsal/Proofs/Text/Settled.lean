import Rehearsal.Proofs.Text.Case

/-!
# Lowercase is settled

A text in lowercase is left as it is by lowercasing. The table that maps single characters might
lead from one character to another that it maps as well. It does not, which is a fact about its
data: the images of each of its runs lie outside of every run. Runs of every second character
interleave with their images; where the bounds are not apart, the parity of the characters decides.

White space and dots stay what they are, and nothing else becomes white space or a dot. A sigma
becomes one of two small letters, whatever stands around it. So a text begins and ends with white
space or a dot exactly if its lowercase does.

## Main definitions

* `Text.Run.leadsOut`: the images of a run lie outside of all runs, and of some more characters
* `Text.IsSettled`: lowercasing leaves the character as it is
* `Text.SameKind`: both characters are white space or neither is, and so for dots

## Main results

* `Text.areSettled_lowerRuns`: what the data of lowercasing are like
* `Text.lowerChar_cases`: a character is left as it is, or becomes letters that are settled
* `Text.lower_eq_self`, `Text.isSettled_of_mem_lower`: lowercase is settled
* `Text.exists_lower_cons`, `Text.exists_lower_concat`: how lowercase begins and ends
-/

namespace Rehearsal

namespace Text

/-! ### Runs that lead out of runs -/

/-- Does one span of code points end before the other one begins? -/
def areApart (span other : Nat × Nat) : Bool := span.2.blt other.1 || other.2.blt span.1

theorem areApart_iff {span other : Nat × Nat} :
    areApart span other = true ↔ span.2 < other.1 ∨ other.2 < span.1 := by
  rw [areApart, Bool.or_eq_true, Nat.blt_eq, Nat.blt_eq]

/-- The spans of white space. -/
def blankSpans : List (Nat × Nat) := [(0x9, 0xD), (0x20, 0x20), (0x85, 0x85), (0xA0, 0xA0),
  (0x1680, 0x1680), (0x2000, 0x200A), (0x2028, 0x2029), (0x202F, 0x202F), (0x205F, 0x205F),
  (0x3000, 0x3000)]

/-- A character is no white space if it is outside of the spans of that. -/
theorem isBlank_eq_false_iff {c : Char} :
    isBlank c = false ↔ ∀ span ∈ blankSpans, areApart (c.toNat, c.toNat) span = true := by
  simp only [isBlank, blankSpans, areApart_iff, List.forall_mem_cons, Bool.or_eq_false_iff,
    Bool.and_eq_false_iff, decide_eq_false_iff_not, beq_eq_false_iff_ne]
  constructor
  · intro h
    refine ⟨?_, ?_, ?_, ?_, ?_, ?_, ?_, ?_, ?_, ?_, fun _ hnil => absurd hnil List.not_mem_nil⟩ <;>
      omega
  · intro h
    omega

/-- The spans of white space and of the characters whose lowercase the table does not decide: the
dot, the letters from A to Z, the letter with two images, and sigma. -/
def reservedSpans : List (Nat × Nat) :=
  (0x2E, 0x2E) :: (0x41, 0x5A) :: (0x130, 0x130) :: (0x3A3, 0x3A3) :: blankSpans

namespace Run

variable {run other : Run} {runs : List Run} {n : Nat} {codes : List Nat}

/-- Does the other run have every second character only, and not those from `low` on? `sparse` tells
that of these there is just one, or every second one as well. -/
def isBetween (low : Nat) (sparse : Bool) (other : Run) : Bool :=
  sparse && other.step == 2 && low % 2 != other.first % 2

/-- Does every image of the run lie outside of all runs and of the reserved spans? -/
def leadsOut (runs : List Run) (run : Run) : Bool :=
  match run.image with
  | [low] =>
    let images := (low, low + (run.last - run.first))
    let sparse := run.step == 2 || run.first == run.last
    reservedSpans.all (areApart images) &&
      runs.all fun other => areApart images (other.first, other.last) || isBetween low sparse other
  | _ => false

/-- Where a run leads to. -/
theorem image?_of_leadsOut (h : run.leadsOut runs = true) (himage : run.image? n = some codes) :
    ∃ code, codes = [code] ∧ (∀ other ∈ runs, other.image? code = none) ∧
      ∀ span ∈ reservedSpans, areApart (code, code) span = true := by
  unfold leadsOut at h
  split at h
  next low hlow =>
    rw [Bool.and_eq_true, List.all_eq_true, List.all_eq_true] at h
    obtain ⟨hreserved, hruns⟩ := h
    rw [image?, hlow] at himage
    obtain ⟨⟨hfirst, hlast, hstep⟩, hcodes⟩ := Option.ite_none_right_eq_some.mp himage
    refine ⟨low + (n - run.first), (Option.some.inj hcodes).symm, fun other hother => ?_,
      fun span hspan => ?_⟩
    · rw [image?, if_neg]
      rintro ⟨hfrom, hto, hon⟩
      -- either the image is beyond the bounds of the other run, or it has the wrong parity
      rcases Bool.or_eq_true _ _ ▸ hruns other hother with hapart | hbetween
      · have hsides := areApart_iff.mp hapart
        dsimp only at hsides
        omega
      · simp only [isBetween, Bool.and_eq_true, Bool.or_eq_true, beq_iff_eq, bne_iff_ne] at hbetween
        obtain ⟨⟨hsparse, htwo⟩, hparity⟩ := hbetween
        rw [htwo] at hon
        rcases hsparse with hsparse | hsparse
        · rw [hsparse] at hstep
          omega
        · omega
    · have hsides := areApart_iff.mp (hreserved span hspan)
      dsimp only at hsides
      rw [areApart_iff]
      omega
  next => cases h

end Run

/-- The runs lead out of themselves and of what is reserved, and none of them has white space in it,
nor one of the letters that are made in another way. -/
def areSettled (runs : List Run) : Bool :=
  runs.all fun run =>
    run.leadsOut runs && blankSpans.all (areApart (run.first, run.last)) &&
      [0x307, 0x3C2, 0x3C3].all fun n => (run.image? n).isNone

set_option maxRecDepth 20000 in
/-- **What the data of lowercasing are like.** -/
theorem areSettled_lowerRuns : areSettled lowerRuns.runs = true := by
  -- the table is taken apart as a list of characters
  obtain ⟨cs, hcs, hsettled⟩ : ∃ cs, lowerRuns = Runs.ofText (String.ofList cs) ∧
      areSettled (((cs.splitOnP fun c => c == ' ' || c == '\n').filter fun word =>
        !word.isEmpty).map Run.ofWritten) = true :=
    ⟨_, rfl, by decide +kernel⟩
  rwa [hcs, Runs.ofText, Ranges.words, String.toList_ofList]

/-! ### Characters -/

/-- Lowercasing leaves the character as it is. -/
def IsSettled (c : Char) : Prop := c ≠ 'Σ' ∧ lowerChar c = [c]

/-- The character is settled, and it is no white space and no dot. -/
structure IsPlainSettled (c : Char) : Prop where
  settled : IsSettled c
  not_blank : isBlank c = false
  not_dot : c ≠ '.'

instance : DecidablePred IsSettled := fun _ => inferInstanceAs (Decidable (_ ∧ _))

instance : DecidablePred IsPlainSettled := fun c =>
  decidable_of_iff (IsSettled c ∧ isBlank c = false ∧ c ≠ '.')
    ⟨fun ⟨h, h', h''⟩ => ⟨h, h', h''⟩, fun h => ⟨h.settled, h.not_blank, h.not_dot⟩⟩

/-- A character that the table does not map and that is not reserved is settled. -/
theorem isPlainSettled_of_unmapped {c : Char} (himage : lowerRuns.image? c = none)
    (hapart : ∀ span ∈ reservedSpans, areApart (c.toNat, c.toNat) span = true) :
    IsPlainSettled c := by
  have hother {d : Char} (hd : (d.toNat, d.toNat) ∈ reservedSpans) : c ≠ d := by
    rintro rfl
    have hsides := areApart_iff.mp (hapart _ hd)
    dsimp only at hsides
    omega
  have hletter : ¬('A' ≤ c ∧ c ≤ 'Z') := by
    rintro ⟨hfirst, hlast⟩
    have hsides := areApart_iff.mp (hapart (0x41, 0x5A) (by decide))
    have hfrom : 0x41 ≤ c.toNat := hfirst
    have hto : c.toNat ≤ 0x5A := hlast
    dsimp only at hsides
    omega
  refine ⟨⟨hother (by decide), ?_⟩, isBlank_eq_false_iff.mpr fun span hspan => ?_,
    hother (by decide)⟩
  · rw [lowerChar, asciiLower, if_neg hletter, if_neg (hother (by decide)), himage,
      Option.getD_none, ite_self]
  · exact hapart span (List.mem_append_right [_, _, _, _] hspan)

/-- A code point that no run maps is not mapped by the table. -/
theorem image?_eq_none {runs : Runs} {c : Char}
    (h : ∀ run ∈ runs.runs, run.image? c.toNat = none) : runs.image? c = none := by
  rw [Runs.image?, Option.map_eq_none_iff, List.findSome?_eq_none_iff]
  exact h

/-- The letters that are made in another way than by the table are settled. -/
theorem isPlainSettled_of_made {c : Char} (hc : c ∈ ['\u0307', 'ς', 'σ']) : IsPlainSettled c := by
  have hcode : c.toNat ∈ [0x307, 0x3C2, 0x3C3] := List.mem_map_of_mem (f := Char.toNat) hc
  have hapart : ∀ span ∈ reservedSpans, areApart (c.toNat, c.toNat) span = true := by
    simp only [List.mem_cons, List.not_mem_nil, or_false] at hc
    rcases hc with rfl | rfl | rfl <;> decide
  refine isPlainSettled_of_unmapped (image?_eq_none fun run hrun => ?_) hapart
  have hsettled := List.all_eq_true.mp areSettled_lowerRuns run hrun
  rw [Bool.and_eq_true, List.all_eq_true (l := [0x307, 0x3C2, 0x3C3])] at hsettled
  exact Option.isNone_iff_eq_none.mp (hsettled.2 _ hcode)

/-- What the table maps a character to is settled, and the character is no white space. -/
theorem lowerRuns_image? {c : Char} {cs : List Char} (h : lowerRuns.image? c = some cs) :
    isBlank c = false ∧ ∀ d ∈ cs, IsPlainSettled d := by
  obtain ⟨codes, hcodes, rfl⟩ := Option.map_eq_some_iff.mp h
  obtain ⟨run, hrun, himage⟩ := List.exists_of_findSome?_eq_some hcodes
  have hsettled := List.all_eq_true.mp areSettled_lowerRuns run hrun
  simp only [Bool.and_eq_true] at hsettled
  obtain ⟨⟨hleads, hblank⟩, -⟩ := hsettled
  constructor
  · refine isBlank_eq_false_iff.mpr fun span hspan => ?_
    have hsides := areApart_iff.mp (List.all_eq_true.mp hblank span hspan)
    obtain ⟨⟨hfirst, hlast, -⟩, -⟩ := Option.ite_none_right_eq_some.mp himage
    dsimp only at hsides
    rw [areApart_iff]
    omega
  · obtain ⟨code, rfl, hruns, hreserved⟩ := Run.image?_of_leadsOut hleads himage
    intro d hd
    obtain rfl : d = Char.ofNat code := by simpa using hd
    by_cases hvalid : code.isValidChar
    · have hcode : (Char.ofNat code).toNat = code := by
        rw [Char.ofNat, dif_pos hvalid]
        rfl
      refine isPlainSettled_of_unmapped (image?_eq_none fun other hother => ?_) ?_
      · rw [hcode]
        exact hruns other hother
      · rwa [hcode]
    · -- a code point that is no character stands for the first one
      have hzero : Char.ofNat code = '\x00' := by
        rw [Char.ofNat, dif_neg hvalid]
        rfl
      rw [hzero]
      decide

/-- **A character is left as it is, or becomes letters that are settled.** In the second case it is
no white space and no dot. -/
theorem lowerChar_cases (c : Char) :
    lowerChar c = [c] ∨ isBlank c = false ∧ c ≠ '.' ∧ ∀ d ∈ lowerChar c, IsPlainSettled d := by
  rw [lowerChar]
  split
  next hascii =>
    by_cases hletter : 'A' ≤ c ∧ c ≤ 'Z'
    · have hletters : ∀ i < 26, isBlank (Char.ofNat (65 + i)) = false ∧ Char.ofNat (65 + i) ≠ '.' ∧
          IsPlainSettled (asciiLower (Char.ofNat (65 + i))) := by decide +kernel
      have hfirst : 65 ≤ c.toNat := hletter.1
      have hlast : c.toNat ≤ 90 := hletter.2
      have hc := hletters (c.toNat - 65) (by omega)
      rw [show 65 + (c.toNat - 65) = c.toNat by omega, Char.ofNat_toNat] at hc
      exact .inr ⟨hc.1, hc.2.1, fun d hd => List.mem_singleton.mp hd ▸ hc.2.2⟩
    · rw [asciiLower, if_neg hletter]
      exact .inl rfl
  next hother =>
    have hdot : c ≠ '.' := fun heq => hother (heq ▸ by decide)
    split
    next hdotted =>
      refine .inr ⟨hdotted ▸ by decide, hdot, fun d hd => ?_⟩
      rcases List.mem_cons.mp hd with rfl | hd
      · decide
      · exact isPlainSettled_of_made (List.mem_cons.mpr (.inl (List.mem_singleton.mp hd)))
    next =>
      cases himage : lowerRuns.image? c with
      | none => exact .inl rfl
      | some cs => exact .inr ⟨(lowerRuns_image? himage).1, hdot, (lowerRuns_image? himage).2⟩

/-! ### Texts -/

/-- Both characters are white space or neither is, and both are dots or neither is. -/
def SameKind (c d : Char) : Prop := isBlank d = isBlank c ∧ (d = '.' ↔ c = '.')

/-- What stands for a character in lowercase, with what it stands after and before. -/
def lowerAt (before : List Char) (c : Char) (after : List Char) : List Char :=
  if c = 'Σ' then [if endsWord before after then 'ς' else 'σ'] else lowerChar c

theorem lowerAfter_cons (before : List Char) (c : Char) (cs : List Char) :
    lowerAfter before (c :: cs) = lowerAt before c cs ++ lowerAfter (c :: before) cs := rfl

theorem lowerAt_ne_nil (before : List Char) (c : Char) (after : List Char) :
    lowerAt before c after ≠ [] := by
  rw [lowerAt]
  split
  · exact List.cons_ne_nil _ _
  · exact lowerChar_ne_nil c

/-- **What stands for a character is settled, and of the kind of the character.** -/
theorem settled_of_mem_lowerAt {before : List Char} {c d : Char} {after : List Char}
    (h : d ∈ lowerAt before c after) : IsSettled d ∧ SameKind c d := by
  have hplain (hblank : isBlank c = false) (hdot : c ≠ '.') (hd : IsPlainSettled d) :
      IsSettled d ∧ SameKind c d :=
    ⟨hd.settled, hd.not_blank.trans hblank.symm, iff_of_false hd.not_dot hdot⟩
  rw [lowerAt] at h
  split at h
  next hsigma =>
    refine hplain (hsigma ▸ by decide) (hsigma ▸ by decide) (isPlainSettled_of_made ?_)
    rw [List.mem_singleton.mp h]
    split <;> simp
  next hsigma =>
    rcases lowerChar_cases c with hsame | ⟨hblank, hdot, hall⟩
    · rw [hsame, List.mem_singleton] at h
      subst h
      exact ⟨⟨hsigma, hsame⟩, rfl, Iff.rfl⟩
    · exact hplain hblank hdot (hall d h)

theorem isSettled_of_mem_lowerAfter {before cs : List Char} {d : Char}
    (h : d ∈ lowerAfter before cs) : IsSettled d := by
  induction cs generalizing before with
  | nil => cases h
  | cons c cs ih =>
    rw [lowerAfter_cons] at h
    rcases List.mem_append.mp h with hd | hd
    · exact (settled_of_mem_lowerAt hd).1
    · exact ih hd

/-- **Lowercase is settled**, character by character. -/
theorem isSettled_of_mem_lower {cs : List Char} {d : Char} (h : d ∈ lower cs) : IsSettled d :=
  isSettled_of_mem_lowerAfter h

/-- **A settled text is its own lowercase.** -/
theorem lower_eq_self {cs : List Char} (h : ∀ c ∈ cs, IsSettled c) : lower cs = cs := by
  have hsigma : 'Σ' ∉ cs := fun hmem => (h _ hmem).1 rfl
  rw [lower, lowerAfter_eq_flatMap hsigma]
  calc cs.flatMap lowerChar = cs.flatMap fun c => [c] :=
        List.flatMap_congr fun c hc => (h c hc).2
    _ = cs := List.flatMap_singleton' cs

/-- How lowercase begins. -/
theorem exists_lower_cons (c : Char) (cs : List Char) :
    ∃ d rest, lower (c :: cs) = d :: rest ∧ SameKind c d := by
  obtain ⟨d, rest, hrest⟩ := List.exists_cons_of_ne_nil (lowerAt_ne_nil [] c cs)
  refine ⟨d, rest ++ lowerAfter [c] cs, ?_, (settled_of_mem_lowerAt (hrest ▸ List.mem_cons_self)).2⟩
  rw [lower, lowerAfter_cons, hrest, List.cons_append]

theorem exists_lowerAfter_concat (before cs : List Char) (c : Char) :
    ∃ front d, lowerAfter before (cs ++ [c]) = front ++ [d] ∧ SameKind c d := by
  induction cs generalizing before with
  | nil =>
    obtain ⟨front, d, hfront⟩ := List.eq_nil_or_concat' (lowerAt before c []) |>.resolve_left
      (lowerAt_ne_nil before c [])
    refine ⟨front, d, ?_, (settled_of_mem_lowerAt (hfront ▸ List.mem_concat_self)).2⟩
    rw [List.nil_append, lowerAfter_cons, hfront, lowerAfter, List.append_nil]
  | cons b cs ih =>
    obtain ⟨front, d, hfront, hkind⟩ := ih (b :: before)
    exact ⟨lowerAt before b (cs ++ [c]) ++ front, d,
      by rw [List.cons_append, lowerAfter_cons, hfront, List.append_assoc], hkind⟩

/-- How lowercase ends. -/
theorem exists_lower_concat (cs : List Char) (c : Char) :
    ∃ front d, lower (cs ++ [c]) = front ++ [d] ∧ SameKind c d :=
  exists_lowerAfter_concat [] cs c

end Text

end Rehearsal
