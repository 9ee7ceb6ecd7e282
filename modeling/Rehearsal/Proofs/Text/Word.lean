import Rehearsal.Proofs.Text.Settled
import Rehearsal.Text.Search

/-!
# Words in capital and small letters

Whether a text holds a word in any case is asked of its lowercase. That is the same as looking for a
part of the text itself that spells the word letter by letter, each in its small or its capital
form. Only two characters outside of ASCII come near: the Kelvin sign is a form of `k`, and `İ`
becomes an `i` with a combining dot after it, which never goes on to a word. A word that ends in `i`
is left out for its sake.

## Main definitions

* `Text.IsFormOf`: a character is the small or the capital form of a letter
* `Text.Spells`: a text spells a word in any case

## Main results

* `Text.lowerChar_eq_singleton_iff`: the characters whose lowercase is a letter
* `Text.mentions_lower_iff`: the texts whose lowercase holds a word
-/

namespace Rehearsal

namespace Text

/-! ### Letters -/

/-- A small letter from a to z. -/
def IsSmall (letter : Char) : Prop := 'a' ≤ letter ∧ letter ≤ 'z'

instance : DecidablePred IsSmall := fun _ => inferInstanceAs (Decidable (_ ∧ _))

/-- The character is the small letter or its capital form; the Kelvin sign is one of `k`. -/
def IsFormOf (letter c : Char) : Prop :=
  c = letter ∨ c.toNat + 32 = letter.toNat ∨ letter = 'k' ∧ c = '\u212A'

theorem isSmall_iff {letter : Char} : IsSmall letter ↔ 97 ≤ letter.toNat ∧ letter.toNat ≤ 122 :=
  Iff.rfl

theorem lowerChar_letter {letter : Char} (h : IsSmall letter) : lowerChar letter = [letter] := by
  rw [isSmall_iff] at h
  have hcapital : ¬('A' ≤ letter ∧ letter ≤ 'Z') := fun hcapital =>
    absurd (show letter.toNat ≤ 90 from hcapital.2) (by omega)
  rw [lowerChar, if_pos (by omega), asciiLower, if_neg hcapital]

theorem lowerChar_capital {letter c : Char} (h : IsSmall letter)
    (hc : c.toNat + 32 = letter.toNat) : lowerChar c = [letter] := by
  rw [isSmall_iff] at h
  have hcapital : 'A' ≤ c ∧ c ≤ 'Z' :=
    ⟨show 65 ≤ c.toNat by omega, show c.toNat ≤ 90 by omega⟩
  rw [lowerChar, if_pos (by omega), asciiLower, if_pos hcapital, hc, Char.ofNat_toNat]

/-- No image of the run is a letter, unless the run is the Kelvin sign or a part of ASCII. -/
def missesLetters (run : Run) : Bool :=
  match run.image with
  | [low] =>
    run.last.blt 128 || run.first == 0x212A && run.last == 0x212A && low == 0x6B ||
      areApart (low, low + (run.last - run.first)) (0x61, 0x7A)
  | _ => false

set_option maxRecDepth 20000 in
/-- In the data of lowercasing, the letters are the images of their capitals and of the Kelvin sign,
and of nothing else. -/
theorem letters_lowerRuns : lowerRuns.runs.all missesLetters = true ∧
    (lowerRuns.runs.findSome? fun run => run.image? 0x212A) = some [0x6B] := by
  -- the table is taken apart as a list of characters
  obtain ⟨cs, hcs, hletters⟩ : ∃ cs, lowerRuns = Runs.ofText (String.ofList cs) ∧
      let runs := (((cs.splitOnP fun c => c == ' ' || c == '\n').filter fun word =>
        !word.isEmpty).map Run.ofWritten)
      runs.all missesLetters = true ∧
        (runs.findSome? fun run => run.image? 0x212A) = some [0x6B] :=
    ⟨_, rfl, by decide +kernel⟩
  rwa [hcs, Runs.ofText, Ranges.words, String.toList_ofList]

theorem lowerChar_kelvin : lowerChar '\u212A' = ['k'] := by
  have himage : lowerRuns.image? '\u212A' = some ['k'] :=
    Option.map_eq_some_iff.mpr ⟨_, letters_lowerRuns.2, rfl⟩
  rw [lowerChar, if_neg (by decide), if_neg (by decide), himage, Option.getD_some]

/-- Outside of ASCII, the table maps the Kelvin sign alone to a letter. -/
theorem eq_kelvin_of_image? {letter c : Char} (h : IsSmall letter) (hc : ¬c.toNat < 128)
    (himage : lowerRuns.image? c = some [letter]) : letter = 'k' ∧ c = '\u212A' := by
  obtain ⟨codes, hcodes, hmap⟩ := Option.map_eq_some_iff.mp himage
  obtain ⟨code, rfl, hcode⟩ := List.map_eq_singleton_iff.mp hmap
  obtain ⟨run, hrun, hrunimage⟩ := List.exists_of_findSome?_eq_some hcodes
  have hmisses := List.all_eq_true.mp letters_lowerRuns.1 run hrun
  rw [Run.image?, Option.ite_none_right_eq_some] at hrunimage
  obtain ⟨⟨hfirst, hlast, -⟩, hone⟩ := hrunimage
  unfold missesLetters at hmisses
  split at hmisses
  next low hlow =>
    rw [hlow, Option.some.injEq, List.singleton_inj] at hone
    rw [isSmall_iff, ← hcode] at h
    -- a code that is no character stands for the first one, which is no letter
    have hvalid : code.isValidChar := by
      by_contra hinvalid
      rw [Char.ofNat, dif_neg hinvalid] at h
      exact absurd h.1 (by decide)
    have hnat : (Char.ofNat code).toNat = code := by
      rw [Char.ofNat, dif_pos hvalid]
      rfl
    rw [hnat] at h
    simp only [Bool.or_eq_true, Bool.and_eq_true, Nat.blt_eq, beq_iff_eq, areApart_iff] at hmisses
    rcases hmisses with (hascii | ⟨⟨hkelvin, hkelvin'⟩, hk⟩) | hapart
    · omega
    · have hc' : c.toNat = 0x212A := by omega
      refine ⟨?_, ?_⟩
      · rw [← hcode, ← hone, hk, hc', hkelvin]
      · rw [← Char.ofNat_toNat c, hc']
    · omega
  next => cases hmisses

/-- **The characters whose lowercase is a letter.** -/
theorem lowerChar_eq_singleton_iff {letter c : Char} (h : IsSmall letter) :
    lowerChar c = [letter] ↔ IsFormOf letter c := by
  constructor
  · intro hlower
    rw [lowerChar] at hlower
    split at hlower
    next hascii =>
      rw [List.singleton_inj, asciiLower] at hlower
      split at hlower
      next hcapital =>
        have hfirst : 65 ≤ c.toNat := hcapital.1
        have hlast : c.toNat ≤ 90 := hcapital.2
        refine .inr (.inl ?_)
        rw [← hlower, Char.ofNat, dif_pos (.inl (by omega))]
        rfl
      next => exact .inl hlower
    next hother =>
      split at hlower
      next => cases hlower
      next =>
        cases himage : lowerRuns.image? c with
        | none =>
          rw [himage, Option.getD_none, List.singleton_inj] at hlower
          exact .inl hlower
        | some cs =>
          rw [himage, Option.getD_some] at hlower
          exact .inr (.inr (eq_kelvin_of_image? h hother (hlower ▸ himage)))
  · rintro (rfl | hc | ⟨rfl, rfl⟩)
    · exact lowerChar_letter h
    · exact lowerChar_capital h hc
    · exact lowerChar_kelvin

theorem IsFormOf.toNat_lt {letter c : Char} (h : IsFormOf letter c) (hletter : IsSmall letter) :
    c.toNat < 128 ∨ c = '\u212A' := by
  rw [isSmall_iff] at hletter
  rcases h with rfl | hc | ⟨-, hc⟩
  · exact .inl (by omega)
  · exact .inl (by omega)
  · exact .inr hc

theorem lowerChar_dotted : lowerChar 'İ' = ['i', '\u0307'] := by
  rw [lowerChar, if_neg (by decide), if_pos rfl]

/-- The lowercase of a character is one character, with one exception. -/
theorem exists_lowerChar_eq {c : Char} (h : c ≠ 'İ') : ∃ d, lowerChar c = [d] := by
  rw [lowerChar]
  split
  next => exact ⟨_, rfl⟩
  next =>
    cases himage : lowerRuns.image? c with
    | none => exact ⟨c, rfl⟩
    | some cs =>
      obtain ⟨codes, hcodes, rfl⟩ := Option.map_eq_some_iff.mp himage
      obtain ⟨run, hrun, hrunimage⟩ := List.exists_of_findSome?_eq_some hcodes
      have hsettled := List.all_eq_true.mp areSettled_lowerRuns run hrun
      simp only [Bool.and_eq_true] at hsettled
      obtain ⟨code, rfl, -⟩ := Run.image?_of_leadsOut hsettled.1.1 hrunimage
      exact ⟨Char.ofNat code, rfl⟩

/-! ### Words -/

/-- The text spells the word, each letter in its small or its capital form. -/
def Spells (word text : List Char) : Prop := List.Forall₂ IsFormOf word text

/-- A word is made of small letters and does not end in `i`. -/
structure IsWord (word : List Char) : Prop where
  small : ∀ letter ∈ word, IsSmall letter
  last : word.getLast? ≠ some 'i'

instance : DecidablePred IsWord := fun word =>
  -- the letters are gone through one by one, not all characters there are
  decidable_of_iff (word.all (fun letter => IsSmall letter) = true ∧ word.getLast? ≠ some 'i')
    ⟨fun ⟨h, h'⟩ => ⟨by simpa using h, h'⟩, fun h => ⟨by simpa using h.small, h.last⟩⟩

theorem IsWord.tail {letter : Char} {word : List Char} (h : IsWord (letter :: word)) :
    IsWord word where
  small m hm := h.small m (List.mem_cons_of_mem _ hm)
  last := by
    cases word with
    | nil => nofun
    | cons m word => exact List.getLast?_cons_cons ▸ h.last

/-- What stands for a character that begins a word has no more than its first letter in it, and then
the character is a form of that letter. -/
theorem cons_prefix_lowerAt_iff {letter : Char} {word before after rest : List Char} {c : Char}
    (h : IsWord (letter :: word)) :
    letter :: word <+: lowerAt before c after ++ rest ↔ IsFormOf letter c ∧ word <+: rest := by
  have hletter := h.small letter List.mem_cons_self
  rw [lowerAt]
  split
  next hsigma =>
    refine iff_of_false (fun hpre => ?_) fun hform => ?_
    · have heq := (List.cons_prefix_cons.mp hpre).1
      rw [heq] at hletter
      split at hletter <;> exact absurd hletter (by decide)
    · exact absurd (hsigma ▸ hform.1.toNat_lt hletter) (by decide)
  next =>
    by_cases hdotted : c = 'İ'
    · rw [hdotted, lowerChar_dotted]
      refine iff_of_false (fun hpre => ?_) fun hform => ?_
      · obtain ⟨rfl, htail⟩ := List.cons_prefix_cons.mp hpre
        cases word with
        | nil => exact h.last rfl
        | cons m word =>
          have hm := h.small m (by simp)
          rw [(List.cons_prefix_cons.mp htail).1] at hm
          exact absurd hm (by decide)
      · exact absurd (hform.1.toNat_lt hletter) (by decide)
    · obtain ⟨d, hd⟩ := exists_lowerChar_eq hdotted
      rw [← lowerChar_eq_singleton_iff hletter, hd, List.singleton_append, List.cons_prefix_cons,
        List.singleton_inj, eq_comm]

/-- **A word begins the lowercase of a text** exactly if a part at its beginning spells the word. -/
theorem prefix_lowerAfter_iff {word : List Char} (h : IsWord word) (before cs : List Char) :
    word <+: lowerAfter before cs ↔ ∃ part, part <+: cs ∧ Spells word part := by
  induction word generalizing before cs with
  | nil => exact iff_of_true List.nil_prefix ⟨[], List.nil_prefix, .nil⟩
  | cons letter word ih =>
    cases cs with
    | nil =>
      refine iff_of_false (fun hpre => ?_) ?_
      · cases List.prefix_nil.mp hpre
      · rintro ⟨part, hpart, hspells⟩
        rw [List.prefix_nil.mp hpart] at hspells
        cases hspells
    | cons c cs =>
      rw [lowerAfter_cons, cons_prefix_lowerAt_iff h, ih h.tail]
      constructor
      · rintro ⟨hform, part, hpart, hspells⟩
        exact ⟨c :: part, List.cons_prefix_cons.mpr ⟨rfl, hpart⟩, .cons hform hspells⟩
      · rintro ⟨_, hpart, _ | ⟨hform, hspells⟩⟩
        obtain ⟨rfl, htail⟩ := List.cons_prefix_cons.mp hpart
        exact ⟨hform, _, htail, hspells⟩

/-- A word that goes on within what stands for a character begins with it, or comes later. -/
theorem infix_lowerAt_iff {word before after rest : List Char} {c : Char} (h : IsWord word)
    (hne : word ≠ []) :
    word <:+: lowerAt before c after ++ rest ↔
      word <+: lowerAt before c after ++ rest ∨ word <:+: rest := by
  by_cases hdotted : c = 'İ'
  · have hdot : ¬word <+: '\u0307' :: rest := by
      obtain ⟨letter, word, rfl⟩ := List.exists_cons_of_ne_nil hne
      intro hpre
      have hletter := h.small letter List.mem_cons_self
      rw [(List.cons_prefix_cons.mp hpre).1] at hletter
      exact absurd hletter (by decide)
    have hat : lowerAt before c after = ['i', '\u0307'] := by
      rw [lowerAt, hdotted, if_neg (by decide), lowerChar_dotted]
    rw [hat, List.cons_append,
      List.infix_cons_iff, List.cons_append, List.nil_append, List.infix_cons_iff,
      or_iff_right hdot]
  · obtain ⟨d, hd⟩ : ∃ d, lowerAt before c after = [d] := by
      rw [lowerAt]
      split
      · exact ⟨_, rfl⟩
      · exact exists_lowerChar_eq hdotted
    rw [hd, List.singleton_append, List.infix_cons_iff]

/-- **The lowercase of a text holds a word** exactly if a part of the text spells it. -/
theorem infix_lowerAfter_iff {word : List Char} (h : IsWord word) (hne : word ≠ [])
    (before cs : List Char) :
    word <:+: lowerAfter before cs ↔ ∃ part, part <:+: cs ∧ Spells word part := by
  induction cs generalizing before with
  | nil =>
    refine iff_of_false (fun hin => hne (List.infix_nil.mp hin)) ?_
    rintro ⟨part, hpart, hspells⟩
    rw [List.infix_nil.mp hpart] at hspells
    cases hspells
    exact hne rfl
  | cons c cs ih =>
    rw [lowerAfter_cons, infix_lowerAt_iff h hne, ← lowerAfter_cons, prefix_lowerAfter_iff h, ih]
    simp only [List.infix_cons_iff, or_and_right, exists_or]

/-- **The texts whose lowercase holds a word.** -/
theorem mentions_lower_iff {word : String} (h : IsWord word.toList) (hne : word.toList ≠ [])
    (text : String) :
    mentions (String.ofList (lower text.toList)) word = true ↔
      ∃ part, part <:+: text.toList ∧ Spells word.toList part := by
  rw [mentions_iff, String.toList_ofList]
  exact infix_lowerAfter_iff h hne [] text.toList

end Text

end Rehearsal
