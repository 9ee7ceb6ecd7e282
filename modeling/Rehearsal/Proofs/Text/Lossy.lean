import Rehearsal.Proofs.Text.Utf8

/-!
# What is lost when bytes are shown

Bytes are shown as text even where they are none: what is broken becomes a replacement character.
A text that is written is read again as it was. Bytes that are shown as it may be others only if
there is a replacement character in it.

A replacement character takes as many bytes as may be broken off at once, so a text has no fewer
bytes than what it was read from. It is enough to look at a few bytes more than a text has to know
that others are not shown as it.

## Main results

* `Text.decodeLossy_encode`: what is written is read again
* `Text.length_le_byteLength_decodeLossy`: no text is shorter than the bytes it was read from
* `Text.decodeLossy_take_eq_iff`: the beginning of the bytes is enough for a comparison
* `Text.decodeLossy_eq_iff`: where nothing is replaced, the comparison is one of bytes
-/

namespace Rehearsal

namespace Text

variable {b d : UInt8} {bs : Bytes} {bits more value used : Nat} {range : Nat × Nat} {c : Char}

/-! ### Characters that are written -/

theorem decodeOne_of_continued (hlead : announced b = some (more, range, bits))
    (hcont : continued bits more range bs = (some value, used)) :
    decodeOne b bs = (some (Char.ofNat value), used) := by
  rw [decodeOne, hlead]
  simp only [hcont, Option.map_some]

theorem continued_cons (hd : range.1 ≤ d.toNat ∧ d.toNat ≤ range.2)
    (hcont : continued (64 * bits + d.toNat % 64) more (0x80, 0xBF) bs = (some value, used)) :
    continued bits (more + 1) range (d :: bs) = (some value, used + 1) := by
  rw [continued, if_pos hd, hcont]

theorem announced_one (h : b.toNat < 0x80) : announced b = some (0, (0, 0), b.toNat) := by
  rw [announced, if_pos h]

theorem announced_two (h : 0xC2 ≤ b.toNat ∧ b.toNat < 0xE0) :
    announced b = some (1, (0x80, 0xBF), b.toNat - 0xC0) := by
  rw [announced, if_neg (by omega), if_neg (by omega), if_pos h.2]

/-- The range of the second of three bytes leaves out what the first one makes too short or a
surrogate. -/
theorem announced_three (h : 0xE0 ≤ b.toNat ∧ b.toNat < 0xF0) :
    ∃ range : Nat × Nat, announced b = some (2, range, b.toNat - 0xE0) ∧
      ∀ n, 0x80 ≤ n ∧ n ≤ 0xBF → (b.toNat = 0xE0 → 0xA0 ≤ n) → (b.toNat = 0xED → n ≤ 0x9F) →
        range.1 ≤ n ∧ n ≤ range.2 := by
  unfold announced
  rw [if_neg (by omega), if_neg (by omega), if_neg (by omega)]
  split
  next h => exact ⟨(0xA0, 0xBF), by rw [h], fun n hn hshort _ => ⟨hshort h, hn.2⟩⟩
  next =>
    split
    next h => exact ⟨(0x80, 0x9F), by rw [h], fun n hn _ hlarge => ⟨hn.1, hlarge h⟩⟩
    next => exact ⟨(0x80, 0xBF), by rw [if_pos h.2], fun n hn _ _ => hn⟩

/-- The range of the second of four bytes leaves out what the first one makes too short or too
large. -/
theorem announced_four (h : 0xF0 ≤ b.toNat ∧ b.toNat ≤ 0xF4) :
    ∃ range : Nat × Nat, announced b = some (3, range, b.toNat - 0xF0) ∧
      ∀ n, 0x80 ≤ n ∧ n ≤ 0xBF → (b.toNat = 0xF0 → 0x90 ≤ n) → (b.toNat = 0xF4 → n ≤ 0x8F) →
        range.1 ≤ n ∧ n ≤ range.2 := by
  unfold announced
  rw [if_neg (by omega), if_neg (by omega), if_neg (by omega), if_neg (by omega), if_neg (by omega),
    if_neg (by omega)]
  split
  next h => exact ⟨(0x90, 0xBF), by rw [h], fun n hn hshort _ => ⟨hshort h, hn.2⟩⟩
  next =>
    split
    next => exact ⟨(0x80, 0xBF), rfl, fun n hn _ _ => hn⟩
    next =>
      have hlast : b.toNat = 0xF4 := by omega
      exact ⟨(0x80, 0x8F), by rw [if_pos hlast, hlast], fun n hn _ hlarge => ⟨hn.1, hlarge hlast⟩⟩

section Written

variable {e f : UInt8} {n : Nat} {rest : Bytes}

theorem continued_zero_eq (h : bits = n) : continued bits 0 range bs = (some n, 0) := by
  rw [continued, h]

theorem decodeOne_one (hb : b.toNat = n) (hn : n < 0x80) :
    decodeOne b bs = (some (Char.ofNat n), 0) :=
  decodeOne_of_continued (announced_one (by omega)) (continued_zero_eq hb)

theorem decodeOne_two (hb : b.toNat = n / 64 + 192) (hd : d.toNat = n % 64 + 128)
    (hn : 0x80 ≤ n ∧ n < 0x800) : decodeOne b (d :: bs) = (some (Char.ofNat n), 1) := by
  refine decodeOne_of_continued (announced_two (by omega)) ?_
  exact continued_cons (by dsimp only; omega) (continued_zero_eq (by omega))

theorem decodeOne_three (hb : b.toNat = n / 4096 + 224) (hd : d.toNat = n / 64 % 64 + 128)
    (he : e.toNat = n % 64 + 128) (hn : 0x800 ≤ n ∧ n < 0x10000)
    (hvalid : n < 0xD800 ∨ 0xDFFF < n) :
    decodeOne b (d :: e :: bs) = (some (Char.ofNat n), 2) := by
  obtain ⟨range, hlead, hrange⟩ := announced_three (b := b) (by omega)
  refine decodeOne_of_continued hlead (continued_cons ?_ ?_)
  · exact hrange _ (by omega) (by omega) (by omega)
  · exact continued_cons (by dsimp only; omega) (continued_zero_eq (by omega))

theorem decodeOne_four (hb : b.toNat = n / 262144 + 240) (hd : d.toNat = n / 4096 % 64 + 128)
    (he : e.toNat = n / 64 % 64 + 128) (hf : f.toNat = n % 64 + 128)
    (hn : 0x10000 ≤ n ∧ n < 0x110000) :
    decodeOne b (d :: e :: f :: bs) = (some (Char.ofNat n), 3) := by
  obtain ⟨range, hlead, hrange⟩ := announced_four (b := b) (by omega)
  refine decodeOne_of_continued hlead (continued_cons ?_ ?_)
  · exact hrange _ (by omega) (by omega) (by omega)
  · refine continued_cons (by dsimp only; omega) ?_
    exact continued_cons (by dsimp only; omega) (continued_zero_eq (by omega))

end Written

/-- **A character that is written is read again.** -/
theorem decodeOne_utf8EncodeChar (c : Char) (rest : Bytes) :
    ∃ b ds, String.utf8EncodeChar c = b :: ds ∧ decodeOne b (ds ++ rest) = (some c, ds.length) := by
  obtain ⟨n, hvalid, rfl⟩ : ∃ n : Nat, n.isValidChar ∧ c = Char.ofNat n :=
    ⟨c.toNat, c.valid, (Char.ofNat_toNat c).symm⟩
  rw [utf8EncodeChar_ofNat hvalid]
  rw [Nat.isValidChar] at hvalid
  have hbyte {m k : Nat} (hk : k = m) (hm : m < 256) : (UInt8.ofNat k).toNat = m := by
    rw [UInt8.toNat_ofNat', hk]
    exact Nat.mod_eq_of_lt hm
  split
  next => exact ⟨_, _, rfl, decodeOne_one (hbyte rfl (by omega)) (by omega)⟩
  next =>
    split
    next =>
      exact ⟨_, _, rfl, decodeOne_two (hbyte (by omega) (by omega)) (hbyte rfl (by omega))
        (by omega)⟩
    next =>
      split
      next =>
        exact ⟨_, _, rfl, decodeOne_three (hbyte (by omega) (by omega)) (hbyte rfl (by omega))
          (hbyte rfl (by omega)) (by omega) (by omega)⟩
      next =>
        exact ⟨_, _, rfl, decodeOne_four (hbyte (by omega) (by omega)) (hbyte rfl (by omega))
          (hbyte rfl (by omega)) (hbyte rfl (by omega)) (by omega)⟩

/-! ### Texts that are written -/

theorem decodeEach_flatMap (cs : List Char) :
    decodeEach (cs.flatMap String.utf8EncodeChar) = cs.map some := by
  induction cs with
  | nil => rw [List.flatMap_nil, decodeEach, List.map_nil]
  | cons c cs ih =>
    obtain ⟨b, ds, hc, hone⟩ :=
      decodeOne_utf8EncodeChar c (cs.flatMap String.utf8EncodeChar)
    rw [List.flatMap_cons, hc, List.cons_append, decodeEach, hone]
    dsimp only
    rw [List.drop_left, ih, List.map_cons]

/-- **What is written is read again.** -/
theorem decodeLossy_encode (text : String) : decodeLossy (encode text) = text := by
  rw [decodeLossy, encode, decodeEach_flatMap, List.map_map]
  exact (congrArg String.ofList (List.map_id _)).trans String.ofList_toList

/-- **Where nothing is replaced, a comparison of texts is one of bytes.** -/
theorem decodeLossy_eq_iff {text : String} (h : '\uFFFD' ∉ text.toList) :
    decodeLossy bs = text ↔ bs = encode text := by
  constructor
  · rintro rfl
    rw [decodeLossy, String.toList_ofList] at h
    -- nothing stands for a broken character, or it would have been replaced
    have hwhole : decodeEach bs = ((decodeEach bs).map (·.getD '\uFFFD')).map some := by
      rw [List.map_map]
      refine (List.map_id _).symm.trans (List.map_congr_left fun o ho => ?_)
      cases o with
      | none => exact absurd (List.mem_map.mpr ⟨none, ho, rfl⟩) h
      | some c => rfl
    rw [decodeLossy, encode, String.toList_ofList]
    exact (encode_of_decodeEach hwhole).symm
  · rintro rfl
    exact decodeLossy_encode text

/-! ### Lengths -/

/-- Where a byte does not fit, not all that were announced are taken in. -/
theorem lt_of_continued_eq_none (h : continued bits more range bs = (none, used)) :
    used < more := by
  induction more generalizing bits range bs used with
  | zero => cases h
  | succ more ih =>
    cases bs with
    | nil =>
      cases h
      exact Nat.succ_pos more
    | cons d ds =>
      rw [continued] at h
      split at h
      next =>
        obtain ⟨hnone, rfl⟩ := Prod.mk.inj h
        exact Nat.succ_lt_succ (ih (Prod.ext hnone rfl))
      next =>
        cases h
        exact Nat.succ_pos more

/-- No more than three bytes are broken off at once. -/
theorem used_le_of_decodeOne_eq_none (h : decodeOne b bs = (none, used)) : used ≤ 2 := by
  unfold decodeOne at h
  split at h
  next =>
    cases h
    exact Nat.zero_le 2
  next more range bits hlead =>
    obtain ⟨hnone, rfl⟩ := Prod.mk.inj h
    have hused := lt_of_continued_eq_none (Prod.ext (Option.map_eq_none_iff.mp hnone) rfl)
    have hmore : more ≤ 3 := by
      cases lead_of_announced hlead <;> decide
    exact Nat.le_of_lt_succ (Nat.lt_of_lt_of_le hused hmore)

/-- **No text is shorter than the bytes it was read from.** -/
theorem length_le_byteLength_decodeLossy (bs : Bytes) :
    bs.length ≤ byteLength (decodeLossy bs) := by
  rw [byteLength, encode, decodeLossy, String.toList_ofList]
  induction bs using decodeEach.induct with
  | case1 => exact Nat.zero_le _
  | case2 b bs c used hone ih =>
    rw [decodeEach, hone, List.map_cons, List.flatMap_cons, List.length_append, List.length_cons]
    rw [List.length_drop] at ih
    cases c with
    | none =>
      have hused := used_le_of_decodeOne_eq_none hone
      have hreplaced : (String.utf8EncodeChar '\uFFFD').length = 3 := rfl
      dsimp only [Option.getD_none]
      omega
    | some c =>
      have hchar := congrArg List.length (utf8EncodeChar_decodeOne hone)
      rw [List.length_cons, List.length_take] at hchar
      dsimp only [Option.getD_some]
      omega

/-- **The beginning of the bytes is enough for a comparison** if it is longer than the text. -/
theorem decodeLossy_take_eq_iff {text : String} {limit : Nat} (h : byteLength text < limit) :
    decodeLossy (bs.take limit) = text ↔ decodeLossy bs = text := by
  rcases Nat.lt_or_ge limit bs.length with hlong | hshort
  · have htake := length_le_byteLength_decodeLossy (bs.take limit)
    have hall := length_le_byteLength_decodeLossy bs
    rw [List.length_take_of_le (Nat.le_of_lt hlong)] at htake
    refine iff_of_false (fun heq => ?_) fun heq => ?_
    · rw [heq] at htake
      omega
    · rw [heq] at hall
      omega
  · rw [List.take_of_length_le hshort]

end Text

end Rehearsal
