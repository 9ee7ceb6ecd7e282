import Rehearsal.Text.Utf8
import Mathlib.Data.List.Basic

/-!
# Texts tell their bytes

A text can be written in one way only, since no character is read from a form that is longer than it
needs to be. So bytes that are a text are those that the text is written with, and two such
sequences of bytes that read alike are the same. This fails as soon as something is broken: all
broken characters are shown alike.

## Main definitions

* `Text.Lead`: what lead bytes announce

## Main results

* `Text.utf8EncodeChar_decodeOne`: the bytes of one character
* `Text.encode_of_decode?`: the bytes of a text
* `Text.encode_decodeLossy`: nothing is lost where nothing is broken
-/

namespace Rehearsal

namespace Text

/-! ### One character -/

variable {b : UInt8} {bs : Bytes} {bits more value used : Nat} {range : Nat × Nat} {c : Char}

/-- A continuation byte that fits is taken in, and the others follow. -/
theorem continued_succ (h : continued bits (more + 1) range bs = (some value, used)) :
    ∃ d ds rest, bs = d :: ds ∧ range.1 ≤ d.toNat ∧ d.toNat ≤ range.2 ∧
      continued (64 * bits + d.toNat % 64) more (0x80, 0xBF) ds = (some value, rest) ∧
      used = rest + 1 := by
  cases bs with
  | nil => cases h
  | cons d ds =>
    rw [continued] at h
    split at h
    next hrange =>
      obtain ⟨hvalue, rfl⟩ := Prod.mk.inj h
      exact ⟨d, ds, _, rfl, hrange.1, hrange.2, Prod.ext hvalue rfl, rfl⟩
    next => cases h

theorem continued_zero (h : continued bits 0 range bs = (some value, used)) :
    value = bits ∧ used = 0 := by
  obtain ⟨hvalue, rfl⟩ := Prod.mk.inj h
  exact ⟨(Option.some.inj hvalue).symm, rfl⟩

theorem ofNat_eq_of_mod {n : Nat} (h : n % 256 = b.toNat) : UInt8.ofNat n = b := by
  rw [← UInt8.toNat_inj, UInt8.toNat_ofNat']
  exact h

/-- The bytes of a character by its number. -/
theorem utf8EncodeChar_ofNat (h : value.isValidChar) :
    String.utf8EncodeChar (Char.ofNat value) =
      if value ≤ 0x7F then [.ofNat value]
      else if value ≤ 0x7FF then [.ofNat (value / 64 % 32 + 192), .ofNat (value % 64 + 128)]
      else if value ≤ 0xFFFF then
        [.ofNat (value / 4096 % 16 + 224), .ofNat (value / 64 % 64 + 128),
          .ofNat (value % 64 + 128)]
      else
        [.ofNat (value / 262144 % 8 + 240), .ofNat (value / 4096 % 64 + 128),
          .ofNat (value / 64 % 64 + 128), .ofNat (value % 64 + 128)] := by
  have hval : (Char.ofNat value).val.toNat = value := by
    rw [Char.ofNat, dif_pos h]
    rfl
  unfold String.utf8EncodeChar
  simp only [hval]


/-- A character that was read has a number, and its bytes are those that it was read from. -/
theorem continued_of_decodeOne (h : decodeOne b bs = (some c, used)) :
    ∃ more range bits value, announced b = some (more, range, bits) ∧
      continued bits more range bs = (some value, used) ∧ c = Char.ofNat value := by
  unfold decodeOne at h
  split at h
  next => cases h
  next more range bits hlead =>
    obtain ⟨hc, hused⟩ := Prod.mk.inj h
    obtain ⟨value, hvalue, rfl⟩ := Option.map_eq_some_iff.mp hc
    exact ⟨more, range, bits, value, hlead, Prod.ext hvalue hused, rfl⟩

/-- What a lead byte with a number announces, by how many bytes follow it. The range of the first of
these leaves out shorter forms, surrogates and what is too large. -/
inductive Lead (n : Nat) : Nat → Nat × Nat → Nat → Prop where
  | one (hn : n < 0x80) : Lead n 0 (0, 0) n
  | two {bits : Nat} (hn : 0xC2 ≤ n ∧ n < 0xE0) (hbits : bits + 0xC0 = n) :
    Lead n 1 (0x80, 0xBF) bits
  | three {bits low high : Nat} (hn : 0xE0 ≤ n ∧ n < 0xF0) (hbits : bits + 0xE0 = n)
    (hrange : 0x80 ≤ low ∧ high ≤ 0xBF) (hshort : n = 0xE0 → 0xA0 ≤ low)
    (hsurrogate : n = 0xED → high ≤ 0x9F) : Lead n 2 (low, high) bits
  | four {bits low high : Nat} (hn : 0xF0 ≤ n ∧ n ≤ 0xF4) (hbits : bits + 0xF0 = n)
    (hrange : 0x80 ≤ low ∧ high ≤ 0xBF) (hshort : n = 0xF0 → 0x90 ≤ low)
    (hlarge : n = 0xF4 → high ≤ 0x8F) : Lead n 3 (low, high) bits

theorem lead_of_announced (h : announced b = some (more, range, bits)) :
    Lead b.toNat more range bits := by
  unfold announced at h
  dsimp only at h
  repeat' split at h
  all_goals cases h
  · exact .one (by omega)
  · exact .two (by omega) (by omega)
  · exact .three (by omega) (by omega) (by omega) (by omega) (by omega)
  · exact .three (by omega) (by omega) (by omega) (by omega) (by omega)
  · exact .three (by omega) (by omega) (by omega) (by omega) (by omega)
  · exact .four (by omega) (by omega) (by omega) (by omega) (by omega)
  · exact .four (by omega) (by omega) (by omega) (by omega) (by omega)
  · exact .four (by omega) (by omega) (by omega) (by omega) (by omega)

/-- **The bytes of a character that was read are those that it was read from.** -/
theorem utf8EncodeChar_decodeOne (h : decodeOne b bs = (some c, used)) :
    String.utf8EncodeChar c = b :: bs.take used := by
  obtain ⟨more, range, bits, value, hlead, hcont, rfl⟩ := continued_of_decodeOne h
  cases lead_of_announced hlead with
  | one hn =>
    obtain ⟨rfl, rfl⟩ := continued_zero hcont
    have hvalid : b.toNat.isValidChar := .inl (by omega)
    rw [utf8EncodeChar_ofNat hvalid, if_pos (by omega), UInt8.ofNat_toNat, List.take_zero]
  | two hn hbits =>
    obtain ⟨d, ds, _, rfl, hd, hd', hcont₁, rfl⟩ := continued_succ hcont
    obtain ⟨rfl, rfl⟩ := continued_zero hcont₁
    dsimp only at hd hd'
    have hvalid : (64 * bits + d.toNat % 64).isValidChar := .inl (by omega)
    rw [utf8EncodeChar_ofNat hvalid, if_neg (by omega), if_pos (by omega)]
    rw [ofNat_eq_of_mod (b := b) (by omega), ofNat_eq_of_mod (b := d) (by omega)]
    rfl
  | three hn hbits hrange hshort hsurrogate =>
    obtain ⟨d, ds, _, rfl, hd, hd', hcont₁, rfl⟩ := continued_succ hcont
    obtain ⟨e, es, _, rfl, he, he', hcont₂, rfl⟩ := continued_succ hcont₁
    obtain ⟨rfl, rfl⟩ := continued_zero hcont₂
    dsimp only at hd hd' he he'
    have hvalid : (64 * (64 * bits + d.toNat % 64) + e.toNat % 64).isValidChar := by
      rw [Nat.isValidChar]
      omega
    rw [utf8EncodeChar_ofNat hvalid, if_neg (by omega), if_neg (by omega), if_pos (by omega)]
    rw [ofNat_eq_of_mod (b := b) (by omega), ofNat_eq_of_mod (b := d) (by omega),
      ofNat_eq_of_mod (b := e) (by omega)]
    rfl
  | four hn hbits hrange hshort hlarge =>
    obtain ⟨d, ds, _, rfl, hd, hd', hcont₁, rfl⟩ := continued_succ hcont
    obtain ⟨e, es, _, rfl, he, he', hcont₂, rfl⟩ := continued_succ hcont₁
    obtain ⟨f, fs, _, rfl, hf, hf', hcont₃, rfl⟩ := continued_succ hcont₂
    obtain ⟨rfl, rfl⟩ := continued_zero hcont₃
    dsimp only at hd hd' he he' hf hf'
    have hvalid : (64 * (64 * (64 * bits + d.toNat % 64) + e.toNat % 64) +
        f.toNat % 64).isValidChar := by
      rw [Nat.isValidChar]
      omega
    rw [utf8EncodeChar_ofNat hvalid, if_neg (by omega), if_neg (by omega), if_neg (by omega)]
    rw [ofNat_eq_of_mod (b := b) (by omega), ofNat_eq_of_mod (b := d) (by omega),
      ofNat_eq_of_mod (b := e) (by omega), ofNat_eq_of_mod (b := f) (by omega)]
    rfl

/-! ### Whole texts -/

variable {cs : List Char} {text : String} {bytes : Bytes}

theorem eq_map_some_of_mapM {each : List (Option Char)} (h : each.mapM id = some cs) :
    each = cs.map some := by
  induction each generalizing cs with
  | nil =>
    obtain rfl : [] = cs := by simpa using h
    rfl
  | cons c each ih =>
    rw [List.mapM_cons] at h
    cases c with
    | none => cases h
    | some c =>
      cases hrest : each.mapM id with
      | none => simp [hrest] at h
      | some rest =>
        obtain rfl : c :: rest = cs := by simpa [hrest] using h
        rw [ih hrest, List.map_cons]

theorem encode_of_decodeEach (h : decodeEach bs = cs.map some) :
    cs.flatMap String.utf8EncodeChar = bs := by
  induction bs using decodeEach.induct generalizing cs with
  | case1 =>
    obtain rfl : cs = [] := by simpa [decodeEach] using h.symm
    rfl
  | case2 b bs c used hone ih =>
    rw [decodeEach, hone] at h
    obtain ⟨d, rest, rfl, rfl, hrest⟩ := List.map_eq_cons_iff.mp h.symm
    rw [List.flatMap_cons, ih hrest.symm, utf8EncodeChar_decodeOne hone, List.cons_append,
      List.take_append_drop]

/-- **The bytes of a text that was read are those that it was read from.** -/
theorem encode_of_decode? (h : decode? bytes = some text) : encode text = bytes := by
  obtain ⟨cs, hcs, rfl⟩ := Option.map_eq_some_iff.mp h
  rw [encode, String.toList_ofList]
  exact encode_of_decodeEach (eq_map_some_of_mapM hcs)

/-- Where nothing is broken, nothing is lost. -/
theorem decodeLossy_of_decode? (h : decode? bytes = some text) : decodeLossy bytes = text := by
  obtain ⟨cs, hcs, rfl⟩ := Option.map_eq_some_iff.mp h
  rw [decodeLossy, eq_map_some_of_mapM hcs, List.map_map]
  exact congrArg String.ofList (List.map_id cs)

/-- **Bytes that are a text are told by the text that is read from them.** -/
theorem encode_decodeLossy (h : (decode? bytes).isSome) : encode (decodeLossy bytes) = bytes := by
  obtain ⟨text, htext⟩ := Option.isSome_iff_exists.mp h
  rw [decodeLossy_of_decode? htext, encode_of_decode? htext]

end Text

end Rehearsal
