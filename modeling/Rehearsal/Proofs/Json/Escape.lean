import Rehearsal.Json.Printer

/-!
# Strings that are read back

Between its quotes a text is written character by character, and what one character becomes is read
without a look at what stands around it: the end of the string is not found inside it, and reading
it gives the character again. There are three forms that a character can take, and neither the end
of a string nor the text of it is concerned with more than those.

## Main definitions

* `Json.IsForm`: a form that a character can take between quotes

## Main results

* `Json.isForm_escapeChar`: every character is written in a form of its own
* `Json.stringBody?_escape`: a string that was written ends where it was ended
* `Json.unescape?_escape`: the text that was written is the text that is read
-/

namespace Rehearsal

namespace Json

/-- The forms of a character between quotes. -/
inductive IsForm (c : Char) : List Char → Prop where
  /-- A backslash and a character that stands for it. -/
  | short {e : Char} (hmem : (e, c) ∈ escapes) : IsForm c ['\\', e]
  /-- The number of a character that has no shape. -/
  | code {x y : Char} (hnumber : hexUnit? (some '0') (some '0') (some x) (some y) = some c.toNat)
      (hsmall : c.toNat < 0x20) : IsForm c ['\\', 'u', '0', '0', x, y]
  /-- The character itself. -/
  | plain (hquote : c ≠ '"') (hbackslash : c ≠ '\\') (hshape : ¬c.toNat < 0x20) : IsForm c [c]

/-- The two digits of a number below thirty-two write that number. -/
theorem hexUnit?_digits : ∀ n < 0x20,
    Text.hexDigits (n % 16) = [Nat.digitChar (n % 16)] ∧
    hexUnit? (some '0') (some '0') (some (if n < 16 then '0' else '1'))
      (some (Nat.digitChar (n % 16))) = some n := by
  decide +kernel

/-- No character is written with the letter of a number. -/
theorem ne_u_of_mem_escapes {e c : Char} (hmem : (e, c) ∈ escapes) : e ≠ 'u' := by
  have hall : ∀ p ∈ escapes, p.1 ≠ 'u' := by decide
  exact hall (e, c) hmem

/-- Every character is written in one of its forms. -/
theorem isForm_escapeChar (c : Char) : IsForm c (escapeChar c) := by
  unfold escapeChar
  split
  iterate 7 exact .short (by decide)
  next hquote hbackslash _ _ _ _ _ =>
    split
    next hsmall =>
      obtain ⟨hdigits, hnumber⟩ := hexUnit?_digits c.toNat hsmall
      rw [hdigits]
      exact .code hnumber hsmall
    next hshape => exact .plain hquote hbackslash hshape

/-! ### The end of a string -/

/-- A form of a character is no end of a string. -/
theorem stringBody?_form {c : Char} {form : List Char} (h : IsForm c form) (rest : Input) :
    stringBody? (form.map some ++ rest) =
      (stringBody? rest).map fun p => (form.map some ++ p.1, p.2) := by
  cases h with
  | @short e hmem =>
    have hknown : ∃ x, (e, x) ∈ escapes := ⟨c, hmem⟩
    simp [stringBody?, ne_u_of_mem_escapes hmem, hknown]
  | code hnumber _ => simp [stringBody?, hnumber]
  | plain hquote hbackslash hshape =>
    simp [stringBody?, hbackslash, hshape]

/-- **A string that was written ends where it was ended.** -/
theorem stringBody?_escape (s : String) (rest : Input) :
    stringBody? (escape s ++ some '"' :: rest) = some (escape s, rest) := by
  unfold escape
  induction s.toList with
  | nil => rfl
  | cons c cs ih =>
    rw [List.flatMap_cons, List.map_append, List.append_assoc,
      stringBody?_form (isForm_escapeChar c), ih, Option.map_some]

/-! ### The text of a string -/

theorem find?_escapes {e c : Char} (hmem : (e, c) ∈ escapes) :
    (escapes.find? fun p => p.1 == e) = some (e, c) := by
  have hall : ∀ p ∈ escapes, (escapes.find? fun q => q.1 == p.1) = some p := by decide
  exact hall (e, c) hmem

/-- A form of a character is read as the character. -/
theorem unescape?_form {c : Char} {form : List Char} (h : IsForm c form) (rest : Input) :
    unescape? (form.map some ++ rest) = (unescape? rest).map (c :: ·) := by
  cases h with
  | @short e hmem =>
    simp [unescape?, ne_u_of_mem_escapes hmem, find?_escapes hmem]
  | code hnumber hsmall =>
    have hlow : c.toNat < 0xD800 := by omega
    simp [unescape?, hnumber, hlow]
  | plain _ hbackslash _ => simp [unescape?, hbackslash]

/-- **The text that was written is the text that is read.** -/
theorem unescape?_escape (s : String) : unescape? (escape s) = some s.toList := by
  unfold escape
  induction s.toList with
  | nil => rfl
  | cons c cs ih =>
    rw [List.flatMap_cons, List.map_append, unescape?_form (isForm_escapeChar c), ih,
      Option.map_some]

@[simp] theorem text?_ofText (s : String) : (ofText s).text? = some s := by
  simp [ofText, text?, unescape?_escape]

@[simp] theorem choice?_ofText (s : String) : (ofText s).choice? = some s := by
  simp [ofText, choice?, unescape?_escape]

end Json

end Rehearsal
