import Rehearsal.Proofs.Json.Escape
import Mathlib.Data.List.Forall2

/-!
# Values that are read back

A value determines its tokens, and both ways of writing it, with and without lines, write these
tokens and nothing but white space between them. Taking the tokens of a value where a value may come
leaves the place where the value is complete, whatever is open around it.

Numbers are left out. Whatever else is written, its end is seen without a look at what follows,
which is not so for a number.

## Main definitions

* `Json.tokens`: the tokens of a value
* `Json.IsPlain`: values whose strings are texts, without numbers
* `Json.Cuts`, `Json.Writes`: a text that is cut into tokens, also in front of another text

## Main results

* `Json.IsPlain.writes_render`, `Json.IsPlain.writes_renderAt`: both ways of writing a value write
  its tokens
* `Json.IsPlain.form_tokens`: the tokens of a value form it
* `Json.read?_render`, `Json.read?_renderPretty`: what was written is read back
-/

namespace Rehearsal

namespace Json

mutual

/-- The tokens of a value. -/
def tokens : Json → List Token
  | null => [.null]
  | bool b => [.bool b]
  | number text => [.number text]
  | string raw => [.string raw]
  | array items => .openBracket :: [.comma].intercalate (itemTokens items) ++ [.closeBracket]
  | object members => .openBrace :: [.comma].intercalate (memberTokens members) ++ [.closeBrace]

/-- The tokens of each item of an array. -/
def itemTokens : List Json → List (List Token)
  | [] => []
  | item :: rest => tokens item :: itemTokens rest

/-- The tokens of each member of an object. -/
def memberTokens : List Member → List (List Token)
  | [] => []
  | (name, value) :: rest => (.string name :: .colon :: tokens value) :: memberTokens rest

end

/-- The value holds no number, and every string in it is a text. -/
inductive IsPlain : Json → Prop where
  /-- Nothing. -/
  | null : IsPlain null
  /-- A truth value. -/
  | bool (b : Bool) : IsPlain (bool b)
  /-- A text. -/
  | text (s : String) : IsPlain (ofText s)
  /-- Items that are plain. -/
  | array {items : List Json} (h : ∀ v ∈ items, IsPlain v) : IsPlain (array items)
  /-- Members that are plain. -/
  | members {members : List (String × Json)} (h : ∀ m ∈ members, IsPlain m.2) :
    IsPlain (ofMembers members)

/-! ### Cutting -/

/-- The input is cut into these tokens, as soon as that many may be taken. -/
def Cuts (input : Input) (toks : List Token) : Prop :=
  toks.length ≤ input.length ∧
    ∀ fuel, toks.length ≤ fuel → tokensWithin fuel input = some toks

theorem Cuts.nil : Cuts [] [] := ⟨Nat.le_refl _, fun fuel _ => by cases fuel <;> rfl⟩

theorem Cuts.tokens?_eq {input : Input} {toks : List Token} (h : Cuts input toks) :
    tokens? input = some toks := h.2 _ h.1

/-- White space in front makes no difference. -/
theorem Cuts.gap {c : Option Char} (hc : isGap c = true) {input : Input} {toks : List Token}
    (h : Cuts input toks) : Cuts (c :: input) toks := by
  refine ⟨Nat.le_succ_of_le h.1, fun fuel hfuel => ?_⟩
  rw [← h.2 fuel hfuel, tokensWithin.eq_def fuel (c :: input), tokensWithin.eq_def fuel input]
  dsimp only
  rw [List.dropWhile_cons_of_pos hc]

/-- A token in front is taken first. -/
theorem Cuts.token {c : Option Char} (hc : isGap c = false) {input rest : Input} {t : Token}
    {toks : List Token} (htoken : token? (c :: input) = some (t, rest))
    (hshorter : rest.length ≤ input.length) (h : Cuts rest toks) :
    Cuts (c :: input) (t :: toks) := by
  refine ⟨Nat.succ_le_succ (Nat.le_trans h.1 hshorter), fun fuel hfuel => ?_⟩
  obtain ⟨fuel, rfl⟩ := Nat.exists_eq_succ_of_ne_zero (Nat.ne_zero_of_lt hfuel)
  rw [tokensWithin.eq_def]
  dsimp only
  rw [List.dropWhile_cons_of_neg (by simp [hc])]
  simp [htoken, h.2 fuel (Nat.le_of_succ_le_succ hfuel)]

/-- The text is cut into these tokens, whatever comes after it. -/
def Writes (text : String) (toks : List Token) : Prop :=
  ∀ rest more, Cuts rest more → Cuts (Input.ofText text ++ rest) (toks ++ more)

theorem Writes.cuts {text : String} {toks : List Token} (h : Writes text toks) :
    Cuts (Input.ofText text) toks := by
  simpa using h [] [] .nil

theorem Writes.nil : Writes "" [] := fun _ _ h => h

theorem Writes.append {a b : String} {as bs : List Token} (ha : Writes a as) (hb : Writes b bs) :
    Writes (a ++ b) (as ++ bs) := by
  intro rest more h
  rw [Input.ofText, String.toList_append, List.map_append, List.append_assoc, List.append_assoc]
  exact ha _ _ (hb _ _ h)

/-- Texts and what stands between them. -/
theorem Writes.intercalate {separator : String} {between : List Token}
    (hseparator : Writes separator between) {texts : List String} {lists : List (List Token)}
    (h : List.Forall₂ Writes texts lists) :
    Writes (separator.intercalate texts) (between.intercalate lists) := by
  induction h with
  | nil => exact .nil
  | @cons text toks texts lists hfirst hrest ih =>
    cases hrest with
    | nil => simpa using hfirst
    | cons _ _ =>
      rw [String.intercalate_cons_cons, List.intercalate_cons_cons]
      exact (hfirst.append hseparator).append ih

theorem writes_blanks {cs : List Char} (h : ∀ c ∈ cs, isGap (some c) = true) :
    Writes (String.ofList cs) [] := by
  intro rest more hrest
  rw [Input.ofText, String.toList_ofList]
  induction cs with
  | nil => exact hrest
  | cons c cs ih =>
    exact (ih fun d hd => h d (List.mem_cons_of_mem c hd)).gap (h c List.mem_cons_self)

theorem writes_newLine (depth : Nat) : Writes (newLine depth) [] := by
  refine writes_blanks fun c hc => ?_
  rcases List.mem_cons.mp hc with rfl | hc
  · rfl
  · rw [List.eq_of_mem_replicate hc]
    rfl

/-- A mark is one token. -/
theorem writes_mark {mark : String} {c : Char} {t : Token} (hmark : mark.toList = [c])
    (hgap : isGap (some c) = false) (htoken : ∀ rest, token? (some c :: rest) = some (t, rest)) :
    Writes mark [t] := by
  intro rest more h
  rw [Input.ofText, hmark]
  exact .token hgap (htoken rest) (Nat.le_refl _) h

theorem writes_openBracket : Writes "[" [.openBracket] := writes_mark rfl rfl fun _ => rfl

theorem writes_closeBracket : Writes "]" [.closeBracket] := writes_mark rfl rfl fun _ => rfl

theorem writes_openBrace : Writes "\x7b" [.openBrace] := writes_mark rfl rfl fun _ => rfl

theorem writes_closeBrace : Writes "\x7d" [.closeBrace] := writes_mark rfl rfl fun _ => rfl

theorem writes_comma : Writes "," [.comma] := writes_mark rfl rfl fun _ => rfl

theorem writes_colon : Writes ":" [.colon] := writes_mark rfl rfl fun _ => rfl

theorem writes_blank : Writes " " [] := fun _ _ h => h.gap rfl

theorem writes_null : Writes "null" [.null] := fun _ _ h =>
  .token rfl rfl (Nat.le_add_right _ 3) h

theorem writes_bool (b : Bool) : Writes (if b then "true" else "false") [.bool b] := by
  intro rest more h
  cases b with
  | false => exact .token rfl rfl (Nat.le_add_right _ 4) h
  | true => exact .token rfl rfl (Nat.le_add_right _ 3) h

theorem rawText_escape (s : String) : Input.ofText (rawText (escape s)) = escape s := by
  simp [rawText, escape, Input.ofText, Function.comp_def]

/-- A text between quotes is one token. -/
theorem writes_quote (s : String) : Writes (quote (escape s)) [.string (escape s)] := by
  intro rest more h
  have htext : Input.ofText (quote (escape s)) ++ rest =
      some '"' :: (escape s ++ some '"' :: rest) := by
    have hraw := rawText_escape s
    simp only [Input.ofText] at hraw
    simp [quote, Input.ofText, hraw]
  rw [htext]
  refine .token rfl ?_ ?_ h
  · simp [token?, stringBody?_escape]
  · rw [List.length_append, List.length_cons]
    omega

/-! ### Both ways of writing -/

theorem renderItems_eq (items : List Json) : renderItems items = items.map render := by
  induction items with
  | nil => rfl
  | cons item items ih => rw [renderItems, ih, List.map_cons]

theorem renderMembers_eq (members : List Member) :
    renderMembers members = members.map fun m => quote m.1 ++ ":" ++ render m.2 := by
  induction members with
  | nil => rfl
  | cons member members ih => rw [renderMembers, ih, List.map_cons]

theorem renderItemsAt_eq (depth : Nat) (items : List Json) :
    renderItemsAt depth items = items.map (renderAt depth) := by
  induction items with
  | nil => rfl
  | cons item items ih => rw [renderItemsAt, ih, List.map_cons]

theorem renderMembersAt_eq (depth : Nat) (members : List Member) :
    renderMembersAt depth members =
      members.map fun m => quote m.1 ++ ": " ++ renderAt depth m.2 := by
  induction members with
  | nil => rfl
  | cons member members ih => rw [renderMembersAt, ih, List.map_cons]

theorem itemTokens_eq (items : List Json) : itemTokens items = items.map tokens := by
  induction items with
  | nil => rfl
  | cons item items ih => rw [itemTokens, ih, List.map_cons]

theorem memberTokens_eq (members : List Member) :
    memberTokens members = members.map fun m => .string m.1 :: .colon :: tokens m.2 := by
  induction members with
  | nil => rfl
  | cons member members ih => rw [memberTokens, ih, List.map_cons]

/-- Each part of a sequence is written. -/
theorem forall₂_writes {α : Type} {l : List α} {text : α → String} {toks : α → List Token}
    (h : ∀ x ∈ l, Writes (text x) (toks x)) : List.Forall₂ Writes (l.map text) (l.map toks) := by
  rw [List.forall₂_map_left_iff, List.forall₂_map_right_iff, List.forall₂_same]
  exact h

theorem writes_member {separator : String} (hseparator : Writes separator [.colon])
    (name : String) {text : String} {toks : List Token} (h : Writes text toks) :
    Writes (quote (escape name) ++ separator ++ text) (.string (escape name) :: .colon :: toks) :=
  ((writes_quote name).append hseparator).append h

/-- **A value without lines is written by its tokens.** -/
theorem IsPlain.writes_render {v : Json} (h : IsPlain v) : Writes (render v) (tokens v) := by
  induction h with
  | null => exact writes_null
  | bool b => exact writes_bool b
  | text s => exact writes_quote s
  | array _ ih =>
    rw [render, tokens, renderItems_eq, itemTokens_eq]
    exact (writes_openBracket.append (writes_comma.intercalate (forall₂_writes ih))).append
      writes_closeBracket
  | @members members _ ih =>
    have hmember (m : String × Json) (hm : m ∈ members) :=
      writes_member writes_colon m.1 (ih m hm)
    simp only [ofMembers, render, tokens, renderMembers_eq, memberTokens_eq, List.map_map,
      Function.comp_def]
    exact (writes_openBrace.append (writes_comma.intercalate (forall₂_writes hmember))).append
      writes_closeBrace

/-- Brackets around lines. -/
theorem writes_block (depth : Nat) {opening closing : String} {first last : Token}
    (hopening : Writes opening [first]) (hclosing : Writes closing [last]) {texts : List String}
    {lists : List (List Token)} (h : List.Forall₂ Writes texts lists) :
    Writes (block depth opening closing texts)
      (first :: [.comma].intercalate lists ++ [last]) := by
  cases h with
  | nil => exact hopening.append hclosing
  | cons hfirst hrest =>
    have hlines := (writes_comma.append (writes_newLine (depth + 1))).intercalate
      (.cons hfirst hrest)
    have hbegun := (hopening.append (writes_newLine (depth + 1))).append hlines
    have hwhole := (hbegun.append (writes_newLine depth)).append hclosing
    rwa [List.append_nil, List.append_nil, List.append_nil] at hwhole

/-- **So is a value with one member per line.** -/
theorem IsPlain.writes_renderAt {v : Json} (h : IsPlain v) (depth : Nat) :
    Writes (renderAt depth v) (tokens v) := by
  induction h generalizing depth with
  | null => exact writes_null
  | bool b => exact writes_bool b
  | text s => exact writes_quote s
  | array _ ih =>
    rw [renderAt, tokens, renderItemsAt_eq, itemTokens_eq]
    exact writes_block depth writes_openBracket writes_closeBracket
      (forall₂_writes fun v hv => ih v hv (depth + 1))
  | @members members _ ih =>
    have hmember (m : String × Json) (hm : m ∈ members) :=
      writes_member (writes_colon.append writes_blank) m.1 (ih m hm (depth + 1))
    simp only [ofMembers, renderAt, tokens, renderMembersAt_eq, memberTokens_eq, List.map_map,
      Function.comp_def]
    exact writes_block depth writes_openBrace writes_closeBrace (forall₂_writes hmember)

/-! ### Building -/

namespace Builder

/-- These tokens lead from one place to another. -/
def Takes (b : Builder) (toks : List Token) (b' : Builder) : Prop :=
  toks.foldlM take b = some b'

theorem Takes.cons {b b' b'' : Builder} {t : Token} {more : List Token} (h : b.take t = some b')
    (hmore : b'.Takes more b'') : b.Takes (t :: more) b'' := by
  rw [Takes, List.foldlM_cons, h]
  exact hmore

theorem Takes.one {b b' : Builder} {t : Token} (h : b.take t = some b') : b.Takes [t] b' :=
  .cons h rfl

theorem Takes.append {b b' b'' : Builder} {toks more : List Token} (h : b.Takes toks b')
    (hmore : b'.Takes more b'') : b.Takes (toks ++ more) b'' := by
  rw [Takes, List.foldlM_append, h]
  exact hmore

/-- Where an array has begun, a value may come as anywhere else. -/
theorem take_item {t : Token} (ht : t ≠ .closeBracket) (frames : List Frame) :
    take ⟨frames, .item⟩ t = take ⟨frames, .value⟩ t := by
  unfold take
  dsimp only
  split
  · exact absurd rfl ht
  · rfl

/-- The tokens form the value where one may come, whatever is open around it. -/
def Form (toks : List Token) (v : Json) : Prop :=
  ∀ frames, Takes ⟨frames, .value⟩ toks ⟨frames, .follow v⟩

/-- Items after others, up to the end of the array. -/
theorem takes_items {items : List Json} (hne : items ≠ []) (h : ∀ v ∈ items, Form (tokens v) v)
    (frames : List Frame) (done : List Json) :
    Takes ⟨.items done :: frames, .value⟩
      ([.comma].intercalate (items.map tokens) ++ [.closeBracket])
      ⟨frames, .follow (.array (done ++ items))⟩ := by
  induction items generalizing done with
  | nil => exact absurd rfl hne
  | cons v items ih =>
    have hfirst := h v List.mem_cons_self (.items done :: frames)
    cases items with
    | nil => simpa using hfirst.append (.one rfl)
    | cons w items =>
      have hrest := ih (List.cons_ne_nil _ _) (fun u hu => h u (List.mem_cons_of_mem v hu))
        (done ++ [v])
      have hcomma : Takes ⟨.items done :: frames, .follow v⟩ [.comma]
        ⟨.items (done ++ [v]) :: frames, .value⟩ := .one rfl
      simpa [List.intercalate_cons_cons] using (hfirst.append hcomma).append hrest

/-- Members after others, up to the end of the object. -/
theorem takes_members {members : List Member} (hne : members ≠ [])
    (h : ∀ m ∈ members, Form (tokens m.2) m.2) (frames : List Frame) (done : List Member)
    (mayEnd : Bool) :
    Takes ⟨frames, .name done mayEnd⟩
      ([.comma].intercalate (members.map fun m => .string m.1 :: .colon :: tokens m.2) ++
        [.closeBrace])
      ⟨frames, .follow (.object (done ++ members))⟩ := by
  induction members generalizing done mayEnd with
  | nil => exact absurd rfl hne
  | cons m members ih =>
    have hname : Takes ⟨frames, .name done mayEnd⟩ [.string m.1, .colon]
      ⟨.members done m.1 :: frames, .value⟩ := .append (.one rfl) (.one rfl)
    have hfirst := hname.append (h m List.mem_cons_self _)
    cases members with
    | nil => simpa using hfirst.append (.one rfl)
    | cons n members =>
      have hrest := ih (List.cons_ne_nil _ _) (fun u hu => h u (List.mem_cons_of_mem m hu))
        (done ++ [m]) false
      have hcomma : Takes ⟨.members done m.1 :: frames, .follow m.2⟩ [.comma]
        ⟨frames, .name (done ++ [m]) false⟩ := .one rfl
      simpa [List.intercalate_cons_cons] using (hfirst.append hcomma).append hrest

end Builder

theorem tokens_ne_closeBracket (v : Json) :
    ∃ t toks, tokens v = t :: toks ∧ t ≠ .closeBracket := by
  cases v <;> simp [tokens]

/-- **The tokens of a value form it**, whatever is open around it. -/
theorem IsPlain.form_tokens {v : Json} (h : IsPlain v) : Builder.Form (tokens v) v := by
  intro frames
  induction h generalizing frames with
  | null => exact .one rfl
  | bool b => exact .one rfl
  | text s => exact .one rfl
  | @array items _ ih =>
    rw [tokens, itemTokens_eq, List.cons_append]
    have hopen : Builder.take ⟨frames, .value⟩ .openBracket =
      some ⟨.items [] :: frames, .item⟩ := rfl
    refine .cons hopen ?_
    cases items with
    | nil => exact .one rfl
    | cons v items =>
      -- the first token of an item does not end the array, so it is taken as that of a value
      obtain ⟨t, toks, htokens, ht⟩ := tokens_ne_closeBracket v
      have hitems := Builder.takes_items (List.cons_ne_nil v items) ih frames []
      obtain ⟨more, hmore⟩ : ∃ more,
          [.comma].intercalate ((v :: items).map tokens) ++ [.closeBracket] = t :: more := by
        cases items <;> simp [htokens, List.intercalate_cons_cons]
      rw [hmore] at hitems ⊢
      rwa [Builder.Takes, List.foldlM_cons, Builder.take_item ht]
  | @members members _ ih =>
    rw [ofMembers, tokens, memberTokens_eq, List.cons_append]
    have hopen : Builder.take ⟨frames, .value⟩ .openBrace = some ⟨frames, .name [] true⟩ := rfl
    refine .cons hopen ?_
    by_cases hne : members = []
    · subst hne
      exact .one rfl
    · refine Builder.takes_members (by simpa using hne) (fun n hn => ?_) frames [] true
      obtain ⟨n, hmem, rfl⟩ := List.mem_map.mp hn
      exact ih n hmem

/-! ### Reading -/

theorem read?_of_writes {text : String} {v : Json} (hwrites : Writes text (tokens v))
    (hform : Builder.Form (tokens v) v) : read? (.ofText text) = some v := by
  have htake : (tokens v).foldlM Builder.take .start = some ⟨[], .follow v⟩ := hform []
  simp [read?, hwrites.cuts.tokens?_eq, ofTokens?, htake, Builder.finish?]

/-- **A value that was written without lines is read back.** -/
theorem read?_render {v : Json} (h : IsPlain v) : read? (.ofText (render v)) = some v :=
  read?_of_writes h.writes_render h.form_tokens

/-- **So is a value that was written with one member per line.** -/
theorem read?_renderPretty {v : Json} (h : IsPlain v) :
    read? (.ofText (renderPretty v)) = some v :=
  read?_of_writes (h.writes_renderAt 0) h.form_tokens

end Json

end Rehearsal
