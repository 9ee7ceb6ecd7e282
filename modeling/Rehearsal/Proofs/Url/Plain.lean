import Rehearsal.Proofs.Text.Trim
import Rehearsal.Url.Wire
import Mathlib.Data.List.TakeDrop

/-!
# Reading the URL of a plain server

A URL that names a server without credentials and without a port, and then a path, is read in three
steps that do not look at each other's text: the scheme up to the two slashes, the server up to the
next slash, the path piece by piece. So it can be told from the texts of its parts what comes of it,
and whether anything does is a matter of the server's name alone.

Nothing in front of a slash is ever taken for padding, so only the end of the path is subject to
that.

## Main definitions

* `Url.IsPlain`: a character without a meaning of its own in the part that names a server

## Main results

* `Url.ofText_plain`: what such a URL is read as
* `Url.readSegments_append`: a path is read piece by piece
* `Url.readSegments_of_no_slash`: what one piece becomes after some segments
-/

namespace Rehearsal

namespace Url

variable {cs server path front : List Char} {segments : List String}

/-- What is true of no character of a text, as it can be evaluated. -/
theorem eq_false_of_any {p : Char → Bool} (h : cs.any p = false) : ∀ c ∈ cs, p c = false :=
  fun c hc => by simpa using List.any_eq_false.mp h c hc

/-! ### What is ignored -/

/-- Is this a tab or the end of a line? These are ignored inside a URL. -/
def isLineEnd (c : Char) : Bool := ['\t', '\n', '\r'].contains c

theorem significant_eq (hfirst : ∀ c ∈ cs.head?, isPadding c = false)
    (hnone : ∀ c ∈ cs, isLineEnd c = false) :
    significant cs = Text.dropEndWhile isPadding cs := by
  have hfront : cs.dropWhile isPadding = cs := by
    cases cs with
    | nil => rfl
    | cons c cs => exact List.dropWhile_cons_of_neg (by simp [hfirst c rfl])
  rw [significant, hfront, List.filter_eq_self]
  intro c hc
  have hkept := hnone c ((Text.dropEndWhile_isPrefix cs).subset hc)
  rw [isLineEnd] at hkept
  rw [hkept]
  rfl

/-- Padding is dropped from the end of a path, and no further. -/
theorem dropEndWhile_after_slash (front cs : List Char) :
    Text.dropEndWhile isPadding (front ++ '/' :: cs) =
      front ++ '/' :: Text.dropEndWhile isPadding cs := by
  have hcons := Text.dropEndWhile_cons (p := isPadding) (x := '/') rfl cs
  rw [Text.dropEndWhile_append (hcons ▸ List.cons_ne_nil _ _), hcons]

/-! ### The server -/

/-- A character without a meaning of its own in the part of a URL that names a server. -/
def IsPlain (c : Char) : Prop := c ∉ [':', '@', '[', ']', '/', '\\', '?', '#']

theorem IsPlain.not_endsAuthority {c : Char} (h : IsPlain c) (special : Bool) :
    endsAuthority special c = false := by
  simp only [IsPlain, List.mem_cons, List.not_mem_nil, not_or] at h
  simp [endsAuthority, endsPath, isSlash, h]

theorem splitLastAt_plain (h : '@' ∉ cs) : splitLastAt cs = none := by
  have hall : ∀ c ∈ cs.reverse, (c != '@') = true := fun c hc => by
    rw [bne_iff_ne]
    rintro rfl
    exact h (List.mem_reverse.mp hc)
  rw [splitLastAt, List.span_eq_takeWhile_dropWhile, List.dropWhile_eq_nil_iff.mpr hall]

theorem hostLength_plain (h : ∀ c ∈ cs, IsPlain c) : hostLength false cs = cs.length := by
  induction cs with
  | nil => rfl
  | cons c cs ih =>
    obtain ⟨hc, h⟩ := List.forall_mem_cons.mp h
    simp only [IsPlain, List.mem_cons, List.not_mem_nil, not_or] at hc
    rw [hostLength, ih h, List.length_cons] <;> simp [hc]

theorem readHost_plain (h : ∀ c ∈ cs, IsPlain c) : readHost true cs = readName cs := by
  unfold readHost
  split
  next => exact absurd (h '[' List.mem_cons_self) (by simp [IsPlain])
  next => rfl

/-- A server without credentials and port is read as its name. -/
theorem readAuthority_plain {scheme : String} (hspecial : isSpecial scheme = true) (hne : cs ≠ [])
    (h : ∀ c ∈ cs, IsPlain c) :
    readAuthority scheme cs = (readName cs).map fun host => ⟨"", "", host, none⟩ := by
  have hat : splitLastAt cs = none :=
    splitLastAt_plain fun hmem => h '@' hmem (by simp)
  rw [readAuthority, hat, hspecial]
  dsimp only [Option.getD]
  rw [hostLength_plain h, List.take_length, List.drop_length, readHost_plain h,
    if_neg (by simp [hne])]
  cases readName cs <;> rfl

/-- The rest of a URL after the slashes is read as its server and its path. -/
theorem readAfterSlashes_plain {scheme : String} (hspecial : isSpecial scheme = true)
    (hne : server ≠ []) (hserver : ∀ c ∈ server, IsPlain c)
    (hpath : ∀ c ∈ path, endsPath c = false) :
    readAfterSlashes scheme (server ++ '/' :: path) = (readName server).map fun host =>
      ⟨scheme, "", "", some host, none, .segments (readSegments true [] path), none, none⟩ := by
  have htake : (server ++ '/' :: path).takeWhile (fun c => !endsAuthority true c) = server := by
    rw [List.takeWhile_append_of_pos fun c hc => by simp [(hserver c hc).not_endsAuthority],
      List.takeWhile_cons_of_neg (by simp [endsAuthority, isSlash]), List.append_nil]
  have hrest : ('/' :: path).takeWhile (fun c => !endsPath c) = '/' :: path :=
    List.takeWhile_eq_self_iff.mpr
      (List.forall_mem_cons.mpr ⟨rfl, fun c hc => by simp [hpath c hc]⟩)
  rw [readAfterSlashes, hspecial]
  dsimp only
  rw [htake, List.drop_left, hrest, readAuthority_plain hspecial hne hserver, List.drop_length]
  cases readName server <;> rfl

/-- **What the URL of a plain server is read as.** -/
theorem ofText_plain {text : String}
    (htext : significant text.toList = "http://".toList ++ (server ++ '/' :: path))
    (hne : server ≠ []) (hserver : ∀ c ∈ server, IsPlain c)
    (hpath : ∀ c ∈ path, endsPath c = false) :
    ofText text = (readName server).map fun host =>
      ⟨"http", "", "", some host, none, .segments (readSegments true [] path), none, none⟩ := by
  have hscheme : splitScheme? ("http://".toList ++ (server ++ '/' :: path)) =
      some ("http", "//".toList ++ (server ++ '/' :: path)) := by
    rw [splitScheme?, List.span_eq_takeWhile_dropWhile]
    rfl
  have hslashes : ("//".toList ++ (server ++ '/' :: path)).takeWhile (isSlash true) =
      "//".toList := by
    obtain ⟨c, cs, rfl⟩ := List.exists_cons_of_ne_nil hne
    have hc : isSlash true c = false := by
      have hplain := hserver c List.mem_cons_self
      simp only [IsPlain, List.mem_cons, List.not_mem_nil, not_or] at hplain
      simp [isSlash, hplain]
    rw [List.takeWhile_append_of_pos (List.all_eq_true.mp (by decide)), List.cons_append,
      List.takeWhile_cons_of_neg (by simp [hc]), List.append_nil]
  rw [ofText, read.eq_def]
  dsimp only
  rw [htext, hscheme]
  dsimp only
  rw [if_neg (by decide), if_pos (by decide), hslashes, List.drop_left,
    readAfterSlashes_plain (by decide) hne hserver hpath]

/-! ### The path -/

theorem addPieces_cons {file : Bool} {piece : List Char} {rest : List (List Char)}
    (hrest : rest ≠ []) :
    addPieces file segments (piece :: rest) =
      addPieces file (addPiece file segments piece) rest := by
  cases rest with
  | nil => exact absurd rfl hrest
  | cons => rfl

/-- A path is never empty. -/
theorem addPieces_ne_nil {file : Bool} {pieces : List (List Char)} (h : pieces ≠ []) :
    addPieces file segments pieces ≠ [] := by
  induction pieces generalizing segments with
  | nil => exact absurd rfl h
  | cons piece rest ih =>
    by_cases hrest : rest = []
    · subst hrest
      rw [addPieces, addPiece]
      cases isDoubleDot piece <;> cases isSingleDot piece <;> simp
    · rw [addPieces_cons hrest]
      exact ih hrest

/-- **A path is read piece by piece.** -/
theorem readSegments_append {special : Bool} (h : ∀ c ∈ front, isSlash special c = false)
    (cs : List Char) :
    readSegments special segments (front ++ '/' :: cs) =
      readSegments special (addPiece false segments front) cs := by
  rw [readSegments, List.splitOnP_append_cons_of_forall_mem h '/' rfl,
    addPieces_cons (List.splitOnP_ne_nil _ _)]
  rfl

/-- What is escaped does not vanish. -/
theorem escape_eq_nil_iff {escaped : Char → Bool} : escape escaped cs = [] ↔ cs = [] := by
  cases cs with
  | nil => exact iff_of_true rfl rfl
  | cons c cs =>
    refine iff_of_false ?_ (List.cons_ne_nil c cs)
    rw [escape, List.flatMap_cons]
    split
    · cases hbytes : String.utf8EncodeChar c with
      | nil =>
        have hlength := String.length_utf8EncodeChar c
        rw [hbytes] at hlength
        exact absurd hlength.symm c.utf8Size_pos.ne'
      | cons b bytes => exact List.cons_ne_nil '%' _
    · exact List.cons_ne_nil c _

/-- **What one piece becomes after some segments**: dots lead back or stay, anything else is one
more segment. -/
theorem readSegments_of_no_slash {special : Bool} (h : ∀ c ∈ cs, isSlash special c = false) :
    readSegments special segments cs =
      if isDoubleDot cs then dropSegment false segments ++ [""]
      else if isSingleDot cs then segments ++ [""]
      else segments ++ [String.ofList (escape escapedInPath cs)] := by
  rw [readSegments, List.splitOnP_eq_singleton h, addPieces, addPiece]
  cases isDoubleDot cs <;> cases isSingleDot cs <;> rfl

/-! ### On the wire -/

/-- A URL that has a path and no fragment is carried as it is. -/
theorem eq_of_onWire? {u carried : Url} (h : u.onWire? = some carried)
    (hpath : u.path = .segments segments) (hne : segments ≠ []) (hfragment : u.fragment = none) :
    carried = u := by
  obtain ⟨scheme, username, password, host, port, path, query, fragment⟩ := u
  obtain rfl : path = .segments segments := hpath
  obtain rfl : fragment = none := hfragment
  unfold onWire? at h
  split at h
  · cases h
  · cases host with
    | none => cases h
    | some host =>
      dsimp only at h
      split at h
      · obtain rfl := Option.some.inj h
        rw [if_neg (by simp [hne])]
      · cases h

end Url

end Rehearsal
