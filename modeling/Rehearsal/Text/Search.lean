/-!
# Looking for a text inside another

`occursIn p t` asks whether `p` is a contiguous part of `t`, the empty text being part of every
text.
-/

namespace Rehearsal

namespace Text

/-- Is `p` a contiguous part of the text? -/
def occursIn (p : List Char) : List Char → Bool
  | [] => p.isEmpty
  | c :: cs => p.isPrefixOf (c :: cs) || occursIn p cs

/-- `occursIn` tests for being an infix. -/
theorem occursIn_iff {p t : List Char} : occursIn p t = true ↔ p <:+: t := by
  induction t with
  | nil => simp [occursIn]
  | cons c cs ih => simp [occursIn, ih, List.infix_cons_iff]

/-- Does the text hold `part` as a contiguous part? -/
def mentions (text part : String) : Bool := occursIn part.toList text.toList

/-- `mentions` tests for being an infix. -/
theorem mentions_iff {text part : String} :
    mentions text part = true ↔ part.toList <:+: text.toList :=
  occursIn_iff

end Text

end Rehearsal
