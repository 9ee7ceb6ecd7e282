import Rehearsal.Probe.Run
import Rehearsal.Proofs.Text.Line

/-!
# The trace of a probe

Each line of a trace begins with the time since the first one. Which time that is depends on the
peers and on whatever else goes on, so it is left aside: what is told of a trace is what its lines
say, after the time. There is one exception, the first line, which begins at zero.

## Main definitions

* `ProbeResult.lineText`, `ProbeResult.texts`: what the lines of a trace say
* `ProbeResult.IsStamped`: each of them begins with a time
* `Probe.responseLine`, `Probe.errorLine`: what the lines about a response and an error say

## Main results

* `ProbeResult.texts_note`: what is noted is said last
* `Probe.texts_finish`: what is said at the end of a probe
-/

namespace Rehearsal

namespace ProbeResult

/-! ### What a line says -/

/-- What a line of a trace says, after the time. -/
def lineText (line : String) : String := String.ofList (line.toList.dropWhile (· ≠ ' ')).tail

/-- No digit is a blank. -/
theorem ne_blank_of_mem_toDigits {n : Nat} {c : Char} (h : c ∈ Nat.toDigits 10 n) : c ≠ ' ' := by
  rintro rfl
  exact absurd (Nat.isDigit_of_mem_toDigits (by decide) (by decide) h) (by decide)

/-- The time and the text of a line can be told apart. -/
@[simp] theorem lineText_stamp (elapsed : Nat) (text : String) :
    lineText (stamp elapsed text) = text := by
  have htime : ∀ c ∈ ('@' :: Nat.toDigits 10 elapsed) ++ "ms:".toList,
      decide (c ≠ ' ') = true := by
    refine List.forall_mem_append.mpr ⟨List.forall_mem_cons.mpr ⟨by decide, fun c hc => ?_⟩,
      by simp⟩
    exact decide_eq_true (ne_blank_of_mem_toDigits hc)
  have hstamp : (stamp elapsed text).toList =
      (('@' :: Nat.toDigits 10 elapsed) ++ "ms:".toList) ++ ' ' :: text.toList := by
    simp only [stamp, String.toList_append, Nat.toString_eq_repr, Nat.toList_repr,
      List.append_assoc]
    rfl
  rw [lineText, hstamp, List.dropWhile_append_of_pos htime, List.dropWhile_cons_of_neg (by decide),
    List.tail_cons, String.ofList_toList]

/-- What the lines of the trace say, in order. -/
def texts (r : ProbeResult) : List String := r.trace.map lineText

variable {r : ProbeResult}

/-- **What is noted is said last.** -/
@[simp] theorem texts_note (elapsed : Nat) (line : String) (r : ProbeResult) :
    (r.note elapsed line).texts = r.texts ++ [line] := by
  rw [texts, note, List.map_append, List.map_singleton, lineText_stamp, texts]

@[simp] theorem texts_observe (elapsed status : Nat) (server : String) (r : ProbeResult) :
    (r.observe elapsed status server).texts =
      r.texts ++ [s!"Server response: HTTP {HttpStatus.text status}"] :=
  texts_note ..

@[simp] theorem texts_countRedirect (r : ProbeResult) : r.countRedirect.texts = r.texts := rfl

@[simp] theorem texts_keep (content : Bytes) (r : ProbeResult) : (r.keep content).texts = r.texts :=
  rfl

/-! ### The times -/

/-- Each line of the trace begins with a time. -/
def IsStamped (r : ProbeResult) : Prop :=
  ∀ line ∈ r.trace, ∃ elapsed, line = stamp elapsed (lineText line)

/-- What is said is said at some time. -/
theorem IsStamped.exists_mem_trace (h : r.IsStamped) {text : String} (htext : text ∈ r.texts) :
    ∃ elapsed, stamp elapsed text ∈ r.trace := by
  obtain ⟨line, hline, rfl⟩ := List.mem_map.mp htext
  obtain ⟨elapsed, hstamp⟩ := h line hline
  exact ⟨elapsed, hstamp ▸ hline⟩

theorem isStamped_fresh (address : IpAddress) : (fresh address).IsStamped :=
  fun _ hline => absurd hline List.not_mem_nil

theorem IsStamped.note (h : r.IsStamped) (elapsed : Nat) (line : String) :
    (r.note elapsed line).IsStamped :=
  List.forall_mem_append.mpr
    ⟨h, List.forall_mem_singleton.mpr ⟨elapsed, by rw [lineText_stamp]⟩⟩

theorem IsStamped.observe (h : r.IsStamped) (elapsed status : Nat) (server : String) :
    (r.observe elapsed status server).IsStamped :=
  IsStamped.note (r := { r with
      firstStatus := if r.firstStatus = 0 then status else r.firstStatus
      status := status
      server := server }) h elapsed _

end ProbeResult

namespace Probe

open ProbeResult

/-! ### What is said of responses and errors -/

/-- What the line about a response says. -/
def responseLine (response : Response) : String :=
  s!"Server response: HTTP {HttpStatus.text response.status}"

/-- What the line about an error says. -/
def errorLine (message : String) : String := s!"Experienced error: {message}"

/-- What is said at the end of a probe, if anything is. -/
def closing : Arrival → Option String
  | .ok response => some (responseLine response)
  | .error (.transport message _) => some (errorLine message)
  | .error (.redirect _) => none

/-- **What is said at the end of a probe.** -/
theorem texts_finish (domain expected : String) (result : ProbeResult) (elapsed : Nat)
    (arrival : Arrival) :
    (finish domain expected (result, elapsed, arrival)).1.texts =
      result.texts ++ (closing arrival).toList := by
  cases arrival with
  | ok response => exact texts_observe ..
  | error failure =>
    cases failure with
    | redirect message => exact (List.append_nil _).symm
    | transport message timeout => exact texts_note ..

end Probe

end Rehearsal
