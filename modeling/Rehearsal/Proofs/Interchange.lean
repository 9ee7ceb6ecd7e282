import Rehearsal.Interchange
import Rehearsal.Proofs.Json.Reading
import Rehearsal.Proofs.Method

/-!
# Values that survive interchange

Findings, options and methods are written as JSON and read back. Their strings may hold any
character, so that nothing of a value is lost depends on how strings are escaped; that is settled
for every value that is made of texts, and what is left is that a record finds its fields.

A method that was made by hand may be lost, since its text may spell another one. A method that was
read from a text cannot: the text is kept only if it spells none.

## Main definitions

* `Json.Carries`: a value comes back from both ways to write it

## Main results

* `Json.carries_of_reads`: what can be read from its JSON form comes back from both texts
* `Method.ofJson?_toJson`: a method comes back as what its name spells
* `Json.carries_values`: findings, options and methods that were read come back, and methods are
  read and printed without loss
-/

namespace Rehearsal

namespace Json

/-! ### Records -/

/-- The values of a record whose fields have different names are found. -/
theorem named_of_nodup {members : List (String × Json)} (h : (members.map (·.1)).Nodup)
    {m : String × Json} (hm : m ∈ members) : named m.1 members = [m.2] := by
  induction members with
  | nil => cases hm
  | cons n members ih =>
    obtain ⟨hnew, hrest⟩ := List.nodup_cons.mp h
    rw [named, List.filter_cons]
    rcases List.mem_cons.mp hm with rfl | hm
    · have hnone : members.filter (fun n => n.1 == m.1) = [] :=
        List.filter_eq_nil_iff.mpr fun n hn heq =>
          hnew (List.mem_map.mpr ⟨n, hn, eq_of_beq heq⟩)
      simp [hnone]
    · have hne : n.1 ≠ m.1 := fun heq => hnew (List.mem_map.mpr ⟨m, hm, heq.symm⟩)
      rw [if_neg (by simpa using hne)]
      exact ih hrest hm

theorem mapM_eq_some_map {ι κ : Type} {f : ι → Option κ} {g : ι → κ} {l : List ι}
    (h : ∀ x ∈ l, f x = some (g x)) : l.mapM f = some (l.map g) := by
  induction l with
  | nil => rfl
  | cons x l ih =>
    rw [List.mapM_cons, h x List.mem_cons_self, ih fun y hy => h y (List.mem_cons_of_mem x hy)]
    rfl

/-- **The fields of a record that was written are its values.** -/
theorem fields?_ofMembers {members : List (String × Json)} (h : (members.map (·.1)).Nodup) :
    (ofMembers members).fields? (members.map (·.1)) = some (members.map fun m => some m.2) := by
  have hmembers : (members.map fun m => (escape m.1, m.2)).mapM
      (fun m => do return (String.ofList (← unescape? m.1), m.2)) = some members := by
    rw [List.mapM_map, mapM_eq_some_map (g := id) fun m _ => by simp [unescape?_escape],
      List.map_id]
  rw [fields?.eq_def, ofMembers]
  dsimp only
  rw [hmembers, Option.bind_eq_bind, Option.bind_some, List.mapM_map]
  exact mapM_eq_some_map fun m hm => by simp [named_of_nodup h hm]

/-! ### Values of one kind -/

/-- The value comes back from both ways to write it. -/
def Carries {α : Type} (toJson : α → Json) (ofJson? : Json → Option α) (x : α) : Prop :=
  decode? ofJson? (render (toJson x)) = some x ∧ decode? ofJson? (renderPretty (toJson x)) = some x

/-- **What can be read from its JSON form comes back from both texts.** -/
theorem carries_of_reads {α : Type} {toJson : α → Json} {ofJson? : Json → Option α} {x : α}
    (hplain : (toJson x).IsPlain) (hreads : ofJson? (toJson x) = some x) :
    Carries toJson ofJson? x := by
  constructor
  · simp [decode?, read?_render hplain, hreads]
  · simp [decode?, read?_renderPretty hplain, hreads]

end Json

/-! ### Findings, options and methods -/

theorem Severity.ofJson?_toJson (v : Severity) : ofJson? v.toJson = some v := by
  rw [ofJson?, toJson, Json.choice?_ofText, Option.bind_some]
  cases v <;> rfl

theorem Problem.ofJson?_toJson (p : Problem) : ofJson? p.toJson = some p := by
  have hfields : p.toJson.fields? fieldNames = some [some (.ofText p.name),
      some (.ofText p.explanation), some (.ofText p.detail), some p.severity.toJson] :=
    Json.fields?_ofMembers (show fieldNames.Nodup by decide)
  simp [ofJson?, hfields, Severity.ofJson?_toJson]

theorem ScanOptions.ofJson?_toJson (o : ScanOptions) : ofJson? o.toJson = some o := by
  have hfields : o.toJson.fields? fieldNames =
      some [some (.ofText o.requestPath), some (.ofText o.expectedBody)] :=
    Json.fields?_ofMembers (show fieldNames.Nodup by decide)
  simp [ofJson?, hfields]

/-- A method comes back as what its name spells. -/
theorem Method.ofJson?_toJson (m : Method) : ofJson? m.toJson = some (ofText m.name) := by
  rw [ofJson?, toJson, Json.text?_ofText, Option.map_some]

example : Method.ofJson? (Method.unknown "HTTP-01").toJson = some .http01 := by decide +kernel

theorem Problem.isPlain_toJson (p : Problem) : p.toJson.IsPlain :=
  .members (by simp [Json.IsPlain.text, Severity.toJson])

theorem ScanOptions.isPlain_toJson (o : ScanOptions) : o.toJson.IsPlain :=
  .members (by simp [Json.IsPlain.text])

/-- **Values survive interchange.** Every finding, all options and every method that was read from a
text come back from their JSON form. A method that was read is printed as a text that is read as the
same method. Exactly the texts that spell a method are read as it; every other text is kept as it
is, and what is kept does not spell a method; and two texts are read as the same method only if they
are the same or spell the same one. -/
theorem Json.carries_values (p : Problem) (o : ScanOptions) (t u : String) :
    Carries Problem.toJson Problem.ofJson? p ∧
    Carries ScanOptions.toJson ScanOptions.ofJson? o ∧
    Carries Method.toJson Method.ofJson? (Method.ofText t) ∧
    Method.ofText (toString (Method.ofText t)) = Method.ofText t ∧
    (∀ m ∈ Method.named, Method.ofText t = m ↔ m.IsSpelledBy t) ∧
    (Method.ofText t = .unknown t ↔ ∀ m ∈ Method.named, ¬m.IsSpelledBy t) ∧
    (Method.ofText t = .unknown u → t = u ∧ ∀ m ∈ Method.named, ¬m.IsSpelledBy u) ∧
    (Method.ofText t = Method.ofText u ↔
      t = u ∨ ∃ m ∈ Method.named, m.IsSpelledBy t ∧ m.IsSpelledBy u) := by
  have hmethod : Method.ofJson? (Method.ofText t).toJson = some (Method.ofText t) := by
    rw [Method.ofJson?_toJson, Method.ofText_name_ofText]
  refine ⟨carries_of_reads p.isPlain_toJson p.ofJson?_toJson,
    carries_of_reads o.isPlain_toJson o.ofJson?_toJson,
    carries_of_reads (.text _) hmethod, Method.ofText_name_ofText t,
    fun m hm => Method.ofText_eq_iff hm, ?_, ?_, Method.ofText_eq_ofText_iff⟩
  · rw [Method.ofText_eq_unknown_iff, and_iff_right rfl]
  · intro hkept
    obtain ⟨rfl, hnone⟩ := Method.ofText_eq_unknown_iff.mp hkept
    exact ⟨rfl, hnone⟩

end Rehearsal
