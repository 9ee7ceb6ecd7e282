import Rehearsal.Proofs.Job.Order

/-!
# The same run among other peers

A run hears only what it asks. What peers would answer to anything else, or to the same question
after another journal, does not matter to it: among other peers that answer alike what was asked
along its journal, it is a run as well. So a condition on the answers in one run may be replaced by
the same condition on all answers of some peers, which is easier to work with.

The delays have to agree as well, since they settle what is due when; only what nobody asked is
free.

## Main definitions

* `Peers.AgreeAlong`: other peers answer alike what was asked along a journal

## Main results

* `Live.advance_among`: a step is the same among such peers
* `Job.Ends.among`: so is a run
-/

namespace Rehearsal

/-- Other peers answer alike what was asked along a journal since it had some length. -/
structure Peers.AgreeAlong (peers peers' : Peers) (past : Nat) (journal : List Event) : Prop where
  /-- Calls of the resolver. -/
  lookup : ∀ before key, past ≤ before.length → before ++ [.called key] <+: journal →
    peers'.lookup before key = peers.lookup before key
  /-- Questions to the others. -/
  answer : ∀ before question, past ≤ before.length → before ++ [.asked question] <+: journal →
    peers'.answer before question = peers.answer before question

namespace Peers

variable {peers peers' : Peers} {past : Nat} {journal journal' : List Event}

theorem AgreeAlong.mono (h : peers.AgreeAlong peers' past journal')
    (hgrows : journal <+: journal') : peers.AgreeAlong peers' past journal :=
  ⟨fun before key hpast hasked => h.lookup before key hpast (hasked.trans hgrows),
    fun before question hpast hasked => h.answer before question hpast (hasked.trans hgrows)⟩

end Peers

namespace Live

variable {α β : Type} {peers peers' : Peers} {past : Nat} {s : Session}

theorem call_among {due : Due} {key : LookupKey} {seat : Seat} {next : LookupOutcome → Job α}
    (hpast : past ≤ s.journal.length)
    (h : peers.AgreeAlong peers' past (call peers due key seat next s).2.journal) :
    call peers' due key seat next s = call peers due key seat next s := by
  have hjournal : (call peers due key seat next s).2.journal = s.journal ++ [.called key] :=
    (Session.passes_later ..).journal
  rw [call, call, h.lookup s.journal key hpast (hjournal ▸ List.prefix_rfl)]

theorem lookUp_among {due : Due} {key : LookupKey} {next : LookupOutcome → Job α}
    (hpast : past ≤ s.journal.length)
    (h : peers.AgreeAlong peers' past (lookUp peers due key next s).2.journal) :
    lookUp peers' due key next s = lookUp peers due key next s := by
  unfold lookUp at h ⊢
  dsimp only at h ⊢
  split
  next => rfl
  next hunknown =>
    rw [hunknown] at h
    split
    next halone =>
      rw [halone] at h
      exact call_among hpast h
    next => rfl

theorem step_among {due : Due} {job : Job α} (hpast : past ≤ s.journal.length)
    (h : peers.AgreeAlong peers' past (step peers due job s).2.journal) :
    step peers' due job s = step peers due job s := by
  cases job with
  | done | crash | logThen | waitThen | fork => rfl
  | askThen question next =>
    have hjournal : (step peers due (.askThen question next) s).2.journal =
        s.journal ++ [.asked question] := (Session.passes_later ..).journal
    rw [step, step, h.answer s.journal question hpast (hjournal ▸ List.prefix_rfl)]
  | lookupThen key next => exact lookUp_among hpast h

/-- **A step is the same among peers that answer alike what it asks.** -/
theorem advance_among (live : Live α) (outer : Bool) (due : Due) (path : List Nat)
    (hpast : past ≤ s.journal.length)
    (h : peers.AgreeAlong peers' past (live.advance peers outer due path s).2.journal) :
    live.advance peers' outer due path s = live.advance peers outer due path s := by
  induction live generalizing outer path s with
  | ended outcome => rfl
  | ready due' job => exact step_among hpast h
  | calling due' key seat answer next => cases answer <;> rfl
  | seated key seat next =>
    unfold advance at h ⊢
    split
    next => rfl
    next hunknown =>
      rw [hunknown] at h
      dsimp only at h
      split
      next hhead =>
        rw [if_pos hhead] at h
        exact call_among hpast h
      next => rfl
  | forked manner n children completions wake enough finish ih =>
    cases path with
    | nil => rfl
    | cons i path =>
      by_cases hi : i < n
      · cases hgoing : (children ⟨i, hi⟩).outcome? with
        | some outcome =>
          have hended := eq_ended_of_outcome?_eq_some hgoing
          rw [advance_child_ended (i := ⟨i, hi⟩) hended, advance_child_ended (i := ⟨i, hi⟩) hended]
        | none =>
          obtain ⟨⟨child, s'⟩, hstep⟩ : ∃ stage, (children ⟨i, hi⟩).advance peers
              (outer && manner = .together) due path s = stage := ⟨_, rfl⟩
          -- what the parent does after the step of the child is not written to the journal
          have hjournal : ((forked manner n children completions wake enough finish).advance peers
              outer due (i :: path) s).2.journal = s'.journal := by
            rw [advance_child (i := ⟨i, hi⟩) hgoing hstep]
            cases child.outcome? with
            | none => rfl
            | some o => exact (passes_wakeAfter ..).journal
          have hsame := ih ⟨i, hi⟩ (outer && manner = .together) path hpast (by
            rw [hstep]
            exact hjournal ▸ h)
          rw [advance_child (i := ⟨i, hi⟩) hgoing (hsame.trans hstep),
            advance_child (i := ⟨i, hi⟩) hgoing hstep]
      · rw [advance_beside hi, advance_beside hi]

/-- So is a step of any place. -/
theorem go_among (live : Live α) (outer : Bool) (due : Due) (place : Place)
    (hpast : past ≤ s.journal.length)
    (h : peers.AgreeAlong peers' past (live.go peers outer due place s).2.journal) :
    live.go peers' outer due place s = live.go peers outer due place s := by
  cases place with
  | own path => exact advance_among live outer due path hpast h
  | stray i path =>
    rw [go, go, Prod.mk.injEq]
    refine ⟨rfl, ?_⟩
    rw [go] at h
    unfold advanceStray at h ⊢
    split
    next => rfl
    next stray hstray =>
      rw [hstray] at h
      dsimp only at h ⊢
      rw [advance_among stray.live false due path
        (s := { s with strays := s.strays.set i .gone }) hpast h]

end Live

namespace Stage

variable {α : Type} {peers peers' : Peers} {past : Nat}

theorem Leads.among {now later : Stage α} (h : Leads peers now later)
    (hpast : past ≤ now.2.journal.length) (hsame : peers.AgreeAlong peers' past later.2.journal) :
    Leads peers' now later := by
  induction h using Relation.ReflTransGen.head_induction_on with
  | refl => exact .refl
  | @head now next move hrest ih =>
    have hgrows := Leads.journal_grows (Relation.ReflTransGen.single move)
    obtain ⟨outer, due, place, clock, rfl⟩ := move
    refine .head ⟨outer, due, place, clock, ?_⟩ (ih (Nat.le_trans hpast hgrows.length_le))
    exact (Live.go_among now.1 outer due place (s := { now.2 with clock }) hpast
      (hsame.mono (Leads.journal_grows hrest))).symm

end Stage

/-- **A run is a run among all peers that answer alike what it asks.** -/
theorem Job.Ends.among {α : Type} {peers peers' : Peers} {past : Nat} {job : Job α}
    {s s' : Session} {o : Outcome α} (h : job.Ends peers s o s')
    (hpast : past ≤ s.journal.length) (hsame : peers.AgreeAlong peers' past s'.journal) :
    job.Ends peers' s o s' := by
  obtain ⟨due, h⟩ := h
  exact ⟨due, h.among hpast hsame⟩

end Rehearsal
