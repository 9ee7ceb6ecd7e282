import Rehearsal.Proofs.Job.Calm

/-!
# Fixed answers, whenever they come

The resolver and all others may give fixed answers and still be quick or slow, so that runs of one
job differ in the order of everything. All of these runs are covered by one world, which knows the
answers and no times. What a job is sure to end with in that world, every run of it ends with.

A race is where an order may show. Whatever children it has heard of, it has heard of each at most
once, and what each ended with is no matter of the order; that is what is left to go by.

## Main definitions

* `Delays`: how long peers take
* `Peers.timed`: peers that give fixed answers after delays
* `World.fixed`: the world of these answers
* `Job.Settles`: a job has one outcome in a world

## Main results

* `World.covers_fixed`: whatever the delays, the world covers the run
* `Job.Settles.bind`, `Job.settles_all`: the rules for what has one outcome
* `Job.Gives.of_race`: what a race has heard of
-/

namespace Rehearsal

/-- How long peers take, given what happened before. -/
structure Delays where
  /-- The validating resolver. -/
  lookup : List Event → LookupKey → Nat
  /-- All the others. -/
  answer : List Event → Question → Nat

/-- A table that tells the answer to each question. -/
abbrev Replies := (question : Question) → question.Answer

/-- Peers that give the answers of tables, each after its delay. -/
def Peers.timed (resolve : Resolution) (reply : Replies) (delays : Delays) : Peers where
  lookup journal key := ⟨delays.lookup journal key, .returned (resolve key)⟩
  answer journal question := ⟨delays.answer journal question, .returned (reply question)⟩

/-- The world in which all answers are those of tables. -/
def World.fixed (resolve : Resolution) (reply : Replies) : World where
  settled key outcome := outcome = resolve key
  lost _ _ := False
  answers question o := o = .returned (reply question)

variable {α β γ : Type} {w : World} {resolve : Resolution} {reply : Replies}

/-- A run is covered by the world of the answers that its peers give, whenever they do. -/
theorem World.covers_fixed {delays : Delays} {job : Job α} {s s' : Session} {o : Outcome α}
    (h : job.Ends (.timed resolve reply delays) s.forget o s') :
    (World.fixed resolve reply).Covers (.timed resolve reply delays)
      (s'.news s.journal.length) where
  settled := h.resolves fun _ _ => rfl
  lost := fun _ _ _ hlost => nomatch hlost
  answers := fun _ _ => rfl

namespace Job

/-! ### Where answers are fixed -/

theorem gives_lookup_bind_fixed {name : String} {type : RecordType} {f : LookupOutcome → Job β}
    {outcome : LookupOutcome} {o : Outcome β} (hanswer : resolve (.ofName name type) = outcome)
    (h : ((Job.lookup name type).bind f).Gives (.fixed resolve reply) o) :
    (f outcome).Gives (.fixed resolve reply) o := by
  cases h with
  | lookupThen houtcome h => rwa [houtcome.trans hanswer] at h
  | lookupLost hlost => cases hlost

theorem gives_ask_bind_fixed {question : Question} {f : question.Answer → Job β} {o : Outcome β}
    (h : ((Job.ask question).bind f).Gives (.fixed resolve reply) o) :
    (f (reply question)).Gives (.fixed resolve reply) o := by
  cases h with
  | askThen hanswer h =>
    obtain rfl := Outcome.returned.inj hanswer
    exact h
  | askLost hanswer => cases hanswer

/-! ### Jobs that have one outcome -/

/-- In a world a job can end in one way only. -/
def Settles (w : World) (job : Job α) (o : Outcome α) : Prop := ∀ o', job.Gives w o' → o' = o

theorem settles_done (value : α) : (done value).Settles w (.returned value) :=
  fun _ hgive => hgive.of_done

theorem settles_crash (message : String) : (crash message : Job α).Settles w (.crashed message) :=
  fun _ hgive => hgive.of_crash

theorem settles_lookup (name : String) (type : RecordType) :
    (Job.lookup name type).Settles (.fixed resolve reply)
      (.returned (resolve (.ofName name type))) := by
  intro o hgive
  rw [← bind_done (Job.lookup name type)] at hgive
  exact (gives_lookup_bind_fixed rfl hgive).of_done

theorem settles_lookup_bind {name : String} {type : RecordType} {f : LookupOutcome → Job β}
    {outcome : LookupOutcome} {o : Outcome β} (hanswer : resolve (.ofName name type) = outcome)
    (h : (f outcome).Settles (.fixed resolve reply) o) :
    ((Job.lookup name type).bind f).Settles (.fixed resolve reply) o :=
  fun o' hgive => h o' (gives_lookup_bind_fixed hanswer hgive)

theorem settles_ask_bind {question : Question} {f : question.Answer → Job β} {o : Outcome β}
    (h : (f (reply question)).Settles (.fixed resolve reply) o) :
    ((Job.ask question).bind f).Settles (.fixed resolve reply) o :=
  fun o' hgive => h o' (gives_ask_bind_fixed hgive)

theorem Settles.bind {job : Job α} {f : α → Job β} {value : α} {o : Outcome β}
    (h : job.Settles w (.returned value)) (hf : (f value).Settles w o) :
    (job.bind f).Settles w o := by
  intro o' hgive
  rcases hgive.of_bind with ⟨message, hcrash, -⟩ | ⟨value', hvalue, hnext⟩
  · cases h _ hcrash
  · obtain rfl := Outcome.returned.inj (h _ hvalue)
    exact hf o' hnext

/-- Jobs that run together and have one value each, have one list of values. -/
theorem settles_all {job : γ → Job α} {value : γ → α}
    (h : ∀ x, (job x).Settles w (.returned (value x))) (xs : List γ) :
    (all (xs.map job)).Settles w (.returned (xs.map value)) := by
  intro o hgive
  rcases hgive.of_all with ⟨message, -, part, hpart, hcrash⟩ | ⟨values, rfl, hvalues⟩
  · obtain ⟨x, -, rfl⟩ := List.mem_map.mp hpart
    cases h x _ hcrash
  · have hsame : List.Forall₂ (fun x v => value x = v) xs values :=
      (List.forall₂_map_left_iff.mp hvalues).imp fun x v hv =>
        (Outcome.returned.inj (h x _ hv)).symm
    rw [← List.forall₂_map_left_iff, List.forall₂_eq_eq_eq] at hsame
    rw [hsame]

/-! ### Races -/

/-- **What a race has heard of.** If each of its children has one value, then it has heard of some
of these values, of each at most once, and if that was not enough for it, of all. -/
theorem Gives.of_race {job : γ → Job β} {value : γ → β}
    (hjob : ∀ x, (job x).Settles w (.returned (value x))) {xs : List γ}
    {enough : Completions (xs.map job).length β → Bool}
    {finish : Completions (xs.map job).length β → Job α} {o : Outcome α}
    (h : (race (xs.map job) enough finish).Gives w o) :
    ∃ (completions : Completions (xs.map job).length β) (came : List γ),
      completions.map Prod.snd = (came.map value).map Outcome.returned ∧
      came.Subperm xs ∧ (came.Perm xs ∨ enough completions = true) ∧
      (finish completions).Gives w o := by
  cases h with
  | @fork _ _ _ _ _ _ _ _ completions hnodup hchild hthrough hend =>
    have hlength : (xs.map job).length = xs.length := List.length_map job
    let child : Fin (xs.map job).length → γ := fun i => xs.get (i.cast hlength)
    have hall : (List.finRange (xs.map job).length).map child = xs := by
      refine List.ext_getElem (by simp) fun i _ _ => ?_
      simp [child]
    have hsub : (completions.map Prod.fst).Subperm (List.finRange (xs.map job).length) :=
      hnodup.subperm fun j _ => List.mem_finRange j
    refine ⟨completions, (completions.map Prod.fst).map child, ?_, ?_, ?_, hend⟩
    · rw [List.map_map, List.map_map, List.map_map]
      refine List.map_congr_left fun c hc => hjob _ c.2 ?_
      have hgive := hchild c hc
      rwa [List.get_eq_getElem, List.getElem_map] at hgive
    · obtain ⟨l, hperm, hsublist⟩ := hsub
      have hcame : ((completions.map Prod.fst).map child).Subperm
          ((List.finRange (xs.map job).length).map child) :=
        ⟨l.map child, hperm.map child, hsublist.map child⟩
      rwa [hall] at hcame
    · refine hthrough.imp_left fun hfull => ?_
      have hcame := (perm_finRange_of_length hnodup hfull).map child
      rwa [hall] at hcame

end Job

end Rehearsal
