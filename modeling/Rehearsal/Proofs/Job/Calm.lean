import Rehearsal.Job.Lemmas
import Rehearsal.Proofs.Job.AtMostOnce
import Rehearsal.Proofs.Job.Meaning

/-!
# Where nothing breaks down

Within one scan a name and a type are looked up once, so a run may be read in a world in which every
lookup has one outcome. If the peers do not break down either, most jobs are sure to return, and
what is true of their value is found by going along them.

## Main definitions

* `Peers.Calm`: no peer breaks down
* `Session.Resolves`: what was looked up had the outcomes that a table tells
* `World.calm`: the world of a table of outcomes
* `Job.Returns`: a job returns, and something is true of its value

## Main results

* `Job.Ends.exists_resolves`, `Job.Ends.resolves`: runs have tables
* `Job.Returns.bind`, `Job.returns_all`, `Job.returns_race`: the rules for going along a job
-/

namespace Rehearsal

/-- A table that tells the outcome of each lookup. -/
abbrev Resolution := LookupKey → LookupOutcome

namespace Peers

/-- No peer breaks down. -/
structure Calm (peers : Peers) : Prop where
  /-- Calls of the resolver return. -/
  lookup : ∀ journal key, (peers.lookup journal key).outcome.crash? = none
  /-- Questions are answered. -/
  answer : ∀ journal question, (peers.answer journal question).outcome.crash? = none

theorem calm_answering (resolve : Resolution) : (answering resolve).Calm :=
  ⟨fun _ _ => rfl, fun _ _ => rfl⟩

end Peers

/-- What was looked up since the journal had some length had the outcomes that a table tells. -/
def Session.Resolves (past : Nat) (resolve : Resolution) (s : Session) : Prop :=
  ∀ key outcome, .settled key outcome ∈ s.news past → outcome = resolve key

/-- The world in which lookups have the outcomes that a table tells and nothing breaks down. -/
def World.calm (resolve : Resolution) : World where
  settled key outcome := outcome = resolve key
  lost _ _ := False
  answers _ o := o.crash? = none

theorem World.covers_calm {peers : Peers} {resolve : Resolution} {past : Nat} {s : Session}
    (hcalm : peers.Calm) (h : s.Resolves past resolve) :
    (World.calm resolve).Covers peers (s.news past) where
  settled := h
  lost := fun journal key message hlost => by
    have hnone := hcalm.lookup journal key
    rw [hlost] at hnone
    cases hnone
  answers := hcalm.answer

/-! ### Runs and tables -/

section Tables

variable {α β : Type} {peers : Peers} {resolve : Resolution} {past : Nat} {s s' : Session}

theorem Session.resolves_iff : s.Resolves past resolve ↔
    ∀ key, ∀ outcome ∈ Journal.returned key (s.news past), outcome = resolve key :=
  forall_congr' fun _ => forall_congr' fun _ => by rw [Journal.mem_returned]

/-- A table of the outcomes of a run is one of what had happened before. -/
theorem Session.Resolves.mono (h : s'.Resolves past resolve) (hgrows : s.journal <+: s'.journal) :
    s.Resolves past resolve :=
  fun key outcome hmem => h key outcome (Session.news_subset hgrows past hmem)

/-- Some table tells the outcomes of all lookups of a run, for no key has two. -/
theorem Session.Orderly.exists_resolves {H : Multiset Holding} (h : s.Orderly H past) :
    ∃ resolve, s.Resolves past resolve := by
  refine ⟨fun key => ((s.entry key).cell.outcome).getD (.ok []), ?_⟩
  rw [Session.resolves_iff]
  intro key outcome hmem
  rw [h.returned, Option.mem_toList] at hmem
  rw [Option.mem_def.mp hmem]
  rfl

/-- Some table tells the outcomes of all lookups of a run that begins with an empty cache. -/
theorem Job.Ends.exists_resolves {job : Job α} {o : Outcome α} (h : job.Ends peers s.forget o s') :
    ∃ resolve, s'.Resolves s.journal.length resolve :=
  (h.orderly (Session.orderly_of_cache_eq_nil rfl rfl)).exists_resolves

/-- What calls of the resolver under way will return is what a table tells. -/
def Live.Follows (resolve : Resolution) (live : Live α) : Prop :=
  ∀ (p : List Nat) (β : Type) (due : Due) (key : LookupKey) (seat : Seat)
    (answer : Outcome LookupOutcome) (next : LookupOutcome → Job β),
    live.At p (.calling due key seat answer next) → answer = .returned (resolve key)

section

variable (hpeers : ∀ journal key, (peers.lookup journal key).outcome = .returned (resolve key))

include hpeers

theorem Live.Turn.follows {live live' : Live α} (h : Live.Turn peers live s live' s')
    (hlive : live.Follows resolve) : live'.Follows resolve := by
  induction h with
  | done | crash | log | wait | ask | hit | join | settle | lose | serve | finish =>
    intro p β due key seat answer next hat
    cases hat
  | call | takeOver =>
    intro p β due key seat answer next hat
    cases hat
    exact hpeers _ _
  | fork =>
    intro p β due key seat answer next hat
    cases hat with
    | child i hat => cases hat
  | sleep =>
    intro p β due key seat answer next hat
    cases hat with
    | child i hat => exact hlive _ _ _ _ _ _ _ (.child i hat)
  | part i _ _ ih | partEnds i _ _ ih =>
    intro p β due key seat answer next hat
    cases hat with
    | child j hat =>
      rw [Function.update_apply] at hat
      split at hat
      · exact ih (fun _ _ _ _ _ _ _ hat => hlive _ _ _ _ _ _ _ (.child i hat)) _ _ _ _ _ _ _ hat
      · exact hlive _ _ _ _ _ _ _ (.child j hat)

omit hpeers in
theorem Live.Turn.resolves {live live' : Live α} (h : Live.Turn peers live s live' s')
    (hlive : live.Follows resolve) (hpast : past ≤ s.journal.length)
    (hs : s.Resolves past resolve) : s'.Resolves past resolve := by
  rw [Session.resolves_iff] at hs ⊢
  intro key outcome hmem
  obtain ⟨events, hjournal, hevents⟩ := h.journal_eq key
  rw [Session.news_append_of_journal hpast hjournal, Journal.returned_append,
    List.mem_append] at hmem
  rcases hmem with hmem | hmem
  · exact hs key outcome hmem
  · rcases hevents with hnone | ⟨p, β, due, seat, outcome', next, hat, -, rfl⟩
    · rw [hnone] at hmem
      cases hmem
    · rw [Journal.returned_singleton_settled, if_pos rfl, List.mem_singleton] at hmem
      rw [hmem]
      exact Outcome.returned.inj (hlive _ _ _ _ _ _ _ hat)

omit hpeers in
theorem Live.child_follows {x root : Stray} (h : Live.Child x root)
    (hroot : root.live.Follows resolve) : x.live.Follows resolve := by
  cases h with
  | intro i => exact fun _ _ _ _ _ _ _ hat => hroot _ _ _ _ _ _ _ (.child i hat)

/-- **If the resolver goes by a table, what a run looked up is what the table tells.** -/
theorem Job.Ends.resolves {job : Job α} {o : Outcome α} (h : job.Ends peers s.forget o s') :
    s'.Resolves s.journal.length resolve := by
  obtain ⟨due, h⟩ := h
  have hstart : (Live.ready due job).Follows resolve ∧
      (∀ x ∈ s.forget.strays, x.live.Follows resolve) ∧
      s.journal.length ≤ s.forget.journal.length ∧
      s.forget.Resolves s.journal.length resolve := by
    refine ⟨fun _ _ _ _ _ _ _ hat => ?_, fun _ hx => absurd hx List.not_mem_nil, Nat.le_refl _,
      fun key outcome hmem => ?_⟩
    · cases hat
    · rw [Session.news, Session.forget, List.drop_length] at hmem
      cases hmem
  refine (h.preserves (P := fun live s₁ => live.Follows resolve ∧
    (∀ x ∈ s₁.strays, x.live.Follows resolve) ∧ s.journal.length ≤ s₁.journal.length ∧
    s₁.Resolves s.journal.length resolve) ?_ ?_ ?_ hstart).2.2.2
  · intro live s₁ s₂ passes hnow
    rw [Session.Resolves, Session.news, passes.journal, passes.strays]
    exact hnow
  · rintro live s₁ s₂ drift ⟨hfollows, hstrays, hpast, hresolves⟩
    refine ⟨hfollows, drift.strays (P := fun x => x.live.Follows resolve)
      (fun _ _ => Live.child_follows) (fun turn => turn.follows hpeers)
      (fun _ _ _ _ _ _ _ hat => by cases hat) hstrays,
      hpast.trans drift.journal_grows.length_le, ?_⟩
    obtain ⟨i, at_, turn⟩ := drift
    exact turn.resolves (hstrays _ (List.mem_of_getElem? at_)) hpast hresolves
  · rintro live s₁ live' s₂ turn ⟨hfollows, hstrays, hpast, hresolves⟩
    exact ⟨turn.follows hpeers hfollows, turn.strays (P := fun x => x.live.Follows resolve)
      (fun _ _ => Live.child_follows) hfollows hstrays,
      hpast.trans turn.journal_grows.length_le, turn.resolves hfollows hpast hresolves⟩

end

end Tables

namespace Job

variable {α β γ : Type} {resolve : Resolution} {P : α → Prop} {Q : β → Prop}

theorem Gives.of_lookupThen {key : LookupKey} {next : LookupOutcome → Job β} {o : Outcome β}
    (h : (Job.lookupThen key next).Gives (.calm resolve) o) :
    (next (resolve key)).Gives (.calm resolve) o := by
  cases h with
  | lookupThen houtcome h =>
    obtain rfl := houtcome
    exact h
  | lookupLost hlost => cases hlost

theorem Gives.of_lookup_bind {name : String} {type : RecordType} {f : LookupOutcome → Job β}
    {o : Outcome β} (h : ((Job.lookup name type).bind f).Gives (.calm resolve) o) :
    (f (resolve (.ofName name type))).Gives (.calm resolve) o :=
  h.of_lookupThen

theorem Gives.of_lookup {name : String} {type : RecordType} {o : Outcome LookupOutcome}
    (h : (Job.lookup name type).Gives (.calm resolve) o) :
    o = .returned (resolve (.ofName name type)) := by
  rw [← bind_done (Job.lookup name type)] at h
  exact h.of_lookup_bind.of_done

theorem Gives.of_ask_bind {question : Question} {f : question.Answer → Job β} {o : Outcome β}
    (h : ((Job.ask question).bind f).Gives (.calm resolve) o) :
    ∃ answer, (f answer).Gives (.calm resolve) o := by
  cases h with
  | askThen _ h => exact ⟨_, h⟩
  | askLost hanswer => cases hanswer

/-! ### Jobs that are sure to return -/

/-- Where lookups have the outcomes that a table tells and nothing breaks down, the job returns, and
something is true of its value. -/
def Returns (resolve : Resolution) (job : Job α) (P : α → Prop) : Prop :=
  ∀ o, job.Gives (.calm resolve) o → ∃ value, o = .returned value ∧ P value

theorem returns_done {value : α} (h : P value) : (done value).Returns resolve P :=
  fun _ hgive => ⟨value, hgive.of_done, h⟩

theorem Returns.mono {P' : α → Prop} {job : Job α} (h : job.Returns resolve P)
    (himp : ∀ value, P value → P' value) : job.Returns resolve P' := by
  intro o hgive
  obtain ⟨value, rfl, hvalue⟩ := h o hgive
  exact ⟨value, rfl, himp value hvalue⟩

theorem Returns.bind {job : Job α} {f : α → Job β} (h : job.Returns resolve P)
    (hf : ∀ value, P value → (f value).Returns resolve Q) : (job.bind f).Returns resolve Q := by
  intro o hgive
  rcases hgive.of_bind with ⟨message, hcrash, rfl⟩ | ⟨value, hvalue, hnext⟩
  · obtain ⟨value, hreturned, -⟩ := h _ hcrash
    cases hreturned
  · obtain ⟨v, hreturned, hP⟩ := h _ hvalue
    obtain rfl := Outcome.returned.inj hreturned
    exact hf value hP o hnext

theorem returns_ask_bind {question : Question} {f : question.Answer → Job β}
    (h : ∀ answer, (f answer).Returns resolve Q) :
    ((Job.ask question).bind f).Returns resolve Q := by
  intro o hgive
  obtain ⟨answer, hnext⟩ := hgive.of_ask_bind
  exact h answer o hnext

theorem returns_time_bind {f : Nat → Job β} (h : ∀ now, (f now).Returns resolve Q) :
    (Job.time.bind f).Returns resolve Q := by
  intro o hgive
  obtain ⟨now, hnext⟩ := hgive.of_time_bind
  exact h now o hnext

theorem returns_lookup_bind {name : String} {type : RecordType} {f : LookupOutcome → Job β}
    (h : (f (resolve (.ofName name type))).Returns resolve Q) :
    ((Job.lookup name type).bind f).Returns resolve Q :=
  fun o hgive => h o hgive.of_lookup_bind

/-- Jobs that run together return if each of them does. -/
theorem returns_all {jobs : List (Job α)} (h : ∀ job ∈ jobs, job.Returns resolve P) :
    (all jobs).Returns resolve fun values => ∀ value ∈ values, P value := by
  intro o hgive
  rcases hgive.of_all with ⟨message, rfl, job, hjob, hcrash⟩ | ⟨values, rfl, hvalues⟩
  · obtain ⟨value, hreturned, -⟩ := h job hjob _ hcrash
    cases hreturned
  · refine ⟨values, rfl, fun value hvalue => ?_⟩
    obtain ⟨i, hi, rfl⟩ := List.mem_iff_getElem.mp hvalue
    obtain ⟨hlength, hget⟩ := List.forall₂_iff_get.mp hvalues
    obtain ⟨v, hreturned, hP⟩ := h _ (List.get_mem jobs ⟨i, hlength ▸ hi⟩) _ (hget i _ hi)
    rwa [← Outcome.returned.inj hreturned] at hP

/-- Jobs that run apart return if each of them does and what is made of their values does. -/
theorem returns_race {jobs : List (Job α)} {enough : Completions jobs.length α → Bool}
    {finish : Completions jobs.length α → Job β} (h : ∀ job ∈ jobs, job.Returns resolve P)
    (hfinish : ∀ completions, (∀ c ∈ completions, ∃ value, c.2 = .returned value ∧ P value) →
      (finish completions).Returns resolve Q) :
    (race jobs enough finish).Returns resolve Q := by
  intro o hgive
  cases hgive with
  | @fork _ _ _ _ _ _ _ _ completions _ hchild _ hnext =>
    refine hfinish completions (fun c hc => ?_) o hnext
    exact h _ (List.get_mem jobs c.1) _ (hchild c hc)

end Job

end Rehearsal
