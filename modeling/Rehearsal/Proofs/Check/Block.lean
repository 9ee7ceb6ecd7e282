import Rehearsal.Proofs.Check.Rule
import Rehearsal.Proofs.Job.Fork

/-!
# What a block makes of its members

The members of a block begin in their order and end in any. Whether the block fails depends on what
its members end with and not on the order in which they do; the order only settles which error it
gives, or how its findings are arranged. When the block fails, the members that have not ended are
given up and never end.

What is given up with a member stops there, with one exception: a member that is a block of its own
leaves its members behind. They are what goes on after the end of a block, and nothing else is.

## Main definitions

* `Check.Merges`: what a block makes of completions

## Main results

* `Check.merges_of_through`: what a block makes of completions that are enough for it
* `Check.block_merges`: how members begin, what the block gives, and what goes on afterwards
-/

namespace Rehearsal

namespace Check

variable {n : Nat} {completions : Completions n Verdict} {f : Fin n → Outcome Verdict}

/-- What a block makes of the completions of its members, which are in the order in which they
came. -/
structure Merges (completions : Completions n Verdict) (verdict : Verdict) : Prop where
  /-- If no member failed, all of them have ended, each once, and the findings are joined in the
  order in which they did. -/
  ok : (∀ c ∈ completions, failure? c.2 = none) →
    (completions.map Prod.fst).Perm (List.finRange n) ∧
      verdict = .ok (completions.flatMap fun c => findings c.2)
  /-- Otherwise the verdict is the error of the first member that failed. -/
  error : ∀ front c back e, completions = front ++ c :: back →
    (∀ x ∈ front, failure? x.2 = none) → failure? c.2 = some e → verdict = .error e
  /-- A block is never without anything to look at. -/
  applicable : verdict ≠ .error .notApplicable
  /-- Whether the block fails is told by what its members end with, in whatever order. -/
  inAnyOrder : ∀ f : Fin n → Outcome Verdict, (∀ c ∈ completions, c.2 = f c.1) →
    ((∃ problems, verdict = .ok problems) ↔ ∀ i, failure? (f i) = none)
  /-- The findings are those of the members in their order, up to a permutation. -/
  perm : ∀ f : Fin n → Outcome Verdict, (∀ c ∈ completions, c.2 = f c.1) →
    ∀ problems, verdict = .ok problems →
      problems.Perm ((List.finRange n).flatMap fun i => findings (f i))

theorem failure?_ne_notApplicable (o : Outcome Verdict) : failure? o ≠ some .notApplicable := by
  unfold failure?
  cases memberVerdict o with
  | ok problems => simp
  | error e => cases e <;> simp

theorem hasFailure_eq_false_iff :
    hasFailure completions = false ↔ ∀ c ∈ completions, failure? c.2 = none := by
  unfold hasFailure
  rw [List.any_eq_false]
  exact forall₂_congr fun c _ => by rw [Option.not_isSome_iff_eq_none]

theorem mergeVerdicts_of_none (h : ∀ c ∈ completions, failure? c.2 = none) :
    mergeVerdicts completions = .ok (completions.flatMap fun c => findings c.2) := by
  rw [mergeVerdicts, List.findSome?_eq_none_iff.mpr h]

theorem mergeVerdicts_eq_ok {problems : List Problem}
    (h : mergeVerdicts completions = .ok problems) :
    (∀ c ∈ completions, failure? c.2 = none) ∧
      problems = completions.flatMap fun c => findings c.2 := by
  unfold mergeVerdicts at h
  split at h
  next => cases h
  next hnone => exact ⟨List.findSome?_eq_none_iff.mp hnone, (Except.ok.inj h).symm⟩

/-- **What a block makes of completions that are enough for it.** -/
theorem merges_of_through (hnodup : (completions.map Prod.fst).Nodup)
    (hthrough : completions.length = n ∨ hasFailure completions = true) :
    Merges completions (mergeVerdicts completions) := by
  have hfull (hnone : ∀ c ∈ completions, failure? c.2 = none) :
      (completions.map Prod.fst).Perm (List.finRange n) := by
    refine Job.perm_finRange_of_length hnodup (hthrough.resolve_right ?_)
    rw [hasFailure_eq_false_iff.mpr hnone]
    exact Bool.false_ne_true
  refine ⟨fun hnone => ⟨hfull hnone, mergeVerdicts_of_none hnone⟩, ?_, ?_, ?_, ?_⟩
  · intro front c back e hsplit hfront hfail
    rw [mergeVerdicts, hsplit, List.findSome?_append, List.findSome?_eq_none_iff.mpr hfront,
      Option.none_or, List.findSome?_cons, hfail]
  · intro heq
    unfold mergeVerdicts at heq
    split at heq
    next e he =>
      obtain ⟨c, -, hfail⟩ := List.exists_of_findSome?_eq_some he
      exact failure?_ne_notApplicable c.2 (hfail.trans (congrArg some (Except.error.inj heq)))
    next => cases heq
  · intro f hf
    constructor
    · rintro ⟨problems, hok⟩ i
      obtain ⟨hnone, -⟩ := mergeVerdicts_eq_ok hok
      obtain ⟨c, hc, rfl⟩ := List.mem_map.mp ((hfull hnone).mem_iff.mpr (List.mem_finRange i))
      rw [← hf c hc]
      exact hnone c hc
    · intro hnone
      exact ⟨_, mergeVerdicts_of_none fun c hc => by rw [hf c hc, hnone]⟩
  · intro f hf problems hok
    obtain ⟨hnone, rfl⟩ := mergeVerdicts_eq_ok hok
    have hmembers : (completions.flatMap fun c => findings c.2) =
        (completions.map Prod.fst).flatMap fun i => findings (f i) := by
      rw [List.flatMap_map]
      exact List.flatMap_congr fun c hc => by rw [hf c hc]
    rw [hmembers]
    exact (hfull hnone).flatMap_right _

/-- When a block has findings to give, each member ended without failing, and its findings are
among them. -/
theorem member_of_block_ok {w : World} {members : List Checker} {context : ScanContext}
    {domain : String} {method : Method} {problems : List Problem}
    (h : ((block members).check context domain method).Gives w (.returned (.ok problems)))
    (i : Fin members.length) :
    ∃ o, ((members.get i).check context domain method).Gives w o ∧ failure? o = none ∧
      findings o ⊆ problems := by
  cases h with
  | @fork _ _ _ _ _ _ _ _ completions hnodup hchild hthrough hend =>
    obtain ⟨hnone, rfl⟩ := mergeVerdicts_eq_ok (Outcome.returned.inj hend.of_done).symm
    have hfull := ((merges_of_through hnodup hthrough).ok hnone).1
    obtain ⟨c, hc, rfl⟩ := List.mem_map.mp (hfull.mem_iff.mpr (List.mem_finRange i))
    exact ⟨c.2, hchild c hc, hnone c hc, fun p hp => List.mem_flatMap.mpr ⟨c, hc, hp⟩⟩

/-- Where no member fails, a block has the findings of all of them, in some order. -/
theorem block_gives_perm {w : World} {members : List Checker} {context : ScanContext}
    {domain : String} {method : Method} {o : Outcome Verdict}
    (hmembers : ∀ i o, ((members.get i).check context domain method).Gives w o →
      failure? o = none)
    (h : ((block members).check context domain method).Gives w o) :
    ∃ (f : Fin members.length → Outcome Verdict) (problems : List Problem),
      o = .returned (.ok problems) ∧
      (∀ i, ((members.get i).check context domain method).Gives w (f i)) ∧
      problems.Perm ((List.finRange members.length).flatMap fun i => findings (f i)) := by
  cases h with
  | @fork _ _ _ _ _ _ _ _ completions hnodup hchild hthrough hend =>
    have hnone : ∀ c ∈ completions, failure? c.2 = none :=
      fun c hc => hmembers c.1 c.2 (hchild c hc)
    have hfull : completions.length = members.length := by
      refine hthrough.resolve_right ?_
      rw [hasFailure_eq_false_iff.mpr hnone]
      exact Bool.false_ne_true
    choose f hf using fun i => Job.exists_lookup_eq hnodup hfull i
    have hmem (i : Fin members.length) : (i, f i) ∈ completions := Job.mem_of_lookup_eq_some (hf i)
    have hmerges := merges_of_through hnodup hthrough
    have hok := (hmerges.ok hnone).2
    refine ⟨f, _, by rw [hend.of_done, hok], fun i => hchild _ (hmem i), ?_⟩
    refine hmerges.perm f (fun c hc => ?_) _ hok
    exact congrArg Prod.snd (List.inj_on_of_nodup_map hnodup hc (hmem c.1) rfl)

/-! ### Runs of blocks -/

section Block

variable {members : List Checker} {context : ScanContext} {domain : String} {method : Method}
  {peers : Peers}

/-- What a member of a block does. -/
def memberJob (members : List Checker) (context : ScanContext) (domain : String) (method : Method)
    (i : Fin members.length) : Job Verdict :=
  (members.get i).check context domain method

/-- A stage of a block: it has not begun, or its first members have and no others, or its members
are through. -/
private def IsBlockStage (peers : Peers) (member : Fin n → Job Verdict)
    (live : Live Verdict) : Prop :=
  (∃ due, live = .ready due (.fork .loose n member hasFailure fun cs => .done (mergeVerdicts cs))) ∨
    (∃ dues children completions wake,
      (∀ i j, i < j → (dues j).isBefore (dues i) = false) ∧
      Live.BegunInOrder peers member dues children ∧
      live = .forked .loose n children completions wake hasFailure
        fun cs => .done (mergeVerdicts cs)) ∨
    (∃ due verdict, live = .ready due (.done verdict)) ∨ ∃ outcome, live = .ended outcome

private theorem IsBlockStage.tick {member : Fin n → Job Verdict} {now later : Stage Verdict}
    (h : IsBlockStage peers member now.1) (htick : Stage.Ticks peers now later) :
    IsBlockStage peers member later.1 := by
  obtain ⟨live, s⟩ := now
  obtain ⟨live', s'⟩ := later
  rcases h with ⟨due, rfl⟩ | ⟨dues, children, completions, wake, hdues, hbegun, rfl⟩ |
    ⟨due, verdict, rfl⟩ | ⟨outcome, rfl⟩
  · rcases htick.cases with ⟨due', path, clock, hnext, hlater⟩ | hsame
    · obtain ⟨rfl, -⟩ := Prod.mk.inj hlater
      refine .inr (.inl ⟨_, _, _, _, fun i j hij => ?_, Live.begunInOrder_none peers member _, rfl⟩)
      rw [← Bool.not_eq_true, Due.isBefore_iff]
      simp only [Live.dueOf]
      omega
    · exact .inl ⟨due, hsame⟩
  · rcases hbegun.tick hdues htick with ⟨children', completions', wake', hbegun', rfl⟩ | ⟨due, rfl⟩
    · exact .inr (.inl ⟨dues, children', completions', wake', hdues, hbegun', rfl⟩)
    · exact .inr (.inr (.inl ⟨due, _, rfl⟩))
  · rcases htick.cases with ⟨due', path, clock, hnext, hlater⟩ | hsame
    · obtain ⟨rfl, -⟩ := Prod.mk.inj hlater
      exact .inr (.inr (.inr ⟨_, rfl⟩))
    · exact .inr (.inr (.inl ⟨due, verdict, hsame⟩))
  · rcases htick.cases with ⟨due', path, clock, hnext, hlater⟩ | hsame
    · cases hnext
    · exact .inr (.inr (.inr ⟨outcome, hsame⟩))

/-- By the clock, the members of a block begin in their order. -/
theorem begunInOrder_of_ticks {member : Fin n → Job Verdict} {due : Due} {s reached : Session}
    {children : Fin n → Live Verdict} {wake : Option Due}
    (h : Relation.ReflTransGen (Stage.Ticks peers)
      (.ready due (.fork .loose n member hasFailure fun cs => .done (mergeVerdicts cs)), s)
      (.forked .loose n children completions wake hasFailure fun cs => .done (mergeVerdicts cs),
        reached)) :
    ∃ dues, Live.BegunInOrder peers member dues children := by
  generalize hlast : (Live.forked .loose n children completions wake hasFailure
    (fun cs => .done (mergeVerdicts cs)), reached) = last at h
  have hstage : IsBlockStage peers member last.1 := by
    clear hlast
    induction h with
    | refl => exact .inl ⟨due, rfl⟩
    | tail _ htick ih => exact ih.tick htick
  rw [← hlast] at hstage
  rcases hstage with ⟨_, heq⟩ | ⟨dues, children', _, _, -, hbegun, heq⟩ | ⟨_, _, heq⟩ | ⟨_, heq⟩
  · cases heq
  · cases heq
    exact ⟨dues, hbegun⟩
  · cases heq
  · cases heq

/-- How a block ends: what its members had become, what it gives, and what is left. -/
structure EndsBy (peers : Peers) (member : Fin n → Job Verdict) (children : Fin n → Live Verdict)
    (completions : Completions n Verdict) (reached : Session) (verdict : Verdict)
    (after s' : Session) : Prop where
  /-- Each member was run once, from its beginning. -/
  came : Live.Came peers member children
  /-- The completions tell which members have ended, and with what. -/
  mem : ∀ i o, (i, o) ∈ completions ↔ children i = .ended o
  /-- The block gives what it makes of the completions. -/
  merges : Merges completions verdict
  /-- When it does, nothing happens to the outside. -/
  journal : after.journal = reached.journal
  /-- Of the members that have not ended nothing is left but members of blocks among them. -/
  strays : after.strays =
    reached.strays ++ (List.finRange n).flatMap fun i => (children i).leftBehind
  /-- From then on nothing happens but that those go on which were left behind. -/
  drifts : after.Drifts peers s'
  /-- If nobody was left behind, nothing happens any more. -/
  passes : reached.strays = [] → (∀ i, (children i).leftBehind = []) → after.Passes s'

theorem endsBy_of_ends {member : Fin n → Job Verdict} {s s' : Session} {outcome : Outcome Verdict}
    (h : (Job.fork .loose n member hasFailure fun cs => .done (mergeVerdicts cs)).Ends peers s
      outcome s') :
    ∃ (dues : Fin n → Due) (wake₀ : Option Due) (begun : Session) (children : Fin n → Live Verdict)
        (completions : Completions n Verdict) (wake : Option Due) (reached : Session)
        (verdict : Verdict) (after : Session),
      s.Drifts peers begun ∧
      Stage.Leads peers
        (.forked .loose n (fun i => .ready (dues i) (member i)) [] wake₀ hasFailure
          fun cs => .done (mergeVerdicts cs), begun)
        (.forked .loose n children completions wake hasFailure
          fun cs => .done (mergeVerdicts cs), reached) ∧
      outcome = .returned verdict ∧
      EndsBy peers member children completions reached verdict after s' := by
  obtain ⟨dues, wake₀, begun, children, completions, wake, reached, before, after, hbegun, hreached,
    hcame, htally, hthrough, hpass, hgiven, hnext⟩ := h.fork
  obtain ⟨rfl, hdrifts⟩ := hnext.done
  have hstrays : after.strays =
      reached.strays ++ (List.finRange n).flatMap fun i => (children i).leftBehind := by
    rw [hgiven.strays, Live.strays_abandonAll, hpass.strays]
  refine ⟨dues, wake₀, begun, children, completions, wake, reached, _, after, hbegun, hreached, rfl,
    hcame, htally.mem, merges_of_through htally.nodup hthrough, ?_, hstrays, hdrifts, ?_⟩
  · rw [hgiven.journal, Live.journal_abandonAll, hpass.journal]
  · intro hnone hall
    refine hdrifts.passes ?_
    rw [hstrays, hnone, List.nil_append, List.flatMap_eq_nil_iff]
    exact fun i _ => hall i

/-- **How members begin, what a block gives, and what goes on afterwards.**

By the clock a block ends, and its members begin in their order. In whatever order steps are taken,
each member runs once, the completions tell which members have ended and with what, and the block
gives what it makes of them. Once it has, the others are given up: nothing goes on but what had been
left behind before and the members of blocks among those that are given up. -/
theorem block_merges (members : List Checker) (context : ScanContext) (domain : String)
    (method : Method) (peers : Peers) (s : Session) :
    (∃ fuel verdict s', ((block members).check context domain method).run peers fuel s.forget =
      some (.returned verdict, s')) ∧
    (∀ due children completions wake reached,
      Relation.ReflTransGen (Stage.Ticks peers)
        (.ready due ((block members).check context domain method), s)
        (.forked .loose members.length children completions wake hasFailure
          fun cs => .done (mergeVerdicts cs), reached) →
      ∃ dues, Live.BegunInOrder peers (memberJob members context domain method) dues children) ∧
    ∀ outcome s', ((block members).check context domain method).Ends peers s outcome s' →
      ∃ (dues : Fin members.length → Due) (wake₀ : Option Due) (begun : Session)
          (children : Fin members.length → Live Verdict)
          (completions : Completions members.length Verdict) (wake : Option Due)
          (reached : Session) (verdict : Verdict) (after : Session),
        s.Drifts peers begun ∧
        Stage.Leads peers
          (.forked .loose members.length
            (fun i => .ready (dues i) (memberJob members context domain method i)) [] wake₀
            hasFailure fun cs => .done (mergeVerdicts cs), begun)
          (.forked .loose members.length children completions wake hasFailure
            fun cs => .done (mergeVerdicts cs), reached) ∧
        outcome = .returned verdict ∧
        EndsBy peers (memberJob members context domain method) children completions reached verdict
          after s' := by
  refine ⟨?_, fun _ _ _ _ _ hticks => begunInOrder_of_ticks hticks, fun outcome s' h => ?_⟩
  · obtain ⟨fuel, o, s', hrun⟩ := Job.exists_run peers ((block members).check context domain method)
      (s := s.forget) rfl rfl
    obtain ⟨_, _, _, _, _, _, _, verdict, _, -, -, rfl, -⟩ :=
      endsBy_of_ends (Job.ends_of_run hrun)
    exact ⟨fuel, verdict, s', hrun⟩
  · exact endsBy_of_ends h

end Block

end Check

end Rehearsal
