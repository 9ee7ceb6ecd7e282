import Rehearsal.Proofs.Check.Block
import Rehearsal.Proofs.Check.Caa
import Rehearsal.Proofs.Check.Comparison
import Rehearsal.Proofs.Check.Effects

/-!
# Findings that agree

When every question has a fixed answer, a checker of a scan for `dns-01` can find only one thing,
however long the answers take, but for the text of the note that is left when the comparison of
nameservers stops. What is found side by side comes in any order as well. So what any two runs find
agrees: up to the order, and up to that note if there are two causes for it.

## Main definitions

* `Check.OfOthers`: findings that are not about nameservers
* `Check.Agree`: findings are the same in some order, or differ in one note about nameservers

## Main results

* `Check.nsOutOfSync_agrees`: what is found about nameservers
* `Check.txtRecord_settles`, `Check.txtDoubledLabel_settles`, `Check.caa_settles`: all others find
  one thing
* `Check.standardBlock_agrees`: what is found side by side
-/

namespace Rehearsal

namespace Check

variable {resolve : Resolution} {reply : Replies}

/-! ### Findings that agree -/

/-- Findings that are not about nameservers. -/
def OfOthers (problems : List Problem) : Prop := ∀ p ∈ problems, p.name ≠ nsOutOfSyncName

/-- There are two causes for the comparison of nameservers to stop, with these notes. -/
def StopsInTwoWays (resolve : Resolution) (reply : Replies) (name : String)
    (note note' : Problem) : Prop :=
  ∃ cause cause', cause ≠ cause' ∧ StopsWith resolve reply name cause note ∧
    StopsWith resolve reply name cause' note'

/-- Findings differ in the text of one note about nameservers, whose comparison may stop with either
of the two notes. -/
def DifferInNote (resolve : Resolution) (reply : Replies) (name : String)
    (problems problems' : List Problem) : Prop :=
  ∃ explanation explanation' detail detail' others,
    StopsInTwoWays resolve reply name (nsNote explanation detail) (nsNote explanation' detail') ∧
    OfOthers others ∧
    problems.Perm (nsNote explanation detail :: others) ∧
    problems'.Perm (nsNote explanation' detail' :: others)

/-- Findings are the same in some order, or differ in one note about nameservers. -/
def Agree (resolve : Resolution) (reply : Replies) (name : String)
    (problems problems' : List Problem) : Prop :=
  problems.Perm problems' ∨ DifferInNote resolve reply name problems problems'

section Agree

variable {name : String} {problems problems' others : List Problem}

theorem ofOthers_nil : OfOthers [] := fun _ hp => absurd hp List.not_mem_nil

theorem ofOthers_singleton {p : Problem} (h : p.name ≠ nsOutOfSyncName) : OfOthers [p] :=
  List.forall_mem_singleton.mpr h

theorem OfOthers.append {more : List Problem} (h : OfOthers others) (hmore : OfOthers more) :
    OfOthers (others ++ more) :=
  List.forall_mem_append.mpr ⟨h, hmore⟩

theorem Agree.perm {ps ps' : List Problem} (h : Agree resolve reply name problems problems')
    (hps : ps.Perm problems) (hps' : ps'.Perm problems') : Agree resolve reply name ps ps' := by
  rcases h with h | ⟨e, e', d, d', rest, hstops, hrest, hp, hp'⟩
  · exact .inl ((hps.trans h).trans hps'.symm)
  · exact .inr ⟨e, e', d, d', rest, hstops, hrest, hps.trans hp, hps'.trans hp'⟩

/-- Findings of others may be added in front. -/
theorem Agree.append_left (h : Agree resolve reply name problems problems')
    (hothers : OfOthers others) :
    Agree resolve reply name (others ++ problems) (others ++ problems') := by
  rcases h with h | ⟨e, e', d, d', rest, hstops, hrest, hp, hp'⟩
  · exact .inl (h.append_left others)
  · refine .inr ⟨e, e', d, d', others ++ rest, hstops, hothers.append hrest, ?_, ?_⟩
    · exact (hp.append_left others).trans List.perm_middle
    · exact (hp'.append_left others).trans List.perm_middle

/-- Findings may be left out, other than notes about nameservers. -/
theorem Agree.filter {keep : Problem → Bool} (h : Agree resolve reply name problems problems')
    (hkeep : ∀ explanation detail, keep (nsNote explanation detail) = true) :
    Agree resolve reply name (problems.filter keep) (problems'.filter keep) := by
  rcases h with h | ⟨e, e', d, d', rest, hstops, hrest, hp, hp'⟩
  · exact .inl (h.filter _)
  · replace hp := hp.filter keep
    replace hp' := hp'.filter keep
    rw [List.filter_cons_of_pos (hkeep _ _)] at hp hp'
    exact .inr ⟨e, e', d, d', rest.filter keep, hstops,
      fun p hp => hrest p (List.mem_of_mem_filter hp), hp, hp'⟩

/-- Names and severities do not tell the text of a note. -/
theorem Agree.outline (h : Agree resolve reply name problems problems') :
    (problems.map fun p => (p.name, p.severity)).Perm
      (problems'.map fun p => (p.name, p.severity)) := by
  rcases h with h | ⟨e, e', d, d', rest, -, -, hp, hp'⟩
  · exact h.map _
  · have hnotes : (nsNote e d :: rest).map (fun p => (p.name, p.severity)) =
        (nsNote e' d' :: rest).map fun p => (p.name, p.severity) := rfl
    refine (hp.map _).trans ?_
    rw [hnotes]
    exact (hp'.map _).symm

end Agree

theorem nsOutOfSync_agrees (context : ScanContext) (domain : String) {o o' : Outcome Verdict}
    (h : (nsOutOfSync.check context domain .dns01).Gives (.fixed resolve reply) o)
    (h' : (nsOutOfSync.check context domain .dns01).Gives (.fixed resolve reply) o') :
    ∃ problems problems', o = .returned (.ok problems) ∧ o' = .returned (.ok problems') ∧
      Agree resolve reply (Domain.stripWildcard domain).1 problems problems' := by
  obtain ⟨found, hfound⟩ := nsOutOfSync_gives resolve reply context domain
  rcases hfound o h with ⟨rfl, hnone⟩ | ⟨cause, note, hstops, rfl⟩
  · rcases hfound o' h' with ⟨rfl, -⟩ | ⟨cause', note', hstops', -⟩
    · exact ⟨found, found, rfl, rfl, .inl (.refl found)⟩
    · exact absurd hstops' (hnone cause' note')
  · rcases hfound o' h' with ⟨-, hnone⟩ | ⟨cause', note', hstops', rfl⟩
    · exact absurd hstops (hnone cause note)
    · refine ⟨[note], [note'], rfl, rfl, ?_⟩
      by_cases hsame : cause = cause'
      · subst hsame
        rw [hstops.unique hstops']
        exact .inl (.refl _)
      · obtain ⟨e, d, rfl⟩ := hstops.eq_nsNote
        obtain ⟨e', d', rfl⟩ := hstops'.eq_nsNote
        exact .inr ⟨e, e', d, d', [], ⟨cause, cause', hsame, hstops, hstops'⟩, ofOthers_nil,
          .refl _, .refl _⟩

/-! ### All others -/

theorem txtRecord_settles (resolve : Resolution) (reply : Replies) (context : ScanContext)
    (domain : String) :
    ∃ problems, (txtRecord.check context domain .dns01).Settles (.fixed resolve reply)
      (.returned (.ok problems)) ∧ OfOthers problems := by
  cases hanswer : resolve (.ofName (challengeName (Domain.stripWildcard domain).1) .txt) with
  | ok records =>
    exact ⟨[], Job.settles_lookup_bind hanswer (Job.settles_done _), ofOthers_nil⟩
  | error e =>
    exact ⟨_, Job.settles_lookup_bind hanswer (Job.settles_done _),
      ofOthers_singleton (by simp [challengeError, nsOutOfSyncName])⟩

theorem txtDoubledLabel_settles (resolve : Resolution) (reply : Replies)
    (suffixes : List Domain.SuffixRule) (context : ScanContext) (domain : String) :
    ∃ problems, ((txtDoubledLabelBy suffixes).check context domain .dns01).Settles
      (.fixed resolve reply) (.returned (.ok problems)) ∧ OfOthers problems := by
  have hothers (answers : List TxtAnswer) (control : TxtAnswer) :
      OfOthers (judgeDoubled answers control) := by
    unfold judgeDoubled
    dsimp only
    split
    · exact ofOthers_nil
    · split
      · exact ofOthers_nil
      · exact ofOthers_singleton (by simp [doubledLabel, nsOutOfSyncName])
  have hlookup (name : String) : (Job.lookup name .txt).Settles (.fixed resolve reply)
      (.returned (resolve (.ofName name .txt))) := Job.settles_lookup name .txt
  exact ⟨_, Job.settles_ask_bind ((Job.settles_all hlookup _).bind (Job.settles_done _)),
    hothers _ _⟩

theorem ofOthers_evaluate (n : String) (wildcard : Bool) (found : List CaaRecord) :
    OfOthers (Caa.evaluate n wildcard found) := by
  have hnote : (Caa.note found).name ≠ nsOutOfSyncName := by
    simp [Caa.note, Problem.debug, nsOutOfSyncName]
  unfold Caa.evaluate
  simp only
  split
  · exact List.forall_mem_cons.mpr ⟨hnote, ofOthers_singleton
      (by simp [Caa.criticalUnknown, nsOutOfSyncName])⟩
  · split
    · exact ofOthers_singleton hnote
    · exact List.forall_mem_cons.mpr ⟨hnote, ofOthers_singleton
        (by simp [Caa.notAllowed, nsOutOfSyncName])⟩

theorem walkCaa_settles (resolve : Resolution) (reply : Replies) (wildcard : Bool)
    (names : List String) :
    ∃ o, (walkCaa wildcard names).Settles (.fixed resolve reply) o ∧ OfOthers (findings o) := by
  induction names with
  | nil => exact ⟨_, Job.settles_done _, ofOthers_nil⟩
  | cons n names ih =>
    cases hanswer : resolve (.ofName n .caa) with
    | error e =>
      exact ⟨_, Job.settles_lookup_bind hanswer (Job.settles_done _),
        ofOthers_singleton (by simp [Problem.lookupFailed, nsOutOfSyncName])⟩
    | ok records =>
      cases hfound : CaaRecord.ofRecords? records with
      | none =>
        refine ⟨.crashed Record.unwritable, Job.settles_lookup_bind hanswer ?_, ofOthers_nil⟩
        dsimp only
        rw [hfound]
        exact Job.settles_crash _
      | some found =>
        cases found with
        | nil =>
          obtain ⟨o, ho, hothers⟩ := ih
          refine ⟨o, Job.settles_lookup_bind hanswer ?_, hothers⟩
          dsimp only
          rwa [hfound]
        | cons c found =>
          refine ⟨.returned (.ok (Caa.evaluate n wildcard (c :: found))),
            Job.settles_lookup_bind hanswer ?_, ofOthers_evaluate _ _ _⟩
          dsimp only
          rw [hfound]
          exact Job.settles_done _

theorem caa_settles (resolve : Resolution) (reply : Replies) (suffixes : List Domain.SuffixRule)
    (context : ScanContext) (domain : String) (method : Method) :
    ∃ o, ((caaBy suffixes).check context domain method).Settles (.fixed resolve reply) o ∧
      OfOthers (findings o) :=
  walkCaa_settles resolve reply _ _

theorem offline_settles (w : World) {name : String} {verdict : String → Method → Verdict}
    (context : ScanContext) (domain : String) (method : Method)
    (h : ∀ problems, verdict domain method = .ok problems → OfOthers problems) :
    ∃ o, ((Checker.offline name verdict).check context domain method).Settles w o ∧
      OfOthers (findings o) := by
  refine ⟨_, Job.settles_done _, ?_⟩
  cases hverdict : verdict domain method with
  | ok problems => exact h problems hverdict
  | error e => exact ofOthers_nil

/-! ### Checkers side by side -/

/-- **What is found side by side agrees** in any two runs. -/
theorem standardBlock_agrees (suffixes : List Domain.SuffixRule) (context : ScanContext)
    (domain : String) {o o' : Outcome Verdict}
    (h : ((block (standardMembers suffixes)).check context domain .dns01).Gives
      (.fixed resolve reply) o)
    (h' : ((block (standardMembers suffixes)).check context domain .dns01).Gives
      (.fixed resolve reply) o') :
    ∃ problems problems', o = .returned (.ok problems) ∧ o' = .returned (.ok problems') ∧
      Agree resolve reply (Domain.stripWildcard domain).1 problems problems' := by
  obtain ⟨record, hrecord, hrecordOthers⟩ := txtRecord_settles resolve reply context domain
  obtain ⟨doubled, hdoubled, hdoubledOthers⟩ :=
    txtDoubledLabel_settles resolve reply suffixes context domain
  have haddress : (dnsA.check context domain .dns01).Settles (.fixed resolve reply)
      (.returned (.error .notApplicable)) := Job.settles_done _
  have hmembers : ∀ (i : Fin (standardMembers suffixes).length) (o : Outcome Verdict),
      (((standardMembers suffixes).get i).check context domain .dns01).Gives
        (.fixed resolve reply) o → failure? o = none := by
    intro i o hgive
    match i with
    | 0 => rw [haddress o hgive]; rfl
    | 1 => rw [hrecord o hgive]; rfl
    | 2 => rw [hdoubled o hgive]; rfl
    | 3 =>
      obtain ⟨problems, -, rfl, -⟩ := nsOutOfSync_agrees context domain hgive hgive
      rfl
  -- what the first three members find is there in any run
  have hshape {f : Fin (standardMembers suffixes).length → Outcome Verdict} {found : List Problem}
      (hf : ∀ i, (((standardMembers suffixes).get i).check context domain .dns01).Gives
        (.fixed resolve reply) (f i)) (hfound : f 3 = .returned (.ok found)) :
      (List.finRange (standardMembers suffixes).length).flatMap (fun i => findings (f i)) =
        (record ++ doubled) ++ found := by
    have hall : List.finRange (standardMembers suffixes).length = [0, 1, 2, 3] := rfl
    rw [hall, List.flatMap_cons, List.flatMap_cons, List.flatMap_cons, List.flatMap_singleton,
      haddress _ (hf 0), hrecord _ (hf 1), hdoubled _ (hf 2), hfound, List.append_assoc]
    rfl
  obtain ⟨f, problems, rfl, hf, hperm⟩ := block_gives_perm hmembers h
  obtain ⟨f', problems', rfl, hf', hperm'⟩ := block_gives_perm hmembers h'
  obtain ⟨found, found', hfound, hfound', hagree⟩ :=
    nsOutOfSync_agrees context domain (hf 3) (hf' 3)
  rw [hshape hf hfound] at hperm
  rw [hshape hf' hfound'] at hperm'
  exact ⟨problems, problems', rfl, rfl,
    (hagree.append_left (hrecordOthers.append hdoubledOthers)).perm hperm hperm'⟩

end Check

end Rehearsal
