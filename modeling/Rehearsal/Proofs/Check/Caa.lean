import Rehearsal.Proofs.Check.Offline
import Rehearsal.Proofs.Dns.Record
import Rehearsal.Check.Caa

/-!
# The rule of permission to issue

The walk up the parents ends at the first name whose answer is an error or has CAA records. That
name alone decides, so the rule speaks of it and of no other.

## Main definitions

* `Check.PassesOn`, `Check.DecidesCaa`: where the walk goes on, and where it ends
* `Check.CaaRefuses`, `Check.CaaUnwritable`: what the name where it ends makes of the checker

## Main results

* `Check.caa_obeys`: the rule of the checker
-/

namespace Rehearsal

namespace Check

variable {resolve : Resolution} {wildcard : Bool} {name n : String} {names : List String}

/-- The walk goes on after a name: its answer is no error and has no CAA records. -/
def PassesOn (resolve : Resolution) (name : String) : Prop :=
  ∃ records, resolve (.ofName name .caa) = .ok records ∧ ∀ r ∈ records, ¬r.IsCaa

/-- The walk ends at a name: it is the first whose answer is an error or has CAA records. -/
def DecidesCaa (resolve : Resolution) (names : List String) (name : String) : Prop :=
  ∃ front back, names = front ++ name :: back ∧ (∀ n ∈ front, PassesOn resolve n) ∧
    ¬PassesOn resolve name

/-- At the name where the walk ends the answer is an error, or its records do not permit issuance.
-/
def CaaRefuses (resolve : Resolution) (wildcard : Bool) (names : List String) : Prop :=
  ∃ name, DecidesCaa resolve names name ∧
    ∀ records, resolve (.ofName name .caa) = .ok records →
      ∃ found, CaaRecord.ofRecords? records = some found ∧
        Problem.anyFatal (Caa.evaluate name wildcard found) = true

/-- At the name where the walk ends one of the records cannot be written. -/
def CaaUnwritable (resolve : Resolution) (names : List String) : Prop :=
  ∃ name records, DecidesCaa resolve names name ∧ resolve (.ofName name .caa) = .ok records ∧
    ∃ r ∈ records, r.IsUnwritable

/-! ### Where the walk ends -/

theorem not_decidesCaa_nil : ¬DecidesCaa resolve [] name := by
  rintro ⟨front, back, heq, -⟩
  exact List.append_ne_nil_of_right_ne_nil front (List.cons_ne_nil name back) heq.symm

theorem decidesCaa_cons_of_passesOn (h : PassesOn resolve n) :
    DecidesCaa resolve (n :: names) name ↔ DecidesCaa resolve names name := by
  constructor
  · rintro ⟨front, back, heq, hfront, hname⟩
    cases front with
    | nil =>
      rw [List.nil_append, List.cons.injEq] at heq
      exact absurd (heq.1 ▸ h) hname
    | cons m front =>
      rw [List.cons_append, List.cons.injEq] at heq
      exact ⟨front, back, heq.2, fun k hk => hfront k (List.mem_cons_of_mem m hk), hname⟩
  · rintro ⟨front, back, rfl, hfront, hname⟩
    exact ⟨n :: front, back, rfl, List.forall_mem_cons.mpr ⟨h, hfront⟩, hname⟩

theorem decidesCaa_cons_of_not_passesOn (h : ¬PassesOn resolve n) :
    DecidesCaa resolve (n :: names) name ↔ name = n := by
  constructor
  · rintro ⟨front, back, heq, hfront, -⟩
    cases front with
    | nil =>
      rw [List.nil_append, List.cons.injEq] at heq
      exact heq.1.symm
    | cons m front =>
      rw [List.cons_append, List.cons.injEq] at heq
      exact absurd (heq.1 ▸ hfront m List.mem_cons_self) h
  · rintro rfl
    exact ⟨[], names, rfl, fun _ hk => absurd hk List.not_mem_nil, h⟩

theorem not_passesOn_of_error {e : LookupError} (h : resolve (.ofName n .caa) = .error e) :
    ¬PassesOn resolve n := by
  rintro ⟨records, hok, -⟩
  rw [h] at hok
  cases hok

theorem passesOn_iff {records : List Record} (h : resolve (.ofName n .caa) = .ok records) :
    PassesOn resolve n ↔ ∀ r ∈ records, ¬r.IsCaa := by
  constructor
  · rintro ⟨records', hok, hnone⟩
    rw [h, Except.ok.injEq] at hok
    rwa [hok]
  · exact fun hnone => ⟨records, h, hnone⟩

/-! ### The rule -/

theorem wellNamed_evaluate (found : List CaaRecord) :
    WellNamed (Caa.evaluate name wildcard found) := by
  have hnote : (Caa.note found).isFatal = false := rfl
  unfold Caa.evaluate
  simp only
  intro p hp hfatal
  split at hp
  · rcases List.mem_pair.mp hp with rfl | rfl
    · exact absurd (hnote.symm.trans hfatal) Bool.false_ne_true
    · simp [Caa.criticalUnknown, fatalNames]
  · split at hp
    · obtain rfl := List.mem_singleton.mp hp
      exact absurd (hnote.symm.trans hfatal) Bool.false_ne_true
    · rcases List.mem_pair.mp hp with rfl | rfl
      · exact absurd (hnote.symm.trans hfatal) Bool.false_ne_true
      · simp [Caa.notAllowed, fatalNames]

section Ends

variable {records : List Record} (hanswer : resolve (.ofName n .caa) = .ok records)
  (hends : ¬PassesOn resolve n)

include hanswer hends

theorem caaUnwritable_cons (names : List String) :
    CaaUnwritable resolve (n :: names) ↔ ∃ r ∈ records, r.IsUnwritable := by
  unfold CaaUnwritable
  simp only [decidesCaa_cons_of_not_passesOn hends, exists_and_left, exists_eq_left, hanswer,
    Except.ok.injEq, exists_eq_left']

theorem caaRefuses_cons (wildcard : Bool) (names : List String) :
    CaaRefuses resolve wildcard (n :: names) ↔
      ∃ found, CaaRecord.ofRecords? records = some found ∧
        Problem.anyFatal (Caa.evaluate n wildcard found) = true := by
  unfold CaaRefuses
  simp only [decidesCaa_cons_of_not_passesOn hends, exists_eq_left, hanswer, Except.ok.injEq,
    forall_eq']

end Ends

/-- A lookup that fails decides, and no record is written. -/
theorem fits_failedCaa {e : LookupError} (h : resolve (.ofName n .caa) = .error e)
    (wildcard : Bool) (names : List String) :
    Fits ⟨CaaUnwritable resolve (n :: names), CaaRefuses resolve wildcard (n :: names)⟩
      (.returned (.ok [.lookupFailed n "CAA" e.message])) := by
  have hends := not_passesOn_of_error h
  refine fits_fatal rfl (by simp [Problem.lookupFailed, fatalNames]) ?_ ?_
  · rintro ⟨name, records, hname, hok, -⟩
    rw [(decidesCaa_cons_of_not_passesOn hends).mp hname, h] at hok
    cases hok
  · refine ⟨n, (decidesCaa_cons_of_not_passesOn hends).mpr rfl, fun records hok => ?_⟩
    rw [h] at hok
    cases hok

/-- **The walk obeys its rule.** -/
theorem walkCaa_obeys (wildcard : Bool) (names : List String) :
    Obeys resolve (walkCaa wildcard names)
      ⟨CaaUnwritable resolve names, CaaRefuses resolve wildcard names⟩ := by
  induction names with
  | nil =>
    refine obeys_done (fits_ok ?_ ?_ fun _ hp => absurd hp List.not_mem_nil)
    · rintro ⟨name, records, hends, -⟩
      exact not_decidesCaa_nil hends
    · constructor
      · intro h
        cases h
      · rintro ⟨name, hends, -⟩
        exact absurd hends not_decidesCaa_nil
  | cons n names ih =>
    intro o hgive
    replace hgive := hgive.of_lookup_bind
    cases hanswer : resolve (.ofName n .caa) with
    | error e =>
      rw [hanswer] at hgive
      rw [hgive.of_done]
      exact fits_failedCaa hanswer wildcard names
    | ok records =>
      rw [hanswer] at hgive
      dsimp only at hgive
      cases hfound : CaaRecord.ofRecords? records with
      | none =>
        rw [hfound] at hgive
        have hunwritable := CaaRecord.ofRecords?_eq_none_iff.mp hfound
        have hends : ¬PassesOn resolve n := by
          rw [passesOn_iff hanswer]
          obtain ⟨r, hr, hno⟩ := hunwritable
          exact fun hnone => hnone r hr hno.isCaa
        rw [hgive.of_crash]
        exact fits_crashed ((caaUnwritable_cons hanswer hends names).mpr hunwritable)
      | some found =>
        rw [hfound] at hgive
        have hpasses : PassesOn resolve n ↔ found = [] :=
          (passesOn_iff hanswer).trans (CaaRecord.eq_nil_iff hfound).symm
        cases found with
        | nil =>
          have hgoes := hpasses.mpr rfl
          refine ih.congr _ ?_ ?_ o hgive
          · simp only [CaaUnwritable, decidesCaa_cons_of_passesOn hgoes]
          · simp only [CaaRefuses, decidesCaa_cons_of_passesOn hgoes]
        | cons c found =>
          have hends : ¬PassesOn resolve n := fun h => List.cons_ne_nil c found (hpasses.mp h)
          rw [hgive.of_done]
          refine fits_ok ?_ ?_ (wellNamed_evaluate _)
          · rw [caaUnwritable_cons hanswer hends, ← CaaRecord.ofRecords?_eq_none_iff, hfound]
            exact Option.some_ne_none _
          · rw [caaRefuses_cons hanswer hends, hfound]
            simp

theorem caa_obeys (suffixes : List Domain.SuffixRule) (context : ScanContext) (domain : String)
    (method : Method) :
    Obeys resolve ((caaBy suffixes).check context domain method)
      ⟨CaaUnwritable resolve (Domain.chain suffixes (Domain.stripWildcard domain).1),
        CaaRefuses resolve (Domain.stripWildcard domain).2
          (Domain.chain suffixes (Domain.stripWildcard domain).1)⟩ :=
  walkCaa_obeys _ _

end Check

end Rehearsal
