import Rehearsal.Proofs.Check.Address
import Rehearsal.Check.Nameservers

/-!
# The rules of the challenge record and of nameservers

Of all that is looked up for `dns-01`, two lookups alone can be fatal: the one of the challenge
record and the one of the nameservers. Everything that is found further on is a note or a warning,
and whatever keeps an answer away ends the comparison of nameservers with a note.

## Main results

* `Check.txtRecord_obeys`, `Check.txtDoubledLabel_obeys`: the challenge record
* `Check.returns_collectAll`: collections that end early end with a note
* `Check.nsOutOfSync_obeys`: nameservers
-/

namespace Rehearsal

namespace Check

variable {resolve : Resolution} {rule : Rule}

/-! ### The challenge record -/

theorem txtRecord_obeys (context : ScanContext) (domain : String) (method : Method) :
    Obeys resolve (txtRecord.check context domain method)
      (Rule.under (method = .dns01) ⟨False,
        IsError (resolve (.ofName (challengeName (Domain.stripWildcard domain).1) .txt))⟩) := by
  refine forMethod_obeys context domain method fun o hgive => ?_
  replace hgive := hgive.of_lookup_bind
  cases hanswer : resolve (.ofName (challengeName (Domain.stripWildcard domain).1) .txt) with
  | ok records =>
    rw [hanswer] at hgive
    rw [hgive.of_done]
    exact fits_ok id (iff_of_false Bool.false_ne_true (not_isError_ok records)) fun _ hp =>
      absurd hp List.not_mem_nil
  | error e =>
    rw [hanswer] at hgive
    rw [hgive.of_done]
    exact fits_fatal rfl (by simp [challengeError, fatalNames]) id ⟨e, rfl⟩

theorem judgeDoubled_not_fatal (answers : List TxtAnswer) (control : TxtAnswer) :
    ∀ p ∈ judgeDoubled answers control, p.isFatal = false := by
  unfold judgeDoubled
  simp only
  intro p hp
  split at hp
  · cases hp
  · split at hp
    · cases hp
    · rw [List.mem_singleton.mp hp]
      rfl

theorem returns_lookup (name : String) (type : RecordType) :
    (Job.lookup name type).Returns resolve fun _ => True :=
  fun _ hgive => ⟨_, hgive.of_lookup, trivial⟩

theorem txtDoubledLabel_obeys (suffixes : List Domain.SuffixRule) (context : ScanContext)
    (domain : String) (method : Method) :
    Obeys resolve ((txtDoubledLabelBy suffixes).check context domain method)
      (Rule.under (method = .dns01) .never) := by
  refine forMethod_obeys context domain method (obeys_never ?_)
  refine Job.returns_ask_bind fun drawn => Job.Returns.bind (P := fun _ => True) ?_ ?_
  · refine (Job.returns_all (P := fun _ => True) fun job hjob => ?_).mono fun _ _ => trivial
    obtain ⟨name, -, rfl⟩ := List.mem_map.mp hjob
    exact returns_lookup name .txt
  · exact fun outcomes _ => Job.returns_done (harmless_ok (judgeDoubled_not_fatal _ _))

/-! ### Collections -/

section Collections

variable {ι σ β : Type} {add : σ → Outcome β → Except Stop σ} {P : β → Prop}

/-- A collection that ends early has taken in what came first, and is ended by what came then. -/
theorem exists_split_of_collect {start : σ} {completions : List (ι × Outcome β)} {stop : Stop}
    (h : collect add start completions = .error stop) :
    ∃ front c back known, completions = front ++ c :: back ∧
      collect add start front = .ok known ∧ add known c.2 = .error stop := by
  unfold collect at h
  induction completions generalizing start with
  | nil => cases h
  | cons c completions ih =>
    rw [List.foldlM_cons] at h
    cases hadd : add start c.2 with
    | error stop' =>
      rw [hadd] at h
      obtain rfl : stop' = stop := Except.error.inj h
      exact ⟨[], c, completions, start, rfl, rfl, hadd⟩
    | ok known =>
      rw [hadd] at h
      obtain ⟨front, c', back, known', rfl, hfront, hstop⟩ := ih h
      refine ⟨c :: front, c', back, known', rfl, ?_, hstop⟩
      rw [collect, List.foldlM_cons, hadd]
      exact hfront

/-- A collection whose parts return ends early only with what adding a value makes of it. -/
theorem returns_collectAll {start : σ} {parts : List (Job β)}
    (hparts : ∀ part ∈ parts, part.Returns resolve fun _ => True)
    (hadd : ∀ known value stop, add known (.returned value) = .error stop → Harmless stop.verdict) :
    (collectAll add start parts).Returns resolve fun result =>
      ∀ stop, result = .error stop → Harmless stop.verdict := by
  refine Job.returns_race hparts fun completions hcompletions => Job.returns_done ?_
  intro stop hstop
  obtain ⟨front, c, back, known, rfl, -, hadded⟩ := exists_split_of_collect hstop
  obtain ⟨value, hvalue, -⟩ := hcompletions c (List.mem_append_right front List.mem_cons_self)
  rw [hvalue] at hadded
  exact hadd known value stop hadded

end Collections

theorem harmless_note {p : Problem} (h : p.isFatal = false) : Harmless (Stop.note p).verdict :=
  harmless_ok fun q hq => by rwa [List.mem_singleton.mp hq]

theorem addAddresses_harmless (known : Nameservers) (value : HostAddresses) (stop : Stop)
    (h : addAddresses known (.returned value) = .error stop) : Harmless stop.verdict := by
  obtain ⟨host, result⟩ := value
  cases result with
  | ok addresses => cases h
  | error message =>
    obtain rfl := Except.error.inj h
    exact harmless_note rfl

theorem addAnswer_harmless (known : Served) (value : ServerAnswer) (stop : Stop)
    (h : addAnswer known (.returned value) = .error stop) : Harmless stop.verdict := by
  obtain ⟨host, address, result⟩ := value
  cases result with
  | ok strings =>
    unfold addAnswer at h
    simp only at h
    split at h
    · obtain rfl := Except.error.inj h
      exact harmless_note rfl
    · cases h
  | error message =>
    obtain rfl := Except.error.inj h
    exact harmless_note rfl

/-! ### Nameservers -/

theorem returns_lookUpHost (host : String) (type : RecordType) :
    (lookUpHost host type).Returns resolve fun _ => True := by
  refine Job.returns_lookup_bind ?_
  cases resolve (.ofName host type) <;> exact Job.returns_done trivial

theorem returns_resolveNameservers (hosts : List String) :
    (resolveNameservers hosts).Returns resolve fun result =>
      ∀ stop, result = .error stop → Harmless stop.verdict := by
  refine (returns_collectAll (fun part hpart => ?_) addAddresses_harmless).bind fun found hfound =>
    Job.returns_done fun stop hstop => ?_
  · rcases List.mem_append.mp hpart with hpart | hpart <;>
      obtain ⟨host, -, rfl⟩ := List.mem_map.mp hpart <;> exact returns_lookUpHost host _
  · cases found with
    | ok servers => cases hstop
    | error stop' => exact hfound stop (congrArg Except.error (Except.error.inj hstop))

theorem returns_askServer (challenge host : String) (address : IpAddress) :
    (askServer challenge host address).Returns resolve fun _ => True := by
  refine Job.returns_ask_bind fun answer => ?_
  cases answer <;> exact Job.returns_done trivial

theorem compareServed_not_fatal (domain : String) (servers : Nameservers) (served : Served) :
    ∀ p ∈ compareServed domain servers served, p.isFatal = false := by
  unfold compareServed
  intro p hp
  split at hp
  · rw [List.mem_singleton.mp hp]
    rfl
  · split at hp
    · rw [List.mem_singleton.mp hp]
      rfl
    · split at hp
      · rw [List.mem_singleton.mp hp]
        rfl
      · cases hp

theorem nsOutOfSync_obeys (context : ScanContext) (domain : String) (method : Method) :
    Obeys resolve (nsOutOfSync.check context domain method)
      (Rule.under (method = .dns01)
        ⟨False, IsError (resolve (.ofName (Domain.stripWildcard domain).1 .ns))⟩) := by
  refine forMethod_obeys context domain method fun o hgive => ?_
  replace hgive := hgive.of_lookup_bind
  cases hanswer : resolve (.ofName (Domain.stripWildcard domain).1 .ns) with
  | error e =>
    rw [hanswer] at hgive
    rw [hgive.of_done]
    exact fits_fatal rfl (by simp [Problem.lookupFailed, fatalNames]) id ⟨e, rfl⟩
  | ok records =>
    rw [hanswer] at hgive
    dsimp only at hgive
    refine (obeys_never ?_).congr ⟨False, IsError (.ok records)⟩ Iff.rfl
      (iff_of_false id (not_isError_ok records)) o hgive
    split
    · refine Job.returns_done (harmless_ok fun p hp => ?_)
      rw [List.mem_singleton.mp hp]
      rfl
    · refine (returns_resolveNameservers _).bind fun found hfound => ?_
      cases found with
      | error stop => exact Job.returns_done (hfound stop rfl)
      | ok servers =>
        refine (returns_collectAll (fun part hpart => ?_) addAnswer_harmless).bind
          fun served hserved => ?_
        · obtain ⟨server, -, hpart⟩ := List.mem_flatMap.mp hpart
          obtain ⟨address, -, rfl⟩ := List.mem_map.mp hpart
          exact returns_askServer _ _ address
        · cases served with
          | error stop => exact Job.returns_done (hserved stop rfl)
          | ok served => exact Job.returns_done (harmless_ok (compareServed_not_fatal _ _ _))

end Check

end Rehearsal
