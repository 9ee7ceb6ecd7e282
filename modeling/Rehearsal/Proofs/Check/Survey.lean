import Rehearsal.Proofs.Check.Comparison
import Rehearsal.Proofs.Job.Schedule

/-!
# The tasks of a comparison of nameservers

A comparison of nameservers sets tasks going twice: lookups for the addresses of the nameservers,
and then queries to these addresses. Each time it takes in what they end with one after another, and
the first ending that it cannot take in decides the verdict. That may be an answer, which is worth a
note, or a breakdown, which is a failure of the checker.

So a breakdown is reported if it comes first, and not if some task had an answer before it that is
worth a note. The tasks of the latter kind end the comparison although it may be known by then that
another task has broken down: the endings that had come when the comparison goes on hold both.

## Main definitions

* `Check.Survey`: all runs of a comparison, told by what its tasks ended with
* `Check.TellsBreakdowns`: what a verdict says of the tasks that broke down

## Main results

* `Check.survey_of_ends`: there are no other runs
* `Check.tellsBreakdowns_of_collect`: the first ending that is not taken in decides
* `Check.nsOutOfSync_tells_breakdowns`: what is true of every comparison
-/

namespace Rehearsal

namespace Check

variable {peers : Peers} {name : String} {s s' : Session} {outcome : Outcome Verdict}

/-! ### Runs told by their tasks -/

/-- The verdict if the lookup of the nameservers leaves nothing to ask. -/
def verdictBefore (name : String) : Outcome LookupOutcome → Outcome Verdict
  | .crashed message => .crashed message
  | .returned (.error e) => .returned (.ok [.lookupFailed name "NS" e.message])
  | .returned (.ok _) => .returned (.ok [nsNote "No nameservers found"
      s!"No name server records were returned for the domain: {name}"])

/-- The hostnames that the lookup of the nameservers leaves to ask. -/
def hostsOf : Outcome LookupOutcome → List String
  | .returned (.ok records) => hostnames records
  | _ => []

/-- The verdict on what the addresses serve, if nothing stops the comparison. -/
def verdictOn (name : String) (servers : Nameservers) : Except Stop Served → Verdict
  | .error stop => stop.verdict
  | .ok served => .ok (compareServed name servers served)

/-- All lookups for the addresses of nameservers, by what they ended with. -/
def lookupEndings (hosts : List String) :
    Job (Completions (hostLookups hosts).length HostAddresses) :=
  Job.endings (hostLookups hosts) (stops addAddresses [])

/-- All queries to the addresses of nameservers, by what they ended with. -/
def queryEndings (challenge : String) (servers : Nameservers) :
    Job (Completions (serverQuestions challenge servers).length ServerAnswer) :=
  Job.endings (serverQuestions challenge servers) (stops addAnswer [])

/-- All runs of a comparison of the nameservers of a name, told by what its tasks ended with. -/
inductive Survey (schedule : Schedule peers) (name : String) (s : Session) :
    Outcome Verdict → Session → Prop where
  /-- No task is set going. -/
  | untasked {ns : Outcome LookupOutcome} {s₁ s' : Session}
    (hns : schedule.Ends (Job.lookup name .ns) s ns s₁) (hnone : hostsOf ns = [])
    (hdrifts : s₁.Drifts peers s') :
    Survey schedule name s (verdictBefore name ns) s'
  /-- A lookup stops the comparison. -/
  | unresolved {ns : Outcome LookupOutcome} {s₁ s₂ s₃ s' : Session}
    {lookups : Completions (hostLookups (hostsOf ns)).length HostAddresses} {stop : Stop}
    (hns : schedule.Ends (Job.lookup name .ns) s ns s₁) (hsome : hostsOf ns ≠ [])
    (hresolved : schedule.Ends (resolveNameservers (hostsOf ns)) s₁ (.returned (.error stop)) s₃)
    (hlookups : schedule.Ends (lookupEndings (hostsOf ns)) s₁ (.returned lookups) s₂)
    (hstop : collect addAddresses [] lookups = .error stop) (hbetween : s₂.Drifts peers s₃)
    (hdrifts : s₃.Drifts peers s') :
    Survey schedule name s (.returned stop.verdict) s'
  /-- All addresses are known, and queries are set going. -/
  | asked {ns : Outcome LookupOutcome} {s₁ s₂ s₃ s₄ s' : Session}
    {lookups : Completions (hostLookups (hostsOf ns)).length HostAddresses} {known : Nameservers}
    {queries : Completions
      (serverQuestions s!"{challengeName name}." (sortAddresses known)).length ServerAnswer}
    (hns : schedule.Ends (Job.lookup name .ns) s ns s₁) (hsome : hostsOf ns ≠ [])
    (hresolved : schedule.Ends (resolveNameservers (hostsOf ns)) s₁
      (.returned (.ok (sortAddresses known))) s₃)
    (hlookups : schedule.Ends (lookupEndings (hostsOf ns)) s₁ (.returned lookups) s₂)
    (hknown : collect addAddresses [] lookups = .ok known) (hbetween : s₂.Drifts peers s₃)
    (hqueries : schedule.Ends (queryEndings s!"{challengeName name}." (sortAddresses known)) s₃
      (.returned queries) s₄)
    (hdrifts : s₄.Drifts peers s') :
    Survey schedule name s
      (.returned (verdictOn name (sortAddresses known) (collect addAnswer [] queries))) s'

/-- A collection is run by what its parts end with. -/
theorem ends_collectAll (schedule : Schedule peers) {σ β : Type}
    {add : σ → Outcome β → Except Stop σ} {start : σ} {parts : List (Job β)}
    {o : Outcome (Except Stop σ)} (h : schedule.Ends (collectAll add start parts) s o s') :
    ∃ completions s₁,
      schedule.Ends (Job.endings parts (stops add start)) s (.returned completions) s₁ ∧
      o = .returned (collect add start completions) ∧ s₁.Drifts peers s' := by
  obtain ⟨completions, s₁, hends, hdone⟩ := schedule.race h
  exact ⟨completions, s₁, hends, (schedule.ends hdone).done⟩

/-- The addresses of nameservers are collected, and then sorted. -/
theorem ends_resolveNameservers (schedule : Schedule peers) {hosts : List String}
    {o : Outcome (Except Stop Nameservers)}
    (h : schedule.Ends (resolveNameservers hosts) s o s') :
    ∃ lookups s₁, schedule.Ends (lookupEndings hosts) s (.returned lookups) s₁ ∧
      o = .returned ((collect addAddresses [] lookups).map sortAddresses) ∧
      s₁.Drifts peers s' := by
  unfold resolveNameservers at h
  rcases schedule.bind h with ⟨message, -, hlost⟩ | ⟨found, s₂, hfound, hdone⟩
  · obtain ⟨_, _, -, heq, -⟩ := ends_collectAll schedule hlost
    cases heq
  · obtain ⟨lookups, s₁, hlookups, heq, hdrifts⟩ := ends_collectAll schedule hfound
    obtain rfl := Outcome.returned.inj heq
    obtain ⟨rfl, hdrifts'⟩ := (schedule.ends hdone).done
    exact ⟨lookups, s₁, hlookups, rfl, hdrifts.trans hdrifts'⟩

/-- **There are no other runs.** -/
theorem survey_of_ends (schedule : Schedule peers) {context : ScanContext} {domain : String}
    (h : schedule.Ends (nsOutOfSync.check context domain .dns01) s outcome s') :
    Survey schedule (Domain.stripWildcard domain).1 s outcome s' := by
  have hbind : schedule.Ends ((Job.lookup (Domain.stripWildcard domain).1 .ns).bind _) s outcome
    s' := h
  rcases schedule.bind hbind with ⟨message, rfl, hlost⟩ | ⟨answer, s₁, hns, hrest⟩
  · exact (Survey.untasked hlost rfl .refl :)
  cases answer with
  | error e =>
    obtain ⟨rfl, hdrifts⟩ := (schedule.ends hrest).done
    exact .untasked hns rfl hdrifts
  | ok records =>
    dsimp only at hrest
    split at hrest
    next hempty =>
      obtain ⟨rfl, hdrifts⟩ := (schedule.ends hrest).done
      exact .untasked hns (List.isEmpty_iff.mp hempty) hdrifts
    next hsome =>
      replace hsome : hostsOf (.returned (.ok records)) ≠ [] := mt List.isEmpty_iff.mpr hsome
      rcases schedule.bind hrest with ⟨message, -, hlost⟩ | ⟨found, s₃, hfound, hrest⟩
      · obtain ⟨_, _, -, heq, -⟩ := ends_resolveNameservers schedule hlost
        cases heq
      obtain ⟨lookups, s₂, hlookups, heq, hbetween⟩ := ends_resolveNameservers schedule hfound
      obtain rfl := Outcome.returned.inj heq
      cases hknown : collect addAddresses [] lookups with
      | error stop =>
        rw [hknown] at hrest hfound
        obtain ⟨rfl, hdrifts⟩ := (schedule.ends hrest).done
        exact .unresolved hns hsome hfound hlookups hknown hbetween hdrifts
      | ok known =>
        rw [hknown] at hrest hfound
        rcases schedule.bind hrest with ⟨message, -, hlost⟩ | ⟨answers, s₅, hanswers, hrest⟩
        · obtain ⟨_, _, -, heq, -⟩ := ends_collectAll schedule hlost
          cases heq
        obtain ⟨queries, s₄, hqueries, heq, hafter⟩ := ends_collectAll schedule hanswers
        obtain rfl := Outcome.returned.inj heq
        obtain ⟨rfl, hdrifts⟩ : outcome = .returned (verdictOn (Domain.stripWildcard domain).1
            (sortAddresses known) (collect addAnswer [] queries)) ∧ s₅.Drifts peers s' := by
          cases hserved : collect addAnswer [] queries with
          | error stop | ok served =>
            rw [hserved] at hrest
            exact (schedule.ends hrest).done
        exact .asked hns hsome hfound hlookups hknown hbetween hqueries (hafter.trans hdrifts)

/-! ### Tasks that break down -/

section Breakdowns

variable {ι σ β : Type} {add : σ → Outcome β → Except Stop σ} {start : σ}
  {completions : List (ι × Outcome β)}

/-- What a verdict says of the tasks that broke down, by what the tasks ended with in order. -/
structure TellsBreakdowns (add : σ → Outcome β → Except Stop σ) (start : σ)
    (completions : List (ι × Outcome β)) (outcome : Outcome Verdict) : Prop where
  /-- A breakdown is reported if it is the first ending that is not taken in, and only then. -/
  reports_iff : ∀ message, outcome = .returned (.error (.crashed message)) ↔
    ∃ front i back known, completions = front ++ (i, .crashed message) :: back ∧
      collect add start front = .ok known
  /-- If there was a breakdown, one is reported, or an answer came before all of them that is worth
  a note, and this note is all that is found. -/
  reports_or_hides : ∀ i message, (i, .crashed message) ∈ completions →
    (∃ j message', (j, .crashed message') ∈ completions ∧
      outcome = .returned (.error (.crashed message'))) ∨
    ∃ front j answer back known note,
      completions = front ++ (j, .returned answer) :: back ∧
      (∀ c ∈ front, c.2.isCrash = false) ∧ collect add start front = .ok known ∧
      add known (.returned answer) = .error (.note note) ∧ note.severity = .debug ∧
      outcome = .returned (.ok [note])

/-- How endings are taken in: a breakdown is not, and what else is not is worth a note. -/
structure TakesIn (add : σ → Outcome β → Except Stop σ) : Prop where
  /-- A breakdown is not taken in. -/
  broken : ∀ known message, add known (.crashed message) = .error (.broken message)
  /-- An answer that is not taken in is worth a note. -/
  note : ∀ known answer stop, add known (.returned answer) = .error stop →
    ∃ note, stop = .note note ∧ note.severity = .debug

theorem takesIn_addAddresses : TakesIn addAddresses where
  broken _ _ := rfl
  note known answer stop h := by
    obtain ⟨host, result⟩ := answer
    cases result with
    | ok addresses => cases h
    | error message => exact ⟨_, (Except.error.inj h).symm, rfl⟩

theorem takesIn_addAnswer : TakesIn addAnswer where
  broken _ _ := rfl
  note known answer stop h := by
    obtain ⟨host, address, result⟩ := answer
    cases result with
    | ok texts =>
      unfold addAnswer at h
      dsimp only at h
      split at h
      · exact ⟨_, (Except.error.inj h).symm, rfl⟩
      · cases h
    | error message => exact ⟨_, (Except.error.inj h).symm, rfl⟩

/-- What is taken in did not break down. -/
theorem TakesIn.returned (h : TakesIn add) {known : σ} (hknown : collect add start completions =
    .ok known) : ∀ c ∈ completions, c.2.isCrash = false := by
  induction completions using List.reverseRecOn generalizing known with
  | nil => exact fun _ hc => absurd hc List.not_mem_nil
  | append_singleton completions c ih =>
    obtain ⟨before, hbefore, hadd⟩ := collect_concat_ok.mp hknown
    refine List.forall_mem_append.mpr ⟨ih hbefore, List.forall_mem_singleton.mpr ?_⟩
    cases hc : c.2 with
    | returned answer => rfl
    | crashed message =>
      rw [hc, h.broken] at hadd
      cases hadd

/-- An ending that is not taken in is the end of a collection. -/
theorem collect_eq_error {front back : List (ι × Outcome β)} {c : ι × Outcome β} {known : σ}
    {stop : Stop} (hfront : collect add start front = .ok known)
    (hadd : add known c.2 = .error stop) :
    collect add start (front ++ c :: back) = .error stop := by
  unfold collect at hfront ⊢
  rw [List.foldlM_append, hfront]
  simp [bind, Except.bind, hadd]

/-- **The first ending that is not taken in decides.** -/
theorem tellsBreakdowns_of_collect (h : TakesIn add)
    (hstop : ∀ stop, collect add start completions = .error stop →
      outcome = .returned stop.verdict)
    (hall : ∀ known, collect add start completions = .ok known →
      ∀ message, outcome ≠ .returned (.error (.crashed message))) :
    TellsBreakdowns add start completions outcome := by
  refine ⟨fun message => ⟨fun hreported => ?_, ?_⟩, fun i message hbroken => ?_⟩
  · cases hcollect : collect add start completions with
    | ok known => exact absurd hreported (hall known hcollect message)
    | error stop =>
      obtain ⟨front, c, back, known, rfl, hfront, hadd⟩ := exists_split_of_collect hcollect
      rw [hstop stop hcollect] at hreported
      obtain ⟨i, o⟩ := c
      cases o with
      | returned answer =>
        obtain ⟨note, rfl, -⟩ := h.note known answer stop hadd
        cases hreported
      | crashed message' =>
        rw [h.broken] at hadd
        obtain rfl := Except.error.inj hadd
        obtain rfl : message' = message := by simpa [Stop.verdict] using hreported
        exact ⟨front, i, back, known, rfl, hfront⟩
  · rintro ⟨front, i, back, known, rfl, hfront⟩
    exact hstop _ (collect_eq_error hfront (h.broken known message))
  · cases hcollect : collect add start completions with
    | ok known =>
      have hreturned := h.returned hcollect _ hbroken
      cases hreturned
    | error stop =>
      obtain ⟨front, ⟨j, o⟩, back, known, rfl, hfront, hadd⟩ := exists_split_of_collect hcollect
      cases o with
      | returned answer =>
        obtain ⟨note, rfl, hdebug⟩ := h.note known answer stop hadd
        exact .inr ⟨front, j, answer, back, known, note, rfl, h.returned hfront, hfront, hadd,
          hdebug, hstop _ hcollect⟩
      | crashed message' =>
        rw [h.broken] at hadd
        obtain rfl := Except.error.inj hadd
        exact .inl ⟨j, message', List.mem_append_right _ List.mem_cons_self, hstop _ hcollect⟩

end Breakdowns

/-- What the lookup of the nameservers alone leads to is no report of a breakdown. -/
theorem verdictBefore_ne (ns : Outcome LookupOutcome) (message : String) :
    verdictBefore name ns ≠ .returned (.error (.crashed message)) := by
  cases ns with
  | crashed message' => simp [verdictBefore]
  | returned answer => cases answer <;> simp [verdictBefore]

/-- **A breakdown of a task is reported if it is the first ending that is not taken in, and only
then.** By the clock a comparison ends. In whatever order steps are taken, it sets no task going, or
it ends with its lookups for addresses, or none of these breaks down and it ends with its queries;
the endings of the lookups or of the queries that had come by then decide the verdict. -/
theorem nsOutOfSync_tells_breakdowns (context : ScanContext) (domain : String) (method : Method)
    (peers : Peers) (s : Session) :
    (∃ fuel outcome s', (nsOutOfSync.check context domain method).run peers fuel s.forget =
      some (outcome, s')) ∧
    ∀ outcome s', (nsOutOfSync.check context domain method).Ends peers s outcome s' →
      let name := (Domain.stripWildcard domain).1
      ((∀ message, outcome ≠ .returned (.error (.crashed message))) ∧
        (method = .dns01 → ∃ ns s₁, (Job.lookup name .ns).Ends peers s ns s₁ ∧
          hostsOf ns = [] ∧ s₁.Drifts peers s')) ∨
      ∃ ns s₁ lookups s₂, (Job.lookup name .ns).Ends peers s ns s₁ ∧
        (lookupEndings (hostsOf ns)).Ends peers s₁ (.returned lookups) s₂ ∧
        (s₂.Drifts peers s' ∧ TellsBreakdowns addAddresses [] lookups outcome ∨
          (∀ c ∈ lookups, c.2.isCrash = false) ∧
          ∃ servers s₃ queries s₄, s₂.Drifts peers s₃ ∧
            (queryEndings s!"{challengeName name}." servers).Ends peers s₃ (.returned queries) s₄ ∧
            s₄.Drifts peers s' ∧ TellsBreakdowns addAnswer [] queries outcome) := by
  refine ⟨Job.exists_run peers _ rfl rfl, fun outcome s' h => ?_⟩
  intro name
  by_cases hmethod : method = .dns01
  · subst hmethod
    cases survey_of_ends (.any peers) h with
    | @untasked ns s₁ _ hns hnone hdrifts =>
      exact .inl ⟨verdictBefore_ne ns, fun _ => ⟨ns, s₁, hns, hnone, hdrifts⟩⟩
    | @unresolved ns s₁ s₂ _ _ lookups stop hns _ _ hlookups hstop hbetween hdrifts =>
      refine .inr ⟨ns, s₁, lookups, s₂, hns, hlookups, .inl ⟨hbetween.trans hdrifts, ?_⟩⟩
      refine tellsBreakdowns_of_collect takesIn_addAddresses (fun stop' heq => ?_)
        fun known heq => ?_
      · rw [Except.error.inj (hstop.symm.trans heq)]
      · cases hstop.symm.trans heq
    | @asked ns s₁ s₂ s₃ s₄ _ lookups known queries hns _ _ hlookups hknown hbetween hqueries
        hdrifts =>
      refine .inr ⟨ns, s₁, lookups, s₂, hns, hlookups, .inr ⟨takesIn_addAddresses.returned hknown,
        sortAddresses known, s₃, queries, s₄, hbetween, hqueries, hdrifts, ?_⟩⟩
      refine tellsBreakdowns_of_collect takesIn_addAnswer (fun stop heq => ?_)
        fun served heq message => ?_
      · rw [heq, verdictOn]
      · rw [heq, verdictOn]
        simp
  · have hdone : (nsOutOfSync.check context domain method) = .done (.error .notApplicable) :=
      if_neg hmethod
    rw [hdone] at h
    obtain ⟨rfl, -⟩ := h.done
    exact .inl ⟨fun message => by simp, fun heq => absurd heq hmethod⟩

end Check

end Rehearsal
