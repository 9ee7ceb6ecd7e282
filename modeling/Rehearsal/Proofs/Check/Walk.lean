import Rehearsal.Job.Journal
import Rehearsal.Proofs.Check.Caa
import Rehearsal.Proofs.Domain.Normal
import Rehearsal.Proofs.Job.Sequence

/-!
# The walk for permission to issue

`Check.Walk` says what a walk over names looks up, in what order, and what comes of it: it goes on
as long as lookups succeed without CAA records, and the first other answer ends it. The rules are
those that the checker should go by, with one exception: records that are there and cannot be
written end the walk by breaking it down.

Every run of the checker is such a walk, whatever the resolver does. For this no two names of a walk
may share an outcome of the cache, which they do not, since each lies under the next.

## Main definitions

* `Check.Walk`: the rules of a walk

## Main results

* `Check.walkCaa_walks`: a run over names that are looked up apart is a walk over them
* `Check.caa_walks`: a run of the checker is a walk from the name to its registered domain
-/

namespace Rehearsal

namespace Check

variable {peers : Peers} {wildcard : Bool} {name : String} {names : List String}
  {journal journal' : List Event} {outcome : Outcome Verdict}

/-- The key under which the outcome for a name is kept. -/
abbrev caaKey (name : String) : LookupKey := .ofName name .caa

/-- A walk over names that begins with one journal and ends with another. -/
inductive Walk (peers : Peers) (wildcard : Bool) :
    List String → List Event → List Event → Outcome Verdict → Prop where
  /-- No name is left, and nothing was found. -/
  | exhausted {journal : List Event} : Walk peers wildcard [] journal journal (.returned (.ok []))
  /-- A name without CAA records: the walk goes on with the next. -/
  | passed {name : String} {names : List String} {journal journal' : List Event}
      {records : List Record} {outcome : Outcome Verdict}
      (answer : (peers.lookup journal (caaKey name)).outcome = .returned (.ok records))
      (none : ∀ r ∈ records, ¬r.IsCaa)
      (rest : Walk peers wildcard names
        (journal ++ [.called (caaKey name), .settled (caaKey name) (.ok records)]) journal'
        outcome) :
    Walk peers wildcard (name :: names) journal journal' outcome
  /-- A lookup that fails is the finding, and it names the name. -/
  | failed {name : String} {names : List String} {journal : List Event} {e : LookupError}
      (answer : (peers.lookup journal (caaKey name)).outcome = .returned (.error e)) :
    Walk peers wildcard (name :: names) journal
      (journal ++ [.called (caaKey name), .settled (caaKey name) (.error e)])
      (.returned (.ok [.lookupFailed name "CAA" e.message]))
  /-- CAA records decide. -/
  | decided {name : String} {names : List String} {journal : List Event} {records : List Record}
      {found : List CaaRecord}
      (answer : (peers.lookup journal (caaKey name)).outcome = .returned (.ok records))
      (some : ∃ r ∈ records, r.IsCaa) (policy : CaaRecord.ofRecords? records = .some found) :
    Walk peers wildcard (name :: names) journal
      (journal ++ [.called (caaKey name), .settled (caaKey name) (.ok records)])
      (.returned (.ok (Caa.evaluate name wildcard found)))
  /-- A CAA record that cannot be written breaks the walk down. -/
  | broken {name : String} {names : List String} {journal : List Event} {records : List Record}
      (answer : (peers.lookup journal (caaKey name)).outcome = .returned (.ok records))
      (unwritable : ∃ r ∈ records, r.IsUnwritable) :
    Walk peers wildcard (name :: names) journal
      (journal ++ [.called (caaKey name), .settled (caaKey name) (.ok records)])
      (.crashed Record.unwritable)
  /-- The resolver breaks down, and the walk with it. -/
  | lost {name : String} {names : List String} {journal : List Event} {message : String}
      (answer : (peers.lookup journal (caaKey name)).outcome = .crashed message) :
    Walk peers wildcard (name :: names) journal (journal ++ [.called (caaKey name)])
      (.crashed message)

/-- The names that a walk looks up are the first ones, in order. -/
theorem Walk.calls (h : Walk peers wildcard names journal journal' outcome) :
    ∃ events front, journal' = journal ++ events ∧ front <+: names ∧
      Journal.calls events = front.map caaKey := by
  induction h with
  | exhausted => exact ⟨[], [], (List.append_nil _).symm, List.prefix_rfl, rfl⟩
  | @passed name names _ _ records _ _ _ _ ih =>
    obtain ⟨events, front, rfl, hfront, hcalls⟩ := ih
    refine ⟨.called (caaKey name) :: .settled (caaKey name) (.ok records) :: events, name :: front,
      by simp, (List.prefix_cons_inj name).mpr hfront, ?_⟩
    rw [List.map_cons, ← hcalls]
    rfl
  | @failed name names | @decided name names | @broken name names | @lost name names =>
    exact ⟨_, [name], rfl, List.prefix_append [name] names, rfl⟩

/-- **A run over names that are looked up apart is a walk over them.** -/
theorem walkCaa_walks {past : Nat} {s s' : Session}
    (hapart : names.Pairwise fun n m => caaKey n ≠ caaKey m)
    (hnew : ∀ n ∈ names, ∀ o, .settled (caaKey n) o ∉ s.news past) (hs : s.Alone past)
    (h : (walkCaa wildcard names).Ends peers s outcome s') :
    Walk peers wildcard names s.journal s'.journal outcome := by
  induction names generalizing s with
  | nil =>
    obtain ⟨rfl, hjournal⟩ := Job.Ends.done_alone h hs
    exact hjournal ▸ .exhausted
  | cons n names ih =>
    obtain ⟨hfirst, hapart⟩ := List.pairwise_cons.mp hapart
    obtain ⟨hnew₁, hnew⟩ := List.forall_mem_cons.mp hnew
    rcases Job.Ends.lookup_alone h hs with ⟨o, s₁, hknown, -⟩ | ⟨o, s₁, -, hanswer, hs₁, hjournal,
      hrest⟩ | ⟨message, -, hanswer, rfl, hjournal⟩
    · exact absurd hknown (hnew₁ o)
    · have hnews : s₁.news past =
          s.news past ++ [.called (caaKey n), .settled (caaKey n) o] :=
        Session.news_append_of_journal hs.orderly.past_le hjournal
      -- what was kept for the name is not what is looked up for those that come after it
      have hnew' : ∀ m ∈ names, ∀ o', .settled (caaKey m) o' ∉ s₁.news past := by
        intro m hm o' hmem
        rw [hnews, List.mem_append] at hmem
        rcases hmem with hmem | hmem
        · exact hnew m hm o' hmem
        · have heq : caaKey m = caaKey n ∧ o' = o := by simpa using hmem
          exact hfirst m hm heq.1.symm
      cases o with
      | error e =>
        obtain ⟨rfl, hlast⟩ := Job.Ends.done_alone hrest hs₁
        rw [hlast, hjournal]
        exact .failed hanswer
      | ok records =>
        dsimp only [Job.bind] at hrest
        cases hfound : CaaRecord.ofRecords? records with
        | none =>
          rw [hfound] at hrest
          obtain ⟨rfl, hlast⟩ := Job.Ends.crash_alone hrest hs₁
          rw [hlast, hjournal]
          exact .broken hanswer (CaaRecord.ofRecords?_eq_none_iff.mp hfound)
        | some found =>
          rw [hfound] at hrest
          have hnone := CaaRecord.eq_nil_iff hfound
          cases found with
          | nil => exact .passed hanswer (hnone.mp rfl) (hjournal ▸ ih hapart hnew' hs₁ hrest)
          | cons c found =>
            obtain ⟨rfl, hlast⟩ := Job.Ends.done_alone hrest hs₁
            have hsome : ∃ r ∈ records, r.IsCaa := by
              by_contra hno
              exact List.cons_ne_nil c found (hnone.mpr fun r hr hcaa => hno ⟨r, hr, hcaa⟩)
            rw [hlast, hjournal]
            exact .decided hanswer hsome hfound
    · exact hjournal ▸ .lost hanswer

/-! ### The names of the checker -/

section Names

variable {rules : List Domain.SuffixRule} {apex top above : String}
  (hboundary : ∀ apex, Domain.registered rules name = some apex →
    apex = name ∨ Domain.IsUnder name apex)

/-- A name with a registered domain has a label above it, and so has each name up to there. -/
theorem not_blank_of_under {n m : String} (h : Domain.IsUnder n m) :
    ∃ c ∈ n.toList, Text.isBlank c = false :=
  ⟨'.', h.subset List.mem_cons_self, rfl⟩

include hboundary

/-- The names of a walk are looked up apart. -/
theorem chain_apart : (Domain.chain rules name).Pairwise fun n m => caaKey n ≠ caaKey m := by
  have hclimbs := Domain.chain_climbs hboundary
  cases happex : Domain.registered rules name with
  | none =>
    rw [Domain.chain, happex]
    exact List.pairwise_singleton _ _
  | some apex =>
    obtain ⟨label, top, htop, -⟩ := Domain.registered_eq happex
    refine hclimbs.pairwise.imp_of_mem fun {n m} _ hm hunder heq => ?_
    have hblank := not_blank_of_under
      (Domain.under_suffix_of_mem_chain hboundary happex htop hm)
    exact Domain.normalize_ne_of_isUnder hunder hblank (LookupKey.mk.inj heq).1

/-- The suffix and the names above it are not names of the walk, nor are they looked up for one,
unless they are blank. -/
theorem above_not_mem_chain (happex : Domain.registered rules name = some apex)
    (htop : Domain.anySuffix rules name = some top)
    (habove : above = top ∨ Domain.IsUnder top above) :
    above ∉ Domain.chain rules name ∧
      ((∃ c ∈ above.toList, Text.isBlank c = false) →
        ∀ n ∈ Domain.chain rules name, caaKey n ≠ caaKey above) := by
  have hunder : ∀ n ∈ Domain.chain rules name, Domain.IsUnder n above := by
    intro n hn
    have htop := Domain.under_suffix_of_mem_chain hboundary happex htop hn
    rcases habove with rfl | habove
    · exact htop
    · exact htop.trans habove
  refine ⟨fun hmem => Domain.not_isUnder_self above (hunder above hmem), fun hblank n hn heq => ?_⟩
  exact Domain.normalize_ne_of_isUnder (hunder n hn) hblank (LookupKey.mk.inj heq).1

end Names

/-- **A run of the checker is a walk from the name to its registered domain**, and every run ends.
The names climb from parent to parent; without a registered domain there is only the name. At most
as many lookups are made as there are names, and none is made of the suffix nor of a name above
it. -/
theorem caa_walks (suffixes : List Domain.SuffixRule) (context : ScanContext) (domain : String)
    (method : Method) (peers : Peers) (s : Session)
    (hboundary : ∀ apex,
      Domain.registered suffixes (Domain.stripWildcard domain).1 = some apex →
        apex = (Domain.stripWildcard domain).1 ∨
          Domain.IsUnder (Domain.stripWildcard domain).1 apex) :
    let name := (Domain.stripWildcard domain).1
    let names := Domain.chain suffixes name
    Domain.Climbs name ((Domain.registered suffixes name).getD name) names ∧
    (∃ fuel outcome s',
      ((caaBy suffixes).check context domain method).run peers fuel s.forget =
        some (outcome, s')) ∧
    ∀ outcome s', ((caaBy suffixes).check context domain method).Ends peers s.forget outcome s' →
      Walk peers (Domain.stripWildcard domain).2 names s.journal s'.journal outcome ∧
      (Journal.calls (s'.journal.drop s.journal.length)).length ≤ names.length ∧
      ∀ apex top above, Domain.registered suffixes name = some apex →
        Domain.anySuffix suffixes name = some top → above = top ∨ Domain.IsUnder top above →
          above ∉ names ∧ ((∃ c ∈ above.toList, Text.isBlank c = false) →
            caaKey above ∉ Journal.calls (s'.journal.drop s.journal.length)) := by
  intro name names
  refine ⟨Domain.chain_climbs hboundary, Job.exists_run peers _ rfl rfl, fun outcome s' h => ?_⟩
  have hnew : ∀ n ∈ names, ∀ o,
      .settled (caaKey n) o ∉ s.forget.news s.journal.length := by
    intro n _ o hmem
    simp [Session.news, Session.forget] at hmem
  have hwalk := walkCaa_walks (chain_apart hboundary) hnew s.alone_forget h
  obtain ⟨events, front, hjournal, hfront, hcalls⟩ := hwalk.calls
  have hnews : s'.journal.drop s.journal.length = events := by
    rw [hjournal]
    exact List.drop_left
  refine ⟨hwalk, ?_, fun apex top above happex htop habove => ?_⟩
  · rw [hnews, hcalls, List.length_map]
    exact hfront.length_le
  · obtain ⟨hmem, hkeys⟩ := above_not_mem_chain hboundary happex htop habove
    refine ⟨hmem, fun hblank => ?_⟩
    rw [hnews, hcalls, List.mem_map]
    rintro ⟨n, hn, heq⟩
    exact hkeys hblank n (hfront.subset hn) heq

/-- Where no name has records, the walk from a wildcard name passes a parent and ends at the
registered domain, under a suffix of two labels. -/
theorem caa_walks_past_two_names :
    ∃ s', ((caaBy Domain.sampleSuffixRules).check ⟨.standard, .standard⟩ "*.www.example.co.uk"
        .dns01).Ends (.answering fun _ => .ok []) Session.fresh.forget (.returned (.ok [])) s' ∧
      Journal.calls s'.journal = [caaKey "www.example.co.uk", caaKey "example.co.uk"] := by
  have hproper : ∀ rule ∈ Domain.sampleSuffixRules, rule.IsProper := by decide +kernel
  obtain ⟨-, ⟨fuel, outcome, s', hrun⟩, hends⟩ := caa_walks Domain.sampleSuffixRules
    ⟨.standard, .standard⟩ "*.www.example.co.uk" .dns01 (.answering fun _ => .ok []) .fresh
    fun apex => Domain.registered_boundary hproper
  have h := Job.ends_of_run hrun
  have hnames : Domain.chain Domain.sampleSuffixRules
      (Domain.stripWildcard "*.www.example.co.uk").1 =
        ["www.example.co.uk", "example.co.uk"] := by decide +kernel
  obtain ⟨hwalk, -⟩ := hends outcome s' h
  rw [hnames] at hwalk
  generalize hjournal : s'.journal = journal at hwalk
  -- every answer is an empty list of records
  cases hwalk with
  | failed answer | lost answer => cases answer
  | decided answer some | broken answer some =>
    cases answer
    obtain ⟨r, hr, -⟩ := some
    cases hr
  | passed answer none rest =>
    cases answer
    cases rest with
    | failed answer | lost answer => cases answer
    | decided answer some | broken answer some =>
      cases answer
      obtain ⟨r, hr, -⟩ := some
      cases hr
    | passed answer none rest =>
      cases answer
      cases rest
      exact ⟨s', h, hjournal ▸ rfl⟩

end Check

end Rehearsal
