import Rehearsal.Proofs.Check.Queries

/-!
# What a comparison of nameservers says

A comparison in which all lookups succeed asks every address of every nameserver once, if no
hostname comes twice and none has an address twice. If all of them answer with TXT records only,
what is found is a matter of the sorted texts of the addresses and of nothing else: neither the
order in which answers came nor what else stood in them makes a difference. If some address answers
in another way there is one note, and never a warning, for a partial view proves nothing.

Two things are easily overlooked. Where there is no hostname at all nothing is asked, and the note
says so in its own words. And a query that breaks down is no answer: if it is the first of what does
not fit, it fails the checker, however many other answers are worth a note.

An address may be asked after others have answered already, and a comparison that is stopped may not
have asked it at all. By the clock this does not happen: all queries begin at once.

## Main definitions

* `Check.Lists`: nameservers with all their addresses
* `Check.Judges`: the verdict on the texts of addresses
* `Check.FindsAll`: all lookups of a comparison succeed, and no address is found twice

## Main results

* `Check.lists_serversOf`: which nameservers a note lists
* `Check.judges_iff`: the verdict is what the comparison finds
* `Check.nsOutOfSync_compares_all`: what is asked and what is found
-/

namespace Rehearsal

namespace Check

variable {resolve : Resolution} {name : String}

/-! ### Nameservers with their addresses -/

/-- Nameservers are listed by hostname, each with all its addresses, and both are sorted. -/
structure Lists (resolve : Resolution) (hosts : List String) (servers : Nameservers) : Prop where
  /-- The hostnames are sorted. -/
  sorted : IsSortedBy compare servers
  /-- They are the ones given. -/
  hosts : (servers.map Prod.fst).Perm hosts
  /-- The addresses are all that lookups find. -/
  addresses : ∀ s ∈ servers,
    s.2.Perm (addressesOf resolve (s.1, .a) ++ addressesOf resolve (s.1, .aaaa))
  /-- The addresses are sorted. -/
  ordered : ∀ s ∈ servers, s.2.Pairwise fun a b => a.le b = true

section Lists

variable {qs : List (String × RecordType)} {hosts : List String}

theorem gatherAddresses_concat (q : String × RecordType) : gatherAddresses resolve (qs ++ [q]) =
    insertSorted compare (· ++ ·) q.1 (addressesOf resolve q) (gatherAddresses resolve qs) :=
  gathered_concat q

theorem isSortedBy_gatherAddresses (resolve : Resolution) (qs : List (String × RecordType)) :
    IsSortedBy compare (gatherAddresses resolve qs) :=
  isSortedBy_gathered

theorem mem_keys_gatherAddresses {host : String} :
    host ∈ (gatherAddresses resolve qs).map Prod.fst ↔ host ∈ qs.map Prod.fst :=
  mem_keys_gathered

/-- What is gathered under a hostname is what the lookups for it find. -/
theorem eq_of_mem_gatherAddresses {s : String × List IpAddress}
    (h : s ∈ gatherAddresses resolve qs) :
    s.2 = (qs.filter (·.1 = s.1)).flatMap (addressesOf resolve) := by
  induction qs using List.reverseRecOn generalizing s with
  | nil => cases h
  | append_singleton qs q ih =>
    rw [gatherAddresses_concat] at h
    rw [List.filter_append, List.flatMap_append]
    rcases mem_insertSorted_cases (isSortedBy_gatherAddresses resolve qs) h with
      ⟨hold, hkey⟩ | ⟨before, hbefore, rfl⟩ | ⟨hnew, rfl⟩
    · rw [ih hold]
      simp [hkey.symm]
    · rw [← ih hbefore]
      simp
    · have hnone : qs.filter (·.1 = q.1) = [] := List.filter_eq_nil_iff.mpr fun q' hq' heq => by
        refine hnew (mem_keys_gatherAddresses.mpr ?_)
        exact List.mem_map.mpr ⟨q', hq', of_decide_eq_true heq⟩
      simp [hnone]

theorem filter_hostQuestions {host : String} (h : hosts.Nodup) (hmem : host ∈ hosts) :
    (hostQuestions hosts).filter (·.1 = host) = [(host, .a), (host, .aaaa)] := by
  have hone : hosts.filter (fun other => decide (other = host)) = [host] := by
    rw [List.filter_eq, List.count_eq_one_of_mem h hmem]
    rfl
  rw [hostQuestions, List.filter_append, List.filter_map, List.filter_map]
  exact congrArg₂ (fun l l' => l.map (·, RecordType.a) ++ l'.map (·, RecordType.aaaa)) hone hone

/-- **Which nameservers a note lists.** -/
theorem lists_serversOf (h : hosts.Nodup) : Lists resolve hosts (serversOf resolve hosts) where
  sorted := List.pairwise_map.mpr (isSortedBy_gatherAddresses resolve (hostQuestions hosts))
  hosts := by
    have hkeys : (serversOf resolve hosts).map Prod.fst =
        (gatherAddresses resolve (hostQuestions hosts)).map Prod.fst := by
      rw [serversOf, sortAddresses, List.map_map]
      rfl
    have hsorted := isSortedBy_gatherAddresses resolve (hostQuestions hosts)
    rw [hkeys]
    refine (List.perm_ext_iff_of_nodup ?_ h).mpr fun host => ?_
    · exact List.pairwise_map.mpr (hsorted.imp fun hlt heq => by simp [heq] at hlt)
    · rw [mem_keys_gatherAddresses]
      simp [hostQuestions]
  addresses s hs := by
    obtain ⟨⟨host, addresses⟩, hmem, rfl⟩ := List.mem_map.mp hs
    have hhost : host ∈ hosts := by
      have hkey := mem_keys_gatherAddresses.mp (List.mem_map_of_mem hmem)
      simpa [hostQuestions] using hkey
    have heq : addresses = _ := eq_of_mem_gatherAddresses hmem
    rw [filter_hostQuestions h hhost] at heq
    rw [heq]
    exact (List.mergeSort_perm _ _).trans (.of_eq (by simp))
  ordered s hs := by
    obtain ⟨⟨host, addresses⟩, -, rfl⟩ := List.mem_map.mp hs
    exact IpAddress.pairwise_mergeSort addresses

end Lists

/-! ### The verdict on texts -/

/-- An address comes before all others of a kind. -/
structure IsFirst (P : String × IpAddress → Prop) (a : String × IpAddress) : Prop where
  /-- It is of the kind. -/
  holds : P a
  /-- No other one comes before it. -/
  least : ∀ b, P b → compareServers a b ≠ .gt

/-- The verdict on the texts of addresses. -/
inductive Judges (name : String) (servers : Nameservers) (found : List (String × IpAddress))
    (texts : String × IpAddress → List String) : List Problem → Prop where
  /-- If the texts differ, the first address is quoted, and the first one that differs from it. -/
  | differ {a b : String × IpAddress} (ha : IsFirst (· ∈ found) a)
    (hb : IsFirst (fun s => s ∈ found ∧ texts s ≠ texts a) b) :
    Judges name servers found texts [disagreement (a, texts a) (b, texts b)]
  /-- If no address has texts, a note lists the nameservers. -/
  | none (hnone : ∀ s ∈ found, texts s = []) :
    Judges name servers found texts [nothingServed name servers]
  /-- If all addresses have the same texts, nothing is found. -/
  | same (hsame : ∀ s ∈ found, ∀ t ∈ found, texts s = texts t) (hsome : ∃ s ∈ found, texts s ≠ []) :
    Judges name servers found texts []

section Judges

variable {servers : Nameservers} {found : List (String × IpAddress)}
  {texts : String × IpAddress → List String} {problems problems' : List Problem}

theorem IsFirst.unique {P : String × IpAddress → Prop} {a b : String × IpAddress}
    (ha : IsFirst P a) (hb : IsFirst P b) : a = b := by
  cases h : compareServers a b with
  | lt => exact absurd (Std.OrientedCmp.gt_iff_lt.mpr h) (hb.least a ha.holds)
  | eq => exact Std.LawfulEqCmp.eq_of_compare h
  | gt => exact absurd h (ha.least b hb.holds)

/-- Where texts differ, they are neither all the same nor all missing. -/
theorem IsFirst.not_same {a b : String × IpAddress} (ha : IsFirst (· ∈ found) a)
    (hb : IsFirst (fun s => s ∈ found ∧ texts s ≠ texts a) b) :
    ¬∀ s ∈ found, ∀ t ∈ found, texts s = texts t :=
  fun hsame => hb.holds.2 (hsame b hb.holds.1 a ha.holds)

theorem same_of_none (hnone : ∀ s ∈ found, texts s = []) :
    ∀ s ∈ found, ∀ t ∈ found, texts s = texts t :=
  fun s hs t ht => (hnone s hs).trans (hnone t ht).symm

/-- There is one verdict at most. -/
theorem Judges.unique (h : Judges name servers found texts problems)
    (h' : Judges name servers found texts problems') : problems = problems' := by
  cases h with
  | differ ha hb =>
    cases h' with
    | differ ha' hb' =>
      obtain rfl := ha.unique ha'
      obtain rfl := hb.unique hb'
      rfl
    | none hnone => exact absurd (same_of_none hnone) (ha.not_same hb)
    | same hsame => exact absurd hsame (ha.not_same hb)
  | none hnone =>
    cases h' with
    | differ ha hb => exact absurd (same_of_none hnone) (ha.not_same hb)
    | none => rfl
    | same _ hsome =>
      obtain ⟨s, hs, hne⟩ := hsome
      exact absurd (hnone s hs) hne
  | same hsame hsome =>
    cases h' with
    | differ ha hb => exact absurd hsame (ha.not_same hb)
    | none hnone =>
      obtain ⟨s, hs, hne⟩ := hsome
      exact absurd (hnone s hs) hne
    | same => rfl

/-- The first entry of a sorted list that is of a kind comes before the others. -/
theorem isFirst_of_find? {l : Served} {p : (String × IpAddress) × List String → Bool}
    {e : (String × IpAddress) × List String} (hl : IsSortedBy compareServers l)
    (h : l.find? p = some e) : ∀ e' ∈ l, p e' = true → compareServers e.1 e'.1 ≠ .gt := by
  obtain ⟨-, front, back, rfl, hfront⟩ := List.find?_eq_some_iff_append.mp h
  intro e' he' hp hgt
  rcases List.mem_append.mp he' with hmem | hmem
  · have hnot := hfront e' hmem
    rw [hp] at hnot
    cases hnot
  · rcases List.mem_cons.mp hmem with rfl | hmem
    · have hself : compareServers e'.1 e'.1 = .eq := Std.ReflCmp.compare_self
      rw [hself] at hgt
      cases hgt
    · have hlt := (List.pairwise_cons.mp (List.pairwise_append.mp hl).2.1).1 e' hmem
      rw [hlt] at hgt
      cases hgt

/-- The comparison comes to a verdict. -/
theorem judges_compareServed (name : String) (servers : Nameservers)
    (found : List (String × IpAddress)) (texts : String × IpAddress → List String) :
    Judges name servers found texts (compareServed name servers (gatherTexts texts found)) := by
  have hsorted := isSortedBy_gatherTexts texts found
  have hmem {s : String × IpAddress} {kept : List String} :
      (s, kept) ∈ gatherTexts texts found ↔ s ∈ found ∧ kept = texts s := mem_gatherTexts
  cases hserved : gatherTexts texts found with
  | nil =>
    rw [hserved] at hmem
    exact .none fun s hs => absurd (hmem.mpr ⟨hs, rfl⟩) List.not_mem_nil
  | cons first rest =>
    rw [hserved] at hsorted hmem
    obtain ⟨a, kept⟩ := first
    obtain ⟨ha, rfl⟩ := hmem.mp List.mem_cons_self
    have hfirst : IsFirst (· ∈ found) a := ⟨ha, fun b hb =>
      isFirst_of_find? (p := fun _ => true) hsorted rfl _ (hmem.mpr ⟨hb, rfl⟩) rfl⟩
    rw [compareServed]
    cases hother : rest.find? fun e => e.2 ≠ texts a with
    | some other =>
      obtain ⟨b, kept⟩ := other
      obtain ⟨hb, rfl⟩ := hmem.mp (List.mem_cons_of_mem _ (List.mem_of_find?_eq_some hother))
      have hne : texts b ≠ texts a := by simpa using List.find?_some hother
      refine .differ hfirst ⟨⟨hb, hne⟩, fun c ⟨hc, hdiffers⟩ => ?_⟩
      rcases List.mem_cons.mp (hmem.mpr ⟨hc, rfl⟩) with heq | hrest
      · exact absurd (congrArg Prod.snd heq) hdiffers
      · exact isFirst_of_find? (List.pairwise_cons.mp hsorted).2 hother _ hrest
          (decide_eq_true hdiffers)
    | none =>
      have hsame : ∀ s ∈ found, texts s = texts a := fun s hs => by
        rcases List.mem_cons.mp (hmem.mpr ⟨hs, rfl⟩) with heq | hrest
        · exact congrArg Prod.snd heq
        · simpa using List.find?_eq_none.mp hother _ hrest
      dsimp only
      split
      next hempty =>
        exact .none fun s hs => (hsame s hs).trans (List.isEmpty_iff.mp hempty)
      next hsome =>
        exact .same (fun s hs t ht => (hsame s hs).trans (hsame t ht).symm)
          ⟨a, hfirst.holds, mt List.isEmpty_iff.mpr hsome⟩

/-- **The verdict is what the comparison finds.** -/
theorem judges_iff : Judges name servers found texts problems ↔
    problems = compareServed name servers (gatherTexts texts found) :=
  ⟨fun h => h.unique (judges_compareServed ..), fun h => h ▸ judges_compareServed ..⟩

end Judges

/-! ### Runs in which all lookups succeed -/

/-- All lookups of a comparison succeed, no hostname comes twice and none has an address twice. -/
structure FindsAll (peers : Peers) (past : Nat) (journal : List Event) (resolve : Resolution)
    (name : String) : Prop where
  /-- No call of the resolver broke down. -/
  calls : CallsReturn peers past journal
  /-- The nameservers are found. -/
  nameservers : ¬IsError (resolve (.ofName name .ns))
  /-- Their addresses are found. -/
  addresses : AllFound resolve name
  /-- No hostname comes twice. -/
  hostsOnce : (nameserversOf resolve name).Nodup
  /-- No hostname has an address twice. -/
  addressesOnce : (addressesOfNameservers resolve name).Nodup

section Runs

variable {peers : Peers} {past : Nat} {s s' : Session} {outcome : Outcome Verdict}
  {schedule : Schedule peers}

/-- What is known of the nameservers after their lookup. -/
theorem FindsAll.hosts_of_ends {ns : Outcome LookupOutcome} {s₁ : Session}
    (h : FindsAll peers past s'.journal resolve name) (hresolves : s'.Resolves past resolve)
    (hns : schedule.Ends (Job.lookup name .ns) s ns s₁) (hs : s.Alone past)
    (hgrows : s₁.journal <+: s'.journal) :
    hostsOf ns = nameserversOf resolve name ∧ verdictBefore name ns = .returned (.ok [nsNote
        "No nameservers found" s!"No name server records were returned for the domain: {name}"]) ∧
      s₁.Alone past ∧ Journal.Extends IsNoQuestion s.journal s₁.journal := by
  obtain ⟨rfl, halone, hquiet⟩ := ns_of_ends (schedule.ends hns) hs (hresolves.mono hgrows)
    (h.calls.mono hgrows)
  cases hanswer : resolve (.ofName name .ns) with
  | error e => exact absurd ⟨e, hanswer⟩ h.nameservers
  | ok records =>
    refine ⟨?_, rfl, halone, hquiet⟩
    rw [nameserversOf, hanswer]
    rfl

/-- What is known of their addresses after the lookups for these. -/
theorem FindsAll.servers_of_ends {hosts : List String} {found : Except Stop Nameservers}
    {s₁ : Session} (h : FindsAll peers past s'.journal resolve name)
    (hresolves : s'.Resolves past resolve) (hhosts : hosts = nameserversOf resolve name)
    (hresolved : schedule.Ends (resolveNameservers hosts) s (.returned found) s₁)
    (hs : s.Alone past) (hgrows : s₁.journal <+: s'.journal) :
    found = .ok (serversOf resolve (nameserversOf resolve name)) ∧ s₁.Alone past ∧
      Journal.Extends IsNoQuestion s.journal s₁.journal := by
  subst hhosts
  exact resolveNameservers_of_ends (schedule.ends hresolved) hs (hresolves.mono hgrows)
    (h.calls.mono hgrows) h.addresses h.addressesOnce

/-- Where there are no nameservers nothing is asked. -/
theorem Survey.of_no_hosts (h : Survey schedule name s outcome s') (hs : s.Alone past)
    (hresolves : s'.Resolves past resolve) (hfinds : FindsAll peers past s'.journal resolve name)
    (hnone : nameserversOf resolve name = []) :
    Journal.Extends IsNoQuestion s.journal s'.journal ∧
      outcome = .returned (.ok [nsNote "No nameservers found"
        s!"No name server records were returned for the domain: {name}"]) := by
  cases h with
  | untasked hns _ hdrifts =>
    obtain ⟨-, hverdict, halone, hquiet⟩ :=
      hfinds.hosts_of_ends hresolves hns hs hdrifts.journal_grows
    exact ⟨(hdrifts.passes halone.strays).journal ▸ hquiet, hverdict⟩
  | unresolved hns hsome hresolved _ _ _ hdrifts =>
    have hgrows := (schedule.ends hresolved).journal_grows.trans hdrifts.journal_grows
    exact absurd ((hfinds.hosts_of_ends hresolves hns hs hgrows).1.trans hnone) hsome
  | asked hns hsome hresolved _ _ _ hqueries hdrifts =>
    have hgrows := (schedule.ends hresolved).journal_grows.trans
      ((schedule.ends hqueries).journal_grows.trans hdrifts.journal_grows)
    exact absurd ((hfinds.hosts_of_ends hresolves hns hs hgrows).1.trans hnone) hsome

/-- Where there are nameservers the queries decide. -/
theorem Survey.of_hosts (h : Survey schedule name s outcome s') (hs : s.Alone past)
    (hresolves : s'.Resolves past resolve) (hfinds : FindsAll peers past s'.journal resolve name)
    (hsome : nameserversOf resolve name ≠ []) :
    let servers := serversOf resolve (nameserversOf resolve name)
    ∃ s₁ queries s₂,
      schedule.Ends (queryEndings s!"{challengeName name}." servers) s₁ (.returned queries) s₂ ∧
      s₁.Alone past ∧ Journal.Extends IsNoQuestion s.journal s₁.journal ∧
      s'.journal = s₂.journal ∧
      outcome = .returned (verdictOn name servers (collect addAnswer [] queries)) := by
  intro servers
  cases h with
  | untasked hns hnone hdrifts =>
    have hhosts := (hfinds.hosts_of_ends hresolves hns hs hdrifts.journal_grows).1
    exact absurd (hhosts.symm.trans hnone) hsome
  | unresolved hns _ hresolved _ _ _ hdrifts =>
    have hgrows := (schedule.ends hresolved).journal_grows.trans hdrifts.journal_grows
    obtain ⟨hhosts, -, halone, -⟩ := hfinds.hosts_of_ends hresolves hns hs hgrows
    obtain ⟨hfound, -⟩ :=
      hfinds.servers_of_ends hresolves hhosts hresolved halone hdrifts.journal_grows
    cases hfound
  | @asked ns s₁ s₂ s₃ s₄ _ _ known queries hns _ hresolved _ _ _ hqueries hdrifts =>
    have hgrows := (schedule.ends hqueries).journal_grows.trans hdrifts.journal_grows
    obtain ⟨hhosts, -, halone, hquiet⟩ := hfinds.hosts_of_ends hresolves hns hs
      ((schedule.ends hresolved).journal_grows.trans hgrows)
    obtain ⟨hfound, halone', hquiet'⟩ :=
      hfinds.servers_of_ends hresolves hhosts hresolved halone hgrows
    replace hfound : sortAddresses known = servers := Except.ok.inj hfound
    generalize sortAddresses known = listed at hfound queries hqueries
    subst hfound
    have hlast := (schedule.ends hqueries).alone_of_attached halone' (queryEndings_attached _ _)
    exact ⟨s₃, queries, s₄, hqueries, halone', hquiet.trans hquiet',
      (hdrifts.passes hlast.strays).journal, rfl⟩

theorem questions_askedAfter {challenge : String} {journal base : List Event}
    (polled : List (String × IpAddress)) (h : Journal.Extends IsNoQuestion journal base) :
    Journal.questions ((askedAfter challenge base polled).drop journal.length) =
      polled.map (queryTo challenge) := by
  obtain ⟨events, rfl, hquiet⟩ := h
  rw [askedAfter, List.append_assoc, List.drop_left, Journal.questions, List.filterMap_append]
  refine (congrArg (· ++ _) (questions_eq_nil hquiet)).trans ?_
  rw [List.nil_append, List.filterMap_map]
  exact List.filterMap_eq_map ▸ rfl

/-- **What a comparison asks and what it finds**, if all its lookups succeed, no hostname comes
twice and none has an address twice. -/
theorem nsOutOfSync_compares_all (context : ScanContext) (domain : String) (peers : Peers)
    (s : Session) :
    (∃ fuel outcome s',
      (nsOutOfSync.check context domain .dns01).run peers fuel s.forget = some (outcome, s')) ∧
    ∀ outcome s', (nsOutOfSync.check context domain .dns01).Ends peers s.forget outcome s' →
      (∃ resolve, s'.Resolves s.journal.length resolve) ∧
      ∀ resolve, s'.Resolves s.journal.length resolve →
        let name := (Domain.stripWildcard domain).1
        let hosts := nameserversOf resolve name
        let found := addressesOfNameservers resolve name
        let challenge := s!"{challengeName name}."
        FindsAll peers s.journal.length s'.journal resolve name →
        (hosts = [] → Journal.Extends IsNoQuestion s.journal s'.journal ∧
          outcome = .returned (.ok [nsNote "No nameservers found"
            s!"No name server records were returned for the domain: {name}"])) ∧
        (hosts ≠ [] →
          (∀ fuel, (nsOutOfSync.check context domain .dns01).run peers fuel s.forget =
              some (outcome, s') →
            (Journal.questions (s'.news s.journal.length)).Perm (found.map (queryTo challenge))) ∧
          ∃ base polled, Journal.Extends IsNoQuestion s.journal base ∧
            s'.journal = askedAfter challenge base polled ∧ polled.Nodup ∧ polled ⊆ found ∧
            let heard := heardFrom peers challenge base polled
            ((∀ t ∈ polled, IsPlainAnswer (heard t)) → polled.Perm found ∧
              ∃ servers problems, Lists resolve hosts servers ∧
                outcome = .returned (.ok problems) ∧
                ∀ problems', Judges name servers found (fun t => sortedTexts (heard t)) problems' ↔
                  problems' = problems) ∧
            ((∃ t ∈ polled, ¬IsPlainAnswer (heard t)) →
              (∃ note, outcome = .returned (.ok [note]) ∧ note.severity = .debug) ∨
                ∃ t ∈ polled, ∃ message, heard t = .crashed message ∧
                  outcome = .returned (.error (.crashed message)))) := by
  refine ⟨Job.exists_run peers _ rfl rfl, fun outcome s' h => ⟨h.exists_resolves, ?_⟩⟩
  intro resolve hresolves name hosts found challenge hfinds
  have hs := s.alone_forget
  have hpairs : (addressPairs (serversOf resolve hosts)).Perm found := addressPairs_serversOf hosts
  have hsurvey := survey_of_ends (.any peers) h
  refine ⟨fun hnone => hsurvey.of_no_hosts hs hresolves hfinds hnone, fun hsome =>
    ⟨fun fuel hrun => ?_, ?_⟩⟩
  · have htimed := survey_of_ends (.onTime peers) (Job.endsOnTime_of_run hrun)
    obtain ⟨s₁, queries, s₂, hqueries, halone, hquiet, hjournal, -⟩ :=
      htimed.of_hosts hs hresolves hfinds hsome
    obtain ⟨polled, hperm, hasked⟩ := queries_onTime hqueries halone
    replace hquiet : Journal.Extends IsNoQuestion s.journal s₁.journal := hquiet
    rw [Session.news, hjournal.trans hasked, questions_askedAfter polled hquiet]
    exact (hperm.trans hpairs).map _
  · obtain ⟨s₁, queries, s₂, hqueries, halone, hquiet, hjournal, rfl⟩ :=
      hsurvey.of_hosts hs hresolves hfinds hsome
    obtain ⟨polled, honce, hsub, hasked, hplain, hnot⟩ :=
      queries_of_ends hqueries halone (hpairs.nodup_iff.mpr hfinds.addressesOnce)
    refine ⟨s₁.journal, polled, hquiet, hjournal.trans hasked, honce,
      fun t ht => hpairs.subset (hsub ht), fun hall => ?_, fun hsomeNot => ?_⟩
    · obtain ⟨hperm, hcollect⟩ := hplain hall
      refine ⟨hperm.trans hpairs, serversOf resolve hosts, _, lists_serversOf hfinds.hostsOnce,
        congrArg _ (congrArg (verdictOn name (serversOf resolve hosts)) hcollect),
        fun problems' => ?_⟩
      rw [judges_iff, gatherTexts_of_perm hpairs]
    · obtain ⟨stop, hcollect, ⟨note, rfl, hdebug⟩ | ⟨t, ht, message, hheard, rfl⟩⟩ := hnot hsomeNot
      · refine .inl ⟨note, ?_, hdebug⟩
        rw [hcollect]
        rfl
      · refine .inr ⟨t, ht, message, hheard, ?_⟩
        rw [hcollect]
        rfl

end Runs

/-! ### Two nameservers -/

/-- The first of two nameservers. -/
abbrev firstServer : String × IpAddress := ("ns1.example.net", .v4 0xC0000201)

/-- The second of two nameservers. -/
abbrev secondServer : String × IpAddress := ("ns2.example.net", .v4 0xC0000202)

/-- A record of the root. -/
def rootRecord (data : RecordData) : Record := ⟨⟨[], true⟩, 300, data.type, some data⟩

/-- A name with two nameservers that have one address each. -/
def resolveTwo : Resolution := fun key =>
  let host (label : String) : DomainName := ⟨[label.toList, "example".toList, "net".toList], true⟩
  if key = .ofName "example.org" .ns then
    .ok [rootRecord (.ns (host "ns1")), rootRecord (.ns (host "ns2"))]
  else if key = .ofName firstServer.1 .a then .ok [rootRecord (.a 0xC0000201)]
  else if key = .ofName secondServer.1 .a then .ok [rootRecord (.a 0xC0000202)]
  else .ok []

/-- The two nameservers answer queries in some way. -/
def askTwo (first second : Outcome DirectOutcome) : Peers where
  lookup _ key := .now (resolveTwo key)
  answer _ question :=
    match question with
    | .direct address _ _ => ⟨0, if address = firstServer.2 then first else second⟩
    | .exchange .. => .now (.error .silent)
    | .addresses _ => .now []
    | .draw _ => .now 0

theorem nameserversOf_two :
    nameserversOf resolveTwo "example.org" = [firstServer.1, secondServer.1] := by
  decide +kernel

theorem addressesOfNameservers_two :
    addressesOfNameservers resolveTwo "example.org" = [firstServer, secondServer] := by
  decide +kernel

theorem findsAll_two (first second : Outcome DirectOutcome) (journal : List Event) :
    FindsAll (askTwo first second) 0 journal resolveTwo "example.org" := by
  have hok (key : LookupKey) : ¬IsError (resolveTwo key) := by
    unfold resolveTwo
    dsimp only
    split_ifs <;> exact not_isError_ok _
  refine ⟨fun _ _ _ _ => rfl, hok _, fun _ _ => hok _, ?_, ?_⟩
  · rw [nameserversOf_two]
    decide
  · rw [addressesOfNameservers_two]
    decide

theorem judges_two {texts : String × IpAddress → List String} (name : String)
    (servers : Nameservers) (h : texts secondServer ≠ texts firstServer) :
    Judges name servers [firstServer, secondServer] texts [disagreement
      (firstServer, texts firstServer) (secondServer, texts secondServer)] := by
  refine .differ ⟨List.mem_cons_self, fun b hb => ?_⟩
    ⟨⟨List.mem_cons_of_mem _ List.mem_cons_self, h⟩, fun b hb => ?_⟩
  · rcases List.mem_pair.mp hb with rfl | rfl <;> decide +kernel
  · rcases List.mem_pair.mp hb.1 with rfl | rfl
    · exact absurd rfl hb.2
    · decide +kernel

/-- Two nameservers serve different texts: each is asked once, and a warning quotes both. -/
theorem nsOutOfSync_quotes_both :
    let answer (bytes : Bytes) : Outcome DirectOutcome :=
      .returned (.ok ⟨.noError, [rootRecord (.txt [bytes])]⟩)
    ∃ s', (nsOutOfSync.check ⟨.standard, .standard⟩ "example.org" .dns01).Ends
        (askTwo (answer [97]) (answer [98])) Session.fresh.forget
        (.returned (.ok [disagreement (firstServer, ["a"]) (secondServer, ["b"])])) s' ∧
      (Journal.questions (s'.news 0)).Perm
        [.direct firstServer.2 "_acme-challenge.example.org." .txt,
          .direct secondServer.2 "_acme-challenge.example.org." .txt] := by
  intro answer
  obtain ⟨⟨fuel, outcome, s', hrun⟩, hends⟩ := nsOutOfSync_compares_all ⟨.standard, .standard⟩
    "example.org" (askTwo (answer [97]) (answer [98])) .fresh
  have h := Job.ends_of_run hrun
  have hresolves : s'.Resolves 0 resolveTwo := h.resolves fun _ _ => rfl
  have hname : (Domain.stripWildcard "example.org").1 = "example.org" := by decide +kernel
  have hchallenge : toString (challengeName "example.org") ++ toString "." =
      "_acme-challenge.example.org." := by
    decide +kernel
  obtain ⟨-, hsome⟩ := (hends outcome s' h).2 resolveTwo hresolves
    (by rw [hname]; exact findsAll_two _ _ _)
  rw [hname, hchallenge, nameserversOf_two, addressesOfNameservers_two] at hsome
  obtain ⟨hasked, base, polled, -, -, -, -, hplain, -⟩ := hsome (List.cons_ne_nil _ _)
  have hheard (t : String × IpAddress) : heardFrom (askTwo (answer [97]) (answer [98]))
      "_acme-challenge.example.org." base polled t =
        if t.2 = firstServer.2 then answer [97] else answer [98] := rfl
  simp only [hheard] at hplain
  obtain ⟨-, servers, problems, -, rfl, hjudges⟩ := hplain fun t _ => by
    split_ifs <;> exact ⟨_, rfl, rfl, List.forall_mem_singleton.mpr rfl⟩
  refine ⟨s', ?_, hasked fuel hrun⟩
  let texts (t : String × IpAddress) : List String :=
    sortedTexts (if t.2 = firstServer.2 then answer [97] else answer [98])
  have hfirst : texts firstServer = ["a"] := by decide +kernel
  have hsecond : texts secondServer = ["b"] := by decide +kernel
  have hdiffer : texts secondServer ≠ texts firstServer := by
    rw [hfirst, hsecond]
    decide
  have hjudged := judges_two "example.org" servers hdiffer
  rw [hfirst, hsecond] at hjudged
  exact (hjudges _).mp hjudged ▸ h

/-- A name without nameservers. -/
def resolveNone : Resolution := fun _ => .ok []

/-- **Not every comparison comes to a verdict on texts or to one note**, although all its lookups
succeed. Where there are no nameservers nothing is served, but the note tells that none were found.
And where a query breaks down while another one is answered with an error, the comparison fails if
the breakdown is first. -/
theorem nsOutOfSync_exceptions :
    let job := nsOutOfSync.check ⟨.standard, .standard⟩ "example.org" .dns01
    let silent := Peers.timed resolveNone nothingServedBy ⟨fun _ _ => 0, fun _ _ => 0⟩
    let broken := askTwo (.crashed "boom") (.returned (.error (.timeout "ns2" "TXT" 2)))
    (∃ note s', job.Ends silent Session.fresh.forget (.returned (.ok [note])) s' ∧
      FindsAll silent 0 s'.journal resolveNone "example.org" ∧
      note ≠ nothingServed "example.org" []) ∧
    ∃ s', job.Ends broken Session.fresh.forget (.returned (.error (.crashed "boom"))) s' ∧
      FindsAll broken 0 s'.journal resolveTwo "example.org" := by
  intro job silent broken
  constructor
  · have hrun : (job.run silent 100 Session.fresh.forget).map Prod.fst =
        some (.returned (.ok [nsNote "No nameservers found"
          "No name server records were returned for the domain: example.org"])) := by
      decide +kernel
    obtain ⟨⟨_, s'⟩, hrun, rfl⟩ := Option.map_eq_some_iff.mp hrun
    refine ⟨_, s', Job.ends_of_run hrun, ⟨fun _ _ _ _ => rfl, not_isError_ok _,
      fun _ _ => not_isError_ok _, .nil, .nil⟩, fun heq => ?_⟩
    have hexplanation : "No nameservers found" = "No TXT records for _acme-challenge" :=
      congrArg Problem.explanation heq
    revert hexplanation
    decide
  · have hrun : (job.run broken 100 Session.fresh.forget).map Prod.fst =
        some (.returned (.error (.crashed "boom"))) := by
      decide +kernel
    obtain ⟨⟨_, s'⟩, hrun, rfl⟩ := Option.map_eq_some_iff.mp hrun
    exact ⟨s', Job.ends_of_run hrun, findsAll_two _ _ _⟩

end Check

end Rehearsal
