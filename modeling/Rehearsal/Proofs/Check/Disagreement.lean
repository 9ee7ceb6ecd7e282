import Rehearsal.Proofs.Check.Comparison
import Rehearsal.Proofs.Job.Sequence
import Rehearsal.Proofs.Text.Utf8
import Mathlib.Data.String.Basic

/-!
# When nameservers disagree

All addresses of all nameservers are compared with the first of them, so it shows if any two of them
differ. What is compared are the character strings of all records of an address, each read as text
by itself and all of them sorted: neither which record a string belongs to nor which bytes could not
be read makes a difference, and how the content of a record is cut into strings does.

Where every record has just one string and that is a text, none of this matters, and the warning
tells that two addresses have different records.

## Main definitions

* `Check.Serves`: an address answers with TXT records of these character strings
* `Check.comparedStrings`, `Check.recordContents`: what is compared, and what records contain
* `Check.WarnsOfDisagreement`: the findings hold a warning that nameservers disagree

## Main results

* `Check.nsOutOfSync_warns_iff`: the warning is given if the strings of two addresses differ
-/

namespace Rehearsal

/-- The resolver answers as it likes without breaking down, and the others give the answers of a
table. -/
structure Peers.Replying (peers : Peers) (reply : Replies) : Prop where
  /-- Calls of the resolver return. -/
  lookup : ∀ journal key, (peers.lookup journal key).outcome.crash? = none
  /-- Questions have the answers of the table. -/
  answer : ∀ journal question, (peers.answer journal question).outcome = .returned (reply question)

theorem World.covers_replying {peers : Peers} {reply : Replies} {resolve : Resolution} {past : Nat}
    {s : Session} (hpeers : peers.Replying reply) (h : s.Resolves past resolve) :
    (World.fixed resolve reply).Covers peers (s.news past) where
  settled := h
  lost := fun journal key message hlost => by
    have hnone := hpeers.lookup journal key
    rw [hlost] at hnone
    cases hnone
  answers := hpeers.answer

theorem Peers.replying_timed (resolve : Resolution) (reply : Replies) (delays : Delays) :
    (Peers.timed resolve reply delays).Replying reply := ⟨fun _ _ => rfl, fun _ _ => rfl⟩

namespace Check

variable {resolve : Resolution} {reply : Replies} {challenge : String} {address : IpAddress}
  {contents : List (List Bytes)} {pairs : List (String × IpAddress)}

/-! ### What is served -/

/-- An address answers without an error, with TXT records of these character strings and no others.
-/
def Serves (reply : Replies) (challenge : String) (address : IpAddress)
    (contents : List (List Bytes)) : Prop :=
  ∃ answer, (reply (.direct address challenge .txt) : DirectOutcome) = .ok answer ∧
    answer.code = .noError ∧ answer.records.map Record.data = contents.map fun c => some (.txt c)

/-- What is compared: the strings of all records, each read as text. -/
def comparedStrings (contents : List (List Bytes)) : List String :=
  contents.flatMap (·.map Text.decodeLossy)

/-- What records contain: the bytes of their strings, one after another. -/
def recordContents (contents : List (List Bytes)) : List Bytes := contents.map List.flatten

/-- The records have one string each, and it is a text. -/
def ArePlain (contents : List (List Bytes)) : Prop :=
  ∀ c ∈ contents, ∃ bytes, c = [bytes] ∧ (Text.decode? bytes).isSome

theorem mapM_servedStrings {records : List Record}
    (h : records.map Record.data = contents.map fun c => some (.txt c)) :
    records.mapM (servedStrings challenge) = .ok (contents.map (·.map Text.decodeLossy)) := by
  induction records generalizing contents with
  | nil =>
    obtain rfl : contents = [] := by simpa using h.symm
    rfl
  | cons r records ih =>
    cases contents with
    | nil => cases h
    | cons c contents =>
      obtain ⟨hr, hrest⟩ := List.cons.inj h
      rw [List.mapM_cons, ih hrest, servedStrings, hr]
      rfl

theorem Serves.textsAt (h : Serves reply challenge address contents) :
    textsAt reply challenge address = .ok (comparedStrings contents) := by
  obtain ⟨answer, hanswer, hcode, hdata⟩ := h
  rw [Check.textsAt, hanswer]
  dsimp only
  rw [answerStrings, if_pos hcode, mapM_servedStrings hdata, comparedStrings, List.flatMap_def]
  rfl

theorem comparedStrings_of_plain (h : ArePlain contents) :
    comparedStrings contents = (recordContents contents).map Text.decodeLossy := by
  induction contents with
  | nil => rfl
  | cons c contents ih =>
    obtain ⟨⟨bytes, rfl, -⟩, hrest⟩ := List.forall_mem_cons.mp h
    rw [comparedStrings, List.flatMap_cons, ← comparedStrings, ih hrest]
    simp [recordContents]

theorem encode_recordContents (h : ArePlain contents) :
    (recordContents contents).map (Text.encode ∘ Text.decodeLossy) = recordContents contents := by
  rw [recordContents, List.map_map]
  refine List.map_congr_left fun c hc => ?_
  obtain ⟨bytes, rfl, htext⟩ := h c hc
  simpa using Text.encode_decodeLossy htext

/-- Records of one text each are compared by what they contain. -/
theorem perm_comparedStrings_iff {contents' : List (List Bytes)} (h : ArePlain contents)
    (h' : ArePlain contents') :
    (comparedStrings contents).Perm (comparedStrings contents') ↔
      (recordContents contents).Perm (recordContents contents') := by
  rw [comparedStrings_of_plain h, comparedStrings_of_plain h']
  refine ⟨fun hperm => ?_, fun hperm => hperm.map _⟩
  rw [← encode_recordContents h, ← encode_recordContents h', ← List.map_map, ← List.map_map]
  exact hperm.map _

/-! ### What is compared -/

/-- Sorted strings tell which strings there are, and how many of each. -/
theorem mergeSort_eq_iff {strings strings' : List String} :
    strings.mergeSort (· ≤ ·) = strings'.mergeSort (· ≤ ·) ↔ strings.Perm strings' := by
  constructor
  · intro h
    exact (List.mergeSort_perm strings _).symm.trans (h ▸ List.mergeSort_perm strings' _)
  · intro h
    exact List.Perm.eq_of_pairwise (fun a b _ _ hab hba => le_antisymm hab hba)
      (List.pairwise_mergeSort' (· ≤ ·) strings) (List.pairwise_mergeSort' (· ≤ ·) strings')
      (((List.mergeSort_perm strings _).trans h).trans (List.mergeSort_perm strings' _).symm)

/-- The findings hold a warning that nameservers disagree. -/
def WarnsOfDisagreement (problems : List Problem) : Prop :=
  ∃ p ∈ problems, p.name = nsOutOfSyncName ∧ p.severity = .warning

/-- The verdict is a warning if any two of the addresses serve something else. -/
theorem compareServed_warns_iff (domain : String) (servers : Nameservers) (served : Served) :
    WarnsOfDisagreement (compareServed domain servers served) ↔
      ∃ e ∈ served, ∃ e' ∈ served, e.2 ≠ e'.2 := by
  have hnote : ¬WarnsOfDisagreement [nothingServed domain servers] := by
    rintro ⟨p, hp, -, hwarning⟩
    obtain rfl := List.mem_singleton.mp hp
    cases hwarning
  unfold compareServed
  split
  next => exact iff_of_false hnote (fun ⟨e, he, _⟩ => absurd he List.not_mem_nil)
  next first rest =>
    split
    next other hother =>
      have hne : other.2 ≠ first.2 := by simpa using List.find?_some hother
      refine iff_of_true ⟨_, List.mem_singleton_self _, rfl, rfl⟩ ⟨other, ?_, first, ?_, hne⟩
      · exact List.mem_cons_of_mem _ (List.mem_of_find?_eq_some hother)
      · exact List.mem_cons_self
    next hnone =>
      have hsame : ∀ e ∈ first :: rest, e.2 = first.2 := by
        refine List.forall_mem_cons.mpr ⟨rfl, fun e he => ?_⟩
        simpa using List.find?_eq_none.mp hnone e he
      refine iff_of_false ?_ ?_
      · split
        · exact hnote
        · rintro ⟨p, hp, -⟩
          cases hp
      · rintro ⟨e, he, e', he', hne⟩
        exact hne ((hsame e he).trans (hsame e' he').symm)

/-- The addresses whose answers are compared. -/
abbrev addressesOfNameservers (resolve : Resolution) (name : String) : List (String × IpAddress) :=
  foundAddresses resolve (nameserversOf resolve name)

/-- What is kept for the addresses differs where the strings do. -/
theorem gatherTexts_differ_iff {served : IpAddress → List (List Bytes)}
    (hserves : ∀ s ∈ pairs, Serves reply challenge s.2 (served s.2)) :
    (∃ e ∈ gatherTexts (keptAt reply challenge) pairs,
        ∃ e' ∈ gatherTexts (keptAt reply challenge) pairs, e.2 ≠ e'.2) ↔
      ∃ s ∈ pairs, ∃ s' ∈ pairs,
        ¬(comparedStrings (served s.2)).Perm (comparedStrings (served s'.2)) := by
  have hkept : ∀ s ∈ pairs,
      keptAt reply challenge s = (comparedStrings (served s.2)).mergeSort (· ≤ ·) := by
    intro s hs
    rw [keptAt, (hserves s hs).textsAt]
    rfl
  constructor
  · rintro ⟨e, he, e', he', hne⟩
    obtain ⟨hmem, heq⟩ := mem_gatherTexts.mp he
    obtain ⟨hmem', heq'⟩ := mem_gatherTexts.mp he'
    rw [heq, heq', hkept _ hmem, hkept _ hmem', Ne, mergeSort_eq_iff] at hne
    exact ⟨e.1, hmem, e'.1, hmem', hne⟩
  · rintro ⟨s, hs, s', hs', hne⟩
    have hmem {s : String × IpAddress} (hs : s ∈ pairs) :
        (s, keptAt reply challenge s) ∈ gatherTexts (keptAt reply challenge) pairs :=
      mem_gatherTexts.mpr ⟨hs, rfl⟩
    refine ⟨_, hmem hs, _, hmem hs', ?_⟩
    rwa [hkept s hs, hkept s' hs', Ne, mergeSort_eq_iff]

/-! ### The warning -/

/-- **The warning is given if the strings of two addresses differ**, if there are nameservers and
nothing stops the comparison: their addresses are found, none has an address twice, and each address
answers with TXT records only. Where all records have one string that is a text, it is given if the
records of two addresses differ in what they contain. -/
theorem nsOutOfSync_warns_iff (context : ScanContext) (domain : String) (peers : Peers)
    (reply : Replies) (hpeers : peers.Replying reply) (s : Session) :
    (∃ fuel outcome s',
      (nsOutOfSync.check context domain .dns01).run peers fuel s.forget = some (outcome, s')) ∧
    ∀ outcome s', (nsOutOfSync.check context domain .dns01).Ends peers s.forget outcome s' →
      (∃ resolve, s'.Resolves s.journal.length resolve) ∧
      ∀ resolve, s'.Resolves s.journal.length resolve →
        let name := (Domain.stripWildcard domain).1
        let found := addressesOfNameservers resolve name
        ∀ served : IpAddress → List (List Bytes),
          nameserversOf resolve name ≠ [] → AllFound resolve name → found.Nodup →
          (∀ server ∈ found, Serves reply s!"{challengeName name}." server.2 (served server.2)) →
          ∃ problems, outcome = .returned (.ok problems) ∧
            (WarnsOfDisagreement problems ↔ ∃ a ∈ found, ∃ b ∈ found,
              ¬(comparedStrings (served a.2)).Perm (comparedStrings (served b.2))) ∧
            ((∀ server ∈ found, ArePlain (served server.2)) →
              (WarnsOfDisagreement problems ↔ ∃ a ∈ found, ∃ b ∈ found,
                ¬(recordContents (served a.2)).Perm (recordContents (served b.2)))) := by
  refine ⟨Job.exists_run peers _ rfl rfl, fun outcome s' h => ⟨h.exists_resolves, ?_⟩⟩
  intro resolve hresolves name found served hsome hall honce hserves
  have hgive := h.gives s.alone_forget.orderly (World.covers_replying hpeers hresolves)
  have hnone : ∀ cause note, ¬StopsWith resolve reply name cause note := fun _ _ =>
    not_stopsWith hall (fun server hserver => ⟨_, (hserves server hserver).textsAt⟩) honce
  obtain ⟨rfl, -⟩ := (nsOutOfSync_compares hsome hgive).resolve_right
    fun ⟨cause, note, hstops, _⟩ => hnone cause note hstops
  have hpairs (server : String × IpAddress) :
      server ∈ addressPairs (serversOf resolve (nameserversOf resolve name)) ↔ server ∈ found :=
    (addressPairs_serversOf _).mem_iff
  have hdiffer := gatherTexts_differ_iff fun server hserver =>
    hserves server ((hpairs server).mp hserver)
  simp only [hpairs] at hdiffer
  have hwarns := (compareServed_warns_iff name
    (serversOf resolve (nameserversOf resolve name)) _).trans hdiffer
  refine ⟨_, rfl, hwarns, fun hplain => hwarns.trans ?_⟩
  refine exists_congr fun a => and_congr_right fun ha => exists_congr fun b =>
    and_congr_right fun hb => not_congr ?_
  exact perm_comparedStrings_iff (hplain a ha) (hplain b hb)

/-- One nameserver serves a content in one string and another the same content in two: a warning is
given, although both records contain the same. -/
theorem nsOutOfSync_warns_of_cut_content :
    let record (data : RecordData) : Record := ⟨⟨[], true⟩, 300, data.type, some data⟩
    let server (n : Nat) : IpAddress := .v4 (.ofNat 32 (0xC0000200 + n))
    let host (label : String) : DomainName :=
      ⟨[label.toList, "example".toList, "net".toList], true⟩
    let resolve : Resolution := fun key =>
      if key = .ofName "example.org" .ns then
        .ok [record (.ns (host "ns1")), record (.ns (host "ns2"))]
      else if key = .ofName "ns1.example.net" .a then .ok [record (.a 0xC0000201)]
      else if key = .ofName "ns2.example.net" .a then .ok [record (.a 0xC0000202)]
      else .ok []
    let served (address : IpAddress) : List (List Bytes) :=
      if address = server 1 then [[[97, 98]]] else [[[97], [98]]]
    let reply : Replies
      | .direct address _ _ => .ok ⟨.noError, (served address).map fun c => record (.txt c)⟩
      | .exchange .. => .error .silent
      | .addresses _ => []
      | .draw _ => 0
    ∃ problems s', (nsOutOfSync.check ⟨.standard, .standard⟩ "example.org" .dns01).Ends
        (.timed resolve reply ⟨fun _ _ => 0, fun _ _ => 0⟩) Session.fresh.forget
        (.returned (.ok problems)) s' ∧
      WarnsOfDisagreement problems ∧
      (recordContents (served (server 1))).Perm (recordContents (served (server 2))) := by
  intro record server host resolve served reply
  obtain ⟨⟨fuel, outcome, s', hrun⟩, hends⟩ := nsOutOfSync_warns_iff ⟨.standard, .standard⟩
    "example.org" _ reply (Peers.replying_timed resolve reply ⟨fun _ _ => 0, fun _ _ => 0⟩) .fresh
  have h := Job.ends_of_run hrun
  have hresolves : s'.Resolves 0 resolve := h.resolves fun _ _ => rfl
  have hname : (Domain.stripWildcard "example.org").1 = "example.org" := by decide +kernel
  have hhosts : nameserversOf resolve "example.org" = ["ns1.example.net", "ns2.example.net"] := by
    decide +kernel
  have hfound : addressesOfNameservers resolve "example.org" =
      [("ns1.example.net", server 1), ("ns2.example.net", server 2)] := by
    decide +kernel
  have hok (key : LookupKey) : ¬IsError (resolve key) := by
    dsimp only [resolve]
    split_ifs <;> exact not_isError_ok _
  obtain ⟨problems, rfl, hwarns, -⟩ := (hends outcome s' h).2 resolve hresolves served
    (by rw [hname, hhosts]; exact List.cons_ne_nil _ _)
    (fun q _ => hok _)
    (by rw [hname, hfound]; decide +kernel)
    (fun s _ => ⟨_, rfl, rfl, by rw [List.map_map]; rfl⟩)
  rw [hname, hfound] at hwarns
  refine ⟨problems, s', h, hwarns.mpr ?_, by decide +kernel⟩
  exact ⟨_, List.mem_cons_self, _, List.mem_cons_of_mem _ List.mem_cons_self, by decide +kernel⟩

end Check

end Rehearsal
