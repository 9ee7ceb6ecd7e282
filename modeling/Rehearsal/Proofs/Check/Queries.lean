import Rehearsal.Job.Journal
import Rehearsal.Proofs.Check.Disagreement
import Rehearsal.Proofs.Check.Effects
import Rehearsal.Proofs.Check.Survey
import Rehearsal.Proofs.Job.Among
import Rehearsal.Proofs.Job.Poll

/-!
# The queries of a comparison of nameservers

A nameserver may answer one query in two ways, so what is compared is no matter of a table of
answers: it is what each address answered in this run. The queries are a poll, and the journal of
the run tells in which order they were asked and so what each of them heard.

What is told here is told by pairs of a hostname and an address. An address that belongs to two
hostnames is asked twice, and it need not answer alike.

## Main definitions

* `Check.CallsReturn`: no call of the resolver in a run broke down
* `Check.IsPlainAnswer`, `Check.sortedTexts`: an answer with TXT records only, and its texts
* `Check.heardFrom`: what an address answers if addresses are asked in some order
* `Check.Answered`: what queries ended with

## Main results

* `Check.ns_of_ends`, `Check.resolveNameservers_of_ends`: what is known before any query
* `Check.queries_of_ends`: what queries do and what they end with
* `Check.queries_onTime`: by the clock, every address is asked once
-/

namespace Rehearsal

namespace Check

variable {peers : Peers} {past : Nat} {s s' : Session} {name challenge : String}
  {resolve : Resolution}

/-! ### Before any query -/

/-- No call of the resolver broke down since the journal had some length. -/
def CallsReturn (peers : Peers) (past : Nat) (journal : List Event) : Prop :=
  ∀ before key, past ≤ before.length → before ++ [.called key] <+: journal →
    (peers.lookup before key).outcome.crash? = none

theorem CallsReturn.mono {journal journal' : List Event} (h : CallsReturn peers past journal')
    (hgrows : journal <+: journal') : CallsReturn peers past journal :=
  fun before key hpast hcalled => h before key hpast (hcalled.trans hgrows)

/-- An event that is no question. -/
def IsNoQuestion (e : Event) : Prop := ∀ question, e ≠ .asked question

theorem questions_eq_nil {events : List Event} (h : ∀ e ∈ events, IsNoQuestion e) :
    Journal.questions events = [] := by
  refine List.filterMap_eq_nil_iff.mpr fun e he => ?_
  cases e with
  | asked question => exact absurd rfl (h _ he question)
  | called | settled | logged => rfl

/-- Peers that answer lookups as others do, without breaking down, and questions by a table. -/
def mended (peers : Peers) (reply : Replies) : Peers where
  lookup journal key := ⟨(peers.lookup journal key).delay,
    .returned ((peers.lookup journal key).outcome.value?.getD (.ok []))⟩
  answer _ question := .now (reply question)

theorem agreeAlong_mended {journal : List Event} (reply : Replies)
    (hcalls : CallsReturn peers past journal) (hquiet : ∀ e ∈ journal.drop past, IsNoQuestion e) :
    peers.AgreeAlong (mended peers reply) past journal where
  lookup before key hpast hcalled := by
    have hreturns := hcalls before key hpast hcalled
    cases hreply : peers.lookup before key with
    | mk delay outcome =>
      rw [hreply] at hreturns
      cases outcome with
      | returned value => simp [mended, hreply, Outcome.value?]
      | crashed message => cases hreturns
  answer before question hpast hasked := by
    obtain ⟨rest, rfl⟩ := hasked
    refine absurd rfl (hquiet (.asked question) ?_ question)
    rw [List.append_assoc, List.drop_append_of_le_length hpast]
    exact List.mem_append_right _ List.mem_cons_self

/-- The lookup of the nameservers gives what the table tells, unless the resolver breaks down. -/
theorem ns_of_ends {ns : Outcome LookupOutcome}
    (h : (Job.lookup name .ns).Ends peers s ns s') (hs : s.Alone past)
    (hresolves : s'.Resolves past resolve) (hcalls : CallsReturn peers past s'.journal) :
    ns = .returned (resolve (.ofName name .ns)) ∧ s'.Alone past ∧
      Journal.Extends IsNoQuestion s.journal s'.journal := by
  have hquiet {o : Outcome LookupOutcome} {journal : List Event}
      (hlooks : LooksUp peers past (.ofName name .ns) s.journal journal o) :
      Journal.Extends IsNoQuestion s.journal journal :=
    hlooks.journal_extends.mono fun e he question heq => by
      rcases he with rfl | ⟨_, rfl⟩ <;> cases heq
  have halone := h.alone_of_attached hs (fun _ => trivial)
  rcases Job.Ends.looksUp h hs with ⟨o, s₁, hlooks, halone₁, hdone⟩ | ⟨message, hlost, -⟩
  · obtain ⟨rfl, hjournal⟩ := hdone.done_alone halone₁
    rw [← hjournal] at hlooks
    have hmem := hlooks.settled_mem hs.orderly.past_le
    exact ⟨congrArg _ (hresolves _ _ hmem), halone, hquiet hlooks⟩
  · generalize s'.journal = journal at hlost hcalls
    cases hlost with
    | lost _ hanswer =>
      have hreturns := hcalls s.journal _ hs.orderly.past_le List.prefix_rfl
      rw [hanswer] at hreturns
      cases hreturns

theorem resolveNameservers_only (hosts : List String) {w : World} :
    (resolveNameservers hosts).Only w IsNoQuestion := by
  refine (collectAll_only fun part hpart => ?_).bind fun _ _ => Job.only_done _
  rw [hostLookups_eq] at hpart
  obtain ⟨q, -, rfl⟩ := List.mem_map.mp hpart
  refine Job.only_lookup_bind (by simp [IsNoQuestion]) fun outcome _ =>
    ⟨by simp [IsNoQuestion], ?_⟩
  cases outcome <;> exact Job.only_done _

theorem resolveNameservers_attached (hosts : List String) :
    (resolveNameservers hosts).Attached := by
  have hparts : ∀ part ∈ hostLookups hosts, part.Attached := fun part hpart => by
    rw [hostLookups_eq] at hpart
    obtain ⟨q, -, rfl⟩ := List.mem_map.mp hpart
    exact fun outcome => by cases outcome <;> trivial
  exact ⟨by simp, fun i => hparts _ (List.get_mem _ i), fun _ => trivial⟩

/-- Everybody answers, and nothing is served. -/
def nothingServedBy : Replies
  | .direct .. => .ok ⟨.noError, []⟩
  | .exchange .. => .error .silent
  | .addresses _ => []
  | .draw _ => 0

/-- **If every lookup of addresses succeeds and none is found twice, the lookups give them all.** -/
theorem resolveNameservers_of_ends {found : Except Stop Nameservers}
    (h : (resolveNameservers (nameserversOf resolve name)).Ends peers s (.returned found) s')
    (hs : s.Alone past) (hresolves : s'.Resolves past resolve)
    (hcalls : CallsReturn peers past s'.journal) (hall : AllFound resolve name)
    (honce : (addressesOfNameservers resolve name).Nodup) :
    found = .ok (serversOf resolve (nameserversOf resolve name)) ∧ s'.Alone past ∧
      Journal.Extends IsNoQuestion s.journal s'.journal := by
  have hpast := hs.orderly.past_le
  have hquiet : Journal.Extends IsNoQuestion s.journal s'.journal :=
    (h.only (World.covers_seen peers _) hs.orderly (resolveNameservers_only _)
      (by simp [Session.StraysOnly, hs.strays])).2
  -- the lookups ask nothing, so that they may be told by a table of answers
  have hcalls' : CallsReturn peers s.journal.length s'.journal := fun before key hlength =>
    hcalls before key (hpast.trans hlength)
  have hmended := h.among Nat.le.refl
    (agreeAlong_mended nothingServedBy hcalls' hquiet.forall_mem_drop)
  have hreplying : (mended peers nothingServedBy).Replying nothingServedBy :=
    ⟨fun _ _ => rfl, fun _ _ => rfl⟩
  obtain ⟨found', heq, hcases⟩ := resolveNameservers_gives
    (hmended.gives hs.orderly (World.covers_replying hreplying hresolves))
  obtain rfl := Outcome.returned.inj heq
  have hnone : ∀ cause note, ¬StopsWith resolve nothingServedBy name cause note := fun _ _ =>
    not_stopsWith hall (fun _ _ => ⟨[], rfl⟩) honce
  refine ⟨?_, h.alone_of_attached hs (resolveNameservers_attached _), hquiet⟩
  rcases hcases with ⟨cause, note, hstops, -⟩ | ⟨-, hfound⟩
  · exact absurd hstops (hnone cause note)
  · exact hfound

/-! ### Answers -/

/-- An answer without an error, with TXT records only. -/
def IsPlainAnswer (heard : Outcome DirectOutcome) : Prop :=
  ∃ answer, heard = .returned (.ok answer) ∧ answer.code = .noError ∧
    ∀ r ∈ answer.records, r.txtParts?.isSome

/-- The character strings of a record, each read as text. -/
def stringsOf (r : Record) : List String := (r.txtParts?.getD []).map Text.decodeLossy

/-- The texts of all records of an answer, sorted. -/
def sortedTexts : Outcome DirectOutcome → List String
  | .returned (.ok answer) => (answer.records.flatMap stringsOf).mergeSort (· ≤ ·)
  | _ => []

/-- What an address answers, read as texts. -/
def readAnswer (challenge : String) : DirectOutcome → Except String (List String)
  | .ok answer => answerStrings challenge answer
  | .error e => .error e.message

section Answers

variable {heard : Outcome DirectOutcome} {texts : List String}

theorem servedStrings_eq_ok_iff {r : Record} :
    servedStrings challenge r = .ok texts ↔ r.txtParts?.isSome ∧ texts = stringsOf r := by
  rw [servedStrings, stringsOf, Record.txtParts?]
  generalize r.data = data
  have hno (message : String) : (.error message : Except String (List String)) ≠ .ok texts :=
    fun h => by cases h
  rcases data with _ | data
  · exact iff_of_false (hno _) fun h => Bool.false_ne_true h.1
  · cases data with
    | txt parts => exact ⟨fun h => ⟨rfl, (Except.ok.inj h).symm⟩, fun h => congrArg _ h.2.symm⟩
    | a | aaaa | ns | cname | mx | caa =>
      exact iff_of_false (hno _) fun h => Bool.false_ne_true h.1

theorem mapM_servedStrings_eq_ok_iff {records : List Record} {found : List (List String)} :
    records.mapM (servedStrings challenge) = .ok found ↔
      (∀ r ∈ records, r.txtParts?.isSome) ∧ found = records.map stringsOf := by
  induction records generalizing found with
  | nil =>
    exact ⟨fun h => ⟨fun _ hr => absurd hr List.not_mem_nil, (Except.ok.inj h).symm⟩,
      fun h => congrArg Except.ok h.2.symm⟩
  | cons r records ih =>
    rw [List.mapM_cons, List.forall_mem_cons, List.map_cons]
    cases hr : servedStrings challenge r with
    | error message =>
      refine iff_of_false (fun h => by cases h) fun h => ?_
      rw [servedStrings_eq_ok_iff.mpr ⟨h.1.1, rfl⟩] at hr
      cases hr
    | ok texts =>
      obtain ⟨hsome, rfl⟩ := servedStrings_eq_ok_iff.mp hr
      cases hrest : records.mapM (servedStrings challenge) with
      | error message =>
        refine iff_of_false (fun h => by cases h) fun h => ?_
        rw [ih.mpr ⟨h.1.2, rfl⟩] at hrest
        cases hrest
      | ok rest =>
        obtain ⟨hall, rfl⟩ := ih.mp hrest
        exact ⟨fun h => ⟨⟨hsome, hall⟩, (Except.ok.inj h).symm⟩,
          fun h => congrArg Except.ok h.2.symm⟩

theorem answerStrings_eq_ok_iff {answer : DirectAnswer} :
    answerStrings challenge answer = .ok texts ↔ answer.code = .noError ∧
      (∀ r ∈ answer.records, r.txtParts?.isSome) ∧ texts = answer.records.flatMap stringsOf := by
  unfold answerStrings
  split
  next hcode =>
    rw [List.flatMap_def]
    cases hfound : answer.records.mapM (servedStrings challenge) with
    | error message =>
      refine iff_of_false (fun h => by cases h) fun h => ?_
      rw [mapM_servedStrings_eq_ok_iff.mpr ⟨h.2.1, rfl⟩] at hfound
      cases hfound
    | ok found =>
      obtain ⟨hall, rfl⟩ := mapM_servedStrings_eq_ok_iff.mp hfound
      exact ⟨fun h => ⟨hcode, hall, (Except.ok.inj h).symm⟩,
        fun h => congrArg Except.ok h.2.2.symm⟩
  next hcode => exact iff_of_false (fun h => by cases h) fun h => hcode h.1

/-- There are texts if the answer is plain. -/
theorem exists_texts_iff : (∃ texts, heard.map (readAnswer challenge) = .returned (.ok texts)) ↔
    IsPlainAnswer heard := by
  constructor
  · rintro ⟨texts, htexts⟩
    rcases heard with (_ | answer) | message
    · cases Outcome.returned.inj htexts
    · obtain ⟨hcode, hall, -⟩ := answerStrings_eq_ok_iff.mp (Outcome.returned.inj htexts)
      exact ⟨answer, rfl, hcode, hall⟩
    · cases htexts
  · rintro ⟨answer, rfl, hcode, hall⟩
    exact ⟨_, congrArg Outcome.returned (answerStrings_eq_ok_iff.mpr ⟨hcode, hall, rfl⟩)⟩

theorem keptTexts_of_plain (h : IsPlainAnswer heard) :
    keptTexts (heard.map (readAnswer challenge)) = sortedTexts heard := by
  obtain ⟨answer, rfl, hcode, hall⟩ := h
  have hread : readAnswer challenge (.ok answer) = .ok (answer.records.flatMap stringsOf) :=
    answerStrings_eq_ok_iff.mpr ⟨hcode, hall, rfl⟩
  rw [Outcome.map, hread]
  rfl

end Answers

/-! ### The queries -/

/-- The query to an address. -/
abbrev queryTo (challenge : String) (server : String × IpAddress) : Question :=
  .direct server.2 challenge .txt

/-- The journal after addresses have been asked. -/
def askedAfter (challenge : String) (journal : List Event) (polled : List (String × IpAddress)) :
    List Event :=
  journal ++ polled.map fun server => .asked (queryTo challenge server)

/-- What an address answers if addresses are asked in some order. -/
def heardFrom (peers : Peers) (challenge : String) (journal : List Event)
    (polled : List (String × IpAddress)) (server : String × IpAddress) : Outcome DirectOutcome :=
  (peers.answer (askedAfter challenge journal (polled.takeWhile (· ≠ server)))
    (queryTo challenge server)).outcome

section Queries

variable {servers : Nameservers}

theorem askServer_eq (challenge : String) (server : String × IpAddress) :
    askServer challenge server.1 server.2 = .askThen (queryTo challenge server) fun answer =>
      .done ⟨server.1, server.2, readAnswer challenge answer⟩ := by
  refine congrArg (Job.askThen _) (funext fun answer => ?_)
  cases answer <;> rfl

theorem length_serverQuestions (challenge : String) (servers : Nameservers) :
    (serverQuestions challenge servers).length = (addressPairs servers).length := by
  rw [serverQuestions_eq, List.length_map]

/-- The address that a query asks. -/
def serverAt (challenge : String) (servers : Nameservers)
    (i : Fin (serverQuestions challenge servers).length) : String × IpAddress :=
  (addressPairs servers).get (i.cast (length_serverQuestions challenge servers))

theorem serverAt_injective (h : (addressPairs servers).Nodup) :
    Function.Injective (serverAt challenge servers) :=
  (List.nodup_iff_injective_get.mp h).comp (Fin.cast_injective _)

theorem serverAt_mem (i : Fin (serverQuestions challenge servers).length) :
    serverAt challenge servers i ∈ addressPairs servers :=
  List.get_mem _ _

/-- The queries are a poll. -/
def pollOf (challenge : String) (servers : Nameservers) :
    Poll (serverQuestions challenge servers).length ServerAnswer where
  question i := queryTo challenge (serverAt challenge servers i)
  value i answer := ⟨(serverAt challenge servers i).1, (serverAt challenge servers i).2,
    readAnswer challenge answer⟩

theorem get_serverQuestions (i : Fin (serverQuestions challenge servers).length) :
    (serverQuestions challenge servers).get i = (pollOf challenge servers).part i := by
  refine Eq.trans ?_ (askServer_eq challenge (serverAt challenge servers i))
  rw [List.get_eq_getElem, List.getElem_of_eq (serverQuestions_eq servers), List.getElem_map]
  rfl

theorem journalAfter_pollOf (journal : List Event)
    (order : List (Fin (serverQuestions challenge servers).length)) :
    (pollOf challenge servers).journalAfter journal order =
      askedAfter challenge journal (order.map (serverAt challenge servers)) := by
  rw [askedAfter, List.map_map]
  rfl

theorem heardIn_pollOf (h : (addressPairs servers).Nodup) (journal : List Event)
    (order : List (Fin (serverQuestions challenge servers).length))
    (i : Fin (serverQuestions challenge servers).length) :
    let server := serverAt challenge servers i
    (pollOf challenge servers).heardIn peers journal order i =
      ((heardFrom peers challenge journal (order.map (serverAt challenge servers)) server).map
        (readAnswer challenge)).map (.mk server.1 server.2) := by
  intro server
  have hwhile : (order.map (serverAt challenge servers)).takeWhile (· ≠ server) =
      (order.takeWhile (· ≠ i)).map (serverAt challenge servers) := by
    rw [List.takeWhile_map]
    congr 2
    funext j
    simp [server, (serverAt_injective h).eq_iff]
  rw [Poll.heardIn, Poll.heard, journalAfter_pollOf, heardFrom, hwhile, Outcome.map_map]
  rfl

theorem queryEndings_attached (challenge : String) (servers : Nameservers) :
    (queryEndings challenge servers).Attached :=
  Job.attached_endings fun part hpart => by
    rw [serverQuestions_eq] at hpart
    obtain ⟨server, -, rfl⟩ := List.mem_map.mp hpart
    rw [askServer_eq]
    exact fun _ => trivial

/-- What queries ended with: some addresses have answered, each once, and all of them have unless
the answers stop the comparison. -/
structure Answered {ι : Type} (challenge : String)
    (heard : String × IpAddress → Outcome DirectOutcome) (pairs came : List (String × IpAddress))
    (queries : List (ι × Outcome ServerAnswer)) : Prop where
  /-- No address answers twice. -/
  nodup : came.Nodup
  /-- The addresses were asked. -/
  subset : came ⊆ pairs
  /-- All answers have come, or enough. -/
  through : came.length = pairs.length ∨ stops addAnswer [] queries = true
  /-- What the queries ended with is what the addresses answered. -/
  results : queries.map Prod.snd =
    came.map fun s => ((heard s).map (readAnswer challenge)).map (.mk s.1 s.2)

section Answered

variable {ι : Type} {heard : String × IpAddress → Outcome DirectOutcome}
  {pairs came : List (String × IpAddress)} {queries : List (ι × Outcome ServerAnswer)}

/-- If the answers are plain, all have come and all are taken in. -/
theorem Answered.all_of_plain (h : Answered challenge heard pairs came queries)
    (hplain : ∀ s ∈ came, IsPlainAnswer (heard s)) :
    came.Perm pairs ∧
      collect addAnswer [] queries = .ok (gatherTexts (fun s => sortedTexts (heard s)) pairs) := by
  have hcollect := (collect_answers_eq_ok_iff h.results).mpr
    ⟨fun s hs => exists_texts_iff.mpr (hplain s hs), h.nodup, rfl⟩
  have hperm : came.Perm pairs := by
    refine (List.subperm_of_subset h.nodup h.subset).perm_of_length_le ?_
    rcases h.through with hlength | hstops
    · exact hlength.ge
    · rw [stops, hcollect] at hstops
      cases hstops
  refine ⟨hperm, ?_⟩
  rw [hcollect, gatherTexts_of_perm hperm]
  refine congrArg Except.ok (gatherTexts_congr fun s hs => ?_)
  exact keptTexts_of_plain (hplain s (hperm.mem_iff.mpr hs))

/-- If the answers are all taken in, they are plain. -/
theorem Answered.plain_of_ok (h : Answered challenge heard pairs came queries) {served : Served}
    (hcollect : collect addAnswer [] queries = .ok served) : ∀ s ∈ came, IsPlainAnswer (heard s) :=
  fun s hs => exists_texts_iff.mp (((collect_answers_eq_ok_iff h.results).mp hcollect).1 s hs)

/-- Otherwise there is a note, or a query broke down. -/
theorem Answered.of_error (h : Answered challenge heard pairs came queries) {stop : Stop}
    (hcollect : collect addAnswer [] queries = .error stop) :
    (∃ note, stop = .note note ∧ note.severity = .debug) ∨
      ∃ s ∈ came, ∃ message, heard s = .crashed message ∧ stop = .broken message := by
  obtain ⟨front, ⟨i, o⟩, back, known, hsplit, -, hadd⟩ := exists_split_of_collect hcollect
  cases o with
  | returned answer => exact .inl (takesIn_addAnswer.note known answer stop hadd)
  | crashed message =>
    rw [takesIn_addAnswer.broken] at hadd
    have hmem : .crashed message ∈ queries.map Prod.snd := List.mem_map.mpr
      ⟨(i, .crashed message), hsplit ▸ List.mem_append_right _ List.mem_cons_self, rfl⟩
    rw [h.results] at hmem
    obtain ⟨s, hs, heq⟩ := List.mem_map.mp hmem
    rw [Outcome.map_map] at heq
    exact .inr ⟨s, hs, message, Outcome.eq_crashed_of_map heq, (Except.error.inj hadd).symm⟩

end Answered

/-- Addresses are asked in some order, none of them twice, and what the queries end with is what
the addresses answer in this order. -/
theorem exists_answered
    {queries : Completions (serverQuestions challenge servers).length ServerAnswer}
    (h : (queryEndings challenge servers).Ends peers s (.returned queries) s') (hs : s.Alone past)
    (honce : (addressPairs servers).Nodup) :
    ∃ polled came, polled.Nodup ∧ polled ⊆ addressPairs servers ∧
      s'.journal = askedAfter challenge s.journal polled ∧ came ⊆ polled ∧
      Answered challenge (heardFrom peers challenge s.journal polled) (addressPairs servers) came
        queries := by
  obtain ⟨order, honceAsked, hjournal, hheard⟩ :=
    h.polls hs (pollOf challenge servers) get_serverQuestions
  obtain ⟨_, heq, honceCame, hthrough, -⟩ := h.endings
  obtain rfl := Outcome.returned.inj heq
  have hinj : Function.Injective (serverAt challenge servers) := serverAt_injective honce
  have hpolled : order.map (serverAt challenge servers) ⊆ addressPairs servers := fun t ht => by
    obtain ⟨i, -, rfl⟩ := List.mem_map.mp ht
    exact serverAt_mem i
  have hcame : queries.map (fun c => serverAt challenge servers c.1) ⊆
      order.map (serverAt challenge servers) := fun t ht => by
    obtain ⟨c, hc, rfl⟩ := List.mem_map.mp ht
    exact List.mem_map_of_mem (hheard c.1 c.2 hc).1
  refine ⟨_, _, honceAsked.map hinj, hpolled, hjournal.trans (journalAfter_pollOf _ _), hcame, ?_,
    List.Subset.trans hcame hpolled, ?_, ?_⟩
  · have hmap := honceCame.map hinj
    rwa [List.map_map] at hmap
  · rw [List.length_map, ← length_serverQuestions challenge]
    exact hthrough
  · rw [List.map_map]
    exact List.map_congr_left fun c hc => (hheard c.1 c.2 hc).2.trans (heardIn_pollOf honce _ _ _)

/-- **What queries do and what they end with.** Addresses are asked in some order, none of them
twice. If all answers are plain, all addresses have been asked and all answers are taken in.
Otherwise there is a note, or a query broke down. -/
theorem queries_of_ends
    {queries : Completions (serverQuestions challenge servers).length ServerAnswer}
    (h : (queryEndings challenge servers).Ends peers s (.returned queries) s') (hs : s.Alone past)
    (honce : (addressPairs servers).Nodup) :
    ∃ polled, polled.Nodup ∧ polled ⊆ addressPairs servers ∧
      s'.journal = askedAfter challenge s.journal polled ∧
      let heard := heardFrom peers challenge s.journal polled
      ((∀ t ∈ polled, IsPlainAnswer (heard t)) → polled.Perm (addressPairs servers) ∧
        collect addAnswer [] queries =
          .ok (gatherTexts (fun t => sortedTexts (heard t)) (addressPairs servers))) ∧
      ((∃ t ∈ polled, ¬IsPlainAnswer (heard t)) →
        ∃ stop, collect addAnswer [] queries = .error stop ∧
          ((∃ note, stop = .note note ∧ note.severity = .debug) ∨
            ∃ t ∈ polled, ∃ message, heard t = .crashed message ∧ stop = .broken message)) := by
  obtain ⟨polled, came, hpolledOnce, hpolled, hjournal, hcame, hanswered⟩ :=
    exists_answered h hs honce
  refine ⟨polled, hpolledOnce, hpolled, hjournal, fun hplain => ?_, fun ⟨t, ht, hnot⟩ => ?_⟩
  · obtain ⟨hperm, hcollect⟩ := hanswered.all_of_plain fun t ht => hplain t (hcame ht)
    exact ⟨(List.subperm_of_subset hpolledOnce hpolled).antisymm
      (hperm.symm.subperm.trans (List.subperm_of_subset hanswered.nodup hcame)), hcollect⟩
  · cases hcollect : collect addAnswer [] queries with
    | ok served =>
      -- then all answers were taken in, this one as well
      have hplain := hanswered.plain_of_ok hcollect
      have hmem := (hanswered.all_of_plain hplain).1.mem_iff.mpr (hpolled ht)
      exact absurd (hplain t hmem) hnot
    | error stop =>
      refine ⟨stop, rfl, (hanswered.of_error hcollect).imp_right ?_⟩
      rintro ⟨t, ht, hbroken⟩
      exact ⟨t, hcame ht, hbroken⟩

/-- **By the clock, every address is asked once.** -/
theorem queries_onTime
    {queries : Completions (serverQuestions challenge servers).length ServerAnswer}
    (h : (queryEndings challenge servers).EndsOnTime peers s (.returned queries) s')
    (hs : s.Alone past) :
    ∃ polled, polled.Perm (addressPairs servers) ∧
      s'.journal = askedAfter challenge s.journal polled := by
  obtain ⟨order, hperm, hjournal⟩ := h.polls hs (pollOf challenge servers) get_serverQuestions
  refine ⟨_, (hperm.map (serverAt challenge servers)).trans (.of_eq ?_),
    hjournal.trans (journalAfter_pollOf _ _)⟩
  exact List.ext_getElem (by simp [length_serverQuestions]) fun i _ _ => by simp [serverAt]

end Queries

end Check

end Rehearsal
