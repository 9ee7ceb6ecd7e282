import Rehearsal.Proofs.Check.Collections

/-!
# What the comparison of nameservers comes to

When every question has a fixed answer, the comparison of nameservers can come to one thing only,
unless something makes it stop. It stops at the first answer that keeps it from going on: a lookup
for addresses that fails, a query that fails, or an address that a hostname has twice. If there are
several of these, time tells which one is first, and so it tells the text of the note.

Which of them is first does not matter to whether there is one. A comparison that goes through has
seen every answer, so that nothing can have been there to make another one stop.

## Main definitions

* `Check.StopCause`, `Check.StopsWith`: what makes the comparison stop, and its note
* `Check.gatherTexts`: the texts of addresses, in the order of the addresses

## Main results

* `Check.resolveNameservers_gives`: what the lookups for addresses come to
* `Check.collect_answers_eq_ok_iff`: when all answers of addresses are taken in
* `Check.serverQuestions_gives`: what the questions to addresses come to
* `Check.nsOutOfSync_gives`: what is found about nameservers
-/

namespace Rehearsal

namespace Check

variable {resolve : Resolution} {reply : Replies}

/-! ### What is found and what is not -/

/-- The lookups for the addresses of hostnames. -/
def hostQuestions (hosts : List String) : List (String × RecordType) :=
  hosts.map (·, .a) ++ hosts.map (·, .aaaa)

/-- The addresses that a lookup finds. -/
def addressesOf (resolve : Resolution) (q : String × RecordType) : List IpAddress :=
  Record.addresses (recordsOf (resolve (.ofName q.1 q.2)))

/-- The addresses of hostnames that lookups find, each with its hostname. -/
def foundAddresses (resolve : Resolution) (hosts : List String) : List (String × IpAddress) :=
  (hostQuestions hosts).flatMap fun q => (addressesOf resolve q).map (q.1, ·)

/-- What an address serves, or what keeps it away. -/
def textsAt (reply : Replies) (challenge : String) (address : IpAddress) :
    Except String (List String) :=
  match (reply (.direct address challenge .txt) : DirectOutcome) with
  | .ok answer => answerStrings challenge answer
  | .error e => .error e.message

/-- The note about a lookup that fails. -/
def lookupNote (q : String × RecordType) (e : LookupError) : Problem :=
  nsNote "Error querying name server record" s!"Error looking up {q.1} {q.2}: {e.message}"

/-- The note about a query that fails. -/
def queryNote (message : String) : Problem :=
  nsNote "Error querying name server record for text record" message

/-- The note about an address that a hostname has twice. -/
def repeatedNote (host : String) : Problem := nsNote "Duplicate IP returned for nameserver" host

/-- What makes the comparison of nameservers stop. -/
inductive StopCause where
  /-- A lookup for addresses of a hostname fails. -/
  | lookup (host : String) (type : RecordType)
  /-- A query to an address fails. -/
  | query (host : String) (address : IpAddress)
  /-- A hostname has an address twice. -/
  | repeated (host : String) (address : IpAddress)
  deriving DecidableEq, Repr

/-- The hostnames of the nameservers of a name. -/
def nameserversOf (resolve : Resolution) (name : String) : List String :=
  hostnames (recordsOf (resolve (.ofName name .ns)))

/-- All lookups for addresses of the nameservers of a name succeed. -/
def AllFound (resolve : Resolution) (name : String) : Prop :=
  ∀ q ∈ hostQuestions (nameserversOf resolve name), ¬IsError (resolve (.ofName q.1 q.2))

/-- The comparison of the nameservers of a name may stop for some cause with some note. -/
inductive StopsWith (resolve : Resolution) (reply : Replies) (name : String) :
    StopCause → Problem → Prop where
  | lookup {host : String} {type : RecordType} {e : LookupError}
    (hmem : (host, type) ∈ hostQuestions (nameserversOf resolve name))
    (hfails : resolve (.ofName host type) = .error e) :
    StopsWith resolve reply name (.lookup host type) (lookupNote (host, type) e)
  | query {host : String} {address : IpAddress} {message : String}
    (hfound : AllFound resolve name)
    (hmem : (host, address) ∈ foundAddresses resolve (nameserversOf resolve name))
    (hfails : textsAt reply s!"{challengeName name}." address = .error message) :
    StopsWith resolve reply name (.query host address) (queryNote message)
  | repeated {host : String} {address : IpAddress} {texts : List String}
    (hfound : AllFound resolve name)
    (htwice : 2 ≤ (foundAddresses resolve (nameserversOf resolve name)).count (host, address))
    (hserves : textsAt reply s!"{challengeName name}." address = .ok texts) :
    StopsWith resolve reply name (.repeated host address) (repeatedNote host)

section StopsWith

variable {name : String} {cause : StopCause} {note note' : Problem}

/-- A cause has one note. -/
theorem StopsWith.unique (h : StopsWith resolve reply name cause note)
    (h' : StopsWith resolve reply name cause note') : note = note' := by
  cases h with
  | lookup _ hfails =>
    cases h' with
    | lookup _ hfails' => rw [Except.error.inj (hfails.symm.trans hfails')]
  | query _ _ hfails =>
    cases h' with
    | query _ _ hfails' => rw [Except.error.inj (hfails.symm.trans hfails')]
  | repeated =>
    cases h' with
    | repeated => rfl

theorem StopsWith.eq_nsNote (h : StopsWith resolve reply name cause note) :
    ∃ explanation detail, note = nsNote explanation detail := by
  cases h <;> exact ⟨_, _, rfl⟩

/-- Nothing stops the comparison where there are no nameservers. -/
theorem not_stopsWith_of_nil (h : nameserversOf resolve name = []) :
    ¬StopsWith resolve reply name cause note := by
  intro hstops
  cases hstops with
  | lookup hmem => simp [h, hostQuestions] at hmem
  | query _ hmem => simp [h, hostQuestions, foundAddresses] at hmem
  | repeated _ htwice => simp [h, hostQuestions, foundAddresses] at htwice

/-- Nothing stops the comparison if every lookup and every query succeeds and no hostname has an
address twice. -/
theorem not_stopsWith (hfound : AllFound resolve name)
    (hserve : ∀ s ∈ foundAddresses resolve (nameserversOf resolve name),
      ∃ texts, textsAt reply s!"{challengeName name}." s.2 = .ok texts)
    (honce : (foundAddresses resolve (nameserversOf resolve name)).Nodup) :
    ¬StopsWith resolve reply name cause note := by
  intro hstops
  cases hstops with
  | lookup hmem hfails => exact hfound _ hmem ⟨_, hfails⟩
  | query _ hmem hfails =>
    obtain ⟨texts, htexts⟩ := hserve _ hmem
    rw [hfails] at htexts
    cases htexts
  | repeated _ htwice =>
    exact absurd (List.nodup_iff_count_le_one.mp honce _) (Nat.not_le.mpr htwice)

end StopsWith

/-! ### Addresses of nameservers -/

/-- What a lookup for addresses comes to. -/
def hostAnswer (resolve : Resolution) (q : String × RecordType) : HostAddresses :=
  match resolve (.ofName q.1 q.2) with
  | .ok records => ⟨q.1, .ok (Record.addresses records)⟩
  | .error e => ⟨q.1, .error s!"Error looking up {q.1} {q.2}: {e.message}"⟩

/-- The addresses that lookups find, by hostname. -/
def gatherAddresses (resolve : Resolution) (qs : List (String × RecordType)) : Nameservers :=
  qs.foldl (fun known q => insertSorted compare (· ++ ·) q.1 (addressesOf resolve q) known) []

/-- Each list of addresses is sorted. -/
def sortAddresses (servers : Nameservers) : Nameservers :=
  servers.map (Prod.map id (·.mergeSort IpAddress.le))

/-- Each address with its hostname. -/
def addressPairs (servers : Nameservers) : List (String × IpAddress) :=
  servers.flatMap fun s => s.2.map (s.1, ·)

theorem hostLookups_eq (hosts : List String) :
    hostLookups hosts = (hostQuestions hosts).map fun q => lookUpHost q.1 q.2 := by
  rw [hostLookups, hostQuestions, List.map_append, List.map_map, List.map_map]
  rfl

theorem lookUpHost_settles (q : String × RecordType) :
    (lookUpHost q.1 q.2).Settles (.fixed resolve reply) (.returned (hostAnswer resolve q)) := by
  refine Job.settles_lookup_bind rfl ?_
  unfold hostAnswer
  cases resolve (.ofName q.1 q.2) <;> exact Job.settles_done _

/-- Sorted addresses do not tell in which order lookups came back. -/
theorem sortAddresses_gather_of_perm {qs qs' : List (String × RecordType)} (h : qs.Perm qs') :
    sortAddresses (gatherAddresses resolve qs) = sortAddresses (gatherAddresses resolve qs') := by
  let sorted : List IpAddress → List IpAddress := (·.mergeSort IpAddress.le)
  let join (x y : List IpAddress) : List IpAddress := sorted (x ++ y)
  have hsorted (l : List IpAddress) : (sorted l).Perm l := List.mergeSort_perm l _
  have hjoin (x y : List IpAddress) : sorted (x ++ y) = join (sorted x) (sorted y) :=
    IpAddress.mergeSort_eq_of_perm ((hsorted x).append (hsorted y)).symm
  have hsort (qs : List (String × RecordType)) : sortAddresses (gatherAddresses resolve qs) =
      qs.foldl (fun known q => insertSorted compare join q.1 (sorted (addressesOf resolve q)) known)
        [] :=
    (List.foldl_hom sortAddresses fun _ _ => (map_insertSorted hjoin _).symm).symm
  rw [hsort, hsort]
  refine h.foldl_eq' (fun x _ y _ known => ?_) []
  refine (insertSorted_comm (fun _ => ⟨?_, fun z => ?_⟩) known).symm
  · exact IpAddress.mergeSort_eq_of_perm List.perm_append_comm
  · refine IpAddress.mergeSort_eq_of_perm ?_
    refine ((hsorted _).append_right _).trans (.trans ?_ ((hsorted _).append_right _).symm)
    rw [List.append_assoc, List.append_assoc]
    exact List.perm_append_comm.append_left z

theorem addressPairs_insertSorted (host : String) (addresses : List IpAddress)
    (known : Nameservers) :
    (addressPairs (insertSorted compare (· ++ ·) host addresses known)).Perm
      (addressPairs known ++ addresses.map (host, ·)) := by
  induction known with
  | nil => simp [addressPairs, insertSorted]
  | cons head known ih =>
    obtain ⟨name, others⟩ := head
    cases h : compare host name with
    | lt =>
      simp only [insertSorted, h]
      exact List.perm_append_comm
    | eq =>
      obtain rfl := Std.LawfulEqCmp.eq_of_compare h
      simp only [insertSorted, h, addressPairs, List.flatMap_cons, List.map_append,
        List.append_assoc]
      exact List.perm_append_comm.append_left _
    | gt =>
      simp only [insertSorted, h, addressPairs, List.flatMap_cons, List.append_assoc]
      exact ih.append_left _

theorem addressPairs_gather (qs : List (String × RecordType)) :
    (addressPairs (gatherAddresses resolve qs)).Perm
      (qs.flatMap fun q => (addressesOf resolve q).map (q.1, ·)) := by
  induction qs using List.reverseRecOn with
  | nil => exact .refl _
  | append_singleton qs q ih =>
    rw [gatherAddresses, List.foldl_concat, List.flatMap_append, List.flatMap_singleton]
    exact (addressPairs_insertSorted _ _ _).trans (ih.append_right _)

theorem addressPairs_sort (servers : Nameservers) :
    (addressPairs (sortAddresses servers)).Perm (addressPairs servers) := by
  rw [addressPairs, sortAddresses, List.flatMap_map]
  exact List.Perm.flatMap_left _ fun s _ => (List.mergeSort_perm s.2 _).map _

/-- The nameservers with their addresses, if no lookup fails. -/
def serversOf (resolve : Resolution) (hosts : List String) : Nameservers :=
  sortAddresses (gatherAddresses resolve (hostQuestions hosts))

theorem addressPairs_serversOf (hosts : List String) :
    (addressPairs (serversOf resolve hosts)).Perm (foundAddresses resolve hosts) :=
  (addressPairs_sort _).trans (addressPairs_gather _)

theorem addAddresses_error {known : Nameservers} {q : String × RecordType} {stop : Stop}
    (h : addAddresses known (.returned (hostAnswer resolve q)) = .error stop) :
    ∃ e, resolve (.ofName q.1 q.2) = .error e ∧ stop = .note (lookupNote q e) := by
  unfold hostAnswer at h
  split at h
  · cases h
  next e he => exact ⟨e, he, (Except.error.inj h).symm⟩

theorem addAddresses_ok {known next : Nameservers} {q : String × RecordType}
    (h : addAddresses known (.returned (hostAnswer resolve q)) = .ok next) :
    ¬IsError (resolve (.ofName q.1 q.2)) ∧
      next = insertSorted compare (· ++ ·) q.1 (addressesOf resolve q) known := by
  unfold hostAnswer at h
  split at h
  next records hrecords =>
    rw [addressesOf, hrecords]
    exact ⟨not_isError_ok records, (Except.ok.inj h).symm⟩
  · cases h

theorem collect_addresses_ok {came : List (String × RecordType)} {servers : Nameservers}
    (h : collect addAddresses [] (cameTo (hostAnswer resolve) came) = .ok servers) :
    (∀ q ∈ came, ¬IsError (resolve (.ofName q.1 q.2))) ∧
      servers = gatherAddresses resolve came := by
  induction came using List.reverseRecOn generalizing servers with
  | nil => exact ⟨fun _ hq => absurd hq List.not_mem_nil, (Except.ok.inj h).symm⟩
  | append_singleton came q ih =>
    rw [cameTo, List.map_append, List.map_singleton] at h
    obtain ⟨known, hknown, hadd⟩ := collect_concat_ok.mp h
    obtain ⟨hall, rfl⟩ := ih hknown
    obtain ⟨hq, rfl⟩ := addAddresses_ok hadd
    refine ⟨List.forall_mem_append.mpr ⟨hall, List.forall_mem_singleton.mpr hq⟩, ?_⟩
    rw [gatherAddresses, gatherAddresses, List.foldl_concat]

/-- **What the lookups for addresses come to**: a note if one of them fails, or all addresses. -/
theorem resolveNameservers_gives {name : String} {o : Outcome (Except Stop Nameservers)}
    (h : (resolveNameservers (nameserversOf resolve name)).Gives (.fixed resolve reply) o) :
    ∃ found, o = .returned found ∧
      ((∃ cause note, StopsWith resolve reply name cause note ∧ found = .error (.note note)) ∨
        AllFound resolve name ∧ found = .ok (serversOf resolve (nameserversOf resolve name))) := by
  unfold resolveNameservers at h
  rw [hostLookups_eq] at h
  obtain ⟨found, ⟨came, hsub, hfound, hall⟩, hend⟩ := Job.Gives.of_bind_returns h fun _ =>
    gives_collectAll lookUpHost_settles
  refine ⟨_, hend.of_done, ?_⟩
  cases found with
  | error stop =>
    obtain ⟨front, c, back, known, hsplit, -, hadd⟩ := exists_split_of_collect hfound.symm
    obtain ⟨⟨host, type⟩, hq, rfl⟩ :=
      List.mem_map.mp (hsplit ▸ List.mem_append_right front List.mem_cons_self)
    obtain ⟨e, he, rfl⟩ := addAddresses_error hadd
    exact .inl ⟨_, _, .lookup (hsub.subset hq) he, rfl⟩
  | ok servers =>
    obtain ⟨hnone, rfl⟩ := collect_addresses_ok hfound.symm
    have hperm := hall _ rfl
    refine .inr ⟨fun q hq => hnone q (hperm.mem_iff.mpr hq), ?_⟩
    exact congrArg Except.ok (sortAddresses_gather_of_perm hperm)

/-! ### Answers of nameservers -/

section Served

variable {challenge : String} {s : String × IpAddress} {pairs : List (String × IpAddress)}

/-- What a question to an address comes to. -/
def serverAnswer (reply : Replies) (challenge : String) (s : String × IpAddress) : ServerAnswer :=
  ⟨s.1, s.2, textsAt reply challenge s.2⟩

/-- What addresses serve, by hostname and address. -/
def gatherTexts (texts : String × IpAddress → List String) (pairs : List (String × IpAddress)) :
    Served :=
  gathered compareServers (fun _ new => new) (fun s => s) texts pairs

section Gathered

variable {texts : String × IpAddress → List String}

/-- What addresses serve does not tell in which order they answered. -/
theorem gatherTexts_of_perm {pairs' : List (String × IpAddress)} (h : pairs.Perm pairs') :
    gatherTexts texts pairs = gatherTexts texts pairs' := by
  refine h.foldl_eq' (fun x _ y _ known => ?_) []
  by_cases hxy : x = y
  · rw [hxy]
  · exact insertSorted_comm (fun hyx => absurd hyx.symm hxy) known

theorem gatherTexts_congr {texts' : String × IpAddress → List String}
    (h : ∀ s ∈ pairs, texts s = texts' s) : gatherTexts texts pairs = gatherTexts texts' pairs :=
  List.foldl_ext _ _ _ fun known s hs => by rw [h s hs]

theorem gatherTexts_concat (s : String × IpAddress) : gatherTexts texts (pairs ++ [s]) =
    insertSorted compareServers (fun _ new => new) s (texts s) (gatherTexts texts pairs) :=
  gathered_concat s

theorem mem_keys_gatherTexts : s ∈ (gatherTexts texts pairs).map Prod.fst ↔ s ∈ pairs :=
  mem_keys_gathered.trans (by rw [List.map_id'])

theorem eq_of_mem_gatherTexts {e : (String × IpAddress) × List String}
    (h : e ∈ gatherTexts texts pairs) : e.2 = texts e.1 := by
  induction pairs using List.reverseRecOn with
  | nil => cases h
  | append_singleton pairs s ih =>
    rw [gatherTexts_concat] at h
    rcases mem_insertSorted h with rfl | h
    · rfl
    · exact ih h

/-- What is kept are the texts of each address. -/
theorem mem_gatherTexts {e : (String × IpAddress) × List String} :
    e ∈ gatherTexts texts pairs ↔ e.1 ∈ pairs ∧ e.2 = texts e.1 := by
  constructor
  · exact fun h => ⟨mem_keys_gatherTexts.mp (List.mem_map_of_mem h), eq_of_mem_gatherTexts h⟩
  · rintro ⟨hmem, htexts⟩
    obtain ⟨e', he', hkey⟩ := List.mem_map.mp (mem_keys_gatherTexts.mpr hmem)
    have heq : e = e' := Prod.ext hkey.symm (by rw [htexts, eq_of_mem_gatherTexts he', hkey])
    exact heq ▸ he'

theorem isSortedBy_gatherTexts (texts : String × IpAddress → List String)
    (pairs : List (String × IpAddress)) :
    IsSortedBy compareServers (gatherTexts texts pairs) :=
  isSortedBy_gathered

end Gathered

/-- What is kept of what an address ended with. -/
def keptTexts (result : Outcome (Except String (List String))) : List String :=
  ((result.value?.bind Except.toOption).getD []).mergeSort (· ≤ ·)

/-- An answer is taken in if there are texts and the address has not come before. -/
theorem addAnswer_eq_ok_iff {known next : Served} {result : Outcome (Except String (List String))} :
    addAnswer known (result.map (ServerAnswer.mk s.1 s.2)) = .ok next ↔
      (∃ texts, result = .returned (.ok texts)) ∧ s ∉ known.map Prod.fst ∧
        next = insertSorted compareServers (fun _ new => new) s (keptTexts result) known := by
  have hany : (known.any fun t => t.1 = s) = true ↔ s ∈ known.map Prod.fst := by
    simp only [List.any_eq_true, decide_eq_true_eq, List.mem_map]
  cases result with
  | crashed message => exact iff_of_false (fun h => by cases h) (by simp)
  | returned result =>
    cases result with
    | error message => exact iff_of_false (fun h => by cases h) (by simp)
    | ok texts =>
      rw [Outcome.map, addAnswer, ← hany]
      split
      next hcame => exact iff_of_false (fun h => by cases h) fun h => h.2.1 hcame
      next hnew =>
        refine ⟨fun h => ⟨⟨texts, rfl⟩, hnew, (Except.ok.inj h).symm⟩, fun h => ?_⟩
        exact congrArg Except.ok h.2.2.symm

/-- **All answers are taken in** if there are texts of every address and none comes twice. -/
theorem collect_answers_eq_ok_iff {ι : Type} {served : Served}
    {result : String × IpAddress → Outcome (Except String (List String))}
    {completions : List (ι × Outcome ServerAnswer)}
    (hcame : completions.map Prod.snd = pairs.map fun s => (result s).map (.mk s.1 s.2)) :
    collect addAnswer [] completions = .ok served ↔
      (∀ s ∈ pairs, ∃ texts, result s = .returned (.ok texts)) ∧ pairs.Nodup ∧
        served = gatherTexts (fun s => keptTexts (result s)) pairs := by
  have hsame : collect addAnswer [] completions =
      collect addAnswer [] (pairs.map fun s => (s, (result s).map (.mk s.1 s.2))) := by
    rw [collect_eq_foldlM, collect_eq_foldlM, hcame, List.map_map]
    rfl
  rw [hsame]
  clear hcame hsame
  induction pairs using List.reverseRecOn generalizing served with
  | nil => simp [collect, gatherTexts, gathered, pure, Except.pure, eq_comm]
  | append_singleton pairs s ih =>
    rw [List.map_append, List.map_singleton, collect_concat_ok, gatherTexts_concat,
      List.nodup_append_comm, List.singleton_append, List.nodup_cons, List.forall_mem_append,
      List.forall_mem_singleton]
    constructor
    · rintro ⟨known, hknown, hadd⟩
      obtain ⟨hall, honce, rfl⟩ := ih.mp hknown
      obtain ⟨hs, hnew, rfl⟩ := addAnswer_eq_ok_iff.mp hadd
      exact ⟨⟨hall, hs⟩, ⟨mt mem_keys_gatherTexts.mpr hnew, honce⟩, rfl⟩
    · rintro ⟨⟨hall, hs⟩, ⟨hnew, honce⟩, rfl⟩
      exact ⟨_, ih.mpr ⟨hall, honce, rfl⟩,
        addAnswer_eq_ok_iff.mpr ⟨hs, mt mem_keys_gatherTexts.mp hnew, rfl⟩⟩

/-- What is kept of what an address serves. -/
def keptAt (reply : Replies) (challenge : String) (s : String × IpAddress) : List String :=
  keptTexts (.returned (textsAt reply challenge s.2))

theorem serverQuestions_eq (servers : Nameservers) : serverQuestions challenge servers =
    (addressPairs servers).map fun s => askServer challenge s.1 s.2 := by
  rw [serverQuestions, addressPairs, List.map_flatMap]
  simp only [List.map_map]
  rfl

theorem askServer_settles (s : String × IpAddress) :
    (askServer challenge s.1 s.2).Settles (.fixed resolve reply)
      (.returned (serverAnswer reply challenge s)) := by
  refine Job.settles_ask_bind ?_
  unfold serverAnswer textsAt
  cases (reply (.direct s.2 challenge .txt) : DirectOutcome) <;> exact Job.settles_done _

theorem addAnswer_error {known : Served} {stop : Stop}
    (h : addAnswer known (.returned (serverAnswer reply challenge s)) = .error stop) :
    (∃ message, textsAt reply challenge s.2 = .error message ∧ stop = .note (queryNote message)) ∨
      (∃ texts, textsAt reply challenge s.2 = .ok texts) ∧ s ∈ known.map Prod.fst ∧
        stop = .note (repeatedNote s.1) := by
  unfold serverAnswer at h
  cases htexts : textsAt reply challenge s.2 with
  | error message =>
    rw [htexts] at h
    exact .inl ⟨message, rfl, (Except.error.inj h).symm⟩
  | ok texts =>
    rw [htexts] at h
    unfold addAnswer at h
    dsimp only at h
    split at h
    next hany =>
      obtain ⟨t, ht, heq⟩ := List.any_eq_true.mp hany
      rw [decide_eq_true_eq] at heq
      exact .inr ⟨⟨texts, rfl⟩, List.mem_map.mpr ⟨t, ht, heq⟩, (Except.error.inj h).symm⟩
    next => cases h

theorem collect_served_ok {came : List (String × IpAddress)} {served : Served}
    (h : collect addAnswer [] (cameTo (serverAnswer reply challenge) came) = .ok served) :
    (∀ s ∈ came, ∃ texts, textsAt reply challenge s.2 = .ok texts) ∧ came.Nodup ∧
      served = gatherTexts (keptAt reply challenge) came := by
  have hcame : (cameTo (serverAnswer reply challenge) came).map Prod.snd = came.map fun s =>
      (Outcome.returned (textsAt reply challenge s.2)).map (.mk s.1 s.2) := by
    rw [cameTo, List.map_map]
    rfl
  obtain ⟨hall, honce, rfl⟩ := (collect_answers_eq_ok_iff hcame).mp h
  exact ⟨fun s hs => (hall s hs).imp fun texts htexts => Outcome.returned.inj htexts, honce, rfl⟩

/-- **What the questions to addresses come to**: a note if one of them fails or an address comes
twice, or all that is served, and then nothing else could have stopped the comparison either. -/
theorem serverQuestions_gives {name : String} {o : Outcome (Except Stop Served)}
    (hfound : AllFound resolve name)
    (h : (collectAll addAnswer [] (serverQuestions s!"{challengeName name}."
      (serversOf resolve (nameserversOf resolve name)))).Gives (.fixed resolve reply) o) :
    ∃ answers, o = .returned answers ∧
      ((∃ cause note, StopsWith resolve reply name cause note ∧ answers = .error (.note note)) ∨
        (∀ cause note, ¬StopsWith resolve reply name cause note) ∧
          answers = .ok (gatherTexts (keptAt reply s!"{challengeName name}.")
            (addressPairs (serversOf resolve (nameserversOf resolve name))))) := by
  have hpairs : (addressPairs (serversOf resolve (nameserversOf resolve name))).Perm
      (foundAddresses resolve (nameserversOf resolve name)) := addressPairs_serversOf _
  rw [serverQuestions_eq] at h
  obtain ⟨answers, rfl, came, hsub, hanswers, hall⟩ := gives_collectAll askServer_settles h
  refine ⟨_, rfl, ?_⟩
  cases answers with
  | error stop =>
    obtain ⟨front, c, back, known, hsplit, hfront, hadd⟩ := exists_split_of_collect hanswers.symm
    obtain ⟨before, rest, rfl, rfl, hrest⟩ := List.map_eq_append_iff.mp hsplit
    obtain ⟨⟨host, address⟩, after, rfl, rfl, -⟩ := List.map_eq_cons_iff.mp hrest
    have hcame := hsub.trans hpairs.subperm
    rcases addAnswer_error hadd with ⟨message, hmessage, rfl⟩ | ⟨⟨texts, htexts⟩, hknown, rfl⟩
    · have hmem := hcame.subset (List.mem_append_right before List.mem_cons_self)
      exact .inl ⟨_, _, .query hfound hmem hmessage, rfl⟩
    · -- the address has come before, and so it comes twice
      obtain ⟨-, -, rfl⟩ := collect_served_ok hfront
      have hbefore := List.count_pos_iff.mpr (mem_keys_gatherTexts.mp hknown)
      have htwice : 2 ≤ (foundAddresses resolve (nameserversOf resolve name)).count
          (host, address) := by
        refine Nat.le_trans ?_ (hcame.count_le (host, address))
        rw [List.count_append, List.count_cons_self]
        omega
      exact .inl ⟨_, _, .repeated hfound htwice htexts, rfl⟩
  | ok served =>
    obtain ⟨hserve, honce, rfl⟩ := collect_served_ok hanswers.symm
    have hperm := hall _ rfl
    have hcame := hperm.trans hpairs
    refine .inr ⟨fun cause note => not_stopsWith hfound (fun s hs => ?_) ?_, ?_⟩
    · exact hserve s (hcame.mem_iff.mpr hs)
    · exact hcame.nodup_iff.mp honce
    · rw [gatherTexts_of_perm hperm]

end Served

/-! ### The comparison -/

/-- **What is found where there are nameservers**: the verdict on what they serve if nothing stops
the comparison, and otherwise the note of something that does. -/
theorem nsOutOfSync_compares {context : ScanContext} {domain : String} {o : Outcome Verdict}
    (hsome : nameserversOf resolve (Domain.stripWildcard domain).1 ≠ [])
    (h : (nsOutOfSync.check context domain .dns01).Gives (.fixed resolve reply) o) :
    let name := (Domain.stripWildcard domain).1
    let servers := serversOf resolve (nameserversOf resolve name)
    (o = .returned (.ok (compareServed name servers
        (gatherTexts (keptAt reply s!"{challengeName name}.") (addressPairs servers)))) ∧
      ∀ cause note, ¬StopsWith resolve reply name cause note) ∨
    ∃ cause note, StopsWith resolve reply name cause note ∧ o = .returned (.ok [note]) := by
  intro name servers
  cases hns : resolve (.ofName name .ns) with
  | error e => exact absurd (by rw [nameserversOf, hns]; rfl) hsome
  | ok records =>
    have hhosts : hostnames records = nameserversOf resolve name := by rw [nameserversOf, hns]; rfl
    replace h := Job.gives_lookup_bind_fixed hns h
    dsimp only at h
    rw [hhosts, if_neg (mt List.isEmpty_iff.mp hsome)] at h
    obtain ⟨found, hfound, h⟩ := Job.Gives.of_bind_returns h fun _ => resolveNameservers_gives
    rcases hfound with ⟨cause, note, hstops, rfl⟩ | ⟨hall, rfl⟩
    · exact .inr ⟨cause, note, hstops, h.of_done⟩
    obtain ⟨answers, hanswers, h⟩ :=
      Job.Gives.of_bind_returns h fun _ => serverQuestions_gives hall
    rcases hanswers with ⟨cause, note, hstops, rfl⟩ | ⟨hnone, rfl⟩
    · exact .inr ⟨cause, note, hstops, h.of_done⟩
    · exact .inl ⟨h.of_done, hnone⟩

/-- **What is found about nameservers**: one thing if nothing stops the comparison, and otherwise
the note of something that does. -/
theorem nsOutOfSync_gives (resolve : Resolution) (reply : Replies) (context : ScanContext)
    (domain : String) :
    ∃ problems, ∀ o, (nsOutOfSync.check context domain .dns01).Gives (.fixed resolve reply) o →
      (o = .returned (.ok problems) ∧
          ∀ cause note, ¬StopsWith resolve reply (Domain.stripWildcard domain).1 cause note) ∨
        ∃ cause note, StopsWith resolve reply (Domain.stripWildcard domain).1 cause note ∧
          o = .returned (.ok [note]) := by
  let name := (Domain.stripWildcard domain).1
  cases hns : resolve (.ofName name .ns) with
  | error e =>
    refine ⟨_, fun o hgive => .inl ⟨(Job.gives_lookup_bind_fixed hns hgive).of_done, ?_⟩⟩
    exact fun cause note => not_stopsWith_of_nil (by rw [nameserversOf, hns]; rfl)
  | ok records =>
    have hhosts : hostnames records = nameserversOf resolve name := by rw [nameserversOf, hns]; rfl
    by_cases hempty : (nameserversOf resolve name).isEmpty = true
    · refine ⟨[nsNote "No nameservers found"
        s!"No name server records were returned for the domain: {name}"], fun o hgive =>
          .inl ⟨?_, fun cause note => not_stopsWith_of_nil (List.isEmpty_iff.mp hempty)⟩⟩
      replace hgive := Job.gives_lookup_bind_fixed hns hgive
      dsimp only at hgive
      rw [hhosts, if_pos hempty] at hgive
      exact hgive.of_done
    · exact ⟨_, fun o hgive => nsOutOfSync_compares (mt List.isEmpty_iff.mpr hempty) hgive⟩

end Check

end Rehearsal
