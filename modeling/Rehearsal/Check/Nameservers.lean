import Rehearsal.Check.Challenge

/-!
# Nameservers that disagree

Every address of every nameserver of the domain is asked directly for the challenge records. If two
of them serve different records, what the authority sees depends on which one it happens to ask.

Whatever keeps an answer away ends the comparison with a note, since a partial view proves nothing.
A part that breaks down is no note but a failure of the checker.
-/

namespace Rehearsal

namespace Check

/-- Why a comparison ends early. -/
inductive Stop where
  /-- An answer is missing, which is worth a note. -/
  | note (problem : Problem)
  /-- A part broke down. -/
  | broken (message : String)
  deriving DecidableEq, Repr

namespace Stop

/-- The verdict of a comparison that ends early. -/
def verdict : Stop → Verdict
  | note problem => .ok [problem]
  | broken message => .error (.crashed message)

end Stop

/-- The name of the findings about nameservers. -/
def nsOutOfSyncName : String := "NSOutOfSync"

/-- A note about nameservers. -/
def nsNote (explanation detail : String) : Problem := .debug nsOutOfSyncName explanation detail

/-! ### Keyed collections -/

/-- Puts a value under a key into a list that is sorted by distinct keys; `join` says what becomes
of a value that is there already. -/
def insertSorted {κ ν : Type} (compare : κ → κ → Ordering) (join : ν → ν → ν) (key : κ)
    (value : ν) : List (κ × ν) → List (κ × ν)
  | [] => [(key, value)]
  | (k, v) :: rest =>
    match compare key k with
    | .lt => (key, value) :: (k, v) :: rest
    | .eq => (k, join v value) :: rest
    | .gt => (k, v) :: insertSorted compare join key value rest

/-! ### Addresses of nameservers -/

/-- The hostnames that NS records name. -/
def hostnames (records : List Record) : List String :=
  records.filterMap fun r =>
    match r.data with
    | some (.ns target) => some (Domain.normalize target.render)
    | _ => none

/-- The addresses of one hostname under one type, or what kept them away. -/
structure HostAddresses where
  /-- The hostname. -/
  host : String
  /-- The addresses. -/
  result : Except String (List IpAddress)

/-- Nameservers with their addresses, sorted by name. -/
abbrev Nameservers := List (String × List IpAddress)

/-- Looks up the addresses of a hostname. -/
def lookUpHost (host : String) (type : RecordType) : Job HostAddresses := do
  match ← Job.lookup host type with
  | .ok records => return ⟨host, .ok (Record.addresses records)⟩
  | .error e => return ⟨host, .error s!"Error looking up {host} {type}: {e.message}"⟩

/-- Adds what one lookup of addresses ended with. -/
def addAddresses (known : Nameservers) (outcome : Outcome HostAddresses) :
    Except Stop Nameservers :=
  match outcome with
  | .crashed message => .error (.broken message)
  | .returned ⟨_, .error message⟩ =>
    .error (.note (nsNote "Error querying name server record" message))
  | .returned ⟨host, .ok addresses⟩ =>
    .ok (insertSorted compare (· ++ ·) host addresses known)

/-- The lookups for the addresses of hostnames: first all of one type, then all of the other. -/
def hostLookups (hosts : List String) : List (Job HostAddresses) :=
  hosts.map (lookUpHost · .a) ++ hosts.map (lookUpHost · .aaaa)

/-- Takes in what parts ended with, in the order in which they ended. -/
def collect {ι σ β : Type} (add : σ → Outcome β → Except Stop σ) (start : σ)
    (completions : List (ι × Outcome β)) : Except Stop σ :=
  completions.foldlM (fun known c => add known c.2) start

/-- Does the collection end early with these completions? -/
def stops {ι σ β : Type} (add : σ → Outcome β → Except Stop σ) (start : σ)
    (completions : List (ι × Outcome β)) : Bool :=
  match collect add start completions with
  | .ok _ => false
  | .error _ => true

/-- Runs parts side by side and takes in what they end with, until one of them stops it. -/
def collectAll {σ β : Type} (add : σ → Outcome β → Except Stop σ) (start : σ)
    (parts : List (Job β)) : Job (Except Stop σ) :=
  Job.race parts (stops add start) fun completions => .done (collect add start completions)

/-- The nameservers with their addresses, each list sorted. -/
def resolveNameservers (hosts : List String) : Job (Except Stop Nameservers) := do
  let found ← collectAll addAddresses [] (hostLookups hosts)
  return found.map fun servers => servers.map fun s => (s.1, s.2.mergeSort IpAddress.le)

/-! ### Answers of nameservers -/

/-- What one nameserver address serves, or what kept it away. -/
structure ServerAnswer where
  /-- The hostname. -/
  host : String
  /-- The address. -/
  address : IpAddress
  /-- The texts. -/
  result : Except String (List String)

/-- What is served, by hostname and address. -/
abbrev Served := List ((String × IpAddress) × List String)

/-- The texts in a record of an answer. -/
def servedStrings (challenge : String) (r : Record) : Except String (List String) :=
  match r.data with
  | some (.txt parts) => .ok (parts.map Text.decodeLossy)
  | some (.cname target) =>
    .error (s!"You are currently using an CNAME record on {Text.quoted challenge} -> " ++
      Text.quoted target.render ++
      ". This service does not support recursive CNAME queries.")
  | _ => .error s!"Invalid rrtype: {r.type}"

/-- The texts in an answer. -/
def answerStrings (challenge : String) (answer : DirectAnswer) : Except String (List String) :=
  if answer.code = .noError then
    (answer.records.mapM (servedStrings challenge)).map List.flatten
  else .error s!"Invalid rcode: {answer.code.text}"

/-- Asks one address of a nameserver. -/
def askServer (challenge host : String) (address : IpAddress) : Job ServerAnswer := do
  match ← Job.ask (.direct address challenge .txt) with
  | .ok answer => return ⟨host, address, answerStrings challenge answer⟩
  | .error e => return ⟨host, address, .error e.message⟩

/-- The order of hostnames and addresses. -/
def compareServers (a b : String × IpAddress) : Ordering :=
  (compare a.1 b.1).then
    (if a.2 = b.2 then .eq else if a.2.le b.2 then .lt else .gt)

/-- Adds what one address ended with. -/
def addAnswer (known : Served) (outcome : Outcome ServerAnswer) : Except Stop Served :=
  match outcome with
  | .crashed message => .error (.broken message)
  | .returned ⟨_, _, .error message⟩ =>
    .error (.note (nsNote "Error querying name server record for text record" message))
  | .returned ⟨host, address, .ok strings⟩ =>
    if known.any fun s => s.1 = (host, address) then
      .error (.note (nsNote "Duplicate IP returned for nameserver" host))
    else
      .ok (insertSorted compareServers (fun _ new => new) (host, address)
        (strings.mergeSort (· ≤ ·)) known)

/-- The questions to all addresses. -/
def serverQuestions (challenge : String) (servers : Nameservers) : List (Job ServerAnswer) :=
  servers.flatMap fun s => s.2.map (askServer challenge s.1)

/-! ### The verdict -/

/-- Two addresses serve different records. -/
def disagreement (a b : (String × IpAddress) × List String) : Problem :=
  ⟨nsOutOfSyncName, "Name servers have different TXT records",
    s!"Name server {a.1.1} ({a.1.2}) (records: " ++ ", ".intercalate a.2 ++
      s!") has different records to {b.1.1} ({b.1.2}) (records: " ++ ", ".intercalate b.2 ++ ")",
    .warning⟩

/-- No address serves any records. -/
def nothingServed (domain : String) (servers : Nameservers) : Problem :=
  let line (s : String × List IpAddress) : String :=
    s!"{s.1} (" ++ ",".intercalate (s.2.map IpAddress.render) ++ ")"
  nsNote "No TXT records for _acme-challenge"
    (s!"No listed nameservers on the domain {Text.quoted domain} have any TXT records for the " ++
      "_acme-challenge subdomain.\n" ++
      "This is not necessarily a problem as it could mean the acme client you are using to " ++
      "issue certificates is cleaning up after challenges, but may be worth noting if you are " ++
      "unable to issue certificates.\n" ++
      "Nameserver list:\n - " ++ "\n - ".intercalate (servers.map line))

/-- The verdict on what all addresses serve. -/
def compareServed (domain : String) (servers : Nameservers) (served : Served) : List Problem :=
  match served with
  | [] => [nothingServed domain servers]
  | first :: rest =>
    match rest.find? fun s => s.2 ≠ first.2 with
    | some other => [disagreement first other]
    | none => if first.2.isEmpty then [nothingServed domain servers] else []

/-- Do all nameservers serve the same challenge records? -/
def nsOutOfSync : Checker :=
  .forMethod "nsOutOfSync" .dns01 fun _ domain => do
    let domain := (Domain.stripWildcard domain).1
    match ← Job.lookup domain .ns with
    | .error e => return .ok [.lookupFailed domain "NS" e.message]
    | .ok records =>
      let hosts := hostnames records
      if hosts.isEmpty then
        return .ok [nsNote "No nameservers found"
          s!"No name server records were returned for the domain: {domain}"]
      match ← resolveNameservers hosts with
      | .error stop => return stop.verdict
      | .ok servers =>
        let questions := serverQuestions s!"{challengeName domain}." servers
        match ← collectAll addAnswer [] questions with
        | .error stop => return stop.verdict
        | .ok served => return .ok (compareServed domain servers served)

end Check

end Rehearsal
