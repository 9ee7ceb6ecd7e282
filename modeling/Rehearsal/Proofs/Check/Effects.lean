import Rehearsal.Proofs.Job.Effects
import Rehearsal.Scan.Engine

/-!
# What checkers do to the outside

Checkers differ in how far they reach out. Some ask nothing, the one for permission to issue looks
up CAA records and nothing else, and emulated validation requests are sent by one checker alone. An
emulated request is told by its connection, which takes any certificate; no other request does.

## Main definitions

* `Event.Reaches`, `Event.ReachesPastCaa`, `Event.IsProbe`: how far an event reaches out

## Main results

* `Check.caa_only`: looking for permission to issue does not reach past CAA records
* `Check.standardBlock_only`, `Check.cloudflare_only`, `Check.statusPage_only`: no emulated requests
-/

namespace Rehearsal

namespace Event

/-- Something outside is asked: the resolver, or anybody else. -/
def Reaches : Event → Prop
  | called _ => True
  | asked _ => True
  | _ => False

/-- Something outside is asked other than for CAA records. -/
def ReachesPastCaa : Event → Prop
  | called key => key.type ≠ .caa
  | asked _ => True
  | _ => False

/-- An emulated validation request is sent. -/
def IsProbe : Event → Prop
  | asked (.exchange connection _) => connection.lenient = true
  | _ => False

theorem IsProbe.reachesPastCaa {e : Event} (h : e.IsProbe) : e.ReachesPastCaa := by
  cases e with
  | asked => exact trivial
  | called | settled | logged => cases h

end Event

namespace Check

variable {w : World} {P : Event → Prop} (context : ScanContext) (domain : String) (method : Method)

theorem forMethod_only {name : String} {concerned : Method}
    {check : ScanContext → String → Job Verdict} (h : (check context domain).Only w P) :
    ((Checker.forMethod name concerned check).check context domain method).Only w P := by
  unfold Checker.forMethod
  dsimp only
  split
  · exact h
  · exact Job.only_done _

/-! ### Permission to issue -/

theorem walkCaa_only (wildcard : Bool) (names : List String) :
    (walkCaa wildcard names).Only w fun e => ¬e.ReachesPastCaa := by
  induction names with
  | nil => exact Job.only_done _
  | cons name names ih =>
    refine Job.only_lookup_bind (fun h => h rfl) fun outcome _ => ⟨id, ?_⟩
    cases outcome with
    | error e => exact Job.only_done _
    | ok records =>
      dsimp only
      split
      · exact Job.only_crash _
      · exact ih
      · exact Job.only_done _

theorem caa_only (suffixes : List Domain.SuffixRule) :
    ((caaBy suffixes).check context domain method).Only w fun e => ¬e.ReachesPastCaa :=
  walkCaa_only _ _

/-! ### The challenge record, addresses and nameservers -/

theorem lookup_only (name : String) (type : RecordType) :
    (Job.lookup name type).Only w fun e => ¬e.IsProbe :=
  Job.only_lookup id fun _ => id

theorem dnsA_only : (dnsA.check context domain method).Only w fun e => ¬e.IsProbe := by
  refine forMethod_only context domain method
    ((Job.only_all fun job hjob => ?_).bind fun answers _ => ?_)
  · rcases List.mem_pair.mp hjob with rfl | rfl <;> exact lookup_only _ _
  · split
    · split <;> first | exact Job.only_done _ | exact Job.only_crash _
    · exact Job.only_done _

theorem txtRecord_only : (txtRecord.check context domain method).Only w fun e => ¬e.IsProbe := by
  refine forMethod_only context domain method (Job.only_lookup_bind id fun outcome _ => ⟨id, ?_⟩)
  cases outcome <;> exact Job.only_done _

theorem txtDoubledLabel_only (suffixes : List Domain.SuffixRule) :
    ((txtDoubledLabelBy suffixes).check context domain method).Only w fun e => ¬e.IsProbe := by
  refine forMethod_only context domain method (Job.only_ask_bind id fun drawn => ?_)
  refine (Job.only_all fun job hjob => ?_).bind fun outcomes _ => Job.only_done _
  obtain ⟨name, -, rfl⟩ := List.mem_map.mp hjob
  exact lookup_only _ _

theorem collectAll_only {σ β : Type} {add : σ → Outcome β → Except Stop σ} {start : σ}
    {parts : List (Job β)} (h : ∀ part ∈ parts, part.Only w P) :
    (collectAll add start parts).Only w P :=
  Job.only_race h fun _ => Job.only_done _

theorem lookUpHost_only (host : String) (type : RecordType) :
    (lookUpHost host type).Only w fun e => ¬e.IsProbe := by
  refine Job.only_lookup_bind id fun outcome _ => ⟨id, ?_⟩
  cases outcome <;> exact Job.only_done _

theorem askServer_only (challenge host : String) (address : IpAddress) :
    (askServer challenge host address).Only w fun e => ¬e.IsProbe := by
  refine Job.only_ask_bind id fun answer => ?_
  cases answer <;> exact Job.only_done _

theorem nsOutOfSync_only :
    (nsOutOfSync.check context domain method).Only w fun e => ¬e.IsProbe := by
  refine forMethod_only context domain method (Job.only_lookup_bind id fun outcome _ => ⟨id, ?_⟩)
  cases outcome with
  | error e => exact Job.only_done _
  | ok records =>
    dsimp only
    split
    · exact Job.only_done _
    · refine Job.Only.bind ((collectAll_only fun part hpart => ?_).bind fun _ _ => Job.only_done _)
        fun found _ => ?_
      · rcases List.mem_append.mp hpart with hpart | hpart <;>
          obtain ⟨host, -, rfl⟩ := List.mem_map.mp hpart <;> exact lookUpHost_only _ _
      · cases found with
        | error stop => exact Job.only_done _
        | ok servers =>
          refine (collectAll_only fun part hpart => ?_).bind fun served _ => ?_
          · obtain ⟨server, -, hpart⟩ := List.mem_flatMap.mp hpart
            obtain ⟨address, -, rfl⟩ := List.mem_map.mp hpart
            exact askServer_only _ _ _
          · cases served <;> exact Job.only_done _

/-! ### Checkers side by side -/

theorem block_only {members : List Checker}
    (h : ∀ c ∈ members, (c.check context domain method).Only w P) :
    ((block members).check context domain method).Only w P :=
  Job.only_fork (fun i => h _ (List.get_mem members i)) fun _ => Job.only_done _

/-- The checkers that run side by side in an ordinary scan. -/
abbrev standardMembers (suffixes : List Domain.SuffixRule) : List Checker :=
  [dnsA, txtRecord, txtDoubledLabelBy suffixes, nsOutOfSync]

theorem standardBlock_only (suffixes : List Domain.SuffixRule) :
    ((block (standardMembers suffixes)).check context domain method).Only w
      fun e => ¬e.IsProbe := by
  refine block_only context domain method fun c hc => ?_
  simp only [List.mem_cons, List.not_mem_nil, or_false] at hc
  rcases hc with rfl | rfl | rfl | rfl
  · exact dnsA_only context domain method
  · exact txtRecord_only context domain method
  · exact txtDoubledLabel_only context domain method suffixes
  · exact nsOutOfSync_only context domain method

/-! ### Ordinary requests -/

theorem addressOf_only (host : UrlHost) :
    (Client.addressOf host).Only w fun e => ¬e.IsProbe := by
  cases host with
  | v4 | v6 => exact Job.only_done _
  | name host => exact Job.only_ask_bind id fun addresses => Job.only_done _

theorem clientVisit_only (follow : Bool) (left : Nat) (url : Url) :
    (Client.visit follow left url).Only w fun e => ¬e.IsProbe := by
  induction left generalizing url with
  | zero =>
    rw [Client.visit]
    split
    · exact Job.only_done _
    · refine (addressOf_only _).bind fun address _ => ?_
      cases address with
      | none => exact Job.only_done _
      | some address =>
        refine Job.only_ask_bind Bool.false_ne_true fun answer => ?_
        cases answer with
        | error fault => exact Job.only_done _
        | ok response =>
          dsimp only
          split <;> exact Job.only_done _
  | succ left ih =>
    rw [Client.visit]
    split
    · exact Job.only_done _
    · refine (addressOf_only _).bind fun address _ => ?_
      cases address with
      | none => exact Job.only_done _
      | some address =>
        refine Job.only_ask_bind Bool.false_ne_true fun answer => ?_
        cases answer with
        | error fault => exact Job.only_done _
        | ok response =>
          dsimp only
          split
          · exact Job.only_done _
          · split
            · exact ih _
            · exact Job.only_done _

theorem get_only (follow : Bool) (text : String) :
    (Client.get follow text).Only w fun e => ¬e.IsProbe := by
  unfold Client.get
  split
  · exact Job.only_done _
  · exact clientVisit_only _ _ _

theorem cloudflare_only : (cloudflare.check context domain method).Only w fun e => ¬e.IsProbe := by
  unfold cloudflare
  dsimp only
  refine (get_only true s!"https://{(Domain.stripWildcard domain).1}").bind fun secure _ => ?_
  cases secure with
  | some r => exact Job.only_done _
  | none =>
    refine (get_only false _).bind fun plain _ => ?_
    cases plain <;> exact Job.only_done _

theorem statusPageAt_only (url : String) :
    ((statusPageAt url).check context domain method).Only w fun e => ¬e.IsProbe := by
  refine (get_only true url).bind fun page _ => ?_
  split <;> exact Job.only_done _

theorem statusPage_only : (statusPage.check context domain method).Only w fun e => ¬e.IsProbe :=
  statusPageAt_only context domain method statusApiUrl

end Check

end Rehearsal
