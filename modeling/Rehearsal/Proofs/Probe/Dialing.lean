import Rehearsal.Probe.Run
import Rehearsal.Proofs.Job.Calm
import Rehearsal.Proofs.Job.Effects
import Rehearsal.Proofs.Job.Sequence

/-!
# Where requests go

Before a URL is requested it is settled where the request goes. The domain under test is pinned to
the address that is probed; a host that is written as an address is that address; for any other host
the records of two types are asked for one after the other, and one of the addresses is drawn.

## Main definitions

* `Event.IsRequest`: a request is sent
* `Probe.Reachable`: a URL has a place, as far as a table of lookups tells

## Main results

* `Probe.dial_straight`, `Probe.dial_only`: this takes one step after another, and nothing is
  requested on the way
* `Probe.dial_pinned`: the domain under test is reached where it is pinned
* `Probe.dial_returns`: where nothing breaks down, the place of what is reachable is found
-/

namespace Rehearsal

/-- A request is sent. -/
def Event.IsRequest : Event → Prop
  | .asked (.exchange ..) => True
  | _ => False

namespace Probe

variable {w : World} {resolve : Resolution}

/-! ### One step after another -/

theorem pick_straight (records : List Record) : (pick records).Straight := by
  unfold pick
  split
  · exact trivial
  · exact fun drawn => trivial

theorem findUnder_straight (host : String) (failed : Option LookupError)
    (types : List RecordType) : (findUnder host failed types).Straight := by
  induction types generalizing failed with
  | nil => exact trivial
  | cons type types ih =>
    intro outcome
    cases outcome with
    | error e => exact ih (some e)
    | ok records =>
      refine (pick_straight records).bind fun picked => ?_
      cases picked with
      | none => exact ih failed
      | some address => exact trivial

theorem dial_straight (plan : Plan) (url : Url) : (dial plan url).Straight := by
  unfold dial
  split
  next => exact trivial
  next => exact trivial
  next host _ =>
    -- which names are compared does not matter, and to open them takes long
    generalize Domain.normalize host = name, Domain.normalize plan.domain = pinned
    dsimp only
    split
    · exact trivial
    · exact (findUnder_straight _ _ _).bind fun found => trivial
  next => exact trivial

/-! ### The time -/

section Since

variable {α : Type} {began : Nat} {next : Nat → Job α}

theorem only_since_bind {P : Event → Prop} (h : ∀ elapsed, (next elapsed).Only w P) :
    ((since began).bind next).Only w P :=
  Job.only_time_bind fun _ => h _

theorem yields_since_bind {Q : α → Prop} (h : ∀ elapsed, (next elapsed).Yields w Q) :
    ((since began).bind next).Yields w Q :=
  Job.yields_time_bind (f := fun now => next (now - began)) fun _ => h _

theorem returns_since_bind {Q : α → Prop} (h : ∀ elapsed, (next elapsed).Returns resolve Q) :
    ((since began).bind next).Returns resolve Q :=
  Job.returns_time_bind (f := fun now => next (now - began)) fun _ => h _

theorem straight_since_bind (h : ∀ elapsed, (next elapsed).Straight) :
    ((since began).bind next).Straight :=
  fun _ => h _

/-- A probe that has the session to itself goes on after some time. -/
theorem ends_since_bind {peers : Peers} {past : Nat} {s s' : Session} {outcome : Outcome α}
    (h : ((since began).bind next).Ends peers s outcome s') (hs : s.Alone past) :
    ∃ elapsed s₁, s₁.Alone past ∧ s₁.journal = s.journal ∧
      (next elapsed).Ends peers s₁ outcome s' := by
  obtain ⟨time, s₁, hs₁, hjournal, hrest⟩ := Job.Ends.wait_alone h hs
  exact ⟨_, s₁, hs₁, hjournal, hrest⟩

end Since

/-- Time can run out only where another host is looked up. -/
theorem isLate_iff {plan : Plan} {elapsed : Nat} {url : Url} {name : String}
    (hname : url.host = some (.name name)) : isLate plan elapsed url = true ↔
      plan.settings.timeout ≤ elapsed ∧
        Domain.normalize name ≠ Domain.normalize plan.domain := by
  rw [isLate, leaves, hname, Bool.and_eq_true, decide_eq_true_iff, decide_eq_true_iff]

/-! ### Nothing is requested on the way -/

theorem pick_only (records : List Record) : (pick records).Only w fun e => ¬e.IsRequest := by
  unfold pick
  split
  · exact Job.only_done _
  · exact Job.only_ask_bind id fun drawn => Job.only_done _

theorem findUnder_only (host : String) (failed : Option LookupError) (types : List RecordType) :
    (findUnder host failed types).Only w fun e => ¬e.IsRequest := by
  induction types generalizing failed with
  | nil => exact Job.only_done _
  | cons type types ih =>
    refine Job.only_lookup_bind id fun outcome _ => ⟨id, ?_⟩
    cases outcome with
    | error e => exact ih (some e)
    | ok records =>
      refine (pick_only records).bind fun picked _ => ?_
      cases picked with
      | none => exact ih failed
      | some address => exact Job.only_done _

theorem dial_only (plan : Plan) (url : Url) : (dial plan url).Only w fun e => ¬e.IsRequest := by
  unfold dial
  split
  · exact Job.only_done _
  · exact Job.only_done _
  · dsimp only
    split
    · exact Job.only_done _
    · exact (findUnder_only _ _ _).bind fun found _ => Job.only_done _
  · exact Job.only_done _

/-! ### The place -/

/-- The domain under test is reached where it is pinned. -/
theorem dial_pinned (plan : Plan) (url : Url) :
    (dial plan url).Yields w fun place => ∀ found, place = .ok found →
      ∀ host, url.host = some (.name host) →
        Domain.normalize host = Domain.normalize plan.domain → found.1 = plan.address := by
  intro place hgive found hfound host hhost hsame
  unfold dial at hgive
  rw [hhost] at hgive
  dsimp only at hgive
  rw [if_pos hsame] at hgive
  obtain rfl := Outcome.returned.inj hgive.of_done
  obtain rfl := Except.ok.inj hfound
  rfl

/-- Records of one of the types hold an address of the host, as far as a table of lookups tells. -/
def HasAddress (resolve : Resolution) (host : String) (types : List RecordType) : Prop :=
  ∃ type ∈ types, ∃ records, resolve (.ofName host type) = .ok records ∧
    Record.addresses records ≠ []

/-- A URL has a place, as far as a table of lookups tells. -/
def Reachable (resolve : Resolution) (domain : String) (url : Url) : Prop :=
  ∃ host, url.host = some host ∧ ∀ name, host = .name name →
    Domain.normalize name = Domain.normalize domain ∨
      HasAddress resolve (Domain.normalize name) [.aaaa, .a]

theorem pick_returns (records : List Record) :
    (pick records).Returns resolve fun picked => Record.addresses records ≠ [] → picked ≠ none := by
  unfold pick
  split
  next hnone => exact Job.returns_done fun hsome => absurd hnone hsome
  next => exact Job.returns_ask_bind fun drawn => Job.returns_done fun _ => Option.some_ne_none _

theorem findUnder_returns (host : String) (failed : Option LookupError)
    (types : List RecordType) :
    (findUnder host failed types).Returns resolve fun place =>
      HasAddress resolve host types → ∃ found, place = .ok found := by
  induction types generalizing failed with
  | nil => exact Job.returns_done fun ⟨_, hmem, _⟩ => absurd hmem List.not_mem_nil
  | cons type types ih =>
    refine Job.returns_lookup_bind ?_
    -- an address under another type is one under the types that are left
    have hrest (hnone : ∀ records, resolve (.ofName host type) = .ok records →
        Record.addresses records = []) (failed : Option LookupError) :
        (findUnder host failed types).Returns resolve fun place =>
          HasAddress resolve host (type :: types) → ∃ found, place = .ok found := by
      refine (ih failed).mono fun place hplace ⟨type', hmem, records, hrecords, hsome⟩ => ?_
      rcases List.mem_cons.mp hmem with rfl | hmem
      · exact absurd (hnone records hrecords) hsome
      · exact hplace ⟨type', hmem, records, hrecords, hsome⟩
    cases hlookup : resolve (.ofName host type) with
    | error e =>
      refine hrest (fun records hrecords => ?_) (some e)
      rw [hlookup] at hrecords
      cases hrecords
    | ok records =>
      refine (pick_returns records).bind fun picked hpicked => ?_
      cases picked with
      | none =>
        refine hrest (fun records' hrecords => ?_) failed
        rw [hlookup] at hrecords
        obtain rfl := Except.ok.inj hrecords
        by_contra hsome
        exact hpicked hsome rfl
      | some address => exact Job.returns_done fun _ => ⟨address, rfl⟩

/-- **Where nothing breaks down, the place of what is reachable is found.** -/
theorem dial_returns (plan : Plan) (url : Url) :
    (dial plan url).Returns resolve fun place =>
      Reachable resolve plan.domain url → ∃ found, place = .ok found := by
  unfold dial
  split
  next address _ => exact Job.returns_done fun _ => ⟨_, rfl⟩
  next address _ => exact Job.returns_done fun _ => ⟨_, rfl⟩
  next host hhost =>
    dsimp only
    split
    next => exact Job.returns_done fun _ => ⟨_, rfl⟩
    next hother =>
      refine (findUnder_returns _ _ _).bind fun place hplace => Job.returns_done ?_
      rintro ⟨host', hhost', hname⟩
      obtain rfl := Option.some.inj (hhost.symm.trans hhost')
      obtain ⟨found, rfl⟩ := hplace ((hname host rfl).resolve_left hother)
      exact ⟨_, rfl⟩
  next hnone =>
    refine Job.returns_done fun ⟨host, hhost, _⟩ => ?_
    rw [hnone] at hhost
    cases hhost

end Probe

end Rehearsal
