import Rehearsal.Proofs.Check.Offline
import Rehearsal.Proofs.Dns.Record
import Rehearsal.Check.Address

/-!
# The rule of addresses

Two lookups at once, judged together. The list of records is written out only if there is an
address among them, so a record that cannot be written does harm only then.

## Main definitions

* `Check.IsError`: a lookup that failed
* `Check.AddressesRefuse`, `Check.AddressesUnwritable`: what the outcomes make of the checker

## Main results

* `Check.dnsA_obeys`: the rule of the checker
-/

namespace Rehearsal

namespace Check

variable {resolve : Resolution} {domain : String} {a aaaa : LookupOutcome}

/-- A lookup that failed. -/
def IsError (outcome : LookupOutcome) : Prop := ∃ e, outcome = .error e

theorem not_isError_ok (records : List Record) : ¬IsError (.ok records) := by
  rintro ⟨e, heq⟩
  cases heq

/-- The records of the lookups for both types of addresses. -/
def addressRecords (a aaaa : LookupOutcome) : List Record := recordsOf a ++ recordsOf aaaa

/-- The domain cannot be reached: a lookup failed, or there is no address, or a reserved one. -/
def AddressesRefuse (a aaaa : LookupOutcome) : Prop :=
  IsError a ∨ IsError aaaa ∨ Record.addresses (addressRecords a aaaa) = [] ∨
    ∃ x ∈ Record.addresses (addressRecords a aaaa), x.isReserved = true

/-- There are addresses, and with them a record that cannot be written. -/
def AddressesUnwritable (a aaaa : LookupOutcome) : Prop :=
  Record.addresses (addressRecords a aaaa) ≠ [] ∧
    ∃ r ∈ addressRecords a aaaa, r.IsUnwritable

/-! ### The verdict on addresses -/

theorem anyFatal_failedLookup (domain : String) (type : RecordType) (outcome : LookupOutcome) :
    Problem.anyFatal (failedLookup domain type outcome) = true ↔ IsError outcome := by
  unfold IsError
  cases outcome with
  | ok records => simp [failedLookup, Problem.anyFatal]
  | error e => simp [failedLookup, Problem.anyFatal, Problem.lookupFailed, Problem.isFatal]

theorem anyFatal_reserved (domain : String) (addresses : List IpAddress) :
    Problem.anyFatal ((addresses.filter IpAddress.isReserved).map (reservedAddress domain)) = true ↔
      ∃ x ∈ addresses, x.isReserved = true := by
  simp [Problem.anyFatal, reservedAddress, Problem.isFatal]

theorem wellNamed_append {ps qs : List Problem} (hps : WellNamed ps) (hqs : WellNamed qs) :
    WellNamed (ps ++ qs) :=
  fun p hp => (List.mem_append.mp hp).elim (hps p) (hqs p)

theorem wellNamed_failedLookup (domain : String) (type : RecordType) (outcome : LookupOutcome) :
    WellNamed (failedLookup domain type outcome) := by
  intro p hp _
  cases outcome with
  | ok records => cases hp
  | error e =>
    rw [List.mem_singleton.mp hp]
    simp [Problem.lookupFailed, fatalNames]

theorem wellNamed_reserved (domain : String) (addresses : List IpAddress) :
    WellNamed ((addresses.filter IpAddress.isReserved).map (reservedAddress domain)) := by
  intro p hp _
  obtain ⟨x, -, rfl⟩ := List.mem_map.mp hp
  simp [reservedAddress, fatalNames]

theorem judgeAddresses_eq_none_iff :
    judgeAddresses domain a aaaa = none ↔ AddressesUnwritable a aaaa := by
  unfold judgeAddresses AddressesUnwritable addressRecords
  simp only
  split
  next hempty => simp [List.isEmpty_iff.mp hempty]
  next hsome =>
    rw [Option.map_eq_none_iff, Record.textOfAll?_eq_none_iff]
    exact (and_iff_right fun h => hsome (List.isEmpty_iff.mpr h)).symm

theorem judgeAddresses_fits {rule : Rule} {problems : List Problem} (hfails : ¬rule.fails)
    (hfatal : AddressesRefuse a aaaa ↔ rule.fatal)
    (h : judgeAddresses domain a aaaa = some problems) :
    Fits rule (.returned (.ok problems)) := by
  have hlookups := wellNamed_append (wellNamed_failedLookup domain .a a)
    (wellNamed_failedLookup domain .aaaa aaaa)
  have hfront := wellNamed_append hlookups
    (wellNamed_reserved domain (Record.addresses (recordsOf a ++ recordsOf aaaa)))
  unfold judgeAddresses at h
  simp only at h
  rw [AddressesRefuse, addressRecords] at hfatal
  split at h
  next hempty =>
    rw [Option.some.injEq] at h
    subst h
    refine fits_ok hfails ⟨fun _ => ?_, fun _ => ?_⟩ (wellNamed_append hfront fun p hp _ => ?_)
    · exact hfatal.mp (.inr (.inr (.inl (List.isEmpty_iff.mp hempty))))
    · rw [Problem.anyFatal_append]
      exact Bool.or_eq_true_iff.mpr (.inr rfl)
    · rw [List.mem_singleton.mp hp]
      simp [noRecords, fatalNames]
  next hsome =>
    obtain ⟨text, -, rfl⟩ := Option.map_eq_some_iff.mp h
    have hsome' : Record.addresses (recordsOf a ++ recordsOf aaaa) ≠ [] :=
      fun h => hsome (List.isEmpty_iff.mpr h)
    have hnote : ∀ p ∈
        [Problem.debug "HTTPRecords" "A and AAAA records found for this domain" text],
        p.isFatal = false := by
      intro p hp
      rw [List.mem_singleton.mp hp]
      rfl
    refine fits_ok hfails ?_ (wellNamed_append hfront (wellNamed_of_not_fatal hnote))
    rw [← hfatal, Problem.anyFatal_append, Problem.anyFatal_eq_false hnote, Bool.or_false,
      Problem.anyFatal_append, Problem.anyFatal_append, Bool.or_eq_true, Bool.or_eq_true,
      anyFatal_failedLookup, anyFatal_failedLookup, anyFatal_reserved, or_assoc]
    simp only [hsome', false_or]

/-- What is found about addresses is what two lookups tell, if it can be written. -/
theorem judgeAddresses_refuse {problems : List Problem}
    (h : judgeAddresses domain a aaaa = some problems) :
    Fits ⟨False, AddressesRefuse a aaaa⟩ (.returned (.ok problems)) :=
  judgeAddresses_fits id Iff.rfl h

/-- Where nothing is fatal, both lookups succeeded and found addresses, none of them reserved. -/
theorem reachable_of_not_refuse (h : ¬AddressesRefuse a aaaa) :
    ∃ v4 v6, a = .ok v4 ∧ aaaa = .ok v6 ∧ Record.addresses v6 ++ Record.addresses v4 ≠ [] ∧
      ∀ x ∈ Record.addresses v6 ++ Record.addresses v4, x.isReserved = false := by
  unfold AddressesRefuse at h
  simp only [not_or] at h
  obtain ⟨ha, haaaa, hsome, hreserved⟩ := h
  cases a with
  | error e => exact absurd ⟨e, rfl⟩ ha
  | ok v4 =>
    cases aaaa with
    | error e => exact absurd ⟨e, rfl⟩ haaaa
    | ok v6 =>
      have haddresses : Record.addresses (addressRecords (.ok v4) (.ok v6)) =
          Record.addresses v4 ++ Record.addresses v6 :=
        List.filterMap_append
      rw [haddresses] at hsome hreserved
      refine ⟨v4, v6, rfl, rfl, fun hnil => hsome ?_, fun x hx => ?_⟩
      · rw [List.append_eq_nil_iff] at hnil ⊢
        exact hnil.symm
      · rw [← Bool.not_eq_true]
        exact fun hx' => hreserved ⟨x, by rwa [List.mem_append, or_comm, ← List.mem_append], hx'⟩

/-- What the checker ends with, unless it breaks down: the verdict on two outcomes that were looked
up. -/
theorem dnsA_gives {w : World} {context : ScanContext} {o : Outcome Verdict}
    (h : (dnsA.check context domain .http01).Gives w o) :
    (∃ message, o = .crashed message) ∨ ∃ a aaaa found,
      w.settled (.ofName domain .a) a ∧ w.settled (.ofName domain .aaaa) aaaa ∧
      judgeAddresses domain a aaaa = some found ∧ o = .returned (.ok found) := by
  rcases Job.Gives.of_bind h with ⟨message, -, rfl⟩ | ⟨values, hvalues, hgive⟩
  · exact .inl ⟨message, rfl⟩
  · rcases hvalues.of_all with ⟨_, heq, -⟩ | ⟨values', heq, hall⟩
    · cases heq
    · obtain rfl := Outcome.returned.inj heq
      obtain - | ⟨haaaa, - | ⟨ha, - | _⟩⟩ := hall
      dsimp only at hgive
      split at hgive
      next found hjudge =>
        exact .inr ⟨_, _, found, ha.settled_of_lookup, haaaa.settled_of_lookup, hjudge,
          hgive.of_done⟩
      next => exact .inl ⟨_, hgive.of_crash⟩

/-! ### The rule -/

theorem dnsA_obeys (context : ScanContext) (domain : String) (method : Method) :
    Obeys resolve (dnsA.check context domain method)
      (Rule.under (method = .http01)
        ⟨AddressesUnwritable (resolve (.ofName domain .a)) (resolve (.ofName domain .aaaa)),
          AddressesRefuse (resolve (.ofName domain .a)) (resolve (.ofName domain .aaaa))⟩) := by
  refine forMethod_obeys context domain method fun o hgive => ?_
  rcases hgive.of_bind with ⟨message, hcrash, rfl⟩ | ⟨values, hvalues, hgive⟩
  · rcases hcrash.of_all with ⟨_, -, job, hjob, hcrash⟩ | ⟨_, heq, -⟩
    · rcases List.mem_pair.mp hjob with rfl | rfl <;> cases hcrash.of_lookup
    · cases heq
  · rcases hvalues.of_all with ⟨_, heq, -⟩ | ⟨values', heq, hall⟩
    · cases heq
    · obtain rfl := Outcome.returned.inj heq
      cases hall with
      | cons haaaa hall =>
        cases hall with
        | cons ha hall =>
          cases hall
          obtain rfl := Outcome.returned.inj haaaa.of_lookup
          obtain rfl := Outcome.returned.inj ha.of_lookup
          dsimp only at hgive
          cases hjudge : judgeAddresses domain (resolve (.ofName domain .a))
              (resolve (.ofName domain .aaaa)) with
          | none =>
            rw [hjudge] at hgive
            rw [hgive.of_crash]
            exact fits_crashed (judgeAddresses_eq_none_iff.mp hjudge)
          | some problems =>
            rw [hjudge] at hgive
            rw [hgive.of_done]
            refine judgeAddresses_fits ?_ Iff.rfl hjudge
            rw [← judgeAddresses_eq_none_iff, hjudge]
            exact Option.some_ne_none _

end Check

end Rehearsal
