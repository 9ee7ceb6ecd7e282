import Rehearsal.Dns.Resolver

/-!
# The cache of lookups

Within one scan a name and a type are looked up once. `LookupCell` is the state of one such key. Who
wants the outcome takes a seat in the queue; whoever sits at its head calls the resolver, and the
others wait. When the call returns, everybody gets what it returned, and so does everybody who comes
later. When the call breaks down or is given up, its seat is left and the next in the queue calls
anew; nothing is kept of the call that was lost.

So at most one call for a key is under way at a time, and at most one ever returns.
-/

namespace Rehearsal

/-- What a lookup is about: a name in its normal form and a type. -/
structure LookupKey where
  /-- The name. -/
  name : String
  /-- The type of the records. -/
  type : RecordType
  deriving DecidableEq, Repr

namespace LookupKey

/-- The key of a name in any spelling. -/
def ofName (name : String) (type : RecordType) : LookupKey := ⟨Domain.normalize name, type⟩

end LookupKey

/-- A place in a queue. -/
abbrev Seat := Nat

/-- The state of one key. -/
structure LookupCell where
  /-- The seats of those who want the outcome, in the order in which they came. -/
  queue : List Seat
  /-- The outcome, once a call has returned. -/
  outcome : Option LookupOutcome

namespace LookupCell

/-- A key that nobody has asked for. -/
def fresh : LookupCell := ⟨[], none⟩

/-- The seat whose owner calls the resolver. -/
def caller? (c : LookupCell) : Option Seat :=
  match c.outcome with
  | some _ => none
  | none => c.queue.head?

/-- Somebody takes a seat. -/
def join (seat : Seat) (c : LookupCell) : LookupCell := { c with queue := c.queue ++ [seat] }

/-- Somebody leaves a seat. -/
def leave (seat : Seat) (c : LookupCell) : LookupCell :=
  { c with queue := c.queue.filter (· ≠ seat) }

/-- The call returns. -/
def settle (outcome : LookupOutcome) (c : LookupCell) : LookupCell :=
  { c with outcome := some outcome }

end LookupCell

end Rehearsal
