import Rehearsal.Job.Session

/-!
# Scripted names

A rehearsal needs no network: what the resolver and the nameservers answer is written down before. A
script is a list of entries, of which the first that fits a question answers it; where none fits,
the answer is empty.
-/

namespace Rehearsal

namespace Script

/-- A record whose owner may be left open; it is then the name that was asked for. -/
structure OpenRecord where
  /-- The owner, if it is fixed. -/
  owner : Option DomainName
  /-- How many seconds the record may be kept. -/
  ttl : Nat
  /-- The type. -/
  type : RecordType
  /-- The data, if there is any. -/
  data : Option RecordData
  deriving DecidableEq, Repr

/-- A name as an owner: one that is no name owns at the root. -/
def ownerOf (name : String) : DomainName :=
  match DomainName.ofText? name with
  | .ok name => name.toAbsolute
  | .error _ => ⟨[], true⟩

/-- The record in an answer about a name. -/
def OpenRecord.closeAt (r : OpenRecord) (name : DomainName) : Record :=
  ⟨r.owner.getD name, r.ttl, r.type, r.data⟩

/-- The record in an answer about a name in its written form. -/
def OpenRecord.close (r : OpenRecord) (name : String) : Record := r.closeAt (ownerOf name)

/-- A failed lookup, but for the name and the type. -/
inductive OpenError where
  /-- There was no answer in time. -/
  | timeout (seconds : Nat)
  /-- The resolver answered with a code that fails the lookup. -/
  | responseCode (code : String)
  /-- The answer did not validate. -/
  | bogus (reason : String) (extended : Option String)
  /-- Anything else that kept the answer away. -/
  | resolution (message : String)
  /-- The name cannot be asked for. -/
  | invalidName (message : String)
  deriving DecidableEq, Repr

/-- The error of a lookup of a name. -/
def OpenError.close (e : OpenError) (name : String) (type : RecordType) : LookupError :=
  match e with
  | timeout seconds => .timeout name type.name seconds
  | responseCode code => .responseCode name type.name code
  | bogus reason extended => .bogus name type.name reason extended
  | resolution message => .resolution name type.name message
  | invalidName message => .invalidName name message

/-- What an entry answers. -/
inductive OpenAnswer where
  /-- Records under a response code. -/
  | records (code : ResponseCode) (records : List OpenRecord)
  /-- A failure. -/
  | failure (e : OpenError)
  /-- A breakdown. -/
  | breakdown (message : String)
  deriving DecidableEq, Repr

/-- The lookup's outcome that an entry gives for a key. Records are owned by the normal form of the
name. -/
def OpenAnswer.forKey (a : OpenAnswer) (key : LookupKey) : Outcome LookupOutcome :=
  match a with
  | records _ list => .returned (.ok (list.map fun r => r.close (Domain.normalize key.name)))
  | failure e => .returned (.error (e.close (Domain.absolute key.name) key.type))
  | breakdown message => .crashed message

/-- The outcome that an entry gives for a direct query. Records are owned by the name as it was
asked for. -/
def OpenAnswer.forQuery (a : OpenAnswer) (name : String) (type : RecordType) :
    Outcome DirectOutcome :=
  match a with
  | records code list => .returned (.ok ⟨code, list.map fun r => r.close name⟩)
  | failure e => .returned (.error (e.close (Domain.absolute name) type))
  | breakdown message => .crashed message

/-- What the resolver answers for one name, or for all names with one ending. -/
structure LookupEntry where
  /-- The name; what follows a star in front is an ending. -/
  name : String
  /-- The type. -/
  type : RecordType
  /-- The time that the answer takes, in milliseconds. -/
  delay : Nat
  /-- The answer. -/
  answer : OpenAnswer
  deriving DecidableEq, Repr

namespace LookupEntry

/-- Does the entry answer for a key? The names are compared in their normal forms. -/
def fits (e : LookupEntry) (key : LookupKey) : Bool :=
  let name := (Domain.normalize key.name).toList
  e.type = key.type &&
    match (Domain.normalize e.name).toList with
    | '*' :: ending => ending.isSuffixOf name
    | entry => entry = name

end LookupEntry

/-- What one nameserver address answers. -/
structure ServerEntry where
  /-- The address. -/
  server : IpAddress
  /-- The time that the answer takes, in milliseconds. -/
  delay : Nat
  /-- The answer. -/
  answer : OpenAnswer
  deriving DecidableEq, Repr

/-- The scripted resolver. -/
def lookup (entries : List LookupEntry) (key : LookupKey) : Reply LookupOutcome :=
  match entries.find? (·.fits key) with
  | some e => ⟨e.delay, e.answer.forKey key⟩
  | none => .now (.ok [])

/-- The scripted nameservers. -/
def direct (entries : List ServerEntry) (server : IpAddress) (name : String) (type : RecordType) :
    Reply DirectOutcome :=
  match entries.find? fun e => e.server = server with
  | some e => ⟨e.delay, e.answer.forQuery name type⟩
  | none => .now (.ok ⟨.noError, []⟩)

end Script

end Rehearsal
