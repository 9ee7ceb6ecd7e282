/-!
# Record types

The kinds of records that a scan asks for or meets.
-/

namespace Rehearsal

/-- A kind of record. -/
inductive RecordType where
  /-- An IPv4 address. -/
  | a
  /-- An IPv6 address. -/
  | aaaa
  /-- A nameserver of the zone. -/
  | ns
  /-- Another name for the name. -/
  | cname
  /-- A mail server. -/
  | mx
  /-- Text. -/
  | txt
  /-- Who may issue certificates. -/
  | caa
  deriving DecidableEq, Repr

namespace RecordType

/-- Every type. -/
def all : List RecordType := [a, aaaa, ns, cname, mx, txt, caa]

/-- The name of a type. -/
def name : RecordType → String
  | a => "A"
  | aaaa => "AAAA"
  | ns => "NS"
  | cname => "CNAME"
  | mx => "MX"
  | txt => "TXT"
  | caa => "CAA"

/-- The type of a name. -/
def ofName? (s : String) : Option RecordType := all.find? fun t => t.name == s

instance : ToString RecordType := ⟨name⟩

end RecordType

end Rehearsal
