import Rehearsal.Dns.RecordType
import Rehearsal.Domain.Display
import Rehearsal.Net.Address
import Rehearsal.Text.Case
import Rehearsal.Text.Utf8

/-!
# Records

A record belongs to a name, lives for some seconds and usually holds data. `Record.text?` writes it
on one line. One kind of data has no such line: a CAA value that is neither an issuer nor a URL and
whose bytes are no text.
-/

namespace Rehearsal

/-- What a CAA record is about. -/
inductive CaaTag where
  /-- Who may issue certificates. -/
  | issue
  /-- Who may issue certificates for wildcards. -/
  | issueWild
  /-- Where violations are reported. -/
  | iodef
  /-- Anything else, as it was written. -/
  | unknown (text : String)
  deriving DecidableEq, Repr

namespace CaaTag

/-- The tag that a text spells, in capital or small letters. -/
def ofText (text : String) : CaaTag :=
  match String.ofList (text.toList.map Text.asciiLower) with
  | "issue" => issue
  | "issuewild" => issueWild
  | "iodef" => iodef
  | _ => unknown text

/-- The text of a tag. -/
def text : CaaTag → String
  | issue => "issue"
  | issueWild => "issuewild"
  | iodef => "iodef"
  | unknown text => text

/-- The text of a tag in small letters. -/
def lowerText : CaaTag → String
  | unknown text => String.ofList (Text.lower text.toList)
  | tag => tag.text

end CaaTag

/-- The value of a CAA record. -/
inductive CaaValue where
  /-- An issuer, which may be left out, and parameters for it. -/
  | issuer (name : Option DomainName) (parameters : List (String × String))
  /-- A URL in its normal form. -/
  | url (text : String)
  /-- Bytes of unknown meaning. -/
  | raw (bytes : Bytes)
  deriving DecidableEq, Repr

namespace CaaValue

/-- A parameter after the issuer; one without a value is only named. -/
def parameterText (parameter : String × String) : String :=
  if parameter.2.isEmpty then s!"; {parameter.1}" else s!"; {parameter.1}={parameter.2}"

/-- The text of a value, without the quotes around it. -/
def text? : CaaValue → Option String
  | issuer name parameters =>
    some ((match name with
      | some name => name.display
      | none => "") ++ String.join (parameters.map parameterText))
  | url text => some text
  | raw bytes => Text.decode? bytes

end CaaValue

/-- The data of a record. -/
inductive RecordData where
  /-- An IPv4 address. -/
  | a (address : BitVec 32)
  /-- An IPv6 address. -/
  | aaaa (address : BitVec 128)
  /-- The name of a nameserver. -/
  | ns (target : DomainName)
  /-- The name that the owner is an alias of. -/
  | cname (target : DomainName)
  /-- A mail server and how much it is preferred. -/
  | mx (preference : Nat) (target : DomainName)
  /-- Character strings. -/
  | txt (parts : List Bytes)
  /-- Who may issue certificates. -/
  | caa (critical : Bool) (tag : CaaTag) (value : CaaValue)
  deriving DecidableEq, Repr

namespace RecordData

/-- The type of a record with this data. -/
def type : RecordData → RecordType
  | a _ => .a
  | aaaa _ => .aaaa
  | ns _ => .ns
  | cname _ => .cname
  | mx .. => .mx
  | txt _ => .txt
  | caa .. => .caa

/-- Character strings as one text, each read on its own. -/
def joinedText (parts : List Bytes) : String := String.join (parts.map Text.decodeLossy)

/-- The data on a line. -/
def text? : RecordData → Option String
  | a address => some (IpAddress.v4 address).render
  | aaaa address => some (IpAddress.v6 address).render
  | ns target => some target.display
  | cname target => some target.display
  | mx preference target => some s!"{preference} {target.display}"
  | txt parts => some (joinedText parts)
  | caa critical tag value =>
    value.text?.map fun text => s!"{if critical then 128 else 0} {tag.text} \"{text}\""

end RecordData

/-- A record. -/
structure Record where
  /-- The name that the record belongs to. -/
  owner : DomainName
  /-- How many seconds the record may be kept. -/
  ttl : Nat
  /-- The type, which a record without data has as well. -/
  type : RecordType
  /-- The data, if there is any. -/
  data : Option RecordData
  deriving DecidableEq, Repr

namespace Record

/-- A record that holds data. -/
def ofData (owner : DomainName) (ttl : Nat) (data : RecordData) : Record :=
  ⟨owner, ttl, data.type, some data⟩

/-- The record on one line, if it can be written. -/
def text? (r : Record) : Option String :=
  let front := s!"{r.owner.display} {r.ttl} IN {r.type}"
  match r.data with
  | none => some front
  | some data => data.text?.map fun text => s!"{front} {text}"

/-- What breaks down with a record that cannot be written. -/
def unwritable : String := "a Display implementation returned an error unexpectedly: Error"

/-- The records one per line, if all of them can be written. -/
def textOfAll? (records : List Record) : Option String :=
  (records.mapM text?).map fun lines => "\n".intercalate lines

/-- The address that a record holds. -/
def address? (r : Record) : Option IpAddress :=
  match r.data with
  | some (.a address) => some (.v4 address)
  | some (.aaaa address) => some (.v6 address)
  | _ => none

/-- The addresses that records hold, in their order. -/
def addresses (records : List Record) : List IpAddress := records.filterMap address?

/-- The character strings of a TXT record. -/
def txtParts? (r : Record) : Option (List Bytes) :=
  match r.data with
  | some (.txt parts) => some parts
  | _ => none

/-- The text of each TXT record, its character strings joined. -/
def txtStrings (records : List Record) : List String :=
  records.filterMap fun r => r.txtParts?.map RecordData.joinedText

end Record

end Rehearsal
