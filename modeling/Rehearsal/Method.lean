import Rehearsal.Text.Blank
import Rehearsal.Text.Case

/-!
# Validation methods

A certificate authority proves control of a domain by one of a few methods, named in the protocol.
`Method.ofText` accepts every text: one that spells no method, up to white space around it and the
case of its letters, is kept as it is, so that a scan can report it.
-/

namespace Rehearsal

/-- A method of proving control of a domain. -/
inductive Method where
  /-- A file served over HTTP. -/
  | http01
  /-- A TXT record in the domain's zone. -/
  | dns01
  /-- A certificate served for a made-up name; switched off. -/
  | tlsSni01
  /-- The second form of `tlsSni01`; switched off. -/
  | tlsSni02
  /-- A text that spells none of the methods. -/
  | unknown (text : String)
  deriving DecidableEq, Repr

namespace Method

/-- The name of a method in the protocol. -/
def name : Method → String
  | http01 => "http-01"
  | dns01 => "dns-01"
  | tlsSni01 => "tls-sni-01"
  | tlsSni02 => "tls-sni-02"
  | unknown text => text

instance : ToString Method := ⟨name⟩

/-- The methods that have a name of their own. -/
def named : List Method := [http01, dns01, tlsSni01, tlsSni02]

/-- The methods that can be used. -/
def supported : List Method := [http01, dns01]

/-- The keyword that a text spells: no white space around it, small letters. -/
def keyword (text : String) : String :=
  String.ofList ((Text.trim text.toList).map Text.asciiLower)

/-- The method that a text spells. -/
def ofText (text : String) : Method :=
  match named.find? fun m => m.name == keyword text with
  | some m => m
  | none => unknown text

/-- Does the method have a name of its own, switched off or not? -/
def isKnown : Method → Bool
  | unknown _ => false
  | _ => true

/-- Has the method been switched off? -/
def isDisabled : Method → Bool
  | tlsSni01 | tlsSni02 => true
  | _ => false

end Method

end Rehearsal
