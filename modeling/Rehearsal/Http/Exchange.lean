import Rehearsal.Http.Body
import Rehearsal.Net.Address
import Rehearsal.Text.Case

/-!
# Exchanges with web servers

One request over one connection of its own, and what comes back: a response, or the reason why
there is none. A fault carries the texts of its layers, whatever they are, which a report shows
after the address that was requested. Some faults that are often met have a name here.
-/

namespace Rehearsal

/-- Why no connection came about. -/
inductive ConnectFault where
  /-- Nobody listens there. -/
  | refused
  /-- There was no answer in time. -/
  | timedOut
  /-- There is no way into that network. -/
  | unreachable
  /-- There is no way to that host. -/
  | noRoute
  /-- The other side broke the connection off. -/
  | reset
  /-- This side has no address of the family. -/
  | noLocalAddress
  deriving DecidableEq, Repr

namespace ConnectFault

/-- The text of a fault. -/
def message : ConnectFault → String
  | refused => "Connection refused (os error 111)"
  | timedOut => "Connection timed out (os error 110)"
  | unreachable => "Network is unreachable (os error 101)"
  | noRoute => "No route to host (os error 113)"
  | reset => "Connection reset by peer (os error 104)"
  | noLocalAddress => "Cannot assign requested address (os error 99)"

end ConnectFault

/-- Why a request got no response. -/
structure ExchangeFault where
  /-- The texts of the layers of the error, the outermost first. -/
  layers : List String
  /-- Did time run out? -/
  isTimeout : Bool
  deriving DecidableEq, Repr

namespace ExchangeFault

/-- There was no connection. -/
def connect (fault : ConnectFault) : ExchangeFault :=
  ⟨["client error (Connect)", "tcp connect error", fault.message], fault == .timedOut⟩

/-- The server speaks in plain text where the client began to encrypt. -/
def plainServer : ExchangeFault := ⟨["client error (Connect)", "wrong version number"], false⟩

/-- The server's certificate is not accepted. -/
def untrusted : ExchangeFault := ⟨["client error (Connect)", "certificate verify failed"], false⟩

/-- The connection was closed without a response. -/
def closed : ExchangeFault :=
  ⟨["client error (SendRequest)", "connection closed before message completed"], false⟩

/-- What came back is no response. -/
def garbled : ExchangeFault :=
  ⟨["client error (SendRequest)", "invalid HTTP version parsed"], false⟩

/-- Nothing came back in time. -/
def silent : ExchangeFault := ⟨["operation timed out"], true⟩

end ExchangeFault

/-- Where a connection goes and how. -/
structure Connection where
  /-- The address. -/
  address : IpAddress
  /-- The port. -/
  port : Nat
  /-- Is the connection encrypted? -/
  secure : Bool
  /-- Is any certificate good? -/
  lenient : Bool
  deriving DecidableEq, Repr

/-- A request for a resource. -/
structure Request where
  /-- The path and what is asked. -/
  target : String
  /-- The host, perhaps with a port. -/
  host : String
  /-- What the client calls itself. -/
  userAgent : Option String
  /-- What the client accepts. -/
  accept : Option String
  deriving DecidableEq, Repr

/-- A response. -/
structure Response where
  /-- The status code. -/
  status : Nat
  /-- The headers in order. -/
  headers : List (String × Bytes)
  /-- The chunks of the body. -/
  body : List Bytes
  /-- What breaks the body off, if anything does. -/
  ending : Option BodyFault
  deriving DecidableEq, Repr

namespace Response

/-- The value of the first header with the name. -/
def header? (r : Response) (name : String) : Option Bytes :=
  (r.headers.find? fun h => h.1.toList.map Text.asciiLower == name.toList.map Text.asciiLower).map
    (·.2)

/-- Is the byte a visible character of ASCII, a blank or a tab? -/
def isVisible (b : UInt8) : Bool := (0x20 ≤ b.toNat && b.toNat < 0x7F) || b.toNat = 0x9

/-- The value of a header as text, if all of it is visible. -/
def textHeader? (r : Response) (name : String) : Option String :=
  (r.header? name).bind fun value =>
    if value.all isVisible then some (String.ofList (value.map fun b => Char.ofNat b.toNat))
    else none

/-- Is the status a success? -/
def isSuccess (r : Response) : Bool := 200 ≤ r.status && r.status ≤ 299

end Response

/-- What comes of a request. -/
abbrev Exchange := Except ExchangeFault Response

end Rehearsal
