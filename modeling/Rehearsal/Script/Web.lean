import Rehearsal.Job.Session

/-!
# Scripted web servers

A web server of a script listens at an address, on one port or on all, and answers each request by
the first of its routes that fits; where none fits, there is nothing at that place. Without a
network no connection comes about.
-/

namespace Rehearsal

namespace Script

/-- What goes wrong on a route. -/
inductive RouteFault where
  /-- The connection is closed without a response. -/
  | close
  /-- What is sent is no response. -/
  | garbage
  /-- Nothing is ever sent. -/
  | hang
  /-- The body is cut off. -/
  | truncate
  /-- The body never ends. -/
  | hangBody
  deriving DecidableEq, Repr

/-- What a server answers to some requests. -/
structure Route where
  /-- The path and what is asked, if they matter. -/
  path : Option String
  /-- The host without a port, if it matters. -/
  host : Option String
  /-- Whether the connection is encrypted, if it matters. -/
  https : Option Bool
  /-- The status. -/
  status : Nat
  /-- The headers. -/
  headers : List (String × Bytes)
  /-- The body. -/
  body : Bytes
  /-- What goes wrong. -/
  fault : Option RouteFault
  deriving DecidableEq, Repr

/-- A web server. -/
structure WebServer where
  /-- The address. -/
  address : IpAddress
  /-- The port, if it listens on one only. -/
  port : Option Nat
  /-- Does it take encrypted connections as well? -/
  tls : Bool
  /-- What keeps connections from coming about. -/
  fault : Option ConnectFault
  /-- What it answers. -/
  routes : List Route
  deriving DecidableEq, Repr

/-- All that is reached over the web. -/
structure Network where
  /-- Is there a network at all? -/
  isUp : Bool
  /-- Are the servers' certificates good? -/
  trusted : Bool
  /-- The servers. -/
  servers : List WebServer
  deriving DecidableEq, Repr

/-- The host of a request without its port: all before the first colon. -/
def bareHost (request : Request) : String :=
  String.ofList (request.host.toList.takeWhile (· != ':'))

/-- The value of a header without the blanks around it, which do not belong to it. -/
def trimBlanks (value : Bytes) : Bytes :=
  let isGap (b : UInt8) : Bool := b = 0x20 || b = 0x9
  ((value.dropWhile isGap).reverse.dropWhile isGap).reverse

namespace Route

/-- Does the route answer the request? -/
def fits (r : Route) (secure : Bool) (request : Request) : Bool :=
  r.path.all (· = request.target) && r.host.all (· = bareHost request) && r.https.all (· = secure)

/-- The response without its ending. -/
def response (r : Route) (ending : Option BodyFault) : Response :=
  let bodiless := r.status = 204 || r.status = 304
  ⟨r.status, r.headers.map fun h => (h.1, trimBlanks h.2), if bodiless then [] else [r.body],
    if bodiless then none else ending⟩

/-- What the client sees. -/
def exchange (r : Route) : Exchange :=
  match r.fault with
  | some .close => .error .closed
  | some .garbage => .error .garbled
  | some .hang => .error .silent
  | some .truncate => .ok (r.response (some .cut))
  | some .hangBody => .ok (r.response (some .stalled))
  | none => .ok (r.response none)

/-- What a server answers where it has nothing. -/
def absent : Route := ⟨none, none, none, 404, [], [], none⟩

end Route

namespace Network

/-- The server that a connection reaches, or what keeps it from one. -/
def reach (n : Network) (c : Connection) : Except ExchangeFault WebServer :=
  if !n.isUp then
    .error (.connect (if c.address.isV4 then .unreachable else .noLocalAddress))
  else
    match n.servers.find? fun s => s.address = c.address && s.port.all (· = c.port) with
    | none => .error (.connect .refused)
    | some s =>
      match s.fault with
      | some fault => .error (.connect fault)
      | none =>
        if c.secure && !s.tls then .error .plainServer
        else if c.secure && !c.lenient && !n.trusted then .error .untrusted
        else .ok s

/-- Does a request over the connection arrive anywhere? -/
def arrives (n : Network) (c : Connection) : Bool := (n.reach c).toOption.isSome

/-- What comes of a request. -/
def exchange (n : Network) (c : Connection) (request : Request) : Exchange := do
  let server ← n.reach c
  ((server.routes.find? fun r => r.fits c.secure request).getD .absent).exchange

end Network

end Script

end Rehearsal
