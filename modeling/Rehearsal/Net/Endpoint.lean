import Rehearsal.Net.Address

/-!
# Endpoints

An endpoint is an address with a port. It is written `192.0.2.1:53`, or `[2001:db8::1]:53` with
brackets around an IPv6 address. A zone number after `%` inside the brackets is read and dropped.
-/

namespace Rehearsal

/-- An address with a port. -/
structure Endpoint where
  /-- The address. -/
  address : IpAddress
  /-- The port. -/
  port : Nat
  deriving DecidableEq, Repr

namespace Endpoint

/-- Reads a number below a bound. -/
def readBelow (bound : Nat) (cs : List Char) : Option Nat :=
  (Text.readDecimal cs).bind fun n => if n < bound then some n else none

/-- Reads what stands between brackets: an IPv6 address, perhaps with a zone. -/
def readBracketed (cs : List Char) : Option IpAddress :=
  match cs.span (· != '%') with
  | (address, []) => (IpAddress.readV6 address).map .v6
  | (address, _ :: zone) => do
    let _ ← readBelow 4294967296 zone
    return .v6 (← IpAddress.readV6 address)

/-- Reads an endpoint. -/
def ofText? (s : String) : Option Endpoint :=
  match s.toList with
  | '[' :: cs =>
    match cs.span (· != ']') with
    | (inside, ']' :: ':' :: port) => do
      return ⟨← readBracketed inside, ← readBelow 65536 port⟩
    | _ => none
  | cs =>
    match cs.span (· != ':') with
    | (address, _ :: port) => do
      return ⟨.v4 (← IpAddress.readV4 address), ← readBelow 65536 port⟩
    | _ => none

/-- The written form of an endpoint. -/
def render (e : Endpoint) : String :=
  match e.address with
  | .v4 _ => s!"{e.address.render}:{e.port}"
  | .v6 _ => s!"[{e.address.render}]:{e.port}"

end Endpoint

end Rehearsal
