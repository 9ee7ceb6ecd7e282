import Rehearsal.Http.Status
import Rehearsal.Net.Address
import Rehearsal.Text.Utf8

/-!
# The record of a probe

A probe is one emulated validation request to one address of a domain. `ProbeResult` is what is
known about it at any moment; it is kept even when the probe ends in a finding, so that the answers
over both address families can be compared. Every line of the trace begins with the time since the
first one.
-/

namespace Rehearsal

/-- What is known about a probe. -/
structure ProbeResult where
  /-- The address that the domain is pinned to. -/
  address : IpAddress
  /-- The code of the last response, zero if there was none. -/
  status : Nat
  /-- The code of the first response, zero if there was none. -/
  firstStatus : Nat
  /-- The `Server` header of the last response. -/
  server : String
  /-- How many redirects the client was asked to follow. -/
  redirects : Nat
  /-- The beginning of the body. -/
  content : Bytes
  /-- What happened, in order. -/
  trace : List String
  deriving DecidableEq, Repr

namespace ProbeResult

/-- A probe that has not begun. -/
def fresh (address : IpAddress) : ProbeResult := ⟨address, 0, 0, "", 0, [], []⟩

/-- Did no response arrive? -/
def isSilent (r : ProbeResult) : Bool := r.status == 0

/-- The trace, one line per event. -/
def traceText (r : ProbeResult) : String := "\n".intercalate r.trace

/-- The name of the address's family. -/
def family (a : IpAddress) : String := if a.isV4 then "IPv4" else "IPv6"

/-- The result on one line. -/
def render (r : ProbeResult) : String :=
  s!"[Address={r.address},Address Type={family r.address},Server={r.server}," ++
    s!"HTTP Status={r.firstStatus}" ++
    (if 0 < r.redirects then
      s!",Number of Redirects={r.redirects},Final HTTP Status={r.status}" else "") ++ "]"

/-- A line with the milliseconds that have passed since the first one. -/
def stamp (elapsed : Nat) (line : String) : String := s!"@{elapsed}ms: " ++ line

/-- Puts a line at the end of the trace. -/
def note (elapsed : Nat) (line : String) (r : ProbeResult) : ProbeResult :=
  { r with trace := r.trace ++ [stamp elapsed line] }

/-- Notes a response and its `Server` header. -/
def observe (elapsed status : Nat) (server : String) (r : ProbeResult) : ProbeResult :=
  note elapsed s!"Server response: HTTP {HttpStatus.text status}"
    { r with
      firstStatus := if r.firstStatus = 0 then status else r.firstStatus
      status := status
      server := server }

/-- Counts a redirect. -/
def countRedirect (r : ProbeResult) : ProbeResult := { r with redirects := r.redirects + 1 }

/-- Keeps the beginning of the body. -/
def keep (content : Bytes) (r : ProbeResult) : ProbeResult := { r with content }

end ProbeResult

end Rehearsal
