import Rehearsal.Check.Basic
import Rehearsal.Http.Redirect
import Rehearsal.Probe.Failure
import Rehearsal.Probe.Redirect
import Rehearsal.Probe.Result

/-!
# Emulated validation requests

`Probe.run` asks one address of a domain for the file of a challenge, as the validation server does:
the domain stays pinned to that address however the request is redirected, and any other host is
looked up, IPv6 addresses first. What happens goes into a `ProbeResult`; what is wrong becomes at
most one finding.

A probe may take only so long, with everything it waits for. A peer that keeps the client waiting
until then gives a fault that says so. Nobody tells the same of a lookup, which is shared with
others, so the probe looks at the clock when it has come to its end.

## Main definitions

* `Probe.findAddress`: the address that a host is reached at
* `Probe.visit`: one request and the redirects that follow
* `Probe.judge`: the verdict on a response
* `Probe.run`: the whole
-/

namespace Rehearsal

namespace Probe

/-! ### Finding an address -/

/-- A host has no address. -/
structure NoAddress where
  /-- The host. -/
  host : String
  /-- The last lookup that failed. -/
  cause : Option LookupError
  deriving DecidableEq, Repr

namespace NoAddress

/-- The text of the error. -/
def message (e : NoAddress) : String := s!"No AAAA or A records found for {e.host}"

/-- The texts of the error and its cause. -/
def layers (e : NoAddress) : List String := e.message :: e.cause.toList.map LookupError.message

end NoAddress

/-- Picks one of the addresses in records. -/
def pick (records : List Record) : Job (Option IpAddress) :=
  match Record.addresses records with
  | [] => .done none
  | first :: rest => do
    let drawn ← Job.ask (.draw (rest.length + 1))
    return some ((first :: rest).getD (drawn % (rest.length + 1)) first)

/-- Looks for an address of a host under some types in turn. -/
def findUnder (host : String) (failed : Option LookupError) :
    List RecordType → Job (Except NoAddress IpAddress)
  | [] => .done (.error ⟨host, failed⟩)
  | type :: types => do
    match ← Job.lookup host type with
    | .error e => findUnder host (some e) types
    | .ok records =>
      match ← pick records with
      | some address => return .ok address
      | none => findUnder host failed types

/-- An address at which a host is reached: one of the IPv6 addresses, or else one of the others. -/
def findAddress (host : String) : Job (Except NoAddress IpAddress) :=
  findUnder host none [.aaaa, .a]

/-! ### Sending requests -/

/-- What a probe goes by. -/
structure Plan where
  /-- The domain under test. -/
  domain : String
  /-- The address that it is pinned to. -/
  address : IpAddress
  /-- How requests are sent. -/
  settings : ProbeSettings
  /-- The URL that was requested first. -/
  first : Url
  deriving Repr

/-- A response that is judged, or the reason why there is none. -/
abbrev Arrival := Except ProbeFailure Response

/-- The record of a probe that has come to its end, the milliseconds that it took, and what it came
to. -/
abbrev Arrived := ProbeResult × Nat × Arrival

/-- The milliseconds that have passed since a probe began. -/
def since (began : Nat) : Job Nat := Job.time.bind fun now => .done (now - began)

/-- The failure of a request, which names the URL that was requested first. -/
def requestFailure (plan : Plan) (layers : List String) (timeout : Bool) : ProbeFailure :=
  .transport
    (ErrorChain.render (s!"error sending request for url ({plan.first.render})" :: layers)) timeout

/-- Where the requests for a URL go: the address and whether it was looked for. -/
def dial (plan : Plan) (url : Url) : Job (Except NoAddress (IpAddress × Bool)) :=
  match url.host with
  | some (.v4 address) => .done (.ok (.v4 address, false))
  | some (.v6 address) => .done (.ok (.v6 address, false))
  | some (.name host) =>
    let host := Domain.normalize host
    if host = Domain.normalize plan.domain then .done (.ok (plan.address, true))
    else (findAddress host).bind fun found => .done (found.map fun address => (address, true))
  | none => .done (.error ⟨"", none⟩)

/-- The port to which a URL leads. -/
def dialPort (plan : Plan) (url : Url) (lookedFor : Bool) : Nat :=
  match url.port with
  | some port => port
  | none =>
    let own := (Url.defaultPort url.scheme).getD 0
    if lookedFor then plan.settings.dialPort.getD own else own

/-- Does a URL lead to a host that has to be looked up? -/
def leaves (plan : Plan) (url : Url) : Bool :=
  match url.host with
  | some (.name host) => Domain.normalize host ≠ Domain.normalize plan.domain
  | _ => false

/-- Did the time of a probe run out while the host of a URL was looked up? -/
def isLate (plan : Plan) (elapsed : Nat) (url : Url) : Bool :=
  plan.settings.timeout ≤ elapsed && leaves plan url

/-- The failure of a probe whose time ran out. -/
def lateFailure (plan : Plan) : ProbeFailure := requestFailure plan ["operation timed out"] true

/-- The request for a URL. -/
def requestOf (plan : Plan) (url : Url) : Request :=
  ⟨url.target, url.hostText, some plan.settings.userAgent, some "*/*"⟩

/-- Requests a URL and follows redirects; `left` requests may follow this one before a redirect is
refused. -/
def visit (plan : Plan) (began : Nat) : (left : Nat) → Url → ProbeResult → Job Arrived
  | left, url, result => do
    let place ← dial plan url
    let elapsed ← since began
    if isLate plan elapsed url then return (result, elapsed, .error (lateFailure plan))
    match place with
    | .error e =>
      return (result, elapsed,
        .error (requestFailure plan ("client error (Connect)" :: "dns error" :: e.layers) false))
    | .ok (address, lookedFor) =>
      let result := if lookedFor then result.note elapsed s!"Dialing {address}" else result
      let connection : Connection :=
        ⟨address, dialPort plan url lookedFor, url.scheme == "https", true⟩
      let answer ← Job.ask (.exchange connection (requestOf plan url))
      let elapsed ← since began
      match answer with
      | .error fault =>
        return (result, elapsed, .error (requestFailure plan fault.layers fault.isTimeout))
      | .ok response =>
        match response.redirectTarget? url with
        | none => return (result, elapsed, .ok response)
        | some target =>
          let result := (result.observe elapsed response.status "").countRedirect
          match left with
          | 0 =>
            return (result, elapsed, .error (.redirect (Refusal.tooMany target maxHops).message))
          | left + 1 =>
            let result := result.note elapsed s!"Received redirect to {target.render}"
            match checkTarget target with
            | .error refusal => return (result, elapsed, .error (.redirect refusal.message))
            | .ok () => visit plan began left target result

/-! ### Judging -/

/-- The least number of bytes of a body that are kept, if there are as many. -/
def minKept : Nat := 8192

/-- How many bytes of a body are kept: enough to tell it from the expected one. -/
def bodyLimit (expected : String) : Nat := max minKept (Text.byteLength expected + 2)

/-- The verdict on a response whose body was read as far as it is kept. -/
def judge (domain expected : String) (result : ProbeResult) (broken : Option BodyFault) :
    Option Problem :=
  let body := Text.decodeLossy result.content
  let failed (message : String) : Option Problem :=
    some (explain domain result.address result.trace (.transport message false))
  match broken with
  | some fault =>
    let text := "experienced an error reading the response: " ++ ErrorChain.render fault.layers
    if expected.isEmpty then failed s!"we {text}"
    else
      failed (s!"This test expected the server to respond with \"{expected}\" but instead we " ++
        text)
  | none =>
    if expected.isEmpty then
      if HttpStatus.isExpected result.status then none
      else some (unexpectedResponse domain (HttpStatus.text result.status) body result.trace)
    else if body = expected then none
    else
      failed (s!"This test expected the server to respond with \"{expected}\" but instead we " ++
        s!"got a response beginning with \"{body}\"")

/-- Ends a probe with a response. -/
def conclude (domain expected : String) (result : ProbeResult) (elapsed : Nat)
    (response : Response) : ProbeResult × Option Problem :=
  let server := (response.textHeader? "server").getD ""
  let result := result.observe elapsed response.status server
  let (content, broken) := Body.read (bodyLimit expected) response.body response.ending
  let result := result.keep content
  (result, judge domain expected result broken)

/-- Ends a probe that failed. -/
def giveUp (domain : String) (result : ProbeResult) (elapsed : Nat) (failure : ProbeFailure) :
    ProbeResult × Option Problem :=
  let result := match failure with
    | .redirect _ => result
    | .transport message _ => result.note elapsed s!"Experienced error: {message}"
  (result, some (explain domain result.address result.trace failure))

/-- Ends a probe. -/
def finish (domain expected : String) : Arrived → ProbeResult × Option Problem
  | (result, elapsed, .error failure) => giveUp domain result elapsed failure
  | (result, elapsed, .ok response) => conclude domain expected result elapsed response

/-! ### The whole -/

/-- May the text stand in a header? -/
def isHeaderText (s : String) : Bool :=
  s.toList.all fun c => c == '\t' || (0x20 ≤ c.toNat && c.toNat ≠ 0x7F)

/-- The URL of a challenge file. -/
def challengeUrl (domain path : String) : String :=
  s!"http://{domain}/.well-known/acme-challenge/{path}"

/-- The URL that is requested first, in the form in which a request carries it. -/
def firstUrl (text : String) : Except ProbeFailure (Url × Url) :=
  match Url.ofText text with
  | .error e => .error (.transport s!"builder error: {e.message}" false)
  | .ok url =>
    let url := { url with username := "", password := "" }
    match url.onWire? with
    | some carried => .ok (url, carried)
    | none =>
      .error (.transport
        s!"builder error for url ({url.render}): Parsed Url is not a valid Uri" false)

/-- Sends an emulated validation request for a domain to one address. -/
def run (context : ScanContext) (domain : String) (address : IpAddress) :
    Job (ProbeResult × Option Problem) :=
  let text := challengeUrl domain context.options.effectivePath
  let expected := context.options.expectedBody
  let result := (ProbeResult.fresh address).note 0
    s!"Making a request to {text} (using initial IP {address})"
  if !isHeaderText context.probes.userAgent then
    .done (result, some (.internal
      "Failed to construct validation request: builder error: failed to parse header value" .error))
  else
    match firstUrl text with
    | .error failure => .done (giveUp domain result 0 failure)
    | .ok (shown, url) => do
      let began ← Job.time
      let arrived ← visit ⟨domain, address, context.probes, shown⟩ began (maxHops - 1) url result
      return finish domain expected arrived

end Probe

end Rehearsal
