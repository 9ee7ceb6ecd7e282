import Rehearsal.Net.Address
import Rehearsal.Problem
import Rehearsal.Text.Search

/-!
# What failed probes mean

A probe that gets no acceptable response becomes one finding, which carries the whole trace. The
findings are grave but never fatal: a certificate authority may reach the domain from elsewhere.
-/

namespace Rehearsal

/-- Why a probe got no acceptable response. -/
inductive ProbeFailure where
  /-- A redirect that is not followed. -/
  | redirect (message : String)
  /-- The connection, the exchange or the body. -/
  | transport (message : String) (timeout : Bool)
  deriving DecidableEq, Repr

namespace Probe

/-- A text with the trace after it. -/
def withTrace (message : String) (trace : List String) : String :=
  s!"{message}\n\nTrace:\n" ++ "\n".intercalate trace

/-! ### Findings -/

/-- The server answers with the wrong protocol. -/
def misconfigured (domain detail : String) : Problem :=
  ⟨"WebserverMisconfiguration", s!"{domain}'s webserver may be misconfigured.", detail, .error⟩

/-- A request to an IPv6 address failed. -/
def aaaaNotWorking (domain : String) (address : IpAddress) (message : String)
    (trace : List String) : Problem :=
  ⟨"AAAANotWorking",
    s!"{domain} has an AAAA (IPv6) record ({address}) but a test request to this address over " ++
      "port 80 did not succeed. Your web server must have at least one working IPv4 or IPv6 " ++
      "address. You should either ensure that validation requests to this domain succeed over " ++
      "IPv6, or remove its AAAA record.",
    withTrace message trace, .error⟩

/-- A request to an IPv4 address failed. -/
def aNotWorking (domain : String) (address : IpAddress) (message : String)
    (trace : List String) : Problem :=
  ⟨"ANotWorking",
    s!"{domain} has an A (IPv4) record ({address}) but a request to this address over port 80 " ++
      "did not succeed. Your web server must have at least one working IPv4 or IPv6 address.",
    withTrace message trace, .error⟩

/-- A redirect that the validation server does not follow. -/
def badRedirect (domain message : String) (trace : List String) : Problem :=
  ⟨"BadRedirect",
    s!"Sending an ACME HTTP validation request to {domain} results in an unacceptable redirect. " ++
      "This is most likely a misconfiguration of your web server or your web application.",
    withTrace message trace, .error⟩

/-- A final status that no challenge and no absent file has. -/
def unexpectedResponse (domain status body : String) (trace : List String) : Problem :=
  ⟨"UnexpectedHttpResponse",
    s!"Sending an ACME HTTP validation request to {domain} results in unexpected HTTP response " ++
      s!"{status}. This indicates that the webserver is misconfigured or misbehaving.",
    withTrace s!"{status}\n\n{body}" trace, .warning⟩

/-! ### Which finding a failure becomes -/

/-- Does the text tell that one side spoke another protocol? -/
def isProtocolMismatch (message : String) : Bool :=
  Text.mentions message "HTTP response to HTTPS" || Text.mentions message "wrong version number"

/-- The finding that a failure becomes. -/
def explain (domain : String) (address : IpAddress) (trace : List String) :
    ProbeFailure → Problem
  | .redirect message => badRedirect domain message trace
  | .transport message timeout =>
    if isProtocolMismatch message then
      misconfigured domain
        (withTrace
          (s!"Web server is serving the wrong protocol on the wrong port: {message}. This may " ++
            "be due to a previous HTTP redirect rather than a webserver misconfiguration.") trace)
    else
      let message :=
        if timeout then
          s!"A timeout was experienced while communicating with {domain}/{address}: {message}"
        else message
      match address with
      | .v6 _ => aaaaNotWorking domain address message trace
      | .v4 _ => aNotWorking domain address message trace

end Probe

end Rehearsal
