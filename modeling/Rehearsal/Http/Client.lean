import Rehearsal.Http.Redirect
import Rehearsal.Job.Basic

/-!
# Ordinary requests

Some checks use the web as anybody else does: hosts have the addresses that the system knows,
certificates must be good, and at most ten redirects are followed. Why a request fails is not told.
-/

namespace Rehearsal

namespace Client

/-- What the client calls itself. -/
def userAgent : String :=
  "Mozilla/5.0 (compatible; ACME precheck emulating Let's Encrypt validation server)"

/-- How many redirects are followed. -/
def maxRedirects : Nat := 10

/-- The address of a host. -/
def addressOf : UrlHost → Job (Option IpAddress)
  | .v4 address => .done (some (.v4 address))
  | .v6 address => .done (some (.v6 address))
  | .name host => do return (← Job.ask (.addresses host)).head?

/-- May a redirect lead there? -/
def isWeb (url : Url) : Bool := url.scheme == "http" || url.scheme == "https"

/-- Where a response redirects to, if redirects are followed. -/
def targetOf (follow : Bool) (response : Response) (url : Url) : Option Url :=
  if follow then response.redirectTarget? url else none

/-- Requests a URL; `left` redirects may still be followed, and none at all if `follow` is off. -/
def visit (follow : Bool) : (left : Nat) → Url → Job (Option Response)
  | left, url =>
    match url.host with
    | none => .done none
    | some host => do
      match ← addressOf host with
      | none => return none
      | some address =>
        let connection : Connection :=
          ⟨address, url.effectivePort.getD 0, url.scheme == "https", false⟩
        let request : Request := ⟨url.target, url.hostText, some userAgent, some "*/*"⟩
        match ← Job.ask (.exchange connection request) with
        | .error _ => return none
        | .ok response =>
          match targetOf follow response url with
          | none => return some response
          | some target =>
            match left with
            | 0 => return none
            | left + 1 => if isWeb target then visit follow left target else return none

/-- Requests a URL in its written form. -/
def get (follow : Bool) (text : String) : Job (Option Response) :=
  match (Url.ofText text).toOption.bind fun url =>
      ({ url with username := "", password := "" } : Url).onWire? with
  | none => .done none
  | some url => visit follow maxRedirects url

end Client

end Rehearsal
