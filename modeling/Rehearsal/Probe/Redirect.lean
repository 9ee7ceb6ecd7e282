import Rehearsal.Url.Parser

/-!
# Redirects that are followed

The validation server follows a redirect only to a web server on one of the two standard ports, and
only ten times. A host that ends in `.well-known` comes from a redirect rule that lacks the slash
after the name of the domain, and is refused for the sake of a better explanation.
-/

namespace Rehearsal

namespace Probe

/-- How many requests are sent in one probe before a redirect is refused. -/
def maxHops : Nat := 10

/-- The ports that a redirect may name. -/
def allowedPorts : List Nat := [80, 443]

/-- The schemes that a redirect may name. -/
def allowedSchemes : List String := ["http", "https"]

/-- Why a redirect is not followed. -/
inductive Refusal where
  /-- The port is not one of the two. -/
  | port (target : Url) (number : Nat)
  /-- The scheme is not one of the two. -/
  | scheme (target : Url)
  /-- A slash is missing after the domain. -/
  | missingSlash (target : Url)
  /-- There were too many redirects already. -/
  | tooMany (target : Url) (requests : Nat)
  deriving DecidableEq, Repr

namespace Refusal

/-- The text of a refusal. -/
def message : Refusal → String
  | port target number => s!"Bad port number provided when fetching {target.render}: {number}"
  | scheme target => s!"Bad scheme provided when fetching {target.render}: {target.scheme}"
  | missingSlash target =>
    "It appears that a redirect was generated by your web server that is missing a trailing " ++
      s!"slash after your domain name: {target.render}. Check your web server configuration and " ++
      ".htaccess for Redirect/RedirectMatch/RewriteRule."
  | tooMany target requests =>
    s!"Too many redirects ({requests}), last redirect was to: {target.render}"

end Refusal

/-- Does the host end as if the path had grown onto it? -/
def isMissingSlash (target : Url) : Bool :=
  match target.host with
  | some host => ".well-known".toList.isSuffixOf (host.render.toList.map Text.asciiLower)
  | none => false

/-- Checks what a redirect leads to. -/
def checkTarget (target : Url) : Except Refusal Unit :=
  match target.port with
  | some port =>
    if allowedPorts.contains port then rest else .error (.port target port)
  | none => rest
where
  /-- The checks after that of the port. -/
  rest : Except Refusal Unit :=
    if !allowedSchemes.contains target.scheme then .error (.scheme target)
    else if isMissingSlash target then .error (.missingSlash target)
    else .ok ()

end Probe

end Rehearsal
