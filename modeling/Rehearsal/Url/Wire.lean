import Rehearsal.Url.Parser

/-!
# URLs on the wire

A request carries less than a URL can say: there is no fragment, the path begins with a slash, and
the part that names the server is made of few characters. `Url.onWire?` is the URL as a request
carries it, if one can.

A URL without a server is carried only if all of it could stand in the place of a server, as
`mailto:a@example.org` could; a redirect to it can then be told apart from a broken one.
-/

namespace Rehearsal

namespace Url

/-- The longest text of a URL that a request carries, in bytes. -/
def longest : Nat := 65534

/-- The longest scheme that a request carries. -/
def longestScheme : Nat := 64

/-- May the character stand in the part of a request that names the server? -/
def isAuthorityCharacter (c : Char) : Bool :=
  c.isAlphanum || "!$%&'()*+,-.:;=@[]_~".toList.contains c

/-- Are there no brackets, or two of them in order? -/
def bracketsMatch (cs : List Char) : Bool :=
  (cs.filter fun c => c == '[' || c == ']') ∈ [[], ['[', ']']]

/-- Can the text name a server in a request? -/
def isAuthority (cs : List Char) : Bool :=
  let server := match splitLastAt cs with
    | some (_, server) => server
    | none => cs
  let port := (server.reverse.takeWhile (· != ']')).reverse
  cs.all isAuthorityCharacter && bracketsMatch cs && !server.isEmpty && !port.contains '%' &&
    port.count ':' ≤ 1

/-- The URL as a request carries it. -/
def onWire? (u : Url) : Option Url :=
  if longest < Text.byteLength u.render then none
  else
    match u.path, u.host with
    | .segments segments, some _ =>
      if isAuthority (u.credentials ++ u.hostText).toList && u.scheme.length ≤ longestScheme then
        some { u with
          path := .segments (if segments.isEmpty then [""] else segments)
          fragment := none }
      else none
    | .plain _, none => if isAuthority u.render.toList then some u else none
    | _, _ => none

end Url

end Rehearsal
