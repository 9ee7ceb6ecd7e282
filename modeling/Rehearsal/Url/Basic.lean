import Rehearsal.Net.Address
import Rehearsal.Text.Utf8

/-!
# URLs

A URL in its parts, every one of them in normal form: the scheme in small letters, the host as it is
found, no port where the scheme has the same one by default, and everything else with the characters
escaped that must not stand there. `Url.render` writes it.
-/

namespace Rehearsal

/-- What a URL names as its server. -/
inductive UrlHost where
  /-- A name, in ASCII. -/
  | name (text : String)
  /-- An IPv4 address. -/
  | v4 (address : BitVec 32)
  /-- An IPv6 address. -/
  | v6 (address : BitVec 128)
  deriving DecidableEq, Repr

/-- Where on the server something is. -/
inductive UrlPath where
  /-- Segments, each with a slash before it. -/
  | segments (list : List String)
  /-- A text without structure, for schemes that know no servers. -/
  | plain (text : String)
  deriving DecidableEq, Repr

/-- A URL. -/
structure Url where
  /-- The scheme, in small letters. -/
  scheme : String
  /-- The user's name, perhaps empty. -/
  username : String
  /-- The password, perhaps empty. -/
  password : String
  /-- The server, which some schemes do without. -/
  host : Option UrlHost
  /-- The port, unless it is the scheme's own. -/
  port : Option Nat
  /-- Where on the server something is. -/
  path : UrlPath
  /-- What is asked, if there is a question mark. -/
  query : Option String
  /-- Which part is meant, if there is a number sign. -/
  fragment : Option String
  deriving DecidableEq, Repr

/-- Why a text is no URL. -/
inductive UrlError where
  /-- There is no scheme and nothing to be relative to. -/
  | relative
  /-- What it is relative to has no structure. -/
  | relativeToPlain
  /-- There is no host. -/
  | emptyHost
  /-- The host is no name. -/
  | badName
  /-- The host holds a character that it must not hold. -/
  | badCharacter
  /-- The host is a bad IPv4 address. -/
  | badV4
  /-- The host is a bad IPv6 address. -/
  | badV6
  /-- The port is none. -/
  | badPort
  deriving DecidableEq, Repr

namespace UrlError

/-- The text of an error. -/
def message : UrlError → String
  | relative => "relative URL without a base"
  | relativeToPlain => "relative URL with a cannot-be-a-base base"
  | emptyHost => "empty host"
  | badName => "invalid international domain name"
  | badCharacter => "invalid domain character"
  | badV4 => "invalid IPv4 address"
  | badV6 => "invalid IPv6 address"
  | badPort => "invalid port number"

end UrlError

namespace UrlHost

/-- The written form of a host. -/
def render : UrlHost → String
  | name text => text
  | v4 address => IpAddress.renderV4 address
  | v6 address => "[" ++ IpAddress.renderShort address ++ "]"

end UrlHost

namespace Url

/-- The schemes that always have a server, with their own ports. -/
def specialPorts : List (String × Option Nat) :=
  [("http", some 80), ("https", some 443), ("ws", some 80), ("wss", some 443), ("ftp", some 21),
    ("file", none)]

/-- Does the scheme always have a server? -/
def isSpecial (scheme : String) : Bool := (specialPorts.map (·.1)).contains scheme

/-- The port that a scheme has by default. -/
def defaultPort (scheme : String) : Option Nat := (specialPorts.lookup scheme).join

/-- The port that is used. -/
def effectivePort (u : Url) : Option Nat := u.port.or (defaultPort u.scheme)

/-- The user's name and password as they stand before the host. -/
def credentials (u : Url) : String :=
  if u.username.isEmpty && u.password.isEmpty then ""
  else u.username ++ (if u.password.isEmpty then "" else ":" ++ u.password) ++ "@"

/-- The written form of a path. -/
def pathText (u : Url) : String :=
  match u.path with
  | .plain text => text
  | .segments list => String.join (list.map fun s => "/" ++ s)

/-- The path and what is asked, as a server sees them. -/
def target (u : Url) : String :=
  u.pathText ++ match u.query with
    | some q => "?" ++ q
    | none => ""

/-- The host and the port, as they stand in a request. -/
def hostText (u : Url) : String :=
  (match u.host with
    | some h => h.render
    | none => "") ++
  match u.port with
  | some p => s!":{p}"
  | none => ""

/-- The written form of a URL. -/
def render (u : Url) : String :=
  u.scheme ++ ":" ++
    (match u.host with
    | some _ => "//" ++ u.credentials ++ u.hostText
    | none =>
      match u.path with
      | .segments ("" :: _ :: _) => "/."
      | _ => "") ++
    u.target ++
    match u.fragment with
    | some f => "#" ++ f
    | none => ""

end Url

end Rehearsal
