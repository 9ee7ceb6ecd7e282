import Rehearsal.Text.Blank
import Rehearsal.Url.Host
import Rehearsal.Url.Path

/-!
# Reading URLs

A URL is read from left to right: the scheme, the server with its credentials and port, the path,
what is asked, the fragment. Blanks and control characters around it are ignored, and so are tabs
and line ends inside. `Url.ofText` reads a URL that stands alone, `Url.join` one that may lack its
beginning and is then completed from another URL.

Only characters that must not stand where they do make a URL unreadable; most are escaped.
-/

namespace Rehearsal

namespace Url

/-! ### The text -/

/-- Is this a blank or a control character, which are ignored around a URL? -/
def isPadding (c : Char) : Bool := c.toNat ≤ 0x20

/-- The text without what is ignored. -/
def significant (cs : List Char) : List Char :=
  (Text.dropEndWhile isPadding (cs.dropWhile isPadding)).filter fun c =>
    !(['\t', '\n', '\r'].contains c)

/-- May the character stand in a scheme? -/
def isSchemeCharacter (c : Char) : Bool := c.isAlphanum || ['+', '-', '.'].contains c

/-- The scheme in small letters, and what follows its colon. -/
def splitScheme? (cs : List Char) : Option (String × List Char) :=
  match cs.span (· != ':') with
  | (c :: front, _ :: rest) =>
    if c.isAlpha && front.all isSchemeCharacter then
      some (String.ofList ((c :: front).map Text.asciiLower), rest)
    else none
  | _ => none

/-! ### What is asked, and the fragment -/

/-- The parts of a URL after its path. -/
structure Tail where
  /-- What is asked. -/
  query : Option String
  /-- Which part is meant. -/
  fragment : Option String

/-- Does the path end at the character? -/
def endsPath (c : Char) : Bool := c == '?' || c == '#'

/-- The fragment, after the number sign if there is one. -/
def readFragment : List Char → Option String
  | '#' :: cs => some (String.ofList (escape escapedInFragment cs))
  | _ => none

/-- What follows a path. -/
def readTail (special : Bool) : List Char → Tail
  | '?' :: cs =>
    let query := cs.takeWhile (· != '#')
    ⟨some (String.ofList (escape (escapedInQuery special) query)),
      readFragment (cs.drop query.length)⟩
  | cs => ⟨none, readFragment cs⟩

/-! ### The server -/

/-- Does the part of a URL that names the server end at the character? -/
def endsAuthority (special : Bool) (c : Char) : Bool := isSlash special c || endsPath c

/-- What stands before the last `@` and what after it. -/
def splitLastAt (cs : List Char) : Option (List Char × List Char) :=
  match cs.reverse.span (· != '@') with
  | (host, _ :: user) => some (user.reverse, host.reverse)
  | _ => none

/-- The characters of a host, which ends at the first colon that is not in brackets. -/
def hostLength (inside : Bool) : List Char → Nat
  | [] => 0
  | ':' :: cs => if inside then hostLength inside cs + 1 else 0
  | '[' :: cs => hostLength true cs + 1
  | ']' :: cs => hostLength false cs + 1
  | _ :: cs => hostLength inside cs + 1

/-- The port, which is left out if the scheme has it by default. -/
def readPort (scheme : String) (cs : List Char) : Except UrlError (Option Nat) :=
  match cs with
  | [] => .ok none
  | cs =>
    match Text.readDecimal cs with
    | some port =>
      if port < 65536 then .ok (if defaultPort scheme = some port then none else some port)
      else .error .badPort
    | none => .error .badPort

/-- The server that a URL names. -/
structure Authority where
  /-- The user's name. -/
  username : String
  /-- The password. -/
  password : String
  /-- The host. -/
  host : UrlHost
  /-- The port. -/
  port : Option Nat

/-- The user's name and the password, which the first colon separates. -/
def readCredentials (cs : List Char) : String × String :=
  let name := cs.takeWhile (· != ':')
  (String.ofList (escape escapedInCredentials name),
    String.ofList (escape escapedInCredentials (cs.drop (name.length + 1))))

/-- The part of a URL that names its server. -/
def readAuthority (scheme : String) (cs : List Char) : Except UrlError Authority := do
  let special := isSpecial scheme
  let (user, server) := (splitLastAt cs).getD ([], cs)
  let (username, password) := readCredentials user
  let length := hostLength false server
  let hostPart := server.take length
  let rest := server.drop length
  if hostPart.isEmpty && (special || !rest.isEmpty || cs.contains '@') then .error .emptyHost
  else
    let host ← readHost special hostPart
    return ⟨username, password, host, ← readPort scheme (rest.drop 1)⟩

/-! ### The kinds of URLs -/

/-- The path after a server: it begins with a slash, or is empty where the scheme allows it. -/
def readPath (special : Bool) (cs : List Char) : List String :=
  match cs with
  | [] => if special then [""] else []
  | c :: rest => readSegments special [] (if isSlash special c then rest else c :: rest)

/-- The rest of a URL after the two slashes in front of its server. -/
def readAfterSlashes (scheme : String) (cs : List Char) : Except UrlError Url := do
  let special := isSpecial scheme
  let server := cs.takeWhile fun c => !endsAuthority special c
  let rest := cs.drop server.length
  let a ← readAuthority scheme server
  let path := rest.takeWhile fun c => !endsPath c
  let tail := readTail special (rest.drop path.length)
  return ⟨scheme, a.username, a.password, some a.host, a.port,
    .segments (readPath special path), tail.query, tail.fragment⟩

/-- The rest of the URL of a file. -/
def readFile (cs : List Char) : Except UrlError Url := do
  let path := cs.takeWhile fun c => !endsPath c
  let tail := readTail true (cs.drop path.length)
  let (server, path) ← match path with
    | a :: b :: rest =>
      if isSlash true a && isSlash true b then
        let server := rest.takeWhile fun c => !isSlash true c
        if isDriveLetter server then .ok ([], rest) else .ok (server, rest.drop server.length)
      else .ok ([], path)
    | path => .ok ([], path)
  let host ← if server.isEmpty then .ok (UrlHost.name "") else readHost true server
  let segments := readFileSegments (match path with
    | c :: rest => if isSlash true c then rest else c :: rest
    | [] => [])
  let startsAtDrive := match segments with
    | first :: _ => isDriveLetter first.toList
    | [] => false
  let host := if host = .name "localhost" || startsAtDrive then .name "" else host
  return ⟨"file", "", "", some host, none, .segments segments, tail.query, tail.fragment⟩

/-- The rest of a URL whose scheme need not have a server. -/
def readOther (scheme : String) (cs : List Char) : Except UrlError Url :=
  match cs with
  | '/' :: '/' :: rest => readAfterSlashes scheme rest
  | cs =>
    let path := cs.takeWhile fun c => !endsPath c
    let tail := readTail false (cs.drop path.length)
    let path := match path with
      | '/' :: rest => .segments (readSegments false [] rest)
      | path => .plain (String.ofList (escape isForeign path))
    .ok ⟨scheme, "", "", none, none, path, tail.query, tail.fragment⟩

/-- Completes a URL without a scheme from another URL. -/
def readRelative (base : Url) (cs : List Char) : Except UrlError Url :=
  let special := isSpecial base.scheme
  match base.path with
  | .plain _ =>
    match readFragment cs with
    | some fragment => .ok { base with fragment := some fragment }
    | none => .error .relativeToPlain
  | .segments segments =>
    let slashes := (cs.takeWhile (isSlash special)).length
    if cs.take 2 = ['/', '/'] then readAfterSlashes base.scheme (cs.drop 2)
    else if 2 ≤ slashes then readAfterSlashes base.scheme (cs.drop slashes)
    else
      let path := cs.takeWhile fun c => !endsPath c
      let tail := readTail special (cs.drop path.length)
      if path.isEmpty then
        .ok { base with query := tail.query.or base.query, fragment := tail.fragment }
      else
        let start := if slashes = 0 then segments.dropLast else []
        .ok { base with path := .segments (readSegments special start (path.drop slashes)),
                        query := tail.query, fragment := tail.fragment }

/-- Reads a URL, completing it from another one where it lacks its beginning. -/
def read (base : Option Url) (text : String) : Except UrlError Url :=
  let cs := significant text.toList
  match splitScheme? cs, base with
  | none, none => .error .relative
  | none, some base => readRelative base cs
  | some (scheme, rest), base =>
    if scheme = "file" then readFile rest
    else if isSpecial scheme then
      let slashes := (rest.takeWhile (isSlash true)).length
      match base with
      | some b =>
        if slashes < 2 ∧ b.scheme = scheme then readRelative b rest
        else readAfterSlashes scheme (rest.drop slashes)
      | none => readAfterSlashes scheme (rest.drop slashes)
    else readOther scheme rest

/-- Reads a URL that stands alone. -/
def ofText (text : String) : Except UrlError Url := read none text

/-- Reads a URL that may be relative to this one. -/
def join (base : Url) (text : String) : Except UrlError Url := read (some base) text

end Url

end Rehearsal
