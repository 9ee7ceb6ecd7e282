import Rehearsal.Net.Endpoint
import Rehearsal.Options

/-!
# Configuration

What holds for every scan of one engine: how long each kind of network operation may take, which
public resolver the validating resolver forwards to, and which one is asked why an answer was
refused. `EngineConfig.resolverOptions` derives the settings of the validating resolver.
-/

namespace Rehearsal

/-- A public recursive resolver that answers are fetched through. They are validated locally,
whichever it is. -/
inductive PublicResolver where
  /-- 8.8.8.8 and its companions. -/
  | google
  /-- 1.1.1.1 and its companions. -/
  | cloudflare
  /-- 9.9.9.9 and its companions. -/
  | quad9
  deriving DecidableEq, Repr

namespace PublicResolver

/-- Every public resolver. -/
def all : List PublicResolver := [google, cloudflare, quad9]

/-- The name of a public resolver. -/
def name : PublicResolver → String
  | google => "Google"
  | cloudflare => "Cloudflare"
  | quad9 => "Quad9"

/-- The word that chooses a public resolver on the command line. -/
def word : PublicResolver → String
  | google => "google"
  | cloudflare => "cloudflare"
  | quad9 => "quad9"

/-- The public resolver of a name. -/
def ofName? (s : String) : Option PublicResolver := all.find? fun v => v.name == s

/-- The public resolver that a word chooses. -/
def ofWord? (s : String) : Option PublicResolver := all.find? fun v => v.word == s

end PublicResolver

/-- What holds for every scan of an engine; times are in milliseconds. -/
structure EngineConfig where
  /-- The longest that one resolution may take. -/
  dnsTimeout : Nat
  /-- The longest that one attempt of a resolution may take. -/
  dnsAttemptTimeout : Nat
  /-- The longest that a query to one nameserver may take. -/
  directQueryTimeout : Nat
  /-- The longest that an emulated validation request may take, redirects included. -/
  httpTimeout : Nat
  /-- The resolver that answers are fetched through. -/
  forwarder : PublicResolver
  /-- The resolver that is asked why an answer was refused, if any. -/
  extendedErrorResolver : Option Endpoint
  deriving DecidableEq, Repr

/-- Settings of the validating resolver; times are in milliseconds, lifetimes in seconds. -/
structure ResolverOptions where
  /-- The longest that one attempt may take. -/
  timeout : Nat
  /-- How many times a question is asked. -/
  attempts : Nat
  /-- How many dots make a name absolute before a search list is used. -/
  ndots : Nat
  /-- Are answers validated? -/
  validate : Bool
  /-- Are extended options sent? -/
  edns0 : Bool
  /-- Are names looked up in the hosts file? -/
  useHostsFile : Bool
  /-- Are the aliases on the way to an answer kept? -/
  preserveIntermediates : Bool
  /-- The shortest life of an answer. -/
  positiveMinTtl : Option Nat
  /-- The shortest life of an absent answer. -/
  negativeMinTtl : Option Nat
  /-- The longest life of an answer. -/
  positiveMaxTtl : Option Nat
  /-- The longest life of an absent answer. -/
  negativeMaxTtl : Option Nat
  deriving DecidableEq, Repr

namespace EngineConfig

/-- The configuration for which nothing was chosen. -/
def standard : EngineConfig where
  dnsTimeout := 60000
  dnsAttemptTimeout := 20000
  directQueryTimeout := 10000
  httpTimeout := 10000
  forwarder := .google
  extendedErrorResolver := some ⟨.v4 (IpAddress.ofOctets 8 8 8 8), 53⟩

/-- The timeouts with their names, in the order in which they are examined. -/
def timeouts (c : EngineConfig) : List (String × Nat) := [
  ("dns_timeout", c.dnsTimeout),
  ("dns_attempt_timeout", c.dnsAttemptTimeout),
  ("direct_query_timeout", c.directQueryTimeout),
  ("http_timeout", c.httpTimeout)]

/-- Accepts or refuses a configuration. -/
def validate (c : EngineConfig) : Except ConfigError Unit :=
  match c.timeouts.find? fun t => t.2 == 0 with
  | some (name, _) => .error (.zeroTimeout name)
  | none =>
    if c.dnsTimeout < c.dnsAttemptTimeout then .error .attemptExceedsTimeout else .ok ()

/-- The settings of the validating resolver: local validation, nothing kept between lookups, no
hosts file. -/
def resolverOptions (c : EngineConfig) : ResolverOptions where
  timeout := c.dnsAttemptTimeout
  attempts := 2
  ndots := 0
  validate := true
  edns0 := true
  useHostsFile := false
  preserveIntermediates := true
  positiveMinTtl := none
  negativeMinTtl := none
  positiveMaxTtl := some 0
  negativeMaxTtl := some 0

end EngineConfig

/-- Why no engine could be made. -/
inductive InitializationError where
  /-- The configuration is refused. -/
  | config (error : ConfigError)
  /-- The resolver cannot be set up. -/
  | resolver (message : String)
  deriving DecidableEq, Repr

namespace InitializationError

/-- The text of an error. -/
def message : InitializationError → String
  | config error => s!"Configuration error: {error.message}"
  | resolver message => s!"DNS resolver initialization error: {message}"

end InitializationError

namespace EngineConfig

/-- The settings of the validating resolver for a configuration that is accepted. -/
def resolverSettings (c : EngineConfig) : Except InitializationError ResolverOptions :=
  match c.validate with
  | .error e => .error (.config e)
  | .ok () => .ok c.resolverOptions

end EngineConfig

end Rehearsal
