import Rehearsal.Dns.Cache
import Rehearsal.Http.Exchange

/-!
# What a scan asks of the world

Everything that a scan learns from outside comes as the answer to a question: a lookup through the
validating resolver, a query to one nameserver, an exchange with a web server, the addresses that
the system knows for a host, or a random number. Only lookups are cached; a question is what cannot
be answered twice in the same way.

`Outcome` adds to the value of an answer, and of anything that runs, the possibility that it breaks
down with a message.
-/

namespace Rehearsal

/-- What comes of something that may break down. -/
inductive Outcome (α : Type) where
  /-- It gives a value. -/
  | returned (value : α)
  /-- It breaks down. -/
  | crashed (message : String)
  deriving DecidableEq, Repr

namespace Outcome

variable {α : Type}

/-- The message with which it broke down. -/
def crash? : Outcome α → Option String
  | returned _ => none
  | crashed message => some message

/-- Did it break down? -/
def isCrash (o : Outcome α) : Bool := o.crash?.isSome

/-- The value, if there is one. -/
def value? : Outcome α → Option α
  | returned value => some value
  | crashed _ => none

/-- What is made of the value, if there is one. -/
def map {β : Type} (f : α → β) : Outcome α → Outcome β
  | returned value => returned (f value)
  | crashed message => crashed message

end Outcome

/-- A question that is asked anew each time. -/
inductive Question where
  /-- A query to one nameserver. -/
  | direct (server : IpAddress) (name : String) (type : RecordType)
  /-- A request over a connection of its own. -/
  | exchange (connection : Connection) (request : Request)
  /-- The addresses that the system knows for a host. -/
  | addresses (host : String)
  /-- A random number below a bound. -/
  | draw (below : Nat)
  deriving DecidableEq, Repr

namespace Question

/-- What answers a question. -/
abbrev Answer : Question → Type
  | direct .. => DirectOutcome
  | exchange .. => Exchange
  | addresses _ => List IpAddress
  | draw _ => Nat

end Question

end Rehearsal
