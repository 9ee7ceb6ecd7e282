import Rehearsal.Job.Basic

/-!
# What running jobs share

Jobs of one scan share a clock, a cache of lookups and a journal. The clock stands still while
jobs do their own work; only delays of answers and waiting move it. `Due` says when something is
its turn: at equal times in the order of tickets, which are given out when a job becomes able to
go on. The outermost job is special: it looks at its children only when no other job is able to go
on at that time.

A job that has begun is a tree, `Live`. Trees that were left behind when their parent was given up
go on beside it, so the session keeps them.

`Peers` is everything outside. A peer may take account of all that was asked before, so it may well
answer one question in two ways.
-/

namespace Rehearsal

/-- When it is something's turn. -/
structure Due where
  /-- The time in milliseconds. -/
  time : Nat
  /-- Zero, or one for what comes after everything else at that time. -/
  rank : Nat
  /-- The ticket. -/
  ticket : Nat
  /-- The seat, among those who wait for the same lookup. -/
  seat : Nat
  deriving DecidableEq, Repr

namespace Due

/-- The order of turns. -/
def isBefore (a b : Due) : Bool :=
  a.time < b.time || a.time = b.time &&
    (a.rank < b.rank || a.rank = b.rank &&
      (a.ticket < b.ticket || a.ticket = b.ticket && a.seat < b.seat))

/-- The turn of whatever starts everything. -/
def start : Due := ⟨0, 0, 0, 0⟩

end Due

/-- A job that has begun. -/
inductive Live : Type → Type 1 where
  /-- It has ended. -/
  | ended {α : Type} (outcome : Outcome α) : Live α
  /-- It goes on when it is its turn. -/
  | ready {α : Type} (due : Due) (job : Job α) : Live α
  /-- It has called the resolver, which answers when it is its turn. -/
  | calling {α : Type} (due : Due) (key : LookupKey) (seat : Seat)
      (answer : Outcome LookupOutcome) (next : LookupOutcome → Job α) : Live α
  /-- It waits for a call that somebody else made. -/
  | seated {α : Type} (key : LookupKey) (seat : Seat) (next : LookupOutcome → Job α) : Live α
  /-- Its children run; `wake` is when it looks at them. -/
  | forked {α β : Type} (manner : Manner) (n : Nat) (children : Fin n → Live β)
      (completions : Completions n β) (wake : Option Due) (enough : Completions n β → Bool)
      (finish : Completions n β → Job α) : Live α

/-- A job that goes on although nobody waits for it any more. -/
structure Stray where
  /-- The type of its value. -/
  {type : Type}
  /-- The job. -/
  live : Live type

namespace Stray

/-- What stands for a stray while it takes a step. -/
def gone : Stray := ⟨.ended (.returned ())⟩

end Stray

/-- Something that happened in a run. -/
inductive Event where
  /-- The resolver was called. -/
  | called (key : LookupKey)
  /-- A call of the resolver returned. -/
  | settled (key : LookupKey) (outcome : LookupOutcome)
  /-- A question was asked. -/
  | asked (question : Question)
  /-- A log line was written. -/
  | logged (line : LogLine)

/-- An answer with the time that it takes. -/
structure Reply (α : Type) where
  /-- The time in milliseconds. -/
  delay : Nat
  /-- What comes then. -/
  outcome : Outcome α

namespace Reply

/-- An answer that is there at once. -/
def now {α : Type} (value : α) : Reply α := ⟨0, .returned value⟩

end Reply

/-- Everything that answers, given what happened before. -/
structure Peers where
  /-- The validating resolver. -/
  lookup : List Event → LookupKey → Reply LookupOutcome
  /-- All the others. -/
  answer : List Event → (question : Question) → Reply question.Answer

/-- A key of the cache with its state. -/
structure CacheEntry where
  /-- The key. -/
  key : LookupKey
  /-- Its state. -/
  cell : LookupCell
  /-- Since when whoever waits can go on. -/
  since : Due

/-- What running jobs share. -/
structure Session where
  /-- The time in milliseconds. -/
  clock : Nat
  /-- The next ticket. -/
  ticket : Nat
  /-- The cache, each key at most once. -/
  cache : List CacheEntry
  /-- What happened, in order. -/
  journal : List Event
  /-- What was left behind, in order. -/
  strays : List Stray

namespace Session

/-- A session in which nothing has happened. -/
def fresh : Session := ⟨0, 1, [], [], []⟩

/-- The session of another scan: the cache is empty, and nothing was left behind. -/
def forget (s : Session) : Session := { s with cache := [], strays := [] }

/-- Adds to the journal. -/
def note (event : Event) (s : Session) : Session := { s with journal := s.journal ++ [event] }

/-- Jobs are left behind. -/
def leaveBehind (strays : List Stray) (s : Session) : Session :=
  { s with strays := s.strays ++ strays }

/-- The turn of something that becomes able to go on after a delay, and the session without that
ticket. -/
def queue (delay : Nat) (s : Session) : Due × Session :=
  (⟨s.clock + delay, 0, s.ticket, 0⟩, { s with ticket := s.ticket + 1 })

/-- The turn of something that goes on after a delay; without a delay it goes on at once. -/
def later (due : Due) (delay : Nat) (s : Session) : Due × Session :=
  if delay = 0 then (due, s) else s.queue delay

/-- The state of a key. -/
def entry (key : LookupKey) (s : Session) : CacheEntry :=
  (s.cache.find? fun e => e.key = key).getD ⟨key, .fresh, .start⟩

/-- Replaces the state of a key. -/
def store (entry : CacheEntry) (s : Session) : Session :=
  { s with cache := entry :: s.cache.filter fun e => e.key ≠ entry.key }

/-- A call returns. Whoever waits can go on. -/
def settle (key : LookupKey) (outcome : LookupOutcome) (s : Session) : Session :=
  let (due, s) := s.queue 0
  (s.store ⟨key, (s.entry key).cell.settle outcome, due⟩).note (.settled key outcome)

/-- Somebody leaves a seat. If a call is lost with it, the next in the queue can go on. -/
def leave (key : LookupKey) (seat : Seat) (s : Session) : Session :=
  let e := s.entry key
  if e.cell.caller? = some seat then
    let (due, s) := s.queue 0
    s.store ⟨key, e.cell.leave seat, due⟩
  else s.store { e with cell := e.cell.leave seat }

/-- When whoever sits on a seat can go on: the outcome is there, or it is their turn to call. -/
def turn? (key : LookupKey) (seat : Seat) (s : Session) : Option Due :=
  let e := s.entry key
  if e.cell.outcome.isSome || e.cell.caller? = some seat then some { e.since with seat } else none

end Session

end Rehearsal
