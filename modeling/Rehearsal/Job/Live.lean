import Rehearsal.Job.Session

/-!
# Jobs under way

`Live` is a job that has begun: a tree whose leaves are the places where something is waiting for
its turn. `Live.advance` lets one place, given by a path from the root, take one step; which place
that is decides nobody here, so that a statement about all paths is a statement about all orders in
which things may happen. `Live.next?` finds the place whose turn it is by the clock.

Beside the job there may be strays, which were left behind when their parent was given up. They have
places of their own, and `Live.go` lets any place take its step.

## Main definitions

* `Live.begin`
* `Live.abandon`: gives up whatever runs, so that seats become free
* `Live.advance`: one step of one place
* `Live.go`: one step of one place of the job or of a stray
* `Live.next?`, `Live.turn?`: the place whose turn it is
-/

namespace Rehearsal

namespace Live

variable {α β : Type}

/-- A job that begins. -/
def begin (job : Job α) : Live α := ready .start job

/-- What a job has ended with. -/
def outcome? : Live α → Option (Outcome α)
  | ended outcome => some outcome
  | _ => none

/-! ### Giving up -/

/-- Gives up whatever runs: every seat is left. Loose children are left behind as they are. -/
def abandon : {α : Type} → Live α → Session → Session
  | _, ended _, s => s
  | _, ready .., s => s
  | _, calling _ key seat .., s => s.leave key seat
  | _, seated key seat _, s => s.leave key seat
  | _, forked .loose n children .., s =>
    s.leaveBehind ((List.finRange n).map fun i => ⟨children i⟩)
  | _, forked _ n children .., s =>
    (List.finRange n).foldl (fun s i => (children i).abandon s) s

/-- Gives up the children of a fork that goes on without them. -/
def abandonAll {n : Nat} (children : Fin n → Live β) (s : Session) : Session :=
  (List.finRange n).foldl (fun s i => (children i).abandon s) s

/-! ### One step -/

/-- Calls the resolver. -/
def call (peers : Peers) (due : Due) (key : LookupKey) (seat : Seat)
    (next : LookupOutcome → Job α) (s : Session) : Live α × Session :=
  let reply := peers.lookup s.journal key
  let (due, s) := (s.note (.called key)).later due reply.delay
  (calling due key seat reply.outcome next, s)

/-- What a job becomes when its question is answered. -/
def afterAnswer (next : β → Job α) : Outcome β → Job α
  | .returned value => next value
  | .crashed message => .crash message

/-- A lookup takes its seat, or finds the outcome. -/
def lookUp (peers : Peers) (due : Due) (key : LookupKey) (next : LookupOutcome → Job α)
    (s : Session) : Live α × Session :=
  let e := s.entry key
  match e.cell.outcome with
  | some outcome => (ready due (next outcome), s)
  | none =>
    let seat := s.ticket
    let s := { s with ticket := s.ticket + 1 }
    let s := s.store { e with cell := e.cell.join seat }
    match e.cell.queue with
    | [] => call peers due key seat next s
    | _ => (seated key seat next, s)

/-- The turn at which a child begins. -/
def dueOf (manner : Manner) (due : Due) (s : Session) (i : Nat) : Due :=
  match manner with
  | .together => due
  | .apart | .loose => ⟨s.clock, 0, s.ticket + i, 0⟩

/-- One step of a job whose turn it is. -/
def step (peers : Peers) (due : Due) : Job α → Session → Live α × Session
  | .done value, s => (ended (.returned value), s)
  | .crash message, s => (ended (.crashed message), s)
  | .logThen line next, s => (ready due next, s.note (.logged line))
  | .waitThen milliseconds next, s =>
    let (due, later) := s.later due milliseconds
    (ready due (next (s.clock + milliseconds)), later)
  | .askThen question next, s =>
    let reply := peers.answer s.journal question
    let (due, s) := (s.note (.asked question)).later due reply.delay
    (ready due (afterAnswer next reply.outcome), s)
  | .lookupThen key next, s => lookUp peers due key next s
  | .fork manner n child enough finish, s =>
    (forked manner n (fun i => ready (dueOf manner due s i) (child i)) []
        (if n = 0 then some due else none) enough finish,
      { s with ticket := s.ticket + n })

/-- The turn at which a job looks at its children after one of them has ended. -/
def wakeAfter (outer : Bool) (manner : Manner) (due : Due) (s : Session) : Due × Session :=
  match manner with
  | .together => (due, s)
  | .apart | .loose =>
    let (due, s) := s.queue 0
    ({ due with rank := if outer then 1 else 0 }, s)

/-- One step of the place at the end of a path. `outer` tells whether the job is the outermost one
or a part of it. Where there is nothing to do, nothing is done. -/
def advance (peers : Peers) : {α : Type} → Live α → (outer : Bool) → (due : Due) →
    (path : List Nat) → Session → Live α × Session
  | _, ended outcome, _, _, _, s => (ended outcome, s)
  | _, ready due job, _, _, _, s => step peers due job s
  | _, calling due key seat answer next, _, _, _, s =>
    match answer with
    | .returned outcome => (ready due (next outcome), s.settle key outcome)
    | .crashed message => (ended (.crashed message), s.leave key seat)
  | _, seated key seat next, _, due, _, s =>
    match (s.entry key).cell.outcome with
    | some outcome => (ready due (next outcome), s)
    | none =>
      if (s.entry key).cell.caller? = some seat then call peers due key seat next s
      else (seated key seat next, s)
  | _, forked manner n children completions wake enough finish, outer, due, path, s =>
    match path with
    | [] =>
      if completions.length = n || enough completions then
        (ready due (finish completions), abandonAll children s)
      else (forked manner n children completions none enough finish, s)
    | i :: path =>
      if h : i < n then
        let i : Fin n := ⟨i, h⟩
        let was := (children i).outcome?
        let (child, s) := (children i).advance peers (outer && manner = .together) due path s
        let children := fun j => if j = i then child else children j
        match was, child.outcome? with
        | none, some outcome =>
          let (wakeDue, s) := wakeAfter outer manner due s
          (forked manner n children (completions ++ [(i, outcome)]) (wake.or (some wakeDue)) enough
            finish, s)
        | _, _ => (forked manner n children completions wake enough finish, s)
      else (forked manner n children completions wake enough finish, s)

/-! ### One step of any place -/

/-- A place at which something may take a step. -/
inductive Place where
  /-- A place of the job. -/
  | own (path : List Nat)
  /-- A place of a stray, which is told by its number. -/
  | stray (i : Nat) (path : List Nat)
  deriving DecidableEq, Repr

/-- One step of a stray. -/
def advanceStray (peers : Peers) (i : Nat) (due : Due) (path : List Nat) (s : Session) : Session :=
  match s.strays[i]? with
  | none => s
  | some stray =>
    let (live, s) :=
      stray.live.advance peers false due path { s with strays := s.strays.set i .gone }
    { s with strays := s.strays.set i ⟨live⟩ }

/-- One step of a place, of the job or of a stray. -/
def go (peers : Peers) (live : Live α) (outer : Bool) (due : Due) (place : Place) (s : Session) :
    Live α × Session :=
  match place with
  | .own path => live.advance peers outer due path s
  | .stray i path => (live, advanceStray peers i due path s)

/-! ### Whose turn it is -/

/-- The earlier of two turns, the first if they are equal. -/
def earlier {ι : Type} : Option (Due × ι) → Option (Due × ι) → Option (Due × ι)
  | none, b => b
  | a, none => a
  | some a, some b => if b.1.isBefore a.1 then some b else some a

/-- The place whose turn it is, if anything can go on. -/
def next? (s : Session) : {α : Type} → Live α → Option (Due × List Nat)
  | _, ended _ => none
  | _, ready due _ => some (due, [])
  | _, calling due .. => some (due, [])
  | _, seated key seat _ => (s.turn? key seat).map fun due => (due, [])
  | _, forked _ n children _ wake _ _ =>
    (List.finRange n).foldl
      (fun best i => earlier best (((children i).next? s).map fun t => (t.1, i.val :: t.2)))
      (wake.map fun due => (due, []))

/-- The place among strays whose turn it is, if any of them can go on. -/
def nextStray? (s : Session) : Option (Due × Place) :=
  (List.finRange s.strays.length).foldl
    (fun best i => earlier best ((s.strays[i].live.next? s).map fun t => (t.1, .stray i.val t.2)))
    none

/-- The place whose turn it is, of the job or of a stray. -/
def turn? (live : Live α) (s : Session) : Option (Due × Place) :=
  earlier ((live.next? s).map fun t => (t.1, .own t.2)) (nextStray? s)

end Live

end Rehearsal
