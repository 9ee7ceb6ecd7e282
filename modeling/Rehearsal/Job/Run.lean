import Rehearsal.Job.Live

/-!
# Running jobs by the clock

`Job.run` lets places of a job take their steps in the order of their turns until the job has
ended. The fuel bounds the number of steps; it is not part of what a job means, for a run that ends
within some fuel ends in the same way within any larger one. `Live.linger` shows what becomes of
those that were left behind.
-/

namespace Rehearsal

namespace Live

variable {α : Type}

/-- Runs until the end, if it is reached with the fuel. -/
def run (peers : Peers) : Nat → Live α → Session → Option (Outcome α × Session)
  | 0, _, _ => none
  | fuel + 1, live, s =>
    match live.outcome? with
    | some outcome => some (outcome, s)
    | none =>
      match live.turn? s with
      | none => none
      | some (due, place) =>
        let s := { s with clock := max s.clock due.time }
        let (live, s) := live.go peers true due place s
        live.run peers fuel s

/-- Lets strays go on up to some time, by at most as many steps as there is fuel. -/
def linger (peers : Peers) (limit : Nat) : Nat → Session → Session
  | 0, s => s
  | fuel + 1, s =>
    match nextStray? s with
    | none => s
    | some (due, place) =>
      if due.time ≤ limit then
        let s := { s with clock := max s.clock due.time }
        linger peers limit fuel ((ended (.returned ())).go peers true due place s).2
      else s

end Live

namespace Job

variable {α : Type}

/-- Runs a job until its end, if it is reached with the fuel. -/
def run (peers : Peers) (fuel : Nat) (job : Job α) (s : Session) :
    Option (Outcome α × Session) :=
  (Live.ready ⟨s.clock, 0, 0, 0⟩ job).run peers fuel s

end Job

end Rehearsal
