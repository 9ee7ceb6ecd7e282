import Rehearsal.Log
import Rehearsal.Job.Question

/-!
# Jobs

A job is what a scan does, as a tree: each node is one thing that reaches out, and the subtrees are
what follows for each answer. Since the tree is well founded, every job ends, whatever is answered.

Jobs run side by side by `Job.fork`. Children that run *apart* or are *loose* are jobs of their own,
which start when their parent waits; the parent is told when one of them ends. Children that run
*together* are parts of the parent and go on when it does. In each case the parent goes on as soon
as the completions so far are `enough` for it, or all children are through; whatever still runs then
is abandoned. `finish` sees the completions in the order in which they came.

A parent that is abandoned itself takes its children with it, unless they are loose: those go on,
and nobody waits for them any more.

## Main definitions

* `Job`, with its `Monad` instance: a crash ends what follows
* `Job.lookup`, `Job.ask`, `Job.log`, `Job.wait`, `Job.time`
* `Job.race`, `Job.all`, `Job.outcomes`, `Job.attempt`: the ways in which jobs are forked
-/

namespace Rehearsal

/-- How the children of a fork run. -/
inductive Manner where
  /-- As parts of their parent. -/
  | together
  /-- As jobs of their own. -/
  | apart
  /-- As jobs of their own, which go on if their parent is given up. -/
  | loose
  deriving DecidableEq, Repr

/-- What children of a fork have ended with so far, in the order in which they ended. -/
abbrev Completions (n : Nat) (β : Type) := List (Fin n × Outcome β)

/-- Something that a scan does, giving a value of type `α`. -/
inductive Job : Type → Type 1 where
  /-- The value is there. -/
  | done {α : Type} (value : α) : Job α
  /-- The job breaks down. -/
  | crash {α : Type} (message : String) : Job α
  /-- Writes a log line. -/
  | logThen {α : Type} (line : LogLine) (next : Job α) : Job α
  /-- Lets some milliseconds pass, and is told the time then. -/
  | waitThen {α : Type} (milliseconds : Nat) (next : Nat → Job α) : Job α
  /-- Asks a question. -/
  | askThen {α : Type} (question : Question) (next : question.Answer → Job α) : Job α
  /-- Looks a key up through the cache. -/
  | lookupThen {α : Type} (key : LookupKey) (next : LookupOutcome → Job α) : Job α
  /-- Runs children side by side. -/
  | fork {α β : Type} (manner : Manner) (n : Nat) (child : Fin n → Job β)
      (enough : Completions n β → Bool) (finish : Completions n β → Job α) : Job α

namespace Job

variable {α β : Type}

/-- Goes on with what follows the value of a job. -/
def bind : Job α → (α → Job β) → Job β
  | done value, f => f value
  | crash message, _ => crash message
  | logThen line next, f => logThen line (next.bind f)
  | waitThen milliseconds next, f => waitThen milliseconds fun time => (next time).bind f
  | askThen question next, f => askThen question fun a => (next a).bind f
  | lookupThen key next, f => lookupThen key fun a => (next a).bind f
  | fork manner n child enough finish, f =>
    fork manner n child enough fun completions => (finish completions).bind f

instance : Monad Job where
  pure := done
  bind := bind

/-- Writes a log line. -/
def log (line : LogLine) : Job Unit := logThen line (done ())

/-- Lets some milliseconds pass. -/
def wait (milliseconds : Nat) : Job Unit := waitThen milliseconds fun _ => done ()

/-- Tells the time in milliseconds. -/
def time : Job Nat := waitThen 0 done

/-- Asks a question. -/
def ask (question : Question) : Job question.Answer := askThen question done

/-- Looks a name up, in any spelling, through the cache. -/
def lookup (name : String) (type : RecordType) : Job LookupOutcome :=
  lookupThen (.ofName name type) done

/-! ### Ways to fork -/

/-- Runs jobs apart until the completions are enough. -/
def race (jobs : List (Job β)) (enough : Completions jobs.length β → Bool)
    (finish : Completions jobs.length β → Job α) : Job α :=
  fork .apart jobs.length jobs.get enough finish

/-- What a job ends with when its children have: their values in the order of the children, or the
first crash. -/
def gather {n : Nat} (completions : Completions n β) : Job (List β) :=
  match completions.findSome? fun c => c.2.crash? with
  | some message => crash message
  | none =>
    done ((List.finRange n).filterMap fun i => (completions.lookup i).bind Outcome.value?)

/-- Runs jobs together and gives their values in order; a crash of one of them is a crash of the
whole. -/
def all (jobs : List (Job β)) : Job (List β) :=
  fork .together jobs.length jobs.get (fun cs => cs.any fun c => c.2.isCrash) gather

/-- Runs jobs apart, each to its end, and gives what they ended with, in order. -/
def outcomes (jobs : List (Job β)) : Job (List (Outcome β)) :=
  race jobs (fun _ => false) fun completions =>
    done ((List.finRange jobs.length).filterMap fun i => completions.lookup i)

/-- Runs a job and catches its crash. -/
def attempt (job : Job β) : Job (Outcome β) :=
  fork .together 1 (fun _ => job) (fun _ => false) fun completions =>
    match completions with
    | c :: _ => done c.2
    | [] => crash "nothing was attempted"

end Job

end Rehearsal
