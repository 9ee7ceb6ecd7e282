import Rehearsal.Proofs.Job.Sequence

/-!
# Races by their completions

What a race goes on with is the list of what its children have ended with so far. A race that does
nothing but give this list is a job of its own, and any other race is that job with something after
it. So what is said about the list and what is made of it need not be said together, and a run may
be told by the lists of its races.

The list is complete: whatever has ended when the race goes on is in it, each child once, in the
order in which they ended. A child that ends after the race has found enough, but before it goes on,
is in the list as well.

## Main definitions

* `Job.endings`, `Job.endingsTogether`: runs jobs apart or together and gives their completions

## Main results

* `Job.race_eq_bind`: a race is that of its completions, and what follows
* `Job.Ends.endings`: what the completions of a run are
-/

namespace Rehearsal

namespace Job

variable {α β : Type} {peers : Peers} {s s' : Session} {jobs : List (Job β)}
  {enough : Completions jobs.length β → Bool}

/-- Runs jobs apart until the completions are enough, and gives these. -/
def endings (jobs : List (Job β)) (enough : Completions jobs.length β → Bool) :
    Job (Completions jobs.length β) :=
  race jobs enough done

theorem race_eq_bind (finish : Completions jobs.length β → Job α) :
    race jobs enough finish = (endings jobs enough).bind finish := rfl

theorem attached_endings (h : ∀ job ∈ jobs, job.Attached) : (endings jobs enough).Attached :=
  ⟨by simp, fun i => h _ (List.get_mem jobs i), fun _ => trivial⟩

/-- **What the completions of a run are**: what the children have ended with, each once, as they
were when the race went on, and it goes on when these are enough or all. -/
theorem Ends.endings {outcome : Outcome (Completions jobs.length β)}
    (h : (endings jobs enough).Ends peers s outcome s') :
    ∃ completions, outcome = .returned completions ∧
      (completions.map Prod.fst).Nodup ∧
      (completions.length = jobs.length ∨ enough completions = true) ∧
      ∃ children : Fin jobs.length → Live β, Live.Came peers jobs.get children ∧
        ∀ i o, (i, o) ∈ completions ↔ children i = .ended o := by
  obtain ⟨_, _, _, children, completions, _, _, _, _, _, _, hcame, htally, hthrough, _, _, hend⟩ :=
    Ends.fork h
  exact ⟨completions, hend.done.1, htally.nodup, hthrough, children, hcame, htally.mem⟩

/-! ### Jobs that run together -/

/-- Runs jobs together until one of them breaks down, and gives their completions. -/
def endingsTogether (jobs : List (Job β)) : Job (Completions jobs.length β) :=
  fork .together jobs.length jobs.get (fun cs => cs.any fun c => c.2.isCrash) done

theorem all_eq_bind (jobs : List (Job β)) : all jobs = (endingsTogether jobs).bind gather := rfl

end Job

end Rehearsal
