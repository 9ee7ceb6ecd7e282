import Rehearsal.Job.Basic

/-!
# Jobs in sequence

Putting jobs one after another is associative, and a job that only gives a value changes nothing, so
the order of steps in a checker may be read off its text.
-/

namespace Rehearsal

namespace Job

variable {α β γ : Type}

@[simp] theorem bind_done (job : Job α) : job.bind done = job := by
  induction job with
  | done value => rfl
  | crash message => rfl
  | logThen line next ih => rw [Job.bind, ih]
  | waitThen milliseconds next ih => rw [Job.bind, funext ih]
  | askThen question next ih => rw [Job.bind, funext ih]
  | lookupThen key next ih => rw [Job.bind, funext ih]
  | fork manner n child enough finish _ ih => rw [Job.bind, funext ih]

theorem bind_assoc (job : Job α) (f : α → Job β) (g : β → Job γ) :
    (job.bind f).bind g = job.bind fun value => (f value).bind g := by
  induction job with
  | done value => rfl
  | crash message => rfl
  | logThen line next ih => rw [Job.bind, Job.bind, Job.bind, ih]
  | waitThen milliseconds next ih => simp only [Job.bind, ih]
  | askThen question next ih => simp only [Job.bind, ih]
  | lookupThen key next ih => simp only [Job.bind, ih]
  | fork manner n child enough finish _ ih => simp only [Job.bind, ih]

@[simp] theorem pure_eq_done (value : α) : (pure value : Job α) = done value := rfl

@[simp] theorem bind_eq_bind (job : Job α) (f : α → Job β) : job >>= f = job.bind f := rfl

instance : LawfulMonad Job :=
  LawfulMonad.mk' Job bind_done (fun _ _ => rfl) bind_assoc

end Job

end Rehearsal
