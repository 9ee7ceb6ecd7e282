import Rehearsal.Job.Run
import Mathlib.Logic.Function.Basic
import Mathlib.Logic.Relation

/-!
# What one turn does

`Live.advance` computes a step of one place and, along with it, turns, tickets and times, which
decide who comes next and nothing else. `Live.Turn` says what is left when they are taken away:
how a job under way changes and what it does to the cache, the journal and what is left behind.
Every statement about runs rests on it, by cases on what a turn can do.

What was left behind takes turns of its own. To the job that goes on beside it this is time that
passes, though the cache and the journal may change meanwhile.

## Main definitions

* `Session.Passes`: time passes and tickets are given out, and nothing else happens
* `Session.sit`: somebody takes a seat
* `Live.Turn`: what a turn does, one constructor for each kind of turn
* `Live.Below`: a job under way is somewhere below another
* `Session.Drift`, `Session.Drifts`: what was left behind goes on

## Main results

* `Live.advance_turn`: a step is a turn, or nothing happens
* `Live.advanceStray_drifts`: a step of a stray is a turn of it, or nothing happens
* `Live.Turn.leavesBehind`: what a turn leaves behind was below the job
-/

namespace Rehearsal

namespace Session

variable {s s' s'' : Session}

/-- Time passes and tickets are given out. -/
structure Passes (s s' : Session) : Prop where
  /-- The cache stays as it is. -/
  cache : s'.cache = s.cache
  /-- The journal stays as it is. -/
  journal : s'.journal = s.journal
  /-- Nothing is left behind, and what was stays as it is. -/
  strays : s'.strays = s.strays
  /-- No ticket is given out twice. -/
  ticket : s.ticket ≤ s'.ticket

theorem Passes.refl (s : Session) : s.Passes s := ⟨rfl, rfl, rfl, Nat.le_refl _⟩

theorem Passes.trans (h : s.Passes s') (h' : s'.Passes s'') : s.Passes s'' :=
  ⟨h'.cache.trans h.cache, h'.journal.trans h.journal, h'.strays.trans h.strays,
    Nat.le_trans h.ticket h'.ticket⟩

theorem passes_later (due : Due) (delay : Nat) (s : Session) : s.Passes (s.later due delay).2 := by
  unfold later
  split
  · exact .refl s
  · exact ⟨rfl, rfl, rfl, Nat.le_succ _⟩

theorem passes_tickets (n : Nat) (s : Session) : s.Passes { s with ticket := s.ticket + n } :=
  ⟨rfl, rfl, rfl, Nat.le_add_right _ _⟩

theorem passes_clock (clock : Nat) (s : Session) : s.Passes { s with clock } :=
  ⟨rfl, rfl, rfl, Nat.le_refl _⟩

theorem Passes.entry (h : s.Passes s') (key : LookupKey) : s'.entry key = s.entry key := by
  unfold Session.entry
  rw [h.cache]

theorem Passes.note (h : s.Passes s') (event : Event) : (s.note event).Passes (s'.note event) :=
  ⟨h.cache, by simp [Session.note, h.journal], h.strays, h.ticket⟩

/-- Somebody takes a seat for a key; the seat is the next ticket. -/
def sit (key : LookupKey) (s : Session) : Session :=
  { s with ticket := s.ticket + 1 }.store
    { s.entry key with cell := (s.entry key).cell.join s.ticket }

/-! ### The state of a key after an operation -/

@[simp] theorem key_entry (key : LookupKey) (s : Session) : (s.entry key).key = key := by
  unfold entry
  cases h : s.cache.find? fun e => e.key = key with
  | none => rfl
  | some e => simpa using List.find?_some h

theorem entry_of_cache_eq_nil (h : s.cache = []) (key : LookupKey) :
    s.entry key = ⟨key, .fresh, .start⟩ := by
  simp [entry, h]

theorem entry_store (entry : CacheEntry) (key : LookupKey) (s : Session) :
    (s.store entry).entry key = if key = entry.key then entry else s.entry key := by
  unfold store Session.entry
  by_cases h : key = entry.key
  · subst h
    simp
  · have hne : entry.key ≠ key := fun e => h e.symm
    have hfilter : (s.cache.filter fun e => e.key ≠ entry.key).find? (fun e => e.key = key) =
        s.cache.find? fun e => e.key = key := by
      rw [List.find?_filter]
      congr 1
      funext e
      by_cases he : e.key = key <;> simp [he, h]
    rw [if_neg h, List.find?_cons_of_neg (by simpa using hne), hfilter]

@[simp] theorem entry_note (event : Event) (key : LookupKey) (s : Session) :
    (s.note event).entry key = s.entry key := rfl

@[simp] theorem cell_entry_sit (key key' : LookupKey) (s : Session) :
    ((s.sit key).entry key').cell =
      if key' = key then (s.entry key).cell.join s.ticket else (s.entry key').cell := by
  rw [sit, entry_store, key_entry]
  split <;> rfl

@[simp] theorem cell_entry_settle (key key' : LookupKey) (outcome : LookupOutcome) (s : Session) :
    ((s.settle key outcome).entry key').cell =
      if key' = key then (s.entry key).cell.settle outcome else (s.entry key').cell := by
  rw [settle, entry_note, entry_store]
  split <;> rfl

@[simp] theorem cell_entry_leave (key key' : LookupKey) (seat : Seat) (s : Session) :
    ((s.leave key seat).entry key').cell =
      if key' = key then (s.entry key).cell.leave seat else (s.entry key').cell := by
  unfold leave
  simp only
  split <;> rw [entry_store] <;> simp only [key_entry] <;> split <;> rfl

@[simp] theorem journal_note (event : Event) (s : Session) :
    (s.note event).journal = s.journal ++ [event] := rfl

@[simp] theorem journal_sit (key : LookupKey) (s : Session) : (s.sit key).journal = s.journal := rfl

@[simp] theorem journal_settle (key : LookupKey) (outcome : LookupOutcome) (s : Session) :
    (s.settle key outcome).journal = s.journal ++ [.settled key outcome] := rfl

@[simp] theorem journal_leave (key : LookupKey) (seat : Seat) (s : Session) :
    (s.leave key seat).journal = s.journal := by
  unfold leave
  simp only
  split <;> rfl

@[simp] theorem strays_leave (key : LookupKey) (seat : Seat) (s : Session) :
    (s.leave key seat).strays = s.strays := by
  unfold leave
  simp only
  split <;> rfl

@[simp] theorem strays_leaveBehind (strays : List Stray) (s : Session) :
    (s.leaveBehind strays).strays = s.strays ++ strays := rfl

theorem ticket_le_leave (key : LookupKey) (seat : Seat) (s : Session) :
    s.ticket ≤ (s.leave key seat).ticket := by
  unfold leave
  simp only
  split
  · exact Nat.le_succ _
  · exact Nat.le_refl _

end Session

namespace Live

variable {α β : Type} {peers : Peers}

/-- What a turn does, when it is whose turn left aside: how a job under way changes and what happens
to the session. -/
inductive Turn (peers : Peers) : {α : Type} → Live α → Session → Live α → Session → Prop where
  /-- A value is there. -/
  | done {α : Type} {due : Due} {value : α} {s : Session} :
    Turn peers (ready due (.done value)) s (ended (.returned value)) s
  /-- A job breaks down. -/
  | crash {α : Type} {due : Due} {message : String} {s : Session} :
    Turn peers (ready due (.crash message) : Live α) s (ended (.crashed message)) s
  /-- A line is written. -/
  | log {α : Type} {due due' : Due} {line : LogLine} {next : Job α} {s : Session} :
    Turn peers (ready due (.logThen line next)) s (ready due' next) (s.note (.logged line))
  /-- Time is let pass. -/
  | wait {α : Type} {due due' : Due} {milliseconds time : Nat} {next : Nat → Job α}
      {s : Session} (passed : milliseconds ≤ time) :
    Turn peers (ready due (.waitThen milliseconds next)) s (ready due' (next time)) s
  /-- A question is asked and answered. -/
  | ask {α : Type} {due due' : Due} {question : Question} {next : question.Answer → Job α}
      {s : Session} :
    Turn peers (ready due (.askThen question next)) s
      (ready due' (afterAnswer next (peers.answer s.journal question).outcome))
      (s.note (.asked question))
  /-- The outcome of a lookup is there already. -/
  | hit {α : Type} {due due' : Due} {key : LookupKey} {next : LookupOutcome → Job α} {s : Session}
      {outcome : LookupOutcome} (known : (s.entry key).cell.outcome = some outcome) :
    Turn peers (ready due (.lookupThen key next)) s (ready due' (next outcome)) s
  /-- Nobody waits for the outcome: the resolver is called. -/
  | call {α : Type} {due due' : Due} {key : LookupKey} {next : LookupOutcome → Job α} {s : Session}
      (unknown : (s.entry key).cell.outcome = none) (alone : (s.entry key).cell.queue = []) :
    Turn peers (ready due (.lookupThen key next)) s
      (calling due' key s.ticket (peers.lookup s.journal key).outcome next)
      ((s.sit key).note (.called key))
  /-- Others wait for the outcome. -/
  | join {α : Type} {due : Due} {key : LookupKey} {next : LookupOutcome → Job α} {s : Session}
      (unknown : (s.entry key).cell.outcome = none) (others : (s.entry key).cell.queue ≠ []) :
    Turn peers (ready due (.lookupThen key next)) s (seated key s.ticket next) (s.sit key)
  /-- Children are set going. -/
  | fork {α β : Type} {due : Due} {manner : Manner} {n : Nat} {child : Fin n → Job β}
      {enough : Completions n β → Bool} {finish : Completions n β → Job α} {s : Session}
      {dues : Fin n → Due} {wake : Option Due} (awake : n = 0 → wake.isSome) :
    Turn peers (ready due (.fork manner n child enough finish)) s
      (forked manner n (fun i => ready (dues i) (child i)) [] wake enough finish) s
  /-- A call returns. -/
  | settle {α : Type} {due due' : Due} {key : LookupKey} {seat : Seat} {outcome : LookupOutcome}
      {next : LookupOutcome → Job α} {s : Session} :
    Turn peers (calling due key seat (.returned outcome) next) s (ready due' (next outcome))
      (s.settle key outcome)
  /-- A call breaks down. -/
  | lose {α : Type} {due : Due} {key : LookupKey} {seat : Seat} {message : String}
      {next : LookupOutcome → Job α} {s : Session} :
    Turn peers (calling due key seat (.crashed message) next) s (ended (.crashed message))
      (s.leave key seat)
  /-- Who waited gets the outcome. -/
  | serve {α : Type} {due : Due} {key : LookupKey} {seat : Seat} {next : LookupOutcome → Job α}
      {s : Session} {outcome : LookupOutcome}
      (known : (s.entry key).cell.outcome = some outcome) :
    Turn peers (seated key seat next) s (ready due (next outcome)) s
  /-- Who waited calls the resolver anew. -/
  | takeOver {α : Type} {due : Due} {key : LookupKey} {seat : Seat} {next : LookupOutcome → Job α}
      {s : Session} (head : (s.entry key).cell.caller? = some seat) :
    Turn peers (seated key seat next) s
      (calling due key seat (peers.lookup s.journal key).outcome next) (s.note (.called key))
  /-- The completions are enough: what still runs is given up. -/
  | finish {α β : Type} {due : Due} {manner : Manner} {n : Nat} {children : Fin n → Live β}
      {completions : Completions n β} {wake : Option Due} {enough : Completions n β → Bool}
      {finish : Completions n β → Job α} {s : Session}
      (through : completions.length = n ∨ enough completions = true) :
    Turn peers (forked manner n children completions wake enough finish) s
      (ready due (finish completions)) (abandonAll children s)
  /-- The completions are not enough. -/
  | sleep {α β : Type} {due : Due} {manner : Manner} {n : Nat} {children : Fin n → Live β}
      {completions : Completions n β} {enough : Completions n β → Bool}
      {finish : Completions n β → Job α} {s : Session} (short : completions.length ≠ n) :
    Turn peers (forked manner n children completions (some due) enough finish) s
      (forked manner n children completions none enough finish) s
  /-- A child goes on. -/
  | part {α β : Type} {manner : Manner} {n : Nat} {children : Fin n → Live β} {child : Live β}
      {completions : Completions n β} {wake : Option Due} {enough : Completions n β → Bool}
      {finish : Completions n β → Job α} {s s' : Session} (i : Fin n)
      (turn : Turn peers (children i) s child s') (going : child.outcome? = none) :
    Turn peers (forked manner n children completions wake enough finish) s
      (forked manner n (Function.update children i child) completions wake enough finish) s'
  /-- A child ends. -/
  | partEnds {α β : Type} {manner : Manner} {n : Nat} {children : Fin n → Live β}
      {outcome : Outcome β} {completions : Completions n β} {wake wake' : Option Due}
      {enough : Completions n β → Bool} {finish : Completions n β → Job α} {s s' : Session}
      (i : Fin n) (turn : Turn peers (children i) s (ended outcome) s') (awake : wake'.isSome) :
    Turn peers (forked manner n children completions wake enough finish) s
      (forked manner n (Function.update children i (ended outcome)) (completions ++ [(i, outcome)])
        wake' enough finish) s'

theorem eq_ended_of_outcome?_eq_some {live : Live α} {outcome : Outcome α}
    (h : live.outcome? = some outcome) : live = ended outcome := by
  cases live with
  | ended o => rw [outcome?, Option.some.injEq] at h; rw [h]
  | ready | calling | seated | forked => cases h

theorem Turn.outcome?_eq_none {live live' : Live α} {s s' : Session}
    (h : Turn peers live s live' s') : live.outcome? = none := by
  cases h <;> rfl

/-! ### Steps of children -/

section Children

variable {manner : Manner} {n : Nat} {children : Fin n → Live β} {completions : Completions n β}
  {wake : Option Due} {enough : Completions n β → Bool} {finish : Completions n β → Job α}

/-- A place that is not there does nothing. -/
theorem advance_beside {outer : Bool} {due : Due} {i : Nat} {path : List Nat} {s : Session}
    (h : ¬i < n) :
    (forked manner n children completions wake enough finish).advance peers outer due
        (i :: path) s =
      (forked manner n children completions wake enough finish, s) := by
  rw [advance, dif_neg h]

/-- A child takes a step; if it ends by it, the parent takes note. -/
theorem advance_child {outer : Bool} {due : Due} {i : Fin n} {path : List Nat} {s s' : Session}
    {child : Live β} (going : (children i).outcome? = none)
    (h : (children i).advance peers (outer && manner = .together) due path s = (child, s')) :
    (forked manner n children completions wake enough finish).advance peers outer due
        (i.val :: path) s =
      match child.outcome? with
      | none =>
        (forked manner n (Function.update children i child) completions wake enough finish, s')
      | some outcome =>
        (forked manner n (Function.update children i child) (completions ++ [(i, outcome)])
          (wake.or (some (wakeAfter outer manner due s').1)) enough finish,
          (wakeAfter outer manner due s').2) := by
  have hupdate : (fun j => if j = i then child else children j) =
      Function.update children i child := by
    funext j
    rw [Function.update_apply]
  rw [advance, dif_pos i.isLt]
  simp only [Fin.eta, going, h, hupdate]
  cases child.outcome? <;> rfl

/-- A child that has ended does nothing. -/
theorem advance_child_ended {outer : Bool} {due : Due} {i : Fin n} {path : List Nat} {s : Session}
    {outcome : Outcome β} (hended : children i = ended outcome) :
    (forked manner n children completions wake enough finish).advance peers outer due
        (i.val :: path) s =
      (forked manner n children completions wake enough finish, s) := by
  have hupdate : (fun j => if j = i then ended outcome else children j) = children := by
    funext j
    split
    next hj => rw [hj, hended]
    next => rfl
  rw [advance, dif_pos i.isLt]
  simp only [Fin.eta, hended, outcome?, advance, hupdate]

end Children

/-! ### A step is a turn -/

/-- A turn brings about a stage, up to the passing of time. -/
def TurnsInto (peers : Peers) (live : Live α) (s : Session) (stage : Live α × Session) : Prop :=
  ∃ s', Turn peers live s stage.1 s' ∧ s'.Passes stage.2

theorem lookUp_turn (due : Due) (key : LookupKey) (next : LookupOutcome → Job α) (s : Session) :
    TurnsInto peers (ready due (.lookupThen key next)) s (lookUp peers due key next s) := by
  unfold lookUp
  simp only
  split
  next outcome known => exact ⟨s, .hit known, .refl s⟩
  next unknown =>
    split
    next alone => exact ⟨_, .call unknown alone, Session.passes_later ..⟩
    next others => exact ⟨_, .join unknown others, .refl _⟩

theorem step_turn (due : Due) (job : Job α) (s : Session) :
    TurnsInto peers (ready due job) s (step peers due job s) := by
  cases job with
  | done value => exact ⟨s, .done, .refl s⟩
  | crash message => exact ⟨s, .crash, .refl s⟩
  | logThen line next => exact ⟨_, .log, .refl _⟩
  | waitThen milliseconds next => exact ⟨s, .wait (Nat.le_add_left ..), Session.passes_later ..⟩
  | askThen question next => exact ⟨_, .ask, Session.passes_later ..⟩
  | lookupThen key next => exact lookUp_turn due key next s
  | fork manner n child enough finish =>
    refine ⟨s, .fork fun hn => ?_, Session.passes_tickets n s⟩
    rw [if_pos hn]
    rfl

theorem passes_wakeAfter (outer : Bool) (manner : Manner) (due : Due) (s : Session) :
    s.Passes (wakeAfter outer manner due s).2 := by
  cases manner with
  | together => exact .refl s
  | apart | loose => exact Session.passes_tickets 1 s

/-- **A step is a turn, or nothing happens.** -/
theorem advance_turn (live : Live α) (outer : Bool) (due : Due) (path : List Nat) (s : Session) :
    live.advance peers outer due path s = (live, s) ∨
      TurnsInto peers live s (live.advance peers outer due path s) := by
  induction live generalizing outer path s with
  | ended outcome => exact .inl rfl
  | ready due' job => exact .inr (step_turn due' job s)
  | calling due' key seat answer next =>
    refine .inr ?_
    cases answer with
    | returned outcome => exact ⟨_, .settle, .refl _⟩
    | crashed message => exact ⟨_, .lose, .refl _⟩
  | seated key seat next =>
    unfold advance
    split
    next outcome known => exact .inr ⟨s, .serve known, .refl s⟩
    next unknown =>
      split
      next head => exact .inr ⟨_, .takeOver head, Session.passes_later ..⟩
      next => exact .inl rfl
  | forked manner n children completions wake enough finish ih =>
    cases path with
    | nil =>
      unfold advance
      simp only
      split
      next through =>
        refine .inr ⟨_, .finish ?_, .refl _⟩
        simpa using through
      next short =>
        cases wake with
        | none => exact .inl rfl
        | some wakeDue => exact .inr ⟨s, .sleep (by simp_all), .refl s⟩
    | cons i path =>
      by_cases hi : i < n
      · cases hgoing : (children ⟨i, hi⟩).outcome? with
        | some outcome =>
          exact .inl (advance_child_ended (i := ⟨i, hi⟩) (eq_ended_of_outcome?_eq_some hgoing))
        | none =>
          obtain ⟨⟨child, s'⟩, hstep⟩ : ∃ stage, (children ⟨i, hi⟩).advance peers
              (outer && manner = .together) due path s = stage := ⟨_, rfl⟩
          rw [advance_child (i := ⟨i, hi⟩) hgoing hstep]
          have hcases := ih ⟨i, hi⟩ (outer && manner = .together) path s
          rw [hstep] at hcases
          rcases hcases with hidle | ⟨s₁, turn, passes⟩
          · -- the child stays as it is, and so does its parent
            rw [Prod.mk.injEq] at hidle
            obtain ⟨rfl, rfl⟩ := hidle
            rw [hgoing, Function.update_eq_self]
            exact .inl rfl
          · right
            cases hend : child.outcome? with
            | none => exact ⟨s₁, .part _ turn hend, passes⟩
            | some outcome =>
              rw [eq_ended_of_outcome?_eq_some hend] at turn ⊢
              refine ⟨s₁, .partEnds _ turn ?_, passes.trans (passes_wakeAfter outer manner due s')⟩
              cases wake <;> rfl
      · exact .inl (advance_beside hi)

/-! ### What is given up -/

/-- A fork that is given up leaves its children behind if they are loose, and otherwise they are
given up with it. -/
theorem abandon_forked {manner : Manner} {n : Nat} {children : Fin n → Live β}
    {completions : Completions n β} {wake : Option Due} {enough : Completions n β → Bool}
    {finish : Completions n β → Job α} (s : Session) :
    (forked manner n children completions wake enough finish).abandon s =
      if manner = .loose then s.leaveBehind ((List.finRange n).map fun i => ⟨children i⟩)
      else abandonAll children s := by
  cases manner <;> rfl

/-- What every child keeps when it is given up, is kept when all are. -/
theorem abandonAll_induction {P : Session → Prop} {n : Nat} {children : Fin n → Live β}
    {s : Session} (hs : P s) (h : ∀ i s, P s → P ((children i).abandon s)) :
    P (abandonAll children s) := by
  unfold abandonAll
  generalize List.finRange n = is
  induction is generalizing s with
  | nil => exact hs
  | cons i is ih => exact ih (h i s hs)

/-- What leaving a seat and leaving jobs behind keep, giving up keeps. -/
theorem abandon_induction {P : Session → Prop} (hleave : ∀ key seat s, P s → P (s.leave key seat))
    (hstrays : ∀ strays s, P s → P (s.leaveBehind strays)) (live : Live α) {s : Session}
    (hs : P s) : P (live.abandon s) := by
  induction live generalizing s with
  | ended | ready => exact hs
  | calling | seated => exact hleave _ _ _ hs
  | forked manner n children _ _ _ _ ih =>
    rw [abandon_forked]
    split
    · exact hstrays _ _ hs
    · exact abandonAll_induction hs fun i s => ih i

theorem journal_abandon (live : Live α) (s : Session) : (live.abandon s).journal = s.journal :=
  abandon_induction (P := fun s' => s'.journal = s.journal)
    (fun _ _ _ h => (Session.journal_leave ..).trans h) (fun _ _ h => h) live rfl

@[simp] theorem journal_abandonAll {n : Nat} (children : Fin n → Live β) (s : Session) :
    (abandonAll children s).journal = s.journal :=
  abandonAll_induction (P := fun s' => s'.journal = s.journal) rfl
    fun i _ h => (journal_abandon (children i) _).trans h

/-- A job under way is a child of another. -/
inductive Child : Stray → Stray → Prop where
  | intro {α β : Type} {manner : Manner} {n : Nat} {children : Fin n → Live β}
      {completions : Completions n β} {wake : Option Due} {enough : Completions n β → Bool}
      {finish : Completions n β → Job α} (i : Fin n) :
    Child ⟨children i⟩ ⟨forked manner n children completions wake enough finish⟩

/-- A job under way is somewhere below another. -/
abbrev Below : Stray → Stray → Prop := Relation.TransGen Child

/-- What is left behind when a job is given up comes after what was left behind before, and it was
below the job. -/
def LeavesBehind (root : Stray) (s s' : Session) : Prop :=
  ∃ strays, s'.strays = s.strays ++ strays ∧ ∀ x ∈ strays, Below x root

theorem leavesBehind_of_eq {root : Stray} {s s' : Session} (h : s'.strays = s.strays) :
    LeavesBehind root s s' :=
  ⟨[], by rw [h, List.append_nil], fun _ hx => absurd hx List.not_mem_nil⟩

theorem LeavesBehind.trans {root : Stray} {s s' s'' : Session} (h : LeavesBehind root s s')
    (h' : LeavesBehind root s' s'') : LeavesBehind root s s'' := by
  obtain ⟨strays, heq, hbelow⟩ := h
  obtain ⟨strays', heq', hbelow'⟩ := h'
  exact ⟨strays ++ strays', by rw [heq', heq, List.append_assoc],
    List.forall_mem_append.mpr ⟨hbelow, hbelow'⟩⟩

theorem LeavesBehind.of_child {root child : Stray} {s s' : Session}
    (h : LeavesBehind child s s') (hchild : Child child root) : LeavesBehind root s s' := by
  obtain ⟨strays, heq, hbelow⟩ := h
  exact ⟨strays, heq, fun x hx => (hbelow x hx).tail hchild⟩

theorem leavesBehind_abandonAll {root : Stray} {n : Nat} {children : Fin n → Live β}
    (h : ∀ i s, LeavesBehind root s ((children i).abandon s)) (s : Session) :
    LeavesBehind root s (abandonAll children s) :=
  abandonAll_induction (P := fun s' => LeavesBehind root s s') (leavesBehind_of_eq rfl)
    fun i s' hs' => hs'.trans (h i s')

theorem leavesBehind_abandon (live : Live α) (s : Session) :
    LeavesBehind ⟨live⟩ s (live.abandon s) := by
  induction live generalizing s with
  | ended | ready => exact leavesBehind_of_eq rfl
  | calling | seated => exact leavesBehind_of_eq (Session.strays_leave ..)
  | forked manner n children _ _ _ _ ih =>
    rw [abandon_forked]
    split
    · refine ⟨_, rfl, fun x hx => ?_⟩
      obtain ⟨i, -, rfl⟩ := List.mem_map.mp hx
      exact .single (.intro i)
    · exact leavesBehind_abandonAll (fun i s => (ih i s).of_child (.intro i)) s

/-- A turn leaves behind what was below the job. -/
theorem Turn.leavesBehind {live live' : Live α} {s s' : Session} (h : Turn peers live s live' s') :
    LeavesBehind ⟨live⟩ s s' := by
  induction h with
  | done | crash | wait | hit | fork | serve | sleep | join => exact leavesBehind_of_eq rfl
  | log | ask | call | settle | takeOver => exact leavesBehind_of_eq rfl
  | lose => exact leavesBehind_of_eq (Session.strays_leave ..)
  | finish =>
    exact leavesBehind_abandonAll (fun i s => (leavesBehind_abandon _ s).of_child (.intro i)) _
  | part i _ _ ih | partEnds i _ _ ih => exact ih.of_child (.intro i)

/-- What was left behind keeps its number. -/
theorem Turn.strays_grow {live live' : Live α} {s s' : Session} (h : Turn peers live s live' s') :
    s.strays <+: s'.strays := by
  obtain ⟨strays, heq, -⟩ := h.leavesBehind
  exact heq ▸ List.prefix_append _ _

/-- After a turn what is left behind has the properties that it and the job had, if children have
them with their parents. -/
theorem Turn.strays {P : Stray → Prop} (hP : ∀ x root, Child x root → P root → P x)
    {live live' : Live α} {s s' : Session} (h : Turn peers live s live' s') (hlive : P ⟨live⟩)
    (hs : ∀ x ∈ s.strays, P x) : ∀ x ∈ s'.strays, P x := by
  obtain ⟨strays, heq, hbelow⟩ := h.leavesBehind
  rw [heq, List.forall_mem_append]
  refine ⟨hs, fun x hx => ?_⟩
  replace hx := hbelow x hx
  induction hx using Relation.TransGen.head_induction_on with
  | single hchild => exact hP _ _ hchild hlive
  | head hchild _ ih => exact hP _ _ hchild ih

/-! ### The journal grows -/

theorem Turn.journal_grows {live live' : Live α} {s s' : Session} (h : Turn peers live s live' s') :
    s.journal <+: s'.journal := by
  induction h with
  | done | crash | wait | hit | fork | serve | sleep | join => exact List.prefix_rfl
  | log | ask | call | settle | takeOver => exact List.prefix_append _ _
  | lose => exact (Session.journal_leave ..).symm ▸ List.prefix_rfl
  | finish => exact (journal_abandonAll ..).symm ▸ List.prefix_rfl
  | part _ _ _ ih | partEnds _ _ _ ih => exact ih

end Live

/-! ### What was left behind goes on -/

namespace Session

variable {peers : Peers} {s s' s'' : Session}

/-- A stray takes a turn. -/
inductive Drift (peers : Peers) : Session → Session → Prop where
  | intro {s s' : Session} (i : Nat) {stray : Stray} {live : Live stray.type}
      (at_ : s.strays[i]? = some stray)
      (turn : Live.Turn peers stray.live { s with strays := s.strays.set i .gone } live s') :
    Drift peers s { s' with strays := s'.strays.set i ⟨live⟩ }

/-- When a stray takes a turn, the others stay as they are, and what it leaves behind comes after
them. -/
theorem Drift.split (h : Drift peers s s') :
    ∃ (front back strays : List Stray) (stray : Stray) (live : Live stray.type) (s₁ : Session),
      s.strays = front ++ stray :: back ∧
      Live.Turn peers stray.live { s with strays := front ++ .gone :: back } live s₁ ∧
      s₁.strays = front ++ .gone :: back ++ strays ∧ (∀ x ∈ strays, Live.Below x stray) ∧
      s' = { s₁ with strays := front ++ ⟨live⟩ :: back ++ strays } := by
  cases h with
  | @intro s₁ i stray live at_ turn =>
    obtain ⟨hi, hget⟩ := List.getElem?_eq_some_iff.mp at_
    obtain ⟨front, back, hsplit, hlength, hset⟩ : ∃ front back,
        s.strays = front ++ s.strays[i] :: back ∧ front.length = i ∧
          s.strays.set i .gone = front ++ .gone :: back :=
      List.exists_of_set hi
    rw [hget] at hsplit
    subst hlength
    obtain ⟨strays, hstrays, hbelow⟩ := turn.leavesBehind
    rw [hset] at turn hstrays
    refine ⟨front, back, strays, stray, live, s₁, hsplit, turn, hstrays, hbelow, ?_⟩
    simp [hstrays]

/-- What turns keep and children have with their parents, what was left behind has as well when it
goes on. -/
theorem Drift.strays {P : Stray → Prop} (hP : ∀ x root, Live.Child x root → P root → P x)
    (hturn : ∀ {α : Type} {now later : Live α} {s s' : Session},
      Live.Turn peers now s later s' → P ⟨now⟩ → P ⟨later⟩)
    (hgone : P .gone) (h : Drift peers s s') (hs : ∀ x ∈ s.strays, P x) :
    ∀ x ∈ s'.strays, P x := by
  obtain ⟨i, at_, turn⟩ := h
  have hstray := hs _ (List.mem_of_getElem? at_)
  intro x hx
  rcases List.mem_or_eq_of_mem_set hx with hx | rfl
  · refine turn.strays hP hstray (fun y hy => ?_) x hx
    rcases List.mem_or_eq_of_mem_set hy with hy | rfl
    · exact hs y hy
    · exact hgone
  · exact hturn turn hstray

/-- Time passes, and what was left behind goes on. -/
abbrev Drifts (peers : Peers) : Session → Session → Prop :=
  Relation.ReflTransGen fun s s' => s.Passes s' ∨ Drift peers s s'

theorem Passes.drifts (h : s.Passes s') : s.Drifts peers s' := .single (.inl h)

/-- What the passing of time and turns of strays keep, is kept while strays go on. -/
theorem Drifts.preserves {P : Session → Prop} (hpass : ∀ s s', s.Passes s' → P s → P s')
    (hdrift : ∀ s s', Drift peers s s' → P s → P s') (h : s.Drifts peers s') (hs : P s) : P s' := by
  induction h with
  | refl => exact hs
  | tail _ move ih =>
    rcases move with passes | drift
    · exact hpass _ _ passes ih
    · exact hdrift _ _ drift ih

theorem Drift.journal_grows (h : Drift peers s s') : s.journal <+: s'.journal := by
  cases h with
  | intro i _ turn => exact turn.journal_grows

theorem Drifts.journal_grows (h : s.Drifts peers s') : s.journal <+: s'.journal :=
  h.preserves (P := fun s' => s.journal <+: s'.journal)
    (fun _ _ passes hgrows => passes.journal ▸ hgrows)
    (fun _ _ drift hgrows => hgrows.trans drift.journal_grows) List.prefix_rfl

/-- Where nothing was left behind, time passes and nothing else happens. -/
theorem Drifts.passes (h : s.Drifts peers s') (hnone : s.strays = []) : s.Passes s' := by
  have hnow : s.Passes s' ∧ s'.strays = [] := by
    refine h.preserves (P := fun s' => s.Passes s' ∧ s'.strays = [])
      (fun _ _ passes hnow => ⟨hnow.1.trans passes, passes.strays.trans hnow.2⟩) ?_
      ⟨.refl s, hnone⟩
    rintro s₁ s₂ ⟨i, at_, -⟩ hnow
    rw [hnow.2] at at_
    cases at_
  exact hnow.1

end Session

namespace Live

variable {α : Type} {peers : Peers}

/-- **A step of a stray is a turn of it, or nothing happens.** -/
theorem advanceStray_drifts (i : Nat) (due : Due) (path : List Nat) (s : Session) :
    s.Drifts peers (advanceStray peers i due path s) := by
  unfold advanceStray
  split
  next => exact .refl
  next stray at_ =>
    simp only
    rcases advance_turn stray.live false due path { s with strays := s.strays.set i .gone } with
      hidle | ⟨s₁, turn, passes⟩
    · have hback : (s.strays.set i Stray.gone).set i stray = s.strays := by
        obtain ⟨hi, rfl⟩ := List.getElem?_eq_some_iff.mp at_
        rw [List.set_set, List.set_getElem_self]
      rw [hidle, hback]
    · refine .tail (.single (.inr (.intro i at_ turn))) (.inl ⟨passes.cache, passes.journal, ?_,
        passes.ticket⟩)
      rw [passes.strays]

end Live

end Rehearsal
