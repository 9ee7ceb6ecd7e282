import Rehearsal.Proofs.Job.Schedule
import Mathlib.Data.List.TakeWhile

/-!
# Polls

A poll is a race whose children ask one question each and make something of the answer. Nothing else
happens while it runs, so the journal tells it all: the questions come in the order in which the
children were let ask, each at most once, and each is answered from the journal as it stood.

A poll may go on before every child has asked. By the clock it does not: when it begins, the turn of
each child is due at once, and the poll itself looks at its children only after one of them has
ended, which is not before that time and ranks behind whatever else is due then.

## Main definitions

* `Poll`: questions, and what is made of their answers
* `Poll.heardIn`: what a child hears if the children ask in some order
* `Poll.IsUnderWay`: some children have asked, in some order

## Main results

* `Job.Ends.polls`: what a poll does, and what its completions are
* `Job.EndsOnTime.polls`: by the clock, every child asks
-/

namespace Rehearsal

theorem Outcome.map_map {α β γ : Type} (f : α → β) (g : β → γ) (o : Outcome α) :
    (o.map f).map g = o.map fun value => g (f value) := by
  cases o <;> rfl

theorem Outcome.eq_crashed_of_map {α β : Type} {f : α → β} {o : Outcome α} {message : String}
    (h : o.map f = .crashed message) : o = .crashed message := by
  cases o with
  | returned value => cases h
  | crashed message' => exact congrArg _ (Outcome.crashed.inj h)

namespace Job

variable {α β : Type}

/-- Ends in a way that is known already. -/
def give : Outcome α → Job α
  | .returned value => done value
  | .crashed message => crash message

theorem afterAnswer_done (f : α → β) (answer : Outcome α) :
    Live.afterAnswer (fun a => done (f a)) answer = give (answer.map f) := by
  cases answer <;> rfl

end Job

/-- Questions, and what is made of their answers. -/
structure Poll (n : Nat) (β : Type) where
  /-- The questions. -/
  question : Fin n → Question
  /-- What is made of an answer. -/
  value : (i : Fin n) → (question i).Answer → β

namespace Poll

variable {n : Nat} {β : Type} {peers : Peers} {journal : List Event} {order : List (Fin n)}
  {children : Fin n → Live β} {i : Fin n}

/-- A child asks its question. -/
def part (poll : Poll n β) (i : Fin n) : Job β :=
  .askThen (poll.question i) fun answer => .done (poll.value i answer)

/-- The journal after children have asked. -/
def journalAfter (poll : Poll n β) (journal : List Event) (order : List (Fin n)) : List Event :=
  journal ++ order.map fun i => .asked (poll.question i)

/-- What a child hears if it asks. -/
def heard (poll : Poll n β) (peers : Peers) (journal : List Event) (i : Fin n) : Outcome β :=
  (peers.answer journal (poll.question i)).outcome.map (poll.value i)

/-- What a child hears if the children ask in some order. -/
def heardIn (poll : Poll n β) (peers : Peers) (journal : List Event) (order : List (Fin n))
    (i : Fin n) : Outcome β :=
  poll.heard peers (poll.journalAfter journal (order.takeWhile (· ≠ i))) i

variable {poll : Poll n β}

theorem journalAfter_concat (poll : Poll n β) (journal : List Event) (order : List (Fin n))
    (i : Fin n) : poll.journalAfter journal (order ++ [i]) =
      poll.journalAfter journal order ++ [.asked (poll.question i)] := by
  rw [journalAfter, journalAfter, List.map_append, List.append_assoc]
  rfl

/-- Who asks last hears what is answered from the journal so far. -/
theorem heardIn_concat_self (h : i ∉ order) : poll.heardIn peers journal (order ++ [i]) i =
    poll.heard peers (poll.journalAfter journal order) i := by
  have hall : order.takeWhile (· ≠ i) = order :=
    List.takeWhile_eq_self_iff.mpr fun j hj => decide_eq_true fun heq => h (heq ▸ hj)
  rw [heardIn, List.takeWhile_append, hall]
  simp

/-- What somebody has heard, those who ask later do not change. -/
theorem heardIn_concat_of_mem (h : i ∈ order) (j : Fin n) :
    poll.heardIn peers journal (order ++ [j]) i = poll.heardIn peers journal order i := by
  have hshort : (order.takeWhile (· ≠ i)).length ≠ order.length := by
    intro hlength
    have hall := (List.takeWhile_prefix (fun j => decide (j ≠ i))).eq_of_length hlength
    have hne := List.takeWhile_eq_self_iff.mp hall i h
    simp at hne
  rw [heardIn, List.takeWhile_append, if_neg hshort, heardIn]

/-- Some children have asked in some order, and the others wait for their turn. -/
structure IsUnderWay (poll : Poll n β) (peers : Peers) (journal : List Event)
    (order : List (Fin n)) (children : Fin n → Live β) : Prop where
  /-- No child asks twice. -/
  nodup : order.Nodup
  /-- The others wait. -/
  waits : ∀ i, i ∉ order → ∃ due, children i = .ready due (poll.part i)
  /-- Who has asked has been answered, and may have ended. -/
  asked : ∀ i ∈ order,
    (∃ due, children i = .ready due (.give (poll.heardIn peers journal order i))) ∨
      children i = .ended (poll.heardIn peers journal order i)

theorem isUnderWay_begin (poll : Poll n β) (peers : Peers) (journal : List Event)
    (dues : Fin n → Due) :
    poll.IsUnderWay peers journal [] fun i => .ready (dues i) (poll.part i) :=
  ⟨.nil, fun i _ => ⟨dues i, rfl⟩, fun _ hi => absurd hi List.not_mem_nil⟩

/-- A child asks. -/
theorem IsUnderWay.ask (h : poll.IsUnderWay peers journal order children) (hi : i ∉ order)
    (due : Due) :
    poll.IsUnderWay peers journal (order ++ [i]) (Function.update children i
      (.ready due (.give (poll.heard peers (poll.journalAfter journal order) i)))) := by
  refine ⟨?_, fun j hj => ?_, fun j hj => ?_⟩
  · exact List.nodup_append_comm.mp (List.nodup_cons.mpr ⟨hi, h.nodup⟩)
  · rw [List.mem_append, List.mem_singleton, not_or] at hj
    rw [Function.update_of_ne hj.2]
    exact h.waits j hj.1
  · rcases List.mem_append.mp hj with hj | hj
    · have hne : j ≠ i := fun heq => hi (heq ▸ hj)
      rw [Function.update_of_ne hne, heardIn_concat_of_mem hj]
      exact h.asked j hj
    · obtain rfl := List.mem_singleton.mp hj
      rw [Function.update_self, heardIn_concat_self hi]
      exact .inl ⟨due, rfl⟩

/-- A child that has asked ends. -/
theorem IsUnderWay.close (h : poll.IsUnderWay peers journal order children) (hi : i ∈ order) :
    poll.IsUnderWay peers journal order
      (Function.update children i (.ended (poll.heardIn peers journal order i))) := by
  refine ⟨h.nodup, fun j hj => ?_, fun j hj => ?_⟩
  · have hne : j ≠ i := fun heq => hj (heq ▸ hi)
    rw [Function.update_of_ne hne]
    exact h.waits j hj
  · rw [Function.update_apply]
    split
    next heq => exact .inr (heq ▸ rfl)
    next => exact h.asked j hj

/-- What a child has ended with is what it heard. -/
theorem IsUnderWay.eq_of_ended (h : poll.IsUnderWay peers journal order children) {o : Outcome β}
    (hi : children i = .ended o) : i ∈ order ∧ o = poll.heardIn peers journal order i := by
  by_cases hmem : i ∈ order
  · refine ⟨hmem, ?_⟩
    rcases h.asked i hmem with ⟨due, heq⟩ | heq <;> rw [hi] at heq
    · cases heq
    · exact Live.ended.inj heq
  · obtain ⟨due, heq⟩ := h.waits i hmem
    rw [hi] at heq
    cases heq

/-- A child leaves nobody behind. -/
theorem IsUnderWay.leftBehind_eq_nil (h : poll.IsUnderWay peers journal order children)
    (i : Fin n) : (children i).leftBehind = [] := by
  by_cases hi : i ∈ order
  · rcases h.asked i hi with ⟨due, heq⟩ | heq <;> rw [heq] <;> rfl
  · obtain ⟨due, heq⟩ := h.waits i hi
    rw [heq]
    rfl

/-- When the children of a poll are given up, nothing happens. -/
theorem IsUnderWay.abandonAll (h : poll.IsUnderWay peers journal order children) (s : Session) :
    (Live.abandonAll children s).strays = s.strays := by
  rw [Live.strays_abandonAll, List.flatMap_eq_nil_iff.mpr fun i _ => h.leftBehind_eq_nil i,
    List.append_nil]

/-! ### Polls in any order -/

/-- What a turn of a child does to a poll. -/
theorem IsUnderWay.turn (h : poll.IsUnderWay peers journal order children) {child : Live β}
    {s s' : Session} (turn : Live.Turn peers (children i) s child s')
    (hjournal : s.journal = poll.journalAfter journal order) :
    ∃ order', poll.IsUnderWay peers journal order' (Function.update children i child) ∧
      s'.journal = poll.journalAfter journal order' ∧ s'.strays = s.strays := by
  by_cases hi : i ∈ order
  · have hgive {o : Outcome β} {due : Due} (heq : children i = .ready due (.give o)) :
        child = .ended o ∧ s' = s := by
      rw [heq] at turn
      cases o <;> cases turn <;> exact ⟨rfl, rfl⟩
    rcases h.asked i hi with ⟨due, heq⟩ | heq
    · obtain ⟨rfl, rfl⟩ := hgive heq
      exact ⟨order, h.close hi, hjournal, rfl⟩
    · rw [heq] at turn
      cases turn
  · obtain ⟨due, heq⟩ := h.waits i hi
    rw [heq] at turn
    cases turn with
    | @ask _ _ due' =>
      refine ⟨order ++ [i], ?_, ?_, rfl⟩
      · rw [Job.afterAnswer_done, hjournal]
        exact h.ask hi due'
      · rw [journalAfter_concat, ← hjournal]
        rfl

/-- A stage of a poll: some children have asked, or it has gone on. -/
private def IsPollStage (poll : Poll n β) (peers : Peers) (journal : List Event)
    (enough : Completions n β → Bool) (live : Live (Completions n β)) (s : Session) : Prop :=
  (∃ children completions wake order,
      live = .forked .apart n children completions wake enough .done ∧
      poll.IsUnderWay peers journal order children ∧
      s.journal = poll.journalAfter journal order ∧ s.strays = []) ∨
    (∃ due completions, live = .ready due (.done completions)) ∨ ∃ o, live = .ended o

private theorem IsPollStage.turn {enough : Completions n β → Bool}
    {live live' : Live (Completions n β)} {s s' : Session}
    (h : IsPollStage poll peers journal enough live s) (turn : Live.Turn peers live s live' s') :
    IsPollStage poll peers journal enough live' s' := by
  rcases h with ⟨children, completions, wake, order, rfl, hway, hjournal, hstrays⟩ |
    ⟨due, completions, rfl⟩ | ⟨o, rfl⟩
  · cases turn with
    | finish => exact .inr (.inl ⟨_, _, rfl⟩)
    | sleep => exact .inl ⟨_, _, _, order, rfl, hway, hjournal, hstrays⟩
    | part i turn =>
      obtain ⟨order', hway', hjournal', hstrays'⟩ := hway.turn turn hjournal
      exact .inl ⟨_, _, _, order', rfl, hway', hjournal', hstrays'.trans hstrays⟩
    | partEnds i turn =>
      obtain ⟨order', hway', hjournal', hstrays'⟩ := hway.turn turn hjournal
      exact .inl ⟨_, _, _, order', rfl, hway', hjournal', hstrays'.trans hstrays⟩
  · cases turn
    exact .inr (.inr ⟨_, rfl⟩)
  · cases turn

/-- While a poll runs, some children have asked, in some order. -/
theorem exists_isUnderWay {enough : Completions n β → Bool} {dues : Fin n → Due}
    {wake₀ wake : Option Due} {completions : Completions n β} {begun reached : Session}
    (h : Stage.Leads peers
      (.forked .apart n (fun i => .ready (dues i) (poll.part i)) [] wake₀ enough .done, begun)
      (.forked .apart n children completions wake enough .done, reached))
    (hstrays : begun.strays = []) :
    ∃ order, poll.IsUnderWay peers begun.journal order children ∧
      reached.journal = poll.journalAfter begun.journal order ∧ reached.strays = [] := by
  have hstage : IsPollStage poll peers begun.journal enough
      (.forked .apart n children completions wake enough .done) reached := by
    refine h.preserves (P := IsPollStage poll peers begun.journal enough) ?_ ?_
      (fun live s live' s' turn hnow => hnow.turn turn) ?_
    · rintro live s s' passes (⟨children, completions, wake, order, hlive, hway, hjournal, hnone⟩ |
        hrest)
      · exact .inl ⟨children, completions, wake, order, hlive, hway,
          passes.journal.trans hjournal, passes.strays.trans hnone⟩
      · exact .inr hrest
    · rintro live s s' ⟨i, at_, -⟩ (⟨children, completions, wake, order, -, -, -, hnone⟩ | hrest)
      · rw [hnone] at at_
        cases at_
      · exact .inr hrest
    · exact .inl ⟨_, _, _, [], rfl, poll.isUnderWay_begin peers begun.journal dues,
        (List.append_nil _).symm, hstrays⟩
  rcases hstage with ⟨_, _, _, order, heq, hway, hjournal, hnone⟩ | ⟨_, _, heq⟩ | ⟨_, heq⟩
  · cases heq
    exact ⟨order, hway, hjournal, hnone⟩
  · cases heq
  · cases heq

/-! ### Polls by the clock -/

/-- The turn of a child of a poll that began at some time. -/
def firstDue (clock ticket : Nat) (i : Fin n) : Due := ⟨clock, 0, ticket + i, 0⟩

/-- A poll began at some time: the children that have not asked are due since then, and the poll
looks at its children later. -/
structure IsTimely (poll : Poll n β) (clock ticket : Nat) (order : List (Fin n))
    (children : Fin n → Live β) (wake : Option Due) (s : Session) : Prop where
  /-- Time has passed since. -/
  clock_le : clock ≤ s.clock
  /-- The others are due since then. -/
  waits : ∀ i, i ∉ order → children i = .ready (firstDue clock ticket i) (poll.part i)
  /-- The poll itself comes after them. -/
  wake : ∀ due, wake = some due → ∀ i : Fin n, (firstDue clock ticket i).isBefore due = true

section Timely

variable {clock ticket : Nat} {completions : Completions n β} {wake : Option Due} {s : Session}
  {enough : Completions n β → Bool} {α : Type} {finish : Completions n β → Job α}

/-- When it is the turn of the poll itself, all children have asked. -/
theorem IsTimely.mem_order (h : poll.IsTimely clock ticket order children wake s) {due : Due}
    (hnext : (Live.forked .apart n children completions wake enough finish).next? s =
      some (due, [])) (i : Fin n) : i ∈ order := by
  by_contra hi
  rw [Live.next?] at hnext
  have hwake : wake = some due := by
    rcases Live.eq_foldl_earlier hnext with hbest | ⟨front, j, back, -, hturn, -⟩
    · obtain ⟨due', hwake, heq⟩ := Option.map_eq_some_iff.mp hbest
      rw [hwake, (Prod.mk.inj heq).1]
    · obtain ⟨t, -, heq⟩ := Option.map_eq_some_iff.mp hturn
      cases (Prod.mk.inj heq).2
  have hlate := (Live.isBefore_foldl_earlier hnext).2 i (List.mem_finRange i)
    (firstDue clock ticket i, [i.val]) (by rw [h.waits i hi]; rfl)
  rw [h.wake due hwake i] at hlate
  cases hlate

/-- The turn at which a poll looks at its children comes after the turns at which they began. -/
theorem isBefore_wakeAfter (h : clock ≤ s.clock) (due : Due) (i : Fin n) :
    (firstDue clock ticket i).isBefore (Live.wakeAfter true .apart due s).1 = true := by
  rw [Due.isBefore_iff]
  simp only [firstDue, Live.wakeAfter, Session.queue, if_true, Nat.add_zero]
  omega

/-- A child that has asked ends when it goes on. -/
theorem IsUnderWay.advance_of_mem (h : poll.IsUnderWay peers journal order children)
    (hi : i ∈ order) {s : Session} {due : Due} {path : List Nat}
    (hnext : (children i).next? s = some (due, path)) (s' : Session) (outer : Bool) :
    (children i).advance peers outer due path s' =
      (.ended (poll.heardIn peers journal order i), s') := by
  rcases h.asked i hi with ⟨due', heq⟩ | heq
  · rw [heq]
    cases poll.heardIn peers journal order i <;> rfl
  · rw [heq] at hnext
    cases hnext

/-- A child that has not asked does so when it goes on. -/
theorem IsTimely.advance_of_notMem (peers : Peers)
    (h : poll.IsTimely clock ticket order children wake s) (hi : i ∉ order) (s' : Session)
    (outer : Bool) (due : Due) (path : List Nat) :
    ∃ due' s'', (children i).advance peers outer due path s' =
        (.ready due' (.give (poll.heard peers s'.journal i)), s'') ∧
      s''.journal = s'.journal ++ [.asked (poll.question i)] ∧ s''.strays = s'.strays ∧
      s''.clock = s'.clock := by
  have hpass := (s'.note (.asked (poll.question i))).passes_later (firstDue clock ticket i)
    (peers.answer s'.journal (poll.question i)).delay
  refine ⟨((s'.note (.asked (poll.question i))).later (firstDue clock ticket i)
    (peers.answer s'.journal (poll.question i)).delay).1, _, ?_, hpass.journal, hpass.strays, ?_⟩
  · rw [h.waits i hi, Live.advance, part, Live.step, Job.afterAnswer_done]
    rfl
  · unfold Session.later
    split <;> rfl

/-- When a child asks, the others go on waiting. -/
theorem IsTimely.ask (h : poll.IsTimely clock ticket order children wake s) (child : Live β)
    {s' : Session} (hclock : s'.clock = s.clock) :
    poll.IsTimely clock ticket (order ++ [i]) (Function.update children i child) wake s' where
  clock_le := hclock.symm ▸ h.clock_le
  waits j hj := by
    rw [List.mem_append, List.mem_singleton, not_or] at hj
    rw [Function.update_of_ne hj.2]
    exact h.waits j hj.1
  wake := h.wake

/-- When a child ends, the poll will look at its children, but the others come first. -/
theorem IsTimely.close (h : poll.IsTimely clock ticket order children wake s) (hi : i ∈ order)
    (child : Live β) (due : Due) :
    poll.IsTimely clock ticket order (Function.update children i child)
      (wake.or (some (Live.wakeAfter true .apart due s).1))
      (Live.wakeAfter true .apart due s).2 where
  clock_le := h.clock_le
  waits j hj := by
    have hne : j ≠ i := fun heq => hj (heq ▸ hi)
    rw [Function.update_of_ne hne]
    exact h.waits j hj
  wake due' heq j := by
    cases hwake : wake with
    | some due'' =>
      rw [hwake] at heq
      obtain rfl := Option.some.inj heq
      exact h.wake _ hwake j
    | none =>
      rw [hwake] at heq
      obtain rfl := Option.some.inj heq
      exact isBefore_wakeAfter h.clock_le due j

end Timely

/-- A stage of a poll by the clock, as long as it has not gone on. -/
def IsTimedStage (poll : Poll n β) (peers : Peers) (journal : List Event)
    (enough : Completions n β → Bool) (live : Live (Completions n β)) (s : Session) : Prop :=
  ∃ children completions wake order clock ticket,
    live = .forked .apart n children completions wake enough .done ∧
    poll.IsUnderWay peers journal order children ∧
    poll.IsTimely clock ticket order children wake s ∧
    s.journal = poll.journalAfter journal order ∧ s.strays = []

/-- A stage of a poll that has gone on after all of its children had asked. -/
def HasAskedAll (poll : Poll n β) (journal : List Event) (live : Live (Completions n β))
    (s : Session) : Prop :=
  (∃ order : List (Fin n), order.Perm (List.finRange n) ∧
      s.journal = poll.journalAfter journal order) ∧
    s.strays = [] ∧ ((∃ due completions, live = .ready due (.done completions)) ∨
      ∃ o, live = .ended o)

/-- A poll begins. -/
theorem isTimedStage_begin (poll : Poll n β) (peers : Peers) (enough : Completions n β → Bool)
    (due : Due) {s : Session} (hnone : s.strays = []) :
    poll.IsTimedStage peers s.journal enough
      (Live.step peers due (.fork .apart n poll.part enough .done) s).1
      (Live.step peers due (.fork .apart n poll.part enough .done) s).2 := by
  refine ⟨_, _, _, [], s.clock, s.ticket, rfl, poll.isUnderWay_begin peers s.journal _,
    ⟨Nat.le_refl _, fun i _ => rfl, fun due' heq i => ?_⟩, (List.append_nil _).symm, hnone⟩
  have hn : n ≠ 0 := Nat.ne_zero_of_lt i.isLt
  rw [if_neg hn] at heq
  cases heq

/-- A child whose turn it is has not ended. -/
theorem outcome?_of_next? {s : Session} {due : Due} {path : List Nat}
    (h : (children i).next? s = some (due, path)) : (children i).outcome? = none := by
  cases hend : (children i).outcome? with
  | none => rfl
  | some o =>
    rw [Live.eq_ended_of_outcome?_eq_some hend] at h
    cases h

/-- **By the clock, a poll goes on only after all of its children have asked.** -/
theorem IsTimedStage.tick {enough : Completions n β → Bool} {now later : Stage (Completions n β)}
    (h : poll.IsTimedStage peers journal enough now.1 now.2) (htick : Stage.Ticks peers now later) :
    poll.IsTimedStage peers journal enough later.1 later.2 ∨
      poll.HasAskedAll journal later.1 later.2 := by
  obtain ⟨live, s⟩ := now
  obtain ⟨children, completions, wake, order, clock, ticket, rfl, hway, htimely, hjournal, hnone⟩ :=
    h
  obtain ⟨due, path, hnext, rfl⟩ := htick.cases_alone hnone
  dsimp only at hnext hjournal hnone ⊢
  set s₁ : Session := { s with clock := max s.clock due.time } with hs₁
  have htimely₁ : poll.IsTimely clock ticket order children wake s₁ :=
    ⟨htimely.clock_le.trans (Nat.le_max_left ..), htimely.waits, htimely.wake⟩
  cases path with
  | nil =>
    unfold Live.advance
    dsimp only
    split
    · refine .inr ⟨⟨order, ?_, ?_⟩, ?_, .inl ⟨_, _, rfl⟩⟩
      · refine (List.perm_ext_iff_of_nodup hway.nodup (List.nodup_finRange n)).mpr fun i => ?_
        exact iff_of_true (htimely.mem_order hnext i) (List.mem_finRange i)
      · exact (Live.journal_abandonAll children s₁).trans hjournal
      · exact (hway.abandonAll s₁).trans hnone
    · exact .inl ⟨children, completions, none, order, clock, ticket, rfl, hway,
        ⟨htimely₁.clock_le, htimely.waits, fun _ heq => by cases heq⟩, hjournal, hnone⟩
  | cons k path =>
    left
    obtain ⟨i, rfl, hchild, -⟩ := Live.isBefore_of_next? hnext
    by_cases hi : i ∈ order
    · -- the child ends, and the poll will look at its children later
      rw [Live.advance_child (outcome?_of_next? hchild) (hway.advance_of_mem hi hchild s₁ _)]
      exact ⟨_, _, _, order, clock, ticket, rfl, hway.close hi, htimely₁.close hi _ due,
        (Live.passes_wakeAfter ..).journal.trans hjournal,
        (Live.passes_wakeAfter ..).strays.trans hnone⟩
    · -- the child asks
      obtain ⟨due', s₂, hstep, hjournal', hstrays', hclock'⟩ :=
        htimely.advance_of_notMem peers hi s₁ (true && Manner.apart = .together) due path
      rw [Live.advance_child (outcome?_of_next? hchild) hstep]
      have hhere : s₁.journal = poll.journalAfter journal order := hjournal
      rw [hhere]
      refine ⟨_, _, _, order ++ [i], clock, ticket, rfl, hway.ask hi due', htimely₁.ask _ hclock',
        ?_, hstrays'.trans hnone⟩
      rw [journalAfter_concat, ← hjournal]
      exact hjournal'

theorem HasAskedAll.tick {now later : Stage (Completions n β)}
    (h : poll.HasAskedAll journal now.1 now.2) (htick : Stage.Ticks peers now later) :
    poll.HasAskedAll journal later.1 later.2 := by
  obtain ⟨live, s⟩ := now
  obtain ⟨hasked, hnone, hlive⟩ := h
  obtain ⟨due, path, hnext, rfl⟩ := htick.cases_alone hnone
  rcases hlive with ⟨due', completions, rfl⟩ | ⟨o, rfl⟩
  · exact ⟨hasked, hnone, .inr ⟨_, rfl⟩⟩
  · cases hnext

end Poll

/-! ### What polls come to -/

section Polls

variable {β : Type} {peers : Peers} {past : Nat} {s s' : Session} {jobs : List (Job β)}
  {enough : Completions jobs.length β → Bool} {completions : Completions jobs.length β}

/-- **What a poll does, and what its completions are**: the children ask in some order, each at most
once, and each that has ended gives what it heard. -/
theorem Job.Ends.polls (h : (Job.endings jobs enough).Ends peers s (.returned completions) s')
    (hs : s.Alone past) (poll : Poll jobs.length β) (hjobs : ∀ i, jobs.get i = poll.part i) :
    ∃ order : List (Fin jobs.length), order.Nodup ∧
      s'.journal = poll.journalAfter s.journal order ∧
      ∀ i o, (i, o) ∈ completions → i ∈ order ∧ o = poll.heardIn peers s.journal order i := by
  obtain ⟨dues, wake₀, begun, children, completions', wake, reached, before, after, hbegun,
    hreached, -, htally, -, hpass, hgiven, hend⟩ := Job.Ends.fork h
  obtain ⟨heq, hdrifts⟩ := hend.done
  obtain rfl := Outcome.returned.inj heq
  have hbegun := hbegun.passes hs.strays
  have hparts : (fun i => Live.ready (dues i) (jobs.get i)) =
      fun i => .ready (dues i) (poll.part i) := funext fun i => by rw [hjobs]
  rw [hparts] at hreached
  obtain ⟨order, hway, hjournal, hnone⟩ :=
    Poll.exists_isUnderWay hreached (hbegun.strays.trans hs.strays)
  rw [hbegun.journal] at hway hjournal
  refine ⟨order, hway.nodup, ?_, fun i o hmem => ?_⟩
  · have hbefore : before.strays = [] := hpass.strays.trans hnone
    have hlast := hdrifts.passes (hgiven.strays.trans ((hway.abandonAll before).trans hbefore))
    rw [hlast.journal, hgiven.journal, Live.journal_abandonAll, hpass.journal, hjournal]
  · exact hway.eq_of_ended ((htally.mem i o).mp hmem)

/-- **By the clock, every child asks**, and none asks twice. -/
theorem Job.EndsOnTime.polls
    (h : (Job.endings jobs enough).EndsOnTime peers s (.returned completions) s')
    (hs : s.Alone past) (poll : Poll jobs.length β) (hjobs : ∀ i, jobs.get i = poll.part i) :
    ∃ order : List (Fin jobs.length), order.Perm (List.finRange jobs.length) ∧
      s'.journal = poll.journalAfter s.journal order := by
  obtain ⟨due, h⟩ := h
  have hchild : jobs.get = poll.part := funext hjobs
  have hstage : poll.HasAskedAll s.journal (.ended (.returned completions)) s' := by
    generalize hlast : ((.ended (.returned completions), s') : Stage (Completions jobs.length β)) =
      last at h
    have hreached : (last.1 = .ready due (Job.endings jobs enough) ∧ last.2.journal = s.journal ∧
          last.2.strays = []) ∨
        poll.IsTimedStage peers s.journal enough last.1 last.2 ∨
        poll.HasAskedAll s.journal last.1 last.2 := by
      clear hlast
      induction h with
      | refl => exact .inl ⟨rfl, rfl, hs.strays⟩
      | @tail now later _ htick ih =>
        rcases ih with ⟨hlive, hjournal, hnone⟩ | htimed | hasked
        · right
          left
          obtain ⟨live, s₁⟩ := now
          obtain ⟨due', path, -, rfl⟩ := htick.cases_alone hnone
          dsimp only at hlive hjournal hnone
          rw [hlive, ← hjournal, Job.endings, Job.race, hchild]
          exact poll.isTimedStage_begin peers enough due
            (s := { s₁ with clock := max s₁.clock due'.time }) hnone
        · exact .inr (htimed.tick htick)
        · exact .inr (.inr (hasked.tick htick))
    rw [← hlast] at hreached
    rcases hreached with ⟨heq, -⟩ | ⟨_, _, _, _, _, _, heq, -⟩ | hasked
    · cases heq
    · cases heq
    · exact hasked
  exact hstage.1

end Polls

end Rehearsal
