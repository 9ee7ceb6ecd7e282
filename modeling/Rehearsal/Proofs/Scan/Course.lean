import Rehearsal.Proofs.Job.Ending
import Rehearsal.Proofs.Problem
import Rehearsal.Scan.Engine

/-!
# The course of a scan

Which checkers a scan runs, in which order, and what it makes of what they end with. A checker may
do anything, and may break down; it is seen only through its outcome. A scan visits the checkers
from the first on, up to the first one that ends it: that breaks down, fails, or has a fatal finding
that is kept. The test for fatal findings looks at all that was kept so far, but as long as the scan
goes on nothing of that is fatal, so the last checker alone decides.

## Main definitions

* `Scan.Visit`: a checker that was run, with its outcome
* `Scan.Course`: the visits of a scan
* `Scan.resultOf`: what a scan makes of its visits

## Main results

* `Engine.runCheckers_course`: checkers run in order take a course
* `Engine.scan_follows_course`: a scan ends, takes a course and has the result of its visits
-/

namespace Rehearsal

namespace Session

variable {peers : Peers} {s s' s'' : Session}

/-- Log lines are written, and what was left behind goes on; nothing else happens. -/
abbrev Logs (peers : Peers) : Session → Session → Prop :=
  Relation.ReflTransGen fun s s' => s.Drifts peers s' ∨ ∃ line, s' = s.note (.logged line)

theorem logs_of_drifts (h : s.Drifts peers s') : s.Logs peers s' := .single (.inl h)

theorem Logs.drifts (h : s.Logs peers s') (hdrifts : s'.Drifts peers s'') : s.Logs peers s'' :=
  h.tail (.inl hdrifts)

theorem Logs.note (h : s.Logs peers s') (line : LogLine) :
    s.Logs peers (s'.note (.logged line)) :=
  h.tail (.inr ⟨line, rfl⟩)

/-- What turns of strays, the passing of time and log lines keep, is kept while log lines are
written. -/
theorem Logs.preserves {P : Session → Prop} (hdrifts : ∀ s s', s.Drifts peers s' → P s → P s')
    (hnote : ∀ s line, P s → P (s.note (.logged line))) (h : s.Logs peers s') (hs : P s) :
    P s' := by
  induction h with
  | refl => exact hs
  | tail _ move ih =>
    rcases move with drifts | ⟨line, rfl⟩
    · exact hdrifts _ _ drifts ih
    · exact hnote _ line ih

theorem Logs.journal_grows (h : s.Logs peers s') : s.journal <+: s'.journal :=
  h.preserves (P := fun s' => s.journal <+: s'.journal)
    (fun _ _ drifts hgrows => hgrows.trans drifts.journal_grows)
    (fun _ _ hgrows => hgrows.trans (List.prefix_append _ _)) List.prefix_rfl

end Session

namespace Job

variable {α β : Type} {peers : Peers}

/-- A job that begins by writing a line. -/
theorem Ends.log_bind {line : LogLine} {f : Unit → Job β} {s s' : Session} {outcome : Outcome β}
    (h : ((Job.log line).bind f).Ends peers s outcome s') :
    ∃ s₁, s.Logs peers s₁ ∧ (f ()).Ends peers s₁ outcome s' := by
  obtain ⟨s₀, s₁, drifts, passes, h⟩ := Ends.logThen h
  refine ⟨s₁, ?_, h⟩
  exact ((Session.logs_of_drifts drifts).note line).drifts passes.drifts

end Job

namespace Scan

/-- A checker that was run in a scan. -/
structure Visit where
  /-- The checker. -/
  checker : Checker
  /-- The session in which it began. -/
  before : Session
  /-- What it ended with. -/
  outcome : Outcome Verdict
  /-- The session that it left. -/
  after : Session

namespace Visit

/-- The error with which a checker ends the scan. -/
def failure? (v : Visit) : Option ScanError :=
  match v.outcome with
  | .crashed message => some (.crashed message)
  | .returned (.error .notApplicable) => none
  | .returned (.error e) => some (.checker v.checker.name e)
  | .returned (.ok _) => none

/-- The findings of a checker that are kept: those that have a name. -/
def kept (v : Visit) : List Problem := (Check.findings v.outcome).filter fun p => p.name ≠ ""

/-- The checker ends the scan: it fails, or a finding that is kept is fatal. -/
def IsLast (v : Visit) : Prop := v.failure?.isSome ∨ ∃ p ∈ v.kept, p.severity = .fatal

/-- An engine keeps what has a name. -/
theorem kept_eq (v : Visit) : v.kept = Engine.kept (Check.findings v.outcome) :=
  List.filter_congr fun p _ => by
    rw [Problem.isEmpty, Bool.eq_iff_iff, decide_eq_true_iff, Bool.not_eq_true', ne_eq,
      ← String.isEmpty_iff, Bool.not_eq_true]

theorem isLast_iff (v : Visit) :
    v.IsLast ↔ v.failure?.isSome = true ∨ Problem.anyFatal v.kept = true := by
  rw [IsLast, Problem.anyFatal_iff]

theorem failure?_eq_none_of_not_isLast {v : Visit} (h : ¬v.IsLast) : v.failure? = none := by
  rw [← Option.not_isSome_iff_eq_none]
  exact fun hsome => h (.inl hsome)

end Visit

/-- From one session to another, visits follow each other, and in between log lines are written. -/
def Linked (peers : Peers) (s s' : Session) : List Visit → Prop
  | [] => s.Logs peers s'
  | v :: visits => s.Logs peers v.before ∧ Linked peers v.after s' visits

theorem Linked.logs {peers : Peers} {s₀ s s' : Session} {visits : List Visit}
    (h : Linked peers s s' visits) (hlogs : s₀.Logs peers s) : Linked peers s₀ s' visits := by
  cases visits with
  | nil => exact hlogs.trans h
  | cons v visits => exact ⟨hlogs.trans h.1, h.2⟩

theorem Linked.then_logs {peers : Peers} {s s' s'' : Session} {visits : List Visit}
    (h : Linked peers s s' visits) (hlogs : s'.Logs peers s'') : Linked peers s s'' visits := by
  induction visits generalizing s with
  | nil => exact h.trans hlogs
  | cons v visits ih => exact ⟨h.1, ih h.2⟩

/-- The visits of a scan that runs checkers by `check`. -/
structure Course (peers : Peers) (check : Checker → Job Verdict) (checkers : List Checker)
    (s s' : Session) (visits : List Visit) : Prop where
  /-- The checkers are visited from the first on, in order, each once. -/
  inOrder : visits.map Visit.checker <+: checkers
  /-- A visit is a run of the checker. -/
  runs : ∀ v ∈ visits, (check v.checker).Ends peers v.before v.outcome v.after
  /-- Nothing happens between the visits. -/
  linked : Linked peers s s' visits
  /-- Whoever is followed by another did not end the scan. -/
  goesOn : visits.Pairwise fun v _ => ¬v.IsLast
  /-- A checker is left out only if one before it ended the scan. -/
  stops : visits.length < checkers.length → ∃ v ∈ visits, v.IsLast

/-- What a scan makes of its visits. -/
def resultOf (visits : List Visit) : ScanResult :=
  match visits.findSome? Visit.failure? with
  | some e => .error e
  | none => .ok (visits.flatMap Visit.kept)

section Course

variable {peers : Peers} {check : Checker → Job Verdict} {checkers : List Checker}
  {s₀ s s' s'' : Session} {visits : List Visit}

theorem Course.nil (h : s.Logs peers s') : Course peers check [] s s' [] where
  inOrder := List.prefix_rfl
  runs := fun _ hv => absurd hv List.not_mem_nil
  linked := h
  goesOn := .nil
  stops := fun h => absurd h (Nat.lt_irrefl _)

theorem Course.last (v : Visit) (hbefore : s.Logs peers v.before)
    (hrun : (check v.checker).Ends peers v.before v.outcome v.after)
    (hafter : v.after.Logs peers s') (hlast : v.IsLast) :
    Course peers check (v.checker :: checkers) s s' [v] where
  inOrder := (List.cons_prefix_cons).mpr ⟨rfl, List.nil_prefix⟩
  runs := fun _ hv => List.mem_singleton.mp hv ▸ hrun
  linked := ⟨hbefore, hafter⟩
  goesOn := List.pairwise_singleton _ _
  stops := fun _ => ⟨v, List.mem_singleton_self v, hlast⟩

theorem Course.cons (v : Visit) (hbefore : s.Logs peers v.before)
    (hrun : (check v.checker).Ends peers v.before v.outcome v.after) (hlast : ¬v.IsLast)
    (h : Course peers check checkers v.after s' visits) :
    Course peers check (v.checker :: checkers) s s' (v :: visits) where
  inOrder := List.cons_prefix_cons.mpr ⟨rfl, h.inOrder⟩
  runs := List.forall_mem_cons.mpr ⟨hrun, h.runs⟩
  linked := ⟨hbefore, h.linked⟩
  goesOn := List.pairwise_cons.mpr ⟨fun _ _ => hlast, h.goesOn⟩
  stops := fun hshort => by
    obtain ⟨w, hw, hwlast⟩ := h.stops (Nat.lt_of_succ_lt_succ hshort)
    exact ⟨w, List.mem_cons_of_mem v hw, hwlast⟩

theorem Course.logs (h : Course peers check checkers s s' visits) (hlogs : s₀.Logs peers s) :
    Course peers check checkers s₀ s' visits :=
  { h with linked := h.linked.logs hlogs }

theorem Course.then_logs (h : Course peers check checkers s s' visits) (hlogs : s'.Logs peers s'') :
    Course peers check checkers s s'' visits :=
  { h with linked := h.linked.then_logs hlogs }

/-! ### What follows for results -/

theorem eq_flatMap_of_resultOf {problems : List Problem} (h : resultOf visits = .ok problems) :
    problems = visits.flatMap Visit.kept := by
  unfold resultOf at h
  split at h
  · cases h
  · exact (Except.ok.inj h).symm

/-- No finding without a name is in a result. -/
theorem name_ne_empty_of_mem {problems : List Problem} (h : resultOf visits = .ok problems) :
    ∀ p ∈ problems, p.name ≠ "" := by
  rw [eq_flatMap_of_resultOf h]
  intro p hp
  obtain ⟨v, -, hp⟩ := List.mem_flatMap.mp hp
  exact of_decide_eq_true (List.mem_filter.mp hp).2

/-- Before the last visit nothing fatal is kept, so all that follows the first fatal finding is of
one checker. -/
theorem exists_suffix_kept {front back : List Problem} {p : Problem}
    (hgoes : visits.Pairwise fun v _ => ¬v.IsLast)
    (h : visits.flatMap Visit.kept = front ++ p :: back) (hfatal : p.severity = .fatal) :
    ∃ v ∈ visits, p :: back <:+ v.kept := by
  induction visits generalizing front with
  | nil => simp at h
  | cons v visits ih =>
    rw [List.pairwise_cons] at hgoes
    rw [List.flatMap_cons] at h
    rcases List.append_eq_append_iff.mp h with ⟨front', rfl, hrest⟩ | ⟨back', hkept, hrest⟩
    · obtain ⟨w, hw, hsuffix⟩ := ih hgoes.2 hrest
      exact ⟨w, List.mem_cons_of_mem v hw, hsuffix⟩
    · cases back' with
      | nil =>
        have hrest' : visits.flatMap Visit.kept = [] ++ p :: back := hrest.symm
        obtain ⟨w, hw, hsuffix⟩ := ih hgoes.2 hrest'
        exact ⟨w, List.mem_cons_of_mem v hw, hsuffix⟩
      | cons q back' =>
        rw [List.cons_append, List.cons.injEq] at hrest
        obtain ⟨rfl, rfl⟩ := hrest
        -- the finding is kept of the first checker, which therefore was the last one
        have hlast : v.IsLast := .inr ⟨p, by simp [hkept], hfatal⟩
        cases visits with
        | nil => exact ⟨v, List.mem_cons_self, by simp [hkept]⟩
        | cons w visits => exact absurd hlast (hgoes.1 w List.mem_cons_self)

end Course

/-- What checkers run in order end with, after others of which `found` was kept. -/
def endOf (found : List Problem) (visits : List Visit) : Outcome ScanResult :=
  match visits.findSome? Visit.failure? with
  | some (.crashed message) => .crashed message
  | some e => .returned (.error e)
  | none => .returned (.ok (found ++ visits.flatMap Visit.kept))

theorem endOf_cons {found : List Problem} {v : Visit} (h : ¬v.IsLast) (visits : List Visit) :
    endOf found (v :: visits) = endOf (found ++ v.kept) visits := by
  rw [endOf, endOf, List.findSome?_cons, Visit.failure?_eq_none_of_not_isLast h, List.flatMap_cons,
    List.append_assoc]

end Scan

namespace Engine

variable {peers : Peers} {context : ScanContext} {domain : String} {method : Method}
  {s s' : Session}

open Scan

theorem unlessFatal_ends {checker : Checker} {found : List Problem} {rest : Job ScanResult}
    {outcome : Outcome ScanResult}
    (h : (unlessFatal checker found rest).Ends peers s outcome s') :
    (Problem.anyFatal found = true ∧ outcome = .returned (.ok found) ∧ s.Logs peers s') ∨
      (Problem.anyFatal found = false ∧ rest.Ends peers s outcome s') := by
  unfold unlessFatal at h
  split at h
  next hfatal =>
    obtain ⟨s₁, hlogs, h⟩ := Job.Ends.log_bind h
    obtain ⟨rfl, hpass⟩ := h.done
    exact .inl ⟨hfatal, rfl, hlogs.drifts hpass⟩
  next hfatal => exact .inr ⟨by simpa using hfatal, h⟩

/-- **Checkers run in order take a course.** -/
theorem runCheckers_course {checkers : List Checker} {found : List Problem}
    {outcome : Outcome ScanResult} (hfound : Problem.anyFatal found = false)
    (h : (runCheckers context domain method checkers found).Ends peers s outcome s') :
    ∃ visits, Course peers (fun c => c.check context domain method) checkers s s' visits ∧
      outcome = endOf found visits := by
  induction checkers generalizing found s with
  | nil =>
    obtain ⟨rfl, hpass⟩ := h.done
    exact ⟨[], .nil (Session.logs_of_drifts hpass), by simp [endOf]⟩
  | cons checker checkers ih =>
    obtain ⟨s₁, hbefore, h⟩ := Job.Ends.log_bind h
    rcases h.bind with ⟨message, rfl, hcheck⟩ | ⟨verdict, s₂, hcheck, h⟩
    · let v : Visit := ⟨checker, s₁, .crashed message, s'⟩
      exact ⟨[v], .last v hbefore hcheck .refl (.inl rfl), rfl⟩
    · let v : Visit := ⟨checker, s₁, .returned verdict, s₂⟩
      -- whoever does not end the scan is followed by the others, with what was kept so far
      have hnext {s₃ : Session} (hlogs : s₂.Logs peers s₃) (hlast : ¬v.IsLast)
          (hkept : Problem.anyFatal (found ++ v.kept) = false)
          (h : (runCheckers context domain method checkers (found ++ v.kept)).Ends peers s₃
            outcome s') :
          ∃ visits, Course peers (fun c => c.check context domain method) (checker :: checkers) s s'
            visits ∧ outcome = endOf found visits := by
        obtain ⟨visits, hcourse, hend⟩ := ih hkept h
        refine ⟨v :: visits, .cons v hbefore hcheck hlast (hcourse.logs hlogs), ?_⟩
        rw [hend, endOf_cons hlast]
      cases verdict with
      | ok problems =>
        obtain ⟨s₃, hlogs, h⟩ := Job.Ends.log_bind h
        have hkept : kept problems = v.kept := v.kept_eq.symm
        simp only [hkept] at h
        rcases unlessFatal_ends h with ⟨hfatal, rfl, hlogs'⟩ | ⟨hfatal, h⟩
        · rw [Problem.anyFatal_append, hfound, Bool.false_or] at hfatal
          refine ⟨[v], .last v hbefore hcheck (hlogs.trans hlogs') (v.isLast_iff.mpr (.inr hfatal)),
            ?_⟩
          simp [endOf, v, Visit.failure?]
        · refine hnext hlogs (fun hlast => ?_) hfatal h
          rw [Problem.anyFatal_append, Bool.or_eq_false_iff] at hfatal
          rcases v.isLast_iff.mp hlast with hfail | hkept
          · cases hfail
          · exact Bool.false_ne_true (hfatal.2.symm.trans hkept)
      | error e =>
        cases e with
        | notApplicable =>
          obtain ⟨s₃, hlogs, h⟩ := Job.Ends.log_bind h
          have hkept : found ++ v.kept = found := List.append_nil found
          rcases unlessFatal_ends h with ⟨hfatal, -, -⟩ | ⟨-, h⟩
          · rw [hfound] at hfatal
            cases hfatal
          · refine hnext hlogs ?_ (by rw [hkept, hfound]) (by rwa [hkept])
            rintro (hfail | ⟨p, hp, -⟩)
            · cases hfail
            · cases hp
        | crashed message | failed message causes =>
          obtain ⟨s₃, hlogs, h⟩ := Job.Ends.log_bind h
          obtain ⟨rfl, hpass⟩ := h.done
          exact ⟨[v], .last v hbefore hcheck (hlogs.drifts hpass) (.inl rfl), rfl⟩

/-- An accepted scan takes a course and has the result of its visits. -/
theorem exists_course {engine : Engine} {options : ScanOptions} {outcome : Outcome ScanResult}
    (haccepted : options.validate = .ok ())
    (h : (engine.scan domain method options).Ends peers s outcome s') :
    ∃ visits, Course peers
        (fun c => c.check ⟨options, engine.probes⟩ (Domain.normalize domain) method)
        engine.checkers s s' visits ∧
      outcome = .returned (resultOf visits) := by
  unfold scan at h
  rw [haccepted] at h
  obtain ⟨s₁, hbefore, h⟩ := Job.Ends.log_bind h
  rcases h.bind with ⟨message, rfl, hattempt⟩ | ⟨o, s₂, hattempt, h⟩
  · obtain ⟨o, s₃, s₄, -, -, -, hcrash⟩ := hattempt.attempt
    cases hcrash
  · obtain ⟨o', s₃, s₄, hpass, hrun, hpass', heq⟩ := hattempt.attempt
    obtain rfl : o = o' := Outcome.returned.inj heq
    obtain ⟨visits, hcourse, rfl⟩ := runCheckers_course rfl hrun
    have hcourse' :=
      (hcourse.logs (hbefore.drifts hpass)).then_logs (Session.logs_of_drifts hpass')
    refine ⟨visits, ?_⟩
    cases hfailure : visits.findSome? Visit.failure? with
    | none =>
      have hend : endOf [] visits = .returned (.ok (visits.flatMap Visit.kept)) := by
        simp [endOf, hfailure]
      rw [hend] at h
      obtain ⟨s₅, hlogs, h⟩ := Job.Ends.log_bind h
      obtain ⟨rfl, hpass⟩ := h.done
      exact ⟨hcourse'.then_logs (hlogs.drifts hpass), by rw [resultOf, hfailure]⟩
    | some e =>
      cases e with
      | crashed message =>
        have hend : endOf [] visits = .crashed message := by rw [endOf, hfailure]
        rw [hend] at h
        obtain ⟨s₅, hlogs, h⟩ := Job.Ends.log_bind h
        obtain ⟨rfl, hpass⟩ := h.done
        exact ⟨hcourse'.then_logs (hlogs.drifts hpass), by rw [resultOf, hfailure]⟩
      | invalidOptions | checker =>
        rw [show endOf [] visits = .returned (.error _) by rw [endOf, hfailure]] at h
        obtain ⟨rfl, hpass⟩ := h.done
        exact ⟨hcourse'.then_logs (Session.logs_of_drifts hpass), by rw [resultOf, hfailure]⟩

/-- A scan with options that are refused does nothing. -/
theorem scan_refused {engine : Engine} {options : ScanOptions} {outcome : Outcome ScanResult}
    {e : ConfigError} (hrefused : options.validate = .error e)
    (h : (engine.scan domain method options).Ends peers s outcome s') :
    outcome = .returned (.error (.invalidOptions e)) ∧ s.Drifts peers s' := by
  unfold scan at h
  rw [hrefused] at h
  exact h.done

/-- A scan that goes by the clock ends with a result. -/
theorem exists_run_scan (engine : Engine) (domain : String) (method : Method)
    (options : ScanOptions) (peers : Peers) (s : Session) :
    ∃ fuel result s', (engine.scan domain method options).run peers fuel s.forget =
      some (.returned result, s') := by
  obtain ⟨fuel, outcome, s', hrun⟩ :=
    Job.exists_run peers (engine.scan domain method options) (s := s.forget) rfl rfl
  have h := Job.ends_of_run hrun
  cases hvalidate : options.validate with
  | error e =>
    obtain ⟨rfl, -⟩ := scan_refused hvalidate h
    exact ⟨fuel, _, s', hrun⟩
  | ok =>
    obtain ⟨visits, -, rfl⟩ := exists_course hvalidate h
    exact ⟨fuel, _, s', hrun⟩

/-- **A scan visits the checkers from the first on, up to the first one that ends it.**

It always ends with a result, in whatever order its steps are taken. Options that are refused keep
everything from happening. Otherwise each checker that is visited is run once, on the domain in its
normal form, and the result is the failure of the last one or what all of them found. -/
theorem scan_follows_course (engine : Engine) (domain : String) (method : Method)
    (options : ScanOptions) (peers : Peers) (s : Session) :
    (∃ fuel result s', (engine.scan domain method options).run peers fuel s.forget =
      some (.returned result, s')) ∧
    ∀ outcome s', (engine.scan domain method options).Ends peers s.forget outcome s' →
      (∀ e, options.validate = .error e →
        outcome = .returned (.error (.invalidOptions e)) ∧ s.forget.Passes s') ∧
      (options.validate = .ok () → ∃ visits,
        Course peers (fun c => c.check ⟨options, engine.probes⟩ (Domain.normalize domain) method)
          engine.checkers s.forget s' visits ∧
        outcome = .returned (resultOf visits) ∧
        ∀ problems, resultOf visits = .ok problems →
          (∀ p ∈ problems, p.name ≠ "") ∧
          ∀ front p back, problems = front ++ p :: back → p.severity = .fatal →
            ∃ v ∈ visits, p :: back <:+ v.kept) := by
  refine ⟨exists_run_scan engine domain method options peers s, fun outcome s' h => ?_⟩
  refine ⟨fun e hrefused => ?_, fun haccepted => ?_⟩
  · obtain ⟨houtcome, drifts⟩ := scan_refused hrefused h
    exact ⟨houtcome, drifts.passes rfl⟩
  obtain ⟨visits, hcourse, hresult⟩ := exists_course haccepted h
  refine ⟨visits, hcourse, hresult, fun problems hproblems => ?_⟩
  refine ⟨name_ne_empty_of_mem hproblems, fun front p back hsplit hfatal => ?_⟩
  have hkept : visits.flatMap Visit.kept = problems := (eq_flatMap_of_resultOf hproblems).symm
  exact exists_suffix_kept hcourse.goesOn (hkept.trans hsplit) hfatal

end Engine

end Rehearsal
