import Rehearsal.Proofs.Check.Nameservers
import Rehearsal.Proofs.Probe.Requests
import Rehearsal.Check.Accessibility
import Rehearsal.Check.Cloudflare
import Rehearsal.Check.StatusPage

/-!
# The rules of what web servers tell

Whatever servers answer, and however often they redirect, nothing that is found about them is fatal,
and no request that fails is a failure of the checker.

## Main results

* `Check.returns_probe`: a probe returns, with a finding that is not fatal
* `Check.httpAccessibility_obeys`, `Check.cloudflare_obeys`, `Check.statusPage_obeys`
-/

namespace Rehearsal

namespace Check

variable {resolve : Resolution}

/-! ### Probes -/

theorem returns_visit (plan : Probe.Plan) (began left : Nat) (url : Url) (result : ProbeResult) :
    (Probe.visit plan began left url result).Returns resolve fun _ => True := by
  induction left using Nat.strong_induction_on generalizing url result with
  | _ left ih =>
    rw [Probe.visit_eq]
    refine (Probe.dial_returns plan url).bind fun place _ =>
      Probe.returns_since_bind fun elapsed => ?_
    split
    next => exact Job.returns_done trivial
    next =>
      cases place with
      | error e => exact Job.returns_done trivial
      | ok found =>
        refine Job.returns_ask_bind fun answer => Probe.returns_since_bind fun elapsed => ?_
        refine Probe.receive_cases (P := fun job => job.Returns _ _) answer ?failed ?arrived ?spent
          ?refused ?followed
        case followed =>
          rintro response target more - - rfl -
          exact ih more (Nat.lt_succ_self more) _ _
        all_goals
          intros
          exact Job.returns_done trivial

theorem explain_not_fatal (domain : String) (address : IpAddress) (trace : List String)
    (failure : ProbeFailure) : (Probe.explain domain address trace failure).isFatal = false := by
  unfold Probe.explain
  split
  · rfl
  · split
    · rfl
    · simp only
      split <;> rfl

theorem judge_not_fatal {domain expected : String} {result : ProbeResult}
    {broken : Option BodyFault} {p : Problem}
    (h : Probe.judge domain expected result broken = some p) : p.isFatal = false := by
  rcases Probe.judge_cases h with ⟨message, rfl⟩ | ⟨status, body, rfl⟩
  · exact explain_not_fatal ..
  · rfl

/-- The finding at the end of a probe is not fatal. -/
theorem finish_not_fatal (domain expected : String) (arrived : Probe.Arrived) {p : Problem}
    (h : (Probe.finish domain expected arrived).2 = some p) : p.isFatal = false := by
  obtain ⟨result, elapsed, arrival⟩ := arrived
  cases arrival with
  | ok response => exact judge_not_fatal h
  | error failure =>
    obtain rfl := Option.some.inj h
    exact explain_not_fatal ..

/-- A probe returns, and its finding is not fatal. -/
theorem returns_probe (context : ScanContext) (domain : String) (address : IpAddress) :
    (Probe.run context domain address).Returns resolve fun probed =>
      ∀ p, probed.2 = some p → p.isFatal = false := by
  unfold Probe.run
  simp only
  split
  · refine Job.returns_done fun p h => ?_
    obtain rfl := Option.some.inj h
    rfl
  · split
    next failure _ =>
      exact Job.returns_done fun p h => finish_not_fatal domain "" (_, 0, .error failure) h
    next =>
      exact Job.returns_time_bind fun began => (returns_visit _ began _ _ _).bind
        fun arrived _ => Job.returns_done fun p h => finish_not_fatal _ _ arrived h

theorem reportProbes_not_fatal (domain : String) (probes : List Probed)
    (h : ∀ probed ∈ probes, ∀ p, probed.2 = some p → p.isFatal = false) :
    ∀ p ∈ reportProbes domain probes, p.isFatal = false := by
  unfold reportProbes
  intro p hp
  rcases List.mem_append.mp hp with hp | hp
  · rcases List.mem_append.mp hp with hp | hp
    · obtain ⟨probed, hprobed, hsome⟩ := List.mem_filterMap.mp hp
      exact h probed hprobed p hsome
    · unfold compareFamilies at hp
      split at hp
      · split at hp
        · rw [List.mem_singleton.mp hp]
          rfl
        · cases hp
      · cases hp
  · rw [List.mem_singleton.mp hp]
    rfl

theorem httpAccessibility_obeys (context : ScanContext) (domain : String) (method : Method) :
    Obeys resolve (httpAccessibility.check context domain method)
      (Rule.under (method = .http01) .never) := by
  refine forMethod_obeys context domain method (obeys_never ?_)
  refine Job.returns_lookup_bind (Job.returns_lookup_bind ?_)
  dsimp only
  split
  · exact Job.returns_done (harmless_ok fun _ hp => absurd hp List.not_mem_nil)
  · refine (Job.returns_all fun job hjob => ?_).bind fun probes hprobes =>
      Job.returns_done (harmless_ok (reportProbes_not_fatal domain probes hprobes))
    obtain ⟨address, -, rfl⟩ := List.mem_map.mp hjob
    exact returns_probe context domain address

/-! ### Ordinary requests -/

theorem returns_addressOf (host : UrlHost) :
    (Client.addressOf host).Returns resolve fun _ => True := by
  cases host with
  | v4 | v6 => exact Job.returns_done trivial
  | name host => exact Job.returns_ask_bind fun addresses => Job.returns_done trivial

theorem returns_clientVisit (follow : Bool) (left : Nat) (url : Url) :
    (Client.visit follow left url).Returns resolve fun _ => True := by
  induction left generalizing url with
  | zero =>
    rw [Client.visit]
    split
    · exact Job.returns_done trivial
    · refine (returns_addressOf _).bind fun address _ => ?_
      cases address with
      | none => exact Job.returns_done trivial
      | some address =>
        refine Job.returns_ask_bind fun answer => ?_
        cases answer with
        | error fault => exact Job.returns_done trivial
        | ok response =>
          dsimp only
          split <;> exact Job.returns_done trivial
  | succ left ih =>
    rw [Client.visit]
    split
    · exact Job.returns_done trivial
    · refine (returns_addressOf _).bind fun address _ => ?_
      cases address with
      | none => exact Job.returns_done trivial
      | some address =>
        refine Job.returns_ask_bind fun answer => ?_
        cases answer with
        | error fault => exact Job.returns_done trivial
        | ok response =>
          dsimp only
          split
          · exact Job.returns_done trivial
          · split
            · exact ih _
            · exact Job.returns_done trivial

theorem returns_get (follow : Bool) (text : String) :
    (Client.get follow text).Returns resolve fun _ => True := by
  unfold Client.get
  split
  · exact Job.returns_done trivial
  · exact returns_clientVisit _ _ _

theorem cloudflare_obeys (context : ScanContext) (domain : String) (method : Method) :
    Obeys resolve (cloudflare.check context domain method) .never := by
  refine obeys_never ?_
  unfold cloudflare
  dsimp only
  refine (returns_get true s!"https://{(Domain.stripWildcard domain).1}").bind fun secure _ => ?_
  cases secure with
  | some r =>
    refine Job.returns_done (harmless_ok fun p hp => ?_)
    split at hp
    · rw [List.mem_singleton.mp hp]
      rfl
    · cases hp
  | none =>
    refine (returns_get _ _).bind fun plain _ => ?_
    cases plain with
    | some r =>
      refine Job.returns_done (harmless_ok fun p hp => ?_)
      split at hp
      · rcases List.mem_pair.mp hp with rfl | rfl <;> rfl
      · cases hp
    | none => exact Job.returns_done (harmless_ok fun _ hp => absurd hp List.not_mem_nil)

theorem judgeStatusBody_not_fatal (body : Bytes) :
    ∀ p ∈ judgeStatusBody body, p.isFatal = false := by
  unfold judgeStatusBody judgeStatus
  intro p hp
  split at hp
  · split at hp
    · rw [List.mem_singleton.mp hp]
      rfl
    · rcases List.mem_pair.mp hp with rfl | rfl <;> rfl
  · rw [List.mem_singleton.mp hp]
    rfl

theorem statusPageAt_obeys (url : String) (context : ScanContext) (domain : String)
    (method : Method) : Obeys resolve ((statusPageAt url).check context domain method) .never := by
  refine obeys_never ((returns_get true url).bind fun page _ => ?_)
  split
  · exact Job.returns_done (harmless_ok (judgeStatusBody_not_fatal _))
  · exact Job.returns_done (harmless_ok fun _ hp => absurd hp List.not_mem_nil)

theorem statusPage_obeys (context : ScanContext) (domain : String) (method : Method) :
    Obeys resolve (statusPage.check context domain method) .never :=
  statusPageAt_obeys statusApiUrl context domain method

end Check

end Rehearsal
