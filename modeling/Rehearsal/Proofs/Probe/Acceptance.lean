import Rehearsal.Proofs.Probe.Journey

/-!
# Which redirects a probe follows

A probe goes on from a redirect only to a URL that the validation server would request: one with a
scheme of the web, on one of the two standard ports, whose host does not end as if the path had
grown onto it. Otherwise the redirect is the last thing that the probe sees, and the finding tells
why it was not followed.

Servers may redirect as they like, and for ever: no more than `maxHops` requests are sent.

## Main definitions

* `Probe.IsAcceptable`: the URLs that a redirect may lead to

## Main results

* `Probe.checkTarget_eq_ok_iff`: these are the URLs that pass the check
* `Probe.run_redirects_acceptable`: every redirect that is followed is acceptable, and one that is
  not ends the probe
-/

namespace Rehearsal

namespace Probe

/-! ### What a redirect may lead to -/

/-- The validation server follows a redirect to the URL. -/
structure IsAcceptable (url : Url) : Prop where
  /-- The scheme is one of the web. -/
  scheme : url.scheme = "http" ∨ url.scheme = "https"
  /-- The port, which may be that of the scheme, is a standard one. -/
  port : url.effectivePort = some 80 ∨ url.effectivePort = some 443
  /-- No slash is missing after the host. -/
  host : ∀ host ∈ url.host, ¬".well-known".toList <:+ host.render.toList.map Text.asciiLower

variable {target : Url}

theorem isMissingSlash_eq_false_iff : isMissingSlash target = false ↔
    ∀ host ∈ target.host, ¬".well-known".toList <:+ host.render.toList.map Text.asciiLower := by
  unfold isMissingSlash
  split
  next host hhost =>
    rw [Bool.eq_false_iff, ne_eq, List.isSuffixOf_iff_suffix, hhost]
    exact ⟨fun h host' hhost' => Option.some.inj hhost' ▸ h, fun h => h host rfl⟩
  next hnone => simp [hnone]

theorem contains_allowedSchemes_iff :
    allowedSchemes.contains target.scheme = true ↔
      target.scheme = "http" ∨ target.scheme = "https" := by
  rw [List.contains_iff_mem, allowedSchemes, List.mem_pair]

theorem checkTarget_rest_eq_ok_iff : checkTarget.rest target = .ok () ↔
    (target.scheme = "http" ∨ target.scheme = "https") ∧ isMissingSlash target = false := by
  rw [← contains_allowedSchemes_iff, checkTarget.rest]
  cases allowedSchemes.contains target.scheme <;> cases isMissingSlash target <;> simp

theorem effectivePort_of_port_eq_none (hport : target.port = none)
    (hscheme : target.scheme = "http" ∨ target.scheme = "https") :
    target.effectivePort = some 80 ∨ target.effectivePort = some 443 := by
  rw [Url.effectivePort, hport, Option.none_or]
  exact hscheme.imp (fun h => by rw [h]; rfl) fun h => by rw [h]; rfl

theorem contains_allowedPorts_iff {port : Nat} (hport : target.port = some port) :
    allowedPorts.contains port = true ↔
      target.effectivePort = some 80 ∨ target.effectivePort = some 443 := by
  rw [Url.effectivePort, hport, Option.some_or]
  simp [allowedPorts]

/-- **The URLs that pass the check.** -/
theorem checkTarget_eq_ok_iff : checkTarget target = .ok () ↔ IsAcceptable target := by
  have hiff : IsAcceptable target ↔ (target.effectivePort = some 80 ∨
      target.effectivePort = some 443) ∧ checkTarget.rest target = .ok () := by
    rw [checkTarget_rest_eq_ok_iff, isMissingSlash_eq_false_iff]
    exact ⟨fun h => ⟨h.port, h.scheme, h.host⟩, fun ⟨port, scheme, host⟩ => ⟨scheme, port, host⟩⟩
  unfold checkTarget
  split
  next port hport =>
    rw [hiff, ← contains_allowedPorts_iff hport]
    cases allowedPorts.contains port <;> simp
  next hnone =>
    rw [hiff]
    refine ⟨fun h => ⟨?_, h⟩, And.right⟩
    exact effectivePort_of_port_eq_none hnone (checkTarget_rest_eq_ok_iff.mp h).1

/-- What is not acceptable is refused, and so is everything when no request is left. -/
theorem exists_refuses {left followed : Nat} (h : ¬IsAcceptable target ∨ left ≤ followed) :
    ∃ refusal, Refuses left followed target refusal := by
  by_cases hlt : followed < left
  · have hrefused := mt checkTarget_eq_ok_iff.mp (h.resolve_right (Nat.not_le.mpr hlt))
    cases hcheck : checkTarget target with
    | ok => exact absurd hcheck hrefused
    | error refusal => exact ⟨refusal, by rw [Refuses, if_pos hlt, hcheck]⟩
  · exact ⟨.tooMany target maxHops, by rw [Refuses, if_neg hlt]⟩

/-! ### What a probe follows -/

/-- **Every redirect that is followed is acceptable, and one that is not ends the probe**, with its
reason in the finding. Every probe ends, whatever the servers do. -/
theorem run_redirects_acceptable (context : ScanContext) (domain : String) (address : IpAddress)
    (peers : Peers) {past : Nat} {s : Session} (hs : s.Alone past) :
    (∃ fuel outcome s', (run context domain address).run peers fuel s = some (outcome, s')) ∧
    ∀ outcome s', (run context domain address).Ends peers s outcome s' →
      ∃ legs : List Leg,
        Journal.requests (s'.journal.drop s.journal.length) =
          legs.map (Leg.exchange (planOf context domain address)) ∧
        (∀ leg ∈ legs, leg.Runs peers past (planOf context domain address)) ∧
        (∀ leg ∈ legs.head?, ∃ shown,
          firstUrl (challengeUrl domain context.options.effectivePath) = .ok (shown, leg.url)) ∧
        (legs.IsChain fun leg next => leg.LeadsTo next.url ∧ IsAcceptable next.url) ∧
        legs.length ≤ maxHops ∧
        ∀ front leg back target, front ++ leg :: back = legs → leg.LeadsTo target →
          ¬IsAcceptable target ∨ maxHops ≤ front.length + 1 →
            back = [] ∧ ∃ refusal result, Refuses (maxHops - 1) front.length target refusal ∧
              outcome = .returned (result,
                some (badRedirect domain refusal.message result.trace)) := by
  refine ⟨Job.exists_run_alone peers _ hs, fun outcome s' h => ?_⟩
  obtain ⟨legs, stranded, hjourney⟩ := run_journey hs h
  refine ⟨legs, hjourney.requests_eq, fun leg hleg => (hjourney.runs leg hleg).1, ?_⟩
  generalize s'.journal = journal' at hjourney
  cases hjourney with
  | nameless | unreadable => simp
  | travelled _ first route verdict =>
    refine ⟨fun leg hleg => ⟨_, route.head_url leg hleg ▸ first⟩,
      route.isChain.imp fun _ _ h => ⟨h.1, checkTarget_eq_ok_iff.mp h.2⟩, route.length_le, ?_⟩
    intro front leg back target hlegs hleads hbad
    have hspent : ¬IsAcceptable target ∨ maxHops - 1 ≤ front.length :=
      hbad.imp_right Nat.sub_le_iff_le_add.mpr
    obtain ⟨refusal, hrefuses⟩ := exists_refuses hspent
    obtain ⟨hback, record, elapsed, rfl⟩ := route.refused_ends hlegs hleads hrefuses
    refine ⟨hback, refusal, record, hrefuses, ?_⟩
    cases verdict with
    | returned => rfl

/-- A challenge file that redirects to another port is requested, and that port is not. -/
theorem run_refuses_other_port :
    let redirect : Response := ⟨302, [("Location", Text.encode "http://example.org:8080/")], [],
      none⟩
    let peers : Peers :=
      { lookup := fun _ _ => .now (.ok [])
        answer := fun _ question => .now (match question with
          | .direct .. => .ok ⟨.noError, []⟩
          | .exchange .. => .ok redirect
          | .addresses _ => []
          | .draw _ => 0) }
    ∃ outcome s', (run ⟨.standard, .standard⟩ "example.org" (.v4 0x5DB8D822#32)).Ends peers
        Session.fresh.forget outcome s' ∧
      (Journal.requests s'.journal).length = 1 ∧
      ∃ result : ProbeResult, outcome = .returned (result, some (badRedirect "example.org"
        "Bad port number provided when fetching http://example.org:8080/: 8080" result.trace)) := by
  intro redirect peers
  let url : Url := ⟨"http", "", "", some (.name "example.org"), none,
    .segments [".well-known", "acme-challenge", "letsdebug-test"], none, none⟩
  let target : Url := ⟨"http", "", "", some (.name "example.org"), some 8080, .segments [""], none,
    none⟩
  have hone : ((run ⟨.standard, .standard⟩ "example.org" (.v4 0x5DB8D822#32)).run peers 8
      Session.fresh.forget).map (fun ended => (Journal.requests ended.2.journal).length) =
        some 1 := by decide +kernel
  obtain ⟨⟨outcome, s'⟩, hrun, hone⟩ := Option.map_eq_some_iff.mp hone
  have h := Job.ends_of_run hrun
  obtain ⟨legs, hrequests, hruns, hhead, -, -, hrefused⟩ :=
    (run_redirects_acceptable ⟨.standard, .standard⟩ "example.org" (.v4 0x5DB8D822#32) peers
      Session.fresh.alone_forget).2 outcome s' h
  refine ⟨outcome, s', h, hone, ?_⟩
  obtain ⟨leg, rfl⟩ := exists_eq_singleton hrequests hone
  have hurl : leg.url = url := by
    obtain ⟨shown, hfirst⟩ := hhead leg rfl
    have hknown : firstUrl (challengeUrl "example.org" ScanOptions.standard.effectivePath) =
        .ok (url, url) := by decide +kernel
    exact (Prod.mk.inj (Except.ok.inj (hfirst.symm.trans hknown))).2
  have hleads : leg.LeadsTo target :=
    ⟨redirect, (hruns leg List.mem_cons_self).answered.symm, by rw [hurl]; decide +kernel⟩
  have hport : ¬IsAcceptable target := fun hacceptable => by
    have hport := hacceptable.port
    simp [target, Url.effectivePort] at hport
  obtain ⟨-, refusal, result, hrefuses, rfl⟩ :=
    hrefused [] leg [] target rfl hleads (.inl hport)
  have hrefusal : refusal = .port target 8080 := by
    rw [Refuses, if_pos (by decide)] at hrefuses
    exact (Except.error.inj hrefuses).symm
  refine ⟨result, ?_⟩
  rw [hrefusal]
  rfl

end Probe

end Rehearsal
