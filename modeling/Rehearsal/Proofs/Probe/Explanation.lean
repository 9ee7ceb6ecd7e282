import Rehearsal.Proofs.Probe.Expectation

/-!
# What a finding is named for

A failure becomes a finding whose name depends on the text of the failure: one that mentions a wrong
protocol blames the configuration of the server, any other the address. Most of these texts are
about connections. But a body that is not the expected one is a failure too, and its text quotes
both of them. So it does matter what a server sends, and also what whoever asks for the scan
expects, though nothing is wrong with the protocol.

No mention of a protocol has a quotation mark in it. So a text with quotations mentions one only if
a quotation does or what stands between them, and what stands between them never does.

## Main definitions

* `Probe.notWorkingName`: the name of a finding that blames the address
* `Probe.readBody`: what is read of the body of a response
* `Probe.Leg.ArrivesAt`: a leg has a response that leads nowhere

## Main results

* `Text.infix_append_cons_iff`: where a mark separates two texts, a part without it is on one side
* `Probe.explain_name`: the name of a finding
* `Probe.isProtocolMismatch_body`: when the text of a failure because of a body mentions a protocol
* `Probe.conclude_name_of_mismatch`: the name of the finding on a body that is not the expected one
* `Probe.run_explains`: what is true of every probe
-/

namespace Rehearsal

namespace Text

/-- **A part without the mark between two texts is a part of one of them.** -/
theorem infix_append_cons_iff {α : Type} {part front back : List α} {mark : α} (h : mark ∉ part) :
    part <:+: front ++ mark :: back ↔ part <:+: front ∨ part <:+: back := by
  constructor
  · rintro ⟨before, after, heq⟩
    rw [List.append_assoc, List.append_eq_append_iff] at heq
    rcases heq with ⟨rest, hfront, hrest⟩ | ⟨rest, hbefore, hrest⟩
    · -- the part begins in front of the mark, so it also ends there
      rcases List.append_eq_append_iff.mp hrest with ⟨more, hmore, -⟩ | ⟨more, hpart, hmore⟩
      · exact .inl ⟨before, more, by rw [List.append_assoc, ← hmore, hfront]⟩
      · cases more with
        | nil => exact .inl ⟨before, [], by simp_all⟩
        | cons c more =>
          obtain ⟨rfl, -⟩ := List.cons.inj hmore
          exact absurd (hpart ▸ List.mem_append_right _ List.mem_cons_self) h
    · cases rest with
      | nil =>
        cases part with
        | nil => exact .inl (List.nil_infix)
        | cons c part =>
          obtain ⟨rfl, -⟩ := List.cons.inj hrest
          exact absurd List.mem_cons_self h
      | cons c rest =>
        obtain ⟨-, rfl⟩ := List.cons.inj hrest
        exact .inr ⟨rest, after, List.append_assoc _ _ _⟩
  · rintro (⟨before, after, rfl⟩ | ⟨before, after, rfl⟩)
    · exact ⟨before, after ++ mark :: back, by simp⟩
    · exact ⟨front ++ mark :: before, after, by simp⟩

theorem mentions_eq_false {text part : String} (h : ∃ c ∈ part.toList, c ∉ text.toList) :
    mentions text part = false := by
  obtain ⟨c, hpart, htext⟩ := h
  rw [Bool.eq_false_iff]
  exact fun hmentions => htext ((mentions_iff.mp hmentions).subset hpart)

/-- A part without a quotation mark is on one side of it. -/
theorem mentions_quoted {front back part : String} (h : '"' ∉ part.toList) :
    mentions (front ++ "\"" ++ back) part = (mentions front part || mentions back part) := by
  have hquoted : (front ++ "\"" ++ back).toList = front.toList ++ '"' :: back.toList := by simp
  rw [Bool.eq_iff_iff, Bool.or_eq_true]
  simp only [mentions_iff, hquoted]
  exact infix_append_cons_iff h

end Text

namespace Probe

variable {domain expected : String} {address : IpAddress} {trace : List String}

/-! ### The name of a finding -/

/-- The name of a finding that blames the address. -/
def notWorkingName : IpAddress → String
  | .v6 _ => "AAAANotWorking"
  | .v4 _ => "ANotWorking"

theorem notWorkingName_ne (address : IpAddress) :
    notWorkingName address ≠ "WebserverMisconfiguration" := by
  cases address <;> simp [notWorkingName]

/-- **The name of a finding depends on the text of the failure and the family of the address.** -/
theorem explain_name (domain : String) (address : IpAddress) (trace : List String)
    (message : String) (timeout : Bool) :
    (explain domain address trace (.transport message timeout)).name =
      if isProtocolMismatch message then "WebserverMisconfiguration"
      else notWorkingName address := by
  rw [explain]
  split
  next => rfl
  next => cases address <;> rfl

theorem explain_misconfigured_iff {message : String} {timeout : Bool} :
    (explain domain address trace (.transport message timeout)).name =
      "WebserverMisconfiguration" ↔ isProtocolMismatch message = true := by
  rw [explain_name]
  split
  next h => exact iff_of_true rfl h
  next h => exact iff_of_false (notWorkingName_ne address) h

/-! ### Texts with quotations -/

theorem isProtocolMismatch_quoted (front back : String) :
    isProtocolMismatch (front ++ "\"" ++ back) =
      (isProtocolMismatch front || isProtocolMismatch back) := by
  have hanswered : '"' ∉ "HTTP response to HTTPS".toList := by decide
  have hversion : '"' ∉ "wrong version number".toList := by decide
  simp only [isProtocolMismatch, Text.mentions_quoted hanswered, Text.mentions_quoted hversion]
  ac_rfl

/-- A text without some character of each of the mentions has none of them in it. -/
theorem isProtocolMismatch_eq_false {text : String}
    (h : ∃ c ∈ "HTTP response to HTTPS".toList, c ∉ text.toList)
    (h' : ∃ c ∈ "wrong version number".toList, c ∉ text.toList) :
    isProtocolMismatch text = false := by
  rw [isProtocolMismatch, Text.mentions_eq_false h, Text.mentions_eq_false h', Bool.or_false]

/-- The beginning of a failure where a body is expected is a quotation of that. -/
theorem isProtocolMismatch_expecting (expected rest : String) :
    isProtocolMismatch
        (s!"This test expected the server to respond with \"{expected}\" but instead we " ++ rest) =
      (isProtocolMismatch expected || isProtocolMismatch (" but instead we " ++ rest)) := by
  have hfront : ("This test expected the server to respond with \"" : String) =
      "This test expected the server to respond with " ++ "\"" := by decide +kernel
  have hback : ("\" but instead we " : String) = "\"" ++ " but instead we " := by decide +kernel
  have hparts :
      s!"This test expected the server to respond with \"{expected}\" but instead we " ++ rest =
        "This test expected the server to respond with " ++ "\"" ++
          (expected ++ "\"" ++ (" but instead we " ++ rest)) := by
    rw [hfront, hback]
    simp only [String.append_assoc]
    rfl
  have hnone : isProtocolMismatch "This test expected the server to respond with " = false :=
    isProtocolMismatch_eq_false ⟨'H', by decide, by decide⟩ ⟨'b', by decide, by decide⟩
  rw [hparts, isProtocolMismatch_quoted, isProtocolMismatch_quoted, hnone, Bool.false_or]

/-- The end of a failure because of a body is a quotation of that. -/
theorem isProtocolMismatch_got (body : String) :
    isProtocolMismatch (" but instead we " ++ s!"got a response beginning with \"{body}\"") =
      isProtocolMismatch body := by
  have hfront : (" but instead we " ++ "got a response beginning with \"" : String) =
      " but instead we got a response beginning with " ++ "\"" := by decide +kernel
  have hparts : " but instead we " ++ s!"got a response beginning with \"{body}\"" =
      " but instead we got a response beginning with " ++ "\"" ++ (body ++ "\"" ++ "") := by
    rw [← hfront]
    simp only [String.append_assoc]
    rfl
  have hnone : isProtocolMismatch " but instead we got a response beginning with " = false :=
    isProtocolMismatch_eq_false ⟨'H', by decide, by decide⟩ ⟨'v', by decide, by decide⟩
  have hempty : isProtocolMismatch "" = false := by decide
  rw [hparts, isProtocolMismatch_quoted, isProtocolMismatch_quoted, hnone, hempty, Bool.false_or,
    Bool.or_false]

/-- **The text of a failure because of a body mentions a wrong protocol** if the expected text does
or what is shown of the body. -/
theorem isProtocolMismatch_body (expected body : String) :
    isProtocolMismatch
        (s!"This test expected the server to respond with \"{expected}\" but instead we " ++
          s!"got a response beginning with \"{body}\"") =
      (isProtocolMismatch expected || isProtocolMismatch body) := by
  rw [isProtocolMismatch_expecting, isProtocolMismatch_got]

/-! ### The finding on a response -/

variable {result : ProbeResult} {response : Response} {content : Bytes}

/-- Where a body is expected, what is read of a body is compared with it. -/
theorem judge_of_expected (hexpected : expected ≠ "") :
    judge domain expected result none =
      if Text.decodeLossy result.content = expected then none
      else
        some (explain domain result.address result.trace (.transport
          (s!"This test expected the server to respond with \"{expected}\" but instead we " ++
            s!"got a response beginning with \"{Text.decodeLossy result.content}\"") false)) := by
  have hsome : expected.isEmpty = false := by
    rwa [Bool.eq_false_iff, ne_eq, String.isEmpty_iff]
  rw [judge, hsome, if_neg Bool.false_ne_true]

/-- Where no body is expected, the finding on a body that is read is about the status. -/
theorem judge_of_not_expected {p : Problem} (h : judge domain "" result none = some p) :
    p.name = "UnexpectedHttpResponse" := by
  rw [judge, if_pos (by decide)] at h
  split at h
  next => cases h
  next =>
    obtain rfl := Option.some.inj h
    rfl

/-- **The name of the finding on a body that is not the expected one.** -/
theorem judge_name_of_mismatch (hexpected : expected ≠ "")
    (hother : Text.decodeLossy result.content ≠ expected) :
    ∃ p, judge domain expected result none = some p ∧ p.name =
      if isProtocolMismatch expected || isProtocolMismatch (Text.decodeLossy result.content) then
        "WebserverMisconfiguration"
      else notWorkingName result.address := by
  refine ⟨_, (judge_of_expected hexpected).trans (if_neg hother), ?_⟩
  rw [explain_name, isProtocolMismatch_body]

/-- The finding on a body that is read blames the server only if a protocol is mentioned in it or in
the expected one, and the two differ. -/
theorem mismatch_of_judge_misconfigured {p : Problem}
    (h : judge domain expected result none = some p)
    (hname : p.name = "WebserverMisconfiguration") :
    expected ≠ "" ∧ Text.decodeLossy result.content ≠ expected ∧
      (isProtocolMismatch expected || isProtocolMismatch (Text.decodeLossy result.content)) =
        true := by
  by_cases hexpected : expected = ""
  · subst hexpected
    rw [judge_of_not_expected h] at hname
    exact absurd hname (by decide)
  · by_cases hsame : Text.decodeLossy result.content = expected
    · rw [judge_of_expected hexpected, if_pos hsame] at h
      cases h
    · rw [judge_of_expected hexpected, if_neg hsame] at h
      obtain rfl := Option.some.inj h
      rw [explain_misconfigured_iff, isProtocolMismatch_body] at hname
      exact ⟨hexpected, hsame, hname⟩

/-- What is read of the body of a response, and what broke it off before that. -/
def readBody (expected : String) (response : Response) : Bytes × Option BodyFault :=
  Body.read (bodyLimit expected) response.body response.ending

/-- The finding on a response is the one on what is read of its body. -/
theorem conclude_snd (domain expected : String) (result : ProbeResult) (elapsed : Nat)
    (response : Response) :
    (conclude domain expected result elapsed response).2 =
      judge domain expected
        ((result.observe elapsed response.status ((response.textHeader? "server").getD "")).keep
          (readBody expected response).1)
        (readBody expected response).2 :=
  rfl

/-- **The name of the finding on a response whose body is not the expected one.** -/
theorem conclude_name_of_mismatch (domain : String) (result : ProbeResult) (elapsed : Nat)
    (hread : readBody expected response = (content, none)) (hexpected : expected ≠ "")
    (hother : Text.decodeLossy content ≠ expected) :
    ∃ p, (conclude domain expected result elapsed response).2 = some p ∧ p.name =
      if isProtocolMismatch expected || isProtocolMismatch (Text.decodeLossy content) then
        "WebserverMisconfiguration"
      else notWorkingName result.address := by
  rw [conclude_snd, hread]
  exact judge_name_of_mismatch hexpected hother

/-- A finding on a response that blames the server is about a body that could not be read or was not
the expected one. -/
theorem broken_or_mismatch_of_conclude_misconfigured {elapsed : Nat} {p : Problem}
    (h : (conclude domain expected result elapsed response).2 = some p)
    (hname : p.name = "WebserverMisconfiguration") :
    ∃ content broken, readBody expected response = (content, broken) ∧
      (broken ≠ none ∨ expected ≠ "" ∧ Text.decodeLossy content ≠ expected ∧
        (isProtocolMismatch expected || isProtocolMismatch (Text.decodeLossy content)) = true) := by
  refine ⟨_, _, rfl, ?_⟩
  rw [conclude_snd] at h
  by_cases hbroken : (readBody expected response).2 = none
  · rw [hbroken] at h
    exact .inr (mismatch_of_judge_misconfigured h hname)
  · exact .inl hbroken

/-! ### Every probe -/

/-- The leg has a response that leads nowhere. -/
def Leg.ArrivesAt (leg : Leg) (response : Response) : Prop :=
  leg.answer = .returned (.ok response) ∧ response.redirectTarget? leg.url = none

/-- A route that ends with a response has a leg that arrives at it. -/
theorem Route.exists_arrives {peers : Peers} {past left : Nat} {plan : Plan} {url : Url}
    {result record : ProbeResult} {journal journal' : List Event} {legs : List Leg}
    {stranded : Option Url} {elapsed : Nat} {outcome : Outcome Arrived}
    (h : Route peers past plan left url result journal legs stranded journal' outcome)
    (houtcome : outcome = .returned (record, elapsed, .ok response)) :
    ∃ leg ∈ legs, leg.ArrivesAt response := by
  induction h with
  | lost | broken => cases houtcome
  | late | nowhere | failed | spent | refused =>
    cases congrArg (fun arrived => arrived.2.2) (Outcome.returned.inj houtcome)
  | arrived _ answer last =>
    cases congrArg (fun arrived => arrived.2.2) (Outcome.returned.inj houtcome)
    exact ⟨_, List.mem_singleton_self _, answer, last⟩
  | followed _ _ _ _ _ ih =>
    obtain ⟨leg, hleg, harrives⟩ := ih houtcome
    exact ⟨leg, List.mem_cons_of_mem _ hleg, harrives⟩

/-- A finding of a probe that blames the server is about a failure to get a response, or about the
response that was got. -/
theorem Journey.misconfigured {peers : Peers} {past : Nat} {context : ScanContext}
    {journal journal' : List Event} {legs : List Leg} {stranded : Option Url} {p : Problem}
    (h : Journey peers past context domain address journal legs stranded journal'
      (.returned (result, some p)))
    (hname : p.name = "WebserverMisconfiguration") :
    (∀ leg ∈ legs, ∀ response, ¬leg.ArrivesAt response) ∨
      ∃ leg ∈ legs, ∃ response record elapsed, leg.ArrivesAt response ∧
        (conclude domain context.options.expectedBody record elapsed response).2 = some p := by
  generalize houtcome : Outcome.returned (result, some p) = outcome at h
  cases h with
  | nameless =>
    obtain ⟨-, hp⟩ := Prod.mk.inj (Outcome.returned.inj houtcome)
    obtain rfl := Option.some.inj hp
    exact absurd hname (by decide)
  | unreadable => exact .inl fun _ hleg => absurd hleg List.not_mem_nil
  | travelled _ _ route verdict =>
    cases verdict with
    | crashed => cases houtcome
    | @returned arrived =>
      obtain ⟨record, elapsed, arrival⟩ := arrived
      cases arrival with
      | ok response =>
        obtain ⟨leg, hleg, harrives⟩ := route.exists_arrives rfl
        exact .inr ⟨leg, hleg, response, record, elapsed, harrives,
          (congrArg Prod.snd (Outcome.returned.inj houtcome)).symm⟩
      | error failure =>
        refine .inl fun leg hleg response harrives => ?_
        obtain ⟨record', elapsed', hreturned⟩ := route.arrived_ends hleg harrives.1 harrives.2
        cases congrArg (fun arrived => arrived.2.2) (Outcome.returned.inj hreturned)

/-- **What the finding of a probe is named for.** If a body is expected and the one that is read is
not it, there is a finding, and it blames the address unless one of the two bodies mentions a wrong
protocol. So the server is blamed only where there is no response at the end, where its body could
not be read, and where it was read, was not the expected one, and one of the two mentions that. -/
theorem run_explains (context : ScanContext) (domain : String) (address : IpAddress) (peers : Peers)
    {past : Nat} {s : Session} (hs : s.Alone past) :
    (∃ fuel outcome s', (run context domain address).run peers fuel s = some (outcome, s')) ∧
    ∀ outcome s', (run context domain address).Ends peers s outcome s' →
      let expected := context.options.expectedBody
      ∃ legs : List Leg,
        Journal.requests (s'.journal.drop s.journal.length) =
          legs.map (Leg.exchange (planOf context domain address)) ∧
        (∀ leg ∈ legs, leg.Runs peers past (planOf context domain address)) ∧
        (∀ leg ∈ legs, ∀ response content, leg.ArrivesAt response →
          readBody expected response = (content, none) → expected ≠ "" →
          Text.decodeLossy content ≠ expected →
            ∃ result p, outcome = .returned (result, some p) ∧ p.name =
              if isProtocolMismatch expected || isProtocolMismatch (Text.decodeLossy content) then
                "WebserverMisconfiguration"
              else notWorkingName address) ∧
        ∀ result p, outcome = .returned (result, some p) → p.name = "WebserverMisconfiguration" →
          (∀ leg ∈ legs, ∀ response, ¬leg.ArrivesAt response) ∨
          ∃ leg ∈ legs, ∃ response content broken, leg.ArrivesAt response ∧
            readBody expected response = (content, broken) ∧
            (broken ≠ none ∨ expected ≠ "" ∧ Text.decodeLossy content ≠ expected ∧
              (isProtocolMismatch expected || isProtocolMismatch (Text.decodeLossy content)) =
                true) := by
  refine ⟨Job.exists_run_alone peers _ hs, fun outcome s' h => ?_⟩
  obtain ⟨legs, stranded, hjourney⟩ := run_journey hs h
  refine ⟨legs, hjourney.requests_eq, fun leg hleg => (hjourney.runs leg hleg).1, ?_, ?_⟩
  · intro leg hleg response content harrives hread hexpected hother
    obtain ⟨record, elapsed, rfl⟩ := hjourney.concludes hleg harrives.1 harrives.2
    have haddress : record.address = address :=
      run_address context domain address _ (h.gives hs.orderly (World.covers_seen _ _))
    obtain ⟨p, hp, hname⟩ := conclude_name_of_mismatch domain record elapsed hread hexpected hother
    exact ⟨_, p, congrArg Outcome.returned (Prod.ext rfl hp), haddress ▸ hname⟩
  · rintro result p rfl hname
    refine (hjourney.misconfigured hname).imp_right ?_
    rintro ⟨leg, hleg, response, record, elapsed, harrives, hfinding⟩
    obtain ⟨content, broken, hread, hwhy⟩ :=
      broken_or_mismatch_of_conclude_misconfigured hfinding hname
    exact ⟨leg, hleg, response, content, broken, harrives, hread, hwhy⟩

/-- A server that sends the text of a wrong protocol is blamed for one. -/
theorem run_blames_server_for_body :
    let options : ScanOptions := { ScanOptions.standard with expectedBody := "token" }
    let body : Bytes := Text.encode "wrong version number"
    let peers : Peers :=
      { lookup := fun _ _ => .now (.ok [])
        answer := fun _ question => .now (match question with
          | .direct .. => .ok ⟨.noError, []⟩
          | .exchange .. => .ok ⟨200, [], [body], none⟩
          | .addresses _ => []
          | .draw _ => 0) }
    ∃ result p s', (run ⟨options, .standard⟩ "example.org" (.v4 0x5DB8D822)).Ends peers
        Session.fresh.forget (.returned (result, some p)) s' ∧
      p.name = "WebserverMisconfiguration" := by
  intro options body peers
  have hone : ((run ⟨options, .standard⟩ "example.org" (.v4 0x5DB8D822)).run peers 8
      Session.fresh.forget).map (fun ended => (Journal.requests ended.2.journal).length) =
        some 1 := by decide +kernel
  obtain ⟨⟨outcome, s'⟩, hrun, hone⟩ := Option.map_eq_some_iff.mp hone
  have h := Job.ends_of_run hrun
  obtain ⟨legs, hrequests, hruns, hbodies, -⟩ :=
    (run_explains ⟨options, .standard⟩ "example.org" (.v4 0x5DB8D822) peers
      Session.fresh.alone_forget).2 outcome s' h
  obtain ⟨leg, rfl⟩ := exists_eq_singleton hrequests hone
  have hleg : leg ∈ [leg] := List.mem_cons_self
  obtain ⟨result, p, rfl, hname⟩ :=
    hbodies leg hleg _ body ⟨(hruns leg hleg).answered.symm, rfl⟩ (by decide +kernel)
      (by decide +kernel) (by decide +kernel)
  refine ⟨result, p, s', h, hname.trans (if_pos ?_)⟩
  decide +kernel

end Probe

end Rehearsal
