import Rehearsal.Proofs.Check.Offline
import Rehearsal.Proofs.Probe.Redirects
import Rehearsal.Proofs.Url.Plain

/-!
# Where the file of a challenge is requested

The URL of a challenge file is put together from the name of a domain and the name of a file. Both
have been checked: nothing in the name of a domain ends the part of a URL that names the server, and
nothing in the name of a file begins a query or a fragment. So nothing is asked and no part is
meant, whatever the file is called, and the path goes on from the directory of challenges.

Whether it stays there is another matter. Control characters at the end of the name are lost with
the padding of the URL, a backslash separates like a slash, and dots, also escaped ones, lead back.
The check of options knows none of this. What is requested is told here for every name that passes,
and for names without a backslash it is told which of them are files in the directory.

## Main definitions

* `Probe.keptPath`: what is left of the name of a file

## Main results

* `Probe.ofText_challengeUrl`: what the URL of a challenge file is read as
* `Probe.isFile_iff`: when the path is that of a file in the directory
* `Probe.challenge_path`: the path of the first request
-/

namespace Rehearsal

namespace ScanOptions

/-- The file that is requested by accepted options has no separators in its name. -/
theorem not_isSeparator_of_validate {options : ScanOptions} (h : options.validate = .ok ()) :
    ∀ c ∈ options.effectivePath.toList, isSeparator c = false := by
  unfold effectivePath
  split
  · exact Url.eq_false_of_any (by decide)
  · unfold validate at h
    split at h
    · cases h
    · split at h
      · cases h
      next hnone => exact Url.eq_false_of_any (Bool.eq_false_of_not_eq_true hnone)

end ScanOptions

namespace Probe

variable {suffixes : List Domain.SuffixRule} {domain path : String} {kept : List Char}

/-! ### The parts of the URL -/

/-- The name of a file without the control characters at its end. -/
def keptPath (path : String) : List Char := Text.dropEndWhile Url.isPadding path.toList

/-- The directory of challenges. -/
abbrev directory : List String := [".well-known", "acme-challenge"]

theorem mem_stripWildcard {c : Char} (h : c ∈ domain.toList) :
    c ∈ (Domain.stripWildcard domain).1.toList ∨ c = '*' ∨ c = '.' := by
  unfold Domain.stripWildcard
  split
  next rest heq =>
    rw [heq, List.mem_cons, List.mem_cons] at h
    rw [String.toList_ofList]
    tauto
  next => exact .inl h

/-- A name that is not found invalid is plain, also with its wildcard. -/
theorem isPlain_of_accepted
    (h : (Check.classifyDomain suffixes (Domain.stripWildcard domain).1).name ≠ "InvalidDomain") :
    domain.toList ≠ [] ∧ ∀ c ∈ domain.toList, Url.IsPlain c ∧ Url.isLineEnd c = false := by
  obtain ⟨hne, hname⟩ := Check.name_of_accepted h
  have hallowed : ∀ c ∈ domain.toList,
      (Check.isNameCharacter c || c == '*' || c == '.') = true := fun c hc => by
    rcases mem_stripWildcard hc with hc | rfl | rfl
    · rw [hname c hc]
      rfl
    · rfl
    · rfl
  have hspecial : ([':', '@', '[', ']', '/', '\\', '?', '#'] ++ ['\t', '\n', '\r']).any
      (fun c => Check.isNameCharacter c || c == '*' || c == '.') = false := by decide
  have hnone (c : Char) (hc : c ∈ domain.toList) :
      c ∉ [':', '@', '[', ']', '/', '\\', '?', '#'] ++ ['\t', '\n', '\r'] := fun hmem =>
    Bool.noConfusion ((Url.eq_false_of_any hspecial c hmem).symm.trans (hallowed c hc))
  refine ⟨?_, fun c hc => ?_⟩
  · rw [ne_eq, String.toList_eq_nil_iff]
    rintro rfl
    exact hne rfl
  · obtain ⟨hplain, hline⟩ := not_or.mp (List.mem_append.not.mp (hnone c hc))
    exact ⟨hplain, by simpa [Url.isLineEnd] using hline⟩

section Reading

variable (hne : domain.toList ≠ [])
  (hdomain : ∀ c ∈ domain.toList, Url.IsPlain c ∧ Url.isLineEnd c = false)
  (hpath : ∀ c ∈ path.toList, ScanOptions.isSeparator c = false)

theorem toList_challengeUrl (domain path : String) :
    (challengeUrl domain path).toList = "http://".toList ++ (domain.toList ++
      '/' :: (".well-known".toList ++ '/' :: ("acme-challenge".toList ++ '/' :: path.toList))) := by
  simp only [challengeUrl, String.toList_append, List.append_assoc]
  rfl

include hdomain hpath

/-- Of the text of the URL only the end of the file's name is ignored. -/
theorem significant_challengeUrl :
    Url.significant (challengeUrl domain path).toList = "http://".toList ++ (domain.toList ++
      '/' :: (".well-known".toList ++
        '/' :: ("acme-challenge".toList ++ '/' :: keptPath path))) := by
  have hblank : ['\t', '\n', '\r'].all ScanOptions.isSeparator = true := by decide
  have hnone : ∀ c ∈ path.toList, Url.isLineEnd c = false := fun c hc => by
    rw [Url.isLineEnd, List.contains_eq_mem, decide_eq_false_iff_not]
    exact fun hmem => Bool.noConfusion
      ((hpath c hc).symm.trans (List.all_eq_true.mp hblank c hmem))
  rw [toList_challengeUrl, Url.significant_eq]
  · have hsplit (cs : List Char) : "http://".toList ++ (domain.toList ++
        '/' :: (".well-known".toList ++ '/' :: ("acme-challenge".toList ++ '/' :: cs))) =
        ("http://".toList ++ (domain.toList ++
          '/' :: (".well-known".toList ++ '/' :: "acme-challenge".toList))) ++ '/' :: cs := by
      simp only [List.append_assoc, List.cons_append]
    rw [hsplit, Url.dropEndWhile_after_slash, ← keptPath, hsplit]
  · intro c hc
    obtain rfl := Option.some.inj hc
    rfl
  · simp only [List.forall_mem_append, List.forall_mem_cons]
    exact ⟨Url.eq_false_of_any rfl, fun c hc => (hdomain c hc).2, rfl, Url.eq_false_of_any rfl, rfl,
      Url.eq_false_of_any rfl, rfl, hnone⟩

include hne

/-- **What the URL of a challenge file is read as**, if the name of the domain can be read. -/
theorem ofText_challengeUrl :
    Url.ofText (challengeUrl domain path) = (Url.readName domain.toList).map fun host =>
      ⟨"http", "", "", some host, none,
        .segments (Url.readSegments true directory (keptPath path)), none, none⟩ := by
  have hends : ∀ c ∈ keptPath path, Url.endsPath c = false := fun c hc => by
    have hno := hpath c ((Text.dropEndWhile_isPrefix _).subset hc)
    simp only [ScanOptions.isSeparator, Bool.or_eq_false_iff] at hno
    simp [Url.endsPath, hno]
  have hwhole : ∀ c ∈ ".well-known".toList ++ '/' :: ("acme-challenge".toList ++
      '/' :: keptPath path), Url.endsPath c = false := by
    simp only [List.forall_mem_append, List.forall_mem_cons]
    exact ⟨Url.eq_false_of_any rfl, rfl, Url.eq_false_of_any rfl, rfl, hends⟩
  rw [Url.ofText_plain (significant_challengeUrl hdomain hpath) hne
      (fun c hc => (hdomain c hc).1) hwhole,
    Url.readSegments_append (Url.eq_false_of_any rfl),
    Url.readSegments_append (Url.eq_false_of_any rfl)]
  rfl

/-- The URL that is requested first is read off the two names. -/
theorem firstUrl_challengeUrl {shown first : Url}
    (h : firstUrl (challengeUrl domain path) = .ok (shown, first)) :
    ∃ host, Url.readName domain.toList = .ok host ∧
      first = ⟨"http", "", "", some host, none,
        .segments (Url.readSegments true directory (keptPath path)), none, none⟩ := by
  unfold firstUrl at h
  rw [ofText_challengeUrl hne hdomain hpath] at h
  cases hhost : Url.readName domain.toList with
  | error e =>
    rw [hhost] at h
    cases h
  | ok host =>
    rw [hhost] at h
    dsimp only [Except.map] at h
    split at h
    next carried hcarried =>
      obtain ⟨-, rfl⟩ := Prod.mk.inj (Except.ok.inj h)
      exact ⟨host, rfl, Url.eq_of_onWire? hcarried rfl
        (Url.addPieces_ne_nil (List.splitOnP_ne_nil _ _)) rfl⟩
    next => cases h

end Reading

/-! ### Files in the directory -/

/-- **The path is that of a file in the directory** unless nothing is left of the file's name, or
dots are. -/
theorem isFile_iff (h : ∀ c ∈ kept, Url.isSlash true c = false) (segment : String) :
    segment ≠ "" ∧ Url.readSegments true directory kept = directory ++ [segment] ↔
      (kept ≠ [] ∧ Url.isSingleDot kept = false ∧ Url.isDoubleDot kept = false) ∧
        segment = String.ofList (Url.escape Url.escapedInPath kept) := by
  rw [Url.readSegments_of_no_slash h]
  cases hdouble : Url.isDoubleDot kept with
  | true =>
    -- the directory itself is taken back
    refine iff_of_false ?_ fun hall => Bool.noConfusion hall.1.2.2
    rintro ⟨-, heq⟩
    simp [Url.dropSegment] at heq
  | false =>
    cases hsingle : Url.isSingleDot kept with
    | true =>
      refine iff_of_false ?_ fun hall => Bool.noConfusion hall.1.2.1
      rintro ⟨hne, heq⟩
      exact hne (List.singleton_inj.mp (List.append_cancel_left heq)).symm
    | false =>
      have hempty : String.ofList (Url.escape Url.escapedInPath kept) = "" ↔ kept = [] := by
        rw [← String.toList_eq_nil_iff, String.toList_ofList, Url.escape_eq_nil_iff]
      constructor
      · rintro ⟨hne, heq⟩
        obtain rfl := List.singleton_inj.mp (List.append_cancel_left heq)
        exact ⟨⟨fun hkept => hne (hempty.mpr hkept), rfl, rfl⟩, rfl⟩
      · rintro ⟨⟨hkept, -⟩, rfl⟩
        exact ⟨fun hsegment => hkept (hempty.mp hsegment), rfl⟩

/-- **Where the file of a challenge is requested**, for options and names that are accepted: nothing
is asked and no part is meant, and the path goes on from the directory of challenges through the
pieces of what is left of the file's name. If that holds no backslash, the path is that of a file in
the directory exactly if something is left and it is not made of dots. -/
theorem challenge_path (suffixes : List Domain.SuffixRule) (context : ScanContext)
    (domain : String) {shown first : Url} (hoptions : context.options.validate = .ok ())
    (hname : (Check.classifyDomain suffixes (Domain.stripWildcard domain).1).name ≠
      "InvalidDomain")
    (hfirst : firstUrl (challengeUrl domain context.options.effectivePath) = .ok (shown, first)) :
    let kept := keptPath context.options.effectivePath
    first.query = none ∧ first.fragment = none ∧
    first.path = .segments (Url.addPieces false directory (kept.splitOnP (Url.isSlash true))) ∧
    ('\\' ∉ kept → ∀ segment : String,
      segment ≠ "" ∧ first.path = .segments (directory ++ [segment]) ↔
        (kept ≠ [] ∧ Url.isSingleDot kept = false ∧ Url.isDoubleDot kept = false) ∧
          segment = String.ofList (Url.escape Url.escapedInPath kept)) ∧
    ∀ (address : IpAddress) (peers : Peers) (s s' : Session) outcome,
      (run context domain address).Ends peers s.forget outcome s' →
      ∀ sent ∈ (Journal.requests (s'.journal.drop s.journal.length)).head?,
        sent.2.target = first.pathText := by
  intro kept
  obtain ⟨hne, hdomain⟩ := isPlain_of_accepted hname
  have hpath := ScanOptions.not_isSeparator_of_validate hoptions
  obtain ⟨host, -, rfl⟩ := firstUrl_challengeUrl hne hdomain hpath hfirst
  refine ⟨rfl, rfl, rfl, fun hbackslash segment => ?_, fun address peers s s' outcome h sent
    hsent => ?_⟩
  · have hslash : ∀ c ∈ kept, Url.isSlash true c = false := by
      intro c hc
      have hno := hpath c ((Text.dropEndWhile_isPrefix _).subset hc)
      have hne : c ≠ '\\' := fun heq => hbackslash (heq ▸ hc)
      simp only [ScanOptions.isSeparator, Bool.or_eq_false_iff] at hno
      simp [Url.isSlash, hno, hne]
    rw [← isFile_iff hslash]
    exact and_congr_right fun _ => ⟨UrlPath.segments.inj, congrArg UrlPath.segments⟩
  · rw [run_first_request hfirst h sent hsent]
    exact String.append_empty

/-- Two dots are accepted as the name of a file, and what is requested is above the directory. -/
theorem challenge_path_of_two_dots :
    let context : ScanContext := ⟨⟨"..", ""⟩, .standard⟩
    let url : Url := ⟨"http", "", "", some (.name "example.org"), none,
      .segments [".well-known", ""], none, none⟩
    context.options.validate = .ok () ∧
      firstUrl (challengeUrl "example.org" context.options.effectivePath) = .ok (url, url) ∧
      ¬∃ segment : String, segment ≠ "" ∧ url.path = .segments (directory ++ [segment]) := by
  intro context url
  have hoptions : context.options.validate = .ok () := by decide
  have hfirst : firstUrl (challengeUrl "example.org" context.options.effectivePath) =
      .ok (url, url) := by decide +kernel
  obtain ⟨-, -, -, hfile, -⟩ := challenge_path Domain.sampleSuffixRules context "example.org"
    hoptions (by decide +kernel) hfirst
  refine ⟨hoptions, hfirst, fun ⟨segment, hsegment⟩ => ?_⟩
  obtain ⟨⟨-, -, hdots⟩, -⟩ := (hfile (by decide) segment).mp hsegment
  exact absurd hdots (by decide)

end Probe

end Rehearsal
