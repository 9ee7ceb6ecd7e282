import Rehearsal.Check.Address
import Rehearsal.Probe.Run

/-!
# Reaching the domain

Every address of the domain gets an emulated validation request. Servers behind the two address
families that answer differently are worth a warning, because the authority may meet either.
-/

namespace Rehearsal

namespace Check

/-- A probe with its finding. -/
abbrev Probed := ProbeResult × Option Problem

/-- The servers of the two address families answer differently. -/
def discrepancy (domain : String) (v4 v6 : ProbeResult) : Problem :=
  ⟨"IPv4IPv6Discrepancy",
    s!"{domain} has both AAAA (IPv6) and A (IPv4) records. While they both appear to be " ++
      "accessible on the network, we have detected that they produce differing results when " ++
      "sent an ACME HTTP validation request. This may indicate that the IPv4 and IPv6 " ++
      "addresses may unintentionally point to different servers, which would cause validation " ++
      "to fail.",
    s!"{v4.render} vs {v6.render}", .warning⟩

/-- The first probe of a family that got a response. -/
def firstAnswered (isV4 : Bool) (probes : List Probed) : Option ProbeResult :=
  (probes.map (·.1)).find? fun r => r.address.isV4 == isV4 && !r.isSilent

/-- The finding about the two families, if there is one. -/
def compareFamilies (domain : String) (probes : List Probed) : List Problem :=
  match firstAnswered true probes, firstAnswered false probes with
  | some v4, some v6 =>
    if v4.status ≠ v6.status || v4.server ≠ v6.server then [discrepancy domain v4 v6] else []
  | _, _ => []

/-- The line of a probe in the report. -/
def probeLine (domain : String) (p : Probed) : String :=
  s!"Request to: {domain}/{p.1.address}, Result: {p.1.render}, Issue: " ++
    (p.2.map Problem.name).getD ""

/-- The findings of the probes of a domain. -/
def reportProbes (domain : String) (probes : List Probed) : List Problem :=
  probes.filterMap (·.2) ++ compareFamilies domain probes ++
    [.debug "HTTPCheck" "Requests made to the domain"
      ("\n".intercalate (probes.map (probeLine domain)))]

/-- Do all addresses of the domain answer validation requests well? -/
def httpAccessibility : Checker :=
  .forMethod "httpAccessibility" .http01 fun context domain => do
    let aaaa ← Job.lookup domain .aaaa
    let a ← Job.lookup domain .a
    let addresses := Record.addresses (recordsOf aaaa) ++ Record.addresses (recordsOf a)
    if addresses.isEmpty then return .ok []
    let probes ← Job.all (addresses.map (Probe.run context domain))
    return .ok (reportProbes domain probes)

end Check

end Rehearsal
