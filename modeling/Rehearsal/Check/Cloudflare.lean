import Rehearsal.Check.Basic
import Rehearsal.Domain.Suffix
import Rehearsal.Http.Client
import Rehearsal.Text.Case
import Rehearsal.Text.Search

/-!
# Domains behind Cloudflare

A proxy in front of the domain keeps certificates of its own. It is recognised by the header with
which it answers; if it answers only without encryption, it has no certificate for the domain yet.
Requests that fail say nothing about it.
-/

namespace Rehearsal

namespace Check

/-- Where the ways of encrypting behind the proxy are explained. -/
def cloudflareOptionsUrl : String :=
  "https://support.cloudflare.com/hc/en-us/articles/" ++
    "200170416-What-do-the-SSL-options-mean-"

/-- Where it is explained when the proxy has a certificate. -/
def cloudflareActivationUrl : String :=
  "https://support.cloudflare.com/hc/en-us/articles/" ++
    "203045244-How-long-does-it-take-for-Cloudflare-s-SSL-to-activate-"

/-- The domain is behind the proxy. -/
def cloudflareCdn (domain : String) : Problem :=
  ⟨"CloudflareCDN",
    s!"The domain {domain} is being served through Cloudflare CDN. Any Let's Encrypt " ++
      "certificate installed on the origin server will only encrypt traffic between the server " ++
      "and Cloudflare. It is strongly recommended that the SSL option 'Full SSL (strict)' be " ++
      "enabled.",
    cloudflareOptionsUrl, .warning⟩

/-- The proxy has no certificate for the domain yet. -/
def cloudflareUnprovisioned (domain : String) : Problem :=
  ⟨"CloudflareSSLNotProvisioned",
    s!"The domain {domain} is being served through Cloudflare CDN and a certificate has not yet " ++
      "been provisioned yet by Cloudflare.",
    cloudflareActivationUrl, .warning⟩

/-- Does the response come from the proxy? -/
def isFromCloudflare (r : Response) : Bool :=
  match r.textHeader? "server" with
  | some server =>
    Text.mentions (String.ofList (Text.lower server.toList)) "cloudflare"
  | none => false

/-- Is the domain behind the proxy, and has the proxy a certificate for it? -/
def cloudflare : Checker where
  name := "cloudflare"
  check := fun _ domain _ => do
    let domain := (Domain.stripWildcard domain).1
    match ← Client.get true s!"https://{domain}" with
    | some r => return .ok (if isFromCloudflare r then [cloudflareCdn domain] else [])
    | none =>
      match ← Client.get false s!"http://{domain}" with
      | some r =>
        return .ok (if isFromCloudflare r then
          [cloudflareCdn domain, cloudflareUnprovisioned domain] else [])
      | none => return .ok []

end Check

end Rehearsal
