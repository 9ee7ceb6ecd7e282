import Rehearsal.Check.Accessibility
import Rehearsal.Check.Address
import Rehearsal.Check.Basic
import Rehearsal.Check.Block
import Rehearsal.Check.Caa
import Rehearsal.Check.Challenge
import Rehearsal.Check.Cloudflare
import Rehearsal.Check.Nameservers
import Rehearsal.Check.Offline
import Rehearsal.Check.StatusPage
import Rehearsal.CommandLine.Arguments
import Rehearsal.CommandLine.Invocation
import Rehearsal.CommandLine.Report
import Rehearsal.Config
import Rehearsal.Dns.Caa
import Rehearsal.Dns.Cache
import Rehearsal.Dns.ExtendedError
import Rehearsal.Dns.Record
import Rehearsal.Dns.RecordType
import Rehearsal.Dns.Resolution
import Rehearsal.Dns.Resolver
import Rehearsal.Dns.Response
import Rehearsal.Dns.ResponseCode
import Rehearsal.Domain.Display
import Rehearsal.Domain.Name
import Rehearsal.Domain.Normal
import Rehearsal.Domain.Suffix
import Rehearsal.Error.Chain
import Rehearsal.Error.Lookup
import Rehearsal.Error.Scan
import Rehearsal.Http.Body
import Rehearsal.Http.Client
import Rehearsal.Http.Exchange
import Rehearsal.Http.Redirect
import Rehearsal.Http.Status
import Rehearsal.Idna.ClassData
import Rehearsal.Idna.Domain
import Rehearsal.Idna.Label
import Rehearsal.Idna.MappingData
import Rehearsal.Idna.Punycode
import Rehearsal.Interchange
import Rehearsal.Job.Basic
import Rehearsal.Job.Journal
import Rehearsal.Job.Lemmas
import Rehearsal.Job.Live
import Rehearsal.Job.Question
import Rehearsal.Job.Run
import Rehearsal.Job.Session
import Rehearsal.Json.Printer
import Rehearsal.Json.Token
import Rehearsal.Json.Value
import Rehearsal.Log
import Rehearsal.Main
import Rehearsal.Method
import Rehearsal.Net.Address
import Rehearsal.Net.Block
import Rehearsal.Net.Endpoint
import Rehearsal.Options
import Rehearsal.Probe.Failure
import Rehearsal.Probe.Redirect
import Rehearsal.Probe.Result
import Rehearsal.Probe.Run
import Rehearsal.Problem
import Rehearsal.Proofs.Check.Accessibility
import Rehearsal.Proofs.Check.Address
import Rehearsal.Proofs.Check.Agreement
import Rehearsal.Proofs.Check.Block
import Rehearsal.Proofs.Check.Caa
import Rehearsal.Proofs.Check.Collections
import Rehearsal.Proofs.Check.Comparison
import Rehearsal.Proofs.Check.Consensus
import Rehearsal.Proofs.Check.Disagreement
import Rehearsal.Proofs.Check.Doubled
import Rehearsal.Proofs.Check.Effects
import Rehearsal.Proofs.Check.Nameservers
import Rehearsal.Proofs.Check.Naming
import Rehearsal.Proofs.Check.Offline
import Rehearsal.Proofs.Check.Queries
import Rehearsal.Proofs.Check.Rule
import Rehearsal.Proofs.Check.Shape
import Rehearsal.Proofs.Check.Survey
import Rehearsal.Proofs.Check.Walk
import Rehearsal.Proofs.Check.Web
import Rehearsal.Proofs.Dns.Policy
import Rehearsal.Proofs.Dns.Record
import Rehearsal.Proofs.Domain.Chain
import Rehearsal.Proofs.Domain.Normal
import Rehearsal.Proofs.Domain.Spelling
import Rehearsal.Proofs.Job.Among
import Rehearsal.Proofs.Job.AtMostOnce
import Rehearsal.Proofs.Job.Calm
import Rehearsal.Proofs.Job.Clock
import Rehearsal.Proofs.Job.Effects
import Rehearsal.Proofs.Job.Ending
import Rehearsal.Proofs.Job.Fork
import Rehearsal.Proofs.Job.Meaning
import Rehearsal.Proofs.Job.Order
import Rehearsal.Proofs.Job.Places
import Rehearsal.Proofs.Job.Poll
import Rehearsal.Proofs.Job.Race
import Rehearsal.Proofs.Job.Schedule
import Rehearsal.Proofs.Job.Seats
import Rehearsal.Proofs.Job.Sequence
import Rehearsal.Proofs.Job.Timing
import Rehearsal.Proofs.Job.Turn
import Rehearsal.Proofs.Net.Range
import Rehearsal.Proofs.Probe.Acceptance
import Rehearsal.Proofs.Probe.Challenge
import Rehearsal.Proofs.Probe.Destinations
import Rehearsal.Proofs.Probe.Dialing
import Rehearsal.Proofs.Probe.Expectation
import Rehearsal.Proofs.Probe.Explanation
import Rehearsal.Proofs.Probe.Finding
import Rehearsal.Proofs.Probe.Journey
import Rehearsal.Proofs.Probe.Record
import Rehearsal.Proofs.Probe.Redirects
import Rehearsal.Proofs.Probe.Requests
import Rehearsal.Proofs.Problem
import Rehearsal.Proofs.Scan.Course
import Rehearsal.Proofs.Scan.Failure
import Rehearsal.Proofs.Scan.Fatal
import Rehearsal.Proofs.Scan.Names
import Rehearsal.Proofs.Scan.Probing
import Rehearsal.Proofs.Scan.Stages
import Rehearsal.Proofs.Scan.Timing
import Rehearsal.Proofs.Scan.Verdict
import Rehearsal.Proofs.Text.Case
import Rehearsal.Proofs.Text.Lossy
import Rehearsal.Proofs.Text.Settled
import Rehearsal.Proofs.Text.Trim
import Rehearsal.Proofs.Text.Utf8
import Rehearsal.Proofs.Text.Word
import Rehearsal.Proofs.Url.Plain
import Rehearsal.Scan.Engine
import Rehearsal.Script.Cast
import Rehearsal.Script.Nameserver
import Rehearsal.Script.Peers
import Rehearsal.Script.Web
import Rehearsal.Script.Zone
import Rehearsal.Text.Blank
import Rehearsal.Text.Case
import Rehearsal.Text.CaseData
import Rehearsal.Text.Composition
import Rehearsal.Text.CompositionData
import Rehearsal.Text.Decimal
import Rehearsal.Text.Duration
import Rehearsal.Text.Quoted
import Rehearsal.Text.Ranges
import Rehearsal.Text.Runs
import Rehearsal.Text.Search
import Rehearsal.Text.Unprintable
import Rehearsal.Text.Utf8
import Rehearsal.Url.Basic
import Rehearsal.Url.Escape
import Rehearsal.Url.Host
import Rehearsal.Url.Parser
import Rehearsal.Url.Path
import Rehearsal.Url.Wire
import Rehearsal.Proofs.Dns.Failure
import Rehearsal.Proofs.Json.Escape
import Rehearsal.Proofs.Json.Reading
import Rehearsal.Proofs.Method
import Rehearsal.Proofs.Interchange
import Rehearsal.Proofs.Probe.Hearing
import Rehearsal.Proofs.Check.Report
import Rehearsal.Proofs.Error.Chain
import Rehearsal.Proofs.Check.Aside
