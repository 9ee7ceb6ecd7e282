import Rehearsal.CommandLine.Arguments
import Rehearsal.CommandLine.Report
import Rehearsal.Job.Journal
import Rehearsal.Job.Run
import Rehearsal.Scan.Engine
import Rehearsal.Text.Duration

/-!
# One invocation of the program

From the words of a command line to what is written. A misuse ends with the code 2 and without a
scan; a scan that has no findings to give ends with the code 1 and the chain of its causes.
-/

namespace Rehearsal

namespace CommandLine

/-- The name of the program. -/
def program : String := "acme_precheck"

/-- The version of the program. -/
def version : String := "0.1.0"

/-- What an invocation leaves behind. -/
structure Output where
  /-- The code that the program ends with. -/
  code : Nat
  /-- The report. -/
  out : String
  /-- What went wrong. -/
  err : String
  /-- The log lines that are shown. -/
  log : List LogLine
  /-- How log lines are written. -/
  format : LogFormat
  deriving DecidableEq, Repr

/-- What is written beside the report: the log, and what went wrong. -/
def Output.aside (o : Output) : String := String.join (o.log.map (Report.logLine o.format)) ++ o.err

/-- The output of an invocation that runs no scan. -/
def Output.atOnce (code : Nat) (out err : String) : Output := ⟨code, out, err, [], .plain⟩

/-- The line with which an engine is announced. -/
def announcement (c : EngineConfig) : LogLine where
  source := "acme_precheck::run::init"
  level := .debug
  message :=
    let dns := Text.duration c.dnsTimeout
    let http := Text.duration c.httpTimeout
    s!"Engine configured with {c.forwarder.name} upstream, DNS timeout {dns}, HTTP timeout {http}"

/-- An engine that runs the checkers of an ordinary scan. -/
def engine (c : EngineConfig) : Engine := ⟨Check.standard, ⟨Client.userAgent, none, c.httpTimeout⟩⟩

/-- The scan that is asked for. -/
def scan (a : Arguments) : Job ScanResult := do
  Job.log (announcement a.config)
  (engine a.config).scan a.domain a.method a.options

/-- The log lines of a run that are important enough. -/
def logOf (least : LogLevel) (s : Session) : List LogLine :=
  (Journal.lines s.journal).filter (·.isShown least)

/-- What is written about findings. -/
def report (a : Arguments) (coloured : Report.Coloured) (ps : List Problem) : String :=
  let shown := Report.shown a.showsDebug ps
  if a.writesJson then Report.json shown else Report.plain coloured shown

/-- What is written about a failed scan. -/
def failure (e : ScanError) : String :=
  let causes := ": ".intercalate e.layers
  s!"{program} error: {causes}\n"

/-- The output of a run that came to its end. -/
def outputOf (a : Arguments) (coloured : Report.Coloured) (run : Outcome ScanResult × Session) :
    Output :=
  let log := logOf a.logLevel run.2
  match run.1 with
  | .returned (.ok ps) => ⟨0, report a coloured ps, "", log, a.logFormat⟩
  | .returned (.error e) => ⟨1, "", failure e, log, a.logFormat⟩
  | .crashed message => ⟨101, "", message ++ "\n", log, a.logFormat⟩

/-- An option as the help shows it. -/
def helpOf (choice : Choice) : String × String :=
  match choice with
  | .domain => ("DOMAIN", "Domain to check (a leading `*.` requests a wildcard certificate)")
  | .method => ("METHOD", "Validation method: http-01 or dns-01 [default: http-01]")
  | .requestPath =>
    ("HTTP_REQUEST_PATH", "Path segment requested under /.well-known/acme-challenge/ " ++
      "[default: letsdebug-test]")
  | .expectedBody =>
    ("HTTP_EXPECT_RESPONSE", "Exact body the HTTP-01 request must return " ++
      "(empty accepts anything) [default: ]")
  | .showDebug => ("", "Also print Debug problems")
  | .json => ("", "Print problems as a JSON array")
  | .forwarder =>
    ("UPSTREAM", "Upstream resolvers used by the validating resolver [default: google] " ++
      "[possible values: google, cloudflare, quad9]")
  | .extendedErrorResolver =>
    ("EXTENDED_ERROR_RESOLVER", "Resolver asked for extended DNS errors on DNSSEC failures")
  | .logLevel =>
    ("LOG_LEVEL", "Log level [default: warn] [possible values: error, warn, info, debug, trace]")
  | .logFormat => ("LOG_FORMAT", "Log format [default: plain] [possible values: plain, json]")

/-- How the program is used. -/
def help : String :=
  let entry (choice : Choice) : List String :=
    let (value, about) := helpOf choice
    let value := if choice.takesValue then s!" <{value}>" else ""
    [s!"      --{choice.word}{value}", s!"          {about}"]
  String.join (([
    "Diagnose why a domain may fail ACME validation",
    "",
    s!"Usage: {program} [OPTIONS] --domain <DOMAIN>",
    "",
    "Options:"] ++ Choice.all.flatMap entry ++ [
    "  -h, --help",
    "          Print help",
    "  -V, --version",
    "          Print version"]).map (· ++ "\n"))

/-- The output for the words of a command line, if the run comes to its end with the fuel. -/
def output? (peers : Peers) (fuel : Nat) (coloured : Report.Coloured) (words : List String) :
    Option Output :=
  match read words with
  | .error misuse => some (.atOnce 2 "" s!"error: {misuse.message}\n")
  | .ok .help => some (.atOnce 0 help "")
  | .ok .version => some (.atOnce 0 s!"{program} {version}\n" "")
  | .ok (.scan a) => ((scan a).run peers fuel .fresh).map (outputOf a coloured)

end CommandLine

end Rehearsal
