import Rehearsal.Config
import Rehearsal.Log
import Rehearsal.Method

/-!
# Arguments

What is asked for on the command line. Options are written `--name value` or `--name=value`, those
that are on or off `--name`; each may stand once, and nothing else may stand there. A value that
follows its option does not begin with a dash, except for the dash alone. Whoever asks for help or
for the version gets it, unless something before it is wrong.
-/

namespace Rehearsal

/-- What one scan is asked to do. -/
structure Arguments where
  /-- The domain. -/
  domain : String
  /-- The validation method. -/
  method : Method
  /-- The options of the scan. -/
  options : ScanOptions
  /-- Is evidence shown as well? -/
  showsDebug : Bool
  /-- Is the report written as JSON? -/
  writesJson : Bool
  /-- The configuration of the engine. -/
  config : EngineConfig
  /-- The least important log lines that are shown. -/
  logLevel : LogLevel
  /-- How log lines are written. -/
  logFormat : LogFormat
  deriving DecidableEq, Repr

/-- The arguments if nothing is chosen, for a domain that has no name yet. -/
def Arguments.standard : Arguments where
  domain := ""
  method := .http01
  options := .standard
  showsDebug := false
  writesJson := false
  config := .standard
  logLevel := .warn
  logFormat := .plain

namespace CommandLine

/-- An option. -/
inductive Choice where
  /-- The domain. -/
  | domain
  /-- The validation method. -/
  | method
  /-- The file that is requested. -/
  | requestPath
  /-- The body that it must have. -/
  | expectedBody
  /-- Evidence is shown as well. -/
  | showDebug
  /-- The report is JSON. -/
  | json
  /-- The resolver that answers are fetched through. -/
  | forwarder
  /-- The resolver that is asked why an answer was refused. -/
  | extendedErrorResolver
  /-- The least important log lines that are shown. -/
  | logLevel
  /-- How log lines are written. -/
  | logFormat
  deriving DecidableEq, Repr

namespace Choice

/-- Every option. -/
def all : List Choice := [domain, method, requestPath, expectedBody, showDebug, json, forwarder,
  extendedErrorResolver, logLevel, logFormat]

/-- The name of an option, without the dashes. -/
def word : Choice → String
  | domain => "domain"
  | method => "method"
  | requestPath => "http-request-path"
  | expectedBody => "http-expect-response"
  | showDebug => "show-debug"
  | json => "json"
  | forwarder => "upstream"
  | extendedErrorResolver => "extended-error-resolver"
  | logLevel => "log-level"
  | logFormat => "log-format"

/-- Does the option take a value? -/
def takesValue : Choice → Bool
  | showDebug | json => false
  | _ => true

/-- The arguments with a value chosen, if it is one for the option. -/
def apply (choice : Choice) (value : String) (a : Arguments) : Option Arguments :=
  match choice with
  | domain => some { a with domain := value }
  | method => some { a with method := .ofText value }
  | requestPath => some { a with options.requestPath := value }
  | expectedBody => some { a with options.expectedBody := value }
  | showDebug => some { a with showsDebug := true }
  | json => some { a with writesJson := true }
  | forwarder => (PublicResolver.ofWord? value).map fun v => { a with config.forwarder := v }
  | extendedErrorResolver =>
    (Endpoint.ofText? value).map fun v => { a with config.extendedErrorResolver := some v }
  | logLevel => (LogLevel.ofWord? value).map fun v => { a with logLevel := v }
  | logFormat => (LogFormat.ofWord? value).map fun v => { a with logFormat := v }

/-- The option of a name. -/
def ofWord? (s : String) : Option Choice := all.find? fun choice => choice.word == s

end Choice

/-- What is asked for. -/
inductive Wish where
  /-- A scan. -/
  | scan (arguments : Arguments)
  /-- How the program is used. -/
  | help
  /-- Which version it is. -/
  | version
  deriving DecidableEq, Repr

/-- What is wrong with a command line. -/
inductive Misuse where
  /-- There is no such option. -/
  | unknown (word : String)
  /-- A word that belongs to no option. -/
  | stray (word : String)
  /-- An option lacks its value. -/
  | valueMissing (choice : Choice)
  /-- An option that takes no value has one. -/
  | valueUnneeded (word : String)
  /-- A value that is none for its option. -/
  | valueRefused (choice : Choice) (value : String)
  /-- An option stands twice. -/
  | repeated (choice : Choice)
  /-- No domain is named. -/
  | domainMissing
  deriving DecidableEq, Repr

/-- The text of a misuse. -/
def Misuse.message : Misuse → String
  | unknown word => s!"unexpected argument '{word}' found"
  | stray word => s!"unexpected argument '{word}' found"
  | valueMissing choice => s!"a value is required for '--{choice.word}' but none was supplied"
  | valueUnneeded word => s!"unexpected value for '--{word}' found; no more were expected"
  | valueRefused choice value => s!"invalid value '{value}' for '--{choice.word}'"
  | repeated choice => s!"the argument '--{choice.word}' cannot be used multiple times"
  | domainMissing => "the following required arguments were not provided: --domain"

/-- What was read so far. -/
structure Draft where
  /-- The arguments. -/
  arguments : Arguments
  /-- The options that stood there. -/
  chosen : List Choice
  deriving DecidableEq, Repr

namespace Draft

/-- Nothing was read yet. -/
def blank : Draft := ⟨.standard, []⟩

/-- Takes an option with its value. -/
def put (d : Draft) (choice : Choice) (value : String) : Except Misuse Draft :=
  match choice.apply value d.arguments with
  | none => .error (.valueRefused choice value)
  | some arguments =>
    if choice ∈ d.chosen then .error (.repeated choice)
    else .ok ⟨arguments, choice :: d.chosen⟩

/-- What is asked for, when all words are read. -/
def finish (d : Draft) : Except Misuse Wish :=
  if .domain ∈ d.chosen then .ok (.scan d.arguments) else .error .domainMissing

end Draft

/-- A word of the command line. -/
inductive Word where
  /-- Two dashes, after which no option follows. -/
  | ending
  /-- A name behind two dashes, perhaps with a value behind an equals sign. -/
  | long (name : String) (value : Option String)
  /-- A letter behind one dash, perhaps with more behind it. -/
  | short (letter : Char)
  /-- Anything else. -/
  | plain
  deriving DecidableEq, Repr

/-- What kind of word a text is. -/
def Word.ofText (s : String) : Word :=
  match s.toList with
  | ['-', '-'] => ending
  | '-' :: '-' :: cs =>
    match cs.span (· != '=') with
    | (name, _ :: value) => long (String.ofList name) (some (String.ofList value))
    | (name, []) => long (String.ofList name) none
  | '-' :: c :: _ => short c
  | _ => plain

/-- Reads words after those of a draft. -/
def readWords (d : Draft) : List String → Except Misuse Wish
  | [] => d.finish
  | word :: rest =>
    match Word.ofText word with
    | .plain => .error (.stray word)
    | .ending =>
      match rest with
      | [] => d.finish
      | next :: _ => .error (.stray next)
    | .short 'h' => .ok .help
    | .short 'V' => .ok .version
    | .short _ => .error (.unknown word)
    | .long "help" none => .ok .help
    | .long "version" none => .ok .version
    | .long "help" (some _) => .error (.valueUnneeded "help")
    | .long "version" (some _) => .error (.valueUnneeded "version")
    | .long name value =>
      match Choice.ofWord? name, value with
      | none, _ => .error (.unknown word)
      | some choice, some value =>
        if choice.takesValue then
          match d.put choice value with
          | .ok d => readWords d rest
          | .error e => .error e
        else .error (.valueUnneeded name)
      | some choice, none =>
        if choice.takesValue then
          match rest with
          | [] => .error (.valueMissing choice)
          | value :: rest =>
            if Word.ofText value = .plain then
              match d.put choice value with
              | .ok d => readWords d rest
              | .error e => .error e
            else .error (.valueMissing choice)
        else
          match d.put choice "" with
          | .ok d => readWords d rest
          | .error e => .error e

/-- Reads a command line. -/
def read (words : List String) : Except Misuse Wish := readWords .blank words

end CommandLine

end Rehearsal
