/-!
# Log lines

What a scan notes about its own progress. A line names the part of the program that wrote it; a
reader chooses the least serious level that is still shown.
-/

namespace Rehearsal

/-- How important a log line is. -/
inductive LogLevel where
  /-- A failure. -/
  | error
  /-- Something that should be looked at. -/
  | warn
  /-- The course of a scan. -/
  | info
  /-- The course of each checker. -/
  | debug
  /-- Every step. -/
  | trace
  deriving DecidableEq, Repr

namespace LogLevel

/-- Every level, the most important first. -/
def all : List LogLevel := [error, warn, info, debug, trace]

/-- The position of a level, the most important first. -/
def rank : LogLevel → Nat
  | error => 0
  | warn => 1
  | info => 2
  | debug => 3
  | trace => 4

/-- The name of a level in the log. -/
def name : LogLevel → String
  | error => "ERROR"
  | warn => "WARN"
  | info => "INFO"
  | debug => "DEBUG"
  | trace => "TRACE"

/-- The word that chooses a level on the command line. -/
def word : LogLevel → String
  | error => "error"
  | warn => "warn"
  | info => "info"
  | debug => "debug"
  | trace => "trace"

/-- The level that a word chooses. -/
def ofWord? (s : String) : Option LogLevel := all.find? fun v => v.word == s

end LogLevel

/-- How log lines are written. -/
inductive LogFormat where
  /-- For people, with colours. -/
  | plain
  /-- One JSON object per line. -/
  | json
  deriving DecidableEq, Repr

namespace LogFormat

/-- Every format. -/
def all : List LogFormat := [plain, json]

/-- The name of a format. -/
def name : LogFormat → String
  | plain => "Plain"
  | json => "Json"

/-- The word that chooses a format on the command line. -/
def word : LogFormat → String
  | plain => "plain"
  | json => "json"

/-- The format that a word chooses. -/
def ofWord? (s : String) : Option LogFormat := all.find? fun v => v.word == s

end LogFormat

/-- A line of the log. -/
structure LogLine where
  /-- The part of the program that wrote it. -/
  source : String
  /-- How important it is. -/
  level : LogLevel
  /-- What it says. -/
  message : String
  deriving DecidableEq, Repr

namespace LogLine

/-- Is the line shown to whoever wants to see lines down to `least`? -/
def isShown (least : LogLevel) (line : LogLine) : Bool := line.level.rank ≤ least.rank

end LogLine

end Rehearsal
