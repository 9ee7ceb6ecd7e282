import Rehearsal.Interchange
import Rehearsal.Log

/-!
# Reports

A report shows the findings of a scan, the worst first. For people each finding takes a line with
its severity and name, one or more lines that explain it, its evidence if there is any, and an empty
line; on a terminal parts of it stand out. For programs the findings are one JSON array.
-/

namespace Rehearsal

namespace Report

/-- Whether some parts of a report stand out. -/
abbrev Coloured := Bool

/-- A text in a style of the terminal, which is given by number. -/
def styled (coloured : Coloured) (style : String) (text : String) : String :=
  if coloured then s!"\x1b[{style}m{text}\x1b[0m" else text

/-- The style of a severity. -/
def styleOf : Severity → String
  | .fatal | .error => "1;31"
  | .warning => "1;33"
  | .info => "1;34"
  | .debug => "2"

/-- The lines of a finding. -/
def lines (coloured : Coloured) (p : Problem) : List String :=
  let label := styled coloured (styleOf p.severity) p.severity.name
  let name := styled coloured "1" p.name
  [s!"{label} {name}", p.explanation] ++
    (if p.detail.isEmpty then [] else [styled coloured "2" p.detail]) ++ [""]

/-- A report for people. -/
def plain (coloured : Coloured) (ps : List Problem) : String :=
  match ps with
  | [] => styled coloured "1;32" "All OK!" ++ "\n"
  | ps => String.join ((ps.flatMap (lines coloured)).map (· ++ "\n"))

/-- A report for programs. -/
def json (ps : List Problem) : String := (Problem.listToJson ps).renderPretty ++ "\n"

/-- A log line as it is written. -/
def logLine (format : LogFormat) (line : LogLine) : String :=
  match format with
  | .plain => s!"{line.source} [{line.level.name}] {line.message}\n"
  | .json =>
    (Json.ofMembers [("level", .ofText line.level.name), ("target", .ofText line.source),
      ("msg", .ofText line.message)]).render ++ "\n"

/-- The findings that a report shows. -/
def shown (showsDebug : Bool) (ps : List Problem) : List Problem :=
  (Problem.sorted ps).filter fun p => showsDebug || !p.isDebug

end Report

end Rehearsal
