import Rehearsal.CommandLine.Invocation
import Rehearsal.Script.Peers

/-!
# The program

Reads the command line, runs the scan and writes what comes of it. The scan is run without a
network: it shows what can be told of a domain, a method and options before anything is asked.
-/

namespace Rehearsal

/-- More steps than a scan without a network takes. -/
def stepBound : Nat := 1000000

end Rehearsal

open Rehearsal in
/-- The program. -/
def main (words : List String) : IO UInt32 := do
  let peers := Script.unplugged (EngineConfig.standard.dnsTimeout / 1000)
  match CommandLine.output? peers stepBound false words with
  | none => return 1
  | some output =>
    (← IO.getStderr).putStr output.aside
    (← IO.getStdout).putStr output.out
    return UInt32.ofNat output.code
