/-!
# Response codes

The number in a response that says whether the question could be answered.
-/

namespace Rehearsal

/-- The code of a response. -/
structure ResponseCode where
  /-- Its number. -/
  number : Nat
  deriving DecidableEq, Repr

namespace ResponseCode

/-- The question was answered. -/
def noError : ResponseCode := ⟨0⟩

/-- The server failed. -/
def serverFailure : ResponseCode := ⟨2⟩

/-- The name does not exist. -/
def noSuchName : ResponseCode := ⟨3⟩

/-- The server refused to answer. -/
def refused : ResponseCode := ⟨5⟩

/-- The meaning of a code. -/
def text (code : ResponseCode) : String :=
  match code.number with
  | 0 => "No Error"
  | 1 => "Form Error"
  | 2 => "Server Failure"
  | 3 => "Non-Existent Domain"
  | 4 => "Not Implemented"
  | 5 => "Query Refused"
  | 6 => "Name should not exist"
  | 7 => "RR Set should not exist"
  | 8 => "RR Set does not exist"
  | 9 => "Not authorized"
  | 10 => "Name not in zone"
  | 16 => "TSIG Failure"
  | 17 => "Key not recognized"
  | 18 => "Signature out of time window"
  | 19 => "Bad TKEY mode"
  | 20 => "Duplicate key name"
  | 21 => "Algorithm not supported"
  | 22 => "Bad truncation"
  | 23 => "Bad server cookie"
  | _ => "Unknown response code"

/-- Has the code a meaning of its own? -/
def isAssigned (code : ResponseCode) : Bool :=
  code.number ≤ 10 || (16 ≤ code.number && code.number ≤ 23)

end ResponseCode

end Rehearsal
