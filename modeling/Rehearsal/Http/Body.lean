import Rehearsal.Text.Utf8

/-!
# Reading a body

A body arrives in chunks and ends well or breaks off. Only the beginning of it is wanted: reading
stops as soon as enough has arrived, so a break after that goes unnoticed. `Body.read` depends only
on the bytes and on the ending, not on how the bytes are cut.
-/

namespace Rehearsal

/-- What breaks a body off. -/
structure BodyFault where
  /-- The texts of the layers of the error, the outermost first. -/
  layers : List String
  deriving DecidableEq, Repr

namespace BodyFault

/-- The connection is closed too early. -/
def cut : BodyFault :=
  ⟨["error decoding response body", "request or response body error",
    "error reading a body from connection", "end of file before message length reached"]⟩

/-- Nothing more arrives in time. -/
def stalled : BodyFault :=
  ⟨["error decoding response body", "request or response body error", "operation timed out"]⟩

end BodyFault

namespace Body

variable {ε : Type}

/-- Takes chunks until `limit` bytes are there; `got` are those that came before. -/
def readAfter (limit : Nat) (ending : Option ε) (got : Bytes) : List Bytes → Bytes × Option ε
  | [] => if got.length < limit then (got, ending) else (got, none)
  | chunk :: chunks =>
    if got.length < limit then
      readAfter limit ending (got ++ chunk.take (limit - got.length)) chunks
    else (got, none)

/-- The first `limit` bytes of a body that ends as told, and what broke it off before they were
there. -/
def read (limit : Nat) (chunks : List Bytes) (ending : Option ε) : Bytes × Option ε :=
  readAfter limit ending [] chunks

end Body

end Rehearsal
