import Rehearsal.Json.Token

/-!
# JSON values

A value is built from tokens one at a time. `Json.Builder` holds what is open around the place that
has been reached and what may come there, so that building is a fold over the tokens.
-/

namespace Rehearsal

/-- A value. Numbers and strings are as they are written; the members of an object keep their order
and may repeat a name. -/
inductive Json where
  /-- Nothing. -/
  | null
  /-- A truth value. -/
  | bool (value : Bool)
  /-- A number as it is written. -/
  | number (text : List Char)
  /-- A string, with its escapes. -/
  | string (raw : Json.Input)
  /-- A sequence. -/
  | array (items : List Json)
  /-- Named members. -/
  | object (members : List (Json.Input × Json))

namespace Json

/-- A member of an object. -/
abbrev Member := Input × Json

/-- What is open around a place. -/
inductive Frame where
  /-- An array with these items before the place. -/
  | items (done : List Json)
  /-- An object with these members before the place, which is the value of a name. -/
  | members (done : List Member) (name : Input)

/-- What may come at a place. -/
inductive Stage where
  /-- A value. -/
  | value
  /-- A value, or the end of the array that has just begun. -/
  | item
  /-- A name, or the end of the object if it has just begun. -/
  | name (done : List Member) (mayEnd : Bool)
  /-- The colon after a name. -/
  | colon (done : List Member) (name : Input)
  /-- What follows a value that is complete. -/
  | follow (value : Json)

/-- A place in a value that is being read: what is open around it, innermost first, and what may
come. -/
structure Builder where
  /-- What is open, innermost first. -/
  frames : List Frame
  /-- What may come. -/
  stage : Stage

namespace Builder

/-- The place where a value begins. -/
def start : Builder := ⟨[], .value⟩

/-- A token where a value may come. -/
def beginValue (frames : List Frame) : Token → Option Builder
  | .openBracket => some ⟨.items [] :: frames, .item⟩
  | .openBrace => some ⟨frames, .name [] true⟩
  | .null => some ⟨frames, .follow .null⟩
  | .bool b => some ⟨frames, .follow (.bool b)⟩
  | .number text => some ⟨frames, .follow (.number text)⟩
  | .string raw => some ⟨frames, .follow (.string raw)⟩
  | _ => none

/-- A token after a complete value, in the innermost frame. -/
def endValue (value : Json) : List Frame → Token → Option Builder
  | .items done :: frames, .comma => some ⟨.items (done ++ [value]) :: frames, .value⟩
  | .items done :: frames, .closeBracket => some ⟨frames, .follow (.array (done ++ [value]))⟩
  | .members done name :: frames, .comma => some ⟨frames, .name (done ++ [(name, value)]) false⟩
  | .members done name :: frames, .closeBrace =>
    some ⟨frames, .follow (.object (done ++ [(name, value)]))⟩
  | _, _ => none

/-- Takes one token. -/
def take (b : Builder) (token : Token) : Option Builder :=
  match b.stage with
  | .value => beginValue b.frames token
  | .item =>
    match b.frames, token with
    | .items [] :: frames, .closeBracket => some ⟨frames, .follow (.array [])⟩
    | frames, token => beginValue frames token
  | .name done mayEnd =>
    match token with
    | .string raw => some ⟨b.frames, .colon done raw⟩
    | .closeBrace => if mayEnd then some ⟨b.frames, .follow (.object done)⟩ else none
    | _ => none
  | .colon done name =>
    match token with
    | .colon => some ⟨.members done name :: b.frames, .value⟩
    | _ => none
  | .follow value => endValue value b.frames token

/-- The value, if it is complete and nothing is open. -/
def finish? (b : Builder) : Option Json :=
  match b.frames, b.stage with
  | [], .follow value => some value
  | _, _ => none

end Builder

/-- The value that tokens form. -/
def ofTokens? (tokens : List Token) : Option Json := do
  (← tokens.foldlM Builder.take .start).finish?

/-- Reads a value. -/
def read? (input : Input) : Option Json := do ofTokens? (← tokens? input)

/-! ### Looking into a value -/

/-- The text of a string. -/
def text? : Json → Option String
  | string raw => (unescape? raw).map String.ofList
  | _ => none

/-- A whole number from zero to `max`, written without fraction and exponent. -/
def natUpTo? (max : Nat) : Json → Option Nat
  | number text => (Text.readDecimal text).bind fun n => if n ≤ max then some n else none
  | _ => none

/-- The name of a choice: a string, or an object whose only member has that name and no value. -/
def choice? : Json → Option String
  | string raw => (unescape? raw).map String.ofList
  | object [(name, null)] => (unescape? name).map String.ofList
  | _ => none

/-- The values of the members called `name`. -/
def named (name : String) (members : List (String × Json)) : List Json :=
  (members.filter fun m => m.1 == name).map (·.2)

/-- The values of the given fields of a record, each if it is there. A record is an object, in which
other members are ignored and none of these may be repeated, or an array of the values in order,
from which the last ones may be missing. -/
def fields? (names : List String) : Json → Option (List (Option Json))
  | array items =>
    if names.length < items.length then none
    else some (items.map some ++ List.replicate (names.length - items.length) none)
  | object members => do
    let members ← members.mapM fun m => do return (String.ofList (← unescape? m.1), m.2)
    names.mapM fun name =>
      match named name members with
      | [] => some none
      | [value] => some (some value)
      | _ => none
  | _ => none

end Json

end Rehearsal
