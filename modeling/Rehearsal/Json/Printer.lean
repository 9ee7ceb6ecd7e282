import Rehearsal.Json.Value
import Rehearsal.Text.Quoted

/-!
# Writing JSON

`Json.render` writes a value without any space, `Json.renderPretty` with one member per line, two
blanks deeper than what it belongs to. Only quotes, backslashes and control characters are escaped.
-/

namespace Rehearsal

namespace Json

/-- A character as it stands in a string. -/
def escapeChar (c : Char) : List Char :=
  match c with
  | '"' => ['\\', '"']
  | '\\' => ['\\', '\\']
  | '\x08' => ['\\', 'b']
  | '\x0c' => ['\\', 'f']
  | '\n' => ['\\', 'n']
  | '\r' => ['\\', 'r']
  | '\t' => ['\\', 't']
  | c =>
    if c.toNat < 0x20 then
      ['\\', 'u', '0', '0', if c.toNat < 16 then '0' else '1'] ++ Text.hexDigits (c.toNat % 16)
    else [c]

/-- A text with its escapes. -/
def escape (s : String) : Input := (s.toList.flatMap escapeChar).map some

/-- The string of a text. -/
def ofText (s : String) : Json := string (escape s)

/-- The object of members with plain names. -/
def ofMembers (members : List (String × Json)) : Json :=
  object (members.map fun m => (escape m.1, m.2))

/-- What stands between the quotes of a string. -/
def rawText (raw : Input) : String := String.ofList (raw.map (·.getD '\uFFFD'))

/-- A string with its quotes. -/
def quote (raw : Input) : String := "\"" ++ rawText raw ++ "\""

mutual

/-- A value without any space. -/
def render : Json → String
  | null => "null"
  | bool b => if b then "true" else "false"
  | number text => String.ofList text
  | string raw => quote raw
  | array items => "[" ++ ",".intercalate (renderItems items) ++ "]"
  | object members => "\x7b" ++ ",".intercalate (renderMembers members) ++ "\x7d"

/-- The items of an array. -/
def renderItems : List Json → List String
  | [] => []
  | item :: rest => render item :: renderItems rest

/-- The members of an object. -/
def renderMembers : List (Input × Json) → List String
  | [] => []
  | (name, value) :: rest => (quote name ++ ":" ++ render value) :: renderMembers rest

end

/-- A new line that begins with `depth` steps of two blanks. -/
def newLine (depth : Nat) : String := String.ofList ('\n' :: List.replicate (2 * depth) ' ')

/-- Members between brackets, one per line. -/
def block (depth : Nat) (opening closing : String) (members : List String) : String :=
  if members.isEmpty then opening ++ closing
  else
    opening ++ newLine (depth + 1) ++ ("," ++ newLine (depth + 1)).intercalate members ++
      newLine depth ++ closing

mutual

/-- A value that stands `depth` steps deep. -/
def renderAt (depth : Nat) : Json → String
  | array items => block depth "[" "]" (renderItemsAt (depth + 1) items)
  | object members => block depth "\x7b" "\x7d" (renderMembersAt (depth + 1) members)
  | null => "null"
  | bool b => if b then "true" else "false"
  | number text => String.ofList text
  | string raw => quote raw

/-- The items of an array that stand `depth` steps deep. -/
def renderItemsAt (depth : Nat) : List Json → List String
  | [] => []
  | item :: rest => renderAt depth item :: renderItemsAt depth rest

/-- The members of an object that stand `depth` steps deep. -/
def renderMembersAt (depth : Nat) : List (Input × Json) → List String
  | [] => []
  | (name, value) :: rest =>
    (quote name ++ ": " ++ renderAt depth value) :: renderMembersAt depth rest

end

/-- A value with one member per line. -/
def renderPretty (value : Json) : String := renderAt 0 value

end Json

end Rehearsal
