import Rehearsal.Text.Decimal
import Rehearsal.Text.Utf8

/-!
# Tokens of JSON

`Json.tokens?` cuts a text into tokens. It works on bytes as well: a place where the bytes form no
character is passed on inside a string, because a string that nobody reads may hold anything. For
the same reason a string keeps its escapes until it is read; `Json.unescape?` then demands that
everything in it is a character.
-/

namespace Rehearsal

namespace Json

/-- A text, with `none` where bytes form no character. -/
abbrev Input := List (Option Char)

/-- The text as input. -/
def Input.ofText (s : String) : Input := s.toList.map some

/-- The bytes as input. -/
def Input.ofBytes (bs : Bytes) : Input := Text.decodeEach bs

/-- A token. -/
inductive Token where
  /-- The beginning of an object. -/
  | openBrace
  /-- The end of an object. -/
  | closeBrace
  /-- The beginning of an array. -/
  | openBracket
  /-- The end of an array. -/
  | closeBracket
  /-- What stands between a name and its value. -/
  | colon
  /-- What stands between members. -/
  | comma
  /-- The word `null`. -/
  | null
  /-- The words `true` and `false`. -/
  | bool (value : Bool)
  /-- A number as it is written. -/
  | number (text : List Char)
  /-- What stands between the quotes of a string. -/
  | string (raw : Input)
  deriving DecidableEq, Repr

/-! ### Strings -/

/-- The characters that may follow a backslash, and what they stand for. -/
def escapes : List (Char × Char) := [
  ('"', '"'), ('\\', '\\'), ('/', '/'), ('b', '\x08'), ('f', '\x0c'), ('n', '\n'), ('r', '\r'),
  ('t', '\t')]

/-- The number that four hexadecimal digits write. -/
def hexUnit? (a b c d : Option Char) : Option Nat := do
  Text.readHex [← a, ← b, ← c, ← d]

/-- What stands before the closing quote of a string, and what after it. -/
def stringBody? : Input → Option (Input × Input)
  | [] => none
  | some '"' :: rest => some ([], rest)
  | some '\\' :: some 'u' :: a :: b :: c :: d :: rest =>
    match hexUnit? a b c d with
    | none => none
    | some _ =>
      (stringBody? rest).map fun p => (some '\\' :: some 'u' :: a :: b :: c :: d :: p.1, p.2)
  | some '\\' :: some c :: rest =>
    if (escapes.map (·.1)).contains c then
      (stringBody? rest).map fun p => (some '\\' :: some c :: p.1, p.2)
    else none
  | some c :: rest =>
    if c.toNat < 0x20 ∨ c = '\\' then none
    else (stringBody? rest).map fun p => (some c :: p.1, p.2)
  | none :: rest => (stringBody? rest).map fun p => (none :: p.1, p.2)

/-- The text of a string between its quotes, if everything in it is a character. Two escapes may
form one character between them; neither may stand alone. -/
def unescape? : Input → Option (List Char)
  | [] => some []
  | some '\\' :: some 'u' :: a :: b :: c :: d :: rest =>
    match hexUnit? a b c d with
    | none => none
    | some high =>
      if high < 0xD800 ∨ 0xDFFF < high then (unescape? rest).map (Char.ofNat high :: ·)
      else match rest with
        | some '\\' :: some 'u' :: a :: b :: c :: d :: rest =>
          match hexUnit? a b c d with
          | none => none
          | some low =>
            if high < 0xDC00 ∧ 0xDC00 ≤ low ∧ low ≤ 0xDFFF then
              (unescape? rest).map
                (Char.ofNat (0x10000 + 0x400 * (high - 0xD800) + (low - 0xDC00)) :: ·)
            else none
        | _ => none
  | some '\\' :: some c :: rest =>
    match escapes.find? fun e => e.1 == c with
    | none => none
    | some e => (unescape? rest).map (e.2 :: ·)
  | some c :: rest => if c = '\\' then none else (unescape? rest).map (c :: ·)
  | none :: _ => none

/-! ### Numbers -/

/-- The digits at the beginning, and what follows them. -/
def digits : Input → List Char × Input
  | some c :: rest =>
    if c.isDigit then
      let p := digits rest
      (c :: p.1, p.2)
    else ([], some c :: rest)
  | rest => ([], rest)

/-- At least one digit. -/
def someDigits? (input : Input) : Option (List Char × Input) :=
  match digits input with
  | ([], _) => none
  | p => some p

/-- The whole part of a number: a zero, or digits that begin with another one. -/
def whole? : Input → Option (List Char × Input)
  | some '0' :: rest => some (['0'], rest)
  | input => someDigits? input

/-- The fraction of a number, if it has one. -/
def fraction? : Input → Option (List Char × Input)
  | some '.' :: rest => (someDigits? rest).map fun p => ('.' :: p.1, p.2)
  | rest => some ([], rest)

/-- The exponent of a number, if it has one. -/
def exponent? : Input → Option (List Char × Input)
  | some c :: rest =>
    if c = 'e' ∨ c = 'E' then
      match rest with
      | some '+' :: rest => (someDigits? rest).map fun p => (c :: '+' :: p.1, p.2)
      | some '-' :: rest => (someDigits? rest).map fun p => (c :: '-' :: p.1, p.2)
      | rest => (someDigits? rest).map fun p => (c :: p.1, p.2)
    else some ([], some c :: rest)
  | rest => some ([], rest)

/-- A number. -/
def number? (input : Input) : Option (List Char × Input) := do
  let (sign, input) := match input with
    | some '-' :: rest => (['-'], rest)
    | rest => ([], rest)
  let (whole, input) ← whole? input
  let (fraction, input) ← fraction? input
  let (exponent, input) ← exponent? input
  return (sign ++ whole ++ fraction ++ exponent, input)

/-! ### Tokens -/

/-- The token at the beginning, and what follows it. -/
def token? : Input → Option (Token × Input)
  | some '\x7b' :: rest => some (.openBrace, rest)
  | some '\x7d' :: rest => some (.closeBrace, rest)
  | some '[' :: rest => some (.openBracket, rest)
  | some ']' :: rest => some (.closeBracket, rest)
  | some ':' :: rest => some (.colon, rest)
  | some ',' :: rest => some (.comma, rest)
  | some '"' :: rest => (stringBody? rest).map fun p => (.string p.1, p.2)
  | some 'n' :: some 'u' :: some 'l' :: some 'l' :: rest => some (.null, rest)
  | some 't' :: some 'r' :: some 'u' :: some 'e' :: rest => some (.bool true, rest)
  | some 'f' :: some 'a' :: some 'l' :: some 's' :: some 'e' :: rest => some (.bool false, rest)
  | input => (number? input).map fun p => (.number p.1, p.2)

/-- Is this white space between tokens? -/
def isGap (c : Option Char) : Bool :=
  c == some ' ' || c == some '\t' || c == some '\n' || c == some '\r'

/-- At most `fuel` tokens, if they are the whole input. -/
def tokensWithin : Nat → Input → Option (List Token)
  | fuel, input =>
    match input.dropWhile isGap with
    | [] => some []
    | input =>
      match fuel with
      | 0 => none
      | fuel + 1 => do
        let (token, rest) ← token? input
        return token :: (← tokensWithin fuel rest)

/-- The tokens of an input. No token is empty, so there are no more of them than characters. -/
def tokens? (input : Input) : Option (List Token) := tokensWithin input.length input

end Json

end Rehearsal
