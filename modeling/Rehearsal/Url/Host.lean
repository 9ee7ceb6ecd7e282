import Rehearsal.Idna.Domain
import Rehearsal.Url.Basic
import Rehearsal.Url.Escape

/-!
# Hosts in URLs

The host of a scheme that always has a server is an address in brackets, or a name. A name is first
brought into ASCII; one whose last label is a number must be an IPv4 address, whose parts may be
decimal, octal after `0` or hexadecimal after `0x`, the last of them filling what is left. The host
of any other scheme is a text in which a few characters must not stand.
-/

namespace Rehearsal

namespace Url

/-- Characters that stand in no host. -/
def forbiddenInHost (c : Char) : Bool :=
  ['\x00', '\t', '\n', '\r', ' ', '#', '/', ':', '<', '>', '?', '@', '[', '\\', ']', '^',
    '|'].contains c

/-- Characters that stand in no name. -/
def forbiddenInName (c : Char) : Bool :=
  forbiddenInHost c || c.toNat < 0x20 || c == '%' || c == '\x7f'

/-! ### IPv4 addresses -/

/-- Digits in the given base: nothing if one is none. -/
def readDigits (base : Nat) (cs : List Char) : Option Nat :=
  if cs.all fun c => Text.isHexDigit c && Text.hexDigitValue c < base then
    some (cs.foldl (fun n c => base * n + Text.hexDigitValue c) 0)
  else none

/-- A part of an IPv4 address. -/
def readPart : List Char → Option Nat
  | [] => none
  | ['0'] => some 0
  | '0' :: 'x' :: cs => readDigits 16 cs
  | '0' :: 'X' :: cs => readDigits 16 cs
  | '0' :: cs => readDigits 8 cs
  | cs => readDigits 10 cs

/-- The parts of a name, without the empty one after a final dot. -/
def nameParts (cs : List Char) : List (List Char) :=
  let parts := cs.splitOn '.'
  if parts.getLast? = some [] then parts.dropLast else parts

/-- Is the last part of a name a number? -/
def endsInNumber (cs : List Char) : Bool :=
  match (nameParts cs).getLast? with
  | none => false
  | some last => (!last.isEmpty && last.all Char.isDigit) || (readPart last).isSome

/-- The value of the parts of an address, of which `room` are left to fill. -/
def joinParts (room : Nat) : List Nat → Option Nat
  | [] => none
  | [last] => if last < 256 ^ room then some last else none
  | part :: rest =>
    if part < 256 then (joinParts (room - 1) rest).map fun n => part * 256 ^ (room - 1) + n
    else none

/-- An IPv4 address in any of its forms. -/
def readV4 (cs : List Char) : Option (BitVec 32) := do
  let parts ← (nameParts cs).mapM readPart
  if parts.length ≤ 4 then (joinParts 4 parts).map (BitVec.ofNat 32) else none

/-! ### Hosts -/

/-- The characters of a text in which escapes are resolved. -/
def unescapeText (cs : List Char) : List Char :=
  if cs.contains '%' then
    (Text.decodeLossy (unescape (cs.flatMap String.utf8EncodeChar))).toList
  else cs

/-- The host that a name stands for. -/
def readName (cs : List Char) : Except UrlError UrlHost :=
  match Idna.toAscii? (unescapeText cs) with
  | none => .error .badName
  | some name =>
    if name.any forbiddenInName then .error .badName
    else if name.isEmpty then .error .emptyHost
    else if endsInNumber name then
      match readV4 name with
      | some a => .ok (.v4 a)
      | none => .error .badV4
    else .ok (.name (String.ofList name))

/-- The host of a URL. -/
def readHost (special : Bool) (cs : List Char) : Except UrlError UrlHost :=
  match cs with
  | '[' :: inside =>
    if inside.getLast? = some ']' then
      match IpAddress.readV6 inside.dropLast with
      | some a => .ok (.v6 a)
      | none => .error .badV6
    else .error .badV6
  | cs =>
    if special then readName cs
    else if cs.any forbiddenInHost then .error .badCharacter
    else .ok (.name (String.ofList (escape isForeign cs)))

end Url

end Rehearsal
