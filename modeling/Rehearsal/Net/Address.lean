import Rehearsal.Text.Decimal

/-!
# Internet addresses

An address is a word of 32 or 128 bits. `IpAddress.ofText?` reads the strict written form: decimal
octets without leading zeros, at most one `::` and that in place of at least one group, an IPv4 tail
only in the last two groups, no zone and no brackets. `IpAddress.render` writes the recommended
form, in which the first of the longest runs of zero groups is left out.
-/

namespace Rehearsal

/-- An internet address of either family. -/
inductive IpAddress where
  /-- An IPv4 address. -/
  | v4 (bits : BitVec 32)
  /-- An IPv6 address. -/
  | v6 (bits : BitVec 128)
  deriving DecidableEq, Repr

namespace IpAddress

/-- The IPv4 address of four octets. -/
def ofOctets (a b c d : Nat) : BitVec 32 :=
  BitVec.ofNat 32 (((a * 256 + b) * 256 + c) * 256 + d)

/-- The IPv6 address of its groups, most significant first. -/
def ofGroups (groups : List Nat) : BitVec 128 :=
  BitVec.ofNat 128 (groups.foldl (fun n g => 65536 * n + g) 0)

/-- Is this an IPv4 address? -/
def isV4 : IpAddress → Bool
  | v4 _ => true
  | v6 _ => false

/-! ### Reading -/

/-- An octet: up to three digits, no leading zero, at most 255. -/
def readOctet (cs : List Char) : Option Nat := do
  let n ← Text.readDecimal cs
  if cs.length ≤ 3 ∧ n ≤ 255 ∧ (cs.length = 1 ∨ cs.head? ≠ some '0') then some n else none

/-- An IPv4 address in dotted form. -/
def readV4 (cs : List Char) : Option (BitVec 32) :=
  match cs.splitOn '.' with
  | [a, b, c, d] => do
    return ofOctets (← readOctet a) (← readOctet b) (← readOctet c) (← readOctet d)
  | _ => none

/-- A group: one to four hexadecimal digits. -/
def readGroup (cs : List Char) : Option Nat :=
  if cs.length ≤ 4 then Text.readHex cs else none

/-- Groups that are separated by colons; the last may be an IPv4 address, which is two groups, if
`tail` allows it. -/
def readGroups (tail : Bool) : List (List Char) → Option (List Nat)
  | [] => some []
  | [last] =>
    match readGroup last with
    | some g => some [g]
    | none =>
      if tail then (readV4 last).map fun a => [a.toNat / 65536, a.toNat % 65536] else none
  | g :: gs => do return (← readGroup g) :: (← readGroups tail gs)

/-- The groups of a part of an IPv6 address, the empty part having none. -/
def readPart (tail : Bool) (cs : List Char) : Option (List Nat) :=
  if cs.isEmpty then some [] else readGroups tail (cs.splitOn ':')

/-- What stands before the first `::` and what after it. -/
def splitGap : List Char → Option (List Char × List Char)
  | ':' :: ':' :: cs => some ([], cs)
  | c :: cs => (splitGap cs).map fun p => (c :: p.1, p.2)
  | [] => none

/-- An IPv6 address. -/
def readV6 (cs : List Char) : Option (BitVec 128) :=
  match splitGap cs with
  | none => do
    let groups ← readGroups true (cs.splitOn ':')
    if groups.length = 8 then some (ofGroups groups) else none
  | some (front, back) => do
    let front ← readPart false front
    let back ← readPart true back
    let gap := 8 - (front.length + back.length)
    if front.length + back.length ≤ 7 then some (ofGroups (front ++ List.replicate gap 0 ++ back))
    else none

/-- Reads an address of either family. -/
def ofText? (s : String) : Option IpAddress :=
  match readV4 s.toList with
  | some a => some (.v4 a)
  | none => (readV6 s.toList).map .v6

/-! ### Writing -/

/-- The octets of an IPv4 address. -/
def octets (a : BitVec 32) : List Nat :=
  [a.toNat / 16777216, a.toNat / 65536 % 256, a.toNat / 256 % 256, a.toNat % 256]

/-- The groups of an IPv6 address. -/
def groups (a : BitVec 128) : List Nat :=
  [112, 96, 80, 64, 48, 32, 16, 0].map fun position => (a.toNat >>> position) % 65536

/-- An IPv4 address in dotted form. -/
def renderV4 (a : BitVec 32) : String := ".".intercalate ((octets a).map toString)

/-- Groups in hexadecimal, separated by colons. -/
def renderGroups (gs : List Nat) : String :=
  ":".intercalate (gs.map fun g => String.ofList (Nat.toDigits 16 g))

/-- How many zeros the list begins with. -/
def leadingZeros (gs : List Nat) : Nat := (gs.takeWhile (· == 0)).length

/-- Where the first of the longest runs of zeros begins, and its length. -/
def longestGap : List Nat → Nat × Nat
  | [] => (0, 0)
  | g :: gs =>
    let later := longestGap gs
    let here := leadingZeros (g :: gs)
    if here ≠ 0 ∧ later.2 ≤ here then (0, here) else (later.1 + 1, later.2)

/-- The IPv4 address that an IPv4-mapped IPv6 address stands for. -/
def mapped? (a : BitVec 128) : Option (BitVec 32) :=
  if a.toNat / 4294967296 = 65535 then some (BitVec.ofNat 32 a.toNat) else none

/-- An IPv6 address as groups of which the first of the longest runs of zeros is left out. -/
def renderShort (a : BitVec 128) : String :=
  let gs := groups a
  let (start, length) := longestGap gs
  if length < 2 then renderGroups gs
  else renderGroups (gs.take start) ++ "::" ++ renderGroups (gs.drop (start + length))

/-- An IPv6 address in its recommended form. -/
def renderV6 (a : BitVec 128) : String :=
  match mapped? a with
  | some inner => "::ffff:" ++ renderV4 inner
  | none => renderShort a

/-- The written form of an address. -/
def render : IpAddress → String
  | v4 a => renderV4 a
  | v6 a => renderV6 a

instance : ToString IpAddress := ⟨render⟩

/-! ### Order -/

/-- IPv4 addresses come before IPv6 addresses; within a family the number decides. -/
def le : IpAddress → IpAddress → Bool
  | v4 a, v4 b => a.toNat ≤ b.toNat
  | v4 _, v6 _ => true
  | v6 _, v4 _ => false
  | v6 a, v6 b => a.toNat ≤ b.toNat

end IpAddress

end Rehearsal
