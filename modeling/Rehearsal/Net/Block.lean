import Rehearsal.Net.Address

/-!
# Address blocks and reserved addresses

A block is the set of addresses of one family that agree with a base in their leading bits.
`IpAddress.isReserved` asks whether an address lies in a block that is not routed on the public
internet, where a validation server never connects. An IPv4-mapped IPv6 address is judged as the
IPv4 address that it stands for.
-/

namespace Rehearsal

/-- The addresses that agree with `base` in their first `length` bits. -/
structure AddressBlock where
  /-- An address of the block, and its family. -/
  base : IpAddress
  /-- How many leading bits are fixed. -/
  length : Nat
  deriving DecidableEq, Repr

namespace AddressBlock

/-- Do the two words agree in their first `length` bits? -/
def agree {w : Nat} (length : Nat) (a b : BitVec w) : Bool :=
  a >>> (w - length) == b >>> (w - length)

/-- Does the address lie in the block? -/
def contains (block : AddressBlock) : IpAddress → Bool
  | .v4 a => match block.base with
    | .v4 b => agree block.length a b
    | .v6 _ => false
  | .v6 a => match block.base with
    | .v4 _ => false
    | .v6 b => agree block.length a b

/-- The IPv4 block of a base in octets. -/
def v4 (a b c d length : Nat) : AddressBlock := ⟨.v4 (IpAddress.ofOctets a b c d), length⟩

/-- The IPv6 block whose base has the given leading groups and zeros after them. -/
def v6 (front : List Nat) (length : Nat) : AddressBlock :=
  ⟨.v6 (IpAddress.ofGroups (front ++ List.replicate (8 - front.length) 0)), length⟩

/-- The blocks that are not reachable on the public internet. -/
def reserved : List AddressBlock := [
  v4 0 0 0 0 8,
  v4 10 0 0 0 8,
  v4 100 64 0 0 10,
  v4 127 0 0 0 8,
  v4 169 254 0 0 16,
  v4 172 16 0 0 12,
  v4 192 0 0 0 24,
  v4 192 0 2 0 24,
  v4 192 88 99 0 24,
  v4 192 168 0 0 16,
  v4 198 18 0 0 15,
  v4 198 51 100 0 24,
  v4 203 0 113 0 24,
  v4 224 0 0 0 4,
  v4 240 0 0 0 4,
  v4 255 255 255 255 32,
  v6 [] 128,
  v6 [0, 0, 0, 0, 0, 0, 0, 1] 128,
  v6 [0x64, 0xff9b] 96,
  v6 [0x100] 64,
  v6 [0x2001] 32,
  v6 [0x2001, 0x10] 28,
  v6 [0x2001, 0x20] 28,
  v6 [0x2001, 0xdb8] 32,
  v6 [0x2002] 16,
  v6 [0xfc00] 7,
  v6 [0xfe80] 10,
  v6 [0xff00] 8]

end AddressBlock

namespace IpAddress

/-- The address that decides about an address: the embedded one for an IPv4-mapped address. -/
def judged : IpAddress → IpAddress
  | v4 a => v4 a
  | v6 a => match mapped? a with
    | some inner => v4 inner
    | none => v6 a

/-- Is the address outside the publicly routed internet? -/
def isReserved (a : IpAddress) : Bool := AddressBlock.reserved.any (·.contains a.judged)

end IpAddress

end Rehearsal
