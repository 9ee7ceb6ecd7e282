import Rehearsal.Net.Block
import Mathlib.Tactic.Ring
import Mathlib.Data.Nat.Basic

/-!
# Address blocks as ranges

A block is given by leading bits, and whether an address lies in it is told by a shift. Whoever
reads a table of reserved blocks thinks of ranges: the addresses from the first to the last, as
numbers. The two readings are the same one, whatever the length of the block is, also where it falls
inside an octet or a group.

An IPv4-mapped address is judged as the IPv4 address in it, so it is never compared with the blocks
of its own family. Nothing is lost by that: no reserved block of IPv6 addresses has a mapped address
in it.

## Main definitions

* `AddressBlock.first`, `AddressBlock.last`: the ends of a block, as numbers
* `AddressBlock.Spans`: an address is of the family of a block and between its ends
* `IpAddress.IsJudgedAs`: the address that decides about an address

## Main results

* `AddressBlock.contains_iff`: an address lies in a block exactly if the block spans it
* `IpAddress.isJudgedAs_iff`: each address has one address that decides about it
* `IpAddress.isReserved_iff`: which addresses are reserved
-/

namespace Rehearsal

namespace IpAddress

/-- How many bits an address of the family has. -/
def width : IpAddress → Nat
  | v4 _ => 32
  | v6 _ => 128

/-- An address as a number. -/
def number : IpAddress → Nat
  | v4 a => a.toNat
  | v6 a => a.toNat

end IpAddress

namespace AddressBlock

/-! ### The ends of a block -/

/-- How many addresses there are in a block. -/
def size (block : AddressBlock) : Nat := 2 ^ (block.base.width - block.length)

/-- The first address of a block: all bits that are not fixed are zero. -/
def first (block : AddressBlock) : Nat := block.base.number / block.size * block.size

/-- The last address of a block: all bits that are not fixed are one. -/
def last (block : AddressBlock) : Nat := block.first + (block.size - 1)

/-- The address is of the family of the block and between its ends. -/
def Spans (block : AddressBlock) (a : IpAddress) : Prop :=
  a.isV4 = block.base.isV4 ∧ block.first ≤ a.number ∧ a.number ≤ block.last

instance (block : AddressBlock) (a : IpAddress) : Decidable (block.Spans a) :=
  inferInstanceAs (Decidable (_ ∧ _))

theorem size_pos (block : AddressBlock) : 0 < block.size := Nat.two_pow_pos _

/-- Two numbers have the same quotient exactly if one is among the numbers that begin with the
multiple below the other. -/
theorem div_eq_div_iff {size : Nat} (h : 0 < size) (m n : Nat) :
    m / size = n / size ↔ n / size * size ≤ m ∧ m ≤ n / size * size + (size - 1) := by
  rw [Nat.div_eq_iff h]
  have hsize : n / size * size + (size - 1) = (n / size + 1) * size - 1 := by
    rw [Nat.add_mul, Nat.one_mul, Nat.add_sub_assoc h]
  omega

/-- Words that agree in their leading bits are those between two ends. -/
theorem agree_iff {w : Nat} (length : Nat) (a b : BitVec w) :
    agree length a b = true ↔
      b.toNat / 2 ^ (w - length) * 2 ^ (w - length) ≤ a.toNat ∧
      a.toNat ≤ b.toNat / 2 ^ (w - length) * 2 ^ (w - length) + (2 ^ (w - length) - 1) := by
  rw [agree, beq_iff_eq, ← BitVec.toNat_inj, BitVec.toNat_ushiftRight, BitVec.toNat_ushiftRight,
    Nat.shiftRight_eq_div_pow, Nat.shiftRight_eq_div_pow]
  exact div_eq_div_iff (Nat.two_pow_pos _) _ _

/-- **An address lies in a block exactly if the block spans it.** -/
theorem contains_iff (block : AddressBlock) (a : IpAddress) :
    block.contains a = true ↔ block.Spans a := by
  obtain ⟨base, length⟩ := block
  cases a with
  | v4 a =>
    cases base with
    | v4 b => exact (agree_iff length a b).trans (and_iff_right rfl).symm
    | v6 b => exact iff_of_false Bool.false_ne_true fun h => Bool.noConfusion h.1
  | v6 a =>
    cases base with
    | v4 b => exact iff_of_false Bool.false_ne_true fun h => Bool.noConfusion h.1
    | v6 b => exact (agree_iff length a b).trans (and_iff_right rfl).symm

/-! ### The table -/

/-- Every block of the table is written by its first address. -/
theorem first_of_mem_reserved : ∀ block ∈ reserved,
    block.length ≤ block.base.width ∧ block.first = block.base.number := by
  decide +kernel

end AddressBlock

namespace IpAddress

/-! ### The address that decides -/

/-- The first IPv4-mapped address. -/
def firstMapped : Nat := 0xFFFF00000000

/-- The address that decides about an address. -/
inductive IsJudgedAs : IpAddress → IpAddress → Prop where
  /-- The IPv4 address that is embedded in a mapped one. -/
  | embedded {a : BitVec 128} {inner : BitVec 32} (mapped : a.toNat = firstMapped + inner.toNat) :
    IsJudgedAs (v6 a) (v4 inner)
  /-- An IPv4 address itself. -/
  | v4 (a : BitVec 32) : IsJudgedAs (v4 a) (v4 a)
  /-- Any other IPv6 address itself. -/
  | v6 {a : BitVec 128} (apart : a.toNat < firstMapped ∨ firstMapped + 2 ^ 32 ≤ a.toNat) :
    IsJudgedAs (v6 a) (v6 a)

theorem mapped?_eq_some_iff {a : BitVec 128} {inner : BitVec 32} :
    mapped? a = some inner ↔ a.toNat = firstMapped + inner.toNat := by
  have hinner := inner.isLt
  unfold mapped? firstMapped
  split
  next hmapped =>
    rw [Option.some.injEq, ← BitVec.toNat_inj, BitVec.toNat_ofNat]
    omega
  next hapart => exact iff_of_false nofun (by omega)

theorem mapped?_eq_none_iff {a : BitVec 128} :
    mapped? a = none ↔ a.toNat < firstMapped ∨ firstMapped + 2 ^ 32 ≤ a.toNat := by
  unfold mapped? firstMapped
  split
  next hmapped => exact iff_of_false nofun (by omega)
  next hapart => exact iff_of_true rfl (by omega)

theorem judged_of_mapped {a : BitVec 128} {inner : BitVec 32} (h : mapped? a = some inner) :
    (v6 a).judged = v4 inner := by
  simp only [judged, h]

theorem judged_of_not_mapped {a : BitVec 128} (h : mapped? a = none) :
    (v6 a).judged = v6 a := by
  simp only [judged, h]

theorem isJudgedAs_judged (a : IpAddress) : a.IsJudgedAs a.judged := by
  cases a with
  | v4 a => exact .v4 a
  | v6 a =>
    cases h : mapped? a with
    | some inner =>
      rw [judged_of_mapped h]
      exact .embedded (mapped?_eq_some_iff.mp h)
    | none =>
      rw [judged_of_not_mapped h]
      exact .v6 (mapped?_eq_none_iff.mp h)

/-- **Each address has one address that decides about it.** -/
theorem isJudgedAs_iff {a b : IpAddress} : a.IsJudgedAs b ↔ b = a.judged := by
  constructor
  · intro h
    cases h with
    | embedded mapped => exact (judged_of_mapped (mapped?_eq_some_iff.mpr mapped)).symm
    | v4 a => rfl
    | v6 apart => exact (judged_of_not_mapped (mapped?_eq_none_iff.mpr apart)).symm
  · rintro rfl
    exact isJudgedAs_judged a

/-- No reserved block of IPv6 addresses has a mapped address in it. -/
theorem apart_of_mem_reserved : ∀ block ∈ AddressBlock.reserved, block.base.isV4 = false →
    block.last < firstMapped ∨ firstMapped + 2 ^ 32 ≤ block.first := by
  decide +kernel

/-- An address that a reserved block spans decides about itself. -/
theorem judged_of_spans {block : AddressBlock} {a : IpAddress}
    (hblock : block ∈ AddressBlock.reserved) (h : block.Spans a) : a.judged = a := by
  cases a with
  | v4 a => rfl
  | v6 a =>
    obtain ⟨hfamily, hfirst, hlast⟩ := h
    have hapart := apart_of_mem_reserved block hblock hfamily.symm
    refine (isJudgedAs_iff.mp (.v6 ?_)).symm
    exact hapart.imp (fun h => hlast.trans_lt h) fun h => h.trans hfirst

/-- **Which addresses are reserved.** One address decides about an address: the embedded one if it
is mapped, and else itself. The address is reserved exactly if that one is, as a number, between the
ends of a block of its family, and each block begins with the address by which it is written. In
particular every address of every block is reserved. -/
theorem isReserved_iff (a : IpAddress) :
    (∀ b, a.IsJudgedAs b ↔ b = a.judged) ∧
      (a.isReserved = true ↔ ∃ block ∈ AddressBlock.reserved, block.Spans a.judged) ∧
      (∀ block ∈ AddressBlock.reserved,
        block.length ≤ block.base.width ∧ block.first = block.base.number) ∧
      ∀ block ∈ AddressBlock.reserved, block.Spans a → a.isReserved = true := by
  have hiff : a.isReserved = true ↔ ∃ block ∈ AddressBlock.reserved, block.Spans a.judged := by
    rw [isReserved, List.any_eq_true]
    simp only [AddressBlock.contains_iff]
  refine ⟨fun _ => isJudgedAs_iff, hiff, AddressBlock.first_of_mem_reserved,
    fun block hblock hspans => hiff.mpr ⟨block, hblock, ?_⟩⟩
  rwa [judged_of_spans hblock hspans]

/-- The last link-local address is reserved, the next one is not; the block ends inside a group. -/
example : (ofText? "febf:ffff:ffff:ffff:ffff:ffff:ffff:ffff").map isReserved = some true ∧
    (ofText? "fec0::").map isReserved = some false := by
  decide +kernel

end IpAddress

end Rehearsal
