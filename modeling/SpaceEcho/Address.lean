/-
The parameter address map: where the System area, the edit-buffer mirror and
the memory slots live, and the prefix classifier that inbound routing uses.
Addresses are four 7-bit bytes, so they are also read here as numbers in base
128; on those numbers the slots are evenly spaced.
-/
import Mathlib.Data.Nat.Bitwise

namespace SpaceEcho

/-- A four-byte parameter address, most significant byte first. -/
abbrev Address := Vector UInt8 4

/-- Base address of the System area. -/
def systemBase : Address := #v[0x10, 0x00, 0x00, 0x00]

/-- Base address of MEMORY MANUAL, the live manual-mode slot. -/
def memoryManualBase : Address := #v[0x20, 0x10, 0x00, 0x00]

/-- Base address of the edit-buffer mirror, the 33-byte block of whichever
memory is active. -/
def editBufferBase : Address := #v[0x20, 0x00, 0x00, 0x00]

/-- Per-memory block size in bytes (offsets `00 00` to `00 20`). -/
abbrev memoryBlockLen : ℕ := 33

/-- Highest user memory slot number. -/
def memorySlotMax : UInt8 := 127

/-- The byte that tells the parts of the address space apart. -/
def Address.highByte (address : Address) : UInt8 := address[0]

/-- Top-level partition of the address space. -/
inductive AddressSpace where
  | system
  | memory
  | unknown
deriving Repr, DecidableEq

/-- The classifier looks at the first address byte only. -/
def AddressSpace.classify (address : Address) : AddressSpace :=
  match address.highByte with
  | 0x10 => .system
  | 0x20 | 0x30 => .memory
  | _ => .unknown

theorem AddressSpace.classify_eq_memory_iff (address : Address) :
    classify address = .memory ↔
      address.highByte = 0x20 ∨ address.highByte = 0x30 := by
  unfold classify
  split <;> simp_all

theorem AddressSpace.classify_eq_system_iff (address : Address) :
    classify address = .system ↔ address.highByte = 0x10 := by
  unfold classify
  split <;> simp_all

/-- Masking with `0x7F` keeps one base-128 digit. -/
theorem toNat_low7 (v : UInt32) : (v &&& 0x7F).toUInt8.toNat = v.toNat % 128 := by
  have hmask : (0x7F : UInt32).toNat = 2 ^ 7 - 1 := rfl
  rw [UInt32.toNat_toUInt8, UInt32.toNat_and, hmask,
    Nat.and_two_pow_sub_one_eq_mod]
  omega

/-- MANUAL, or one of the user memories. -/
inductive MemorySlot where
  | manual
  | user (n : UInt8)
deriving Repr, DecidableEq

namespace MemorySlot

/-- The number of strides between MANUAL and this slot. -/
def index : MemorySlot → UInt16
  | manual => 0
  | user n => n.toUInt16

/-- Base address of the slot's block: from `20 10 00 00`, one step of
`00 10 00 00` per slot, carried out of the second byte past `0x7F`. -/
def baseAddress (slot : MemorySlot) : Address :=
  let offset2nd : UInt32 := ((slot.index + 1) * 0x10).toUInt32
  let high := (0x20 : UInt32) + (offset2nd >>> (7 : UInt32))
  let low := offset2nd &&& 0x7F
  #v[high.toUInt8, low.toUInt8, 0x00, 0x00]

/-- `0` is MANUAL, `1` to `127` are the user slots. -/
def fromIndex (n : UInt8) : Option MemorySlot :=
  match n with
  | 0 => some .manual
  | n => if n ≤ memorySlotMax then some (.user n) else none

theorem fromIndex_eq_some_iff (n : UInt8) (slot : MemorySlot) :
    fromIndex n = some slot ↔
      (n = 0 ∧ slot = .manual) ∨ (n ≠ 0 ∧ n ≤ 127 ∧ slot = .user n) := by
  unfold fromIndex memorySlotMax
  split
  · simp [eq_comm]
  · split <;> simp_all [eq_comm]

theorem index_toNat_lt (slot : MemorySlot) : slot.index.toNat < 256 := by
  cases slot with
  | manual => decide
  | user n =>
      have hn := n.toNat_lt
      simpa [index] using hn

theorem baseAddress_high (slot : MemorySlot) :
    slot.baseAddress.highByte.toNat = 0x20 + (slot.index.toNat + 1) / 8 := by
  have hindex := slot.index_toNat_lt
  simp [Address.highByte, baseAddress, Nat.shiftRight_eq_div_pow]
  omega

theorem baseAddress_low (slot : MemorySlot) :
    slot.baseAddress[1].toNat = (slot.index.toNat + 1) * 0x10 % 128 := by
  have hindex := slot.index_toNat_lt
  change (((slot.index + 1) * 0x10).toUInt32 &&& 0x7F).toUInt8.toNat = _
  rw [toNat_low7]
  simp

end MemorySlot

/-- The address as a number: four base-128 digits, most significant first. -/
def linear (address : Address) : ℕ :=
  ((address.highByte.toNat * 128 + address[1].toNat) * 128 + address[2].toNat) * 128
    + address[3].toNat

/-- On linear addresses the carry disappears: slots stand `0x10 * 128 ^ 2`
apart, with MANUAL at stride one. -/
theorem linear_baseAddress (slot : MemorySlot) :
    linear slot.baseAddress =
      0x20 * 128 ^ 3 + (slot.index.toNat + 1) * 0x10 * 128 ^ 2 := by
  have hthird : slot.baseAddress[2] = 0 := rfl
  have hfourth : slot.baseAddress[3] = 0 := rfl
  rw [linear, slot.baseAddress_high, slot.baseAddress_low, hthird, hfourth]
  simp only [UInt8.toNat_zero]
  omega

theorem baseAddress_manual : MemorySlot.manual.baseAddress = memoryManualBase := by
  decide

end SpaceEcho
