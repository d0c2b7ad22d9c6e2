/-
The checksum at every length.  It is computed on a wrapping 32-bit accumulator,
and is still the check digit of the exact sum: wrapping keeps the residue mod
128, and the subtraction stays within range.
-/
import SpaceEcho.Lib.CheckDigit
import SpaceEcho.SysEx

namespace SpaceEcho

/-- The `u32` the checksum is computed from. -/
def accumulator (bytes : List UInt8) : UInt32 :=
  bytes.foldl (fun acc b => acc + b.toUInt32) 0

theorem accumulator_toNat (bytes : List UInt8) :
    (accumulator bytes).toNat = (bytes.map UInt8.toNat).sum % 2 ^ 32 := by
  rw [accumulator, foldl_add_toNat, UInt32.toNat_zero, Nat.zero_add]

theorem checksum_eq_accumulator (bytes : List UInt8) :
    checksum bytes = ((128 - accumulator bytes % 128) % 128).toUInt8 := rfl

theorem accumulator_mod_le (bytes : List UInt8) :
    accumulator bytes % 128 ≤ 128 := by
  have hlt : accumulator bytes % 128 < 128 := UInt32.mod_lt _ (by decide)
  exact UInt32.le_of_lt hlt

theorem checksum_eq_complement (bytes : List UInt8) :
    (checksum bytes).toNat =
      CheckDigit.complement 128 (bytes.map UInt8.toNat).sum :=
  checksum_toNat bytes

/-- Payloads have one checksum exactly when their sums agree mod 128. -/
theorem checksum_eq_iff (left right : List UInt8) :
    checksum left = checksum right ↔
      (left.map UInt8.toNat).sum ≡ (right.map UInt8.toNat).sum [MOD 128] := by
  rw [← UInt8.toNat_inj, checksum_eq_complement, checksum_eq_complement]
  exact CheckDigit.complement_eq_iff (by decide) _ _

/-- At every length the checksum is the one number below 128 that completes the
exact sum to a multiple of 128, though the accumulator wraps; so checksums add
up, and the subtraction in it never goes below zero. -/
theorem checksum_right_at_every_length :
    (∀ (bytes : List UInt8) (c : ℕ), c = (checksum bytes).toNat ↔
      c < 128 ∧ 128 ∣ (bytes.map UInt8.toNat).sum + c) ∧
    (∀ front back : List UInt8, (checksum (front ++ back)).toNat =
      ((checksum front).toNat + (checksum back).toNat) % 128) ∧
    ∀ bytes : List UInt8,
      checksum bytes = ((128 - accumulator bytes % 128) % 128).toUInt8 ∧
      (accumulator bytes).toNat = (bytes.map UInt8.toNat).sum % 2 ^ 32 ∧
      accumulator bytes % 128 ≤ 128 := by
  have hmodulus : 0 < 128 := by decide
  refine ⟨?_, ?_, ?_⟩
  · intro bytes c
    rw [checksum_eq_complement]
    exact CheckDigit.eq_complement_iff hmodulus _ c
  · intro front back
    simp only [checksum_eq_complement, List.map_append, List.sum_append]
    exact CheckDigit.complement_add hmodulus _ _
  · intro bytes
    exact ⟨checksum_eq_accumulator bytes, accumulator_toNat bytes,
      accumulator_mod_le bytes⟩

end SpaceEcho
