/-
What the adapter refuses to send, and what it says then.  A request is refused
for its area only; an encode also for its document, which must be readable and
have its numbers in range; a store also for its destination.  The checks are
made in a fixed order, and the first that fails makes the error.
-/
import SpaceEcho.Device
import SpaceEcho.Offsets

namespace SpaceEcho

/-- A number the encoders check: the parameter it belongs to, and its range. -/
structure CheckedNumber where
  field : String
  value : UInt16
  min : UInt16
  max : UInt16
deriving Repr, DecidableEq

namespace CheckedNumber

def InRange (c : CheckedNumber) : Prop := c.min ≤ c.value ∧ c.value ≤ c.max

instance (c : CheckedNumber) : Decidable c.InRange :=
  inferInstanceAs (Decidable (_ ∧ _))

/-- The error of a number out of range names the parameter and the range. -/
def error (c : CheckedNumber) : CodecError :=
  .outOfRange c.field c.value (toString c.min ++ "..=" ++ toString c.max)

theorem error_eq {field : String} {value min max : UInt16} {valid : String}
    (hvalid : toString min ++ "..=" ++ toString max = valid) :
    CodecError.outOfRange field value valid =
      error ⟨field, value, min, max⟩ := by
  rw [error, hvalid]

end CheckedNumber

/-- The computation checks these numbers in order. -/
def ChecksNumbers {α : Type} (numbers : List CheckedNumber)
    (x : Except CodecError α) : Prop :=
  FirstFault.Checks CheckedNumber.InRange (fun e c => e = c.error) numbers x

/-- The only number of a System block that is checked. -/
def SystemArea.checkedNumbers (s : SystemArea) : List CheckedNumber :=
  [⟨"memory_extent", s.memoryExtent.toUInt16, 1, 4⟩]

def RangedParam.checkedNumbers (p : RangedParam) (field : String) :
    List CheckedNumber :=
  [p.value, p.min, p.max].map fun b => ⟨field, b.toUInt16, 0, 127⟩

def Memory.checkedNumbers (m : Memory) : List CheckedNumber :=
  m.repeatRate.checkedNumbers "repeat_rate" ++
    (m.intensity.checkedNumbers "intensity" ++
    (m.echoVolume.checkedNumbers "echo_volume" ++
    (m.bass.checkedNumbers "bass" ++
    (m.treble.checkedNumbers "treble" ++
    (m.reverbVolume.checkedNumbers "reverb_volume" ++
    (m.saturation.checkedNumbers "saturation" ++
    (m.wowFlutter.checkedNumbers "wow_flutter" ++
      [⟨"tap_time_ms", m.tapTimeMs, 0, 2000⟩])))))))

section Checks

theorem toUInt16_le_iff {b c : UInt8} : b.toUInt16 ≤ c.toUInt16 ↔ b ≤ c := by
  rw [UInt16.le_iff_toNat_le, UInt8.le_iff_toNat_le, UInt8.toNat_toUInt16,
    UInt8.toNat_toUInt16]

theorem SystemArea.toBytes_checks (s : SystemArea) :
    ChecksNumbers s.checkedNumbers s.toBytes := by
  rw [toBytes_eq]
  have hrange : CheckedNumber.InRange
      ⟨"memory_extent", s.memoryExtent.toUInt16, 1, 4⟩ ↔
        1 ≤ s.memoryExtent ∧ s.memoryExtent ≤ 4 :=
    and_congr (@toUInt16_le_iff 1 s.memoryExtent) (@toUInt16_le_iff s.memoryExtent 4)
  apply FirstFault.checks_item
  · intro hgood
    exact ⟨_, if_neg (not_not_intro (hrange.mp hgood))⟩
  · intro hbad
    exact ⟨_, if_pos fun h => hbad (hrange.mpr h),
      CheckedNumber.error_eq (by decide)⟩

theorem RangedParam.toBytes_checks (p : RangedParam) (field : String) :
    ChecksNumbers (p.checkedNumbers field) (p.toBytes field) := by
  have hscan : ChecksNumbers (p.checkedNumbers field)
      (Block.scan (fun b => b > 127)
        (fun b => CodecError.outOfRange field b.toUInt16 "0..=127")
        [p.value, p.min, p.max]) := by
    apply FirstFault.checks_scan
    · intro b
      rw [gt_iff_lt, UInt8.not_lt, CheckedNumber.InRange]
      exact (and_iff_right UInt16.zero_le).trans (@toUInt16_le_iff b 127)
    · exact fun _ => CheckedNumber.error_eq (by decide)
  have hsteps := hscan.bind fun _ =>
    FirstFault.checks_ok (#v[p.value, p.min, p.max] : Vector UInt8 3)
  rwa [List.append_nil] at hsteps

theorem packTapTime_checks (ms : UInt16) :
    ChecksNumbers [⟨"tap_time_ms", ms, 0, 2000⟩] (packTapTime ms) := by
  unfold packTapTime
  apply FirstFault.checks_item
  · intro hgood
    exact ⟨_, if_neg (UInt16.not_lt.mpr hgood.2)⟩
  · intro hbad
    have hover : ms > 2000 := by
      by_contra hle
      exact hbad ⟨UInt16.zero_le, UInt16.not_lt.mp hle⟩
    exact ⟨_, if_pos hover, CheckedNumber.error_eq (by decide)⟩

/-- The memory encoder checks its 25 numbers in the order of the block. -/
theorem Memory.toBytes_checks (m : Memory) :
    ChecksNumbers m.checkedNumbers m.toBytes := by
  exact (m.repeatRate.toBytes_checks "repeat_rate").bind fun _ =>
    (m.intensity.toBytes_checks "intensity").bind fun _ =>
    (m.echoVolume.toBytes_checks "echo_volume").bind fun _ =>
    (m.bass.toBytes_checks "bass").bind fun _ =>
    (m.treble.toBytes_checks "treble").bind fun _ =>
    (m.reverbVolume.toBytes_checks "reverb_volume").bind fun _ =>
    (m.saturation.toBytes_checks "saturation").bind fun _ =>
    (m.wowFlutter.toBytes_checks "wow_flutter").bind fun _ =>
    (packTapTime_checks m.tapTimeMs).bind fun _ => FirstFault.checks_ok _

end Checks

/-- A document is refused with this text: it cannot be read, or the text is that
of its first number out of range. -/
def RefusedWith (numbers : Except String (List CheckedNumber))
    (message : String) : Prop :=
  numbers = .error message ∨
    ∃ before bad after, numbers = .ok (before ++ bad :: after) ∧
      (∀ c ∈ before, c.InRange) ∧ ¬ bad.InRange ∧ message = bad.error.display

/-- Reading a document, laying it out and putting it in a frame fails as the
document is refused. -/
theorem write_eq_error_iff {α β : Type} {read : Except String α}
    {toBytes : α → Except CodecError β} {numbers : α → List CheckedNumber}
    (hchecks : ∀ a, ChecksNumbers (numbers a) (toBytes a))
    {frame : β → List UInt8} {error : DeviceError} :
    (do
      let a ← read.mapError DeviceError.encode
      let b ← (toBytes a).mapError (DeviceError.encode ·.display)
      return frame b : Except DeviceError (List UInt8)) = .error error ↔
    ∃ message, RefusedWith (read.map numbers) message ∧
      error = .encode message := by
  simp only [Codec.bind_fails_iff, Codec.mapError_fails_iff,
    Codec.mapError_returns_iff, pure, Except.pure, reduceCtorEq, and_false,
    exists_false, or_false, RefusedWith]
  rcases read with text | a
  · simp [Except.map, eq_comm]
  · simp only [reduceCtorEq, false_and, exists_const, false_or, Except.ok.injEq,
      exists_eq_left', Except.map]
    constructor
    · rintro ⟨e, hbytes, rfl⟩
      obtain ⟨before, bad, after, hnumbers, hbefore, hbad, rfl⟩ :=
        (hchecks a).error_iff.mp hbytes
      exact ⟨_, ⟨before, bad, after, hnumbers, hbefore, hbad, rfl⟩, rfl⟩
    · rintro ⟨message, ⟨before, bad, after, hnumbers, hbefore, hbad, rfl⟩, rfl⟩
      exact ⟨bad.error, (hchecks a).error_iff.mpr
        ⟨before, bad, after, hnumbers, hbefore, hbad, rfl⟩, rfl⟩

/-- An area as it is advertised to the callers of the adapter. -/
structure Area where
  name : String
  label : String
  about : String
deriving Repr, DecidableEq

namespace Re202

def areas : List Area :=
  [⟨"system", "System area",
      "Global settings (input, controls, MIDI, reverb type) — 18 bytes"⟩,
    ⟨"memory", "Memory block", "MEMORY MANUAL — the manual-mode patch (33 bytes)"⟩,
    ⟨"edit", "Memory block",
      "Edit-buffer mirror of the currently-active memory (33 bytes)"⟩]

/-- The areas that are advertised are those that have a target. -/
theorem targetFor_eq_none_iff (area : String) :
    targetFor area = none ↔ ∀ a ∈ areas, a.name ≠ area := by
  unfold targetFor
  split <;> simp_all [areas, eq_comm]

/-- The numbers of a document that are checked on the way to the target. -/
def Target.numbers (kit : Kit) : Target → Value → Except String (List CheckedNumber)
  | .system, doc => (kit.systemFromValue doc).map SystemArea.checkedNumbers
  | .memory _, doc => (kit.memoryFromValue doc).map Memory.checkedNumbers

/-- The error of a store that is asked for the System area. -/
def systemStoreError : DeviceError :=
  .encode "`system` has no memory slot to store to (a System write already persists)"

/-- Every refusal of the three operations that send, and nothing else, in the
order in which they are made. -/
theorem refusals (kit : Kit) (area dest : String) (doc : Value) (ch : UInt8)
    (error : DeviceError) :
    (request area ch = .error error ↔
      (∀ a ∈ areas, a.name ≠ area) ∧ error = .unknownArea area) ∧
    (encode kit area doc ch = .error error ↔
      ((∀ a ∈ areas, a.name ≠ area) ∧ error = .unknownArea area) ∨
      ∃ target message, targetFor area = some target ∧
        RefusedWith (target.numbers kit doc) message ∧ error = .encode message) ∧
    (store kit area doc dest ch = some (.error error) ↔
      ((∀ a ∈ areas, a.name ≠ area) ∧ error = .unknownArea area) ∨
      (targetFor area = some .system ∧ error = systemStoreError) ∨
      ∃ address, targetFor area = some (.memory address) ∧
        (parseDest kit dest = .error error ∨
          (∃ slot, parseDest kit dest = .ok slot) ∧ ∃ message,
            RefusedWith ((Target.memory address).numbers kit doc) message ∧
              error = .encode message)) := by
  simp only [← targetFor_eq_none_iff]
  refine ⟨?_, ?_, ?_⟩
  · unfold request
    rcases targetFor area with _ | (_ | address)
    · simp [eq_comm]
    · simp
    · simp
  · unfold encode
    rcases targetFor area with _ | (_ | address)
    · simp [eq_comm]
    · have hwrite := @write_eq_error_iff _ _ (kit.systemFromValue doc) _ _
        SystemArea.toBytes_checks
        (fun bytes => (Frame.dataSet (rolandDeviceId ch) systemBase
          bytes.toList).encode) error
      refine hwrite.trans ?_
      simp [Target.numbers]
    · have hwrite := @write_eq_error_iff _ _ (kit.memoryFromValue doc) _ _
        Memory.toBytes_checks
        (fun bytes => (Frame.dataSet (rolandDeviceId ch) address
          bytes.toList).encode) error
      refine hwrite.trans ?_
      simp [Target.numbers]
  · unfold store
    rw [Option.some.injEq]
    rcases targetFor area with _ | (_ | address)
    · simp [eq_comm]
    · simp [eq_comm, systemStoreError]
    · have hwrite := fun slot : MemorySlot =>
        @write_eq_error_iff _ _ (kit.memoryFromValue doc) _ _ Memory.toBytes_checks
          (fun bytes => (Frame.dataSet (rolandDeviceId ch) slot.baseAddress
            bytes.toList).encode) error
      rcases parseDest kit dest with text | slot
      · simp [Codec.bind_fails_iff]
      · refine (hwrite slot).trans ?_
        simp [Target.numbers]

end Re202

end SpaceEcho
