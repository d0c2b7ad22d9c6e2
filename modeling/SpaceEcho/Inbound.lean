/-
Routing of whatever arrives from the device.  The one arm of the classifier
that would abort is modelled as an error of its own, so that its being dead is
a statement about the decoder and not a convention of the model.
-/
import SpaceEcho.SysEx

namespace SpaceEcho

/-- An abort of the program, with its message. -/
inductive Panic where
  | unreachable (message : String)
deriving Repr, DecidableEq

inductive InboundMessage where
  | systemDataSet (deviceId : UInt8) (address : Address) (data : List UInt8)
  | memoryDataSet (deviceId : UInt8) (address : Address) (data : List UInt8)
  | unknownDataSet (deviceId : UInt8) (address : Address) (data : List UInt8)
  | dataRequest (deviceId : UInt8) (address : Address) (size : List UInt8)
  | unparseableSysEx (bytes : List UInt8) (error : SysExError)
  | nonSysEx (bytes : List UInt8)
deriving Repr, DecidableEq

def classifyInbound (bytes : List UInt8) : Except Panic InboundMessage :=
  let startsSysex := bytes.head? = some sysexStart
  if ¬ startsSysex then .ok (.nonSysEx bytes)
  else
    match Frame.decode bytes with
    | .ok frame =>
        if frame.command = cmdDT1 then
          match AddressSpace.classify frame.address with
          | .system =>
              .ok (.systemDataSet frame.deviceId frame.address frame.data)
          | .memory =>
              .ok (.memoryDataSet frame.deviceId frame.address frame.data)
          | .unknown =>
              .ok (.unknownDataSet frame.deviceId frame.address frame.data)
        else if frame.command = cmdRQ1 then
          .ok (.dataRequest frame.deviceId frame.address frame.data)
        else .error (.unreachable "Frame::decode rejected unknown commands")
    | .error error => .ok (.unparseableSysEx bytes error)

/-- The wire form of a classified message. -/
def InboundMessage.wire : InboundMessage → List UInt8
  | systemDataSet deviceId address data =>
      (Frame.dataSet deviceId address data).encode
  | memoryDataSet deviceId address data =>
      (Frame.dataSet deviceId address data).encode
  | unknownDataSet deviceId address data =>
      (Frame.dataSet deviceId address data).encode
  | dataRequest deviceId address size =>
      Frame.encode ⟨deviceId, cmdRQ1, address, size⟩
  | unparseableSysEx bytes _ => bytes
  | nonSysEx bytes => bytes

theorem head?_of_decode_ok {bytes : List UInt8} {frame : Frame}
    (hdecode : Frame.decode bytes = .ok frame) :
    bytes.head? = some sysexStart := by
  rw [← (Frame.exact.sound hdecode).2]
  rfl

theorem classifyInbound_of_not_sysex {bytes : List UInt8}
    (hstart : bytes.head? ≠ some sysexStart) :
    classifyInbound bytes = .ok (.nonSysEx bytes) := by
  rw [classifyInbound, if_pos hstart]

theorem classifyInbound_of_undecodable {bytes : List UInt8} {error : SysExError}
    (hstart : bytes.head? = some sysexStart)
    (hdecode : Frame.decode bytes = .error error) :
    classifyInbound bytes = .ok (.unparseableSysEx bytes error) := by
  rw [classifyInbound, if_neg (not_not.mpr hstart), hdecode]

theorem classifyInbound_of_dataSet {bytes : List UInt8} {frame : Frame}
    (hdecode : Frame.decode bytes = .ok frame) (hcommand : frame.command = cmdDT1) :
    classifyInbound bytes = .ok
      (match AddressSpace.classify frame.address with
        | .system => .systemDataSet frame.deviceId frame.address frame.data
        | .memory => .memoryDataSet frame.deviceId frame.address frame.data
        | .unknown =>
            .unknownDataSet frame.deviceId frame.address frame.data) := by
  have hstart := head?_of_decode_ok hdecode
  rw [classifyInbound, if_neg (not_not.mpr hstart), hdecode]
  change (if frame.command = cmdDT1 then _ else _) = _
  rw [if_pos hcommand]
  cases AddressSpace.classify frame.address <;> rfl

theorem classifyInbound_of_request {bytes : List UInt8} {frame : Frame}
    (hdecode : Frame.decode bytes = .ok frame) (hcommand : frame.command = cmdRQ1) :
    classifyInbound bytes =
      .ok (.dataRequest frame.deviceId frame.address frame.data) := by
  have hstart := head?_of_decode_ok hdecode
  have hother : ¬ frame.command = cmdDT1 := by
    rw [hcommand]
    decide
  rw [classifyInbound, if_neg (not_not.mpr hstart), hdecode]
  change (if frame.command = cmdDT1 then _ else _) = _
  rw [if_neg hother, if_pos hcommand]

/-- The classifier returns on every input, and the input can be read off what
it returns. -/
theorem classifyInbound_returns (bytes : List UInt8) :
    ∃ message, classifyInbound bytes = .ok message ∧ message.wire = bytes ∧
      ((∃ raw, message = .nonSysEx raw) ↔ bytes.head? ≠ some sysexStart) := by
  by_cases hstart : bytes.head? = some sysexStart
  · rcases hdecode : Frame.decode bytes with error | frame
    · refine ⟨_, classifyInbound_of_undecodable hstart hdecode, rfl, ?_⟩
      simp [hstart]
    · obtain ⟨hvalid, hencode⟩ := Frame.exact.sound hdecode
      rcases hvalid.command with hcommand | hcommand
      · have hdataSet : (Frame.dataSet frame.deviceId frame.address
            frame.data).encode = bytes := by
          rw [← hencode, Frame.dataSet, ← hcommand]
        refine ⟨_, classifyInbound_of_dataSet hdecode hcommand, ?_⟩
        cases AddressSpace.classify frame.address <;>
          exact ⟨hdataSet, by simp [hstart]⟩
      · have hrequest : Frame.encode
            ⟨frame.deviceId, cmdRQ1, frame.address, frame.data⟩ = bytes := by
          rw [← hencode, ← hcommand]
        exact ⟨_, classifyInbound_of_request hdecode hcommand, hrequest,
          by simp [hstart]⟩
  · exact ⟨_, classifyInbound_of_not_sysex hstart, rfl, by simp [hstart]⟩

/-- Classification loses nothing: it never reaches the aborting arm, every
variant carries enough to rebuild the input, and so no two inputs are
classified alike. -/
theorem classifyInbound_lossless :
    (∀ bytes, ∃ message, classifyInbound bytes = .ok message ∧
      message.wire = bytes ∧
      ((∃ raw, message = .nonSysEx raw) ↔ bytes.head? ≠ some 0xF0)) ∧
    ∀ left right, classifyInbound left = classifyInbound right →
      left = right := by
  refine ⟨classifyInbound_returns, ?_⟩
  intro left right heq
  obtain ⟨message, hleft, hwire, _⟩ := classifyInbound_returns left
  obtain ⟨message', hright, hwire', _⟩ := classifyInbound_returns right
  rw [hleft, hright] at heq
  rw [← hwire, ← hwire', Except.ok.inj heq]

/-- A data-set frame is labelled a memory dump by the first byte of its
address alone. -/
theorem classifyInbound_dataSet_memory_iff {deviceId : UInt8}
    (hdevice : 0x10 ≤ deviceId ∧ deviceId ≤ 0x1F) (address : Address)
    {data : List UInt8} (hdata : ∀ b ∈ data, b < 0x80) :
    classifyInbound (Frame.dataSet deviceId address data).encode =
        .ok (.memoryDataSet deviceId address data) ↔
      address.highByte = 0x20 ∨ address.highByte = 0x30 := by
  have hdecode := Frame.exact.complete
    (a := Frame.dataSet deviceId address data) ⟨hdevice, Or.inl rfl, hdata⟩
  rw [classifyInbound_of_dataSet hdecode rfl,
    ← AddressSpace.classify_eq_memory_iff]
  change Except.ok (match AddressSpace.classify address with
    | .system => InboundMessage.systemDataSet deviceId address data
    | .memory => .memoryDataSet deviceId address data
    | .unknown => .unknownDataSet deviceId address data) = _ ↔ _
  cases AddressSpace.classify address <;> simp

/-- The carry has not yet reached the first byte up to slot 6, and has reached
`30` at slot 127. -/
theorem baseAddress_high_known_iff {n : UInt8} {slot : MemorySlot}
    (hslot : MemorySlot.fromIndex n = some slot) :
    (slot.baseAddress.highByte = 0x20 ∨ slot.baseAddress.highByte = 0x30) ↔
      n ≤ 6 ∨ n = 127 := by
  have hindex : slot.index.toNat = n.toNat ∧ n.toNat ≤ 127 := by
    rcases (MemorySlot.fromIndex_eq_some_iff n slot).mp hslot with
      ⟨rfl, rfl⟩ | ⟨_, hle, rfl⟩
    · decide
    · exact ⟨rfl, UInt8.le_iff_toNat_le.mp hle⟩
  have hhigh := slot.baseAddress_high
  have h20 : (0x20 : UInt8).toNat = 0x20 := rfl
  have h30 : (0x30 : UInt8).toNat = 0x30 := rfl
  have h6 : (6 : UInt8).toNat = 6 := rfl
  have h127 : (127 : UInt8).toNat = 127 := rfl
  simp only [← UInt8.toNat_inj, UInt8.le_iff_toNat_le, h20, h30, h6, h127]
  omega

/-- A slot's dump is recognised as a memory dump exactly for MANUAL, slots 1 to
6 and slot 127; the edit buffer's always is. -/
theorem classifyInbound_slot_dump_iff (deviceId : UInt8)
    (hdevice : 0x10 ≤ deviceId ∧ deviceId ≤ 0x1F)
    (data : List UInt8) (hdata : ∀ b ∈ data, b < 0x80) :
    (∀ n slot, MemorySlot.fromIndex n = some slot →
      (classifyInbound (Frame.dataSet deviceId slot.baseAddress data).encode =
          .ok (.memoryDataSet deviceId slot.baseAddress data) ↔
        n ≤ 6 ∨ n = 127)) ∧
    classifyInbound (Frame.dataSet deviceId editBufferBase data).encode =
      .ok (.memoryDataSet deviceId editBufferBase data) := by
  constructor
  · intro n slot hslot
    rw [classifyInbound_dataSet_memory_iff hdevice slot.baseAddress hdata]
    exact baseAddress_high_known_iff hslot
  · rw [classifyInbound_dataSet_memory_iff hdevice editBufferBase hdata]
    exact Or.inl rfl

theorem classifyInbound_slot_dump_six :
    classifyInbound
        (Frame.dataSet 0x10 (MemorySlot.user 6).baseAddress [0x01]).encode =
      .ok (.memoryDataSet 0x10 (MemorySlot.user 6).baseAddress [0x01]) :=
  ((classifyInbound_slot_dump_iff 0x10 (by decide) [0x01] (by simp)).1
    6 (.user 6) rfl).mpr (Or.inl (by decide))

/-- Slot 7 stands at `21 00 00 00`, the first high byte the classifier does not
know. -/
theorem slot_seven_dump_not_recognised :
    ¬ ∀ n slot, MemorySlot.fromIndex n = some slot →
      ∀ deviceId : UInt8, 0x10 ≤ deviceId ∧ deviceId ≤ 0x1F →
      ∀ data : List UInt8, (∀ b ∈ data, b < 0x80) →
        classifyInbound (Frame.dataSet deviceId slot.baseAddress data).encode =
          .ok (.memoryDataSet deviceId slot.baseAddress data) := by
  intro hall
  have hseven := hall 7 (.user 7) rfl 0x10 (by decide) [0x01] (by simp)
  rw [classifyInbound_dataSet_memory_iff (by decide) _ (by simp)] at hseven
  exact absurd hseven (by decide)

end SpaceEcho
