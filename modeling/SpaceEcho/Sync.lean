/-
Dumping and syncing.  Which block of a dump a decode reads, and how decode and
encode fit together: what is synced reads back, and what was dumped can be
synced unless its tap time is one the encoder refuses.
-/
import SpaceEcho.Emission
import SpaceEcho.Offsets

namespace SpaceEcho.Re202

/-- The message is a DT1 frame at exactly this address. -/
def isBlockAt (base : Address) (message : List UInt8) : Bool :=
  (Frame.decode message).toOption.any fun f =>
    decide (f.command = cmdDT1 ∧ f.address = base)

section Search

variable {kit : Kit}

theorem isBlockAt_iff {base : Address} {message : List UInt8} :
    isBlockAt base message = true ↔
      ∃ f, Frame.decode message = .ok f ∧
        (f.command = cmdDT1 ∧ f.address = base) := by
  unfold isBlockAt
  rcases hdecode : Frame.decode message with error | f
  · simp [Except.toOption]
  · simp [Except.toOption]

theorem isBlockAt_dataSet {deviceId : UInt8}
    (hdevice : 0x10 ≤ deviceId ∧ deviceId ≤ 0x1F) (address base : Address)
    {data : List UInt8} (hdata : ∀ b ∈ data, b < 0x80) :
    isBlockAt base (Frame.dataSet deviceId address data).encode =
      decide (address = base) := by
  have hdecode : Frame.decode (Frame.dataSet deviceId address data).encode =
      .ok (Frame.dataSet deviceId address data) :=
    Frame.exact.complete ⟨hdevice, Or.inl rfl, hdata⟩
  rw [isBlockAt, hdecode]
  simp [Except.toOption, Frame.dataSet]

/-- The search finds the frame of the first message that is a block at the
address; all other messages are passed over. -/
theorem firstBlockData_eq (dump : List UInt8) (base : Address) :
    firstBlockData kit dump base =
      match ((kit.splitSysex dump).filter (isBlockAt base)).head?.bind
          fun message => (Frame.decode message).toOption with
      | some f => .ok f.data
      | none => .error (missingFrame base) := by
  simp only [firstBlockData, List.find?_filterMap, List.head?_filter]
  rfl

theorem firstBlockData_congr {left right : List UInt8} {base : Address}
    (hhead : ((kit.splitSysex left).filter (isBlockAt base)).head? =
      ((kit.splitSysex right).filter (isBlockAt base)).head?) :
    firstBlockData kit left base = firstBlockData kit right base := by
  rw [firstBlockData_eq, firstBlockData_eq, hhead]

theorem firstBlockData_of_none {dump : List UInt8} {base : Address}
    (hnone : (kit.splitSysex dump).filter (isBlockAt base) = []) :
    firstBlockData kit dump base = .error (missingFrame base) := by
  rw [firstBlockData_eq, hnone]
  rfl

theorem exists_firstBlockData {dump : List UInt8} {base : Address}
    (hsome : (kit.splitSysex dump).filter (isBlockAt base) ≠ []) :
    ∃ data, firstBlockData kit dump base = .ok data := by
  obtain ⟨message, rest, hfilter⟩ := List.exists_cons_of_ne_nil hsome
  have hmem : message ∈ (kit.splitSysex dump).filter (isBlockAt base) := by
    rw [hfilter]
    exact List.mem_cons_self
  obtain ⟨f, hdecode, _⟩ := isBlockAt_iff.mp (List.mem_filter.mp hmem).2
  rw [firstBlockData_eq, hfilter]
  exact ⟨f.data, by simp [hdecode, Except.toOption]⟩

/-- The dump that is one data set holds that block and no other. -/
theorem firstBlockData_dataSet (hsplit : kit.SplitsComplete) {ch : UInt8}
    (hch : ch ≤ 15) {address : Address} (haddress : address.SevenBit)
    {data : List UInt8} (hdata : ∀ b ∈ data, b < 0x80) (base : Address) :
    firstBlockData kit (Frame.dataSet (rolandDeviceId ch) address data).encode
        base =
      if address = base then .ok data else .error (missingFrame base) := by
  obtain ⟨hsafe, hdecode⟩ := dataSet_safe hch haddress hdata
  have hmessages := hsplit.single hsafe.complete
  have hblock := isBlockAt_dataSet (rolandDeviceId_range hch) address base hdata
  rw [firstBlockData_eq, hmessages]
  by_cases hbase : address = base
  · rw [decide_eq_true hbase] at hblock
    rw [if_pos hbase, List.filter_cons_of_pos hblock, List.head?_cons,
      Option.bind_some, hdecode]
    rfl
  · rw [decide_eq_false hbase] at hblock
    rw [if_neg hbase, List.filter_cons_of_neg (by simp [hblock])]
    rfl

end Search

section MissingFrame

variable {kit : Kit}

theorem getLast?_append_string (front back : String) {c : Char}
    (hback : back.toList.getLast? = some c) :
    (front ++ back).toList.getLast? = some c := by
  rw [String.toList_append, List.getLast?_append, hback]
  rfl

/-- No error of a block codec reads like the missing-frame error. -/
theorem display_ne_missingFrame {error : CodecError} (hblock : error.OfBlock)
    (base : Address) :
    DeviceError.decode error.display ≠ missingFrame base := by
  intro heq
  have htext : error.display =
      "no data-set frame at " ++ addressDebug base ++ " in dump" :=
    DeviceError.decode.inj heq
  have hp : ("no data-set frame at " ++ addressDebug base ++
      " in dump").toList.getLast? = some 'p' := getLast?_append_string _ _ rfl
  rcases error with ⟨expected, actual⟩ | ⟨field, value, valid⟩ |
    ⟨field, value, valid⟩ | message
  · have hfirst := congrArg (fun s => s.toList.head?) htext
    simp [CodecError.display] at hfirst
  · rw [← htext, CodecError.display, getLast?_append_string _ _ rfl] at hp
    exact absurd hp (by decide)
  · rw [← htext, CodecError.display, getLast?_append_string _ _ rfl] at hp
    exact absurd hp (by decide)
  · exact hblock

/-- Reading a block that was found never fails with the missing-frame error. -/
theorem Target.read_ne_missingFrame (hserde : kit.SerdeRoundTrips)
    (target : Target) (data : List UInt8) (base : Address) :
    target.read kit data ≠ .error (missingFrame base) := by
  intro heq
  rcases target with _ | address
  · rcases hread : SystemArea.fromBytes data with error | s
    · simp only [Target.read, hread] at heq
      exact display_ne_missingFrame
        (SystemArea.fromBytes_failsOnly data error hread) base
        (Except.error.inj heq)
    · obtain ⟨v, hwrite, _⟩ := hserde.system s
      simp only [Target.read, hread] at heq
      change (kit.systemToValue s).mapError DeviceError.decode = _ at heq
      rw [hwrite] at heq
      cases heq
  · rcases hread : Memory.fromBytes data with error | m
    · simp only [Target.read, hread] at heq
      exact display_ne_missingFrame
        (Memory.fromBytes_failsOnly data error hread) base
        (Except.error.inj heq)
    · obtain ⟨v, hwrite, _⟩ := hserde.memory m
      simp only [Target.read, hread] at heq
      change (kit.memoryToValue m).mapError DeviceError.decode = _ at heq
      rw [hwrite] at heq
      cases heq

end MissingFrame

section Traffic

/-- A dump of MANUAL with this value in it. -/
def memoryDump (m : Memory) : List UInt8 :=
  (Frame.dataSet (rolandDeviceId 0) memoryManualBase m.block.toList).encode

def memoryDocument (m : Memory) : Value := Serde.memory.toValue m

theorem memoryDump_safe {m : Memory} (hranges : m.RangesValid) :
    WireSafe (memoryDump m) :=
  (dataSet_safe (by decide) (by decide) (Memory.block_lt hranges)).1

theorem firstBlockData_memoryDump {m : Memory} (hranges : m.RangesValid) :
    firstBlockData Kit.reference (memoryDump m) memoryManualBase =
      .ok m.block.toList :=
  (firstBlockData_dataSet Kit.reference_splitsComplete (by decide) (by decide)
    (Memory.block_lt hranges) memoryManualBase).trans (if_pos rfl)

theorem decode_memoryDump {m : Memory} (hranges : m.RangesValid) :
    decode Kit.reference "memory" (memoryDump m) = .ok (memoryDocument m) :=
  (decode_eq_ok_iff targetFor_memory).mpr
    ⟨_, firstBlockData_memoryDump hranges, m, Memory.exact.complete hranges, rfl⟩

theorem memoryDocument_read (m : Memory) :
    Kit.reference.memoryFromValue (memoryDocument m) = .ok m :=
  Serde.memory.fromValue_toValue m

variable (kit : Kit)

/-- Decoding a dump is immune to unrelated traffic: of the messages in it only
the first block at the area's address counts, and the missing-frame error says
that there is none. -/
theorem decode_ignores_unrelated_traffic (hsplit : kit.SplitsComplete)
    {area : String} {target : Target} (htarget : targetFor area = some target)
    {left right : List (List UInt8)} (hleft : ∀ m ∈ left, CompleteSysEx m)
    (hright : ∀ m ∈ right, CompleteSysEx m) :
    ((left.filter (isBlockAt target.base)).head? =
        (right.filter (isBlockAt target.base)).head? →
      decode kit area left.flatten = decode kit area right.flatten) ∧
    (left.filter (isBlockAt target.base) = [] →
      decode kit area left.flatten = .error (missingFrame target.base)) ∧
    (kit.SerdeRoundTrips →
      decode kit area left.flatten = .error (missingFrame target.base) →
      left.filter (isBlockAt target.base) = []) := by
  have hsplitLeft := hsplit left hleft
  have hsplitRight := hsplit right hright
  refine ⟨?_, ?_, ?_⟩
  · intro hhead
    apply decode_congr htarget
    apply firstBlockData_congr
    rw [hsplitLeft, hsplitRight, hhead]
  · intro hnone
    apply decode_of_no_block htarget
    apply firstBlockData_of_none
    rw [hsplitLeft, hnone]
  · intro hserde hmissing
    by_contra hsome
    rw [← hsplitLeft] at hsome
    obtain ⟨data, hfound⟩ := exists_firstBlockData hsome
    rw [decode_eq_search_then_read htarget, hfound] at hmissing
    exact target.read_ne_missingFrame hserde data target.base hmissing

/-- MIDI Thru returns the request ahead of its answer. -/
theorem decode_ignores_request_echo :
    decode Kit.reference "memory"
        [(Frame.dataRequest 0x10 memoryManualBase (sizeField 33)).encode,
          memoryDump Memory.captured].flatten =
      decode Kit.reference "memory" [memoryDump Memory.captured].flatten := by
  have hdump := memoryDump_safe Memory.captured_inRange.ranges
  have hecho : WireSafe
      (Frame.dataRequest 0x10 memoryManualBase (sizeField 33)).encode :=
    Frame.wireSafe_encode ⟨by decide, Or.inr rfl, sizeField_lt 33⟩
      (Target.base_sevenBit targetFor_memory)
  refine (decode_ignores_unrelated_traffic Kit.reference
    Kit.reference_splitsComplete targetFor_memory ?_ ?_).1 (by decide)
  · intro m hm
    simp only [List.mem_cons, List.not_mem_nil, or_false] at hm
    rcases hm with rfl | rfl
    · exact hecho.complete
    · exact hdump.complete
  · intro m hm
    rw [List.mem_singleton.mp hm]
    exact hdump.complete

end Traffic

section RoundTrip

variable {kit : Kit}

theorem targetFor_memory_or_edit {area : String}
    (harea : area = "memory" ∨ area = "edit") :
    ∃ address, targetFor area = some (.memory address) ∧ address.SevenBit := by
  rcases harea with rfl | rfl
  · exact ⟨_, rfl, by decide⟩
  · exact ⟨_, rfl, by decide⟩

/-- Distinct areas have distinct base addresses. -/
theorem base_ne_of_area_ne {area other : String} {target otherTarget : Target}
    (htarget : targetFor area = some target)
    (hother : targetFor other = some otherTarget) (hne : other ≠ area) :
    target.base ≠ otherTarget.base := by
  rcases (targetFor_eq_some_iff area target).mp htarget with
    ⟨rfl, rfl⟩ | ⟨rfl, rfl⟩ | ⟨rfl, rfl⟩ <;>
  rcases (targetFor_eq_some_iff other otherTarget).mp hother with
    ⟨rfl, rfl⟩ | ⟨rfl, rfl⟩ | ⟨rfl, rfl⟩ <;>
  first
    | exact absurd rfl hne
    | decide

/-- A memory document syncs exactly when its value is in range, and then the
message reads back as that value, in its own area and in no other. -/
theorem encode_reads_back (hsplit : kit.SplitsComplete)
    (hserde : kit.SerdeRoundTrips) {area : String}
    (harea : area = "memory" ∨ area = "edit") (doc : Value) {ch : UInt8}
    (hch : ch ≤ 15) :
    ((∃ bytes, encode kit area doc ch = .ok bytes) ↔
      ∃ m, kit.memoryFromValue doc = .ok m ∧ m.InRange) ∧
    ∀ bytes m, encode kit area doc ch = .ok bytes →
      kit.memoryFromValue doc = .ok m →
      (∃ v, kit.memoryToValue m = .ok v ∧ decode kit area bytes = .ok v) ∧
      ∀ other ∈ ["system", "memory", "edit"], other ≠ area →
        ∃ message, decode kit other bytes = .error (.decode message) := by
  obtain ⟨address, htarget, haddress⟩ := targetFor_memory_or_edit harea
  constructor
  · constructor
    · intro hencodes
      obtain ⟨bytes, hencode⟩ := hencodes
      obtain ⟨data, ⟨m, hread, hrange, _⟩, _⟩ :=
        (encode_eq_ok_iff_of_target htarget).mp hencode
      exact ⟨m, hread, hrange⟩
    · intro hvalue
      obtain ⟨m, hread, hrange⟩ := hvalue
      exact ⟨_, (encode_eq_ok_iff_of_target htarget).mpr
        ⟨_, ⟨m, hread, hrange, rfl⟩, rfl⟩⟩
  · intro bytes m hencode hread
    obtain ⟨data, ⟨m', hread', hrange, rfl⟩, rfl⟩ :=
      (encode_eq_ok_iff_of_target htarget).mp hencode
    rw [hread, Except.ok.injEq] at hread'
    subst hread'
    have hblock := firstBlockData_dataSet hsplit hch haddress
      (Memory.block_lt hrange.ranges)
    constructor
    · obtain ⟨v, hwrite, _⟩ := hserde.memory m
      refine ⟨v, hwrite, (decode_eq_ok_iff htarget).mpr
        ⟨m.block.toList, ?_, m, Memory.exact.complete hrange.ranges, hwrite⟩⟩
      exact (hblock address).trans (if_pos rfl)
    · intro other hmem hne
      have hknown : ∃ target, targetFor other = some target := by
        simp only [List.mem_cons, List.not_mem_nil, or_false] at hmem
        rcases hmem with rfl | rfl | rfl <;> exact ⟨_, rfl⟩
      obtain ⟨otherTarget, hother⟩ := hknown
      have hbase := base_ne_of_area_ne htarget hother hne
      exact ⟨_, decode_of_no_block hother
        ((hblock otherTarget.base).trans (if_neg hbase))⟩

theorem encode_reads_back_captured :
    ∃ bytes, encode Kit.reference "edit" (memoryDocument Memory.captured) 3 =
        .ok bytes ∧
      decode Kit.reference "edit" bytes =
        .ok (memoryDocument Memory.captured) := by
  have hch : (3 : UInt8) ≤ 15 := by decide
  have hback := encode_reads_back Kit.reference_splitsComplete
    Kit.reference_serdeRoundTrips (Or.inr rfl)
    (memoryDocument Memory.captured) hch
  obtain ⟨bytes, hencode⟩ := hback.1.mpr
    ⟨_, memoryDocument_read _, Memory.captured_inRange⟩
  obtain ⟨⟨v, hwrite, hdecode⟩, _⟩ :=
    hback.2 bytes _ hencode (memoryDocument_read _)
  cases hwrite
  exact ⟨bytes, hencode, hdecode⟩

/-- A decoded System document is one the encoder takes back to the same
block. -/
theorem Target.Decodes.system_encodes (hserde : kit.SerdeRoundTrips)
    {data : List UInt8} {doc : Value}
    (hdecodes : Target.system.Decodes kit data doc) :
    Target.system.Encodes kit doc data ∧ ∀ b ∈ data, b < 0x80 := by
  obtain ⟨s, hread, hwrite⟩ := hdecodes
  obtain ⟨hwell, hblock⟩ := SystemArea.exact.sound hread
  obtain ⟨v, hwrite', hback⟩ := hserde.system s
  rw [hwrite, Except.ok.injEq] at hwrite'
  subst hwrite'
  subst hblock
  exact ⟨⟨s, hback, hwell.memoryExtent, rfl⟩, hwell.block_lt⟩

/-- A decoded memory document is taken back by the encoder exactly when the
nibbles of its block spell at most 2000. -/
theorem Target.Decodes.memory_encodes_iff (hserde : kit.SerdeRoundTrips)
    {address : Address} {data : List UInt8} {doc : Value}
    (hdecodes : (Target.memory address).Decodes kit data doc) :
    ((Target.memory address).Encodes kit doc data ↔
      blockTapTime data ≤ 2000) ∧
    ∀ data', (Target.memory address).Encodes kit doc data' → data' = data := by
  obtain ⟨m, hread, hwrite⟩ := hdecodes
  obtain ⟨hranges, hblock⟩ := Memory.exact.sound hread
  obtain ⟨v, hwrite', hback⟩ := hserde.memory m
  rw [hwrite, Except.ok.injEq] at hwrite'
  subst hwrite'
  subst hblock
  have htap : blockTapTime (m.block.toList) ≤ 2000 ↔ m.tapTimeMs ≤ 2000 := by
    rw [Memory.blockTapTime_block, UInt16.le_iff_toNat_le]
    rfl
  have hvalue : ∀ m', kit.memoryFromValue doc = .ok m' → m' = m := by
    intro m' hread'
    rw [hback, Except.ok.injEq] at hread'
    exact hread'.symm
  constructor
  · rw [Function.comp_apply, htap]
    constructor
    · intro hencodes
      obtain ⟨m', hread', hrange, _⟩ := hencodes
      rw [← hvalue m' hread']
      exact hrange.tapTimeMs
    · intro hle
      exact ⟨m, hback, ⟨hranges, hle⟩, rfl⟩
  · rintro data' ⟨m', hread', _, rfl⟩
    rw [hvalue m' hread']
    rfl

/-- A decoded document syncs back to the very block it was read from, except
when it is a memory block whose tap time the encoder refuses. -/
theorem decode_then_encode_iff (hserde : kit.SerdeRoundTrips) {area : String}
    {target : Target} (htarget : targetFor area = some target) {ch : UInt8}
    (hch : ch ≤ 15) {dump data : List UInt8} {doc : Value}
    (hblock : firstBlockData kit dump target.base = .ok data)
    (hdecode : decode kit area dump = .ok doc) :
    (∃ bytes, encode kit area doc ch = .ok bytes ∧
      Frame.decode bytes =
        .ok (Frame.dataSet (rolandDeviceId ch) target.base data)) ↔
      area = "system" ∨ blockTapTime data ≤ 2000 := by
  obtain ⟨data', hblock', hdecodes⟩ := (decode_eq_ok_iff htarget).mp hdecode
  rw [hblock, Except.ok.injEq] at hblock'
  subst hblock'
  have hsynced : target.Encodes kit doc data → (∀ b ∈ data, b < 0x80) →
      ∃ bytes, encode kit area doc ch = .ok bytes ∧
        Frame.decode bytes =
          .ok (Frame.dataSet (rolandDeviceId ch) target.base data) := by
    intro hencodes hdata
    exact ⟨_, (encode_eq_ok_iff_of_target htarget).mpr ⟨data, hencodes, rfl⟩,
      (dataSet_safe hch (Target.base_sevenBit htarget) hdata).2⟩
  rcases target with _ | address
  · have harea := (targetFor_eq_system_iff area).mp htarget
    obtain ⟨hencodes, hdata⟩ := hdecodes.system_encodes hserde
    exact ⟨fun _ => Or.inl harea, fun _ => hsynced hencodes hdata⟩
  · obtain ⟨htap, honly⟩ := hdecodes.memory_encodes_iff hserde
    constructor
    · intro hsynced
      obtain ⟨bytes, hencode, _⟩ := hsynced
      obtain ⟨data', hencodes, _⟩ :=
        (encode_eq_ok_iff_of_target htarget).mp hencode
      have hdata := honly data' hencodes
      subst hdata
      exact Or.inr (htap.mp hencodes)
    · rintro (harea | hle)
      · rw [(targetFor_eq_system_iff area).mpr harea] at htarget
        cases htarget
      · have hencodes := htap.mpr hle
        exact hsynced hencodes hencodes.memory_lt

theorem decode_then_encode_captured :
    ∃ bytes, encode Kit.reference "memory" (memoryDocument Memory.captured) 5 =
        .ok bytes ∧
      Frame.decode bytes = .ok (Frame.dataSet (rolandDeviceId 5)
        memoryManualBase Memory.captured.block.toList) :=
  (decode_then_encode_iff Kit.reference_serdeRoundTrips targetFor_memory
    (by decide) (firstBlockData_memoryDump Memory.captured_inRange.ranges)
    (decode_memoryDump Memory.captured_inRange.ranges)).mpr
      (Or.inr (by decide))

/-- Four nibbles `0F` spell 65535: the block is read, but its document is
refused on the way back. -/
theorem tap_time_65535_is_refused :
    ¬ ∀ kit : Kit, kit.SplitsComplete → kit.SerdeRoundTrips →
      ∀ area target, targetFor area = some target → ∀ ch : UInt8, ch ≤ 15 →
      ∀ dump data doc, firstBlockData kit dump target.base = .ok data →
        decode kit area dump = .ok doc →
        ∃ bytes, encode kit area doc ch = .ok bytes ∧
          Frame.decode bytes =
            .ok (Frame.dataSet (rolandDeviceId ch) target.base data) := by
  intro hall
  let m : Memory := { Memory.captured with tapTimeMs := 0xFFFF }
  have hranges : m.RangesValid := by
    have h := Memory.captured_inRange.ranges
    exact ⟨h.repeatRate, h.intensity, h.echoVolume, h.bass, h.treble,
      h.reverbVolume, h.saturation, h.wowFlutter⟩
  obtain ⟨bytes, hencode, _⟩ := hall Kit.reference
    Kit.reference_splitsComplete Kit.reference_serdeRoundTrips "memory" _
    targetFor_memory 0 (by decide) (memoryDump m) _ _
    (firstBlockData_memoryDump hranges) (decode_memoryDump hranges)
  obtain ⟨data, ⟨m', hread, hrange, _⟩, _⟩ :=
    (encode_eq_ok_iff_of_target targetFor_memory).mp hencode
  rw [memoryDocument_read, Except.ok.injEq] at hread
  subst hread
  exact absurd hrange.tapTimeMs (by decide)

end RoundTrip

end SpaceEcho.Re202
