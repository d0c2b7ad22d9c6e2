/-
What the adapter puts on the wire.  The frame encoder checks nothing, so the
7-bit safety of a message is decided by the parts it is put together from: the
device id, the addresses, and the block of the document.
-/
import SpaceEcho.Destination

namespace SpaceEcho

/-- Every byte of the address is a 7-bit digit. -/
def Address.SevenBit (address : Address) : Prop :=
  ∀ b ∈ address.toList, b < 0x80

instance (address : Address) : Decidable address.SevenBit :=
  List.decidableBAll (fun b => b < 0x80) address.toList

/-- The slots that have a block of their own: MANUAL and users `1..=127`. -/
def MemorySlot.Exists : MemorySlot → Prop
  | .manual => True
  | .user n => 1 ≤ n ∧ n ≤ 127

theorem MemorySlot.manual_exists : MemorySlot.manual.Exists := trivial

theorem MemorySlot.Exists.index_le {slot : MemorySlot} (hslot : slot.Exists) :
    slot.index.toNat ≤ 127 := by
  rcases slot with _ | n
  · decide
  · exact UInt8.le_iff_toNat_le.mp hslot.2

/-- The carry keeps both leading bytes of a slot's address 7-bit. -/
theorem MemorySlot.Exists.sevenBit {slot : MemorySlot} (hslot : slot.Exists) :
    slot.baseAddress.SevenBit := by
  have hindex := hslot.index_le
  have hhigh := slot.baseAddress_high
  have hlow := slot.baseAddress_low
  have hfirst : slot.baseAddress.highByte < 0x80 := by
    rw [UInt8.lt_iff_toNat_lt, hhigh]
    change _ < 128
    omega
  have hsecond : slot.baseAddress[1] < 0x80 := by
    rw [UInt8.lt_iff_toNat_lt, hlow]
    change _ < 128
    omega
  have hthird : slot.baseAddress[2] = 0 := rfl
  have hfourth : slot.baseAddress[3] = 0 := rfl
  rw [Address.SevenBit, Block.toList_eq_ofFn]
  rw [Address.highByte] at hfirst
  simp [List.ofFn_succ, hfirst, hsecond, hthird, hfourth]

namespace Re202

theorem rolandDeviceId_range {ch : UInt8} (hch : ch ≤ 15) :
    0x10 ≤ rolandDeviceId ch ∧ rolandDeviceId ch ≤ 0x1F := by
  have hle : ch.toNat ≤ 15 := UInt8.le_iff_toNat_le.mp hch
  have hid : (rolandDeviceId ch).toNat = 16 + ch.toNat := by
    simp [rolandDeviceId]
    omega
  constructor
  · rw [UInt8.le_iff_toNat_le, hid]
    exact Nat.le_add_right 16 _
  · rw [UInt8.le_iff_toNat_le, hid]
    change _ ≤ 31
    omega

theorem sizeField_lt (n : ℕ) : ∀ b ∈ (sizeField n).toList, b < 0x80 := by
  have hdigit : ∀ v : UInt32, (v &&& 0x7F).toUInt8 < 0x80 := by
    intro v
    rw [UInt8.lt_iff_toNat_lt, toNat_low7]
    exact Nat.mod_lt _ (by decide)
  intro b hb
  simp only [sizeField, Vector.toList_mk, List.mem_cons, List.not_mem_nil,
    or_false] at hb
  rcases hb with rfl | rfl | rfl | rfl <;> exact hdigit _

theorem Target.base_sevenBit {area : String} {target : Target}
    (htarget : targetFor area = some target) : target.base.SevenBit := by
  rcases (targetFor_eq_some_iff area target).mp htarget with
    ⟨_, rfl⟩ | ⟨_, rfl⟩ | ⟨_, rfl⟩
  · decide
  · decide
  · decide

theorem parseDest_exists {kit : Kit} {dest : String} {slot : MemorySlot}
    (hdest : parseDest kit dest = .ok slot) : slot.Exists := by
  rcases (parseDest_eq_ok_iff dest slot).mp hdest with
    ⟨rfl, _⟩ | ⟨n, rfl, _, hlow, hhigh⟩
  · trivial
  · exact ⟨UInt8.le_iff_toNat_le.mpr hlow, UInt8.le_iff_toNat_le.mpr hhigh⟩

/-- A data set of 7-bit bytes to a 7-bit address, from one of the sixteen
channels, is safe on the wire and accepted by the decoder. -/
theorem dataSet_safe {ch : UInt8} (hch : ch ≤ 15) {address : Address}
    (haddress : address.SevenBit) {data : List UInt8}
    (hdata : ∀ b ∈ data, b < 0x80) :
    WireSafe (Frame.dataSet (rolandDeviceId ch) address data).encode ∧
      Frame.decode (Frame.dataSet (rolandDeviceId ch) address data).encode =
        .ok (Frame.dataSet (rolandDeviceId ch) address data) := by
  have hvalid : (Frame.dataSet (rolandDeviceId ch) address data).Valid :=
    ⟨rolandDeviceId_range hch, Or.inl rfl, hdata⟩
  exact ⟨Frame.wireSafe_encode hvalid haddress, Frame.exact.complete hvalid⟩

theorem request_safe {area : String} {ch : UInt8} (hch : ch ≤ 15)
    {bytes : List UInt8} (hrequest : request area ch = .ok bytes) :
    WireSafe bytes ∧ ∃ f, Frame.decode bytes = .ok f := by
  obtain ⟨target, htarget, rfl⟩ := request_eq_ok_iff.mp hrequest
  have hvalid : (Frame.dataRequest (rolandDeviceId ch) target.base
      (sizeField target.length)).Valid :=
    ⟨rolandDeviceId_range hch, Or.inr rfl, sizeField_lt _⟩
  exact ⟨Frame.wireSafe_encode hvalid (Target.base_sevenBit htarget),
    _, Frame.exact.complete hvalid⟩

/-- A memory block is always safe, at whatever address it goes to. -/
theorem Target.Encodes.memory_lt {kit : Kit} {address : Address} {doc : Value}
    {data : List UInt8} (hencodes : (Target.memory address).Encodes kit doc data) :
    ∀ b ∈ data, b < 0x80 := by
  obtain ⟨m, _, hrange, rfl⟩ := hencodes
  exact Memory.block_lt hrange.ranges

theorem store_safe {kit : Kit} {area dest : String} {doc : Value} {ch : UInt8}
    (hch : ch ≤ 15) {bytes : List UInt8}
    (hstore : store kit area doc dest ch = some (.ok bytes)) :
    WireSafe bytes ∧ ∃ f, Frame.decode bytes = .ok f := by
  obtain ⟨address, slot, data, _, hdest, hencodes, rfl⟩ :=
    store_eq_ok_iff.mp hstore
  have hsafe := dataSet_safe hch (parseDest_exists hdest).sevenBit
    hencodes.memory_lt
  exact ⟨hsafe.1, _, hsafe.2⟩

/-- The document carries a channel number that is not 7-bit, in a System value
the encoder accepts. -/
def OutOfBandChannel (kit : Kit) (doc : Value) : Prop :=
  ∃ s, kit.systemFromValue doc = .ok s ∧
    (1 ≤ s.memoryExtent ∧ s.memoryExtent ≤ 4) ∧
    ∃ n : UInt8, 0x80 ≤ n ∧
      (s.midi.rxChannel = .channel n ∨ s.midi.txChannel = .channel n)

theorem outOfBandChannel_iff {kit : Kit} {doc : Value} :
    OutOfBandChannel kit doc ↔
      ∃ data, Target.system.Encodes kit doc data ∧ ¬ ∀ b ∈ data, b < 0x80 := by
  have hbytes : ∀ s : SystemArea, s.memoryExtent ≤ 4 →
      ((¬ ∀ b ∈ s.block.toList, b < 0x80) ↔ ∃ n : UInt8, 0x80 ≤ n ∧
        (s.midi.rxChannel = .channel n ∨ s.midi.txChannel = .channel n)) := by
    intro s hextent
    rw [SystemArea.block_lt_iff hextent, Classical.not_and_iff_not_or_not,
      MidiChannel.toByte_high_iff, TxChannel.toByte_high_iff]
    simp only [← exists_or, ← and_or_left]
  constructor
  · intro hchannels
    obtain ⟨s, hread, hextent, hchannel⟩ := hchannels
    exact ⟨_, ⟨s, hread, hextent, rfl⟩, (hbytes s hextent.2).mpr hchannel⟩
  · intro hhigh
    obtain ⟨_, ⟨s, hread, hextent, rfl⟩, hdata⟩ := hhigh
    exact ⟨s, hread, hextent, (hbytes s hextent.2).mp hdata⟩

theorem encode_safe_iff {kit : Kit} {area : String} {doc : Value} {ch : UInt8}
    (hch : ch ≤ 15) :
    (∀ bytes, encode kit area doc ch = .ok bytes →
      WireSafe bytes ∧ ∃ f, Frame.decode bytes = .ok f) ↔
      ¬ (area = "system" ∧ OutOfBandChannel kit doc) := by
  constructor
  · rintro hsafe ⟨rfl, hchannel⟩
    obtain ⟨data, hencodes, hdata⟩ := outOfBandChannel_iff.mp hchannel
    have htarget := (targetFor_eq_system_iff "system").mpr rfl
    have hencode : encode kit "system" doc ch =
        .ok (Frame.dataSet (rolandDeviceId ch) systemBase data).encode :=
      (encode_eq_ok_iff_of_target htarget).mpr ⟨data, hencodes, rfl⟩
    have hwire := (Frame.wireSafe_encode_iff _).mp (hsafe _ hencode).1
    exact hdata hwire.2.2.2
  · intro hchannel bytes hencode
    obtain ⟨target, data, htarget, hencodes, rfl⟩ :=
      encode_eq_ok_iff.mp hencode
    have hdata : ∀ b ∈ data, b < 0x80 := by
      rcases target with _ | address
      · by_contra hhigh
        exact hchannel ⟨(targetFor_eq_system_iff area).mp htarget,
          outOfBandChannel_iff.mpr ⟨data, hencodes, hhigh⟩⟩
      · exact hencodes.memory_lt
    have hsafe := dataSet_safe hch (Target.base_sevenBit htarget) hdata
    exact ⟨hsafe.1, _, hsafe.2⟩

/-- The adapter emits `bytes`, by any of its three ways of emitting. -/
def Emits (kit : Kit) (area : String) (doc : Value) (dest : String) (ch : UInt8)
    (bytes : List UInt8) : Prop :=
  request area ch = .ok bytes ∨ encode kit area doc ch = .ok bytes ∨
    store kit area doc dest ch = some (.ok bytes)

/-- Everything the adapter emits for these arguments is one well-formed SysEx
message exactly when no out-of-band channel number reaches the System block. -/
theorem emits_wellFormed_iff (kit : Kit) (area : String) (doc : Value)
    (dest : String) (ch : UInt8) (hch : ch ≤ 15) :
    (∀ bytes, Emits kit area doc dest ch bytes →
      WireSafe bytes ∧ ∃ f, Frame.decode bytes = .ok f) ↔
      ¬ (area = "system" ∧ OutOfBandChannel kit doc) := by
  constructor
  · intro hsafe
    apply (encode_safe_iff hch).mp
    intro bytes hencode
    exact hsafe bytes (Or.inr (Or.inl hencode))
  · intro hchannel bytes hemits
    rcases hemits with hrequest | hencode | hstore
    · exact request_safe hch hrequest
    · exact (encode_safe_iff hch).mpr hchannel bytes hencode
    · exact store_safe hch hstore

/-- A captured System document with one channel changed. -/
def channelDocument (rx : MidiChannel) : Value :=
  Serde.systemArea.toValue
    { SystemArea.captured with
      midi := { SystemArea.captured.midi with rxChannel := rx } }

theorem channelDocument_read (rx : MidiChannel) :
    Kit.reference.systemFromValue (channelDocument rx) =
      .ok { SystemArea.captured with
        midi := { SystemArea.captured.midi with rxChannel := rx } } :=
  Serde.systemArea.fromValue_toValue _

theorem exists_encode_channelDocument (rx : MidiChannel) :
    ∃ bytes, encode Kit.reference "system" (channelDocument rx) 0 =
      .ok bytes := by
  have hextent : 1 ≤ SystemArea.captured.memoryExtent ∧
      SystemArea.captured.memoryExtent ≤ 4 := by decide
  have htarget := (targetFor_eq_system_iff "system").mpr rfl
  exact ⟨_, (encode_eq_ok_iff_of_target htarget).mpr
    ⟨_, ⟨_, channelDocument_read rx, hextent, rfl⟩, rfl⟩⟩

/-- A 7-bit channel number breaks no message. -/
theorem channelDocument_inBand {rx : MidiChannel}
    (hrx : ∀ n, rx = .channel n → n < 0x80) :
    ¬ OutOfBandChannel Kit.reference (channelDocument rx) := by
  rintro ⟨s, hread, _, n, hn, hchannel⟩
  rw [channelDocument_read, Except.ok.injEq] at hread
  subst hread
  rcases hchannel with hsame | htx
  · exact absurd hn (UInt8.not_le.mpr (hrx n hsame))
  · cases htx

theorem emits_wellFormed_channel_sixteen :
    ∃ bytes, encode Kit.reference "system" (channelDocument (.channel 16)) 0 =
        .ok bytes ∧
      WireSafe bytes ∧ ∃ f, Frame.decode bytes = .ok f := by
  have hband : ¬ OutOfBandChannel Kit.reference (channelDocument (.channel 16)) := by
    apply channelDocument_inBand
    rintro n ⟨⟩
    decide
  have hsafe := (emits_wellFormed_iff Kit.reference "system"
    (channelDocument (.channel 16)) "1" 0 (by decide)).mpr fun h => hband h.2
  obtain ⟨bytes, hencode⟩ := exists_encode_channelDocument (.channel 16)
  exact ⟨bytes, hencode, hsafe bytes (Or.inr (Or.inl hencode))⟩

/-- Rx channel `F7` puts an end byte inside the message. -/
theorem channel_247_breaks_framing :
    ¬ ∀ (kit : Kit) (area : String) (doc : Value) (dest : String) (ch : UInt8),
      ch ≤ 15 → ∀ bytes, Emits kit area doc dest ch bytes →
        WireSafe bytes ∧ ∃ f, Frame.decode bytes = .ok f := by
  intro hall
  have hsafe : ∀ bytes, encode Kit.reference "system"
      (channelDocument (.channel 0xF7)) 0 = .ok bytes →
        WireSafe bytes ∧ ∃ f, Frame.decode bytes = .ok f := by
    intro bytes hencode
    exact hall Kit.reference "system" _ "1" 0 (by decide) bytes
      (Or.inr (Or.inl hencode))
  apply (encode_safe_iff (by decide)).mp hsafe
  exact ⟨rfl, _, channelDocument_read _, by decide, 0xF7, by decide,
    Or.inl rfl⟩

end Re202

end SpaceEcho
