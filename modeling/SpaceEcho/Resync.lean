/-
Syncing the settings.  The System encoder checks no channel number, so a document
can say what the block does not: channel 0 is written as the code of `off`, Tx
channel 17 as that of `rx`, and the numbers above have no code.  What a synced
document reads back as is settled here for every channel; the memory areas have
no such gap.
-/
import SpaceEcho.Sync

namespace SpaceEcho

/-- The channel that the code of this one is read as. -/
def MidiChannel.normalized : MidiChannel → MidiChannel
  | .symbolic symbol => .symbolic symbol
  | .channel n => if n = 0 then .symbolic .off else .channel n

def TxChannel.normalized : TxChannel → TxChannel
  | .symbolic symbol => .symbolic symbol
  | .channel n =>
      if n = 0 then .symbolic .off
      else if n = 17 then .symbolic .rx
      else .channel n

section Channels

theorem MidiChannel.WellFormed.toByte_le {c : MidiChannel} (hwell : c.WellFormed) :
    c.toByte ≤ 16 := by
  cases c with
  | channel n => exact hwell.2
  | symbolic symbol =>
      cases symbol
      decide

theorem TxChannel.WellFormed.toByte_le {c : TxChannel} (hwell : c.WellFormed) :
    c.toByte ≤ 17 := by
  cases c with
  | channel n => exact UInt8.le_trans hwell.2 (by decide)
  | symbolic symbol => cases symbol <;> decide

theorem MidiChannel.normalizes :
    Codec.Normalizes MidiChannel.toByte MidiChannel.WellFormed
      (fun c => c.toByte ≤ 16) MidiChannel.normalized where
  encode_norm := by
    intro c
    cases c with
    | symbolic => rfl
    | channel n =>
        by_cases hzero : n = 0
        · simp [normalized, toByte, hzero]
        · simp [normalized, toByte, hzero]
  valid_norm := by
    intro c hle
    cases c with
    | symbolic => trivial
    | channel n =>
        by_cases hzero : n = 0
        · simp [normalized, WellFormed, hzero]
        · rw [normalized, if_neg hzero]
          exact ⟨one_le_of_ne_zero hzero, hle⟩
  readable := by
    intro c c' hwell hsame
    rw [← hsame]
    exact hwell.toByte_le

theorem TxChannel.normalizes :
    Codec.Normalizes TxChannel.toByte TxChannel.WellFormed
      (fun c => c.toByte ≤ 17) TxChannel.normalized where
  encode_norm := by
    intro c
    cases c with
    | symbolic => rfl
    | channel n =>
        by_cases hzero : n = 0
        · simp [normalized, toByte, hzero]
        · by_cases hrx : n = 17
          · simp [normalized, toByte, hrx]
          · simp [normalized, toByte, hzero, hrx]
  valid_norm := by
    intro c hle
    cases c with
    | symbolic => trivial
    | channel n =>
        by_cases hzero : n = 0
        · simp [normalized, WellFormed, hzero]
        · by_cases hrx : n = 17
          · simp [normalized, WellFormed, hrx]
          · rw [normalized, if_neg hzero, if_neg hrx]
            have hle' := UInt8.le_iff_toNat_le.mp hle
            have hne := UInt8.toNat_inj.not.mpr hrx
            refine ⟨one_le_of_ne_zero hzero, UInt8.le_iff_toNat_le.mpr ?_⟩
            change n.toNat ≤ 17 at hle'
            change n.toNat ≠ 17 at hne
            change n.toNat ≤ 16
            omega
  readable := by
    intro c c' hwell hsame
    rw [← hsame]
    exact hwell.toByte_le

end Channels

namespace SystemArea

/-- The settings that the block of these is read as. -/
def normalized (s : SystemArea) : SystemArea :=
  { s with midi := { s.midi with
      rxChannel := s.midi.rxChannel.normalized
      txChannel := s.midi.txChannel.normalized } }

/-- The settings have a block that can be read. -/
structure Readable (s : SystemArea) : Prop where
  memoryExtent : 1 ≤ s.memoryExtent ∧ s.memoryExtent ≤ 4
  rxChannel : s.midi.rxChannel.toByte ≤ 16
  txChannel : s.midi.txChannel.toByte ≤ 17

theorem normalizes :
    Codec.Normalizes (Vector.toList ∘ block) WellFormed Readable normalized where
  encode_norm := by
    intro s
    simp only [Function.comp_apply, block, normalized,
      MidiChannel.normalizes.encode_norm, TxChannel.normalizes.encode_norm]
  valid_norm := by
    intro s hread
    exact ⟨hread.memoryExtent, MidiChannel.normalizes.valid_norm hread.rxChannel,
      TxChannel.normalizes.valid_norm hread.txChannel⟩
  readable := by
    intro s s' hwell hsame
    have hbytes := congrArg (fun l => (l[8]?, l[9]?, l[10]?)) hsame
    change (some s'.memoryExtent, some s'.midi.rxChannel.toByte,
      some s'.midi.txChannel.toByte) = (some s.memoryExtent,
        some s.midi.rxChannel.toByte, some s.midi.txChannel.toByte) at hbytes
    simp only [Prod.mk.injEq, Option.some.injEq] at hbytes
    obtain ⟨hextent, hrx, htx⟩ := hbytes
    exact ⟨hextent ▸ hwell.memoryExtent, hrx ▸ hwell.rxChannel.toByte_le,
      htx ▸ hwell.txChannel.toByte_le⟩

end SystemArea

namespace Re202

section Settings

variable {kit : Kit}

/-- The System block of a document is read back as the normal form. -/
theorem system_decodes_iff {s : SystemArea} {v : Value} :
    Target.system.Decodes kit s.block.toList v ↔
      s.Readable ∧ kit.systemToValue s.normalized = .ok v := by
  have hread : ∀ s', SystemArea.fromBytes s.block.toList = .ok s' ↔
      s.Readable ∧ s' = s.normalized := fun s' =>
    SystemArea.normalizes.decode_encode_iff SystemArea.exact
  constructor
  · intro hdecodes
    obtain ⟨s', hs', hwrite⟩ := hdecodes
    obtain ⟨hreadable, rfl⟩ := (hread s').mp hs'
    exact ⟨hreadable, hwrite⟩
  · intro hnormal
    obtain ⟨hreadable, hwrite⟩ := hnormal
    exact ⟨_, (hread _).mpr ⟨hreadable, rfl⟩, hwrite⟩

/-- Settings that sync are read back exactly when the codes of their channels
are ones the pedal has.  What is read back is their normal form, which syncs as
the same message; it is the settings themselves only if their channels are
numbers from 1 to 16 or names. -/
theorem settings_read_back (hsplit : kit.SplitsComplete)
    (hserde : kit.SerdeRoundTrips) {doc : Value} {s : SystemArea}
    (hread : kit.systemFromValue doc = .ok s) (hband : ¬ OutOfBandChannel kit doc)
    {ch : UInt8} (hch : ch ≤ 15) {bytes : List UInt8}
    (hencode : encode kit "system" doc ch = .ok bytes) :
    ((∃ v, decode kit "system" bytes = .ok v) ↔
      s.midi.rxChannel.toByte ≤ 16 ∧ s.midi.txChannel.toByte ≤ 17) ∧
    ∀ v, decode kit "system" bytes = .ok v →
      kit.systemToValue s.normalized = .ok v ∧
      encode kit "system" v ch = .ok bytes ∧
      (kit.systemFromValue v = .ok s ↔
        s.midi.rxChannel.WellFormed ∧ s.midi.txChannel.WellFormed) := by
  have htarget := (targetFor_eq_system_iff "system").mpr rfl
  obtain ⟨data, hencodes, rfl⟩ :=
    (encode_eq_ok_iff_of_target htarget).mp hencode
  have hdata : ∀ b ∈ data, b < 0x80 := by
    by_contra hhigh
    exact hband (outOfBandChannel_iff.mpr ⟨data, hencodes, hhigh⟩)
  obtain ⟨s', hread', hextent, rfl⟩ := hencodes
  rw [hread, Except.ok.injEq] at hread'
  subst hread'
  have hblock := firstBlockData_dataSet hsplit hch
    (Target.base_sevenBit htarget) hdata Target.system.base
  rw [if_pos rfl] at hblock
  have hdecode : ∀ v, decode kit "system" (Frame.dataSet (rolandDeviceId ch)
      Target.system.base s.block.toList).encode = .ok v ↔
        s.Readable ∧ kit.systemToValue s.normalized = .ok v := by
    intro v
    rw [decode_eq_ok_iff htarget, ← system_decodes_iff]
    simp only [hblock, Except.ok.injEq, exists_eq_left']
  constructor
  · constructor
    · intro hreads
      obtain ⟨v, hv⟩ := hreads
      have hreadable := ((hdecode v).mp hv).1
      exact ⟨hreadable.rxChannel, hreadable.txChannel⟩
    · intro hchannels
      obtain ⟨v, hwrite, _⟩ := hserde.system s.normalized
      exact ⟨v, (hdecode v).mpr
        ⟨⟨hextent, hchannels.1, hchannels.2⟩, hwrite⟩⟩
  · intro v hv
    obtain ⟨hreadable, hwrite⟩ := (hdecode v).mp hv
    obtain ⟨v', hwrite', hback⟩ := hserde.system s.normalized
    rw [hwrite, Except.ok.injEq] at hwrite'
    subst hwrite'
    refine ⟨hwrite, ?_, ?_⟩
    · exact (encode_eq_ok_iff_of_target htarget).mpr ⟨_, ⟨_, hback,
        hextent, SystemArea.normalizes.encode_norm s⟩, rfl⟩
    · have hvalid : s.WellFormed ↔ s.Readable ∧ s = s.normalized :=
        SystemArea.normalizes.valid_iff SystemArea.exact
      rw [hback, Except.ok.injEq, eq_comm]
      constructor
      · intro hsame
        have hwell := hvalid.mpr ⟨hreadable, hsame⟩
        exact ⟨hwell.rxChannel, hwell.txChannel⟩
      · intro hchannels
        exact (hvalid.mp ⟨hextent, hchannels.1, hchannels.2⟩).2

/-- Rx channel 0 comes back as `off`. -/
theorem channel_zero_reads_back :
    ∃ bytes, encode Kit.reference "system" (channelDocument (.channel 0)) 0 =
        .ok bytes ∧
      decode Kit.reference "system" bytes =
        .ok (channelDocument (.symbolic .off)) := by
  obtain ⟨bytes, hencode⟩ := exists_encode_channelDocument (.channel 0)
  have hband : ¬ OutOfBandChannel Kit.reference (channelDocument (.channel 0)) := by
    apply channelDocument_inBand
    rintro n ⟨⟩
    decide
  have hback := settings_read_back Kit.reference_splitsComplete
    Kit.reference_serdeRoundTrips (channelDocument_read (.channel 0)) hband
    (by decide) hencode
  obtain ⟨v, hdecode⟩ := hback.1.mpr (by decide)
  have hwrite := (hback.2 v hdecode).1
  cases hwrite
  exact ⟨bytes, hencode, hdecode⟩

end Settings

end Re202

end SpaceEcho
