/-
The System area: global settings, 18 bytes at `10 00 00 00`.  Each parameter
has its own byte code; the block is laid out by offset, one byte a parameter.
-/
import Mathlib.Data.UInt
import SpaceEcho.Codec
import SpaceEcho.Lib.Block

namespace SpaceEcho

/-- Length of the encoded System area in bytes. -/
abbrev systemAreaLen : ℕ := 18

inductive InputSource where
  | guitar
  | line
deriving Repr, DecidableEq

inductive Ctl1Function where
  | memoryUp
  | memoryDown
  | effectOnOff
  | tap
  | warp
deriving Repr, DecidableEq

inductive Ctl2Function where
  | memoryUp
  | memoryDown
  | effectOnOff
  | tap
  | twist
deriving Repr, DecidableEq

inductive DirectMode where
  | analog
  | re201Simulate
deriving Repr, DecidableEq

inductive TimeMode where
  | normal
  | long
deriving Repr, DecidableEq

inductive ReverbType where
  | spring
  | hall
  | plate
  | room
  | ambience
deriving Repr, DecidableEq

inductive MidiChannelSymbol where
  | off
deriving Repr, DecidableEq

/-- MIDI Rx channel: `off`, or a channel number.  The type does not bound the
number. -/
inductive MidiChannel where
  | channel (n : UInt8)
  | symbolic (symbol : MidiChannelSymbol)
deriving Repr, DecidableEq

inductive TxChannelSymbol where
  | off
  | rx
deriving Repr, DecidableEq

/-- MIDI Tx channel: `off`, `rx` (follow the Rx channel), or a number. -/
inductive TxChannel where
  | channel (n : UInt8)
  | symbolic (symbol : TxChannelSymbol)
deriving Repr, DecidableEq

inductive SyncSource where
  | internal
  | auto
deriving Repr, DecidableEq

inductive RealtimeSource where
  | internal
  | midi
deriving Repr, DecidableEq

structure DirectSettings where
  on : Bool
  mode : DirectMode
deriving Repr, DecidableEq

structure MidiSettings where
  rxChannel : MidiChannel
  txChannel : TxChannel
  pcIn : Bool
  pcOut : Bool
  ccIn : Bool
  ccOut : Bool
  syncSource : SyncSource
  realtimeSource : RealtimeSource
  thru : Bool
deriving Repr, DecidableEq

/-- Typed view of the System area, in the order of the byte layout. -/
structure SystemArea where
  inputSource : InputSource
  ctl1Function : Ctl1Function
  ctl2Function : Ctl2Function
  direct : DirectSettings
  carryover : Bool
  timeMode : TimeMode
  reverbType : ReverbType
  memoryExtent : UInt8
  midi : MidiSettings
deriving Repr, DecidableEq

def validateRange (value min max : UInt8) (field : String) :
    Except CodecError UInt8 :=
  if min ≤ value ∧ value ≤ max then .ok value
  else .error (.outOfRange field value.toUInt16 "see field doc")

def InputSource.fromByte : UInt8 → Except CodecError InputSource :=
  fromTable [(0, .guitar), (1, .line)]
    "input_source" "0=guitar, 1=line"

def InputSource.toByte : InputSource → UInt8
  | .guitar => 0
  | .line => 1

def Ctl1Function.fromByte : UInt8 → Except CodecError Ctl1Function :=
  fromTable [(0, .memoryUp), (1, .memoryDown), (2, .effectOnOff),
    (3, .tap), (4, .warp)]
    "ctl1_function" "0..=4"

def Ctl1Function.toByte : Ctl1Function → UInt8
  | .memoryUp => 0
  | .memoryDown => 1
  | .effectOnOff => 2
  | .tap => 3
  | .warp => 4

def Ctl2Function.fromByte : UInt8 → Except CodecError Ctl2Function :=
  fromTable [(0, .memoryUp), (1, .memoryDown), (2, .effectOnOff),
    (3, .tap), (4, .twist)]
    "ctl2_function" "0..=4"

def Ctl2Function.toByte : Ctl2Function → UInt8
  | .memoryUp => 0
  | .memoryDown => 1
  | .effectOnOff => 2
  | .tap => 3
  | .twist => 4

def DirectMode.fromByte : UInt8 → Except CodecError DirectMode :=
  fromTable [(0, .analog), (1, .re201Simulate)]
    "direct.mode" "0=analog, 1=re201_simulate"

def DirectMode.toByte : DirectMode → UInt8
  | .analog => 0
  | .re201Simulate => 1

def TimeMode.fromByte : UInt8 → Except CodecError TimeMode :=
  fromTable [(0, .normal), (1, .long)]
    "time_mode" "0=normal, 1=long"

def TimeMode.toByte : TimeMode → UInt8
  | .normal => 0
  | .long => 1

def ReverbType.fromByte : UInt8 → Except CodecError ReverbType :=
  fromTable [(0, .spring), (1, .hall), (2, .plate), (3, .room), (4, .ambience)]
    "reverb_type" "0..=4"

def ReverbType.toByte : ReverbType → UInt8
  | .spring => 0
  | .hall => 1
  | .plate => 2
  | .room => 3
  | .ambience => 4

def MidiChannel.fromByte (b : UInt8) : Except CodecError MidiChannel :=
  if b = 0 then .ok (.symbolic .off)
  else if 1 ≤ b ∧ b ≤ 16 then .ok (.channel b)
  else .error (.invalidValue "midi.rx_channel" b "0 (=off) or 1..=16")

/-- The number goes out as it is: the encoder makes no range check. -/
def MidiChannel.toByte : MidiChannel → UInt8
  | .symbolic .off => 0
  | .channel n => n

def TxChannel.fromByte (b : UInt8) : Except CodecError TxChannel :=
  if b = 0 then .ok (.symbolic .off)
  else if 1 ≤ b ∧ b ≤ 16 then .ok (.channel b)
  else if b = 17 then .ok (.symbolic .rx)
  else .error (.invalidValue "midi.tx_channel" b "0 (=off), 1..=16, or 17 (=rx)")

def TxChannel.toByte : TxChannel → UInt8
  | .symbolic .off => 0
  | .channel n => n
  | .symbolic .rx => 17

def SyncSource.fromByte : UInt8 → Except CodecError SyncSource :=
  fromTable [(0, .internal), (1, .auto)]
    "midi.sync_source" "0=internal, 1=auto"

def SyncSource.toByte : SyncSource → UInt8
  | .internal => 0
  | .auto => 1

def RealtimeSource.fromByte : UInt8 → Except CodecError RealtimeSource :=
  fromTable [(0, .internal), (1, .midi)]
    "midi.realtime_source" "0=internal, 1=midi"

def RealtimeSource.toByte : RealtimeSource → UInt8
  | .internal => 0
  | .midi => 1

theorem InputSource.exact :
    Codec.Exact InputSource.fromByte InputSource.toByte (fun _ => True) :=
  fromTable_exact _ _ (by intro a; cases a <;> rfl) (by decide)

theorem Ctl1Function.exact :
    Codec.Exact Ctl1Function.fromByte Ctl1Function.toByte (fun _ => True) :=
  fromTable_exact _ _ (by intro a; cases a <;> rfl) (by decide)

theorem Ctl2Function.exact :
    Codec.Exact Ctl2Function.fromByte Ctl2Function.toByte (fun _ => True) :=
  fromTable_exact _ _ (by intro a; cases a <;> rfl) (by decide)

theorem DirectMode.exact :
    Codec.Exact DirectMode.fromByte DirectMode.toByte (fun _ => True) :=
  fromTable_exact _ _ (by intro a; cases a <;> rfl) (by decide)

theorem TimeMode.exact :
    Codec.Exact TimeMode.fromByte TimeMode.toByte (fun _ => True) :=
  fromTable_exact _ _ (by intro a; cases a <;> rfl) (by decide)

theorem ReverbType.exact :
    Codec.Exact ReverbType.fromByte ReverbType.toByte (fun _ => True) :=
  fromTable_exact _ _ (by intro a; cases a <;> rfl) (by decide)

theorem SyncSource.exact :
    Codec.Exact SyncSource.fromByte SyncSource.toByte (fun _ => True) :=
  fromTable_exact _ _ (by intro a; cases a <;> rfl) (by decide)

theorem RealtimeSource.exact :
    Codec.Exact RealtimeSource.fromByte RealtimeSource.toByte
      (fun _ => True) :=
  fromTable_exact _ _ (by intro a; cases a <;> rfl) (by decide)

theorem validateRange_eq_ok_iff (value min max : UInt8) (field : String)
    (a : UInt8) :
    validateRange value min max field = .ok a ↔
      (min ≤ value ∧ value ≤ max) ∧ a = value := by
  by_cases hrange : min ≤ value ∧ value ≤ max
  · simp [validateRange, hrange, eq_comm]
  · simp [validateRange, hrange]

/-- A channel number that stands for itself on the wire. -/
def MidiChannel.WellFormed : MidiChannel → Prop
  | .channel n => 1 ≤ n ∧ n ≤ 16
  | .symbolic _ => True

def TxChannel.WellFormed : TxChannel → Prop
  | .channel n => 1 ≤ n ∧ n ≤ 16
  | .symbolic _ => True

/-- The Rx code is exact on `off` and `1..=16`; no byte decodes to any other
channel number. -/
theorem MidiChannel.exact :
    Codec.Exact MidiChannel.fromByte MidiChannel.toByte
      MidiChannel.WellFormed where
  sound := by
    intro b a hb
    unfold fromByte at hb
    split_ifs at hb with hzero hrange
    · cases hb
      exact ⟨trivial, hzero.symm⟩
    · cases hb
      exact ⟨hrange, rfl⟩
  complete := by
    intro a hwell
    cases a with
    | channel n =>
        have hzero : n ≠ 0 := by
          rintro rfl
          exact absurd hwell.1 (by decide)
        have hrange : 1 ≤ n ∧ n ≤ 16 := hwell
        rw [toByte, fromByte, if_neg hzero, if_pos hrange]
    | symbolic symbol =>
        cases symbol
        rfl

theorem TxChannel.exact :
    Codec.Exact TxChannel.fromByte TxChannel.toByte TxChannel.WellFormed where
  sound := by
    intro b a hb
    unfold fromByte at hb
    split_ifs at hb with hzero hrange hrx
    · cases hb
      exact ⟨trivial, hzero.symm⟩
    · cases hb
      exact ⟨hrange, rfl⟩
    · cases hb
      exact ⟨trivial, hrx.symm⟩
  complete := by
    intro a hwell
    cases a with
    | channel n =>
        have hzero : n ≠ 0 := by
          rintro rfl
          exact absurd hwell.1 (by decide)
        have hrange : 1 ≤ n ∧ n ≤ 16 := hwell
        rw [toByte, fromByte, if_neg hzero, if_pos hrange]
    | symbolic symbol => cases symbol <;> rfl

/-- The codes of `off` and `rx` are small, so a byte that is not 7-bit comes
from a channel number. -/
theorem MidiChannel.toByte_high_iff (c : MidiChannel) :
    ¬ c.toByte < 0x80 ↔ ∃ n, 0x80 ≤ n ∧ c = .channel n := by
  rcases c with n | symbol
  · simp [toByte]
  · cases symbol
    simp [toByte]

theorem TxChannel.toByte_high_iff (c : TxChannel) :
    ¬ c.toByte < 0x80 ↔ ∃ n, 0x80 ≤ n ∧ c = .channel n := by
  rcases c with n | symbol
  · simp [toByte]
  · cases symbol <;> simp [toByte]

namespace SystemArea

def fromBytes (bytes : List UInt8) : Except CodecError SystemArea :=
  if hwrong : bytes.length ≠ systemAreaLen then
    .error (.wrongLength systemAreaLen bytes.length)
  else do
    have hlen : bytes.length = 18 := not_not.mp hwrong
    return {
      inputSource := ← InputSource.fromByte bytes[0x00]
      ctl1Function := ← Ctl1Function.fromByte bytes[0x01]
      ctl2Function := ← Ctl2Function.fromByte bytes[0x02]
      direct := {
        on := ← byteToBool bytes[0x03] "direct.on"
        mode := ← DirectMode.fromByte bytes[0x04] }
      carryover := ← byteToBool bytes[0x05] "carryover"
      timeMode := ← TimeMode.fromByte bytes[0x06]
      reverbType := ← ReverbType.fromByte bytes[0x07]
      memoryExtent := ← validateRange bytes[0x08] 1 4 "memory_extent"
      midi := {
        rxChannel := ← MidiChannel.fromByte bytes[0x09]
        txChannel := ← TxChannel.fromByte bytes[0x0A]
        pcIn := ← byteToBool bytes[0x0B] "midi.pc_in"
        pcOut := ← byteToBool bytes[0x0C] "midi.pc_out"
        ccIn := ← byteToBool bytes[0x0D] "midi.cc_in"
        ccOut := ← byteToBool bytes[0x0E] "midi.cc_out"
        syncSource := ← SyncSource.fromByte bytes[0x0F]
        realtimeSource := ← RealtimeSource.fromByte bytes[0x10]
        thru := ← byteToBool bytes[0x11] "midi.thru" } }

/-- Only the memory extent is checked on the way out. -/
def toBytes (s : SystemArea) : Except CodecError (Vector UInt8 systemAreaLen) :=
  if ¬ (1 ≤ s.memoryExtent ∧ s.memoryExtent ≤ 4) then
    .error (.outOfRange "memory_extent" s.memoryExtent.toUInt16 "1..=4")
  else
    let b : Vector UInt8 18 := Vector.replicate 18 0
    let b := b.set 0x00 s.inputSource.toByte
    let b := b.set 0x01 s.ctl1Function.toByte
    let b := b.set 0x02 s.ctl2Function.toByte
    let b := b.set 0x03 s.direct.on.toUInt8
    let b := b.set 0x04 s.direct.mode.toByte
    let b := b.set 0x05 s.carryover.toUInt8
    let b := b.set 0x06 s.timeMode.toByte
    let b := b.set 0x07 s.reverbType.toByte
    let b := b.set 0x08 s.memoryExtent
    let b := b.set 0x09 s.midi.rxChannel.toByte
    let b := b.set 0x0A s.midi.txChannel.toByte
    let b := b.set 0x0B s.midi.pcIn.toUInt8
    let b := b.set 0x0C s.midi.pcOut.toUInt8
    let b := b.set 0x0D s.midi.ccIn.toUInt8
    let b := b.set 0x0E s.midi.ccOut.toUInt8
    let b := b.set 0x0F s.midi.syncSource.toByte
    let b := b.set 0x10 s.midi.realtimeSource.toByte
    let b := b.set 0x11 s.midi.thru.toUInt8
    .ok b

/-- The block a value is laid out as, offset by offset. -/
def block (s : SystemArea) : Vector UInt8 systemAreaLen :=
  #v[s.inputSource.toByte, s.ctl1Function.toByte, s.ctl2Function.toByte,
    s.direct.on.toUInt8, s.direct.mode.toByte, s.carryover.toUInt8,
    s.timeMode.toByte, s.reverbType.toByte, s.memoryExtent,
    s.midi.rxChannel.toByte, s.midi.txChannel.toByte, s.midi.pcIn.toUInt8,
    s.midi.pcOut.toUInt8, s.midi.ccIn.toUInt8, s.midi.ccOut.toUInt8,
    s.midi.syncSource.toByte, s.midi.realtimeSource.toByte,
    s.midi.thru.toUInt8]

theorem toBytes_eq (s : SystemArea) :
    s.toBytes =
      if ¬ (1 ≤ s.memoryExtent ∧ s.memoryExtent ≤ 4) then
        .error (.outOfRange "memory_extent" s.memoryExtent.toUInt16 "1..=4")
      else .ok s.block := by
  by_cases hextent : 1 ≤ s.memoryExtent ∧ s.memoryExtent ≤ 4
  · rw [toBytes, if_neg (not_not.mpr hextent), if_neg (not_not.mpr hextent)]
    apply congrArg Except.ok
    apply Vector.toList_inj.mp
    simp only [Vector.toList_set, Vector.toList_replicate, List.replicate,
      List.set_cons_zero, List.set_cons_succ]
    simp [block]
  · rw [toBytes, if_pos hextent, if_pos hextent]

theorem fromBytes_of_length_ne {bytes : List UInt8}
    (hlength : bytes.length ≠ systemAreaLen) :
    fromBytes bytes = .error (.wrongLength systemAreaLen bytes.length) := by
  rw [fromBytes, dif_pos hlength]

theorem fromBytes_toList (b : Vector UInt8 systemAreaLen) :
    fromBytes b.toList = do
      return {
        inputSource := ← InputSource.fromByte b[0x00]
        ctl1Function := ← Ctl1Function.fromByte b[0x01]
        ctl2Function := ← Ctl2Function.fromByte b[0x02]
        direct := {
          on := ← byteToBool b[0x03] "direct.on"
          mode := ← DirectMode.fromByte b[0x04] }
        carryover := ← byteToBool b[0x05] "carryover"
        timeMode := ← TimeMode.fromByte b[0x06]
        reverbType := ← ReverbType.fromByte b[0x07]
        memoryExtent := ← validateRange b[0x08] 1 4 "memory_extent"
        midi := {
          rxChannel := ← MidiChannel.fromByte b[0x09]
          txChannel := ← TxChannel.fromByte b[0x0A]
          pcIn := ← byteToBool b[0x0B] "midi.pc_in"
          pcOut := ← byteToBool b[0x0C] "midi.pc_out"
          ccIn := ← byteToBool b[0x0D] "midi.cc_in"
          ccOut := ← byteToBool b[0x0E] "midi.cc_out"
          syncSource := ← SyncSource.fromByte b[0x0F]
          realtimeSource := ← RealtimeSource.fromByte b[0x10]
          thru := ← byteToBool b[0x11] "midi.thru" } } := by
  have hwrong : ¬ b.toList.length ≠ systemAreaLen := by simp
  unfold fromBytes
  rw [dif_neg hwrong]
  simp only [Vector.getElem_toList]

/-- The values the 18-byte block can express. -/
structure WellFormed (s : SystemArea) : Prop where
  memoryExtent : 1 ≤ s.memoryExtent ∧ s.memoryExtent ≤ 4
  rxChannel : s.midi.rxChannel.WellFormed
  txChannel : s.midi.txChannel.WellFormed

/-- One equation per offset: the block read is the block the value is laid
out as. -/
theorem fromBytes_toList_eq_ok_iff (b : Vector UInt8 systemAreaLen)
    (s : SystemArea) :
    fromBytes b.toList = .ok s ↔ s.WellFormed ∧ s.block = b := by
  rw [fromBytes_toList]
  simp only [Codec.bind_returns_iff, byteToBool_eq_ok_iff,
    validateRange_eq_ok_iff, InputSource.exact.decode_eq_ok_iff,
    Ctl1Function.exact.decode_eq_ok_iff, Ctl2Function.exact.decode_eq_ok_iff,
    DirectMode.exact.decode_eq_ok_iff, TimeMode.exact.decode_eq_ok_iff,
    ReverbType.exact.decode_eq_ok_iff, MidiChannel.exact.decode_eq_ok_iff,
    TxChannel.exact.decode_eq_ok_iff, SyncSource.exact.decode_eq_ok_iff,
    RealtimeSource.exact.decode_eq_ok_iff, true_and]
  constructor
  · intro hsteps
    obtain ⟨x0, h0, x1, h1, x2, h2, x3, h3, x4, h4, x5, h5, x6, h6, x7, h7,
      x8, ⟨hextent, h8⟩, x9, ⟨hrx, h9⟩, x10, ⟨htx, h10⟩, x11, h11, x12, h12,
      x13, h13, x14, h14, x15, h15, x16, h16, x17, h17, hs⟩ := hsteps
    cases hs
    refine ⟨⟨h8 ▸ hextent, hrx, htx⟩, ?_⟩
    apply Vector.toList_inj.mp
    rw [Block.toList_eq_ofFn b]
    simp [List.ofFn_succ, block, h0, h1, h2, h3, h4, h5, h6, h7, h8, h9, h10,
      h11, h12, h13, h14, h15, h16, h17]
  · intro hlaid
    obtain ⟨hwell, rfl⟩ := hlaid
    exact ⟨_, rfl, _, rfl, _, rfl, _, rfl, _, rfl, _, rfl, _, rfl, _, rfl,
      _, ⟨hwell.memoryExtent, rfl⟩, _, ⟨hwell.rxChannel, rfl⟩,
      _, ⟨hwell.txChannel, rfl⟩, _, rfl, _, rfl, _, rfl, _, rfl, _, rfl,
      _, rfl, _, rfl, rfl⟩

theorem exact :
    Codec.Exact fromBytes (Vector.toList ∘ block) WellFormed := by
  apply Block.exact_of_toList
  · intro bytes hlength
    exact ⟨_, fromBytes_of_length_ne hlength⟩
  · exact fromBytes_toList_eq_ok_iff

theorem checked :
    Codec.Checked toBytes block
      (fun s => 1 ≤ s.memoryExtent ∧ s.memoryExtent ≤ 4) where
  ok_iff := by
    intro s b
    rw [toBytes_eq, Codec.guard_returns_iff, not_not, Except.ok.injEq]

/-- The channel codes are the only bytes of an encoded block that need not be
7-bit. -/
theorem block_lt_iff {s : SystemArea} (hextent : s.memoryExtent ≤ 4) :
    (∀ b ∈ s.block.toList, b < 0x80) ↔
      s.midi.rxChannel.toByte < 0x80 ∧ s.midi.txChannel.toByte < 0x80 := by
  have hinput : s.inputSource.toByte < 0x80 := by
    cases s.inputSource <;> decide
  have hctl1 : s.ctl1Function.toByte < 0x80 := by
    cases s.ctl1Function <;> decide
  have hctl2 : s.ctl2Function.toByte < 0x80 := by
    cases s.ctl2Function <;> decide
  have hmode : s.direct.mode.toByte < 0x80 := by
    cases s.direct.mode <;> decide
  have htime : s.timeMode.toByte < 0x80 := by cases s.timeMode <;> decide
  have hreverb : s.reverbType.toByte < 0x80 := by
    cases s.reverbType <;> decide
  have hsync : s.midi.syncSource.toByte < 0x80 := by
    cases s.midi.syncSource <;> decide
  have hrealtime : s.midi.realtimeSource.toByte < 0x80 := by
    cases s.midi.realtimeSource <;> decide
  have hswitch : ∀ on : Bool, on.toUInt8 < 0x80 := by decide
  have hsmall : s.memoryExtent < 0x80 :=
    UInt8.lt_of_le_of_lt hextent (by decide)
  simp [block, hinput, hctl1, hctl2, hmode, htime, hreverb, hsync, hrealtime,
    hswitch, hsmall]

theorem WellFormed.block_lt {s : SystemArea} (hwell : s.WellFormed) :
    ∀ b ∈ s.block.toList, b < 0x80 := by
  apply (block_lt_iff hwell.memoryExtent.2).mpr
  constructor
  · by_contra hhigh
    obtain ⟨n, hn, hchannel⟩ := (MidiChannel.toByte_high_iff _).mp hhigh
    have hsmall := hwell.rxChannel
    rw [hchannel] at hsmall
    exact absurd (UInt8.le_trans hn hsmall.2) (by decide)
  · by_contra hhigh
    obtain ⟨n, hn, hchannel⟩ := (TxChannel.toByte_high_iff _).mp hhigh
    have hsmall := hwell.txChannel
    rw [hchannel] at hsmall
    exact absurd (UInt8.le_trans hn hsmall.2) (by decide)

/-- The encoder never yields a block that means something else exactly on the
values whose channel numbers the block can express, and on those it refuses. -/
theorem toBytes_round_trip_iff (s : SystemArea) :
    (∀ b, s.toBytes = .ok b → fromBytes b.toList = .ok s) ↔
      ¬ (1 ≤ s.memoryExtent ∧ s.memoryExtent ≤ 4) ∨
        (s.midi.rxChannel.WellFormed ∧ s.midi.txChannel.WellFormed) := by
  rw [checked.decodes_iff exact]
  constructor
  · intro hwell
    by_cases hextent : 1 ≤ s.memoryExtent ∧ s.memoryExtent ≤ 4
    · have h := hwell hextent
      exact Or.inr ⟨h.rxChannel, h.txChannel⟩
    · exact Or.inl hextent
  · rintro (hrefused | ⟨hrx, htx⟩) hextent
    · exact absurd hextent hrefused
    · exact ⟨hextent, hrx, htx⟩

/-- The block captured from a pedal, decoded. -/
def captured : SystemArea where
  inputSource := .guitar
  ctl1Function := .memoryDown
  ctl2Function := .memoryDown
  direct := { on := true, mode := .analog }
  carryover := true
  timeMode := .normal
  reverbType := .spring
  memoryExtent := 4
  midi := {
    rxChannel := .channel 1
    txChannel := .symbolic .rx
    pcIn := true
    pcOut := true
    ccIn := false
    ccOut := false
    syncSource := .internal
    realtimeSource := .internal
    thru := true }

example : fromBytes [0x00, 0x01, 0x01, 0x01, 0x00, 0x01, 0x00, 0x00, 0x04,
    0x01, 0x11, 0x01, 0x01, 0x00, 0x00, 0x00, 0x00, 0x01] = .ok captured := by
  rfl

/-- Rx channel 0 is written as the code of `off`. -/
theorem channel_zero_reads_back_as_off :
    ¬ ∀ (s : SystemArea) (b : Vector UInt8 systemAreaLen),
      s.toBytes = .ok b → fromBytes b.toList = .ok s := by
  intro hround
  let zero : SystemArea :=
    { captured with midi := { captured.midi with rxChannel := .channel 0 } }
  have hencode : zero.toBytes = .ok zero.block := by
    rw [toBytes_eq]
    rfl
  have hback := hround zero zero.block hencode
  have hwell := (exact.sound hback).1.rxChannel
  exact absurd hwell.1 (by decide)

end SystemArea

end SpaceEcho
