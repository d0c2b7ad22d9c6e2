/-
The memory block: one preset, 33 bytes.  Eight parameters are triples that an
expression pedal can sweep, and the tap time is spread over four nibbles; the
other parameters have one byte code each.
-/
import SpaceEcho.Address
import SpaceEcho.System

namespace SpaceEcho

inductive Tape where
  | new
  | aged
deriving Repr, DecidableEq

/-- Head-combination modes, numbered as on the front panel.  The wire code is
one less than the number. -/
inductive Mode where
  | m1
  | m2
  | m3
  | m4
  | m5
  | m6
  | m7
  | m8
  | m9
  | m10
  | m11
  | m12
deriving Repr, DecidableEq

/-- A parameter with its pedal range.  The type does not bound the bytes. -/
structure RangedParam where
  value : UInt8
  min : UInt8
  max : UInt8
deriving Repr, DecidableEq

structure Memory where
  tape : Tape
  mode : Mode
  repeatRate : RangedParam
  intensity : RangedParam
  echoVolume : RangedParam
  bass : RangedParam
  treble : RangedParam
  reverbVolume : RangedParam
  saturation : RangedParam
  wowFlutter : RangedParam
  reverbSw : Bool
  tapSw : Bool
  tapTimeMs : UInt16
  timeMode : TimeMode
deriving Repr, DecidableEq

def Tape.fromByte : UInt8 → Except CodecError Tape :=
  fromTable [(0, .new), (1, .aged)]
    "tape" "0=new, 1=aged"

def Tape.toByte : Tape → UInt8
  | .new => 0
  | .aged => 1

def Mode.fromByte : UInt8 → Except CodecError Mode :=
  fromTable [(0, .m1), (1, .m2), (2, .m3), (3, .m4), (4, .m5), (5, .m6),
    (6, .m7), (7, .m8), (8, .m9), (9, .m10), (10, .m11), (11, .m12)]
    "mode" "0..=11 (wire) = Mode 1..=12 (UI)"

def Mode.toByte : Mode → UInt8
  | .m1 => 0
  | .m2 => 1
  | .m3 => 2
  | .m4 => 3
  | .m5 => 4
  | .m6 => 5
  | .m7 => 6
  | .m8 => 7
  | .m9 => 8
  | .m10 => 9
  | .m11 => 10
  | .m12 => 11

/-- The mode's number on the front panel. -/
def Mode.number (m : Mode) : UInt8 := m.toByte + 1

theorem Tape.exact : Codec.Exact Tape.fromByte Tape.toByte (fun _ => True) :=
  fromTable_exact _ _ (by intro a; cases a <;> rfl) (by decide)

theorem Mode.exact : Codec.Exact Mode.fromByte Mode.toByte (fun _ => True) :=
  fromTable_exact _ _ (by intro a; cases a <;> rfl) (by decide)

namespace RangedParam

def fromBytes (value min max : UInt8) (field : String) :
    Except CodecError RangedParam := do
  Block.scan (fun b => b > 127)
    (fun b => CodecError.outOfRange field b.toUInt16 "0..=127") [value, min, max]
  return ⟨value, min, max⟩

def toBytes (p : RangedParam) (field : String) :
    Except CodecError (Vector UInt8 3) := do
  Block.scan (fun b => b > 127)
    (fun b => CodecError.outOfRange field b.toUInt16 "0..=127")
    [p.value, p.min, p.max]
  return #v[p.value, p.min, p.max]

/-- All three bytes are 7-bit. -/
def InRange (p : RangedParam) : Prop :=
  p.value ≤ 127 ∧ p.min ≤ 127 ∧ p.max ≤ 127

instance (p : RangedParam) : Decidable p.InRange :=
  inferInstanceAs (Decidable (_ ∧ _ ∧ _))

theorem fromBytes_eq_ok_iff (value min max : UInt8) (field : String)
    (p : RangedParam) :
    fromBytes value min max field = .ok p ↔
      p.InRange ∧ p.value = value ∧ p.min = min ∧ p.max = max := by
  obtain ⟨v, lo, hi⟩ := p
  unfold fromBytes
  simp only [Codec.bind_returns_iff, Block.scan_eq_ok_iff, List.mem_cons,
    List.not_mem_nil, or_false, forall_eq_or_imp, forall_eq, gt_iff_lt,
    UInt8.not_lt, exists_const, pure, Except.pure, Except.ok.injEq,
    RangedParam.mk.injEq, InRange]
  constructor
  · intro hread
    obtain ⟨hrange, rfl, rfl, rfl⟩ := hread
    exact ⟨hrange, rfl, rfl, rfl⟩
  · intro hlaid
    obtain ⟨hrange, rfl, rfl, rfl⟩ := hlaid
    exact ⟨hrange, rfl, rfl, rfl⟩

theorem toBytes_eq_ok_iff (p : RangedParam) (field : String)
    (b : Vector UInt8 3) :
    p.toBytes field = .ok b ↔ p.InRange ∧ #v[p.value, p.min, p.max] = b := by
  unfold toBytes
  simp only [Codec.bind_returns_iff, Block.scan_eq_ok_iff, List.mem_cons,
    List.not_mem_nil, or_false, forall_eq_or_imp, forall_eq, gt_iff_lt,
    UInt8.not_lt, exists_const, pure, Except.pure, Except.ok.injEq, InRange]

end RangedParam

/-- The tap time takes four bytes, one nibble each. -/
abbrev tapTimeLen : ℕ := 4

/-- Four nibbles, most significant first, into one number.  The number is not
checked against the range the encoder imposes. -/
def unpackTapTime (bytes : Vector UInt8 tapTimeLen) : Except CodecError UInt16 := do
  Block.scan (fun b => b > 0x0F)
    (fun b => CodecError.invalidValue "tap_time_nibble" b
      "0..=15 (low nibble only)") bytes.toList
  return (bytes[0].toUInt16 <<< (12 : UInt16)) |||
    (bytes[1].toUInt16 <<< (8 : UInt16)) |||
    (bytes[2].toUInt16 <<< (4 : UInt16)) ||| bytes[3].toUInt16

/-- The four nibbles of a 16-bit number, most significant first. -/
def tapNibbles (ms : UInt16) : Vector UInt8 tapTimeLen :=
  #v[((ms >>> (12 : UInt16)) &&& 0x0F).toUInt8,
    ((ms >>> (8 : UInt16)) &&& 0x0F).toUInt8,
    ((ms >>> (4 : UInt16)) &&& 0x0F).toUInt8,
    (ms &&& 0x0F).toUInt8]

def packTapTime (ms : UInt16) : Except CodecError (Vector UInt8 tapTimeLen) :=
  if ms > 2000 then .error (.outOfRange "tap_time_ms" ms "0..=2000")
  else .ok (tapNibbles ms)

section TapTime

theorem tapNibbles_eq_iff (ms : UInt16) (bytes : Vector UInt8 tapTimeLen) :
    tapNibbles ms = bytes ↔
      ms.toNat / 4096 % 16 = bytes[0].toNat ∧
        ms.toNat / 256 % 16 = bytes[1].toNat ∧
        ms.toNat / 16 % 16 = bytes[2].toNat ∧
        ms.toNat % 16 = bytes[3].toNat := by
  have hmask : ∀ n : ℕ, n &&& 15 = n % 16 := fun n =>
    Nat.and_two_pow_sub_one_eq_mod n 4
  rw [← Vector.toList_inj, Block.toList_eq_ofFn bytes]
  simp [tapNibbles, List.ofFn_succ, ← UInt8.toNat_inj,
    Nat.shiftRight_eq_div_pow, hmask]

/-- Nibbles shifted apart do not overlap, so joining them is positional
notation in base 16. -/
theorem joinNibbles_eq {a b c d : ℕ} (ha : a < 16) (hb : b < 16) (hc : c < 16)
    (hd : d < 16) :
    a <<< 12 % 65536 ||| b <<< 8 % 65536 ||| c <<< 4 % 65536 ||| d =
      ((a * 16 + b) * 16 + c) * 16 + d := by
  have hmod : ∀ n < 65536, n % 65536 = n := fun n hn => Nat.mod_eq_of_lt hn
  have hshift : ∀ n i, n <<< i = n * 2 ^ i := fun n i => Nat.shiftLeft_eq n i
  have htop : a <<< 12 ||| b <<< 8 = (a * 16 + b) <<< 8 := by
    rw [← Nat.shiftLeft_add_eq_or_of_lt (by rw [hshift]; omega)]
    simp only [hshift]
    omega
  have hmid : (a * 16 + b) <<< 8 ||| c <<< 4 =
      ((a * 16 + b) * 16 + c) <<< 4 := by
    rw [← Nat.shiftLeft_add_eq_or_of_lt (by rw [hshift]; omega)]
    simp only [hshift]
    omega
  rw [hmod _ (by rw [hshift]; omega), hmod _ (by rw [hshift]; omega),
    hmod _ (by rw [hshift]; omega), htop, hmid,
    ← Nat.shiftLeft_add_eq_or_of_lt (by omega), hshift]
  omega

/-- Four nibbles unpack to the number they spell in base 16. -/
theorem unpackTapTime_eq_ok_iff_toNat (bytes : Vector UInt8 tapTimeLen) (ms : UInt16) :
    unpackTapTime bytes = .ok ms ↔
      (bytes[0].toNat < 16 ∧ bytes[1].toNat < 16 ∧ bytes[2].toNat < 16 ∧
        bytes[3].toNat < 16) ∧
      ((bytes[0].toNat * 16 + bytes[1].toNat) * 16 + bytes[2].toNat) * 16 +
        bytes[3].toNat = ms.toNat := by
  unfold unpackTapTime
  simp only [Codec.bind_returns_iff, Block.scan_eq_ok_iff, exists_const, pure,
    Except.pure, Except.ok.injEq, gt_iff_lt, UInt8.not_lt]
  rw [Block.toList_eq_ofFn bytes]
  have hscan : (∀ b ∈ List.ofFn fun i : Fin 4 => bytes[i], b ≤ 0x0F) ↔
      bytes[0].toNat < 16 ∧ bytes[1].toNat < 16 ∧ bytes[2].toNat < 16 ∧
        bytes[3].toNat < 16 := by
    simp [List.ofFn_succ, UInt8.le_iff_toNat_le, Nat.lt_succ_iff]
  rw [hscan]
  constructor
  · intro hread
    obtain ⟨⟨h0, h1, h2, h3⟩, hjoin⟩ := hread
    refine ⟨⟨h0, h1, h2, h3⟩, ?_⟩
    rw [← joinNibbles_eq h0 h1 h2 h3, ← hjoin]
    simp
  · intro hspelt
    obtain ⟨⟨h0, h1, h2, h3⟩, hjoin⟩ := hspelt
    refine ⟨⟨h0, h1, h2, h3⟩, ?_⟩
    rw [← UInt16.toNat_inj, ← hjoin, ← joinNibbles_eq h0 h1 h2 h3]
    simp

/-- A number is unpacked from its own nibbles and from nothing else. -/
theorem unpackTapTime_eq_ok_iff (bytes : Vector UInt8 tapTimeLen) (ms : UInt16) :
    unpackTapTime bytes = .ok ms ↔ tapNibbles ms = bytes := by
  rw [unpackTapTime_eq_ok_iff_toNat, tapNibbles_eq_iff]
  have hms := ms.toNat_lt
  omega

theorem tapNibbles_lt (ms : UInt16) :
    (tapNibbles ms)[0] < 0x80 ∧ (tapNibbles ms)[1] < 0x80 ∧
      (tapNibbles ms)[2] < 0x80 ∧ (tapNibbles ms)[3] < 0x80 := by
  obtain ⟨h0, h1, h2, h3⟩ := (tapNibbles_eq_iff ms (tapNibbles ms)).mp rfl
  have h80 : (0x80 : UInt8).toNat = 128 := rfl
  simp only [UInt8.lt_iff_toNat_lt, h80]
  omega

theorem packTapTime_eq_ok_iff (ms : UInt16) (bytes : Vector UInt8 tapTimeLen) :
    packTapTime ms = .ok bytes ↔ ms ≤ 2000 ∧ tapNibbles ms = bytes := by
  rw [packTapTime, Codec.guard_returns_iff, gt_iff_lt, UInt16.not_lt,
    Except.ok.injEq]

/-- The number the tap-time nibbles of a block spell. -/
def blockTapTime (block : List UInt8) : ℕ :=
  ((block.drop 0x1C).take 4).foldl (fun n nibble => n * 16 + nibble.toNat) 0

end TapTime

namespace Memory

def fromBytes (bytes : List UInt8) : Except CodecError Memory :=
  if hwrong : bytes.length ≠ memoryBlockLen then
    .error (.wrongLength memoryBlockLen bytes.length)
  else do
    have hlen : bytes.length = 33 := not_not.mp hwrong
    let tap := #v[bytes[0x1C], bytes[0x1D], bytes[0x1E], bytes[0x1F]]
    return {
      tape := ← Tape.fromByte bytes[0x00]
      mode := ← Mode.fromByte bytes[0x01]
      repeatRate := ← RangedParam.fromBytes
        bytes[0x02] bytes[0x03] bytes[0x04] "repeat_rate"
      intensity := ← RangedParam.fromBytes
        bytes[0x05] bytes[0x06] bytes[0x07] "intensity"
      echoVolume := ← RangedParam.fromBytes
        bytes[0x08] bytes[0x09] bytes[0x0A] "echo_volume"
      bass := ← RangedParam.fromBytes
        bytes[0x0B] bytes[0x0C] bytes[0x0D] "bass"
      treble := ← RangedParam.fromBytes
        bytes[0x0E] bytes[0x0F] bytes[0x10] "treble"
      reverbVolume := ← RangedParam.fromBytes
        bytes[0x11] bytes[0x12] bytes[0x13] "reverb_volume"
      saturation := ← RangedParam.fromBytes
        bytes[0x14] bytes[0x15] bytes[0x16] "saturation"
      wowFlutter := ← RangedParam.fromBytes
        bytes[0x17] bytes[0x18] bytes[0x19] "wow_flutter"
      reverbSw := ← byteToBool bytes[0x1A] "reverb_sw"
      tapSw := ← byteToBool bytes[0x1B] "tap_sw"
      tapTimeMs := ← unpackTapTime tap
      timeMode := ← TimeMode.fromByte bytes[0x20] }

def toBytes (m : Memory) : Except CodecError (Vector UInt8 memoryBlockLen) := do
  let b : Vector UInt8 33 := Vector.replicate 33 0
  let b := b.set 0x00 m.tape.toByte
  let b := b.set 0x01 m.mode.toByte
  let b := Block.copyFromSlice b 0x02 (← m.repeatRate.toBytes "repeat_rate")
  let b := Block.copyFromSlice b 0x05 (← m.intensity.toBytes "intensity")
  let b := Block.copyFromSlice b 0x08 (← m.echoVolume.toBytes "echo_volume")
  let b := Block.copyFromSlice b 0x0B (← m.bass.toBytes "bass")
  let b := Block.copyFromSlice b 0x0E (← m.treble.toBytes "treble")
  let b := Block.copyFromSlice b 0x11 (← m.reverbVolume.toBytes "reverb_volume")
  let b := Block.copyFromSlice b 0x14 (← m.saturation.toBytes "saturation")
  let b := Block.copyFromSlice b 0x17 (← m.wowFlutter.toBytes "wow_flutter")
  let b := b.set 0x1A m.reverbSw.toUInt8
  let b := b.set 0x1B m.tapSw.toUInt8
  let b := Block.copyFromSlice b 0x1C (← packTapTime m.tapTimeMs)
  let b := b.set 0x20 m.timeMode.toByte
  return b

/-- The block a value is laid out as, offset by offset. -/
def block (m : Memory) : Vector UInt8 memoryBlockLen :=
  #v[m.tape.toByte, m.mode.toByte,
    m.repeatRate.value, m.repeatRate.min, m.repeatRate.max,
    m.intensity.value, m.intensity.min, m.intensity.max,
    m.echoVolume.value, m.echoVolume.min, m.echoVolume.max,
    m.bass.value, m.bass.min, m.bass.max,
    m.treble.value, m.treble.min, m.treble.max,
    m.reverbVolume.value, m.reverbVolume.min, m.reverbVolume.max,
    m.saturation.value, m.saturation.min, m.saturation.max,
    m.wowFlutter.value, m.wowFlutter.min, m.wowFlutter.max,
    m.reverbSw.toUInt8, m.tapSw.toUInt8,
    (tapNibbles m.tapTimeMs)[0], (tapNibbles m.tapTimeMs)[1],
    (tapNibbles m.tapTimeMs)[2], (tapNibbles m.tapTimeMs)[3],
    m.timeMode.toByte]

/-- The 24 pedal bytes are 7-bit. -/
structure RangesValid (m : Memory) : Prop where
  repeatRate : m.repeatRate.InRange
  intensity : m.intensity.InRange
  echoVolume : m.echoVolume.InRange
  bass : m.bass.InRange
  treble : m.treble.InRange
  reverbVolume : m.reverbVolume.InRange
  saturation : m.saturation.InRange
  wowFlutter : m.wowFlutter.InRange

/-- What the encoder accepts: besides the pedal bytes it bounds the tap time. -/
structure InRange (m : Memory) : Prop where
  ranges : m.RangesValid
  tapTimeMs : m.tapTimeMs ≤ 2000

theorem fromBytes_of_length_ne {bytes : List UInt8}
    (hlength : bytes.length ≠ memoryBlockLen) :
    fromBytes bytes = .error (.wrongLength memoryBlockLen bytes.length) := by
  rw [fromBytes, dif_pos hlength]

theorem fromBytes_toList (b : Vector UInt8 memoryBlockLen) :
    fromBytes b.toList = do
      return {
        tape := ← Tape.fromByte b[0x00]
        mode := ← Mode.fromByte b[0x01]
        repeatRate := ← RangedParam.fromBytes
          b[0x02] b[0x03] b[0x04] "repeat_rate"
        intensity := ← RangedParam.fromBytes
          b[0x05] b[0x06] b[0x07] "intensity"
        echoVolume := ← RangedParam.fromBytes
          b[0x08] b[0x09] b[0x0A] "echo_volume"
        bass := ← RangedParam.fromBytes b[0x0B] b[0x0C] b[0x0D] "bass"
        treble := ← RangedParam.fromBytes b[0x0E] b[0x0F] b[0x10] "treble"
        reverbVolume := ← RangedParam.fromBytes
          b[0x11] b[0x12] b[0x13] "reverb_volume"
        saturation := ← RangedParam.fromBytes
          b[0x14] b[0x15] b[0x16] "saturation"
        wowFlutter := ← RangedParam.fromBytes
          b[0x17] b[0x18] b[0x19] "wow_flutter"
        reverbSw := ← byteToBool b[0x1A] "reverb_sw"
        tapSw := ← byteToBool b[0x1B] "tap_sw"
        tapTimeMs := ← unpackTapTime #v[b[0x1C], b[0x1D], b[0x1E], b[0x1F]]
        timeMode := ← TimeMode.fromByte b[0x20] } := by
  have hwrong : ¬ b.toList.length ≠ memoryBlockLen := by simp
  unfold fromBytes
  rw [dif_neg hwrong]
  simp only [Vector.getElem_toList]

/-- The assignments, slice by slice, build the block. -/
theorem assignments_eq_block (m : Memory) :
    (let triple := fun p : RangedParam => #v[p.value, p.min, p.max]
      let b : Vector UInt8 33 := Vector.replicate 33 0
      let b := b.set 0x00 m.tape.toByte
      let b := b.set 0x01 m.mode.toByte
      let b := Block.copyFromSlice b 0x02 (triple m.repeatRate)
      let b := Block.copyFromSlice b 0x05 (triple m.intensity)
      let b := Block.copyFromSlice b 0x08 (triple m.echoVolume)
      let b := Block.copyFromSlice b 0x0B (triple m.bass)
      let b := Block.copyFromSlice b 0x0E (triple m.treble)
      let b := Block.copyFromSlice b 0x11 (triple m.reverbVolume)
      let b := Block.copyFromSlice b 0x14 (triple m.saturation)
      let b := Block.copyFromSlice b 0x17 (triple m.wowFlutter)
      let b := b.set 0x1A m.reverbSw.toUInt8
      let b := b.set 0x1B m.tapSw.toUInt8
      let b := Block.copyFromSlice b 0x1C (tapNibbles m.tapTimeMs)
      b.set 0x20 m.timeMode.toByte) = m.block := by
  apply Vector.toList_inj.mp
  simp only [Vector.toList_set, Block.toList_copyFromSlice,
    Vector.toList_replicate, List.replicate, List.set_cons_zero,
    List.set_cons_succ, Block.toList_eq_ofFn (tapNibbles m.tapTimeMs)]
  simp [block, List.ofFn_succ, tapTimeLen]

theorem toBytes_eq_ok_iff (m : Memory) (b : Vector UInt8 memoryBlockLen) :
    m.toBytes = .ok b ↔ m.InRange ∧ m.block = b := by
  unfold toBytes
  simp only [Codec.bind_returns_iff, RangedParam.toBytes_eq_ok_iff,
    packTapTime_eq_ok_iff, pure, Except.pure, Except.ok.injEq]
  constructor
  · intro hsteps
    obtain ⟨_, ⟨h0, rfl⟩, _, ⟨h1, rfl⟩, _, ⟨h2, rfl⟩, _, ⟨h3, rfl⟩,
      _, ⟨h4, rfl⟩, _, ⟨h5, rfl⟩, _, ⟨h6, rfl⟩, _, ⟨h7, rfl⟩,
      _, ⟨htap, rfl⟩, rfl⟩ := hsteps
    exact ⟨⟨⟨h0, h1, h2, h3, h4, h5, h6, h7⟩, htap⟩,
      (assignments_eq_block m).symm⟩
  · intro haccepted
    obtain ⟨⟨⟨h0, h1, h2, h3, h4, h5, h6, h7⟩, htap⟩, rfl⟩ := haccepted
    exact ⟨_, ⟨h0, rfl⟩, _, ⟨h1, rfl⟩, _, ⟨h2, rfl⟩, _, ⟨h3, rfl⟩,
      _, ⟨h4, rfl⟩, _, ⟨h5, rfl⟩, _, ⟨h6, rfl⟩, _, ⟨h7, rfl⟩,
      _, ⟨htap, rfl⟩, assignments_eq_block m⟩

/-- One equation per offset: the block read is the block the value is laid
out as. -/
theorem fromBytes_toList_eq_ok_iff (b : Vector UInt8 memoryBlockLen)
    (m : Memory) :
    fromBytes b.toList = .ok m ↔ m.RangesValid ∧ m.block = b := by
  rw [fromBytes_toList]
  simp only [Codec.bind_returns_iff, byteToBool_eq_ok_iff,
    RangedParam.fromBytes_eq_ok_iff, unpackTapTime_eq_ok_iff,
    Tape.exact.decode_eq_ok_iff, Mode.exact.decode_eq_ok_iff,
    TimeMode.exact.decode_eq_ok_iff, true_and]
  constructor
  · intro hsteps
    obtain ⟨x0, h0, x1, h1, x2, ⟨hr2, h2⟩, x3, ⟨hr3, h3⟩, x4, ⟨hr4, h4⟩,
      x5, ⟨hr5, h5⟩, x6, ⟨hr6, h6⟩, x7, ⟨hr7, h7⟩, x8, ⟨hr8, h8⟩,
      x9, ⟨hr9, h9⟩, x10, h10, x11, h11, x12, h12, x13, h13, hm⟩ := hsteps
    cases hm
    refine ⟨⟨hr2, hr3, hr4, hr5, hr6, hr7, hr8, hr9⟩, ?_⟩
    apply Vector.toList_inj.mp
    rw [Block.toList_eq_ofFn b]
    simp [List.ofFn_succ, block, h0, h1, h2, h3, h4, h5, h6, h7, h8, h9, h10,
      h11, h12, h13]
  · intro hlaid
    obtain ⟨hwell, rfl⟩ := hlaid
    exact ⟨_, rfl, _, rfl, _, ⟨hwell.repeatRate, rfl, rfl, rfl⟩,
      _, ⟨hwell.intensity, rfl, rfl, rfl⟩, _, ⟨hwell.echoVolume, rfl, rfl, rfl⟩,
      _, ⟨hwell.bass, rfl, rfl, rfl⟩, _, ⟨hwell.treble, rfl, rfl, rfl⟩,
      _, ⟨hwell.reverbVolume, rfl, rfl, rfl⟩,
      _, ⟨hwell.saturation, rfl, rfl, rfl⟩,
      _, ⟨hwell.wowFlutter, rfl, rfl, rfl⟩, _, rfl, _, rfl, _, rfl, _, rfl, rfl⟩

theorem exact :
    Codec.Exact fromBytes (Vector.toList ∘ block) RangesValid := by
  apply Block.exact_of_toList
  · intro bytes hlength
    exact ⟨_, fromBytes_of_length_ne hlength⟩
  · exact fromBytes_toList_eq_ok_iff

theorem checked : Codec.Checked toBytes block InRange where
  ok_iff := toBytes_eq_ok_iff _ _

theorem blockTapTime_block (m : Memory) :
    blockTapTime m.block.toList = m.tapTimeMs.toNat := by
  obtain ⟨h0, h1, h2, h3⟩ :=
    (tapNibbles_eq_iff m.tapTimeMs (tapNibbles m.tapTimeMs)).mp rfl
  have hms := m.tapTimeMs.toNat_lt
  change (((0 * 16 + (tapNibbles m.tapTimeMs)[0].toNat) * 16 +
    (tapNibbles m.tapTimeMs)[1].toNat) * 16 +
    (tapNibbles m.tapTimeMs)[2].toNat) * 16 +
    (tapNibbles m.tapTimeMs)[3].toNat = _
  omega

/-- With its pedal bytes in range, every byte of a block is 7-bit. -/
theorem block_lt {m : Memory} (hranges : m.RangesValid) :
    ∀ b ∈ m.block.toList, b < 0x80 := by
  have hpedal : ∀ p : RangedParam, p.InRange →
      p.value < 0x80 ∧ p.min < 0x80 ∧ p.max < 0x80 := by
    intro p hp
    exact ⟨UInt8.lt_of_le_of_lt hp.1 (by decide),
      UInt8.lt_of_le_of_lt hp.2.1 (by decide),
      UInt8.lt_of_le_of_lt hp.2.2 (by decide)⟩
  have htape : m.tape.toByte < 0x80 := by cases m.tape <;> decide
  have hmode : m.mode.toByte < 0x80 := by cases m.mode <;> decide
  have htime : m.timeMode.toByte < 0x80 := by cases m.timeMode <;> decide
  have hswitch : ∀ on : Bool, on.toUInt8 < 0x80 := by decide
  have htap := tapNibbles_lt m.tapTimeMs
  simp [block, htape, hmode, htime, hswitch, htap,
    hpedal _ hranges.repeatRate, hpedal _ hranges.intensity,
    hpedal _ hranges.echoVolume, hpedal _ hranges.bass,
    hpedal _ hranges.treble, hpedal _ hranges.reverbVolume,
    hpedal _ hranges.saturation, hpedal _ hranges.wowFlutter]

/-- The block captured from MEMORY 1 of a pedal, decoded. -/
def captured : Memory where
  tape := .new
  mode := .m5
  repeatRate := ⟨0x4D, 0x4D, 0x4D⟩
  intensity := ⟨0x36, 0x36, 0x36⟩
  echoVolume := ⟨0x60, 0x3F, 0x7F⟩
  bass := ⟨0x3F, 0x3F, 0x3F⟩
  treble := ⟨0x3E, 0x3E, 0x3E⟩
  reverbVolume := ⟨0x06, 0x06, 0x06⟩
  saturation := ⟨0x00, 0x00, 0x00⟩
  wowFlutter := ⟨0x52, 0x52, 0x52⟩
  reverbSw := true
  tapSw := false
  tapTimeMs := 500
  timeMode := .normal

example : fromBytes [0x00, 0x04, 0x4D, 0x4D, 0x4D, 0x36, 0x36, 0x36, 0x60, 0x3F,
    0x7F, 0x3F, 0x3F, 0x3F, 0x3E, 0x3E, 0x3E, 0x06, 0x06, 0x06, 0x00, 0x00,
    0x00, 0x52, 0x52, 0x52, 0x01, 0x00, 0x00, 0x01, 0x0F, 0x04, 0x00] =
    .ok captured := by
  rfl

theorem captured_inRange : captured.InRange where
  ranges := by constructor <;> decide
  tapTimeMs := by decide

end Memory

end SpaceEcho
