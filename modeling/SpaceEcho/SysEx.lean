/-
Roland SysEx framing for the RE-202: the checksum, the frame, and its encoder
and decoder.

    F0 41 [dev] 00 00 00 00 18 [cmd] [a a a a] [d d d ...] [chk] F7

The decoder is analysed once, on messages split into their fields by position;
everything else about it follows from that decision list.
-/
import SpaceEcho.Address
import SpaceEcho.Lib.Block
import SpaceEcho.Lib.Codec

namespace SpaceEcho

def sysexStart : UInt8 := 0xF0
def sysexEnd : UInt8 := 0xF7
def rolandId : UInt8 := 0x41

/-- Five-byte Roland model id of the RE-202. -/
def re202ModelId : Vector UInt8 5 := #v[0x00, 0x00, 0x00, 0x00, 0x18]

/-- Data Set 1: write data to the device. -/
def cmdDT1 : UInt8 := 0x12

/-- Data Request 1: ask the device to send data back. -/
def cmdRQ1 : UInt8 := 0x11

/-- `F0 41 dev 00 00 00 00 18 cmd a a a a chk F7`. -/
abbrev minFrameLen : ℕ := 15

inductive SysExError where
  | tooShort (length : ℕ)
  | missingStart
  | missingEnd
  | notRoland (manufacturer : UInt8)
  | invalidDeviceId (deviceId : UInt8)
  | wrongModel
  | unknownCommand (command : UInt8)
  | checksumMismatch (expected actual : UInt8)
  | dataByteOutOfRange (index : ℕ)
deriving Repr, DecidableEq

/-- The Roland checksum over the address and data section.  The accumulator is
a `u32` and wraps. -/
def checksum (addrAndData : List UInt8) : UInt8 :=
  let sum : UInt32 := addrAndData.foldl (fun acc b => acc + b.toUInt32) 0
  ((128 - sum % 128) % 128).toUInt8

/-- The accumulator is the exact sum modulo `2 ^ 32`. -/
theorem foldl_add_toNat (bytes : List UInt8) (acc : UInt32) :
    (bytes.foldl (fun acc b => acc + b.toUInt32) acc).toNat =
      (acc.toNat + (bytes.map UInt8.toNat).sum) % 2 ^ 32 := by
  induction bytes generalizing acc with
  | nil => exact (Nat.mod_eq_of_lt acc.toNat_lt).symm
  | cons b rest ih =>
      rw [List.foldl_cons, ih]
      simp only [List.map_cons, List.sum_cons, UInt32.toNat_add,
        UInt8.toNat_toUInt32]
      omega

/-- The checksum completes the exact sum to a multiple of 128, at any length:
128 divides `2 ^ 32`, so wrapping keeps the residue. -/
theorem checksum_toNat (bytes : List UInt8) :
    (checksum bytes).toNat =
      (128 - (bytes.map UInt8.toNat).sum % 128) % 128 := by
  have hsum := congrArg (· % 128) (foldl_add_toNat bytes 0)
  simp only [UInt32.toNat_zero, Nat.zero_add,
    Nat.mod_mod_of_dvd _ (by decide : 128 ∣ 2 ^ 32)] at hsum
  unfold checksum
  generalize bytes.foldl (fun acc b => acc + b.toUInt32) 0 = sum at hsum ⊢
  have hle : sum % 128 ≤ 128 := UInt32.le_of_lt (UInt32.mod_lt sum (by decide))
  simp only [UInt32.toNat_toUInt8, UInt32.toNat_mod,
    UInt32.toNat_sub_of_le _ _ hle, UInt32.reduceToNat, hsum]
  omega

theorem checksum_lt (bytes : List UInt8) : checksum bytes < 0x80 := by
  rw [UInt8.lt_iff_toNat_lt, checksum_toNat]
  exact Nat.mod_lt _ (by decide)

/-- A frame addressed to or from the device.  For RQ1 the data is the four-byte
size field; for DT1 it is the bytes written. -/
structure Frame where
  deviceId : UInt8
  command : UInt8
  address : Address
  data : List UInt8
deriving Repr, DecidableEq

namespace Frame

/-- A DT1 frame: the recipient writes `data` to `address`. -/
def dataSet (deviceId : UInt8) (address : Address) (data : List UInt8) : Frame where
  deviceId := deviceId
  command := cmdDT1
  address := address
  data := data

/-- An RQ1 frame asking for `size` bytes from `address` on. -/
def dataRequest (deviceId : UInt8) (address size : Address) : Frame where
  deviceId := deviceId
  command := cmdRQ1
  address := address
  data := size.toList

def encode (f : Frame) : List UInt8 :=
  [sysexStart, rolandId, f.deviceId] ++ re202ModelId.toList ++ [f.command] ++
    f.address.toList ++ f.data ++
    [checksum (f.address.toList ++ f.data), sysexEnd]

/-- The checks are made in this order; the first that fails names the error. -/
def decode (bytes : List UInt8) : Except SysExError Frame :=
  if hshort : bytes.length < minFrameLen then
    .error (.tooShort bytes.length)
  else
    have hlen : 15 ≤ bytes.length := Nat.le_of_not_lt hshort
    if bytes[0] ≠ sysexStart then .error .missingStart
    else if bytes.getLast (List.ne_nil_of_length_pos (by omega)) ≠ sysexEnd then
      .error .missingEnd
    else if bytes[1] ≠ rolandId then .error (.notRoland bytes[1])
    else
      let deviceId := bytes[2]
      if ¬ (0x10 ≤ deviceId ∧ deviceId ≤ 0x1F) then
        .error (.invalidDeviceId deviceId)
      else if bytes.extract 3 8 ≠ re202ModelId.toList then .error .wrongModel
      else
        let command := bytes[8]
        if command ≠ cmdDT1 ∧ command ≠ cmdRQ1 then
          .error (.unknownCommand command)
        else
          let address : Address := #v[bytes[9], bytes[10], bytes[11], bytes[12]]
          -- The payload stops short of the checksum and the end byte.
          let payloadEnd := bytes.length - 2
          let data := bytes.extract 13 payloadEnd
          match data.findIdx? (fun b => decide (0x80 ≤ b)) with
          | some i => .error (.dataByteOutOfRange i)
          | none =>
              let expected := bytes[payloadEnd]
              let actual := checksum (address.toList ++ data)
              if expected ≠ actual then
                .error (.checksumMismatch expected actual)
              else .ok ⟨deviceId, command, address, data⟩

end Frame

/-- A message of at least the minimum length, split by position and not yet
checked in any way. -/
structure RawFrame where
  start : UInt8
  manufacturer : UInt8
  deviceId : UInt8
  model : Vector UInt8 5
  command : UInt8
  address : Address
  data : List UInt8
  checksum : UInt8
  stop : UInt8

namespace RawFrame

def bytes (raw : RawFrame) : List UInt8 :=
  [raw.start, raw.manufacturer, raw.deviceId] ++ raw.model.toList ++
    [raw.command] ++ raw.address.toList ++ raw.data ++ [raw.checksum, raw.stop]

theorem bytes_eq_cons (raw : RawFrame) :
    raw.bytes =
      raw.start :: raw.manufacturer :: raw.deviceId ::
        raw.model[0] :: raw.model[1] :: raw.model[2] :: raw.model[3] ::
        raw.model[4] :: raw.command ::
        (raw.address.toList ++ (raw.data ++ [raw.checksum, raw.stop])) := by
  simp [bytes, Block.toList_eq_ofFn, List.ofFn_succ]

@[simp] theorem length_bytes (raw : RawFrame) :
    raw.bytes.length = raw.data.length + 15 := by
  simp [bytes_eq_cons]
  omega

theorem exists_last_two {l : List UInt8} (hlength : 2 ≤ l.length) :
    ∃ front x y, l = front ++ [x, y] := by
  have hlast : (l.drop (l.length - 2)).length = 2 := by
    rw [List.length_drop]
    omega
  have hsplit := List.take_append_drop (l.length - 2) l
  match hdrop : l.drop (l.length - 2), hlast with
  | [x, y], _ =>
      rw [hdrop] at hsplit
      exact ⟨l.take (l.length - 2), x, y, hsplit.symm⟩

/-- Every message that passes the length check splits this way. -/
theorem exists_bytes_eq {message : List UInt8}
    (hlength : minFrameLen ≤ message.length) :
    ∃ raw : RawFrame, raw.bytes = message := by
  rw [minFrameLen] at hlength
  have hhead : (message.take 13).length = 13 := by
    rw [List.length_take]
    omega
  have htail : 2 ≤ (message.drop 13).length := by
    rw [List.length_drop]
    omega
  obtain ⟨data, chk, stop, hdata⟩ := exists_last_two htail
  rw [← List.take_append_drop 13 message, hdata]
  match message.take 13, hhead with
  | [b0, b1, b2, m0, m1, m2, m3, m4, cmd, a0, a1, a2, a3], _ =>
      exact ⟨⟨b0, b1, b2, #v[m0, m1, m2, m3, m4], cmd, #v[a0, a1, a2, a3],
        data, chk, stop⟩, by simp [bytes]⟩

end RawFrame

namespace Frame

/-- The decoder as a decision list over the fields of the message. -/
theorem decode_bytes (raw : RawFrame) :
    decode raw.bytes =
      if raw.start ≠ sysexStart then .error .missingStart
      else if raw.stop ≠ sysexEnd then .error .missingEnd
      else if raw.manufacturer ≠ rolandId then
        .error (.notRoland raw.manufacturer)
      else if ¬ (0x10 ≤ raw.deviceId ∧ raw.deviceId ≤ 0x1F) then
        .error (.invalidDeviceId raw.deviceId)
      else if raw.model ≠ re202ModelId then .error .wrongModel
      else if raw.command ≠ cmdDT1 ∧ raw.command ≠ cmdRQ1 then
        .error (.unknownCommand raw.command)
      else match raw.data.findIdx? (fun b => decide (0x80 ≤ b)) with
        | some i => .error (.dataByteOutOfRange i)
        | none =>
            if raw.checksum ≠ checksum (raw.address.toList ++ raw.data) then
              .error (.checksumMismatch raw.checksum
                (checksum (raw.address.toList ++ raw.data)))
            else .ok ⟨raw.deviceId, raw.command, raw.address, raw.data⟩ := by
  have hstart : ∀ _ : 0 < raw.bytes.length, raw.bytes[0] = raw.start :=
    fun _ => rfl
  have hlast : ∀ h, raw.bytes.getLast h = raw.stop := by
    intro h
    apply Option.some.inj
    rw [← List.getLast?_eq_some_getLast, RawFrame.bytes, List.getLast?_append]
    rfl
  have hmanufacturer : ∀ _ : 1 < raw.bytes.length,
      raw.bytes[1] = raw.manufacturer := fun _ => rfl
  have hdevice : ∀ _ : 2 < raw.bytes.length, raw.bytes[2] = raw.deviceId :=
    fun _ => rfl
  have hmodel : raw.bytes.extract 3 8 = raw.model.toList := by
    simp [RawFrame.bytes_eq_cons, Block.toList_eq_ofFn, List.ofFn_succ]
  have hcommand : ∀ _ : 8 < raw.bytes.length, raw.bytes[8] = raw.command := by
    intro _
    simp [RawFrame.bytes_eq_cons]
  have haddress : ∀ (_ : 9 < raw.bytes.length) (_ : 10 < raw.bytes.length)
      (_ : 11 < raw.bytes.length) (_ : 12 < raw.bytes.length),
      (#v[raw.bytes[9], raw.bytes[10], raw.bytes[11], raw.bytes[12]] :
        Address) = raw.address := by
    intro _ _ _ _
    apply Vector.toList_inj.mp
    simp [RawFrame.bytes_eq_cons, Block.toList_eq_ofFn, List.ofFn_succ]
  have hdata : raw.bytes.extract 13 (raw.bytes.length - 2) = raw.data := by
    rw [RawFrame.length_bytes]
    simp [RawFrame.bytes_eq_cons]
  have hchecksum : ∀ _ : raw.bytes.length - 2 < raw.bytes.length,
      raw.bytes[raw.bytes.length - 2] = raw.checksum := by
    intro _
    simp only [RawFrame.length_bytes]
    simp [RawFrame.bytes_eq_cons]
  have hlong : ¬ raw.bytes.length < minFrameLen := by
    rw [RawFrame.length_bytes, minFrameLen]
    omega
  unfold decode
  rw [dif_neg hlong]
  simp only [hstart, hlast, hmanufacturer, hdevice, hmodel, hcommand, haddress,
    hdata, hchecksum, ne_eq, Vector.toList_inj]

theorem decode_of_short {message : List UInt8}
    (hshort : message.length < minFrameLen) :
    decode message = .error (.tooShort message.length) := by
  rw [decode, dif_pos hshort]

theorem decode_bytes_eq_ok_iff (raw : RawFrame) (f : Frame) :
    decode raw.bytes = .ok f ↔
      raw.start = sysexStart ∧ raw.stop = sysexEnd ∧
        raw.manufacturer = rolandId ∧
        (0x10 ≤ raw.deviceId ∧ raw.deviceId ≤ 0x1F) ∧
        raw.model = re202ModelId ∧
        (raw.command = cmdDT1 ∨ raw.command = cmdRQ1) ∧
        (∀ b ∈ raw.data, b < 0x80) ∧
        raw.checksum = checksum (raw.address.toList ++ raw.data) ∧
        f = ⟨raw.deviceId, raw.command, raw.address, raw.data⟩ := by
  have hcommand : ¬ (raw.command ≠ cmdDT1 ∧ raw.command ≠ cmdRQ1) ↔
      raw.command = cmdDT1 ∨ raw.command = cmdRQ1 := by
    tauto
  have hdata : raw.data.findIdx? (fun b => decide (0x80 ≤ b)) = none ↔
      ∀ b ∈ raw.data, b < 0x80 := by
    simp [List.findIdx?_eq_none_iff, UInt8.not_le]
  rw [decode_bytes]
  simp only [Codec.guard_returns_iff, hcommand, ne_eq, not_not]
  rw [← hdata]
  cases raw.data.findIdx? (fun b => decide (0x80 ≤ b)) with
  | some i => simp
  | none =>
      simp only [Codec.guard_returns_iff, not_not, Except.ok.injEq, true_and,
        @eq_comm _ f]

/-- The frames the wire format can carry. -/
structure Valid (f : Frame) : Prop where
  deviceId : 0x10 ≤ f.deviceId ∧ f.deviceId ≤ 0x1F
  command : f.command = cmdDT1 ∨ f.command = cmdRQ1
  data : ∀ b ∈ f.data, b < 0x80

/-- The fields of the message that encodes a frame. -/
def raw (f : Frame) : RawFrame where
  start := sysexStart
  manufacturer := rolandId
  deviceId := f.deviceId
  model := re202ModelId
  command := f.command
  address := f.address
  data := f.data
  checksum := SpaceEcho.checksum (f.address.toList ++ f.data)
  stop := sysexEnd

theorem raw_bytes (f : Frame) : f.raw.bytes = f.encode := rfl

theorem exact : Codec.Exact decode encode Valid where
  sound := by
    intro message f hdecode
    have hlength : minFrameLen ≤ message.length := by
      by_contra hshort
      rw [decode_of_short (Nat.lt_of_not_le hshort)] at hdecode
      cases hdecode
    obtain ⟨raw, rfl⟩ := RawFrame.exists_bytes_eq hlength
    rw [decode_bytes_eq_ok_iff] at hdecode
    obtain ⟨hstart, hstop, hman, hdevice, hmodel, hcommand, hdata, hchecksum,
      rfl⟩ := hdecode
    refine ⟨⟨hdevice, hcommand, hdata⟩, ?_⟩
    rw [← raw_bytes]
    congr 1
    cases raw
    simp_all [Frame.raw]
  complete := by
    intro f hvalid
    rw [← raw_bytes, decode_bytes_eq_ok_iff]
    exact ⟨rfl, rfl, rfl, hvalid.deviceId, rfl, hvalid.command, hvalid.data,
      rfl, rfl⟩

/-- The decoder is the inverse of the encoder on the frames the format can
carry, and refuses everything that is not the encoding of one. -/
theorem decode_eq_ok_iff_encode_eq (message : List UInt8) (f : Frame) :
    decode message = .ok f ↔
      ((0x10 ≤ f.deviceId ∧ f.deviceId ≤ 0x1F) ∧
        (f.command = 0x11 ∨ f.command = 0x12) ∧
        ∀ b ∈ f.data, b < 0x80) ∧
      f.encode = message := by
  rw [exact.decode_eq_ok_iff]
  constructor
  · intro hexact
    obtain ⟨hvalid, hencode⟩ := hexact
    exact ⟨⟨hvalid.deviceId, hvalid.command.symm, hvalid.data⟩, hencode⟩
  · intro hframe
    obtain ⟨⟨hdevice, hcommand, hdata⟩, hencode⟩ := hframe
    exact ⟨⟨hdevice, hcommand.symm, hdata⟩, hencode⟩

/-- The fields of a message by position, with nothing checked: what a receiver
that trusts the sender would act on. -/
def ofWire : List UInt8 → Option Frame
  | _ :: _ :: deviceId :: _ :: _ :: _ :: _ :: _ :: command ::
      a0 :: a1 :: a2 :: a3 :: rest =>
      some ⟨deviceId, command, #v[a0, a1, a2, a3], rest.dropLast.dropLast⟩
  | _ => none

/-- The fields are where the encoder put them, for any frame at all. -/
theorem ofWire_encode (f : Frame) : ofWire f.encode = some f := by
  obtain ⟨deviceId, command, address, data⟩ := f
  obtain ⟨a0, a1, a2, a3, haddress⟩ : ∃ a0 a1 a2 a3,
      address = #v[a0, a1, a2, a3] := by
    refine ⟨address[0], address[1], address[2], address[3], ?_⟩
    apply Vector.toList_inj.mp
    simp [Block.toList_eq_ofFn, List.ofFn_succ]
  have hdata : ∀ x y, (data ++ [x, y]).dropLast.dropLast = data := by simp
  subst haddress
  rw [← raw_bytes, RawFrame.bytes_eq_cons]
  simp only [raw, Vector.toList_mk, List.cons_append, List.nil_append, ofWire,
    hdata]

end Frame

end SpaceEcho
