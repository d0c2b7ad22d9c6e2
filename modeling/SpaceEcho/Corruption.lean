/-
One byte of a good message replaced.  The decoder notices at every position,
and its error names the part of the message the byte belongs to; only another
device id or the other command is as good as the byte it replaces.  More than
one byte of the payload is another matter: a payload of the same sum passes,
whatever its order or its length.
-/
import SpaceEcho.Checksum

namespace SpaceEcho

/-- Replacing one 7-bit byte by another moves the sum by less than 128, so the
checksum cannot stay. -/
theorem checksum_set_ne {bytes : List UInt8} {i : ℕ} (hi : i < bytes.length)
    {v : UInt8} (hv : v < 0x80) (hold : bytes[i] < 0x80) (hne : v ≠ bytes[i]) :
    checksum bytes ≠ checksum (bytes.set i v) := by
  intro heq
  have hsum := congrArg UInt8.toNat heq
  rw [List.set_eq_take_append_cons_drop, if_pos hi] at hsum
  nth_rewrite 1 [← List.take_append_drop i bytes,
    List.drop_eq_getElem_cons hi] at hsum
  simp only [checksum_toNat, List.map_append, List.map_cons, List.sum_append,
    List.sum_cons] at hsum
  have hvlt := UInt8.lt_iff_toNat_lt.mp hv
  have hlt := UInt8.lt_iff_toNat_lt.mp hold
  have hval := UInt8.toNat_inj.not.mpr hne
  change v.toNat < 128 at hvlt
  change bytes[i].toNat < 128 at hlt
  omega

namespace RawFrame

theorem set_model (raw : RawFrame) {i : ℕ} (hi : i < 5) (v : UInt8) :
    raw.bytes.set (3 + i) v =
      { raw with model := raw.model.set i v }.bytes := by
  have hsplit : ∀ r : RawFrame, r.bytes = [r.start, r.manufacturer, r.deviceId] ++
      (r.model.toList ++ (r.command ::
        (r.address.toList ++ (r.data ++ [r.checksum, r.stop])))) := by
    intro r
    simp [bytes]
  rw [hsplit, hsplit, Vector.toList_set]
  exact Block.set_middle _ _ _ (by simpa using hi) v

theorem set_address (raw : RawFrame) {i : ℕ} (hi : i < 4) (v : UInt8) :
    raw.bytes.set (9 + i) v =
      { raw with address := raw.address.set i v }.bytes := by
  have hsplit : ∀ r : RawFrame, r.bytes =
      ([r.start, r.manufacturer, r.deviceId] ++ r.model.toList ++ [r.command]) ++
        (r.address.toList ++ (r.data ++ [r.checksum, r.stop])) := by
    intro r
    simp [bytes]
  have hfront : ([raw.start, raw.manufacturer, raw.deviceId] ++
      raw.model.toList ++ [raw.command]).length = 9 := by
    simp
  rw [hsplit, hsplit, Vector.toList_set, ← hfront]
  exact Block.set_middle _ _ _ (by simpa using hi) v

/-- What stands before the payload. -/
def header (raw : RawFrame) : List UInt8 :=
  [raw.start, raw.manufacturer, raw.deviceId] ++ raw.model.toList ++
    [raw.command] ++ raw.address.toList

theorem bytes_eq_header (raw : RawFrame) :
    raw.bytes = raw.header ++ (raw.data ++ [raw.checksum, raw.stop]) := by
  simp [bytes, header]

theorem length_header (raw : RawFrame) : raw.header.length = 13 := by
  simp [header]

theorem set_data (raw : RawFrame) {i : ℕ} (hi : i < raw.data.length) (v : UInt8) :
    raw.bytes.set (13 + i) v = { raw with data := raw.data.set i v }.bytes := by
  rw [bytes_eq_header, bytes_eq_header, ← raw.length_header]
  exact Block.set_middle _ _ _ hi v

theorem set_trailer (raw : RawFrame) (i : ℕ) (v : UInt8) :
    raw.bytes.set (13 + raw.data.length + i) v =
      raw.header ++ raw.data ++ [raw.checksum, raw.stop].set i v := by
  have hlength : (raw.header ++ raw.data).length = 13 + raw.data.length := by
    rw [List.length_append, length_header]
  rw [bytes_eq_header, ← List.append_assoc, ← hlength,
    List.set_append_right _ _ (Nat.le_add_right _ _), Nat.add_sub_cancel_left]

theorem set_checksum (raw : RawFrame) (v : UInt8) :
    raw.bytes.set (13 + raw.data.length) v = { raw with checksum := v }.bytes := by
  rw [bytes_eq_header { raw with checksum := v }, ← List.append_assoc]
  exact raw.set_trailer 0 v

theorem set_stop (raw : RawFrame) (v : UInt8) :
    raw.bytes.set (14 + raw.data.length) v = { raw with stop := v }.bytes := by
  rw [bytes_eq_header { raw with stop := v }, ← List.append_assoc,
    Nat.add_right_comm 13 1]
  exact raw.set_trailer 1 v

/-- The checks ahead of the payload, up to and with the model id. -/
structure Addressed (raw : RawFrame) : Prop where
  start : raw.start = sysexStart
  stop : raw.stop = sysexEnd
  manufacturer : raw.manufacturer = rolandId
  deviceId : 0x10 ≤ raw.deviceId ∧ raw.deviceId ≤ 0x1F
  model : raw.model = re202ModelId

end RawFrame

namespace Frame

section Checks

variable {raw : RawFrame}

theorem decode_missingStart (h : raw.start ≠ sysexStart) :
    decode raw.bytes = .error .missingStart := by
  rw [decode_bytes, if_pos h]

theorem decode_missingEnd (hstart : raw.start = sysexStart)
    (h : raw.stop ≠ sysexEnd) : decode raw.bytes = .error .missingEnd := by
  rw [decode_bytes, if_neg (not_not.mpr hstart), if_pos h]

theorem decode_notRoland (hstart : raw.start = sysexStart)
    (hstop : raw.stop = sysexEnd) (h : raw.manufacturer ≠ rolandId) :
    decode raw.bytes = .error (.notRoland raw.manufacturer) := by
  rw [decode_bytes, if_neg (not_not.mpr hstart), if_neg (not_not.mpr hstop),
    if_pos h]

theorem decode_invalidDeviceId (hstart : raw.start = sysexStart)
    (hstop : raw.stop = sysexEnd) (hroland : raw.manufacturer = rolandId)
    (h : ¬ (0x10 ≤ raw.deviceId ∧ raw.deviceId ≤ 0x1F)) :
    decode raw.bytes = .error (.invalidDeviceId raw.deviceId) := by
  rw [decode_bytes, if_neg (not_not.mpr hstart), if_neg (not_not.mpr hstop),
    if_neg (not_not.mpr hroland), if_pos h]

theorem decode_wrongModel (hstart : raw.start = sysexStart)
    (hstop : raw.stop = sysexEnd) (hroland : raw.manufacturer = rolandId)
    (hdevice : 0x10 ≤ raw.deviceId ∧ raw.deviceId ≤ 0x1F)
    (h : raw.model ≠ re202ModelId) : decode raw.bytes = .error .wrongModel := by
  rw [decode_bytes, if_neg (not_not.mpr hstart), if_neg (not_not.mpr hstop),
    if_neg (not_not.mpr hroland), if_neg (not_not.mpr hdevice), if_pos h]

theorem decode_unknownCommand (hto : raw.Addressed)
    (h : ¬ (raw.command = cmdDT1 ∨ raw.command = cmdRQ1)) :
    decode raw.bytes = .error (.unknownCommand raw.command) := by
  rw [decode_bytes, if_neg (not_not.mpr hto.start), if_neg (not_not.mpr hto.stop),
    if_neg (not_not.mpr hto.manufacturer), if_neg (not_not.mpr hto.deviceId),
    if_neg (not_not.mpr hto.model), if_pos (not_or.mp h)]

/-- Behind a good header only the data range and the checksum decide. -/
theorem decode_payload (hto : raw.Addressed)
    (hcommand : raw.command = cmdDT1 ∨ raw.command = cmdRQ1) :
    decode raw.bytes =
      match raw.data.findIdx? (fun b => decide (0x80 ≤ b)) with
      | some i => .error (.dataByteOutOfRange i)
      | none =>
          if raw.checksum ≠ checksum (raw.address.toList ++ raw.data) then
            .error (.checksumMismatch raw.checksum
              (checksum (raw.address.toList ++ raw.data)))
          else .ok ⟨raw.deviceId, raw.command, raw.address, raw.data⟩ := by
  have hsteps := decode_bytes raw
  rw [if_neg (not_not.mpr hto.start), if_neg (not_not.mpr hto.stop),
    if_neg (not_not.mpr hto.manufacturer), if_neg (not_not.mpr hto.deviceId),
    if_neg (not_not.mpr hto.model),
    if_neg (fun hother => (not_or.mpr hother) hcommand)] at hsteps
  exact hsteps

theorem decode_dataByteOutOfRange (hto : raw.Addressed)
    (hcommand : raw.command = cmdDT1 ∨ raw.command = cmdRQ1) {i : ℕ}
    (hi : i < raw.data.length) (hbad : 0x80 ≤ raw.data[i])
    (hgood : ∀ j (hj : j < i), raw.data[j] < 0x80) :
    decode raw.bytes = .error (.dataByteOutOfRange i) := by
  have hfind : raw.data.findIdx? (fun b => decide (0x80 ≤ b)) = some i := by
    rw [List.findIdx?_eq_some_iff_getElem]
    refine ⟨hi, decide_eq_true hbad, ?_⟩
    intro j hj
    simpa [UInt8.not_le] using hgood j hj
  rw [decode_payload hto hcommand, hfind]

theorem decode_checksumMismatch (hto : raw.Addressed)
    (hcommand : raw.command = cmdDT1 ∨ raw.command = cmdRQ1)
    (hdata : ∀ b ∈ raw.data, b < 0x80)
    (h : raw.checksum ≠ checksum (raw.address.toList ++ raw.data)) :
    decode raw.bytes = .error (.checksumMismatch raw.checksum
      (checksum (raw.address.toList ++ raw.data))) := by
  have hfind : raw.data.findIdx? (fun b => decide (0x80 ≤ b)) = none := by
    simpa [List.findIdx?_eq_none_iff, UInt8.not_le] using hdata
  rw [decode_payload hto hcommand, hfind]
  exact if_pos h

end Checks

/-- What the checksum covers. -/
def payload (f : Frame) : List UInt8 := f.address.toList ++ f.data

section Corruption

variable {f : Frame} {v : UInt8}

theorem payload_lt (hvalid : f.Valid) (haddress : ∀ b ∈ f.address.toList, b < 0x80) :
    ∀ b ∈ f.payload, b < 0x80 :=
  List.forall_mem_append.mpr ⟨haddress, hvalid.data⟩

theorem encode_eq_payload (f : Frame) :
    f.encode = [sysexStart, rolandId, f.deviceId, 0x00, 0x00, 0x00, 0x00, 0x18,
      f.command] ++ (f.payload ++ [checksum f.payload, sysexEnd]) := by
  simp [encode, payload, re202ModelId]

theorem getElem_encode_payload {i : ℕ} (hi : i < f.payload.length)
    (hbound : 9 + i < f.encode.length) : f.encode[9 + i] = f.payload[i] := by
  simp only [encode_eq_payload]
  exact Block.getElem_middle _ _ _ hi _

theorem getElem_encode_model {i : ℕ} (hi : i < 5)
    (hbound : 3 + i < f.encode.length) : f.encode[3 + i] = re202ModelId[i] := by
  have hsplit : f.encode = [sysexStart, rolandId, f.deviceId] ++
      (re202ModelId.toList ++ (f.command ::
        (f.payload ++ [checksum f.payload, sysexEnd]))) := by
    simp [encode, payload]
  have hmodel : i < re202ModelId.toList.length := hi
  simp only [hsplit]
  exact (Block.getElem_middle _ _ _ hmodel _).trans
    (Vector.getElem_toList hmodel)

theorem getElem_encode_trailer {i : ℕ} (hi : i < 2)
    (hbound : 13 + f.data.length + i < f.encode.length) :
    f.encode[13 + f.data.length + i] = [checksum f.payload, sysexEnd][i] := by
  have hfront : ([sysexStart, rolandId, f.deviceId, 0x00, 0x00, 0x00, 0x00, 0x18,
      f.command] ++ f.payload).length = 13 + f.data.length := by
    simp [payload]
    omega
  simp only [encode_eq_payload, ← List.append_assoc]
  rw [List.getElem_append_right (by omega)]
  simp only [hfront, Nat.add_sub_cancel_left]

theorem decode_set_deviceId (hvalid : f.Valid) (v : UInt8) :
    decode (f.encode.set 2 v) =
      if 0x10 ≤ v ∧ v ≤ 0x1F then .ok { f with deviceId := v }
      else .error (.invalidDeviceId v) := by
  by_cases hdevice : 0x10 ≤ v ∧ v ≤ 0x1F
  · rw [if_pos hdevice]
    have hother : Frame.Valid { f with deviceId := v } :=
      ⟨hdevice, hvalid.command, hvalid.data⟩
    exact exact.complete hother
  · rw [if_neg hdevice]
    exact @decode_invalidDeviceId { f.raw with deviceId := v } rfl rfl rfl hdevice

theorem decode_set_command (hvalid : f.Valid) (v : UInt8) :
    decode (f.encode.set 8 v) =
      if v = 0x11 ∨ v = 0x12 then .ok { f with command := v }
      else .error (.unknownCommand v) := by
  by_cases hcommand : v = 0x11 ∨ v = 0x12
  · rw [if_pos hcommand]
    have hother : Frame.Valid { f with command := v } :=
      ⟨hvalid.deviceId, hcommand.symm, hvalid.data⟩
    exact exact.complete hother
  · rw [if_neg hcommand]
    exact @decode_unknownCommand { f.raw with command := v }
      ⟨rfl, rfl, rfl, hvalid.deviceId, rfl⟩ (fun h => hcommand h.symm)

theorem decode_set_model (hvalid : f.Valid) {i : ℕ} (hi : i < 5)
    (hne : v ≠ re202ModelId[i]) :
    decode (f.encode.set (3 + i) v) = .error .wrongModel := by
  have hmodel : re202ModelId.set i v ≠ re202ModelId := by
    intro heq
    have hself : (re202ModelId.set i v)[i] = v := Vector.getElem_set_self hi
    simp only [heq] at hself
    exact hne hself.symm
  rw [← raw_bytes, RawFrame.set_model _ hi]
  exact decode_wrongModel rfl rfl rfl hvalid.deviceId hmodel

/-- A 7-bit byte of the payload replaced by another is a checksum mismatch. -/
theorem decode_set_payload (hvalid : f.Valid)
    (haddress : ∀ b ∈ f.address.toList, b < 0x80) {i : ℕ}
    (hi : i < f.payload.length) (hv : v < 0x80) (hne : v ≠ f.payload[i]) :
    decode (f.encode.set (9 + i) v) =
      .error (.checksumMismatch (checksum f.payload)
        (checksum (f.payload.set i v))) := by
  have hold := payload_lt hvalid haddress _ (List.getElem_mem hi)
  have hchecksum := checksum_set_ne hi hv hold hne
  rw [← raw_bytes]
  by_cases hpart : i < 4
  · have hset : f.payload.set i v = (f.address.set i v).toList ++ f.data := by
      rw [payload, List.set_append_left _ _ (by simpa using hpart),
        Vector.toList_set]
    rw [hset] at hchecksum ⊢
    rw [RawFrame.set_address _ hpart]
    exact @decode_checksumMismatch { f.raw with address := f.address.set i v }
      ⟨rfl, rfl, rfl, hvalid.deviceId, rfl⟩ hvalid.command hvalid.data hchecksum
  · obtain ⟨j, rfl⟩ := Nat.exists_eq_add_of_le (Nat.le_of_not_lt hpart)
    have hj : j < f.data.length := by
      simp [payload] at hi
      omega
    have hset : f.payload.set (4 + j) v = f.address.toList ++ f.data.set j v := by
      have hfour : f.address.toList.length = 4 := f.address.length_toList
      rw [payload, List.set_append_right _ _ (by omega), hfour,
        Nat.add_sub_cancel_left]
    have hdata : ∀ b ∈ f.data.set j v, b < 0x80 := by
      intro b hb
      rcases List.mem_or_eq_of_mem_set hb with hmem | rfl
      · exact hvalid.data b hmem
      · exact hv
    rw [hset] at hchecksum ⊢
    rw [← Nat.add_assoc, RawFrame.set_data f.raw hj]
    exact @decode_checksumMismatch { f.raw with data := f.data.set j v }
      ⟨rfl, rfl, rfl, hvalid.deviceId, rfl⟩ hvalid.command hdata hchecksum

theorem decode_set_data_high (hvalid : f.Valid) {i : ℕ} (hi : i < f.data.length)
    (hv : 0x80 ≤ v) :
    decode (f.encode.set (13 + i) v) = .error (.dataByteOutOfRange i) := by
  have hlength : i < (f.data.set i v).length := by rwa [List.length_set]
  rw [← raw_bytes, RawFrame.set_data f.raw hi]
  apply @decode_dataByteOutOfRange { f.raw with data := f.data.set i v }
    ⟨rfl, rfl, rfl, hvalid.deviceId, rfl⟩ hvalid.command i hlength
  · simpa using hv
  · intro j hj
    simp only [List.getElem_set_ne (Nat.ne_of_gt hj)]
    exact hvalid.data _ (List.getElem_mem _)

theorem decode_set_checksum (hvalid : f.Valid) (hne : v ≠ checksum f.payload) :
    decode (f.encode.set (13 + f.data.length) v) =
      .error (.checksumMismatch v (checksum f.payload)) := by
  have hset := f.raw.set_checksum v
  rw [← raw_bytes]
  refine (congrArg decode hset).trans ?_
  exact @decode_checksumMismatch { f.raw with checksum := v }
    ⟨rfl, rfl, rfl, hvalid.deviceId, rfl⟩ hvalid.command hvalid.data hne

theorem decode_set_stop (hne : v ≠ sysexEnd) :
    decode (f.encode.set (14 + f.data.length) v) = .error .missingEnd := by
  have hset := f.raw.set_stop v
  rw [← raw_bytes]
  refine (congrArg decode hset).trans ?_
  exact @decode_missingEnd { f.raw with stop := v } rfl hne

end Corruption

/-- One byte of a good message replaced is always noticed, and blamed on the part
it belongs to, unless it is another device id or the other command. -/
theorem corrupted_byte_is_blamed (f : Frame) (hvalid : f.Valid)
    (haddress : ∀ b ∈ f.address.toList, b < 0x80) (i : ℕ)
    (hi : i < f.encode.length) (v : UInt8) (hne : v ≠ f.encode[i])
    (hseven : 9 ≤ i ∧ i ≤ 12 → v < 0x80) :
    (i = 0 → decode (f.encode.set i v) = .error .missingStart) ∧
    (i = 1 → decode (f.encode.set i v) = .error (.notRoland v)) ∧
    (i = 2 → decode (f.encode.set i v) =
      if 0x10 ≤ v ∧ v ≤ 0x1F then .ok { f with deviceId := v }
      else .error (.invalidDeviceId v)) ∧
    (3 ≤ i ∧ i ≤ 7 → decode (f.encode.set i v) = .error .wrongModel) ∧
    (i = 8 → decode (f.encode.set i v) =
      if v = 0x11 ∨ v = 0x12 then .ok { f with command := v }
      else .error (.unknownCommand v)) ∧
    (9 ≤ i ∧ i ≤ 12 → decode (f.encode.set i v) =
      .error (.checksumMismatch (checksum f.payload)
        (checksum (f.payload.set (i - 9) v)))) ∧
    (13 ≤ i ∧ i < 13 + f.data.length → decode (f.encode.set i v) =
      if 0x80 ≤ v then .error (.dataByteOutOfRange (i - 13))
      else .error (.checksumMismatch (checksum f.payload)
        (checksum (f.payload.set (i - 9) v)))) ∧
    (i = 13 + f.data.length → decode (f.encode.set i v) =
      .error (.checksumMismatch v (checksum f.payload))) ∧
    (i = 14 + f.data.length → decode (f.encode.set i v) = .error .missingEnd) := by
  have hpayload : f.payload.length = 4 + f.data.length := by simp [payload]
  have hmismatch : ∀ k, k < f.payload.length → i = 9 + k → v < 0x80 →
      decode (f.encode.set i v) = .error (.checksumMismatch (checksum f.payload)
        (checksum (f.payload.set (i - 9) v))) := by
    rintro k hk rfl hv
    rw [getElem_encode_payload hk] at hne
    rw [Nat.add_sub_cancel_left]
    exact decode_set_payload hvalid haddress hk hv hne
  refine ⟨?_, ?_, ?_, ?_, ?_, ?_, ?_, ?_, ?_⟩
  · rintro rfl
    exact @decode_missingStart { f.raw with start := v } hne
  · rintro rfl
    exact @decode_notRoland { f.raw with manufacturer := v } rfl rfl hne
  · rintro rfl
    exact decode_set_deviceId hvalid v
  · intro hmodel
    obtain ⟨k, rfl⟩ := Nat.exists_eq_add_of_le hmodel.1
    have hk : k < 5 := by omega
    rw [getElem_encode_model hk] at hne
    exact decode_set_model hvalid hk hne
  · rintro rfl
    exact decode_set_command hvalid v
  · intro haddr
    exact hmismatch (i - 9) (by omega) (by omega) (hseven haddr)
  · intro hdata
    obtain ⟨k, rfl⟩ := Nat.exists_eq_add_of_le hdata.1
    by_cases hv : 0x80 ≤ v
    · rw [if_pos hv, Nat.add_sub_cancel_left]
      exact decode_set_data_high hvalid (by omega) hv
    · rw [if_neg hv]
      exact hmismatch (4 + k) (by omega) (by omega) (UInt8.not_le.mp hv)
  · rintro rfl
    have hfound : f.encode[13 + f.data.length] = checksum f.payload :=
      @getElem_encode_trailer f 0 (by decide) hi
    rw [hfound] at hne
    exact decode_set_checksum hvalid hne
  · intro hlast
    have hstop : 14 + f.data.length = 13 + f.data.length + 1 := by omega
    subst hlast
    simp only [hstop] at hne
    rw [getElem_encode_trailer (by decide : 1 < 2)] at hne
    exact decode_set_stop hne

/-- Input Source set to Line in a message that said Guitar. -/
theorem corrupted_input_source :
    decode ((dataSet 0x10 systemBase [0x00]).encode.set 13 0x01) =
      .error (.checksumMismatch 0x70 0x6F) := by
  have hvalid : (dataSet 0x10 systemBase [0x00]).Valid :=
    ⟨by decide, Or.inl rfl, by simp [dataSet]⟩
  have haddress : ∀ b ∈ (dataSet 0x10 systemBase [0x00]).address.toList,
      b < 0x80 := by
    simp [dataSet, systemBase]
  have hblamed := corrupted_byte_is_blamed _ hvalid haddress 13 (by decide) 0x01
    (by decide) (by decide)
  exact hblamed.2.2.2.2.2.2.1 (by decide)

/-- A message whose address and data were replaced on the way, with the checksum
it was sent with. -/
def tampered (f : Frame) (address : Address) (data : List UInt8) : List UInt8 :=
  { f.raw with address := address, data := data }.bytes

section Tampering

variable {f : Frame} {address : Address} {data : List UInt8}

theorem decode_tampered_eq_ok_iff (hvalid : f.Valid) {g : Frame} :
    decode (f.tampered address data) = .ok g ↔
      (∀ b ∈ data, b < 0x80) ∧
      checksum f.payload = checksum (address.toList ++ data) ∧
      g = { f with address := address, data := data } := by
  rw [tampered, decode_bytes_eq_ok_iff]
  constructor
  · intro hfields
    obtain ⟨_, _, _, _, _, _, hdata, hchecksum, rfl⟩ := hfields
    exact ⟨hdata, hchecksum, rfl⟩
  · intro hpasses
    obtain ⟨hdata, hchecksum, rfl⟩ := hpasses
    exact ⟨rfl, rfl, rfl, hvalid.deviceId, rfl, hvalid.command, hdata,
      hchecksum, rfl⟩

/-- Reordering a payload keeps its checksum. -/
theorem checksum_perm {left right : List UInt8} (hperm : left.Perm right) :
    checksum left = checksum right := by
  have hsum : (left.map UInt8.toNat).sum = (right.map UInt8.toNat).sum :=
    (hperm.map _).sum_eq
  rw [checksum_eq_iff, hsum]

/-- Zero bytes at the end of a payload keep its checksum. -/
theorem checksum_padded (bytes : List UInt8) (k : ℕ) :
    checksum bytes = checksum (bytes ++ List.replicate k 0) := by
  have hsum : ((bytes ++ List.replicate k 0).map UInt8.toNat).sum =
      (bytes.map UInt8.toNat).sum := by
    simp
  rw [checksum_eq_iff, hsum]

/-- A payload replaced by another passes exactly when the data is 7-bit and the
sums agree mod 128, and is then taken as sent.  So a payload in another order
passes, across the border of address and data too, and so does one with zero
bytes after it. -/
theorem tampered_payload_passes (f : Frame) (hvalid : f.Valid) :
    (∀ (address : Address) (data : List UInt8),
      ((∃ g, decode (f.tampered address data) = .ok g) ↔
        (∀ b ∈ data, b < 0x80) ∧
        ((address.toList ++ data).map UInt8.toNat).sum ≡
          (f.payload.map UInt8.toNat).sum [MOD 128]) ∧
      (∀ g, decode (f.tampered address data) = .ok g →
        g = { f with address := address, data := data }) ∧
      ((∀ b ∈ f.payload, b < 0x80) → (address.toList ++ data).Perm f.payload →
        ∃ g, decode (f.tampered address data) = .ok g)) ∧
    ∀ k, decode (f.tampered f.address (f.data ++ List.replicate k 0)) =
      .ok { f with data := f.data ++ List.replicate k 0 } := by
  constructor
  · intro address data
    refine ⟨?_, ?_, ?_⟩
    · simp only [decode_tampered_eq_ok_iff hvalid, exists_and_left, exists_eq,
        and_true]
      rw [checksum_eq_iff, Nat.ModEq.comm]
    · intro g hdecode
      exact ((decode_tampered_eq_ok_iff hvalid).mp hdecode).2.2
    · intro hpayload hperm
      have hdata : ∀ b ∈ data, b < 0x80 := by
        intro b hb
        exact hpayload b (hperm.mem_iff.mp (List.mem_append_right _ hb))
      exact ⟨_, (decode_tampered_eq_ok_iff hvalid).mpr
        ⟨hdata, checksum_perm hperm.symm, rfl⟩⟩
  · intro k
    have hdata : ∀ b ∈ f.data ++ List.replicate k 0, b < 0x80 := by
      intro b hb
      rcases List.mem_append.mp hb with hmem | hzero
      · exact hvalid.data b hmem
      · rw [List.eq_of_mem_replicate hzero]
        decide
    apply (decode_tampered_eq_ok_iff hvalid).mpr
    refine ⟨hdata, ?_, rfl⟩
    rw [← List.append_assoc]
    exact checksum_padded f.payload k

end Tampering

/-- A message for CTL 1 that arrives as one for Input Source. -/
theorem tampered_input_source :
    ∃ g, decode ((dataSet 0x10 #v[0x10, 0x00, 0x00, 0x01] [0x00]).tampered
      systemBase [0x01]) = .ok g := by
  have hvalid : (dataSet 0x10 #v[0x10, 0x00, 0x00, 0x01] [0x00]).Valid :=
    ⟨by decide, Or.inl rfl, by simp [dataSet]⟩
  have hpayload : ∀ b ∈ (dataSet 0x10 #v[0x10, 0x00, 0x00, 0x01] [0x00]).payload,
      b < 0x80 := by
    simp [dataSet, payload]
  exact ((tampered_payload_passes _ hvalid).1 systemBase [0x01]).2.2 hpayload
    (by decide)

end Frame

end SpaceEcho
