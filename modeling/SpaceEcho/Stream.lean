/-
Messages as they follow one another on the wire.  A complete SysEx message has
its start and end byte only at its ends; a message that is safe to send has
nothing but 7-bit bytes between them.  Frames bring their own end with them,
so a stream of frames has only one reading.
-/
import SpaceEcho.Lib.PrefixCode
import SpaceEcho.SysEx

namespace SpaceEcho

/-- One complete SysEx message: `F0`, bytes other than `F0` and `F7`, `F7`. -/
def CompleteSysEx (message : List UInt8) : Prop :=
  ∃ body, message = [sysexStart] ++ body ++ [sysexEnd] ∧
    ∀ b ∈ body, b ≠ sysexStart ∧ b ≠ sysexEnd

/-- One complete SysEx message with no status byte inside. -/
def WireSafe (message : List UInt8) : Prop :=
  ∃ body, message = [sysexStart] ++ body ++ [sysexEnd] ∧ ∀ b ∈ body, b < 0x80

theorem WireSafe.complete {message : List UInt8} (hsafe : WireSafe message) :
    CompleteSysEx message := by
  obtain ⟨body, hmessage, hbody⟩ := hsafe
  refine ⟨body, hmessage, ?_⟩
  intro b hb
  constructor
  · rintro rfl
    exact absurd (hbody _ hb) (by decide)
  · rintro rfl
    exact absurd (hbody _ hb) (by decide)

/-- A message with only 7-bit bytes inside is not two messages run together: the
end byte of the first would be inside. -/
theorem WireSafe.ne_append {message u v : List UInt8} (hsafe : WireSafe message)
    (hu : CompleteSysEx u) (hv : CompleteSysEx v) : message ≠ u ++ v := by
  intro hjoined
  obtain ⟨body, rfl, hbody⟩ := hsafe
  obtain ⟨left, rfl, _⟩ := hu
  obtain ⟨right, rfl, _⟩ := hv
  have hinner : body ++ [sysexEnd] =
      (left ++ [sysexEnd] ++ [sysexStart] ++ right) ++ [sysexEnd] := by
    simpa using congrArg List.tail hjoined
  have hmem : sysexEnd ∈ body := by
    rw [List.append_cancel_right hinner]
    simp
  exact absurd (hbody _ hmem) (by decide)

namespace Frame

/-- The bytes of an encoded frame between start and end. -/
def body (f : Frame) : List UInt8 :=
  [rolandId, f.deviceId] ++ re202ModelId.toList ++ [f.command] ++
    f.address.toList ++ f.data ++ [checksum (f.address.toList ++ f.data)]

theorem encode_eq_body (f : Frame) :
    f.encode = [sysexStart] ++ f.body ++ [sysexEnd] := by
  simp [encode, body]

/-- What a frame puts on the wire is safe exactly when its own fields are
7-bit. -/
theorem wireSafe_encode_iff (f : Frame) :
    WireSafe f.encode ↔
      f.deviceId < 0x80 ∧ f.command < 0x80 ∧
        (∀ b ∈ f.address.toList, b < 0x80) ∧ ∀ b ∈ f.data, b < 0x80 := by
  have hmodel : ∀ b ∈ re202ModelId.toList, b < 0x80 := by
    simp [re202ModelId]
  have hbody : WireSafe f.encode ↔ ∀ b ∈ f.body, b < 0x80 := by
    constructor
    · intro hsafe
      obtain ⟨inner, hmessage, hinner⟩ := hsafe
      rw [encode_eq_body] at hmessage
      have hsame := List.append_cancel_left
        (List.append_cancel_right hmessage)
      exact hsame ▸ hinner
    · intro hbody
      exact ⟨f.body, f.encode_eq_body, hbody⟩
  have hroland : rolandId < 0x80 := by decide
  have hchecksum := checksum_lt (f.address.toList ++ f.data)
  rw [hbody, body]
  simp only [List.forall_mem_append, List.forall_mem_cons, List.not_mem_nil,
    false_implies, implies_true, and_true, hroland, hchecksum, true_and]
  constructor
  · intro hparts
    obtain ⟨⟨⟨⟨hdevice, _⟩, hcommand⟩, haddress⟩, hdata⟩ := hparts
    exact ⟨hdevice, hcommand, haddress, hdata⟩
  · intro hfields
    obtain ⟨hdevice, hcommand, haddress, hdata⟩ := hfields
    exact ⟨⟨⟨⟨hdevice, hmodel⟩, hcommand⟩, haddress⟩, hdata⟩

theorem wireSafe_encode {f : Frame} (hvalid : f.Valid)
    (haddress : ∀ b ∈ f.address.toList, b < 0x80) : WireSafe f.encode := by
  have hdevice : f.deviceId < 0x80 :=
    UInt8.lt_of_le_of_lt hvalid.deviceId.2 (by decide)
  have hcommand : f.command < 0x80 := by
    rcases hvalid.command with h | h <;> rw [h] <;> decide
  exact f.wireSafe_encode_iff.mpr
    ⟨hdevice, hcommand, haddress, hvalid.data⟩

/-- The address ends before index 13, and from there on everything but the end
byte is 7-bit. -/
theorem terminated_encode {f : Frame} (hvalid : f.Valid) :
    PrefixCode.Terminated sysexEnd 13 f.encode := by
  let head := [sysexStart, rolandId, f.deviceId] ++ re202ModelId.toList ++
    [f.command] ++ f.address.toList
  let tail := f.data ++ [checksum (f.address.toList ++ f.data)]
  have hencode : f.encode = head ++ tail ++ [sysexEnd] := by
    simp [encode, head, tail]
  have htail : sysexEnd ∉ tail := by
    simp only [tail, List.mem_append, List.mem_singleton, not_or]
    constructor
    · intro hmem
      exact absurd (hvalid.data _ hmem) (by decide)
    · intro heq
      have hlt := checksum_lt (f.address.toList ++ f.data)
      rw [← heq] at hlt
      exact absurd hlt (by decide)
  rw [hencode]
  exact PrefixCode.terminated_of_parts (by simp [head]) htail

/-- The messages the decoder accepts. -/
def accepted : Set (List UInt8) := { message | ∃ f, decode message = .ok f }

theorem terminated_of_accepted {message : List UInt8}
    (haccepted : message ∈ accepted) :
    PrefixCode.Terminated sysexEnd 13 message := by
  obtain ⟨f, hdecode⟩ := haccepted
  obtain ⟨hvalid, hencode⟩ := exact.sound hdecode
  rw [← hencode]
  exact terminated_encode hvalid

theorem accepted_prefixFree : PrefixCode.PrefixFree accepted :=
  PrefixCode.prefixFree_of_terminated fun _ h => terminated_of_accepted h

theorem accepted_uniquelyDecodable :
    InformationTheory.UniquelyDecodable accepted :=
  accepted_prefixFree.uniquelyDecodable fun hnil =>
    (terminated_of_accepted hnil).ne_nil rfl

theorem encode_mem_accepted {f : Frame} (hvalid : f.Valid) :
    f.encode ∈ accepted :=
  ⟨f, exact.complete hvalid⟩

/-- Encodings of valid frames determine the frames, one by one. -/
theorem map_encode_inj {fs gs : List Frame} (hfs : ∀ f ∈ fs, f.Valid)
    (hgs : ∀ g ∈ gs, g.Valid) (heq : fs.map encode = gs.map encode) :
    fs = gs := by
  have hread : ∀ l : List Frame, (∀ f ∈ l, f.Valid) →
      (l.map encode).map decode = l.map Except.ok := by
    intro l hl
    rw [List.map_map]
    exact List.map_congr_left fun f hf => exact.complete (hl f hf)
  have hboth := congrArg (List.map decode) heq
  rw [hread fs hfs, hread gs hgs] at hboth
  exact (List.map_inj_right fun _ _ => Except.ok.inj).mp hboth

/-- A stream of frames has only one reading, and no accepted message is a
proper prefix of another. -/
theorem stream_reads_uniquely :
    (∀ fs gs : List Frame, (∀ f ∈ fs, f.Valid) → (∀ g ∈ gs, g.Valid) →
      (fs.map encode).flatten = (gs.map encode).flatten → fs = gs) ∧
    ∀ u v f g, decode u = .ok f → decode v = .ok g → u <+: v → u = v := by
  constructor
  · intro fs gs hfs hgs hflat
    apply map_encode_inj hfs hgs
    apply accepted_uniquelyDecodable _ _ _ _ hflat
    · intro word hword
      obtain ⟨f, hf, rfl⟩ := List.mem_map.mp hword
      exact encode_mem_accepted (hfs f hf)
    · intro word hword
      obtain ⟨g, hg, rfl⟩ := List.mem_map.mp hword
      exact encode_mem_accepted (hgs g hg)
  · intro u v f g hu hv hpre
    exact accepted_prefixFree u ⟨f, hu⟩ v ⟨g, hv⟩ hpre

/-- An accepted message is legal SysEx exactly when it is not the wire form of a
frame with an address byte out of range. -/
theorem accepted_legal_iff (message : List UInt8) :
    (∀ f, decode message = .ok f → WireSafe message ∧
      ∀ u v, CompleteSysEx u → CompleteSysEx v → message ≠ u ++ v) ↔
    ¬ ∃ f : Frame, f.Valid ∧ (∃ b ∈ f.address.toList, 0x80 ≤ b) ∧
      f.encode = message := by
  constructor
  · rintro hlegal ⟨f, hvalid, ⟨b, hb, hhigh⟩, rfl⟩
    have hsafe := (hlegal f (exact.complete hvalid)).1
    have haddress := ((wireSafe_encode_iff f).mp hsafe).2.2.1
    exact absurd (haddress b hb) (UInt8.not_lt.mpr hhigh)
  · intro hnone f hdecode
    obtain ⟨hvalid, hencode⟩ := exact.sound hdecode
    have haddress : ∀ b ∈ f.address.toList, b < 0x80 := by
      intro b hb
      by_contra hhigh
      exact hnone ⟨f, hvalid, ⟨b, hb, UInt8.not_lt.mp hhigh⟩, hencode⟩
    have hsafe := wireSafe_encode hvalid haddress
    rw [hencode] at hsafe
    exact ⟨hsafe, fun u v hu hv => hsafe.ne_append hu hv⟩

/-- An end byte and a start byte in the address: two messages run together are
read as one frame. -/
theorem two_messages_read_as_one :
    ¬ ∀ message f, decode message = .ok f → WireSafe message ∧
      ∀ u v, CompleteSysEx u → CompleteSysEx v → message ≠ u ++ v := by
  intro hall
  have hvalid : (dataSet 0x10 #v[0xF7, 0xF0, 0x00, 0x00] []).Valid :=
    ⟨by decide, Or.inl rfl, by simp [dataSet]⟩
  have hu : CompleteSysEx
      [0xF0, 0x41, 0x10, 0x00, 0x00, 0x00, 0x00, 0x18, 0x12, 0xF7] :=
    ⟨[0x41, 0x10, 0x00, 0x00, 0x00, 0x00, 0x18, 0x12], rfl,
      by simp [sysexStart, sysexEnd]⟩
  have hv : CompleteSysEx [0xF0, 0x00, 0x00, 0x19, 0xF7] :=
    ⟨[0x00, 0x00, 0x19], rfl, by simp [sysexStart, sysexEnd]⟩
  exact (hall _ _ (exact.complete hvalid)).2 _ _ hu hv (by decide)

end Frame

end SpaceEcho
