/-
The parameters of both blocks and the byte windows they are documented to have.
A write of one parameter at its offset therefore agrees with a write of the
whole block.
-/
import SpaceEcho.Lib.Window
import SpaceEcho.Memory

namespace SpaceEcho

open FieldWindow

namespace Memory

/-- A triple of pedal bytes: value, minimum, maximum. -/
def pedalField (offset : ℕ) (set : RangedParam → Memory → Memory) :
    BlockField Memory UInt8 where
  Value := RangedParam
  offset := offset
  code p := [p.value, p.min, p.max]
  InRange := RangedParam.InRange
  set := set

/-- The tap time in milliseconds, a nibble a byte, most significant first. -/
def tapTimeField : BlockField Memory UInt8 where
  Value := UInt16
  offset := 0x1C
  code ms := (tapNibbles ms).toList
  InRange ms := ms ≤ 2000
  set ms m := { m with tapTimeMs := ms }

/-- The wire code of a mode is its number less one. -/
def fields : List (BlockField Memory UInt8) :=
  [.single 0x00 Tape.toByte fun v m => { m with tape := v },
    .single 0x01 (fun v : Mode => v.number - 1) fun v m => { m with mode := v },
    pedalField 0x02 fun v m => { m with repeatRate := v },
    pedalField 0x05 fun v m => { m with intensity := v },
    pedalField 0x08 fun v m => { m with echoVolume := v },
    pedalField 0x0B fun v m => { m with bass := v },
    pedalField 0x0E fun v m => { m with treble := v },
    pedalField 0x11 fun v m => { m with reverbVolume := v },
    pedalField 0x14 fun v m => { m with saturation := v },
    pedalField 0x17 fun v m => { m with wowFlutter := v },
    .single 0x1A Bool.toUInt8 fun v m => { m with reverbSw := v },
    .single 0x1B Bool.toUInt8 fun v m => { m with tapSw := v },
    tapTimeField,
    .single 0x20 TimeMode.toByte fun v m => { m with timeMode := v }]

/-- The eight triples. -/
def pedals (m : Memory) : List RangedParam :=
  [m.repeatRate, m.intensity, m.echoVolume, m.bass, m.treble, m.reverbVolume,
    m.saturation, m.wowFlutter]

theorem rangesValid_iff_pedals (m : Memory) :
    m.RangesValid ↔ ∀ p ∈ m.pedals, p.InRange := by
  simp only [pedals, List.forall_mem_cons, List.not_mem_nil, false_implies,
    implies_true, and_true]
  constructor
  · intro h
    exact ⟨h.repeatRate, h.intensity, h.echoVolume, h.bass, h.treble,
      h.reverbVolume, h.saturation, h.wowFlutter⟩
  · intro hall
    obtain ⟨h0, h1, h2, h3, h4, h5, h6, h7⟩ := hall
    exact ⟨h0, h1, h2, h3, h4, h5, h6, h7⟩

/-- The memory codec's two halves, and what a field owes them. -/
theorem ownsWindow {p : BlockField Memory UInt8}
    (hlayout : ∀ v m, (p.set v m).block.toList =
      overwrite m.block.toList p.offset (p.code v))
    (hpedals : ∀ v m, p.InRange v → m.RangesValid → (p.set v m).RangesValid)
    (htap : ∀ v m, p.InRange v → m.tapTimeMs ≤ 2000 →
      (p.set v m).tapTimeMs ≤ 2000) :
    p.OwnsWindow toBytes Vector.toList fromBytes :=
  BlockField.ownsWindow exact checked hlayout hpedals
    fun v m hv hm => ⟨hpedals v m hv hm.ranges, htap v m hv hm.tapTimeMs⟩

/-- A field other than a triple and the tap time takes part in neither check. -/
theorem ownsWindow_of_unchecked {p : BlockField Memory UInt8}
    (hlayout : ∀ v m, (p.set v m).block.toList =
      overwrite m.block.toList p.offset (p.code v))
    (hpedals : ∀ v m, (p.set v m).pedals = m.pedals)
    (htap : ∀ v m, (p.set v m).tapTimeMs = m.tapTimeMs) :
    p.OwnsWindow toBytes Vector.toList fromBytes := by
  apply ownsWindow hlayout
  · intro v m _ hm
    rw [rangesValid_iff_pedals] at hm ⊢
    rwa [hpedals]
  · intro v m _ hm
    rwa [htap]

/-- Setting the `i`-th triple changes that triple only. -/
theorem ownsWindow_pedalField {offset : ℕ} {set : RangedParam → Memory → Memory}
    (i : ℕ) (hlayout : ∀ v m, (set v m).block.toList =
      overwrite m.block.toList offset [v.value, v.min, v.max])
    (hpedals : ∀ v m, (set v m).pedals = m.pedals.set i v)
    (htap : ∀ v m, (set v m).tapTimeMs = m.tapTimeMs) :
    (pedalField offset set).OwnsWindow toBytes Vector.toList fromBytes := by
  have hranges : ∀ (v : RangedParam) (m : Memory), v.InRange →
      m.RangesValid → (set v m).RangesValid := by
    intro v m hv hm
    rw [rangesValid_iff_pedals] at hm ⊢
    intro p hp
    rw [hpedals] at hp
    rcases List.mem_or_eq_of_mem_set hp with hold | rfl
    · exact hm p hold
    · exact hv
  have hbound : ∀ (v : RangedParam) (m : Memory), m.tapTimeMs ≤ 2000 →
      (set v m).tapTimeMs ≤ 2000 := by
    intro v m hm
    rwa [htap]
  exact ownsWindow hlayout hranges fun v m _ => hbound v m

theorem mode_ownsWindow :
    (BlockField.single 0x01 (fun v : Mode => v.number - 1)
      fun v m => { m with mode := v }).OwnsWindow toBytes Vector.toList fromBytes := by
  apply ownsWindow_of_unchecked
  · intro v m
    cases v <;> rfl
  · exact fun _ _ => rfl
  · exact fun _ _ => rfl

theorem tapTimeField_ownsWindow :
    tapTimeField.OwnsWindow toBytes Vector.toList fromBytes := by
  apply ownsWindow
  · exact fun _ _ => rfl
  · intro v m _ hm
    exact (rangesValid_iff_pedals _).mpr ((rangesValid_iff_pedals m).mp hm)
  · exact fun v m hv _ => hv

theorem fields_ownWindow :
    ∀ p ∈ fields, p.OwnsWindow toBytes Vector.toList fromBytes := by
  simp only [fields, List.forall_mem_cons, List.not_mem_nil, false_implies,
    implies_true, and_true]
  refine ⟨?_, mode_ownsWindow,
    ownsWindow_pedalField 0 (fun _ _ => rfl) (fun _ _ => rfl) (fun _ _ => rfl),
    ownsWindow_pedalField 1 (fun _ _ => rfl) (fun _ _ => rfl) (fun _ _ => rfl),
    ownsWindow_pedalField 2 (fun _ _ => rfl) (fun _ _ => rfl) (fun _ _ => rfl),
    ownsWindow_pedalField 3 (fun _ _ => rfl) (fun _ _ => rfl) (fun _ _ => rfl),
    ownsWindow_pedalField 4 (fun _ _ => rfl) (fun _ _ => rfl) (fun _ _ => rfl),
    ownsWindow_pedalField 5 (fun _ _ => rfl) (fun _ _ => rfl) (fun _ _ => rfl),
    ownsWindow_pedalField 6 (fun _ _ => rfl) (fun _ _ => rfl) (fun _ _ => rfl),
    ownsWindow_pedalField 7 (fun _ _ => rfl) (fun _ _ => rfl) (fun _ _ => rfl),
    ?_, ?_, tapTimeField_ownsWindow, ?_⟩
  -- the parameters left over take part in neither check
  all_goals
    exact ownsWindow_of_unchecked (fun _ _ => rfl) (fun _ _ => rfl)
      (fun _ _ => rfl)

end Memory

namespace SystemArea

/-- The memory extent and the channel numbers are the only values with a range
of their own. -/
def fields : List (BlockField SystemArea UInt8) :=
  [.single 0x00 InputSource.toByte fun v s => { s with inputSource := v },
    .single 0x01 Ctl1Function.toByte fun v s => { s with ctl1Function := v },
    .single 0x02 Ctl2Function.toByte fun v s => { s with ctl2Function := v },
    .single 0x03 Bool.toUInt8
      fun v s => { s with direct := { s.direct with on := v } },
    .single 0x04 DirectMode.toByte
      fun v s => { s with direct := { s.direct with mode := v } },
    .single 0x05 Bool.toUInt8 fun v s => { s with carryover := v },
    .single 0x06 TimeMode.toByte fun v s => { s with timeMode := v },
    .single 0x07 ReverbType.toByte fun v s => { s with reverbType := v },
    .single 0x08 id (fun v s => { s with memoryExtent := v })
      fun v => 1 ≤ v ∧ v ≤ 4,
    .single 0x09 MidiChannel.toByte
      (fun v s => { s with midi := { s.midi with rxChannel := v } })
      MidiChannel.WellFormed,
    .single 0x0A TxChannel.toByte
      (fun v s => { s with midi := { s.midi with txChannel := v } })
      TxChannel.WellFormed,
    .single 0x0B Bool.toUInt8
      fun v s => { s with midi := { s.midi with pcIn := v } },
    .single 0x0C Bool.toUInt8
      fun v s => { s with midi := { s.midi with pcOut := v } },
    .single 0x0D Bool.toUInt8
      fun v s => { s with midi := { s.midi with ccIn := v } },
    .single 0x0E Bool.toUInt8
      fun v s => { s with midi := { s.midi with ccOut := v } },
    .single 0x0F SyncSource.toByte
      fun v s => { s with midi := { s.midi with syncSource := v } },
    .single 0x10 RealtimeSource.toByte
      fun v s => { s with midi := { s.midi with realtimeSource := v } },
    .single 0x11 Bool.toUInt8
      fun v s => { s with midi := { s.midi with thru := v } }]

theorem ownsWindow {p : BlockField SystemArea UInt8}
    (hlayout : ∀ v s, (p.set v s).block.toList =
      overwrite s.block.toList p.offset (p.code v))
    (hextent : ∀ v s, p.InRange v → 1 ≤ s.memoryExtent ∧ s.memoryExtent ≤ 4 →
      1 ≤ (p.set v s).memoryExtent ∧ (p.set v s).memoryExtent ≤ 4)
    (hrx : ∀ v s, p.InRange v → s.midi.rxChannel.WellFormed →
      (p.set v s).midi.rxChannel.WellFormed)
    (htx : ∀ v s, p.InRange v → s.midi.txChannel.WellFormed →
      (p.set v s).midi.txChannel.WellFormed) :
    p.OwnsWindow toBytes Vector.toList fromBytes :=
  BlockField.ownsWindow exact checked hlayout
    (fun v s hv hs => ⟨hextent v s hv hs.memoryExtent, hrx v s hv hs.rxChannel,
      htx v s hv hs.txChannel⟩) hextent

theorem ownsWindow_of_unchecked {p : BlockField SystemArea UInt8}
    (hlayout : ∀ v s, (p.set v s).block.toList =
      overwrite s.block.toList p.offset (p.code v))
    (hextent : ∀ v s, (p.set v s).memoryExtent = s.memoryExtent)
    (hrx : ∀ v s, (p.set v s).midi.rxChannel = s.midi.rxChannel)
    (htx : ∀ v s, (p.set v s).midi.txChannel = s.midi.txChannel) :
    p.OwnsWindow toBytes Vector.toList fromBytes := by
  apply ownsWindow hlayout
  · intro v s _ hs
    rwa [hextent]
  · intro v s _ hs
    rwa [hrx]
  · intro v s _ hs
    rwa [htx]

theorem memoryExtent_ownsWindow :
    (BlockField.single 0x08 id (fun v s => { s with memoryExtent := v })
      fun v : UInt8 => 1 ≤ v ∧ v ≤ 4).OwnsWindow toBytes Vector.toList fromBytes :=
  ownsWindow (fun _ _ => rfl) (fun _ _ hv _ => hv) (fun _ _ _ hs => hs)
    (fun _ _ _ hs => hs)

theorem rxChannel_ownsWindow :
    (BlockField.single 0x09 MidiChannel.toByte
      (fun v s => { s with midi := { s.midi with rxChannel := v } })
      MidiChannel.WellFormed).OwnsWindow toBytes Vector.toList fromBytes :=
  ownsWindow (fun _ _ => rfl) (fun _ _ _ hs => hs) (fun _ _ hv _ => hv)
    (fun _ _ _ hs => hs)

theorem txChannel_ownsWindow :
    (BlockField.single 0x0A TxChannel.toByte
      (fun v s => { s with midi := { s.midi with txChannel := v } })
      TxChannel.WellFormed).OwnsWindow toBytes Vector.toList fromBytes :=
  ownsWindow (fun _ _ => rfl) (fun _ _ _ hs => hs) (fun _ _ _ hs => hs)
    (fun _ _ hv _ => hv)

theorem fields_ownWindow :
    ∀ p ∈ fields, p.OwnsWindow toBytes Vector.toList fromBytes := by
  simp only [fields, List.forall_mem_cons, List.not_mem_nil, false_implies,
    implies_true, and_true]
  refine ⟨?_, ?_, ?_, ?_, ?_, ?_, ?_, ?_, memoryExtent_ownsWindow,
    rxChannel_ownsWindow, txChannel_ownsWindow, ?_, ?_, ?_, ?_, ?_, ?_, ?_⟩
  all_goals
    exact ownsWindow_of_unchecked (fun _ _ => rfl) (fun _ _ => rfl)
      (fun _ _ => rfl) (fun _ _ => rfl)

end SystemArea

/-- Every parameter of both blocks owns exactly its documented window. -/
theorem parameters_own_windows :
    (∀ p ∈ Memory.fields,
      p.OwnsWindow Memory.toBytes Vector.toList Memory.fromBytes) ∧
    ∀ p ∈ SystemArea.fields,
      p.OwnsWindow SystemArea.toBytes Vector.toList SystemArea.fromBytes :=
  ⟨Memory.fields_ownWindow, SystemArea.fields_ownWindow⟩

end SpaceEcho
