/-
Parameter echoes in a dump.  The device sends a changed parameter as a data set
of its own, and the first parameter of a block has the address of the block.  A
decode takes the first data set at that address for the block, so it finds a
whole block in the dump exactly when no other data set at its address comes
first.
-/
import SpaceEcho.Sync
import SpaceEcho.Lib.FirstMatch

namespace SpaceEcho.Re202

/-- The typed model of the area reads the data. -/
def Target.Accepts : Target → List UInt8 → Prop
  | .system, data => ∃ s, SystemArea.fromBytes data = .ok s
  | .memory _, data => ∃ m, Memory.fromBytes data = .ok m

/-- The message is a DT1 frame at the base of the area, with data that the typed
model of the area reads. -/
def Target.FullBlock (target : Target) (message : List UInt8) : Prop :=
  ∃ f, Frame.decode message = .ok f ∧
    (f.command = cmdDT1 ∧ f.address = target.base) ∧ target.Accepts f.data

theorem Target.FullBlock.isBlockAt {target : Target} {message : List UInt8}
    (hfull : target.FullBlock message) :
    isBlockAt target.base message = true := by
  obtain ⟨f, hdecode, hblock, _⟩ := hfull
  exact isBlockAt_iff.mpr ⟨f, hdecode, hblock⟩

/-- Data the typed model reads has the length of the block. -/
theorem Target.Accepts.length_eq {target : Target} {data : List UInt8}
    (haccepts : target.Accepts data) : data.length = target.length := by
  rcases target with _ | address
  · obtain ⟨s, hread⟩ := haccepts
    rw [← (SystemArea.exact.sound hread).2]
    exact Vector.length_toList
  · obtain ⟨m, hread⟩ := haccepts
    rw [← (Memory.exact.sound hread).2]
    exact Vector.length_toList

section Search

variable {kit : Kit}

/-- What the typed model reads can be written as a document. -/
theorem Target.accepts_iff_decodes (hserde : kit.SerdeRoundTrips)
    {target : Target} {data : List UInt8} :
    target.Accepts data ↔ ∃ doc, target.Decodes kit data doc := by
  rcases target with _ | address
  · constructor
    · intro haccepts
      obtain ⟨s, hread⟩ := haccepts
      obtain ⟨doc, hwrite, _⟩ := hserde.system s
      exact ⟨doc, s, hread, hwrite⟩
    · intro hdecodes
      obtain ⟨_, s, hread, _⟩ := hdecodes
      exact ⟨s, hread⟩
  · constructor
    · intro haccepts
      obtain ⟨m, hread⟩ := haccepts
      obtain ⟨doc, hwrite, _⟩ := hserde.memory m
      exact ⟨doc, m, hread, hwrite⟩
    · intro hdecodes
      obtain ⟨_, m, hread, _⟩ := hdecodes
      exact ⟨m, hread⟩

/-- The search returns the data of the first message that is a block at the
address. -/
theorem firstBlockData_eq_ok_iff {dump data : List UInt8} {base : Address} :
    firstBlockData kit dump base = .ok data ↔
      ∃ before message after f,
        FirstMatch.SplitsAt (fun m => isBlockAt base m = true)
          (kit.splitSysex dump) before message after ∧
        Frame.decode message = .ok f ∧ f.data = data := by
  rw [firstBlockData_eq, List.head?_filter]
  rcases hfind : (kit.splitSysex dump).find? (isBlockAt base) with _ | message
  · constructor
    · intro hdata
      cases hdata
    · intro hsplit
      obtain ⟨before, message, after, _, hsplit, _⟩ := hsplit
      have hfound := FirstMatch.find?_eq_some_iff.mpr ⟨before, after, hsplit⟩
      rw [hfind] at hfound
      cases hfound
  · obtain ⟨before, after, hsplit⟩ := FirstMatch.find?_eq_some_iff.mp hfind
    obtain ⟨f, hdecode, _⟩ := isBlockAt_iff.mp hsplit.2.1
    rw [Option.bind_some, hdecode]
    constructor
    · intro hdata
      exact ⟨before, message, after, f, hsplit, hdecode, Except.ok.inj hdata⟩
    · intro hother
      obtain ⟨before', message', after', f', hsplit', hdecode', rfl⟩ := hother
      obtain ⟨_, rfl⟩ := hsplit.unique hsplit'
      rw [hdecode] at hdecode'
      cases hdecode'
      rfl

/-- A decode succeeds exactly when the first data set at the area's address is
a whole block. -/
theorem exists_decode_iff (hsplits : kit.SplitsComplete)
    (hserde : kit.SerdeRoundTrips) {area : String} {target : Target}
    (htarget : targetFor area = some target) {messages : List (List UInt8)}
    (hcomplete : ∀ m ∈ messages, CompleteSysEx m) :
    (∃ doc, decode kit area messages.flatten = .ok doc) ↔
      ∃ before message after,
        FirstMatch.SplitsAt (fun m => isBlockAt target.base m = true)
          messages before message after ∧ target.FullBlock message := by
  simp only [decode_eq_ok_iff htarget, firstBlockData_eq_ok_iff,
    hsplits messages hcomplete]
  constructor
  · intro hdecodes
    obtain ⟨doc, _, ⟨before, message, after, f, hsplit, hdecode, rfl⟩, hread⟩ :=
      hdecodes
    obtain ⟨f', hdecode', hblock⟩ := isBlockAt_iff.mp hsplit.2.1
    rw [hdecode] at hdecode'
    cases hdecode'
    exact ⟨before, message, after, hsplit, f, hdecode, hblock,
      (Target.accepts_iff_decodes hserde).mpr ⟨doc, hread⟩⟩
  · intro hfirst
    obtain ⟨before, message, after, hsplit, f, hdecode, _, haccepts⟩ := hfirst
    obtain ⟨doc, hread⟩ := (Target.accepts_iff_decodes hserde).mp haccepts
    exact ⟨doc, f.data,
      ⟨before, message, after, f, hsplit, hdecode, rfl⟩, hread⟩

end Search

/-- A whole block in the dump is found exactly when the messages before the
first one include no other data set at its address. -/
theorem decode_finds_full_block_iff (kit : Kit) (hsplits : kit.SplitsComplete)
    (hserde : kit.SerdeRoundTrips) {area : String} {target : Target}
    (htarget : targetFor area = some target) {messages : List (List UInt8)}
    (hcomplete : ∀ m ∈ messages, CompleteSysEx m) :
    ((∃ m ∈ messages, target.FullBlock m) →
      ∃ doc, decode kit area messages.flatten = .ok doc) ↔
    ∀ before full after,
      FirstMatch.SplitsAt target.FullBlock messages before full after →
      ∀ m ∈ before, ¬ isBlockAt target.base m = true := by
  rw [exists_decode_iff hsplits hserde htarget hcomplete]
  exact FirstMatch.coarse_search_iff fun _ hfull => hfull.isBlockAt

theorem memoryDump_fullBlock {m : Memory} (hranges : m.RangesValid) :
    (Target.memory memoryManualBase).FullBlock (memoryDump m) :=
  ⟨_, (dataSet_safe (by decide) (by decide) (Memory.block_lt hranges)).2,
    ⟨rfl, rfl⟩, m, Memory.exact.complete hranges⟩

/-- The device's echo of the Tape button on MANUAL. -/
def tapeEcho : List UInt8 :=
  (Frame.dataSet 0x10 memoryManualBase [0x01]).encode

/-- The device's echo of the Mode knob, one byte into the block. -/
def modeEcho : List UInt8 :=
  (Frame.dataSet 0x10 #v[0x20, 0x10, 0x00, 0x01] [0x03]).encode

/-- MIDI Thru's echo of the request for MANUAL. -/
def requestEcho : List UInt8 :=
  (Frame.dataRequest 0x10 memoryManualBase (sizeField 33)).encode

/-- Echoes elsewhere may come before the block, and any echo after it. -/
theorem decode_finds_captured_block :
    ∃ doc, decode Kit.reference "memory"
      [requestEcho, modeEcho, memoryDump Memory.captured, tapeEcho].flatten =
        .ok doc := by
  have hranges := Memory.captured_inRange.ranges
  have hfull := memoryDump_fullBlock hranges
  have hechoes : ∀ m ∈ [requestEcho, modeEcho],
      ¬ isBlockAt memoryManualBase m = true := by decide
  refine (decode_finds_full_block_iff Kit.reference
    Kit.reference_splitsComplete Kit.reference_serdeRoundTrips targetFor_memory
    ?_).mpr ?_ ⟨_, by simp, hfull⟩
  · have hrequest : WireSafe requestEcho :=
      Frame.wireSafe_encode ⟨by decide, Or.inr rfl, sizeField_lt 33⟩
        (Target.base_sevenBit targetFor_memory)
    have hmode : WireSafe modeEcho :=
      (@dataSet_safe 0 (by decide) #v[0x20, 0x10, 0x00, 0x01] (by decide) [0x03]
        (by simp)).1
    have htape : WireSafe tapeEcho :=
      (@dataSet_safe 0 (by decide) memoryManualBase (by decide) [0x01]
        (by simp)).1
    simp only [List.forall_mem_cons, List.not_mem_nil, false_implies,
      implies_true, and_true]
    exact ⟨hrequest.complete, hmode.complete, (memoryDump_safe hranges).complete,
      htape.complete⟩
  · intro before full after hsplit
    have hfirst : FirstMatch.SplitsAt (Target.memory memoryManualBase).FullBlock
        [requestEcho, modeEcho, memoryDump Memory.captured, tapeEcho]
        [requestEcho, modeEcho] (memoryDump Memory.captured) [tapeEcho] :=
      ⟨rfl, hfull, fun m hm hblock => hechoes m hm hblock.isBlockAt⟩
    rw [(hsplit.unique hfirst).1]
    exact hechoes

/-- One echo ahead of the block, and the block is not found. -/
theorem tape_echo_hides_block :
    ¬ ∀ kit : Kit, kit.SplitsComplete → kit.SerdeRoundTrips →
      ∀ area target, targetFor area = some target →
      ∀ messages : List (List UInt8), (∀ m ∈ messages, CompleteSysEx m) →
        (∃ m ∈ messages, target.FullBlock m) →
        ∃ doc, decode kit area messages.flatten = .ok doc := by
  intro hall
  have hranges := Memory.captured_inRange.ranges
  obtain ⟨hechoSafe, hecho⟩ := @dataSet_safe 0 (by decide) memoryManualBase
    (by decide) [0x01] (by simp)
  have hcomplete : ∀ m ∈ [tapeEcho, memoryDump Memory.captured],
      CompleteSysEx m := by
    intro m hm
    simp only [List.mem_cons, List.not_mem_nil, or_false] at hm
    rcases hm with rfl | rfl
    · exact hechoSafe.complete
    · exact (memoryDump_safe hranges).complete
  have hfound := hall Kit.reference Kit.reference_splitsComplete
    Kit.reference_serdeRoundTrips "memory" _ targetFor_memory _ hcomplete
    ⟨_, by simp, memoryDump_fullBlock hranges⟩
  have hechoBlock : isBlockAt memoryManualBase tapeEcho = true :=
    isBlockAt_iff.mpr ⟨_, hecho, rfl, rfl⟩
  obtain ⟨before, message, after, ⟨hmessages, _, hbefore⟩, f, hdecode, _,
    haccepts⟩ := (exists_decode_iff Kit.reference_splitsComplete
      Kit.reference_serdeRoundTrips targetFor_memory hcomplete).mp hfound
  rcases before with _ | ⟨first, rest⟩
  · obtain ⟨rfl, _⟩ := List.cons.inj hmessages
    rw [tapeEcho] at hdecode
    have hdata := haccepts.length_eq
    rw [← Except.ok.inj (hecho.symm.trans hdecode)] at hdata
    exact absurd hdata (by decide)
  · obtain ⟨rfl, _⟩ := List.cons.inj hmessages
    exact hbefore tapeEcho List.mem_cons_self hechoBlock

end SpaceEcho.Re202
