/-
The pedal in use, on two levels.  Below, it is a flat memory that messages,
footswitches, knobs and the WRITE button change; its behaviour is the one the
device notes record.  Above, it is a bank: the settings, the edit buffer and
the memories, each a typed value that its block can express.  A run of the
pedal, with its events in any order, is the same run of the bank.
-/
import SpaceEcho.Lib.Machine
import SpaceEcho.Pedal
import SpaceEcho.Windows

namespace SpaceEcho

open FieldWindow

instance (slot : MemorySlot) : Decidable slot.Exists :=
  match slot with
  | .manual => isTrue trivial
  | .user n => inferInstanceAs (Decidable (1 ≤ n ∧ n ≤ 127))

instance (m : Memory) : Decidable m.RangesValid :=
  decidable_of_iff _ (Memory.rangesValid_iff_pedals m).symm

instance (m : Memory) : Decidable m.InRange :=
  decidable_of_iff (m.RangesValid ∧ m.tapTimeMs ≤ 2000)
    ⟨fun h => ⟨h.1, h.2⟩, fun h => ⟨h.ranges, h.tapTimeMs⟩⟩

instance (c : MidiChannel) : Decidable c.WellFormed :=
  match c with
  | .channel n => inferInstanceAs (Decidable (1 ≤ n ∧ n ≤ 16))
  | .symbolic _ => isTrue trivial

instance (c : TxChannel) : Decidable c.WellFormed :=
  match c with
  | .channel n => inferInstanceAs (Decidable (1 ≤ n ∧ n ≤ 16))
  | .symbolic _ => isTrue trivial

instance (s : SystemArea) : Decidable s.WellFormed :=
  decidable_of_iff ((1 ≤ s.memoryExtent ∧ s.memoryExtent ≤ 4) ∧
      s.midi.rxChannel.WellFormed ∧ s.midi.txChannel.WellFormed)
    ⟨fun h => ⟨h.1, h.2.1, h.2.2⟩, fun h => ⟨h.memoryExtent, h.rxChannel, h.txChannel⟩⟩

/-- Settings the System block can express. -/
abbrev Settings := { s : SystemArea // s.WellFormed }

/-- A patch a memory block can express. -/
abbrev Patch := { m : Memory // m.RangesValid }

namespace Window

theorem length_pos (w : Window) : 0 < w.length := by
  cases w <;> exact Nat.zero_lt_succ _

theorem length_le (w : Window) : w.length ≤ 33 := by
  cases w <;> simp only [length, Nat.reduceLeDiff, Nat.le_refl]

/-- A window is known by where it starts. -/
theorem base_inj {v w : Window} (hbase : v.base = w.base) : v = w := by
  by_contra hne
  have hv := v.length_pos
  have hw := w.length_pos
  have hdisjoint := disjoint v w hne
  omega

/-- The typed value a window holds. -/
def Content : Window → Type
  | system => Settings
  | editBuffer => Patch
  | slot _ _ => Patch

/-- The block a window's value is laid out as. -/
def Content.block : {w : Window} → w.Content → List UInt8
  | system, s => s.val.block.toList
  | editBuffer, m => m.val.block.toList
  | slot _ _, m => m.val.block.toList

/-- The document a window's value is written as. -/
def Content.document (kit : Kit) : {w : Window} → w.Content → Except String Value
  | system, s => kit.systemToValue s.val
  | editBuffer, m => kit.memoryToValue m.val
  | slot _ _, m => kit.memoryToValue m.val

theorem Content.length_block {w : Window} (c : w.Content) :
    c.block.length = w.length := by
  rcases w with _ | _ | ⟨s, hs⟩
  · exact c.val.block.length_toList
  · exact c.val.block.length_toList
  · exact c.val.block.length_toList

/-- A block of a typed value has only 7-bit bytes. -/
theorem Content.block_lt {w : Window} (c : w.Content) : ∀ b ∈ c.block, b < 0x80 := by
  rcases w with _ | _ | ⟨s, hs⟩
  · exact SystemArea.WellFormed.block_lt c.property
  · exact Memory.block_lt c.property
  · exact Memory.block_lt c.property

end Window

/-- The typed view of the pedal: what each window holds. -/
def Bank := (w : Window) → w.Content

/-- The window `w` takes the value `c`. -/
def Bank.put (bank : Bank) (w : Window) (c : w.Content) : Bank :=
  Function.update bank w c

@[simp] theorem Bank.put_self (bank : Bank) (w : Window) (c : w.Content) :
    bank.put w c w = c :=
  Function.update_self w c bank

theorem Bank.put_of_ne (bank : Bank) {w target : Window} (htarget : target ≠ w)
    (c : w.Content) : bank.put w c target = bank target :=
  Function.update_of_ne htarget c bank

/-- Every window of the memory holds the block of the bank's value. -/
def Holds (memory : ℕ → UInt8) (bank : Bank) : Prop :=
  ∀ w, pedal.view memory w = (bank w).block

/-- A memory in which one window is replaced by the block of a value holds the
bank with that value put there. -/
theorem Holds.put {memory memory' : ℕ → UInt8} {bank : Bank}
    (hholds : Holds memory bank) {w : Window} {c : w.Content}
    (hview : pedal.view memory' = Function.update (pedal.view memory) w c.block) :
    Holds memory' (bank.put w c) := by
  intro target
  rw [hview]
  by_cases htarget : target = w
  · subst htarget
    rw [Function.update_self, Bank.put_self]
  · rw [Function.update_of_ne htarget, bank.put_of_ne htarget]
    exact hholds target

/-- Writing the block of a value at its window replaces that window. -/
theorem view_write_content (memory : ℕ → UInt8) {w : Window} (c : w.Content) :
    pedal.view (FlatMemory.write memory w.base c.block) =
      Function.update (pedal.view memory) w c.block :=
  let write : FlatMemory.Layout.Write pedal UInt8 := ⟨w, c.block, c.length_block⟩
  write.view_apply memory

/-- The patch of a slot that reads as zeros throughout. -/
def Memory.cleared : Memory where
  tape := .new
  mode := .m1
  repeatRate := ⟨0, 0, 0⟩
  intensity := ⟨0, 0, 0⟩
  echoVolume := ⟨0, 0, 0⟩
  bass := ⟨0, 0, 0⟩
  treble := ⟨0, 0, 0⟩
  reverbVolume := ⟨0, 0, 0⟩
  saturation := ⟨0, 0, 0⟩
  wowFlutter := ⟨0, 0, 0⟩
  reverbSw := false
  tapSw := false
  tapTimeMs := 0
  timeMode := .normal

theorem Memory.cleared_rangesValid : Memory.cleared.RangesValid := by decide

/-- Captured settings, and cleared memories. -/
def Bank.cleared : Bank
  | .system => ⟨SystemArea.captured, by decide⟩
  | .editBuffer => ⟨Memory.cleared, Memory.cleared_rangesValid⟩
  | .slot _ _ => ⟨Memory.cleared, Memory.cleared_rangesValid⟩

def clearedMemory : ℕ → UInt8 :=
  FlatMemory.write (fun _ => 0) Window.system.base
    SystemArea.captured.block.toList

theorem holds_cleared : Holds clearedMemory Bank.cleared := by
  have hview := @view_write_content (fun _ => 0) .system (Bank.cleared .system)
  have hzeros : ∀ base, FlatMemory.read (fun _ => (0 : UInt8)) base 33 =
      Memory.cleared.block.toList := fun _ => rfl
  intro w
  refine (congrFun hview w).trans ?_
  rcases w with _ | _ | ⟨s, hs⟩
  · exact Function.update_self _ _ _
  · exact (Function.update_of_ne (by simp) _ _).trans (hzeros _)
  · exact (Function.update_of_ne (by simp) _ _).trans (hzeros _)

/-- Setting one parameter of a patch to a value in its range. -/
theorem Memory.set_field {p : BlockField Memory UInt8} (hp : p ∈ Memory.fields)
    {v : p.Value} (hv : p.InRange v) {m : Memory} (hm : m.RangesValid) :
    (p.set v m).RangesValid ∧
      (p.set v m).block.toList = overwrite m.block.toList p.offset (p.code v) := by
  have hread := (Memory.fields_ownWindow p hp v hv).2 m.block.toList m
    (Memory.exact.complete hm)
  exact Memory.exact.sound hread

/-- A parameter's window lies within the block. -/
theorem Memory.field_fits {p : BlockField Memory UInt8} (hp : p ∈ Memory.fields)
    (v : p.Value) : p.offset + (p.code v).length ≤ 33 := by
  have hall : ∀ p ∈ Memory.fields, ∀ v : p.Value,
      p.offset + (p.code v).length ≤ 33 := by
    simp only [Memory.fields, List.forall_mem_cons, List.not_mem_nil,
      false_implies, implies_true, and_true]
    refine ⟨?_, ?_, ?_, ?_, ?_, ?_, ?_, ?_, ?_, ?_, ?_, ?_, ?_, ?_⟩ <;>
      exact fun _ => Nat.le_of_ble_eq_true rfl
  exact hall p hp v

/-- The settings a document stands for, if the block can express them. -/
def settingsOf (kit : Kit) (doc : Value) : Option Settings :=
  match kit.systemFromValue doc with
  | .ok s => if hwell : s.WellFormed then some ⟨s, hwell⟩ else none
  | .error _ => none

/-- The patch a document stands for, if the encoder takes it. -/
def patchOf (kit : Kit) (doc : Value) : Option Patch :=
  match kit.memoryFromValue doc with
  | .ok m => if hrange : m.InRange then some ⟨m, hrange.ranges⟩ else none
  | .error _ => none

theorem settingsOf_eq_some_iff {kit : Kit} {doc : Value} {s : Settings} :
    settingsOf kit doc = some s ↔ kit.systemFromValue doc = .ok s.val := by
  obtain ⟨s, hs⟩ := s
  unfold settingsOf
  rcases kit.systemFromValue doc with e | found
  · simp
  · by_cases hwell : found.WellFormed
    · simp [hwell]
    · have hne : found ≠ s := by
        rintro rfl
        exact hwell hs
      simp [hwell, hne]

theorem patchOf_eq_some_iff {kit : Kit} {doc : Value} {m : Patch} :
    patchOf kit doc = some m ↔
      kit.memoryFromValue doc = .ok m.val ∧ m.val.InRange := by
  obtain ⟨m, hm⟩ := m
  unfold patchOf
  rcases kit.memoryFromValue doc with e | found
  · simp
  · by_cases hrange : found.InRange
    · simp only [hrange, dif_pos, Option.some.injEq, Subtype.mk.injEq,
        Except.ok.injEq]
      constructor
      · rintro rfl
        exact ⟨rfl, hrange⟩
      · exact And.left
    · simp only [hrange, dif_neg, not_false_eq_true, reduceCtorEq,
        Except.ok.injEq, false_iff, not_and]
      rintro rfl
      exact hrange

namespace Re202.Operation

/-- What an operation is meant to put where, as a typed value. -/
def assignment (kit : Kit) : Operation → Option ((w : Window) × w.Content)
  | encode area doc _ =>
      match area with
      | "system" => (settingsOf kit doc).map fun s => ⟨.system, s⟩
      | "memory" => (patchOf kit doc).map fun m =>
          ⟨.slot .manual MemorySlot.manual_exists, m⟩
      | "edit" => (patchOf kit doc).map fun m => ⟨.editBuffer, m⟩
      | _ => none
  | store area doc dest _ =>
      match targetFor area, hdest : parseDest kit dest with
      | some (.memory _), .ok slot => (patchOf kit doc).map fun m =>
          ⟨.slot slot (parseDest_exists hdest), m⟩
      | _, _ => none

/-- The operation writes no System document with a channel number that the
block cannot express. -/
def Faithful (kit : Kit) : Operation → Prop
  | encode area doc _ => area = "system" → ∀ s, kit.systemFromValue doc = .ok s →
      s.midi.rxChannel.WellFormed ∧ s.midi.txChannel.WellFormed
  | store _ _ _ _ => True

section Assignment

variable {kit : Kit}

theorem message_encode_iff {area : String} {doc : Value} {ch : UInt8}
    {bytes : List UInt8} : (encode area doc ch).message kit = some bytes ↔
      Re202.encode kit area doc ch = .ok bytes :=
  Codec.toOption_eq_some_iff

theorem message_store_iff {area dest : String} {doc : Value} {ch : UInt8}
    {bytes : List UInt8} : (store area doc dest ch).message kit = some bytes ↔
      Re202.store kit area doc dest ch = some (.ok bytes) := by
  simp only [message, Option.bind_eq_some_iff, Codec.toOption_eq_some_iff,
    exists_eq_right]

/-- An operation that is meant to put a value somewhere sends its block there. -/
theorem message_of_assignment {op : Operation} {w : Window} {c : w.Content}
    (hassign : op.assignment kit = some ⟨w, c⟩) :
    ∃ address, linear address = w.base ∧ op.message kit =
      some (Frame.dataSet (rolandDeviceId op.channel) address c.block).encode := by
  have hencode : ∀ {area : String} {target : Target} {doc : Value} {ch : UInt8}
      {data : List UInt8}, targetFor area = some target →
      target.Encodes kit doc data → (encode area doc ch).message kit =
        some (Frame.dataSet (rolandDeviceId ch) target.base data).encode := by
    intro area target doc ch data htarget hencodes
    exact message_encode_iff.mpr
      ((encode_eq_ok_iff_of_target htarget).mpr ⟨data, hencodes, rfl⟩)
  rcases op with ⟨area, doc, ch⟩ | ⟨area, doc, dest, ch⟩
  · simp only [assignment] at hassign
    split at hassign
    · obtain ⟨s, hs, hcontent⟩ := Option.map_eq_some_iff.mp hassign
      cases hcontent
      have hread := settingsOf_eq_some_iff.mp hs
      exact ⟨systemBase, rfl, @hencode "system" .system _ _ _ rfl
        ⟨s.val, hread, s.property.memoryExtent, rfl⟩⟩
    · obtain ⟨m, hm, hcontent⟩ := Option.map_eq_some_iff.mp hassign
      cases hcontent
      obtain ⟨hread, hrange⟩ := patchOf_eq_some_iff.mp hm
      refine ⟨MemorySlot.manual.baseAddress, (Window.base_slot _ _).symm,
        @hencode "memory" (.memory _) _ _ _ rfl ⟨m.val, hread, hrange, rfl⟩⟩
    · obtain ⟨m, hm, hcontent⟩ := Option.map_eq_some_iff.mp hassign
      cases hcontent
      obtain ⟨hread, hrange⟩ := patchOf_eq_some_iff.mp hm
      exact ⟨editBufferBase, rfl, @hencode "edit" (.memory _) _ _ _ rfl
        ⟨m.val, hread, hrange, rfl⟩⟩
    · cases hassign
  · simp only [assignment] at hassign
    split at hassign
    · rename_i address slot htarget hdest
      obtain ⟨m, hm, hcontent⟩ := Option.map_eq_some_iff.mp hassign
      cases hcontent
      obtain ⟨hread, hrange⟩ := patchOf_eq_some_iff.mp hm
      exact ⟨slot.baseAddress, (Window.base_slot _ _).symm,
        message_store_iff.mpr (store_eq_ok_iff.mpr ⟨address, slot, _, htarget,
          hdest, ⟨m.val, hread, hrange, rfl⟩, rfl⟩)⟩
    · cases hassign

/-- A patch that is stored is meant for the slot. -/
theorem assignment_store {area dest : String} {address : Address}
    (htarget : targetFor area = some (.memory address)) {slot : MemorySlot}
    (hdest : parseDest kit dest = .ok slot) {doc : Value} {m : Memory}
    (hread : kit.memoryFromValue doc = .ok m) (hrange : m.InRange) (ch : UInt8) :
    (store area doc dest ch).assignment kit =
      some ⟨.slot slot (parseDest_exists hdest), ⟨m, hrange.ranges⟩⟩ := by
  have hpatch : patchOf kit doc = some ⟨m, hrange.ranges⟩ :=
    patchOf_eq_some_iff.mpr ⟨hread, hrange⟩
  simp only [assignment]
  split
  · rename_i hdest'
    rw [hdest, Except.ok.injEq] at hdest'
    subst hdest'
    rw [hpatch]
    rfl
  · rename_i hother
    exact absurd hdest (hother address slot htarget)

/-- Any other operation sends nothing. -/
theorem message_of_no_assignment {op : Operation} (hfaithful : op.Faithful kit)
    (hassign : op.assignment kit = none) : op.message kit = none := by
  rw [Option.eq_none_iff_forall_ne_some]
  intro bytes hmessage
  rcases op with ⟨area, doc, ch⟩ | ⟨area, doc, dest, ch⟩
  · obtain ⟨target, data, htarget, hencodes, _⟩ :=
      encode_eq_ok_iff.mp (message_encode_iff.mp hmessage)
    rcases (targetFor_eq_some_iff area target).mp htarget with
      ⟨rfl, rfl⟩ | ⟨rfl, rfl⟩ | ⟨rfl, rfl⟩
    · obtain ⟨s, hread, hextent, _⟩ := hencodes
      obtain ⟨hrx, htx⟩ := hfaithful rfl s hread
      have hs := settingsOf_eq_some_iff.mpr
        (show kit.systemFromValue doc = .ok (⟨s, hextent, hrx, htx⟩ : Settings).val
          from hread)
      simp only [assignment, hs] at hassign
      cases hassign
    · obtain ⟨m, hread, hrange, _⟩ := hencodes
      have hm := patchOf_eq_some_iff.mpr
        (show kit.memoryFromValue doc = .ok (⟨m, hrange.ranges⟩ : Patch).val ∧ _
          from ⟨hread, hrange⟩)
      simp only [assignment, hm] at hassign
      cases hassign
    · obtain ⟨m, hread, hrange, _⟩ := hencodes
      have hm := patchOf_eq_some_iff.mpr
        (show kit.memoryFromValue doc = .ok (⟨m, hrange.ranges⟩ : Patch).val ∧ _
          from ⟨hread, hrange⟩)
      simp only [assignment, hm] at hassign
      cases hassign
  · obtain ⟨address, slot, data, htarget, hdest, ⟨m, hread, hrange, _⟩, _⟩ :=
      store_eq_ok_iff.mp (message_store_iff.mp hmessage)
    have hm := patchOf_eq_some_iff.mpr
      (show kit.memoryFromValue doc = .ok (⟨m, hrange.ranges⟩ : Patch).val ∧ _
        from ⟨hread, hrange⟩)
    simp only [assignment] at hassign
    split at hassign
    · simp only [hm] at hassign
      cases hassign
    · rename_i hother
      exact hother address slot htarget hdest

end Assignment

end Re202.Operation

end SpaceEcho
