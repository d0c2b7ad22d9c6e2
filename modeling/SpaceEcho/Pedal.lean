/-
The pedal as the adapter's messages act on it: a flat memory over linear
addresses, with one window for the System area, one for the edit buffer and one
for each slot.  A run of operations is the same as a run of whole-window
writes, so no write reaches beyond the window it was meant for.
-/
import SpaceEcho.Emission
import SpaceEcho.Lib.FlatMemory

namespace SpaceEcho

theorem MemorySlot.Exists.index_inj {left right : MemorySlot}
    (hleft : left.Exists) (hright : right.Exists)
    (hindex : left.index.toNat = right.index.toNat) : left = right := by
  have hpos : ∀ n : UInt8, 1 ≤ n → n.toUInt16.toNat ≠ 0 := by
    intro n hn
    have h := UInt8.le_iff_toNat_le.mp hn
    rw [UInt8.toNat_toUInt16]
    exact Nat.ne_of_gt h
  rcases left with _ | m
  · rcases right with _ | n
    · rfl
    · exact absurd hindex.symm (hpos n hright.1)
  · rcases right with _ | n
    · exact absurd hindex (hpos m hleft.1)
    · have hsame : m = n := UInt8.toNat_inj.mp hindex
      rw [hsame]

/-- The parts of the pedal's memory that operations write. -/
inductive Window where
  | system
  | editBuffer
  | slot (s : MemorySlot) (hslot : s.Exists)
deriving DecidableEq

namespace Window

/-- Slots stand at even strides from the edit buffer on. -/
def base : Window → ℕ
  | system => linear systemBase
  | editBuffer => linear editBufferBase
  | slot s _ => linear editBufferBase + (s.index.toNat + 1) * 0x10 * 128 ^ 2

def length : Window → ℕ
  | system => 18
  | _ => 33

theorem base_system : base system = 0x10 * 128 ^ 3 := rfl

theorem base_editBuffer : base editBuffer = 0x20 * 128 ^ 3 := rfl

theorem base_slot (s : MemorySlot) (hslot : s.Exists) :
    base (slot s hslot) = linear s.baseAddress := by
  rw [linear_baseAddress]
  rfl

/-- No two windows overlap: the strides are far longer than a block. -/
theorem disjoint (v w : Window) (hne : v ≠ w) :
    v.base + v.length ≤ w.base ∨ w.base + w.length ≤ v.base := by
  have hslot : ∀ s hs, base (slot s hs) =
      0x20 * 128 ^ 3 + (s.index.toNat + 1) * 0x10 * 128 ^ 2 := by
    intro s hs
    rw [base_slot, linear_baseAddress]
  rcases v with _ | _ | ⟨s, hs⟩
  · rcases w with _ | _ | ⟨t, ht⟩
    · exact absurd rfl hne
    · exact Or.inl (by decide)
    · left
      simp only [hslot, base_system, length]
      omega
  · rcases w with _ | _ | ⟨t, ht⟩
    · exact Or.inr (by decide)
    · exact absurd rfl hne
    · left
      simp only [hslot, base_editBuffer, length]
      omega
  · rcases w with _ | _ | ⟨t, ht⟩
    · right
      simp only [hslot, base_system, length]
      omega
    · right
      simp only [hslot, base_editBuffer, length]
      omega
    · have hindex : s.index.toNat ≠ t.index.toNat := by
        intro heq
        have hsame := hs.index_inj ht heq
        subst hsame
        exact hne rfl
      simp only [hslot, length]
      omega

end Window

/-- The pedal's memory map. -/
def pedal : FlatMemory.Layout Window where
  base := Window.base
  length := Window.length
  disjoint := Window.disjoint

/-- A data set takes effect: its data is stored from its linear address on. -/
def receive (memory : ℕ → UInt8) (message : List UInt8) : ℕ → UInt8 :=
  match Frame.ofWire message with
  | some f =>
      if f.command = cmdDT1 then
        FlatMemory.write memory (linear f.address) f.data
      else memory
  | none => memory

namespace Re202

/-- The two operations that write to the pedal. -/
inductive Operation where
  | encode (area : String) (doc : Value) (ch : UInt8)
  | store (area : String) (doc : Value) (dest : String) (ch : UInt8)

namespace Operation

/-- The channel an operation is sent on. -/
def channel : Operation → UInt8
  | encode _ _ ch => ch
  | store _ _ _ ch => ch

/-- The message of a successful operation. -/
def message (kit : Kit) : Operation → Option (List UInt8)
  | encode area doc ch => (Re202.encode kit area doc ch).toOption
  | store area doc dest ch =>
      (Re202.store kit area doc dest ch).bind Except.toOption

/-- The data bytes of a successful operation's frame. -/
def data (kit : Kit) (op : Operation) : Option (List UInt8) :=
  ((op.message kit).bind Frame.ofWire).map Frame.data

/-- The window an operation is meant for. -/
def window (kit : Kit) : Operation → Option Window
  | encode area _ _ =>
      match area with
      | "system" => some .system
      | "memory" => some (.slot .manual MemorySlot.manual_exists)
      | "edit" => some .editBuffer
      | _ => none
  | store _ _ dest _ =>
      match hdest : parseDest kit dest with
      | .ok slot => some (.slot slot (parseDest_exists hdest))
      | .error _ => none

end Operation

/-- Apply the messages of a run of operations; failing ones send nothing. -/
def run (kit : Kit) (operations : List Operation) (memory : ℕ → UInt8) :
    ℕ → UInt8 :=
  (operations.filterMap (Operation.message kit)).foldl receive memory

/-- The data of the successful operations meant for a window, in order. -/
def dataTo (kit : Kit) (operations : List Operation) (target : Window) :
    List (List UInt8) :=
  (operations.filter fun op => op.window kit = some target).filterMap
    (Operation.data kit)

section Run

variable {kit : Kit}

theorem length_of_encodes {target : Target} {doc : Value} {data : List UInt8}
    (hencodes : target.Encodes kit doc data) : data.length = target.length := by
  rcases target with _ | address
  · obtain ⟨s, _, _, rfl⟩ := hencodes
    exact s.block.length_toList
  · obtain ⟨m, _, _, rfl⟩ := hencodes
    exact m.block.length_toList

/-- A data set whose address and length are a window's is a write of it. -/
theorem exists_write_of_dataSet (deviceId : UInt8) {address : Address}
    {data : List UInt8} {w : Window} (haddress : linear address = w.base)
    (hlength : data.length = w.length) :
    ∃ write : FlatMemory.Layout.Write pedal UInt8,
      write.window = w ∧ write.data = data ∧
      ∀ memory, receive memory
        (Frame.dataSet deviceId address data).encode = write.apply memory := by
  refine ⟨⟨w, data, hlength⟩, rfl, rfl, ?_⟩
  intro memory
  have hcommand : (Frame.dataSet deviceId address data).command = cmdDT1 := rfl
  simp only [receive, Frame.ofWire_encode, if_pos hcommand]
  simp only [Frame.dataSet, haddress]
  rfl

theorem data_of_message {op : Operation} {deviceId : UInt8} {address : Address}
    {data : List UInt8}
    (hmessage : op.message kit =
      some (Frame.dataSet deviceId address data).encode) :
    op.data kit = some data := by
  rw [Operation.data, hmessage, Option.bind_some, Frame.ofWire_encode]
  rfl

/-- The window an encode is meant for starts at its area's address and has its
block's length. -/
theorem window_of_targetFor {area : String} {target : Target}
    (htarget : targetFor area = some target) (doc : Value) (ch : UInt8) :
    ∃ w, (Operation.encode area doc ch).window kit = some w ∧
      linear target.base = w.base ∧ target.length = w.length := by
  rcases (targetFor_eq_some_iff area target).mp htarget with
    ⟨rfl, rfl⟩ | ⟨rfl, rfl⟩ | ⟨rfl, rfl⟩
  · exact ⟨.system, rfl, rfl, rfl⟩
  · refine ⟨.slot .manual MemorySlot.manual_exists, rfl, ?_, rfl⟩
    rw [Window.base_slot, baseAddress_manual]
    rfl
  · exact ⟨.editBuffer, rfl, rfl, rfl⟩

theorem window_of_parseDest {dest : String} {slot : MemorySlot}
    (hdest : parseDest kit dest = .ok slot) (area : String) (doc : Value)
    (ch : UInt8) :
    (Operation.store area doc dest ch).window kit =
      some (.slot slot (parseDest_exists hdest)) := by
  simp only [Operation.window]
  split
  · rename_i found hfound
    rw [hdest, Except.ok.injEq] at hfound
    subst hfound
    rfl
  · rename_i error hfailed
    rw [hdest] at hfailed
    cases hfailed

/-- A successful operation sends one data set on its channel, to the start of the
window it is meant for and as long as that window. -/
theorem exists_dataSet {op : Operation} {message : List UInt8}
    (hmessage : op.message kit = some message) :
    ∃ (w : Window) (address : Address) (data : List UInt8),
      op.window kit = some w ∧ linear address = w.base ∧
      data.length = w.length ∧
      message = (Frame.dataSet (rolandDeviceId op.channel) address data).encode := by
  rcases op with ⟨area, doc, ch⟩ | ⟨area, doc, dest, ch⟩
  · obtain ⟨target, data, htarget, hencodes, rfl⟩ :=
      encode_eq_ok_iff.mp (Codec.toOption_eq_some_iff.mp hmessage)
    obtain ⟨w, hwindow, hbase, hlength⟩ := window_of_targetFor htarget doc ch
    exact ⟨w, target.base, data, hwindow, hbase,
      (length_of_encodes hencodes).trans hlength, rfl⟩
  · have hstore : store kit area doc dest ch = some (.ok message) := by
      simpa only [Operation.message, Option.bind_eq_some_iff,
        Codec.toOption_eq_some_iff, exists_eq_right] using hmessage
    obtain ⟨address, slot, data, _, hdest, hencodes, rfl⟩ :=
      store_eq_ok_iff.mp hstore
    have hbase := Window.base_slot slot (parseDest_exists hdest)
    exact ⟨_, slot.baseAddress, data, window_of_parseDest hdest area doc ch,
      hbase.symm, length_of_encodes hencodes, rfl⟩

/-- Step: a successful operation is one write of the window it is meant for. -/
theorem exists_write {op : Operation} {message : List UInt8}
    (hmessage : op.message kit = some message) :
    ∃ write : FlatMemory.Layout.Write pedal UInt8,
      op.window kit = some write.window ∧ op.data kit = some write.data ∧
      ∀ memory, receive memory message = write.apply memory := by
  obtain ⟨w, address, data, hwindow, hbase, hlength, rfl⟩ :=
    exists_dataSet hmessage
  obtain ⟨write, rfl, rfl, heffect⟩ :=
    exists_write_of_dataSet (rolandDeviceId op.channel) hbase hlength
  exact ⟨write, hwindow, data_of_message hmessage, heffect⟩

/-- Run: a run of operations is a run of writes, in which each window is given
the data of the operations meant for it. -/
theorem exists_writes (operations : List Operation) :
    ∃ writes : List (FlatMemory.Layout.Write pedal UInt8),
      (∀ memory, run kit operations memory =
        writes.foldl (fun mem w => w.apply mem) memory) ∧
      ∀ target, FlatMemory.Layout.blocksTo writes target =
        dataTo kit operations target := by
  induction operations with
  | nil => exact ⟨[], fun _ => rfl, fun _ => rfl⟩
  | cons op rest ih =>
      obtain ⟨writes, hrun, hblocks⟩ := ih
      rcases hmessage : op.message kit with _ | message
      · have hdata : op.data kit = none := by
          rw [Operation.data, hmessage]
          rfl
        refine ⟨writes, ?_, ?_⟩
        · intro memory
          rw [← hrun, run, run, List.filterMap_cons_none hmessage]
        · intro target
          rw [hblocks, dataTo, dataTo]
          by_cases htarget : op.window kit = some target
          · rw [List.filter_cons_of_pos (by simp [htarget]),
              List.filterMap_cons_none hdata]
          · rw [List.filter_cons_of_neg (by simp [htarget])]
      · obtain ⟨write, hwindow, hdata, heffect⟩ := exists_write hmessage
        refine ⟨write :: writes, ?_, ?_⟩
        · intro memory
          rw [List.foldl_cons, ← hrun, ← heffect, run, run,
            List.filterMap_cons_some hmessage, List.foldl_cons]
        · intro target
          have hrest := hblocks target
          simp only [FlatMemory.Layout.blocksTo, dataTo] at hrest ⊢
          by_cases htarget : write.window = target
          · rw [List.filter_cons_of_pos (by simp [htarget]),
              List.filter_cons_of_pos (by simp [hwindow, htarget]),
              List.map_cons, List.filterMap_cons_some hdata, hrest]
          · rw [List.filter_cons_of_neg (by simp [htarget]),
              List.filter_cons_of_neg (by simp [hwindow, htarget]), hrest]

end Run

/-- Every successful operation sends one data set that is a write of the window it
is meant for.  After any run of operations each window holds the data of the last
successful operation meant for it, or what it held before if there was none, and
no other address has changed. -/
theorem run_writes_only_targets (kit : Kit) (operations : List Operation)
    (memory : ℕ → UInt8) :
    (∀ (op : Operation) (message : List UInt8), op.message kit = some message →
      ∃ (w : Window) (address : Address) (data : List UInt8),
        op.window kit = some w ∧ op.data kit = some data ∧
        linear address = w.base ∧ data.length = w.length ∧
        message =
          (Frame.dataSet (rolandDeviceId op.channel) address data).encode) ∧
    (∀ target : Window,
      FlatMemory.read (run kit operations memory) target.base target.length =
        (dataTo kit operations target).getLast?.getD
          (FlatMemory.read memory target.base target.length)) ∧
    ∀ a, (∀ w : Window, ¬ (w.base ≤ a ∧ a < w.base + w.length)) →
      run kit operations memory a = memory a := by
  obtain ⟨writes, hrun, hblocks⟩ := @exists_writes kit operations
  rw [hrun]
  refine ⟨?_, ?_, ?_⟩
  · intro op message hmessage
    obtain ⟨w, address, data, hwindow, hbase, hlength, rfl⟩ :=
      exists_dataSet hmessage
    exact ⟨w, address, data, hwindow, data_of_message hmessage, hbase, hlength,
      rfl⟩
  · intro target
    rw [← hblocks]
    exact FlatMemory.Layout.view_run_apply writes memory target
  · intro a houtside
    exact FlatMemory.Layout.run_outside writes memory houtside

end Re202

end SpaceEcho
