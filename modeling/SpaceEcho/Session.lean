/-
The pedal in use, as the device notes record it: the edit buffer is a volatile
copy of the selected memory, a data set to a slot or to the System area
persists, the knobs, buttons and control changes work on the edit buffer, and
the WRITE button copies it to a slot.  MANUAL follows the panel, so the values
that selecting or saving it leaves behind are given with the event.
-/
import SpaceEcho.Bank
import SpaceEcho.Echoes
import SpaceEcho.Lib.Footprint

namespace SpaceEcho

/-- What can happen to the pedal between two looks at it. -/
inductive Event where
  | send (op : Re202.Operation)
  | ask (area : String) (ch : UInt8)
  | select (n : UInt8) (hn : (MemorySlot.user n).Exists)
  | selectManual (panel : Patch)
  | turn (p : FieldWindow.BlockField Memory UInt8) (hp : p ∈ Memory.fields)
      (v : p.Value) (hv : p.InRange v)
  | save (n : UInt8) (hn : (MemorySlot.user n).Exists)
  | saveManual (kept : Patch)

/-- The pedal stores the data of a well-formed data set that carries its own
device id, and ignores every other message. -/
def takeIn (deviceId : UInt8) (memory : ℕ → UInt8) (message : List UInt8) :
    ℕ → UInt8 :=
  match Frame.decode message with
  | .ok f =>
      if f.command = cmdDT1 ∧ f.deviceId = deviceId then
        FlatMemory.write memory (linear f.address) f.data
      else memory
  | .error _ => memory

namespace Event

/-- The effect of an event on the memory of the pedal on channel `ch`. -/
def step (kit : Kit) (ch : UInt8) (memory : ℕ → UInt8) : Event → ℕ → UInt8
  | send op =>
      match op.message kit with
      | some message => takeIn (Re202.rolandDeviceId ch) memory message
      | none => memory
  | ask area ch' =>
      match Re202.request area ch' with
      | .ok message => takeIn (Re202.rolandDeviceId ch) memory message
      | .error _ => memory
  | select n hn =>
      FlatMemory.write memory Window.editBuffer.base
        (pedal.view memory (.slot (.user n) hn))
  | selectManual panel =>
      FlatMemory.write memory Window.editBuffer.base panel.val.block.toList
  | turn p _ v _ =>
      FlatMemory.write memory (Window.editBuffer.base + p.offset) (p.code v)
  | save n hn =>
      FlatMemory.write memory (Window.slot (.user n) hn).base
        (pedal.view memory .editBuffer)
  | saveManual kept =>
      FlatMemory.write memory (Window.slot .manual MemorySlot.manual_exists).base
        kept.val.block.toList

/-- The effect of an event on the bank. -/
def stepBank (kit : Kit) (ch : UInt8) (bank : Bank) : Event → Bank
  | send op =>
      if op.channel = ch then
        match op.assignment kit with
        | some ⟨w, c⟩ => bank.put w c
        | none => bank
      else bank
  | ask _ _ => bank
  | select n hn => bank.put .editBuffer (bank (.slot (.user n) hn))
  | selectManual panel => bank.put .editBuffer panel
  | turn p hp v hv =>
      bank.put .editBuffer ⟨p.set v (bank .editBuffer).val,
        (Memory.set_field hp hv (bank .editBuffer).property).1⟩
  | save n hn => bank.put (.slot (.user n) hn) (bank .editBuffer)
  | saveManual kept => bank.put (.slot .manual MemorySlot.manual_exists) kept

/-- The window an event is meant for. -/
def window (kit : Kit) : Event → Option Window
  | send op => op.window kit
  | ask _ _ => none
  | select _ _ => some .editBuffer
  | selectManual _ => some .editBuffer
  | turn _ _ _ _ => some .editBuffer
  | save n hn => some (.slot (.user n) hn)
  | saveManual _ => some (.slot .manual MemorySlot.manual_exists)

/-- The window an event copies from. -/
def reads : Event → Option Window
  | select n hn => some (.slot (.user n) hn)
  | save _ _ => some .editBuffer
  | _ => none

/-- What is sent says what its document says. -/
def Faithful (kit : Kit) : Event → Prop
  | send op => op.Faithful kit
  | _ => True

end Event

section TakeIn

/-- A frame that decodes from an encoding is the frame that was encoded. -/
theorem Frame.eq_of_decode_encode {f g : Frame}
    (hdecode : Frame.decode g.encode = .ok f) : f = g := by
  have hsame := congrArg Frame.ofWire (Frame.exact.sound hdecode).2
  rw [Frame.ofWire_encode, Frame.ofWire_encode, Option.some.injEq] at hsame
  exact hsame

theorem Re202.rolandDeviceId_inj {left right : UInt8}
    (hsame : Re202.rolandDeviceId left = Re202.rolandDeviceId right) :
    left = right :=
  UInt8.add_right_inj _ |>.mp hsame

variable {ch : UInt8} (memory : ℕ → UInt8)

/-- Either the message is stored as it reads, or it is ignored. -/
theorem takeIn_eq_or (deviceId : UInt8) (message : List UInt8) :
    takeIn deviceId memory message = memory ∨
      takeIn deviceId memory message = receive memory message := by
  unfold takeIn
  rcases hdecode : Frame.decode message with error | f
  · exact Or.inl rfl
  · dsimp only
    split
    · rename_i hown
      right
      rw [receive, ← (Frame.exact.sound hdecode).2, Frame.ofWire_encode]
      exact (if_pos hown.1).symm
    · exact Or.inl rfl

variable {memory} in
/-- What a message leaves at an address depends on that address only. -/
theorem takeIn_congr {memory' : ℕ → UInt8} {a : ℕ} (ha : memory a = memory' a)
    (deviceId : UInt8) (message : List UInt8) :
    takeIn deviceId memory message a = takeIn deviceId memory' message a := by
  unfold takeIn
  rcases Frame.decode message with error | f
  · exact ha
  · dsimp only
    split
    · exact FlatMemory.write_congr ha _ _
    · exact ha

theorem takeIn_dataSet (hch : ch ≤ 15) (address : Address) {data : List UInt8}
    (hdata : ∀ b ∈ data, b < 0x80) :
    takeIn (Re202.rolandDeviceId ch) memory
        (Frame.dataSet (Re202.rolandDeviceId ch) address data).encode =
      FlatMemory.write memory (linear address) data := by
  have hdecode : Frame.decode
      (Frame.dataSet (Re202.rolandDeviceId ch) address data).encode =
        .ok (Frame.dataSet (Re202.rolandDeviceId ch) address data) :=
    Frame.exact.complete ⟨Re202.rolandDeviceId_range hch, Or.inl rfl, hdata⟩
  rw [takeIn, hdecode]
  exact if_pos ⟨rfl, rfl⟩

/-- A data set that the format can carry is stored as it reads. -/
theorem takeIn_eq_receive {deviceId : UInt8} {address : Address} {data : List UInt8}
    {f : Frame}
    (hframe : Frame.decode (Frame.dataSet deviceId address data).encode = .ok f) :
    takeIn deviceId memory (Frame.dataSet deviceId address data).encode =
      receive memory (Frame.dataSet deviceId address data).encode := by
  obtain rfl := Frame.eq_of_decode_encode hframe
  have hcommand : (Frame.dataSet deviceId address data).command = cmdDT1 := rfl
  have hown : (Frame.dataSet deviceId address data).command = cmdDT1 ∧
      (Frame.dataSet deviceId address data).deviceId = deviceId := ⟨rfl, rfl⟩
  simp only [takeIn, hframe, receive, Frame.ofWire_encode, if_pos hown,
    if_pos hcommand]

/-- A frame for another device, or one that is no data set, changes nothing. -/
theorem takeIn_of_ignored (deviceId : UInt8) {f : Frame}
    (hignored : ¬ (f.command = cmdDT1 ∧ f.deviceId = deviceId)) :
    takeIn deviceId memory f.encode = memory := by
  unfold takeIn
  rcases hdecode : Frame.decode f.encode with error | g
  · rfl
  · obtain rfl := Frame.eq_of_decode_encode hdecode
    exact if_neg hignored

end TakeIn

namespace Event

variable {kit : Kit} {ch : UInt8} {memory : ℕ → UInt8} {bank : Bank}

theorem step_ask (memory : ℕ → UInt8) (area : String) (ch' : UInt8) :
    step kit ch memory (ask area ch') = memory := by
  rcases hrequest : Re202.request area ch' with error | message
  · simp only [step, hrequest]
  · obtain ⟨target, _, rfl⟩ := Re202.request_eq_ok_iff.mp hrequest
    simp only [step, hrequest]
    apply takeIn_of_ignored
    rintro ⟨hcommand, _⟩
    have hrequest : cmdRQ1 ≠ cmdDT1 := by decide
    exact hrequest hcommand

/-- Step: a message for this pedal writes the value it was made from. -/
theorem step_send_own (hch : ch ≤ 15) {op : Re202.Operation} {w : Window}
    {c : w.Content} (hassign : op.assignment kit = some ⟨w, c⟩)
    (hchannel : op.channel = ch) (memory : ℕ → UInt8) :
    step kit ch memory (send op) = FlatMemory.write memory w.base c.block := by
  obtain ⟨address, haddress, hmessage⟩ :=
    Re202.Operation.message_of_assignment hassign
  simp only [step, hmessage]
  rw [hchannel, takeIn_dataSet memory hch address c.block_lt, haddress]

/-- Step: a message for this pedal that the format can carry is a write of the
window it is meant for. -/
theorem exists_write_of_send {op : Re202.Operation} {message : List UInt8}
    {f : Frame} (hmessage : op.message kit = some message)
    (hframe : Frame.decode message = .ok f) (hchannel : op.channel = ch) :
    ∃ write : FlatMemory.Layout.Write pedal UInt8,
      op.window kit = some write.window ∧
      ∀ memory, step kit ch memory (send op) = write.apply memory := by
  obtain ⟨write, hwindow, _, heffect⟩ := Re202.exists_write hmessage
  refine ⟨write, hwindow, ?_⟩
  intro memory
  obtain ⟨_, address, data, _, _, _, rfl⟩ := Re202.exists_dataSet hmessage
  rw [← heffect, ← takeIn_eq_receive memory hframe, hchannel]
  simp only [step, hmessage, hchannel]

/-- Step: a message stores the typed value it was made from, if it is for this
pedal, and nothing otherwise. -/
theorem step_send (hch : ch ≤ 15) (hholds : Holds memory bank)
    {op : Re202.Operation} (hfaithful : op.Faithful kit) :
    Holds (step kit ch memory (send op)) (stepBank kit ch bank (send op)) := by
  rcases hassign : op.assignment kit with _ | ⟨w, c⟩
  · have hmessage := Re202.Operation.message_of_no_assignment hfaithful hassign
    simp only [step, stepBank, hmessage, hassign, ite_self]
    exact hholds
  · by_cases hchannel : op.channel = ch
    · rw [step_send_own hch hassign hchannel]
      simp only [stepBank, hassign, if_pos hchannel]
      exact hholds.put (view_write_content memory c)
    · obtain ⟨address, _, hmessage⟩ :=
        Re202.Operation.message_of_assignment hassign
      simp only [step, stepBank, hmessage, if_neg hchannel]
      rw [takeIn_of_ignored]
      · exact hholds
      · rintro ⟨_, hdevice⟩
        exact hchannel (Re202.rolandDeviceId_inj hdevice)

/-- Step: a knob sets its parameter of the patch in the edit buffer. -/
theorem view_step_turn {p : FieldWindow.BlockField Memory UInt8}
    (hp : p ∈ Memory.fields) {v : p.Value} (hv : p.InRange v) {m : Memory}
    (hm : m.RangesValid)
    (hview : pedal.view memory .editBuffer = m.block.toList) :
    pedal.view (step kit ch memory (turn p hp v hv)) =
      Function.update (pedal.view memory) .editBuffer (p.set v m).block.toList := by
  have hfits : p.offset + (p.code v).length ≤ pedal.length .editBuffer :=
    Memory.field_fits hp v
  have hwrite :=
    FlatMemory.Layout.view_write_within memory Window.editBuffer hfits
  rw [hview] at hwrite
  have hset := (Memory.set_field hp hv hm).2
  exact hwrite.trans (congrArg (Function.update _ _) hset.symm)

/-- Step: every event does to the memory what it does to the bank. -/
theorem step_holds (hch : ch ≤ 15) {e : Event} (hfaithful : e.Faithful kit)
    (hholds : Holds memory bank) :
    Holds (step kit ch memory e) (stepBank kit ch bank e) := by
  rcases e with op | ⟨area, ch'⟩ | ⟨n, hn⟩ | panel | ⟨p, hp, v, hv⟩ | ⟨n, hn⟩ | kept
  · exact step_send hch hholds hfaithful
  · rw [step_ask]
    exact hholds
  · rw [step, hholds (.slot (.user n) hn)]
    exact hholds.put (@view_write_content memory .editBuffer _)
  · exact hholds.put (@view_write_content memory .editBuffer panel)
  · apply hholds.put
    exact view_step_turn hp hv (bank .editBuffer).property (hholds .editBuffer)
  · rw [step, hholds .editBuffer]
    exact hholds.put (@view_write_content memory (.slot (.user n) hn) _)
  · exact hholds.put
      (@view_write_content memory (.slot .manual MemorySlot.manual_exists) kept)

/-- The edit buffer mirrors the slot that was selected. -/
theorem view_step_select (n : UInt8) (hn : (MemorySlot.user n).Exists)
    (memory : ℕ → UInt8) :
    pedal.view (step kit ch memory (select n hn)) .editBuffer =
      pedal.view memory (.slot (.user n) hn) := by
  let write : FlatMemory.Layout.Write pedal UInt8 :=
    ⟨.editBuffer, pedal.view memory (.slot (.user n) hn),
      FlatMemory.length_read _ _ _⟩
  have hview := congrFun (write.view_apply memory) .editBuffer
  rwa [Function.update_self] at hview

/-- Step: an event changes nothing outside the window it is meant for. -/
theorem step_frame {e : Event} {a : ℕ}
    (ha : ∀ w, e.window kit = some w → ¬ pedal.Contains w a) (memory : ℕ → UInt8) :
    step kit ch memory e a = memory a := by
  have hput : ∀ {v : Window} {data : List UInt8}, ¬ pedal.Contains v a →
      data.length = v.length →
      FlatMemory.write memory v.base data a = memory a := by
    intro v data houtside hlength
    let write : FlatMemory.Layout.Write pedal UInt8 := ⟨v, data, hlength⟩
    exact write.apply_outside memory houtside
  rcases e with op | ⟨area, ch'⟩ | ⟨n, hn⟩ | panel | ⟨p, hp, v, hv⟩ | ⟨n, hn⟩ | kept
  · rcases hmessage : op.message kit with _ | message
    · simp only [step, hmessage]
    · simp only [step, hmessage]
      rcases takeIn_eq_or memory (Re202.rolandDeviceId ch) message with hsame | hsame
      · rw [hsame]
      · obtain ⟨write, hwindow, _, heffect⟩ := Re202.exists_write hmessage
        rw [hsame, heffect]
        exact hput (ha _ hwindow) write.fits
  · rw [step_ask]
  · exact hput (ha _ rfl) (FlatMemory.length_read _ _ _)
  · exact hput (ha _ rfl) panel.val.block.length_toList
  · apply FlatMemory.write_of_outside
    have hfits := Memory.field_fits hp v
    have houtside : ¬ (Window.editBuffer.base ≤ a ∧
        a < Window.editBuffer.base + 33) := ha _ rfl
    omega
  · exact hput (ha _ rfl) (FlatMemory.length_read _ _ _)
  · exact hput (ha _ rfl) kept.val.block.length_toList

/-- Step: what an event leaves at an address depends on that address and on the
window it copies from. -/
theorem step_reading {e : Event} {a : ℕ} {memory memory' : ℕ → UInt8}
    (hreads : ∀ w, e.reads = some w → pedal.view memory w = pedal.view memory' w)
    (ha : memory a = memory' a) :
    step kit ch memory e a = step kit ch memory' e a := by
  rcases e with op | ⟨area, ch'⟩ | ⟨n, hn⟩ | panel | ⟨p, hp, v, hv⟩ | ⟨n, hn⟩ | kept
  · rcases hmessage : op.message kit with _ | message
    · simpa only [step, hmessage] using ha
    · simpa only [step, hmessage] using takeIn_congr ha _ message
  · rw [step_ask, step_ask]
    exact ha
  · rw [step, step, hreads _ rfl]
    exact FlatMemory.write_congr ha _ _
  · exact FlatMemory.write_congr ha _ _
  · exact FlatMemory.write_congr ha _ _
  · rw [step, step, hreads _ rfl]
    exact FlatMemory.write_congr ha _ _
  · exact FlatMemory.write_congr ha _ _

/-- The footprints of the events: the window an event is meant for, and the one
it copies from. -/
theorem footprint (kit : Kit) (ch : UInt8) :
    FlatMemory.Footprint pedal (step kit ch) (window kit) reads where
  frame := step_frame
  reading := step_reading

/-- Run: the memory goes on holding what the bank holds. -/
theorem run_holds (hch : ch ≤ 15) (hholds : Holds memory bank)
    {events : List Event} (hfaithful : ∀ e ∈ events, e.Faithful kit) :
    Holds (Machine.run (step kit ch) events memory)
      (Machine.run (stepBank kit ch) events bank) := by
  refine @Machine.run_simulates _ _ _ (step kit ch) (stepBank kit ch) Holds
    (Faithful kit) ?_ events hfaithful memory bank hholds
  intro e he memory bank hholds
  exact step_holds hch he hholds

/-- Whatever happens to the pedal, in any order, its memory goes on holding typed
values that its blocks can express, those of the bank after the same events, and
nothing outside the windows changes. -/
theorem run_simulates_bank (kit : Kit) {ch : UInt8} (hch : ch ≤ 15)
    {memory : ℕ → UInt8} {bank : Bank} (hholds : Holds memory bank)
    {events : List Event} (hfaithful : ∀ e ∈ events, e.Faithful kit) :
    Holds (Machine.run (step kit ch) events memory)
      (Machine.run (stepBank kit ch) events bank) ∧
    ∀ a, (∀ w : Window, ¬ pedal.Contains w a) →
      Machine.run (step kit ch) events memory a = memory a := by
  refine ⟨run_holds hch hholds hfaithful, ?_⟩
  intro a ha
  apply (footprint kit ch).run_frame
  exact fun e _ w _ => ha w

/-- A patch is sent live, saved to a slot, and another slot is selected. -/
def auditioning : List Event :=
  [send (.encode "edit" (Re202.memoryDocument Memory.captured) 0),
    save 5 (by decide), select 7 (by decide)]

theorem auditioning_faithful : ∀ e ∈ auditioning, e.Faithful Kit.reference := by
  simp only [auditioning, List.forall_mem_cons, List.not_mem_nil, false_implies,
    implies_true, and_true]
  refine ⟨?_, trivial, trivial⟩
  intro harea
  exact absurd harea (by decide)

theorem run_auditioning :
    Holds (Machine.run (step Kit.reference 0) auditioning clearedMemory)
      (Machine.run (stepBank Kit.reference 0) auditioning Bank.cleared) :=
  (run_simulates_bank Kit.reference (by decide) holds_cleared
    auditioning_faithful).1

end Event

namespace Re202

/-- Four base-128 digits hold the size. -/
theorem linear_sizeField {n : ℕ} (hn : n < 128 ^ 4) : linear (sizeField n) = n := by
  simp only [linear, Address.highByte, sizeField]
  simp only [Vector.getElem_mk, List.getElem_toArray, List.getElem_cons_zero,
    List.getElem_cons_succ, toNat_low7, UInt32.toNat_shiftRight]
  simp only [UInt32.toNat_ofNat', Nat.shiftRight_eq_div_pow,
    UInt32.reduceToNat, Nat.reduceMod, Nat.reducePow]
  omega

/-- The window an area reads and writes. -/
def areaWindow (area : String) : Option Window :=
  match area with
  | "system" => some .system
  | "memory" => some (.slot .manual MemorySlot.manual_exists)
  | "edit" => some .editBuffer
  | _ => none

/-- The pedal answers a request for a window with what it holds, as far as the
size that was asked for reaches. -/
def Answers (deviceId : UInt8) (memory : ℕ → UInt8)
    (message reply : List UInt8) : Prop :=
  ∃ address size w, Frame.decode message =
      .ok (Frame.dataRequest deviceId address size) ∧
    linear address = w.base ∧
    reply = (Frame.dataSet deviceId address
      ((pedal.view memory w).take (linear size))).encode

section Dump

variable {kit : Kit} {area : String} {target : Target} {w : Window}

theorem Target.read_system {s : SystemArea} (hs : s.WellFormed) :
    Target.system.read kit s.block.toList =
      (kit.systemToValue s).mapError .decode := by
  have hread : SystemArea.fromBytes s.block.toList = .ok s :=
    SystemArea.exact.complete hs
  rw [Target.read, hread]
  rfl

theorem Target.read_memory (address : Address) {m : Memory} (hm : m.RangesValid) :
    (Target.memory address).read kit m.block.toList =
      (kit.memoryToValue m).mapError .decode := by
  have hread : Memory.fromBytes m.block.toList = .ok m := Memory.exact.complete hm
  rw [Target.read, hread]
  rfl

/-- The area's address, length and typed read are those of its window. -/
theorem areaWindow_spec (htarget : targetFor area = some target)
    (hwindow : areaWindow area = some w) :
    linear target.base = w.base ∧ target.length = w.length ∧
      ∀ c : w.Content,
        target.read kit c.block = (c.document kit).mapError .decode := by
  rcases (targetFor_eq_some_iff area target).mp htarget with
    ⟨rfl, rfl⟩ | ⟨rfl, rfl⟩ | ⟨rfl, rfl⟩
  · cases hwindow
    exact ⟨rfl, rfl, fun c => Target.read_system c.property⟩
  · cases hwindow
    refine ⟨?_, rfl, fun c => Target.read_memory _ c.property⟩
    rw [Window.base_slot, baseAddress_manual]
    rfl
  · cases hwindow
    exact ⟨rfl, rfl, fun c => Target.read_memory _ c.property⟩

/-- The answer to an area's request is the block its window holds. -/
theorem reply_eq (htarget : targetFor area = some target)
    (hwindow : areaWindow area = some w) {ch : UInt8} {memory : ℕ → UInt8}
    {message reply : List UInt8} (hrequest : request area ch = .ok message)
    (hanswers : Answers (rolandDeviceId ch) memory message reply) :
    reply = (Frame.dataSet (rolandDeviceId ch) target.base
      (pedal.view memory w)).encode := by
  obtain ⟨hbase, hlength, _⟩ := @areaWindow_spec Kit.reference _ _ _ htarget hwindow
  obtain ⟨address, size, v, hdecode, haddress, rfl⟩ := hanswers
  obtain ⟨target', htarget', rfl⟩ := request_eq_ok_iff.mp hrequest
  rw [htarget, Option.some.injEq] at htarget'
  subst htarget'
  have hframe := Frame.eq_of_decode_encode hdecode
  have hsame : address = target.base := congrArg Frame.address hframe
  have hsize : size = sizeField target.length :=
    Vector.toList_inj.mp (congrArg Frame.data hframe)
  have hv : v = w := Window.base_inj (by rw [← haddress, hsame, hbase])
  have hfits : w.length < 128 ^ 4 := Nat.lt_of_le_of_lt w.length_le (by decide)
  subst hsame hsize hv
  rw [linear_sizeField (hlength ▸ hfits), hlength, List.take_of_length_le]
  exact Nat.le_of_eq (FlatMemory.length_read _ _ _)

/-- A dump in which the answer is the first block at the area's address is
decoded to the document of the value that the window holds. -/
theorem decode_reply (hsplits : kit.SplitsComplete)
    (htarget : targetFor area = some target)
    (hwindow : areaWindow area = some w) {ch : UInt8} (hch : ch ≤ 15)
    {memory : ℕ → UInt8} {c : w.Content} (hview : pedal.view memory w = c.block)
    {message reply : List UInt8} (hrequest : request area ch = .ok message)
    (hanswers : Answers (rolandDeviceId ch) memory message reply)
    {before after : List (List UInt8)}
    (hcomplete : ∀ m ∈ before ++ after, CompleteSysEx m)
    (hbefore : ∀ m ∈ before, ¬ isBlockAt target.base m = true) :
    decode kit area (before ++ reply :: after).flatten =
      (c.document kit).mapError .decode := by
  obtain ⟨_, _, hread⟩ := @areaWindow_spec kit _ _ _ htarget hwindow
  have hreply := reply_eq htarget hwindow hrequest hanswers
  rw [hview] at hreply
  obtain ⟨hsafe, hdecode⟩ :=
    dataSet_safe hch (Target.base_sevenBit htarget) c.block_lt
  rw [← hreply] at hsafe hdecode
  have hmessages : ∀ m ∈ before ++ reply :: after, CompleteSysEx m := by
    simp only [List.forall_mem_append, List.forall_mem_cons] at hcomplete ⊢
    exact ⟨hcomplete.1, hsafe.complete, hcomplete.2⟩
  have hblock : firstBlockData kit (before ++ reply :: after).flatten
      target.base = .ok c.block := by
    apply firstBlockData_eq_ok_iff.mpr
    rw [hsplits _ hmessages]
    exact ⟨before, reply, after, _,
      ⟨rfl, isBlockAt_iff.mpr ⟨_, hdecode, rfl, rfl⟩, hbefore⟩, hdecode, rfl⟩
  rw [decode_eq_search_then_read htarget, hblock]
  exact hread c

/-- A request for an area is one the pedal has an answer to. -/
theorem exists_answer (htarget : targetFor area = some target)
    (hwindow : areaWindow area = some w) {ch : UInt8} (hch : ch ≤ 15)
    (memory : ℕ → UInt8) {message : List UInt8}
    (hrequest : request area ch = .ok message) :
    ∃ reply, Answers (rolandDeviceId ch) memory message reply := by
  obtain ⟨hbase, _, _⟩ := @areaWindow_spec Kit.reference _ _ _ htarget hwindow
  obtain ⟨target', htarget', rfl⟩ := request_eq_ok_iff.mp hrequest
  rw [htarget, Option.some.injEq] at htarget'
  subst htarget'
  exact ⟨_, target.base, sizeField target.length, w,
    Frame.exact.complete ⟨rolandDeviceId_range hch, Or.inr rfl, sizeField_lt _⟩,
    hbase, rfl⟩

/-- What a dump says after any run of events is the document of the value that
the bank holds after the same run. -/
theorem dump_after_run (kit : Kit) (hsplits : kit.SplitsComplete) {ch : UInt8}
    (hch : ch ≤ 15) {memory : ℕ → UInt8} {bank : Bank}
    (hholds : Holds memory bank) {events : List Event}
    (hfaithful : ∀ e ∈ events, e.Faithful kit)
    (htarget : targetFor area = some target)
    (hwindow : areaWindow area = some w) {message reply : List UInt8}
    (hrequest : request area ch = .ok message)
    (hanswers : Answers (rolandDeviceId ch)
      (Machine.run (Event.step kit ch) events memory) message reply)
    {before after : List (List UInt8)}
    (hcomplete : ∀ m ∈ before ++ after, CompleteSysEx m)
    (hbefore : ∀ m ∈ before, ¬ isBlockAt target.base m = true) :
    decode kit area (before ++ reply :: after).flatten =
      ((Machine.run (Event.stepBank kit ch) events bank w).document kit).mapError
        .decode := by
  have hview : pedal.view (Machine.run (Event.step kit ch) events memory) w =
      (Machine.run (Event.stepBank kit ch) events bank w).block :=
    Event.run_holds hch hholds hfaithful w
  exact decode_reply hsplits htarget hwindow hch hview hrequest hanswers hcomplete
    hbefore

theorem dump_after_auditioning :
    ∃ message reply, request "edit" 0 = .ok message ∧
      decode Kit.reference "edit" ([] ++ reply :: []).flatten =
        ((Machine.run (Event.stepBank Kit.reference 0) Event.auditioning
          Bank.cleared .editBuffer).document Kit.reference).mapError .decode := by
  have htarget : targetFor "edit" = some (.memory editBufferBase) := rfl
  have hwindow : areaWindow "edit" = some .editBuffer := rfl
  obtain ⟨message, hrequest⟩ : ∃ message, request "edit" 0 = .ok message :=
    ⟨_, request_eq_ok_iff.mpr ⟨_, htarget, rfl⟩⟩
  obtain ⟨reply, hanswers⟩ := exists_answer htarget hwindow (by decide)
    (Machine.run (Event.step Kit.reference 0) Event.auditioning clearedMemory)
    hrequest
  exact ⟨message, reply, hrequest, dump_after_run Kit.reference
    Kit.reference_splitsComplete (by decide) holds_cleared
    Event.auditioning_faithful htarget hwindow hrequest hanswers (by simp)
    (by simp)⟩

/-- A store leaves the block of its document in the slot. -/
theorem view_after_store {ch : UInt8} (hch : ch ≤ 15) {dest : String} {doc : Value}
    {slot : MemorySlot} (hslot : slot.Exists)
    (hdest : parseDest kit dest = .ok slot) {bytes : List UInt8}
    (hstore : store kit area doc dest ch = some (.ok bytes)) (memory : ℕ → UInt8) :
    ∃ m : Patch, kit.memoryFromValue doc = .ok m.val ∧
      pedal.view (Event.step kit ch memory (.send (.store area doc dest ch)))
        (.slot slot hslot) = m.val.block.toList := by
  obtain ⟨address, slot', _, htarget, hdest', ⟨m, hread, hrange, rfl⟩, _⟩ :=
    store_eq_ok_iff.mp hstore
  rw [hdest, Except.ok.injEq] at hdest'
  subst hdest'
  refine ⟨⟨m, hrange.ranges⟩, hread, ?_⟩
  have hassign := Operation.assignment_store htarget hdest hread hrange ch
  rw [Event.step_send_own hch hassign rfl]
  have hview := congrFun (@view_write_content memory (.slot slot hslot)
    ⟨m, hrange.ranges⟩) (.slot slot hslot)
  rwa [Function.update_self] at hview

/-- A stored patch is there to stay: whatever happens to the pedal afterwards,
short of another write to that slot, selecting the slot brings it back. -/
theorem stored_patch_returns (kit : Kit) (hsplits : kit.SplitsComplete)
    {ch : UInt8} (hch : ch ≤ 15) {area dest : String} {doc : Value} {n : UInt8}
    (hn : (MemorySlot.user n).Exists) (hdest : parseDest kit dest = .ok (.user n))
    {bytes : List UInt8} (hstore : store kit area doc dest ch = some (.ok bytes))
    {events : List Event}
    (hother : ∀ e ∈ events, e.window kit ≠ some (.slot (.user n) hn))
    (memory : ℕ → UInt8) {message reply : List UInt8}
    (hrequest : request "edit" ch = .ok message)
    (hanswers : Answers (rolandDeviceId ch)
      (Machine.run (Event.step kit ch)
        (.send (.store area doc dest ch) :: events ++ [.select n hn]) memory)
      message reply)
    {before after : List (List UInt8)}
    (hcomplete : ∀ m ∈ before ++ after, CompleteSysEx m)
    (hbefore : ∀ m ∈ before, ¬ isBlockAt editBufferBase m = true) :
    ∃ m, kit.memoryFromValue doc = .ok m ∧ m.RangesValid ∧
      decode kit "edit" (before ++ reply :: after).flatten =
        (kit.memoryToValue m).mapError .decode := by
  obtain ⟨m, hread, hstored⟩ := view_after_store hch hn hdest hstore memory
  have hkept := (Event.footprint kit ch).run_view hother
    (Event.step kit ch memory (.send (.store area doc dest ch)))
  rw [hstored] at hkept
  have hview : pedal.view (Machine.run (Event.step kit ch)
      (.send (.store area doc dest ch) :: events ++ [.select n hn]) memory)
      .editBuffer = m.val.block.toList := by
    rw [Machine.run_append, Machine.run_cons, Machine.run_nil,
      Event.view_step_select, Machine.run_cons, hkept]
  refine ⟨m.val, hread, m.property, ?_⟩
  exact @decode_reply kit "edit" (.memory editBufferBase) .editBuffer hsplits rfl rfl
    ch hch _ m hview message reply hrequest hanswers before after hcomplete hbefore

theorem captured_patch_returns :
    ∃ reply m, Kit.reference.memoryFromValue (memoryDocument Memory.captured) =
        .ok m ∧ m.RangesValid ∧
      decode Kit.reference "edit" ([] ++ reply :: []).flatten =
        (Kit.reference.memoryToValue m).mapError .decode := by
  have hn : (MemorySlot.user 12).Exists := by decide
  have htarget : targetFor "edit" = some (.memory editBufferBase) := rfl
  have hdest : parseDest Kit.reference "12" = .ok (.user 12) := by decide
  obtain ⟨bytes, hstore⟩ : ∃ bytes, store Kit.reference "edit"
      (memoryDocument Memory.captured) "12" 0 = some (.ok bytes) :=
    ⟨_, store_eq_ok_iff.mpr ⟨_, _, _, htarget, hdest,
      ⟨_, memoryDocument_read _, Memory.captured_inRange, rfl⟩, rfl⟩⟩
  have hother : ∀ e ∈ Event.auditioning, e.window Kit.reference ≠
      some (.slot (.user 12) hn) := by
    simp [Event.auditioning, Event.window, Operation.window]
  obtain ⟨message, hrequest⟩ : ∃ message, request "edit" 0 = .ok message :=
    ⟨_, request_eq_ok_iff.mpr ⟨_, htarget, rfl⟩⟩
  obtain ⟨reply, hanswers⟩ := @exists_answer "edit" _ _ htarget rfl 0 (by decide)
    (Machine.run (Event.step Kit.reference 0)
      (.send (.store "edit" (memoryDocument Memory.captured) "12" 0) ::
        Event.auditioning ++ [.select 12 hn]) clearedMemory)
    _ hrequest
  exact ⟨reply, stored_patch_returns Kit.reference Kit.reference_splitsComplete
    (by decide) hn hdest hstore hother clearedMemory hrequest hanswers (by simp)
    (by simp)⟩

end Dump

end Re202

end SpaceEcho
