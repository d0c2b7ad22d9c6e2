/-
The bindings that the editor calls.  They pass typed values and bytes through to
the codecs, and errors as the texts they are displayed as.  No two errors of
the frame decoder have one text, so a message that was classified on one side of
the boundary is known in full on the other; and what the editor writes to a slot
is what a store sends.
-/
import SpaceEcho.Inbound
import SpaceEcho.Resync
import SpaceEcho.Store

namespace SpaceEcho

/-- One lower-case hexadecimal digit. -/
def hexDigitLower (n : ℕ) : Char :=
  if n < 10 then Char.ofNat ('0'.toNat + n) else Char.ofNat ('a'.toNat + (n - 10))

/-- The format `{:#04x}` of a byte. -/
def hex04 (b : UInt8) : String :=
  "0x" ++ String.ofList [hexDigitLower (b.toNat / 16), hexDigitLower (b.toNat % 16)]

namespace SysExError

def display : SysExError → String
  | tooShort length =>
      "frame too short (" ++ toString length ++ " bytes, need at least 15)"
  | missingStart => "missing F0 start sentinel"
  | missingEnd => "missing F7 end sentinel"
  | notRoland manufacturer =>
      "not a Roland frame (manufacturer id " ++ hex04 manufacturer ++ ")"
  | invalidDeviceId deviceId =>
      "invalid device id " ++ hex04 deviceId ++ " (must be 0x10..=0x1F)"
  | wrongModel => "wrong model id (expected RE-202 [00, 00, 00, 00, 18])"
  | unknownCommand command => "unknown command byte " ++ hex04 command
  | checksumMismatch expected actual =>
      "checksum mismatch: expected " ++ hex04 expected ++ ", got " ++ hex04 actual
  | dataByteOutOfRange index =>
      "data byte out of range (>= 0x80) at index " ++ toString index

end SysExError

section Display

theorem hexDigitLower_inj {m n : ℕ} (hm : m < 16) (hn : n < 16)
    (hsame : hexDigitLower m = hexDigitLower n) : m = n := by
  have hall : ∀ m n : Fin 16,
      hexDigitLower m.val = hexDigitLower n.val → m = n := by decide
  exact congrArg Fin.val (hall ⟨m, hm⟩ ⟨n, hn⟩ hsame)

theorem hex04_inj {b c : UInt8} (hsame : hex04 b = hex04 c) : b = c := by
  have hdigits := String.ofList_injective ((String.append_right_inj "0x").mp hsame)
  simp only [List.cons.injEq, and_true] at hdigits
  have hb := b.toNat_lt
  have hc := c.toNat_lt
  have hhigh := hexDigitLower_inj (by omega) (by omega) hdigits.1
  have hlow := hexDigitLower_inj (by omega) (by omega) hdigits.2
  apply UInt8.toNat_inj.mp
  omega

theorem hex04_length (b c : UInt8) :
    (hex04 b).toList.length = (hex04 c).toList.length := by
  simp [hex04]

/-- Texts that end in parts of one length agree part by part. -/
theorem append_inj_of_length {front back front' back' : String}
    (hsame : front ++ back = front' ++ back')
    (hlength : back.toList.length = back'.toList.length) :
    front = front' ∧ back = back' := by
  have hlist := congrArg String.toList hsame
  rw [String.toList_append, String.toList_append] at hlist
  obtain ⟨hfront, hback⟩ := List.append_inj' hlist hlength
  exact ⟨String.toList_inj.mp hfront, String.toList_inj.mp hback⟩

/-- Decimal numerals are read back as the number. -/
theorem toString_nat_inj {m n : ℕ} (hsame : toString m = toString n) : m = n := by
  have hread := congrArg (fun s => Nat.ofDigitChars 10 s.toList 0) hsame
  simpa only [Nat.toString_eq_repr, Nat.toList_repr,
    Nat.ofDigitChars_ten_toDigits] using hread

namespace SysExError

/-- The first letter of an error's text. -/
def initial : SysExError → Char
  | tooShort _ => 'f'
  | missingStart => 'm'
  | missingEnd => 'm'
  | notRoland _ => 'n'
  | invalidDeviceId _ => 'i'
  | wrongModel => 'w'
  | unknownCommand _ => 'u'
  | checksumMismatch _ _ => 'c'
  | dataByteOutOfRange _ => 'd'

theorem display_initial (error : SysExError) :
    error.display.toList.head? = some error.initial := by
  have hfront : ∀ (front back : String) {c : Char}, front.toList.head? = some c →
      (front ++ back).toList.head? = some c := by
    intro front back c hhead
    rw [String.toList_append, List.head?_append, hhead]
    rfl
  cases error with
  | tooShort => exact hfront _ _ (hfront _ _ rfl)
  | missingStart => rfl
  | missingEnd => rfl
  | notRoland => exact hfront _ _ (hfront _ _ rfl)
  | invalidDeviceId => exact hfront _ _ (hfront _ _ rfl)
  | wrongModel => rfl
  | unknownCommand => exact hfront _ _ rfl
  | checksumMismatch => exact hfront _ _ (hfront _ _ (hfront _ _ rfl))
  | dataByteOutOfRange => exact hfront _ _ rfl

/-- The text of an error tells which error it is, and what it carries. -/
theorem display_inj {left right : SysExError}
    (hsame : left.display = right.display) : left = right := by
  have hinitial : left.initial = right.initial := by
    apply Option.some.inj
    rw [← display_initial, ← display_initial, hsame]
  cases left <;> cases right <;> try (simp [initial] at hinitial; done)
  case tooShort.tooShort =>
    have hnumber := (String.append_right_inj _).mp
      ((String.append_left_inj _).mp hsame)
    rw [toString_nat_inj hnumber]
  case missingStart.missingStart => rfl
  case missingStart.missingEnd => exact absurd hsame (by decide)
  case missingEnd.missingStart => exact absurd hsame (by decide)
  case missingEnd.missingEnd => rfl
  case notRoland.notRoland =>
    rw [hex04_inj ((String.append_right_inj _).mp
      ((String.append_left_inj _).mp hsame))]
  case invalidDeviceId.invalidDeviceId =>
    rw [hex04_inj ((String.append_right_inj _).mp
      ((String.append_left_inj _).mp hsame))]
  case wrongModel.wrongModel => rfl
  case unknownCommand.unknownCommand =>
    rw [hex04_inj ((String.append_right_inj _).mp hsame)]
  case checksumMismatch.checksumMismatch =>
    obtain ⟨hfront, hactual⟩ := append_inj_of_length hsame (hex04_length _ _)
    have hexpected := (String.append_right_inj _).mp
      ((String.append_left_inj _).mp hfront)
    rw [hex04_inj hexpected, hex04_inj hactual]
  case dataByteOutOfRange.dataByteOutOfRange =>
    rw [toString_nat_inj ((String.append_right_inj _).mp hsame)]

end SysExError

end Display

/-- A classified message as JavaScript sees it: byte arrays, and an error as its
text. -/
inductive WasmInboundMessage where
  | systemDataSet (deviceId : UInt8) (address data : List UInt8)
  | memoryDataSet (deviceId : UInt8) (address data : List UInt8)
  | unknownDataSet (deviceId : UInt8) (address data : List UInt8)
  | dataRequest (deviceId : UInt8) (address size : List UInt8)
  | unparseableSysEx (bytes : List UInt8) (error : String)
  | nonSysEx (bytes : List UInt8)
deriving Repr, DecidableEq

namespace WasmInboundMessage

/-- The conversion at the boundary. -/
def ofInbound : InboundMessage → WasmInboundMessage
  | .systemDataSet deviceId address data =>
      systemDataSet deviceId address.toList data
  | .memoryDataSet deviceId address data =>
      memoryDataSet deviceId address.toList data
  | .unknownDataSet deviceId address data =>
      unknownDataSet deviceId address.toList data
  | .dataRequest deviceId address size =>
      dataRequest deviceId address.toList size
  | .unparseableSysEx bytes error => unparseableSysEx bytes error.display
  | .nonSysEx bytes => nonSysEx bytes

theorem ofInbound_inj {left right : InboundMessage}
    (hsame : ofInbound left = ofInbound right) : left = right := by
  cases left <;> cases right <;> try (simp [ofInbound] at hsame; done)
  case unparseableSysEx.unparseableSysEx =>
    obtain ⟨rfl, herror⟩ := unparseableSysEx.inj hsame
    rw [SysExError.display_inj herror]
  case nonSysEx.nonSysEx =>
    rw [nonSysEx.inj hsame]
  all_goals
    simp only [ofInbound, systemDataSet.injEq, memoryDataSet.injEq,
      unknownDataSet.injEq, dataRequest.injEq, Vector.toList_inj] at hsame
    obtain ⟨rfl, rfl, rfl⟩ := hsame
    rfl

end WasmInboundMessage

namespace Wasm

def classifyInbound (bytes : List UInt8) : Except Panic WasmInboundMessage :=
  (SpaceEcho.classifyInbound bytes).map .ofInbound

/-- The classifier of the bindings returns on every input, and no two inputs give
the same message. -/
theorem classifyInbound_injective :
    (∀ bytes, ∃ message, classifyInbound bytes = .ok message) ∧
    ∀ left right, classifyInbound left = classifyInbound right → left = right := by
  constructor
  · intro bytes
    obtain ⟨message, hmessage, _⟩ := classifyInbound_returns bytes
    exact ⟨_, by rw [classifyInbound, hmessage]; rfl⟩
  · intro left right hsame
    obtain ⟨message, hmessage, hwire, _⟩ := classifyInbound_returns left
    obtain ⟨message', hmessage', hwire', _⟩ := classifyInbound_returns right
    rw [classifyInbound, classifyInbound, hmessage, hmessage'] at hsame
    have hmessages :=
      WasmInboundMessage.ofInbound_inj (Except.ok.inj hsame)
    rw [← hwire, ← hwire', hmessages]

def encodeSystem (system : SystemArea) : Except String (List UInt8) :=
  (system.toBytes.map Vector.toList).mapError CodecError.display

def decodeSystem (bytes : List UInt8) : Except String SystemArea :=
  (SystemArea.fromBytes bytes).mapError CodecError.display

def encodeMemory (memory : Memory) : Except String (List UInt8) :=
  (memory.toBytes.map Vector.toList).mapError CodecError.display

def decodeMemory (bytes : List UInt8) : Except String Memory :=
  (Memory.fromBytes bytes).mapError CodecError.display

def encodeFrame (frame : Frame) : List UInt8 :=
  frame.encode

def decodeFrame (bytes : List UInt8) : Except String Frame :=
  (Frame.decode bytes).mapError fun e => "decode Frame: " ++ e.display

/-- Base address of MEMORY `n`. -/
def memorySlotBase (n : UInt8) : Except String Address :=
  if ¬ (1 ≤ n ∧ n ≤ memorySlotMax) then
    .error ("memory slot " ++ toString n ++ " out of range (valid: 1..=127)")
  else .ok (MemorySlot.user n).baseAddress

/-- The per-slot write of a caller in JavaScript.  It is no function of the
bindings, which hold its parts: an address, a block and a frame. -/
def writeSlot (n : UInt8) (memory : Memory) (ch : UInt8) :
    Except String (List UInt8) := do
  let base ← memorySlotBase n
  let data ← encodeMemory memory
  return encodeFrame (Frame.dataSet (Re202.rolandDeviceId ch) base data)

theorem encodeMemory_checked :
    Codec.Checked encodeMemory (Vector.toList ∘ Memory.block) Memory.InRange :=
  Memory.checked.pass_on _

theorem encodeSystem_checked :
    Codec.Checked encodeSystem (Vector.toList ∘ SystemArea.block)
      (fun s => 1 ≤ s.memoryExtent ∧ s.memoryExtent ≤ 4) :=
  SystemArea.checked.pass_on _

theorem decodeMemory_exact :
    Codec.Exact decodeMemory (Vector.toList ∘ Memory.block) Memory.RangesValid :=
  Memory.exact.reword _

theorem decodeSystem_exact :
    Codec.Exact decodeSystem (Vector.toList ∘ SystemArea.block)
      SystemArea.WellFormed :=
  SystemArea.exact.reword _

/-- A patch that was encoded is decoded as itself. -/
theorem decodeMemory_encodeMemory {m : Memory} {bytes : List UInt8}
    (hencode : encodeMemory m = .ok bytes) : decodeMemory bytes = .ok m := by
  obtain ⟨hrange, rfl⟩ := encodeMemory_checked.ok_iff.mp hencode
  exact decodeMemory_exact.complete hrange.ranges

/-- Settings that were encoded are decoded as their normal form, if at all. -/
theorem decodeSystem_encodeSystem {s s' : SystemArea} {bytes : List UInt8}
    (hencode : encodeSystem s = .ok bytes) :
    decodeSystem bytes = .ok s' ↔ s.Readable ∧ s' = s.normalized := by
  obtain ⟨_, rfl⟩ := encodeSystem_checked.ok_iff.mp hencode
  exact SystemArea.normalizes.decode_encode_iff decodeSystem_exact

theorem memorySlotBase_of_exists {n : UInt8} (hn : (MemorySlot.user n).Exists) :
    memorySlotBase n = .ok (MemorySlot.user n).baseAddress :=
  if_neg (not_not_intro hn)

theorem exists_of_memorySlotBase {n : UInt8} {base : Address}
    (hbase : memorySlotBase n = .ok base) :
    (MemorySlot.user n).Exists ∧ (MemorySlot.user n).baseAddress = base := by
  obtain ⟨hn, hsame⟩ := Codec.guard_returns_iff.mp hbase
  exact ⟨not_not.mp hn, Except.ok.inj hsame⟩

/-- What the editor writes to a slot is read back as the same value, and is what
a store of a document of that value sends, errors included. -/
theorem writeSlot_is_store (kit : Kit) (n : UInt8) (m : Memory) {ch : UInt8}
    (hch : ch ≤ 15) :
    (∀ bytes, writeSlot n m ch = .ok bytes →
      ∃ f, decodeFrame bytes = .ok f ∧
        f.address = (MemorySlot.user n).baseAddress ∧
        decodeMemory f.data = .ok m) ∧
    ∀ area dest doc, (area = "memory" ∨ area = "edit") →
      Re202.parseDest kit dest = .ok (.user n) → kit.memoryFromValue doc = .ok m →
      Re202.store kit area doc dest ch =
        some ((writeSlot n m ch).mapError .encode) := by
  constructor
  · intro bytes hwrite
    simp only [writeSlot, Codec.bind_returns_iff, pure, Except.pure,
      Except.ok.injEq] at hwrite
    obtain ⟨base, hbase, data, hencode, rfl⟩ := hwrite
    obtain ⟨hn, rfl⟩ := exists_of_memorySlotBase hbase
    have hread := decodeMemory_encodeMemory hencode
    obtain ⟨hrange, rfl⟩ := encodeMemory_checked.ok_iff.mp hencode
    have hdecode := (Re202.dataSet_safe hch hn.sevenBit
      (Memory.block_lt hrange.ranges)).2
    exact ⟨_, Codec.mapError_returns_iff.mpr hdecode, rfl, hread⟩
  · intro area dest doc harea hdest hread
    obtain ⟨address, htarget, _⟩ := Re202.targetFor_memory_or_edit harea
    have hbase := memorySlotBase_of_exists (Re202.parseDest_exists hdest)
    rw [Re202.store, htarget, writeSlot, hbase, encodeMemory]
    simp only [hdest, hread, bind, Except.bind, Except.mapError]
    cases m.toBytes with
    | error => rfl
    | ok => rfl

theorem captured_writeSlot_twelve :
    (∃ bytes f, writeSlot 12 Memory.captured 0 = .ok bytes ∧
      decodeFrame bytes = .ok f ∧ decodeMemory f.data = .ok Memory.captured) ∧
    Re202.store Kit.reference "edit" (Re202.memoryDocument Memory.captured) "12" 0 =
      some ((writeSlot 12 Memory.captured 0).mapError .encode) := by
  have hch : (0 : UInt8) ≤ 15 := by decide
  have hdest : Re202.parseDest Kit.reference "12" = .ok (.user 12) := by decide
  have hwrite : ∃ bytes, writeSlot 12 Memory.captured 0 = .ok bytes := by
    rw [writeSlot, memorySlotBase_of_exists (Re202.parseDest_exists hdest),
      encodeMemory_checked.ok_iff.mpr ⟨Memory.captured_inRange, rfl⟩]
    exact ⟨_, rfl⟩
  have hslot := writeSlot_is_store Kit.reference 12 Memory.captured hch
  constructor
  · obtain ⟨bytes, hbytes⟩ := hwrite
    obtain ⟨f, hframe, _, hread⟩ := hslot.1 bytes hbytes
    exact ⟨bytes, f, hbytes, hframe, hread⟩
  · exact hslot.2 "edit" "12" _ (Or.inr rfl) hdest (Re202.memoryDocument_read _)

end Wasm

end SpaceEcho
