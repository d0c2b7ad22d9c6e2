/-
The device adapter: requests, decoding of a collected dump, encoding of a
document, and storing one to a memory slot.  Each operation is summed up by one
equivalence that says when it succeeds and with what; later modules use these
and not the definitions.
-/
import SpaceEcho.Kit

namespace SpaceEcho

inductive DeviceError where
  | unknownArea (area : String)
  | decode (message : String)
  | encode (message : String)
deriving Repr, DecidableEq

namespace Re202

/-- What an area targets on the wire. -/
inductive Target where
  | system
  | memory (address : Address)
deriving Repr, DecidableEq

def targetFor (area : String) : Option Target :=
  match area with
  | "system" => some .system
  | "memory" => some (.memory MemorySlot.manual.baseAddress)
  | "edit" => some (.memory editBufferBase)
  | _ => none

/-- Roland device id of channel `ch`. -/
def rolandDeviceId (ch : UInt8) : UInt8 := 0x10 + ch

/-- A byte count as Roland's four-byte, 7-bit big-endian size field. -/
def sizeField (n : ℕ) : Vector UInt8 4 :=
  let v := UInt32.ofNat n
  #v[((v >>> (21 : UInt32)) &&& 0x7F).toUInt8,
    ((v >>> (14 : UInt32)) &&& 0x7F).toUInt8,
    ((v >>> (7 : UInt32)) &&& 0x7F).toUInt8,
    (v &&& 0x7F).toUInt8]

/-- The format `{:02X?}` of an address. -/
def addressDebug (address : Address) : String :=
  "[" ++ String.intercalate ", " (address.toList.map hex02) ++ "]"

def missingFrame (expected : Address) : DeviceError :=
  .decode ("no data-set frame at " ++ addressDebug expected ++ " in dump")

section Search

variable (kit : Kit)

/-- The data of the first DT1 frame in the dump at exactly `expected`. -/
def firstBlockData (dump : List UInt8) (expected : Address) :
    Except DeviceError (List UInt8) :=
  let frames := (kit.splitSysex dump).filterMap fun message =>
    (Frame.decode message).toOption
  match frames.find? (fun f =>
      decide (f.command = cmdDT1 ∧ f.address = expected)) with
  | some f => .ok f.data
  | none => .error (missingFrame expected)

end Search

/-- Unicode `White_Space`. -/
def isWhitespace (c : Char) : Bool :=
  let n := c.toNat
  (0x09 ≤ n && n ≤ 0x0D) || n == 0x20 || n == 0x85 || n == 0xA0 || n == 0x1680 ||
    (0x2000 ≤ n && n ≤ 0x200A) || n == 0x2028 || n == 0x2029 || n == 0x202F ||
    n == 0x205F || n == 0x3000

def trim (s : List Char) : List Char :=
  ((s.dropWhile isWhitespace).reverse.dropWhile isWhitespace).reverse

def toAsciiLower (c : Char) : Char :=
  if 'A' ≤ c ∧ c ≤ 'Z' then Char.ofNat (c.toNat + 32) else c

def eqIgnoreAsciiCase (left right : List Char) : Bool :=
  left.map toAsciiLower == right.map toAsciiLower

/-- Decimal digits on top of `acc`, as long as the value fits a byte. -/
def parseDigits (acc : UInt8) : List Char → Option UInt8
  | [] => some acc
  | c :: rest =>
      if '0' ≤ c ∧ c ≤ '9' then
        let next := acc.toNat * 10 + (c.toNat - '0'.toNat)
        if next < 256 then parseDigits (UInt8.ofNat next) rest else none
      else none

/-- `str::parse::<u8>`: an optional plus sign, then at least one digit. -/
def parseU8 : List Char → Option UInt8
  | [] => none
  | ['+'] => none
  | '+' :: digits => parseDigits 0 digits
  | digits => parseDigits 0 digits

section Operations

variable (kit : Kit)

/-- A store destination: `manual` in any case, or a user slot `1..=127`. -/
def parseDest (dest : String) : Except DeviceError MemorySlot :=
  let d := trim dest.toList
  if d.isEmpty then
    .error (.encode "--store needs a destination: a slot 1..=127, or `manual`")
  else if eqIgnoreAsciiCase d "manual".toList then .ok .manual
  else
    match parseU8 d with
    | none =>
        .error (.encode ("bad slot " ++ kit.strDebug dest ++
          " (expected 1..=127, or `manual`)"))
    | some n =>
        match (MemorySlot.fromIndex n).filter (fun _ => n != 0) with
        | some slot => .ok slot
        | none =>
            .error (.encode ("slot " ++ toString n ++
              " out of range (1..=127, or `manual`)"))

def request (area : String) (ch : UInt8) : Except DeviceError (List UInt8) :=
  let deviceId := rolandDeviceId ch
  match targetFor area with
  | none => .error (.unknownArea area)
  | some .system =>
      .ok (Frame.dataRequest deviceId systemBase (sizeField systemAreaLen)).encode
  | some (.memory address) =>
      .ok (Frame.dataRequest deviceId address (sizeField memoryBlockLen)).encode

def decode (area : String) (dump : List UInt8) : Except DeviceError Value :=
  match targetFor area with
  | none => .error (.unknownArea area)
  | some .system => do
      let data ← firstBlockData kit dump systemBase
      let system ← (SystemArea.fromBytes data).mapError (.decode ·.display)
      (kit.systemToValue system).mapError .decode
  | some (.memory address) => do
      let data ← firstBlockData kit dump address
      let memory ← (Memory.fromBytes data).mapError (.decode ·.display)
      (kit.memoryToValue memory).mapError .decode

def encode (area : String) (doc : Value) (ch : UInt8) :
    Except DeviceError (List UInt8) :=
  let deviceId := rolandDeviceId ch
  match targetFor area with
  | none => .error (.unknownArea area)
  | some .system => do
      let system ← (kit.systemFromValue doc).mapError .encode
      let bytes ← system.toBytes.mapError (.encode ·.display)
      return (Frame.dataSet deviceId systemBase bytes.toList).encode
  | some (.memory address) => do
      let memory ← (kit.memoryFromValue doc).mapError .encode
      let bytes ← memory.toBytes.mapError (.encode ·.display)
      return (Frame.dataSet deviceId address bytes.toList).encode

/-- A copy to a slot: the document's own block, written at the slot's address.
The outer option says that the device has a store at all. -/
def store (area : String) (doc : Value) (dest : String) (ch : UInt8) :
    Option (Except DeviceError (List UInt8)) :=
  some <|
    match targetFor area with
    | none => .error (.unknownArea area)
    | some .system =>
        .error (.encode "`system` has no memory slot to store to (a System write already persists)")
    | some (.memory _) => do
        let slot ← parseDest kit dest
        let memory ← (kit.memoryFromValue doc).mapError .encode
        let bytes ← memory.toBytes.mapError (.encode ·.display)
        return (Frame.dataSet (rolandDeviceId ch) slot.baseAddress
          bytes.toList).encode

end Operations

/-- The base address an area reads and writes. -/
def Target.base : Target → Address
  | .system => systemBase
  | .memory address => address

/-- The length of an area's block. -/
def Target.length : Target → ℕ
  | .system => systemAreaLen
  | .memory _ => memoryBlockLen

/-- The document is read as a typed value the encoder accepts, and `data` is
its block. -/
def Target.Encodes (kit : Kit) : Target → Value → List UInt8 → Prop
  | .system, doc, data =>
      ∃ s, kit.systemFromValue doc = .ok s ∧
        (1 ≤ s.memoryExtent ∧ s.memoryExtent ≤ 4) ∧ s.block.toList = data
  | .memory _, doc, data =>
      ∃ m, kit.memoryFromValue doc = .ok m ∧ m.InRange ∧ m.block.toList = data

/-- The typed read of a block, and the document of what it is read as. -/
def Target.read (kit : Kit) : Target → List UInt8 → Except DeviceError Value
  | .system, data => do
      let system ← (SystemArea.fromBytes data).mapError (.decode ·.display)
      (kit.systemToValue system).mapError .decode
  | .memory _, data => do
      let memory ← (Memory.fromBytes data).mapError (.decode ·.display)
      (kit.memoryToValue memory).mapError .decode

/-- The block is read as a typed value, and `doc` is what that is written as. -/
def Target.Decodes (kit : Kit) : Target → List UInt8 → Value → Prop
  | .system, data, doc =>
      ∃ s, SystemArea.fromBytes data = .ok s ∧ kit.systemToValue s = .ok doc
  | .memory _, data, doc =>
      ∃ m, Memory.fromBytes data = .ok m ∧ kit.memoryToValue m = .ok doc

section Specification

variable {kit : Kit}

theorem targetFor_eq_some_iff (area : String) (target : Target) :
    targetFor area = some target ↔
      (area = "system" ∧ target = .system) ∨
      (area = "memory" ∧ target = .memory memoryManualBase) ∨
      (area = "edit" ∧ target = .memory editBufferBase) := by
  unfold targetFor
  rw [baseAddress_manual]
  split <;> simp_all [eq_comm]

theorem targetFor_memory :
    targetFor "memory" = some (.memory memoryManualBase) :=
  (targetFor_eq_some_iff _ _).mpr (Or.inr (Or.inl ⟨rfl, rfl⟩))

theorem targetFor_eq_system_iff (area : String) :
    targetFor area = some .system ↔ area = "system" := by
  rw [targetFor_eq_some_iff]
  simp

/-- What an encode emits, and when it does. -/
theorem encode_eq_ok_iff {area : String} {doc : Value} {ch : UInt8}
    {bytes : List UInt8} :
    encode kit area doc ch = .ok bytes ↔
      ∃ target data, targetFor area = some target ∧
        target.Encodes kit doc data ∧
        (Frame.dataSet (rolandDeviceId ch) target.base data).encode = bytes := by
  unfold encode
  rcases targetFor area with _ | (_ | address)
  · simp
  · simp only [Codec.bind_returns_iff, Codec.mapError_returns_iff,
      SystemArea.checked.ok_iff, pure, Except.pure, Except.ok.injEq,
      Option.some.injEq]
    constructor
    · intro hsteps
      obtain ⟨s, hread, _, ⟨hextent, rfl⟩, hbytes⟩ := hsteps
      exact ⟨.system, _, rfl, ⟨s, hread, hextent, rfl⟩, hbytes⟩
    · intro hspec
      obtain ⟨_, data, rfl, ⟨s, hread, hextent, rfl⟩, hbytes⟩ := hspec
      exact ⟨s, hread, _, ⟨hextent, rfl⟩, hbytes⟩
  · simp only [Codec.bind_returns_iff, Codec.mapError_returns_iff,
      Memory.checked.ok_iff, pure, Except.pure, Except.ok.injEq,
      Option.some.injEq]
    constructor
    · intro hsteps
      obtain ⟨m, hread, _, ⟨hrange, rfl⟩, hbytes⟩ := hsteps
      exact ⟨.memory address, _, rfl, ⟨m, hread, hrange, rfl⟩, hbytes⟩
    · intro hspec
      obtain ⟨_, data, rfl, ⟨m, hread, hrange, rfl⟩, hbytes⟩ := hspec
      exact ⟨m, hread, _, ⟨hrange, rfl⟩, hbytes⟩

theorem encode_eq_ok_iff_of_target {area : String} {target : Target}
    (htarget : targetFor area = some target) {doc : Value} {ch : UInt8}
    {bytes : List UInt8} :
    encode kit area doc ch = .ok bytes ↔
      ∃ data, target.Encodes kit doc data ∧
        (Frame.dataSet (rolandDeviceId ch) target.base data).encode = bytes := by
  rw [encode_eq_ok_iff]
  constructor
  · intro hspec
    obtain ⟨target', data, hsame, hencodes, hbytes⟩ := hspec
    rw [htarget, Option.some.injEq] at hsame
    subst hsame
    exact ⟨data, hencodes, hbytes⟩
  · intro hspec
    obtain ⟨data, hencodes, hbytes⟩ := hspec
    exact ⟨target, data, htarget, hencodes, hbytes⟩

/-- A store writes what an encode of the same document would, at the slot. -/
theorem store_eq_ok_iff {area dest : String} {doc : Value} {ch : UInt8}
    {bytes : List UInt8} :
    store kit area doc dest ch = some (.ok bytes) ↔
      ∃ address slot data, targetFor area = some (.memory address) ∧
        parseDest kit dest = .ok slot ∧
        (Target.memory address).Encodes kit doc data ∧
        (Frame.dataSet (rolandDeviceId ch) slot.baseAddress data).encode =
          bytes := by
  unfold store
  rw [Option.some.injEq]
  rcases targetFor area with _ | (_ | address)
  · simp
  · simp
  · simp only [Codec.bind_returns_iff, Codec.mapError_returns_iff,
      Memory.checked.ok_iff, pure, Except.pure, Except.ok.injEq]
    constructor
    · intro hsteps
      obtain ⟨slot, hslot, m, hread, _, ⟨hrange, rfl⟩, hbytes⟩ := hsteps
      exact ⟨address, slot, _, rfl, hslot, ⟨m, hread, hrange, rfl⟩, hbytes⟩
    · intro hspec
      obtain ⟨_, slot, data, hsame, hslot, ⟨m, hread, hrange, rfl⟩, hbytes⟩ :=
        hspec
      exact ⟨slot, hslot, m, hread, _, ⟨hrange, rfl⟩, hbytes⟩

theorem request_eq_ok_iff {area : String} {ch : UInt8} {bytes : List UInt8} :
    request area ch = .ok bytes ↔
      ∃ target, targetFor area = some target ∧
        (Frame.dataRequest (rolandDeviceId ch) target.base
          (sizeField target.length)).encode = bytes := by
  unfold request
  rcases targetFor area with _ | (_ | address)
  · simp
  · simp [Target.base, Target.length]
  · simp [Target.base, Target.length]

example : request "system" 0 = .ok [0xF0, 0x41, 0x10, 0x00, 0x00, 0x00, 0x00,
    0x18, 0x11, 0x10, 0x00, 0x00, 0x00, 0x00, 0x00, 0x00, 0x12, 0x5E, 0xF7] := by
  decide

/-- A decode is the search for the area's block, then the typed read of it. -/
theorem decode_eq_search_then_read {area : String} {target : Target}
    (htarget : targetFor area = some target) (dump : List UInt8) :
    decode kit area dump =
      firstBlockData kit dump target.base >>= target.read kit := by
  rw [decode, htarget]
  rcases target with _ | address
  · rfl
  · rfl

theorem Target.read_eq_ok_iff {target : Target} {data : List UInt8}
    {doc : Value} :
    target.read kit data = .ok doc ↔ target.Decodes kit data doc := by
  rcases target with _ | address
  · simp only [Target.read, Target.Decodes, Codec.bind_returns_iff,
      Codec.mapError_returns_iff]
  · simp only [Target.read, Target.Decodes, Codec.bind_returns_iff,
      Codec.mapError_returns_iff]

/-- What a decode returns, and when it does. -/
theorem decode_eq_ok_iff {area : String} {target : Target}
    (htarget : targetFor area = some target) {dump : List UInt8} {doc : Value} :
    decode kit area dump = .ok doc ↔
      ∃ data, firstBlockData kit dump target.base = .ok data ∧
        target.Decodes kit data doc := by
  simp only [decode_eq_search_then_read htarget, Codec.bind_returns_iff,
    Target.read_eq_ok_iff]

/-- A decode looks at the dump only through the block it searches for. -/
theorem decode_congr {area : String} {target : Target}
    (htarget : targetFor area = some target) {left right : List UInt8}
    (hblock : firstBlockData kit left target.base =
      firstBlockData kit right target.base) :
    decode kit area left = decode kit area right := by
  rw [decode_eq_search_then_read htarget, decode_eq_search_then_read htarget,
    hblock]

theorem decode_of_no_block {area : String} {target : Target}
    (htarget : targetFor area = some target) {dump : List UInt8}
    {error : DeviceError}
    (hblock : firstBlockData kit dump target.base = .error error) :
    decode kit area dump = .error error := by
  rw [decode_eq_search_then_read htarget, hblock]
  rfl

end Specification

end Re202

end SpaceEcho
