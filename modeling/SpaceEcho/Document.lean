/-
Documents: the YAML value tree the device adapter exchanges with its callers.
The readers of the typed models are derived by the serialisation library: a
struct is read from a mapping, field by field, by whatever readers its field
types have.  Beside them stands one set of readers and writers rebuilt from that
library's conventions, each pair together with the proof that reading undoes
writing.
-/
import SpaceEcho.Lib.Acceptance
import SpaceEcho.Memory

namespace SpaceEcho

/-- A YAML number.  A float is carried as its bit pattern. -/
inductive Number where
  | posInt (n : UInt64)
  | negInt (n : Int64) (hneg : n < 0)
  | float (bits : UInt64)
deriving Repr, DecidableEq

/-- A YAML value tree. -/
inductive Value where
  | null
  | bool (b : Bool)
  | number (n : Number)
  | string (s : String)
  | sequence (items : List Value)
  | mapping (entries : List (Value × Value))
  | tagged (tag : String) (value : Value)
deriving Repr

/-- A derived reader and writer for one type. -/
structure Serde (α : Type) where
  fromValue : Value → Except String α
  toValue : α → Value
  fromValue_toValue : ∀ a, fromValue (toValue a) = .ok a

/-- Scalars and structs are read through any YAML tags. -/
def Value.untag : Value → Value
  | .tagged _ v => v.untag
  | v => v

namespace Serde

def bool : Serde Bool where
  fromValue v :=
    match v.untag with
    | .bool b => .ok b
    | _ => .error "invalid type: expected a boolean"
  toValue := .bool
  fromValue_toValue _ := rfl

def u8 : Serde UInt8 where
  fromValue v :=
    match v.untag with
    | .number (.posInt n) =>
        if n.toNat < 256 then .ok n.toUInt8
        else .error "invalid value: expected u8"
    | _ => .error "invalid type: expected u8"
  toValue n := .number (.posInt n.toUInt64)
  fromValue_toValue n := by
    have hn : n.toUInt64.toNat < 256 := by simpa using n.toNat_lt
    simp only [Value.untag, if_pos hn, UInt8.toUInt8_toUInt64]

def u16 : Serde UInt16 where
  fromValue v :=
    match v.untag with
    | .number (.posInt n) =>
        if n.toNat < 65536 then .ok n.toUInt16
        else .error "invalid value: expected u16"
    | _ => .error "invalid type: expected u16"
  toValue n := .number (.posInt n.toUInt64)
  fromValue_toValue n := by
    have hn : n.toUInt64.toNat < 65536 := by simpa using n.toNat_lt
    simp only [Value.untag, if_pos hn, UInt16.toUInt16_toUInt64]

/-- A unit-variant enumeration: the variant's name as a string, or as a tag. -/
def unitEnum {α : Type} (variants : List α) (name : α → String)
    (hfind : ∀ a, variants.find? (fun b => name b == name a) = some a) :
    Serde α where
  fromValue v :=
    let variant? := match v with
      | .string s => some s
      | .tagged tag .null => some tag
      | _ => none
    match variant? with
    | none => .error "invalid type: expected enum"
    | some s =>
        match variants.find? (fun b => name b == s) with
        | some a => .ok a
        | none => .error ("unknown variant `" ++ s ++ "`")
  toValue a := .string (name a)
  fromValue_toValue a := by simp [hfind a]

end Serde

section Struct

/-- The name of a mapping key, if it is a string. -/
def keyName (key : Value) : Option String :=
  match key.untag with
  | .string s => some s
  | _ => none

def fieldValue (entries : List (Value × Value)) (name : String) :
    Except String Value :=
  match entries.filter (fun entry => keyName entry.1 == some name) with
  | [] => .error ("missing field `" ++ name ++ "`")
  | [entry] => .ok entry.2
  | _ => .error ("duplicate field `" ++ name ++ "`")

/-- The values of a struct's fields, in the order of its declaration.  A struct is
read from a mapping only, and keys it does not know are ignored. -/
def structFields (names : List String) (v : Value) :
    Except String (List Value) :=
  match v.untag with
  | .mapping entries =>
      if entries.any (fun entry => (keyName entry.1).isNone) then
        .error "invalid type: expected a field name"
      else names.mapM (fieldValue entries)
  | _ => .error "invalid type: expected struct"

def structValue (names : List String) (values : List Value) : Value :=
  .mapping ((names.map Value.string).zip values)

/-- A name that is not among the keys selects no entry. -/
theorem filter_zip_eq_nil {names : List String} {name : String}
    (hname : name ∉ names) (values : List Value) :
    ((names.map Value.string).zip values).filter
      (fun entry => keyName entry.1 == some name) = [] := by
  rw [List.filter_eq_nil_iff]
  rintro ⟨key, value⟩ hmem hkey
  obtain ⟨other, hother, rfl⟩ := List.mem_map.mp (List.of_mem_zip hmem).1
  have hsame : other = name := by simpa [keyName, Value.untag] using hkey
  exact hname (hsame ▸ hother)

theorem fieldValue_zip {names : List String} (hnodup : names.Nodup)
    {values : List Value} {name : String} {value : Value}
    (hmem : (name, value) ∈ names.zip values) :
    fieldValue ((names.map Value.string).zip values) name = .ok value := by
  have hfilter : ((names.map Value.string).zip values).filter
      (fun entry => keyName entry.1 == some name) =
        [(Value.string name, value)] := by
    induction names generalizing values with
    | nil => simp at hmem
    | cons first rest ih =>
        rcases values with _ | ⟨v, vs⟩
        · simp at hmem
        obtain ⟨hfirst, hrest⟩ := List.nodup_cons.mp hnodup
        simp only [List.map_cons, List.zip_cons_cons, List.mem_cons,
          Prod.mk.injEq] at hmem ⊢
        rcases hmem with ⟨rfl, rfl⟩ | hmem
        · rw [List.filter_cons_of_pos (by simp [keyName, Value.untag]),
            filter_zip_eq_nil hfirst]
        · have hne : ¬ first = name := by
            rintro rfl
            exact hfirst (List.of_mem_zip hmem).1
          rw [List.filter_cons_of_neg (by simp [keyName, Value.untag, hne])]
          exact ih hrest hmem
  rw [fieldValue, hfilter]

/-- Fields written under distinct names are read back in order. -/
theorem structFields_structValue {names : List String} (hnodup : names.Nodup)
    {values : List Value} (hlength : values.length = names.length) :
    structFields names (structValue names values) = .ok values := by
  have hkeys : ¬ ((names.map Value.string).zip values).any
      (fun entry => (keyName entry.1).isNone) = true := by
    rw [List.any_eq_true]
    rintro ⟨⟨key, value⟩, hmem, hkey⟩
    obtain ⟨name, _, rfl⟩ := List.mem_map.mp (List.of_mem_zip hmem).1
    simp [keyName, Value.untag] at hkey
  simp only [structValue, structFields, Value.untag, if_neg hkeys]
  exact Acceptance.mapM_eq_ok_iff.mpr (List.forall₂_iff_zip.mpr
    ⟨hlength.symm, fun hmem => fieldValue_zip hnodup hmem⟩)

end Struct

/-- The readers of the types, other than structs, that the fields of documents
have. -/
structure FieldReaders where
  bool : Value → Except String Bool
  u8 : Value → Except String UInt8
  u16 : Value → Except String UInt16
  inputSource : Value → Except String InputSource
  ctl1Function : Value → Except String Ctl1Function
  ctl2Function : Value → Except String Ctl2Function
  directMode : Value → Except String DirectMode
  timeMode : Value → Except String TimeMode
  reverbType : Value → Except String ReverbType
  midiChannel : Value → Except String MidiChannel
  txChannel : Value → Except String TxChannel
  syncSource : Value → Except String SyncSource
  realtimeSource : Value → Except String RealtimeSource
  tape : Value → Except String Tape
  mode : Value → Except String Mode

def DirectSettings.fieldNames : List String := ["on", "mode"]

def MidiSettings.fieldNames : List String :=
  ["rx_channel", "tx_channel", "pc_in", "pc_out", "cc_in", "cc_out",
    "sync_source", "realtime_source", "thru"]

def SystemArea.fieldNames : List String :=
  ["input_source", "ctl1_function", "ctl2_function", "direct", "carryover",
    "time_mode", "reverb_type", "memory_extent", "midi"]

def RangedParam.fieldNames : List String := ["value", "min", "max"]

def Memory.fieldNames : List String :=
  ["tape", "mode", "repeat_rate", "intensity", "echo_volume", "bass", "treble",
    "reverb_volume", "saturation", "wow_flutter", "reverb_sw", "tap_sw",
    "tap_time_ms", "time_mode"]

namespace FieldReaders

variable (readers : FieldReaders)

/-- The derived reader of a struct: its fields from a mapping, each by the reader
of its type. -/
def directSettings (v : Value) : Except String DirectSettings := do
  match ← structFields DirectSettings.fieldNames v with
  | [on, mode] =>
      return {
        on := ← readers.bool on
        mode := ← readers.directMode mode }
  | _ => .error "invalid length"

def midiSettings (v : Value) : Except String MidiSettings := do
  match ← structFields MidiSettings.fieldNames v with
  | [rx, tx, pcIn, pcOut, ccIn, ccOut, sync, realtime, thru] =>
      return {
        rxChannel := ← readers.midiChannel rx
        txChannel := ← readers.txChannel tx
        pcIn := ← readers.bool pcIn
        pcOut := ← readers.bool pcOut
        ccIn := ← readers.bool ccIn
        ccOut := ← readers.bool ccOut
        syncSource := ← readers.syncSource sync
        realtimeSource := ← readers.realtimeSource realtime
        thru := ← readers.bool thru }
  | _ => .error "invalid length"

def systemArea (v : Value) : Except String SystemArea := do
  match ← structFields SystemArea.fieldNames v with
  | [input, ctl1, ctl2, direct, carryover, time, reverb, extent, midi] =>
      return {
        inputSource := ← readers.inputSource input
        ctl1Function := ← readers.ctl1Function ctl1
        ctl2Function := ← readers.ctl2Function ctl2
        direct := ← readers.directSettings direct
        carryover := ← readers.bool carryover
        timeMode := ← readers.timeMode time
        reverbType := ← readers.reverbType reverb
        memoryExtent := ← readers.u8 extent
        midi := ← readers.midiSettings midi }
  | _ => .error "invalid length"

def rangedParam (v : Value) : Except String RangedParam := do
  match ← structFields RangedParam.fieldNames v with
  | [value, min, max] =>
      return {
        value := ← readers.u8 value
        min := ← readers.u8 min
        max := ← readers.u8 max }
  | _ => .error "invalid length"

def memory (v : Value) : Except String Memory := do
  match ← structFields Memory.fieldNames v with
  | [tapeAge, headMode, repeatRate, intensity, echoVolume, bass, treble,
      reverbVolume, saturation, wowFlutter, reverbSw, tapSw, tapTime, time] =>
      return {
        tape := ← readers.tape tapeAge
        mode := ← readers.mode headMode
        repeatRate := ← readers.rangedParam repeatRate
        intensity := ← readers.rangedParam intensity
        echoVolume := ← readers.rangedParam echoVolume
        bass := ← readers.rangedParam bass
        treble := ← readers.rangedParam treble
        reverbVolume := ← readers.rangedParam reverbVolume
        saturation := ← readers.rangedParam saturation
        wowFlutter := ← readers.rangedParam wowFlutter
        reverbSw := ← readers.bool reverbSw
        tapSw := ← readers.bool tapSw
        tapTimeMs := ← readers.u16 tapTime
        timeMode := ← readers.timeMode time }
  | _ => .error "invalid length"

end FieldReaders

namespace Serde

def inputSource : Serde InputSource :=
  unitEnum [.guitar, .line]
    (fun
      | .guitar => "guitar"
      | .line => "line")
    (by intro a; cases a <;> rfl)

def ctl1Function : Serde Ctl1Function :=
  unitEnum [.memoryUp, .memoryDown, .effectOnOff, .tap, .warp]
    (fun
      | .memoryUp => "memory_up"
      | .memoryDown => "memory_down"
      | .effectOnOff => "effect_on_off"
      | .tap => "tap"
      | .warp => "warp")
    (by intro a; cases a <;> rfl)

def ctl2Function : Serde Ctl2Function :=
  unitEnum [.memoryUp, .memoryDown, .effectOnOff, .tap, .twist]
    (fun
      | .memoryUp => "memory_up"
      | .memoryDown => "memory_down"
      | .effectOnOff => "effect_on_off"
      | .tap => "tap"
      | .twist => "twist")
    (by intro a; cases a <;> rfl)

def directMode : Serde DirectMode :=
  unitEnum [.analog, .re201Simulate]
    (fun
      | .analog => "analog"
      | .re201Simulate => "re201_simulate")
    (by intro a; cases a <;> rfl)

def timeMode : Serde TimeMode :=
  unitEnum [.normal, .long]
    (fun
      | .normal => "normal"
      | .long => "long")
    (by intro a; cases a <;> rfl)

def reverbType : Serde ReverbType :=
  unitEnum [.spring, .hall, .plate, .room, .ambience]
    (fun
      | .spring => "spring"
      | .hall => "hall"
      | .plate => "plate"
      | .room => "room"
      | .ambience => "ambience")
    (by intro a; cases a <;> rfl)

def syncSource : Serde SyncSource :=
  unitEnum [.internal, .auto]
    (fun
      | .internal => "internal"
      | .auto => "auto")
    (by intro a; cases a <;> rfl)

def realtimeSource : Serde RealtimeSource :=
  unitEnum [.internal, .midi]
    (fun
      | .internal => "internal"
      | .midi => "midi")
    (by intro a; cases a <;> rfl)

def tape : Serde Tape :=
  unitEnum [.new, .aged]
    (fun
      | .new => "new"
      | .aged => "aged")
    (by intro a; cases a <;> rfl)

def mode : Serde Mode :=
  unitEnum [.m1, .m2, .m3, .m4, .m5, .m6, .m7, .m8, .m9, .m10, .m11, .m12]
    (fun
      | .m1 => "m1"
      | .m2 => "m2"
      | .m3 => "m3"
      | .m4 => "m4"
      | .m5 => "m5"
      | .m6 => "m6"
      | .m7 => "m7"
      | .m8 => "m8"
      | .m9 => "m9"
      | .m10 => "m10"
      | .m11 => "m11"
      | .m12 => "m12")
    (by intro a; cases a <;> rfl)

/-- A symbol inside an untagged choice: its name, or a mapping of its name or its
index to null. -/
def untaggedSymbol {σ : Type} (symbols : List σ) (name : σ → String) :
    Value → Option σ
  | .string s => symbols.find? (fun a => name a == s)
  | .mapping [(.string s, .null)] => symbols.find? (fun a => name a == s)
  | .mapping [(.number (.posInt n), .null)] => symbols[n.toNat]?
  | _ => none

/-- An untagged choice between a number and a symbol: the first that reads.
A tagged value fits neither. -/
def numberOrSymbol {α σ : Type} (channel : UInt8 → α) (symbolic : σ → α)
    (symbols : List σ) (name : σ → String) (message : String) (v : Value) :
    Except String α :=
  match v with
  | .tagged _ _ => .error message
  | v =>
      match u8.fromValue v, untaggedSymbol symbols name v with
      | .ok n, _ => .ok (channel n)
      | .error _, some s => .ok (symbolic s)
      | .error _, none => .error message

theorem numberOrSymbol_number {α σ : Type} (channel : UInt8 → α)
    (symbolic : σ → α) (symbols : List σ) (name : σ → String) (message : String)
    (n : UInt8) :
    numberOrSymbol channel symbolic symbols name message (u8.toValue n) =
      .ok (channel n) := by
  have hread : u8.fromValue (.number (.posInt n.toUInt64)) = .ok n :=
    u8.fromValue_toValue n
  change numberOrSymbol _ _ _ _ _ (.number (.posInt n.toUInt64)) = _
  simp only [numberOrSymbol, hread]

def midiChannelSymbolName : MidiChannelSymbol → String
  | .off => "off"

def txChannelSymbolName : TxChannelSymbol → String
  | .off => "off"
  | .rx => "rx"

def midiChannel : Serde MidiChannel where
  fromValue := numberOrSymbol .channel .symbolic [.off] midiChannelSymbolName
    "data did not match any variant of untagged enum MidiChannel"
  toValue
    | .channel n => u8.toValue n
    | .symbolic s => .string (midiChannelSymbolName s)
  fromValue_toValue a := by
    rcases a with n | s
    · exact numberOrSymbol_number _ _ _ _ _ n
    · cases s
      rfl

def txChannel : Serde TxChannel where
  fromValue := numberOrSymbol .channel .symbolic [.off, .rx] txChannelSymbolName
    "data did not match any variant of untagged enum TxChannel"
  toValue
    | .channel n => u8.toValue n
    | .symbolic s => .string (txChannelSymbolName s)
  fromValue_toValue a := by
    rcases a with n | s
    · exact numberOrSymbol_number _ _ _ _ _ n
    · cases s <;> rfl

end Serde

/-- The readers rebuilt here. -/
def FieldReaders.reference : FieldReaders where
  bool := Serde.bool.fromValue
  u8 := Serde.u8.fromValue
  u16 := Serde.u16.fromValue
  inputSource := Serde.inputSource.fromValue
  ctl1Function := Serde.ctl1Function.fromValue
  ctl2Function := Serde.ctl2Function.fromValue
  directMode := Serde.directMode.fromValue
  timeMode := Serde.timeMode.fromValue
  reverbType := Serde.reverbType.fromValue
  midiChannel := Serde.midiChannel.fromValue
  txChannel := Serde.txChannel.fromValue
  syncSource := Serde.syncSource.fromValue
  realtimeSource := Serde.realtimeSource.fromValue
  tape := Serde.tape.fromValue
  mode := Serde.mode.fromValue

namespace Serde

def directSettings : Serde DirectSettings where
  fromValue := FieldReaders.reference.directSettings
  toValue d :=
    structValue DirectSettings.fieldNames
      [bool.toValue d.on, directMode.toValue d.mode]
  fromValue_toValue d := by
    rw [FieldReaders.directSettings, structFields_structValue (by decide) rfl]
    simp only [FieldReaders.reference, bind, Except.bind, fromValue_toValue, pure,
      Except.pure]

def midiSettings : Serde MidiSettings where
  fromValue := FieldReaders.reference.midiSettings
  toValue m :=
    structValue MidiSettings.fieldNames [midiChannel.toValue m.rxChannel,
      txChannel.toValue m.txChannel, bool.toValue m.pcIn, bool.toValue m.pcOut,
      bool.toValue m.ccIn, bool.toValue m.ccOut, syncSource.toValue m.syncSource,
      realtimeSource.toValue m.realtimeSource, bool.toValue m.thru]
  fromValue_toValue m := by
    rw [FieldReaders.midiSettings, structFields_structValue (by decide) rfl]
    simp only [FieldReaders.reference, bind, Except.bind, fromValue_toValue, pure,
      Except.pure]

def systemArea : Serde SystemArea where
  fromValue := FieldReaders.reference.systemArea
  toValue s :=
    structValue SystemArea.fieldNames [inputSource.toValue s.inputSource,
      ctl1Function.toValue s.ctl1Function, ctl2Function.toValue s.ctl2Function,
      directSettings.toValue s.direct, bool.toValue s.carryover,
      timeMode.toValue s.timeMode, reverbType.toValue s.reverbType,
      u8.toValue s.memoryExtent, midiSettings.toValue s.midi]
  fromValue_toValue s := by
    have hdirect := directSettings.fromValue_toValue s.direct
    have hmidi := midiSettings.fromValue_toValue s.midi
    change FieldReaders.reference.directSettings _ = _ at hdirect
    change FieldReaders.reference.midiSettings _ = _ at hmidi
    rw [FieldReaders.systemArea, structFields_structValue (by decide) rfl]
    simp only [hdirect, hmidi, bind, Except.bind]
    simp only [FieldReaders.reference, fromValue_toValue, pure, Except.pure]

def rangedParam : Serde RangedParam where
  fromValue := FieldReaders.reference.rangedParam
  toValue p :=
    structValue RangedParam.fieldNames
      [u8.toValue p.value, u8.toValue p.min, u8.toValue p.max]
  fromValue_toValue p := by
    rw [FieldReaders.rangedParam, structFields_structValue (by decide) rfl]
    simp only [FieldReaders.reference, bind, Except.bind, fromValue_toValue, pure,
      Except.pure]

def memory : Serde Memory where
  fromValue := FieldReaders.reference.memory
  toValue m :=
    structValue Memory.fieldNames [tape.toValue m.tape, mode.toValue m.mode,
      rangedParam.toValue m.repeatRate, rangedParam.toValue m.intensity,
      rangedParam.toValue m.echoVolume, rangedParam.toValue m.bass,
      rangedParam.toValue m.treble, rangedParam.toValue m.reverbVolume,
      rangedParam.toValue m.saturation, rangedParam.toValue m.wowFlutter,
      bool.toValue m.reverbSw, bool.toValue m.tapSw, u16.toValue m.tapTimeMs,
      timeMode.toValue m.timeMode]
  fromValue_toValue m := by
    have hpedal := rangedParam.fromValue_toValue
    change ∀ p, FieldReaders.reference.rangedParam _ = _ at hpedal
    rw [FieldReaders.memory, structFields_structValue (by decide) rfl]
    simp only [hpedal, bind, Except.bind]
    simp only [FieldReaders.reference, fromValue_toValue, pure, Except.pure]

end Serde

end SpaceEcho
