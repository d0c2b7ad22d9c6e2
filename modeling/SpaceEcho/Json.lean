/-
JSON among the documents: values without tags, in which the keys of a mapping are
distinct strings.  Here stands what the readers of fields take from such values,
and that whatever is written is one.
-/
import SpaceEcho.Fields
import SpaceEcho.Lib.JsonSchema

namespace SpaceEcho

open Acceptance JsonSchema

/-- The value of a number, if it is finite. -/
def Number.value : Number → Option ℚ
  | .posInt n => some n.toNat
  | .negInt n _ => some n.toInt
  | .float bits =>
      let exponent : ℕ := bits.toNat / 2 ^ 52 % 2 ^ 11
      let fraction : ℕ := bits.toNat % 2 ^ 52
      let magnitude :=
        if exponent = 0 then mkRat fraction (2 ^ 1074)
        else mkRat ((2 ^ 52 + fraction) * 2 ^ exponent) (2 ^ 1075)
      if exponent = 2047 then none
      else some (if bits.toNat / 2 ^ 63 = 1 then -magnitude else magnitude)

/-- The entries of a mapping, if all its keys are strings. -/
def stringMembers : List (Value × Value) → Option (List (String × Value))
  | [] => some []
  | (.string name, v) :: rest => (stringMembers rest).map ((name, v) :: ·)
  | _ :: _ => none

instance : HasShape Value where
  shape
    | .null => .null
    | .bool b => .boolean b
    | .number n => (n.value.map Shape.number).getD .other
    | .string s => .string s
    | .sequence items => .array items
    | .mapping entries => ((stringMembers entries).map Shape.object).getD .other
    | .tagged _ _ => .other

section Shape

@[simp] theorem shape_null : shape Value.null = .null := rfl

@[simp] theorem shape_bool (b : Bool) : shape (Value.bool b) = .boolean b := rfl

@[simp] theorem shape_number (n : Number) : shape (Value.number n) =
    (n.value.map Shape.number).getD .other := rfl

@[simp] theorem shape_string (s : String) : shape (Value.string s) = .string s := rfl

@[simp] theorem shape_sequence (items : List Value) :
    shape (Value.sequence items) = .array items := rfl

@[simp] theorem shape_mapping (entries : List (Value × Value)) :
    shape (Value.mapping entries) =
      ((stringMembers entries).map Shape.object).getD .other := rfl

@[simp] theorem shape_tagged (tag : String) (v : Value) :
    shape (Value.tagged tag v) = .other := rfl

theorem shape_eq_string_iff {v : Value} {s : String} :
    shape v = .string s ↔ v = .string s := by
  rcases v with _ | b | n | t | items | entries | ⟨tag, v⟩
  case number => rcases hvalue : n.value <;> simp [hvalue]
  case mapping => rcases hmembers : stringMembers entries <;> simp [hmembers]
  all_goals simp

theorem shape_eq_object_iff {v : Value} {members : List (String × Value)} :
    shape v = .object members ↔
      ∃ entries, v = .mapping entries ∧ stringMembers entries = some members := by
  rcases v with _ | b | n | t | items | entries | ⟨tag, v⟩
  case number => rcases hvalue : n.value <;> simp [hvalue]
  case mapping => rcases hmembers : stringMembers entries <;> simp [hmembers]
  all_goals simp

end Shape

/-- The entries with the given string keys. -/
def entriesOfMembers (members : List (String × Value)) : List (Value × Value) :=
  members.map fun member => (.string member.1, member.2)

/-- A value with no tags, in which the keys of a mapping are distinct strings. -/
inductive IsJson : Value → Prop where
  | null : IsJson .null
  | bool (b : Bool) : IsJson (.bool b)
  | number (n : Number) : IsJson (.number n)
  | string (s : String) : IsJson (.string s)
  | sequence (items : List Value) (hitems : ∀ v ∈ items, IsJson v) :
      IsJson (.sequence items)
  | mapping (members : List (String × Value))
      (hnodup : (members.map Prod.fst).Nodup)
      (hvalues : ∀ member ∈ members, IsJson member.2) :
      IsJson (.mapping (entriesOfMembers members))

def IsMapping (v : Value) : Prop := ∃ entries, v = .mapping entries

section Members

variable {members : List (String × Value)}

@[simp] theorem stringMembers_entriesOfMembers (members : List (String × Value)) :
    stringMembers (entriesOfMembers members) = some members := by
  induction members with
  | nil => rfl
  | cons first rest ih =>
      change (stringMembers (entriesOfMembers rest)).map _ = _
      rw [ih, Option.map_some]

theorem stringKeys_entriesOfMembers (members : List (String × Value)) :
    StringKeys (entriesOfMembers members) := by
  intro entry hentry
  obtain ⟨member, _, rfl⟩ := List.mem_map.mp hentry
  exact ⟨member.1, rfl⟩

/-- With distinct keys a field fits when its key is there with a value that the
field reads. -/
theorem fits_entriesOfMembers_iff (hnodup : (members.map Prod.fst).Nodup)
    {field : DocumentField} :
    Fits (entriesOfMembers members) field ↔
      ∃ value, (field.name, value) ∈ members ∧ field.Reads value := by
  have hzip : entriesOfMembers members =
      ((members.map Prod.fst).map Value.string).zip (members.map Prod.snd) := by
    rw [entriesOfMembers, List.map_map, List.zip_map']
    rfl
  rw [fits_iff]
  refine exists_congr fun value => and_congr_left fun _ => ?_
  constructor
  · intro hvalue
    obtain ⟨key, hfilter⟩ := fieldValue_eq_ok_iff.mp hvalue
    have hentry : (key, value) ∈ (entriesOfMembers members).filter
        (fun entry => keyName entry.1 == some field.name) := by
      rw [hfilter]
      exact List.mem_singleton_self _
    obtain ⟨hmem, hkey⟩ := List.mem_filter.mp hentry
    obtain ⟨⟨name, value'⟩, hmember, hsame⟩ := List.mem_map.mp hmem
    cases hsame
    have hname : name = field.name := by simpa [keyName, Value.untag] using hkey
    exact hname ▸ hmember
  · intro hmember
    rw [hzip]
    apply fieldValue_zip hnodup
    rwa [← List.zip_unzip members, List.unzip_eq_map] at hmember

end Members

/-- The fields of the value, if it is a mapping, are as `P` says for their names. -/
def FieldsAre (P : String → Value → Prop) (v : Value) : Prop :=
  ∀ entries, v = .mapping entries → ∀ entry ∈ entries, ∀ name,
    keyName entry.1 = some name → P name entry.2

theorem fieldsAre_iff {P : String → Value → Prop}
    {members : List (String × Value)} :
    FieldsAre P (.mapping (entriesOfMembers members)) ↔
      ∀ member ∈ members, P member.1 member.2 := by
  simp only [FieldsAre, Value.mapping.injEq, forall_eq', entriesOfMembers,
    List.forall_mem_map, keyName, Value.untag, Option.some.injEq]

theorem fitsStruct_mapping_iff {fields : List DocumentField}
    {entries : List (Value × Value)} :
    FitsStruct fields (.mapping entries) ↔
      StringKeys entries ∧ ∀ field ∈ fields, Fits entries field := by
  simp only [FitsStruct, Value.untag, Value.mapping.injEq, exists_eq_left']

theorem IsJson.untag_eq {v : Value} (hv : IsJson v) : v.untag = v := by
  cases hv <;> rfl

/-- On JSON documents the reader takes what `P` says. -/
def TakesJson {α : Type} (read : Value → Except String α) (P : Value → Prop) : Prop :=
  ∀ v, IsJson v → (Accepts (read v) ↔ P v)

/-- A number below the bound, written as an unsigned integer. -/
def IsUnsigned (bound : ℕ) (v : Value) : Prop :=
  ∃ n : UInt64, v = .number (.posInt n) ∧ n.toNat < bound

/-- One of the names, written as a string. -/
def IsName (names : List String) (v : Value) : Prop :=
  ∃ s ∈ names, v = .string s

/-- A number that fits a byte, or one of the names. -/
def IsChannel (names : List String) (v : Value) : Prop :=
  IsUnsigned 256 v ∨ IsName names v

/-- What the readers of fields take from JSON: booleans, unsigned integers of
their width, and the names of an enumeration's variants.  An untagged channel is
a number or a name; of a channel written as a mapping nothing is said. -/
structure FieldReaders.TakeJson (readers : FieldReaders) : Prop where
  bool : TakesJson readers.bool fun v => ∃ b, v = .bool b
  u8 : TakesJson readers.u8 (IsUnsigned 256)
  u16 : TakesJson readers.u16 (IsUnsigned 65536)
  inputSource : TakesJson readers.inputSource (IsName ["guitar", "line"])
  ctl1Function : TakesJson readers.ctl1Function
    (IsName ["memory_up", "memory_down", "effect_on_off", "tap", "warp"])
  ctl2Function : TakesJson readers.ctl2Function
    (IsName ["memory_up", "memory_down", "effect_on_off", "tap", "twist"])
  directMode : TakesJson readers.directMode (IsName ["analog", "re201_simulate"])
  timeMode : TakesJson readers.timeMode (IsName ["normal", "long"])
  reverbType : TakesJson readers.reverbType
    (IsName ["spring", "hall", "plate", "room", "ambience"])
  midiChannel : ∀ v, IsJson v → ¬ IsMapping v →
    (Accepts (readers.midiChannel v) ↔ IsChannel ["off"] v)
  txChannel : ∀ v, IsJson v → ¬ IsMapping v →
    (Accepts (readers.txChannel v) ↔ IsChannel ["off", "rx"] v)
  syncSource : TakesJson readers.syncSource (IsName ["internal", "auto"])
  realtimeSource : TakesJson readers.realtimeSource (IsName ["internal", "midi"])
  tape : TakesJson readers.tape (IsName ["new", "aged"])
  mode : TakesJson readers.mode
    (IsName ["m1", "m2", "m3", "m4", "m5", "m6", "m7", "m8", "m9", "m10", "m11",
      "m12"])

section Reference

theorem bool_takes : TakesJson Serde.bool.fromValue fun v => ∃ b, v = .bool b := by
  intro v hv
  rcases hv with _ | b | n | t | ⟨items, hitems⟩ | ⟨members, hnodup, hvalues⟩ <;>
    simp [Serde.bool, Value.untag, Accepts]

theorem u8_takes : TakesJson Serde.u8.fromValue (IsUnsigned 256) := by
  intro v hv
  rcases hv with _ | b | (n | ⟨n, hneg⟩ | bits) | t | ⟨items, hitems⟩ |
    ⟨members, hnodup, hvalues⟩
  case number.posInt =>
    by_cases hn : n.toNat < 256 <;>
      simp [Serde.u8, Value.untag, Accepts, IsUnsigned, hn]
  all_goals simp [Serde.u8, Value.untag, Accepts, IsUnsigned]

theorem u16_takes : TakesJson Serde.u16.fromValue (IsUnsigned 65536) := by
  intro v hv
  rcases hv with _ | b | (n | ⟨n, hneg⟩ | bits) | t | ⟨items, hitems⟩ |
    ⟨members, hnodup, hvalues⟩
  case number.posInt =>
    by_cases hn : n.toNat < 65536 <;>
      simp [Serde.u16, Value.untag, Accepts, IsUnsigned, hn]
  all_goals simp [Serde.u16, Value.untag, Accepts, IsUnsigned]

/-- A variant is found under its name and under no other. -/
theorem find?_name_iff {α : Type} {variants : List α} {name : α → String}
    {s : String} :
    (∃ a, variants.find? (fun b => name b == s) = some a) ↔
      s ∈ variants.map name := by
  constructor
  · rintro ⟨a, hfind⟩
    have hname := List.find?_some hfind
    exact List.mem_map.mpr
      ⟨a, List.mem_of_find?_eq_some hfind, beq_iff_eq.mp hname⟩
  · intro hmem
    obtain ⟨a, ha, hname⟩ := List.mem_map.mp hmem
    exact Option.isSome_iff_exists.mp
      (List.find?_isSome.mpr ⟨a, ha, beq_iff_eq.mpr hname⟩)

/-- An enumeration is read from the names of its variants. -/
theorem unitEnum_takes {α : Type} {serde : Serde α} {variants : List α}
    {name : α → String} {hfind}
    (hserde : serde = Serde.unitEnum variants name hfind) :
    TakesJson serde.fromValue (IsName (variants.map name)) := by
  subst hserde
  intro v hv
  rcases hv with _ | b | n | t | ⟨items, hitems⟩ | ⟨members, hnodup, hvalues⟩
  case string =>
    have hname : IsName (variants.map name) (.string t) ↔ t ∈ variants.map name := by
      simp [IsName]
    rw [hname, ← find?_name_iff]
    rcases hvariant : variants.find? (fun b => name b == t) with _ | a
    · simp [Serde.unitEnum, hvariant, not_accepts_error]
    · simp [Serde.unitEnum, hvariant, accepts_ok]
  all_goals simp [Serde.unitEnum, Accepts, IsName]

/-- A channel is read as a number or, failing that, as a symbol. -/
theorem numberOrSymbol_takes {α σ : Type} {channel : UInt8 → α}
    {symbolic : σ → α} {symbols : List σ} {name : σ → String} {message : String}
    {v : Value} (hv : IsJson v) (hmapping : ¬ IsMapping v) :
    Accepts (Serde.numberOrSymbol channel symbolic symbols name message v) ↔
      IsChannel (symbols.map name) v := by
  have hchoice :
      Accepts (Serde.numberOrSymbol channel symbolic symbols name message v) ↔
        Accepts (Serde.u8.fromValue v) ∨
          ∃ s, Serde.untaggedSymbol symbols name v = some s := by
    unfold Serde.numberOrSymbol
    split
    · cases hv
    · rcases Serde.u8.fromValue v with e | n
      · rcases Serde.untaggedSymbol symbols name v with _ | s
        · simp [not_accepts_error]
        · simp [not_accepts_error, accepts_ok]
      · simp [accepts_ok]
  rw [hchoice, u8_takes v hv, IsChannel]
  apply or_congr_right
  rcases hv with _ | b | n | t | ⟨items, hitems⟩ | ⟨members, hnodup, hvalues⟩
  case string =>
    have hname : IsName (symbols.map name) (.string t) ↔ t ∈ symbols.map name := by
      simp [IsName]
    rw [hname, ← find?_name_iff, Serde.untaggedSymbol]
  case mapping => exact absurd ⟨_, rfl⟩ hmapping
  all_goals simp [Serde.untaggedSymbol, IsName]

theorem FieldReaders.reference_takeJson : FieldReaders.reference.TakeJson where
  bool := bool_takes
  u8 := u8_takes
  u16 := u16_takes
  inputSource := @unitEnum_takes _ Serde.inputSource _ _ _ rfl
  ctl1Function := @unitEnum_takes _ Serde.ctl1Function _ _ _ rfl
  ctl2Function := @unitEnum_takes _ Serde.ctl2Function _ _ _ rfl
  directMode := @unitEnum_takes _ Serde.directMode _ _ _ rfl
  timeMode := @unitEnum_takes _ Serde.timeMode _ _ _ rfl
  reverbType := @unitEnum_takes _ Serde.reverbType _ _ _ rfl
  midiChannel _ hv hmapping := numberOrSymbol_takes hv hmapping
  txChannel _ hv hmapping := numberOrSymbol_takes hv hmapping
  syncSource := @unitEnum_takes _ Serde.syncSource _ _ _ rfl
  realtimeSource := @unitEnum_takes _ Serde.realtimeSource _ _ _ rfl
  tape := @unitEnum_takes _ Serde.tape _ _ _ rfl
  mode := @unitEnum_takes _ Serde.mode _ _ _ rfl

end Reference

/-- Neither channel among the MIDI settings is written as a mapping. -/
def PlainChannels (midi : Value) : Prop :=
  FieldsAre (fun name v => name ∈ ["rx_channel", "tx_channel"] → ¬ IsMapping v) midi

section Written

theorem structValue_eq (names : List String) (values : List Value) :
    structValue names values = .mapping (entriesOfMembers (names.zip values)) := by
  rw [structValue, entriesOfMembers, List.zip_map_left]
  rfl

/-- A struct of JSON values is written as JSON. -/
theorem isJson_structValue {names : List String} (hnodup : names.Nodup)
    {values : List Value} (hlength : values.length = names.length)
    (hvalues : ∀ v ∈ values, IsJson v) : IsJson (structValue names values) := by
  rw [structValue_eq]
  apply IsJson.mapping
  · rwa [List.map_fst_zip (Nat.le_of_eq hlength.symm)]
  · rintro ⟨name, value⟩ hmember
    exact hvalues value (List.of_mem_zip hmember).2

theorem isJson_rangedParam (p : RangedParam) :
    IsJson (Serde.rangedParam.toValue p) := by
  apply isJson_structValue (by decide) rfl
  simp only [List.forall_mem_cons, List.not_mem_nil, false_implies, implies_true,
    and_true]
  exact ⟨.number _, .number _, .number _⟩

theorem isJson_memory (m : Memory) : IsJson (Serde.memory.toValue m) := by
  apply isJson_structValue (by decide) rfl
  simp only [List.forall_mem_cons, List.not_mem_nil, false_implies, implies_true,
    and_true]
  exact ⟨.string _, .string _, isJson_rangedParam _, isJson_rangedParam _,
    isJson_rangedParam _, isJson_rangedParam _, isJson_rangedParam _,
    isJson_rangedParam _, isJson_rangedParam _, isJson_rangedParam _, .bool _,
    .bool _, .number _, .string _⟩

theorem isJson_systemArea (s : SystemArea) :
    IsJson (Serde.systemArea.toValue s) := by
  have hrx : IsJson (Serde.midiChannel.toValue s.midi.rxChannel) := by
    rcases s.midi.rxChannel with n | symbol
    · exact .number _
    · exact .string _
  have htx : IsJson (Serde.txChannel.toValue s.midi.txChannel) := by
    rcases s.midi.txChannel with n | symbol
    · exact .number _
    · exact .string _
  have hdirect : IsJson (Serde.directSettings.toValue s.direct) := by
    apply isJson_structValue (by decide) rfl
    simp only [List.forall_mem_cons, List.not_mem_nil, false_implies,
      implies_true, and_true]
    exact ⟨.bool _, .string _⟩
  have hmidi : IsJson (Serde.midiSettings.toValue s.midi) := by
    apply isJson_structValue (by decide) rfl
    simp only [List.forall_mem_cons, List.not_mem_nil, false_implies,
      implies_true, and_true]
    exact ⟨hrx, htx, .bool _, .bool _, .bool _, .bool _, .string _, .string _,
      .bool _⟩
  apply isJson_structValue (by decide) rfl
  simp only [List.forall_mem_cons, List.not_mem_nil, false_implies, implies_true,
    and_true]
  exact ⟨.string _, .string _, .string _, hdirect, .bool _, .string _, .string _,
    .number _, hmidi⟩

theorem fieldsAre_structValue {P : String → Value → Prop} {names : List String}
    {values : List Value} :
    FieldsAre P (structValue names values) ↔
      ∀ member ∈ names.zip values, P member.1 member.2 := by
  rw [structValue_eq, fieldsAre_iff]

theorem plainChannels_midiSettings (m : MidiSettings) :
    PlainChannels (Serde.midiSettings.toValue m) := by
  have hrx : ∀ c, ¬ IsMapping (Serde.midiChannel.toValue c) := by
    rintro (n | symbol) ⟨_, hmapping⟩
    · cases hmapping
    · cases hmapping
  have htx : ∀ c, ¬ IsMapping (Serde.txChannel.toValue c) := by
    rintro (n | symbol) ⟨_, hmapping⟩
    · cases hmapping
    · cases hmapping
  refine fieldsAre_structValue.mpr ?_
  simp [MidiSettings.fieldNames, hrx, htx]

/-- What is written has its channels as numbers and names. -/
theorem plainChannels_systemArea (s : SystemArea) :
    FieldsAre (fun name midi => name = "midi" → PlainChannels midi)
      (Serde.systemArea.toValue s) := by
  refine fieldsAre_structValue.mpr ?_
  simp [SystemArea.fieldNames, plainChannels_midiSettings]

end Written

end SpaceEcho
