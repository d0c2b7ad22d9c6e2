/-
The two JSON Schemas that are checked in beside the code, against the readers
that the code derives.  The schemas name their integer formats after the widths
of the typed models; with those enforced a JSON document validates exactly when
its kind is read from it and its channels are written as numbers or names.
-/
import SpaceEcho.Json
import SpaceEcho.Kinds
import SpaceEcho.Sync

namespace SpaceEcho

open Acceptance JsonSchema

namespace DocumentSchema

section Schemas

variable (formats : String → Schema Value)

def uint (format : String) : Schema Value :=
  allOf [hasType .integer, formats format, minimum 0]

def boolean : Schema Value := hasType .boolean

def strings (values : List String) : Schema Value :=
  allOf [hasType .string, enum values]

def object (names : List String) (props : List (String × Schema Value)) :
    Schema Value :=
  allOf [hasType .object, required names, properties props]

def ctl1Function : Schema Value :=
  strings ["memory_up", "memory_down", "effect_on_off", "tap", "warp"]

def ctl2Function : Schema Value :=
  strings ["memory_up", "memory_down", "effect_on_off", "tap", "twist"]

def directMode : Schema Value := strings ["analog", "re201_simulate"]

def directSettings : Schema Value :=
  object ["mode", "on"] [("mode", allOf [directMode]), ("on", boolean)]

def inputSource : Schema Value := strings ["guitar", "line"]

def midiChannelSymbol : Schema Value := strings ["off"]

def midiChannel : Schema Value := anyOf [uint formats "uint8", midiChannelSymbol]

def realtimeSource : Schema Value := strings ["internal", "midi"]

def reverbType : Schema Value :=
  strings ["spring", "hall", "plate", "room", "ambience"]

def syncSource : Schema Value := strings ["internal", "auto"]

def timeMode : Schema Value := strings ["normal", "long"]

def txChannelSymbol : Schema Value := strings ["off", "rx"]

def txChannel : Schema Value := anyOf [uint formats "uint8", txChannelSymbol]

def midiSettings : Schema Value :=
  object ["cc_in", "cc_out", "pc_in", "pc_out", "realtime_source", "rx_channel",
      "sync_source", "thru", "tx_channel"]
    [("cc_in", boolean), ("cc_out", boolean), ("pc_in", boolean),
      ("pc_out", boolean), ("realtime_source", allOf [realtimeSource]),
      ("rx_channel", allOf [midiChannel formats]),
      ("sync_source", allOf [syncSource]), ("thru", boolean),
      ("tx_channel", allOf [txChannel formats])]

/-- `schemas/re202-system.schema.json`. -/
def systemArea : Schema Value :=
  object ["carryover", "ctl1_function", "ctl2_function", "direct",
      "input_source", "memory_extent", "midi", "reverb_type", "time_mode"]
    [("carryover", boolean), ("ctl1_function", allOf [ctl1Function]),
      ("ctl2_function", allOf [ctl2Function]), ("direct", allOf [directSettings]),
      ("input_source", allOf [inputSource]),
      ("memory_extent", uint formats "uint8"),
      ("midi", allOf [midiSettings formats]), ("reverb_type", allOf [reverbType]),
      ("time_mode", allOf [timeMode])]

def mode : Schema Value :=
  oneOf [constant "m1", constant "m2", constant "m3", constant "m4",
    constant "m5", constant "m6", constant "m7", constant "m8", constant "m9",
    constant "m10", constant "m11", constant "m12"]

def rangedParam : Schema Value :=
  object ["max", "min", "value"]
    [("max", uint formats "uint8"), ("min", uint formats "uint8"),
      ("value", uint formats "uint8")]

def tape : Schema Value := strings ["new", "aged"]

/-- `schemas/re202-memory.schema.json`. -/
def memory : Schema Value :=
  object ["bass", "echo_volume", "intensity", "mode", "repeat_rate", "reverb_sw",
      "reverb_volume", "saturation", "tap_sw", "tap_time_ms", "tape",
      "time_mode", "treble", "wow_flutter"]
    [("bass", allOf [rangedParam formats]),
      ("echo_volume", allOf [rangedParam formats]),
      ("intensity", allOf [rangedParam formats]), ("mode", allOf [mode]),
      ("repeat_rate", allOf [rangedParam formats]), ("reverb_sw", boolean),
      ("reverb_volume", allOf [rangedParam formats]),
      ("saturation", allOf [rangedParam formats]), ("tap_sw", boolean),
      ("tap_time_ms", uint formats "uint16"), ("tape", allOf [tape]),
      ("time_mode", allOf [timeMode]), ("treble", allOf [rangedParam formats]),
      ("wow_flutter", allOf [rangedParam formats])]

end Schemas

/-- Draft 7 does not know the formats of the schemas: a validator takes them as
remarks. -/
def remarks : String → Schema Value := fun _ _ => true

/-- The formats enforced: the number is written as an unsigned integer of the
width that the format names. -/
def widths : String → Schema Value
  | "uint8", .number (.posInt n) => decide (n.toNat < 256)
  | "uint16", .number (.posInt n) => decide (n.toNat < 65536)
  | _, _ => false

end DocumentSchema

/-- On JSON documents the schema accepts what `Reads` says. -/
def Describes (schema : Schema Value) (Reads : Value → Prop) : Prop :=
  ∀ v, IsJson v → (schema v = true ↔ Reads v)

section Leaves

theorem describes_boolean :
    Describes DocumentSchema.boolean fun v => ∃ b, v = .bool b := by
  intro v hv
  rcases hv with _ | b | n | t | ⟨items, hitems⟩ | ⟨members, hnodup, hvalues⟩
  case number =>
    rcases hvalue : n.value <;> simp [DocumentSchema.boolean, hasType, hvalue]
  all_goals simp [DocumentSchema.boolean, hasType]

/-- A number passes for an unsigned integer when it is written as one of that
width. -/
theorem describes_uint {format : String} {bound : ℕ}
    (hformat : ∀ v, DocumentSchema.widths format v = true ↔ IsUnsigned bound v) :
    Describes (DocumentSchema.uint DocumentSchema.widths format)
      (IsUnsigned bound) := by
  intro v _
  rw [← hformat]
  simp only [DocumentSchema.uint, allOf, List.all_cons, List.all_nil,
    Bool.and_true, Bool.and_eq_true]
  constructor
  · intro hall
    exact hall.2.1
  · intro hwidth
    obtain ⟨n, rfl, _⟩ := (hformat v).mp hwidth
    have hinteger : hasType .integer (Value.number (.posInt n)) = true := by
      simp [hasType, Number.value]
    have hminimum : minimum 0 (Value.number (.posInt n)) = true := by
      simp only [minimum, shape_number, Number.value, Option.map_some,
        Option.getD_some]
      exact decide_eq_true Rat.natCast_nonneg
    exact ⟨hinteger, hwidth, hminimum⟩

theorem describes_uint8 :
    Describes (DocumentSchema.uint DocumentSchema.widths "uint8")
      (IsUnsigned 256) := by
  refine describes_uint fun v => ?_
  rcases v with _ | b | (n | ⟨n, hneg⟩ | bits) | t | items | entries | ⟨tag, v⟩ <;>
    simp [DocumentSchema.widths, IsUnsigned]

theorem describes_uint16 :
    Describes (DocumentSchema.uint DocumentSchema.widths "uint16")
      (IsUnsigned 65536) := by
  refine describes_uint fun v => ?_
  rcases v with _ | b | (n | ⟨n, hneg⟩ | bits) | t | items | entries | ⟨tag, v⟩ <;>
    simp [DocumentSchema.widths, IsUnsigned]

theorem describes_strings (names : List String) :
    Describes (DocumentSchema.strings names) (IsName names) := by
  intro v _
  simp only [DocumentSchema.strings, string_enum_iff, shape_eq_string_iff, IsName]

theorem describes_mode :
    Describes DocumentSchema.mode (IsName ["m1", "m2", "m3", "m4", "m5", "m6", "m7",
      "m8", "m9", "m10", "m11", "m12"]) := by
  intro v _
  let names := ["m1", "m2", "m3", "m4", "m5", "m6", "m7", "m8", "m9", "m10", "m11",
    "m12"]
  have hnodup : names.Nodup := by decide
  refine (oneOf_constant_iff hnodup).trans ?_
  simp only [shape_eq_string_iff, IsName]
  rfl

theorem describes_channel (names : List String) :
    Describes (anyOf [DocumentSchema.uint DocumentSchema.widths "uint8",
      DocumentSchema.strings names]) (IsChannel names) := by
  intro v hv
  simp only [anyOf, List.any_cons, List.any_nil, Bool.or_false, Bool.or_eq_true]
  exact or_congr (describes_uint8 v hv) (describes_strings names v hv)

theorem IsChannel.not_mapping {names : List String} {v : Value}
    (hchannel : IsChannel names v) : ¬ IsMapping v := by
  rintro ⟨entries, rfl⟩
  rcases hchannel with ⟨n, hn, _⟩ | ⟨s, _, hs⟩
  · cases hn
  · cases hs

variable {schema : Schema Value} {P Q : Value → Prop}

theorem Describes.allOf_singleton (hschema : Describes schema P) :
    Describes (allOf [schema]) P := by
  intro v hv
  rw [← hschema v hv]
  simp [allOf]

/-- A schema for what a reader takes describes the reader. -/
theorem Describes.accepts {α : Type} {read : Value → Except String α}
    (hschema : Describes schema P) (hread : TakesJson read P) :
    Describes schema fun v => Accepts (read v) :=
  fun v hv => (hschema v hv).trans (hread v hv).symm

/-- The schema of a channel describes its reader but for mappings. -/
theorem Describes.accepts_plain {α : Type} {read : Value → Except String α}
    {names : List String} (hschema : Describes schema (IsChannel names))
    (hread : ∀ v, IsJson v → ¬ IsMapping v → (Accepts (read v) ↔ IsChannel names v)) :
    Describes schema fun v => Accepts (read v) ∧ ¬ IsMapping v := by
  intro v hv
  rw [hschema v hv]
  constructor
  · intro hchannel
    exact ⟨(hread v hv hchannel.not_mapping).mpr hchannel, hchannel.not_mapping⟩
  · rintro ⟨haccepts, hplain⟩
    exact (hread v hv hplain).mp haccepts

/-- A condition that holds of every value changes nothing. -/
theorem Describes.free (hschema : Describes schema P) (hfree : ∀ v, Q v) :
    Describes schema fun v => P v ∧ Q v := by
  intro v hv
  rw [hschema v hv]
  exact (and_iff_left (hfree v)).symm

/-- A condition under which only some fields stand. -/
theorem Describes.under {C : Prop} (hschema : Describes schema fun v => P v ∧ Q v)
    (hcondition : C) : Describes schema fun v => P v ∧ (C → Q v) := by
  intro v hv
  rw [hschema v hv]
  simp [hcondition]

end Leaves

section Struct

/-- The required keys of a struct's schema are its fields, and each property
describes the field of its name, as far as `P` has it. -/
structure MatchesFields (fields : List DocumentField) (P : String → Value → Prop)
    (names : List String) (props : List (String × Schema Value)) : Prop where
  required : ∀ name, name ∈ names ↔ name ∈ fields.map DocumentField.name
  known : ∀ name ∈ props.map Prod.fst, name ∈ names
  unknown : ∀ name, name ∉ fields.map DocumentField.name → ∀ v, P name v
  describes : ∀ field ∈ fields, ∃ schema,
    props.lookup field.name = some schema ∧
      Describes schema fun v => field.Reads v ∧ P field.name v

variable {fields : List DocumentField} {P : String → Value → Prop}
  {names : List String} {props : List (String × Schema Value)}

theorem MatchesFields.members_iff (hmatches : MatchesFields fields P names props)
    {members : List (String × Value)} (hnodup : (members.map Prod.fst).Nodup)
    (hvalues : ∀ member ∈ members, IsJson member.2) :
    ((∀ name ∈ names, name ∈ members.map Prod.fst) ∧
      ∀ member ∈ members, ∀ schema, props.lookup member.1 = some schema →
        schema member.2 = true) ↔
    (∀ field ∈ fields, Fits (entriesOfMembers members) field) ∧
      ∀ member ∈ members, P member.1 member.2 := by
  simp only [fits_entriesOfMembers_iff hnodup]
  constructor
  · rintro ⟨hrequired, hall⟩
    have hfield : ∀ field ∈ fields, ∀ value, (field.name, value) ∈ members →
        field.Reads value ∧ P field.name value := by
      intro field hfield value hmember
      obtain ⟨schema, hlookup, hdescribes⟩ := hmatches.describes field hfield
      exact (hdescribes value (hvalues _ hmember)).mp
        (hall _ hmember schema hlookup)
    constructor
    · intro field hmem
      obtain ⟨⟨name, value⟩, hmember, hname⟩ := List.mem_map.mp
        (hrequired _ ((hmatches.required _).mpr (List.mem_map_of_mem hmem)))
      have hmember' : (field.name, value) ∈ members := hname ▸ hmember
      exact ⟨value, hmember', (hfield field hmem value hmember').1⟩
    · intro member hmember
      by_cases hname : member.1 ∈ fields.map DocumentField.name
      · obtain ⟨field, hmem, hname⟩ := List.mem_map.mp hname
        have hmember' : (field.name, member.2) ∈ members := hname ▸ hmember
        exact hname ▸ (hfield field hmem member.2 hmember').2
      · exact hmatches.unknown _ hname _
  · rintro ⟨hfits, hall⟩
    constructor
    · intro name hname
      obtain ⟨field, hmem, rfl⟩ := List.mem_map.mp ((hmatches.required name).mp hname)
      obtain ⟨value, hmember, _⟩ := hfits field hmem
      exact List.mem_map.mpr ⟨_, hmember, rfl⟩
    · rintro ⟨name, value⟩ hmember schema hlookup
      have hkey : name ∈ props.map Prod.fst := by
        obtain ⟨prop, hprop, hsame⟩ :=
          List.lookup_isSome_iff.mp (Option.isSome_of_eq_some hlookup)
        exact List.mem_map.mpr ⟨prop, hprop, (beq_iff_eq.mp hsame).symm⟩
      obtain ⟨field, hmem, rfl⟩ := List.mem_map.mp
        ((hmatches.required name).mp (hmatches.known name hkey))
      obtain ⟨schema', hlookup', hdescribes⟩ := hmatches.describes field hmem
      obtain rfl : schema = schema' := Option.some.inj (hlookup.symm.trans hlookup')
      obtain ⟨value', hmember', hreads⟩ := hfits field hmem
      obtain rfl : value' = value := congrArg Prod.snd
        (List.inj_on_of_nodup_map hnodup hmember' hmember rfl)
      exact (hdescribes value' (hvalues _ hmember)).mpr ⟨hreads, hall _ hmember⟩

/-- A struct whose schema matches its fields is described by it, as far as its
fields are. -/
theorem MatchesFields.describes_struct
    (hmatches : MatchesFields fields P names props) {Reads : Value → Prop}
    (hreads : ∀ v, Reads v ↔ FitsStruct fields v) :
    Describes (DocumentSchema.object names props)
      fun v => Reads v ∧ FieldsAre P v := by
  intro v hv
  refine Iff.trans ?_ (and_congr_left' (hreads v)).symm
  rw [DocumentSchema.object, object_iff]
  by_cases hmapping : IsMapping v
  · rcases hv with _ | _ | _ | _ | _ | ⟨members, hnodup, hvalues⟩
    case mapping =>
      simp only [shape_mapping, stringMembers_entriesOfMembers, Option.map_some,
        Option.getD_some, Shape.object.injEq, exists_eq_left',
        fitsStruct_mapping_iff, fieldsAre_iff, hmatches.members_iff hnodup hvalues,
        stringKeys_entriesOfMembers, true_and]
    all_goals
      obtain ⟨_, hmapping⟩ := hmapping
      cases hmapping
  · constructor
    · rintro ⟨members, hshape, _⟩
      obtain ⟨entries, hentries, _⟩ := shape_eq_object_iff.mp hshape
      exact absurd ⟨entries, hentries⟩ hmapping
    · rintro ⟨⟨entries, huntag, _⟩, _⟩
      rw [hv.untag_eq] at huntag
      exact absurd ⟨entries, huntag⟩ hmapping

theorem MatchesFields.describes_plain_struct
    (hmatches : MatchesFields fields (fun _ _ => True) names props)
    {Reads : Value → Prop} (hreads : ∀ v, Reads v ↔ FitsStruct fields v) :
    Describes (DocumentSchema.object names props) Reads := by
  intro v hv
  rw [hmatches.describes_struct hreads v hv]
  exact and_iff_left fun _ _ _ _ _ _ => trivial

end Struct

section Descriptions

open DocumentSchema

variable {readers : FieldReaders}

theorem describes_rangedParam (htake : readers.TakeJson) :
    Describes (DocumentSchema.rangedParam widths)
      fun v => Accepts (readers.rangedParam v) := by
  refine MatchesFields.describes_plain_struct ⟨?_, ?_, ?_, ?_⟩
    (rangedParam_accepts_iff readers)
  · intro name
    change _ ↔ name ∈ RangedParam.fieldNames
    exact List.Perm.mem_iff (by decide)
  · exact fun _ h => h
  · exact fun _ _ _ => trivial
  · simp only [RangedParam.documentFields, List.forall_mem_cons, List.not_mem_nil,
      false_implies, implies_true, and_true]
    have hbyte := describes_uint8.accepts htake.u8
    exact ⟨⟨_, rfl, hbyte⟩, ⟨_, rfl, hbyte⟩, ⟨_, rfl, hbyte⟩⟩

theorem describes_directSettings (htake : readers.TakeJson) :
    Describes DocumentSchema.directSettings
      fun v => Accepts (readers.directSettings v) := by
  refine MatchesFields.describes_plain_struct ⟨?_, ?_, ?_, ?_⟩
    (directSettings_accepts_iff readers)
  · intro name
    change _ ↔ name ∈ DirectSettings.fieldNames
    exact List.Perm.mem_iff (by decide)
  · exact fun _ h => h
  · exact fun _ _ _ => trivial
  · simp only [DirectSettings.documentFields, List.forall_mem_cons, List.not_mem_nil,
      false_implies, implies_true, and_true]
    have hon := describes_boolean.accepts htake.bool
    have hmode := (describes_strings _).allOf_singleton.accepts htake.directMode
    exact ⟨⟨_, rfl, hon⟩, ⟨_, rfl, hmode⟩⟩

theorem describes_midiSettings (htake : readers.TakeJson) :
    Describes (DocumentSchema.midiSettings widths)
      fun v => Accepts (readers.midiSettings v) ∧ PlainChannels v := by
  refine MatchesFields.describes_struct ⟨?_, ?_, ?_, ?_⟩
    (midiSettings_accepts_iff readers)
  · intro name
    change _ ↔ name ∈ MidiSettings.fieldNames
    exact List.Perm.mem_iff (by decide)
  · exact fun _ h => h
  · intro name hname v hchannel
    have hknown : ["rx_channel", "tx_channel"] ⊆ MidiSettings.fieldNames := by decide
    exact absurd (hknown hchannel) hname
  · simp only [MidiSettings.documentFields, DocumentField.of, List.forall_mem_cons,
      List.not_mem_nil, false_implies, implies_true, and_true]
    have hrx := (describes_channel _).allOf_singleton.accepts_plain htake.midiChannel
    have htx := (describes_channel _).allOf_singleton.accepts_plain htake.txChannel
    have hbool := describes_boolean.accepts htake.bool
    have hsync := (describes_strings _).allOf_singleton.accepts htake.syncSource
    have hrealtime :=
      (describes_strings _).allOf_singleton.accepts htake.realtimeSource
    have hother : ∀ {name : String}, name ∉ ["rx_channel", "tx_channel"] →
        ∀ v, name ∈ ["rx_channel", "tx_channel"] → ¬ IsMapping v :=
      fun hname _ hmem => absurd hmem hname
    exact ⟨⟨_, rfl, hrx.under (by decide)⟩, ⟨_, rfl, htx.under (by decide)⟩,
      ⟨_, rfl, hbool.free (hother (by decide))⟩,
      ⟨_, rfl, hbool.free (hother (by decide))⟩,
      ⟨_, rfl, hbool.free (hother (by decide))⟩,
      ⟨_, rfl, hbool.free (hother (by decide))⟩,
      ⟨_, rfl, hsync.free (hother (by decide))⟩,
      ⟨_, rfl, hrealtime.free (hother (by decide))⟩,
      ⟨_, rfl, hbool.free (hother (by decide))⟩⟩

theorem describes_systemArea (htake : readers.TakeJson) :
    Describes (DocumentSchema.systemArea widths) fun v =>
      Accepts (readers.systemArea v) ∧
        FieldsAre (fun name midi => name = "midi" → PlainChannels midi) v := by
  refine MatchesFields.describes_struct ⟨?_, ?_, ?_, ?_⟩
    (systemArea_accepts_iff readers)
  · intro name
    change _ ↔ name ∈ SystemArea.fieldNames
    exact List.Perm.mem_iff (by decide)
  · exact fun _ h => h
  · rintro name hname v rfl
    have hknown : "midi" ∈ SystemArea.fieldNames := by decide
    exact absurd hknown hname
  · simp only [SystemArea.documentFields, DocumentField.of, List.forall_mem_cons,
      List.not_mem_nil, false_implies, implies_true, and_true]
    have hinput := (describes_strings _).allOf_singleton.accepts htake.inputSource
    have hctl1 := (describes_strings _).allOf_singleton.accepts htake.ctl1Function
    have hctl2 := (describes_strings _).allOf_singleton.accepts htake.ctl2Function
    have hdirect := (describes_directSettings htake).allOf_singleton
    have hbool := describes_boolean.accepts htake.bool
    have htime := (describes_strings _).allOf_singleton.accepts htake.timeMode
    have hreverb := (describes_strings _).allOf_singleton.accepts htake.reverbType
    have hextent := describes_uint8.accepts htake.u8
    have hmidi := (describes_midiSettings htake).allOf_singleton
    have hother : ∀ {name : String}, name ≠ "midi" →
        ∀ v, name = "midi" → PlainChannels v :=
      fun hname _ hmidi => absurd hmidi hname
    exact ⟨⟨_, rfl, hinput.free (hother (by decide))⟩,
      ⟨_, rfl, hctl1.free (hother (by decide))⟩,
      ⟨_, rfl, hctl2.free (hother (by decide))⟩,
      ⟨_, rfl, hdirect.free (hother (by decide))⟩,
      ⟨_, rfl, hbool.free (hother (by decide))⟩,
      ⟨_, rfl, htime.free (hother (by decide))⟩,
      ⟨_, rfl, hreverb.free (hother (by decide))⟩,
      ⟨_, rfl, hextent.free (hother (by decide))⟩, ⟨_, rfl, hmidi.under trivial⟩⟩

theorem describes_memory (htake : readers.TakeJson) :
    Describes (DocumentSchema.memory widths)
      fun v => Accepts (readers.memory v) := by
  refine MatchesFields.describes_plain_struct ⟨?_, ?_, ?_, ?_⟩
    (memory_accepts_iff readers)
  · intro name
    change _ ↔ name ∈ Memory.fieldNames
    exact List.Perm.mem_iff (by decide)
  · exact fun _ h => h
  · exact fun _ _ _ => trivial
  · simp only [Memory.documentFields, List.forall_mem_cons, List.not_mem_nil,
      false_implies, implies_true, and_true]
    have htape := (describes_strings _).allOf_singleton.accepts htake.tape
    have hmode := describes_mode.allOf_singleton.accepts htake.mode
    have hpedal := (describes_rangedParam htake).allOf_singleton
    have hbool := describes_boolean.accepts htake.bool
    have htap := describes_uint16.accepts htake.u16
    have htime := (describes_strings _).allOf_singleton.accepts htake.timeMode
    exact ⟨⟨_, rfl, htape⟩, ⟨_, rfl, hmode⟩, ⟨_, rfl, hpedal⟩, ⟨_, rfl, hpedal⟩,
      ⟨_, rfl, hpedal⟩, ⟨_, rfl, hpedal⟩, ⟨_, rfl, hpedal⟩, ⟨_, rfl, hpedal⟩,
      ⟨_, rfl, hpedal⟩, ⟨_, rfl, hpedal⟩, ⟨_, rfl, hbool⟩, ⟨_, rfl, hbool⟩,
      ⟨_, rfl, htap⟩, ⟨_, rfl, htime⟩⟩

end Descriptions

/-- What is written validates against the schema of its kind. -/
theorem memory_validates (m : Memory) :
    DocumentSchema.memory DocumentSchema.widths (Serde.memory.toValue m) = true :=
  (describes_memory FieldReaders.reference_takeJson _ (isJson_memory m)).mpr
    ⟨m, Serde.memory.fromValue_toValue m⟩

theorem systemArea_validates (s : SystemArea) :
    DocumentSchema.systemArea DocumentSchema.widths (Serde.systemArea.toValue s) =
      true :=
  (describes_systemArea FieldReaders.reference_takeJson _ (isJson_systemArea s)).mpr
    ⟨⟨s, Serde.systemArea.fromValue_toValue s⟩, plainChannels_systemArea s⟩

namespace DocumentSchema

section Formats

variable {formats formats' : String → Schema Value}

/-- Whoever takes the formats as remarks accepts more. -/
theorem widths_le_remarks : widths ≤ remarks :=
  fun _ => le_iff.mpr fun _ _ => rfl

theorem uint_mono (hle : formats ≤ formats') (format : String) :
    uint formats format ≤ uint formats' format :=
  allOf_le (.cons le_rfl (.cons (hle format) (.cons le_rfl .nil)))

theorem object_mono {names : List String} {props props' : List (String × Schema Value)}
    (hle : List.Forall₂ (fun p q => p.1 = q.1 ∧ p.2 ≤ q.2) props props') :
    object names props ≤ object names props' :=
  allOf_le (.cons le_rfl (.cons le_rfl (.cons (properties_le hle) .nil)))

theorem ref_mono {schema schema' : Schema Value} (hle : schema ≤ schema') :
    allOf [schema] ≤ allOf [schema'] :=
  allOf_le (.cons hle .nil)

theorem midiSettings_mono (hle : formats ≤ formats') :
    midiSettings formats ≤ midiSettings formats' := by
  apply object_mono
  have hchannel : ∀ symbol : Schema Value,
      anyOf [uint formats "uint8", symbol] ≤ anyOf [uint formats' "uint8", symbol] :=
    fun symbol => anyOf_le (.cons (uint_mono hle _) (.cons le_rfl .nil))
  simp only [List.forall₂_cons, List.forall₂_nil_left_iff, true_and, le_rfl, and_true]
  exact ⟨ref_mono (hchannel _), ref_mono (hchannel _)⟩

theorem systemArea_mono (hle : formats ≤ formats') :
    systemArea formats ≤ systemArea formats' := by
  apply object_mono
  simp only [List.forall₂_cons, List.forall₂_nil_left_iff, true_and, le_rfl, and_true]
  exact ⟨uint_mono hle _, ref_mono (midiSettings_mono hle)⟩

theorem rangedParam_mono (hle : formats ≤ formats') :
    rangedParam formats ≤ rangedParam formats' := by
  apply object_mono
  simp only [List.forall₂_cons, List.forall₂_nil_left_iff, true_and, and_true]
  exact ⟨uint_mono hle _, uint_mono hle _, uint_mono hle _⟩

theorem memory_mono (hle : formats ≤ formats') : memory formats ≤ memory formats' := by
  apply object_mono
  have hpedal := ref_mono (rangedParam_mono hle)
  simp only [List.forall₂_cons, List.forall₂_nil_left_iff, true_and, le_rfl, and_true,
    hpedal]
  exact uint_mono hle _

end Formats

end DocumentSchema

namespace Re202

/-- The schema of an area, for a validator that takes the formats this way. -/
def schema (formats : String → Schema Value) (area : String) :
    Option (Schema Value) :=
  match targetFor area with
  | some .system => some (DocumentSchema.systemArea formats)
  | some (.memory _) => some (DocumentSchema.memory formats)
  | none => none

/-- No channel in a document of the area is written as a mapping; only the System
area has any. -/
def Target.PlainChannels : Target → Value → Prop
  | .system, doc =>
      FieldsAre (fun name midi => name = "midi" → SpaceEcho.PlainChannels midi) doc
  | .memory _, _ => True

variable {kit : Kit} {area : String} {target : Target}

/-- The captured settings with the Rx channel written as a mapping of its name. -/
def mappedChannelDocument : Value :=
  structValue SystemArea.fieldNames
    ((entriesOf (Serde.systemArea.toValue SystemArea.captured)).dropLast.map Prod.snd ++
      [structValue MidiSettings.fieldNames
        (.mapping [(.string "off", .null)] ::
          (entriesOf (Serde.midiSettings.toValue SystemArea.captured.midi)).tail.map
            Prod.snd)])

example : accepts Kit.reference "system" mappedChannelDocument = true ∧
    DocumentSchema.systemArea DocumentSchema.widths mappedChannelDocument = false := by
  decide

/-- Whatever is decoded from a dump validates against the schema of its area,
with the formats enforced or taken as remarks. -/
theorem decoded_document_validates (kit : Kit) (hwrites : kit.DerivesWriters)
    {formats : String → Schema Value} (hformats : DocumentSchema.widths ≤ formats)
    {dump : List UInt8} {doc : Value} (hdecode : decode kit area dump = .ok doc) :
    ∃ test, schema formats area = some test ∧ test doc = true := by
  rcases htarget : targetFor area with _ | target
  · rw [decode, htarget] at hdecode
    cases hdecode
  · obtain ⟨data, _, hread⟩ := (decode_eq_ok_iff htarget).mp hdecode
    rw [schema, htarget]
    rcases target with _ | address
    · obtain ⟨s, _, hwrite⟩ := hread
      rw [hwrites.system, Except.ok.injEq] at hwrite
      subst hwrite
      exact ⟨_, rfl, le_iff.mp (DocumentSchema.systemArea_mono hformats) _
        (systemArea_validates s)⟩
    · obtain ⟨m, _, hwrite⟩ := hread
      rw [hwrites.memory, Except.ok.injEq] at hwrite
      subst hwrite
      exact ⟨_, rfl, le_iff.mp (DocumentSchema.memory_mono hformats) _
        (memory_validates m)⟩

theorem captured_dump_validates :
    ∃ test, schema DocumentSchema.remarks "memory" = some test ∧
      test (memoryDocument Memory.captured) = true :=
  decoded_document_validates Kit.reference Kit.reference_derivesWriters
    DocumentSchema.widths_le_remarks
    (decode_memoryDump Memory.captured_inRange.ranges)

end Re202

end SpaceEcho
