/-
Structs in documents.  A derived reader takes a struct from a mapping: every
field once, with a value its own reader takes, and whatever other keys there are.
-/
import SpaceEcho.Document

namespace SpaceEcho

open Acceptance

/-- A field of a document struct, and the values its type reads. -/
structure DocumentField where
  name : String
  Reads : Value → Prop

def DocumentField.of {α : Type} (name : String)
    (read : Value → Except String α) : DocumentField :=
  ⟨name, fun v => Accepts (read v)⟩

section DocumentFields

variable (readers : FieldReaders)

def RangedParam.documentFields : List DocumentField :=
  [.of "value" readers.u8, .of "min" readers.u8, .of "max" readers.u8]

def DirectSettings.documentFields : List DocumentField :=
  [.of "on" readers.bool, .of "mode" readers.directMode]

def MidiSettings.documentFields : List DocumentField :=
  [.of "rx_channel" readers.midiChannel, .of "tx_channel" readers.txChannel,
    .of "pc_in" readers.bool, .of "pc_out" readers.bool,
    .of "cc_in" readers.bool, .of "cc_out" readers.bool,
    .of "sync_source" readers.syncSource,
    .of "realtime_source" readers.realtimeSource, .of "thru" readers.bool]

def SystemArea.documentFields : List DocumentField :=
  [.of "input_source" readers.inputSource,
    .of "ctl1_function" readers.ctl1Function,
    .of "ctl2_function" readers.ctl2Function,
    .of "direct" readers.directSettings, .of "carryover" readers.bool,
    .of "time_mode" readers.timeMode, .of "reverb_type" readers.reverbType,
    .of "memory_extent" readers.u8, .of "midi" readers.midiSettings]

def Memory.documentFields : List DocumentField :=
  [.of "tape" readers.tape, .of "mode" readers.mode,
    .of "repeat_rate" readers.rangedParam, .of "intensity" readers.rangedParam,
    .of "echo_volume" readers.rangedParam, .of "bass" readers.rangedParam,
    .of "treble" readers.rangedParam, .of "reverb_volume" readers.rangedParam,
    .of "saturation" readers.rangedParam, .of "wow_flutter" readers.rangedParam,
    .of "reverb_sw" readers.bool, .of "tap_sw" readers.bool,
    .of "tap_time_ms" readers.u16, .of "time_mode" readers.timeMode]

end DocumentFields

/-- The key of the field occurs once among the entries, with a value the field
reads. -/
def Fits (entries : List (Value × Value)) (field : DocumentField) : Prop :=
  ∃ key value, entries.filter
      (fun entry => keyName entry.1 == some field.name) = [(key, value)] ∧
    field.Reads value

/-- Every key of the mapping is a string. -/
def StringKeys (entries : List (Value × Value)) : Prop :=
  ∀ entry ∈ entries, ∃ name, keyName entry.1 = some name

/-- Through its tags the value is a mapping with string keys, in which every field
occurs once with a value it reads.  Other keys do not matter. -/
def FitsStruct (fields : List DocumentField) (v : Value) : Prop :=
  ∃ entries, v.untag = .mapping entries ∧ StringKeys entries ∧
    ∀ field ∈ fields, Fits entries field

section Struct

theorem fieldValue_eq_ok_iff {entries : List (Value × Value)} {name : String}
    {value : Value} :
    fieldValue entries name = .ok value ↔
      ∃ key, entries.filter (fun entry => keyName entry.1 == some name) =
        [(key, value)] := by
  unfold fieldValue
  rcases hfilter : entries.filter (fun entry => keyName entry.1 == some name)
    with _ | ⟨⟨key, found⟩, _ | ⟨second, rest⟩⟩
  · simp [hfilter]
  · simp [hfilter]
  · simp [hfilter]

theorem fits_iff {entries : List (Value × Value)} {field : DocumentField} :
    Fits entries field ↔
      ∃ value, fieldValue entries field.name = .ok value ∧
        field.Reads value := by
  simp only [Fits, fieldValue_eq_ok_iff, ← exists_and_right]
  exact exists_comm

theorem stringKeys_iff {entries : List (Value × Value)} :
    StringKeys entries ↔
      ¬ entries.any (fun entry => (keyName entry.1).isNone) = true := by
  constructor
  · intro hkeys hany
    obtain ⟨entry, hmem, hnone⟩ := List.any_eq_true.mp hany
    obtain ⟨name, hname⟩ := hkeys entry hmem
    rw [hname] at hnone
    cases hnone
  · intro hany entry hmem
    rcases hkey : keyName entry.1 with _ | name
    · exact absurd (List.any_eq_true.mpr ⟨entry, hmem, by rw [hkey]; rfl⟩) hany
    · exact ⟨name, rfl⟩

/-- The fields of a struct can be read from a value exactly when they all fit it. -/
theorem structFields_iff_fits (fields : List DocumentField) (v : Value) :
    (∃ values, structFields (fields.map DocumentField.name) v = .ok values ∧
      List.Forall₂ DocumentField.Reads fields values) ↔ FitsStruct fields v := by
  have hmapping : ∀ entries, v.untag = .mapping entries →
      ((∃ values, structFields (fields.map DocumentField.name) v = .ok values ∧
          List.Forall₂ DocumentField.Reads fields values) ↔
        StringKeys entries ∧ ∀ field ∈ fields, Fits entries field) := by
    intro entries huntag
    simp only [fits_iff, stringKeys_iff, ← exists_mapM_iff, structFields, huntag,
      Codec.guard_returns_iff]
    constructor
    · rintro ⟨values, ⟨hkeys, hfields⟩, hreads⟩
      exact ⟨hkeys, values, hfields, hreads⟩
    · rintro ⟨hkeys, values, hfields, hreads⟩
      exact ⟨values, ⟨hkeys, hfields⟩, hreads⟩
  constructor
  · intro hvalues
    obtain ⟨values, hfields, _⟩ := id hvalues
    unfold structFields at hfields
    split at hfields
    · rename_i entries huntag
      exact ⟨entries, huntag, (hmapping entries huntag).mp hvalues⟩
    · cases hfields
  · rintro ⟨entries, huntag, hfits⟩
    exact (hmapping entries huntag).mpr hfits

/-- A struct that is built from its fields whenever they all read is accepted
exactly when they all fit. -/
theorem struct_accepts_iff {α : Type} {fields : List DocumentField}
    {names : List String} (hnames : fields.map DocumentField.name = names)
    {build : List Value → Except String α}
    (hbuild : ∀ values, Accepts (build values) ↔
      List.Forall₂ DocumentField.Reads fields values) (v : Value) :
    Accepts (structFields names v >>= build) ↔ FitsStruct fields v := by
  rw [accepts_bind_iff, ← structFields_iff_fits, hnames]
  exact exists_congr fun values => and_congr_right fun _ => hbuild values

/-- Two structs are both read from one value exactly when it has the fields of
both. -/
theorem fitsStruct_append_iff {left right : List DocumentField} {v : Value} :
    FitsStruct (left ++ right) v ↔ FitsStruct left v ∧ FitsStruct right v := by
  constructor
  · rintro ⟨entries, huntag, hkeys, hfits⟩
    obtain ⟨hleft, hright⟩ := List.forall_mem_append.mp hfits
    exact ⟨⟨entries, huntag, hkeys, hleft⟩, entries, huntag, hkeys, hright⟩
  · rintro ⟨⟨entries, huntag, hkeys, hleft⟩, entries', huntag', _, hright⟩
    rw [huntag, Value.mapping.injEq] at huntag'
    subst huntag'
    exact ⟨entries, huntag, hkeys, List.forall_mem_append.mpr ⟨hleft, hright⟩⟩

end Struct

section Readers

variable (readers : FieldReaders)

theorem rangedParam_accepts_iff (v : Value) :
    Accepts (readers.rangedParam v) ↔
      FitsStruct (RangedParam.documentFields readers) v := by
  rw [FieldReaders.rangedParam]
  apply struct_accepts_iff
  · rfl
  intro values
  split
  · rw [RangedParam.documentFields]
    simp only [List.forall₂_cons]
    iterate 3 refine accepts_step fun _ => ?_
    exact iff_of_true (accepts_ok _) .nil
  · rename_i hlength
    refine iff_of_false (not_accepts_error _) ?_
    intro hreads
    rw [RangedParam.documentFields] at hreads
    iterate 3 rcases hreads with _ | ⟨_, hreads⟩
    cases hreads
    exact (hlength _ _ _ rfl).elim

theorem directSettings_accepts_iff (v : Value) :
    Accepts (readers.directSettings v) ↔
      FitsStruct (DirectSettings.documentFields readers) v := by
  rw [FieldReaders.directSettings]
  apply struct_accepts_iff
  · rfl
  intro values
  split
  · rw [DirectSettings.documentFields]
    simp only [List.forall₂_cons]
    iterate 2 refine accepts_step fun _ => ?_
    exact iff_of_true (accepts_ok _) .nil
  · rename_i hlength
    refine iff_of_false (not_accepts_error _) ?_
    intro hreads
    rw [DirectSettings.documentFields] at hreads
    iterate 2 rcases hreads with _ | ⟨_, hreads⟩
    cases hreads
    exact (hlength _ _ rfl).elim

theorem midiSettings_accepts_iff (v : Value) :
    Accepts (readers.midiSettings v) ↔
      FitsStruct (MidiSettings.documentFields readers) v := by
  rw [FieldReaders.midiSettings]
  apply struct_accepts_iff
  · rfl
  intro values
  split
  · rw [MidiSettings.documentFields]
    simp only [List.forall₂_cons]
    iterate 9 refine accepts_step fun _ => ?_
    exact iff_of_true (accepts_ok _) .nil
  · rename_i hlength
    refine iff_of_false (not_accepts_error _) ?_
    intro hreads
    rw [MidiSettings.documentFields] at hreads
    iterate 9 rcases hreads with _ | ⟨_, hreads⟩
    cases hreads
    exact (hlength _ _ _ _ _ _ _ _ _ rfl).elim

theorem systemArea_accepts_iff (v : Value) :
    Accepts (readers.systemArea v) ↔
      FitsStruct (SystemArea.documentFields readers) v := by
  rw [FieldReaders.systemArea]
  apply struct_accepts_iff
  · rfl
  intro values
  split
  · rw [SystemArea.documentFields]
    simp only [List.forall₂_cons]
    iterate 9 refine accepts_step fun _ => ?_
    exact iff_of_true (accepts_ok _) .nil
  · rename_i hlength
    refine iff_of_false (not_accepts_error _) ?_
    intro hreads
    rw [SystemArea.documentFields] at hreads
    iterate 9 rcases hreads with _ | ⟨_, hreads⟩
    cases hreads
    exact (hlength _ _ _ _ _ _ _ _ _ rfl).elim

theorem memory_accepts_iff (v : Value) :
    Accepts (readers.memory v) ↔ FitsStruct (Memory.documentFields readers) v := by
  rw [FieldReaders.memory]
  apply struct_accepts_iff
  · rfl
  intro values
  split
  · rw [Memory.documentFields]
    simp only [List.forall₂_cons]
    iterate 14 refine accepts_step fun _ => ?_
    exact iff_of_true (accepts_ok _) .nil
  · rename_i hlength
    refine iff_of_false (not_accepts_error _) ?_
    intro hreads
    rw [Memory.documentFields] at hreads
    iterate 14 rcases hreads with _ | ⟨_, hreads⟩
    cases hreads
    exact (hlength _ _ _ _ _ _ _ _ _ _ _ _ _ _ rfl).elim

end Readers

end SpaceEcho
