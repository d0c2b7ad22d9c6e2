/-
The kind check of documents.  A document is taken for a kind when the typed
model of that kind can be read from it, and the readers ignore keys they do not
know.  So a document can be taken for both kinds, but only as a mapping that
carries all fields of both.
-/
import SpaceEcho.Device
import SpaceEcho.Fields

namespace SpaceEcho

open Acceptance

namespace Re202

/-- Whether a document is of the area's kind: its typed model can be read. -/
def accepts (kit : Kit) (area : String) (doc : Value) : Bool :=
  match targetFor area with
  | some .system => (kit.systemFromValue doc).isOk
  | some (.memory _) => (kit.memoryFromValue doc).isOk
  | none => false

variable {kit : Kit}

theorem accepts_system_iff (hderives : kit.DerivesReaders) {doc : Value} :
    accepts kit "system" doc = true ↔
      FitsStruct (SystemArea.documentFields kit.fieldReaders) doc := by
  change (kit.systemFromValue doc).isOk = true ↔ _
  rw [isOk_iff, ← systemArea_accepts_iff]
  exact hderives.system doc

theorem accepts_memory_iff (hderives : kit.DerivesReaders) {doc : Value} :
    accepts kit "memory" doc = true ↔
      FitsStruct (Memory.documentFields kit.fieldReaders) doc := by
  change (kit.memoryFromValue doc).isOk = true ↔ _
  rw [isOk_iff, ← memory_accepts_iff]
  exact hderives.memory doc

/-- A document is taken for both kinds exactly when it is a mapping in which
every field of both structs occurs once, with a value its type reads. -/
theorem accepts_both_iff (kit : Kit) (hderives : kit.DerivesReaders)
    (doc : Value) :
    (accepts kit "system" doc = true ∧ accepts kit "memory" doc = true) ↔
      ∃ entries, doc.untag = .mapping entries ∧ StringKeys entries ∧
        ∀ field ∈ SystemArea.documentFields kit.fieldReaders ++
            Memory.documentFields kit.fieldReaders,
          Fits entries field := by
  rw [accepts_system_iff hderives, accepts_memory_iff hderives,
    ← fitsStruct_append_iff]
  rfl

/-- The entries of a document that is a mapping. -/
def entriesOf : Value → List (Value × Value)
  | .mapping entries => entries
  | _ => []

/-- The captured System and memory documents in one, with the key they share
written once. -/
def mergedEntries : List (Value × Value) :=
  entriesOf (Serde.systemArea.toValue SystemArea.captured) ++
    (entriesOf (Serde.memory.toValue Memory.captured)).dropLast

theorem merged_document_fits_both :
    StringKeys mergedEntries ∧
      ∀ field ∈ SystemArea.documentFields FieldReaders.reference ++
          Memory.documentFields FieldReaders.reference,
        Fits mergedEntries field := by
  obtain ⟨entries, huntag, hkeys, hfits⟩ :=
    (accepts_both_iff Kit.reference Kit.reference_derivesReaders
      (.mapping mergedEntries)).mp (by decide)
  cases huntag
  exact ⟨hkeys, hfits⟩

theorem merged_document_taken_for_both :
    ¬ ∀ kit : Kit, kit.DerivesReaders → ∀ doc,
      ¬ (accepts kit "system" doc = true ∧ accepts kit "memory" doc = true) := by
  intro hall
  exact hall Kit.reference Kit.reference_derivesReaders
    (.mapping mergedEntries) (by decide)

end Re202

end SpaceEcho
