/-
Storing a document to a slot.  A store is an encode of the same document with
another address in the frame: it succeeds exactly when that encode does and the
destination names a slot, and it never goes to the edit buffer or the System
area.
-/
import SpaceEcho.Sync

namespace SpaceEcho.Re202

/-- Every slot lies above the edit buffer. -/
theorem baseAddress_ne_editBufferBase (slot : MemorySlot) :
    slot.baseAddress ≠ editBufferBase := by
  intro heq
  have hlinear := linear_baseAddress slot
  have hedit : linear editBufferBase = 0x20 * 128 ^ 3 := by decide
  rw [heq, hedit] at hlinear
  omega

theorem baseAddress_ne_systemBase (slot : MemorySlot) :
    slot.baseAddress ≠ systemBase := by
  intro heq
  have hlinear := linear_baseAddress slot
  have hsystem : linear systemBase = 0x10 * 128 ^ 3 := by decide
  rw [heq, hsystem] at hlinear
  omega

section Store

variable {kit : Kit}

theorem targetFor_eq_memory_iff {area : String} :
    (∃ address, targetFor area = some (.memory address)) ↔
      area = "memory" ∨ area = "edit" := by
  constructor
  · intro htarget
    obtain ⟨address, htarget⟩ := htarget
    rcases (targetFor_eq_some_iff area _).mp htarget with
      ⟨_, hsystem⟩ | ⟨hmemory, _⟩ | ⟨hedit, _⟩
    · cases hsystem
    · exact Or.inl hmemory
    · exact Or.inr hedit
  · intro harea
    obtain ⟨address, htarget, _⟩ := targetFor_memory_or_edit harea
    exact ⟨address, htarget⟩

theorem exists_parseDest_iff (dest : String) :
    (∃ slot, parseDest kit dest = .ok slot) ↔
      NamesManual dest ∨ ∃ n, NamesUser dest n := by
  simp only [parseDest_eq_ok_iff]
  constructor
  · rintro ⟨_, ⟨_, hmanual⟩ | ⟨n, _, huser⟩⟩
    · exact Or.inl hmanual
    · exact Or.inr ⟨n.toNat, huser⟩
  · rintro (hmanual | ⟨n, huser⟩)
    · exact ⟨.manual, Or.inl ⟨rfl, hmanual⟩⟩
    · have hn : (UInt8.ofNat n).toNat = n :=
        UInt8.toNat_ofNat_of_lt' (Nat.lt_of_le_of_lt huser.2.2 (by decide))
      exact ⟨.user (UInt8.ofNat n), Or.inr ⟨_, rfl, hn.symm ▸ huser⟩⟩

/-- A document has one block. -/
theorem Target.Encodes.memory_unique {address : Address} {doc : Value}
    {data data' : List UInt8}
    (hencodes : (Target.memory address).Encodes kit doc data)
    (hencodes' : (Target.memory address).Encodes kit doc data') :
    data = data' := by
  obtain ⟨m, hread, _, rfl⟩ := hencodes
  obtain ⟨m', hread', _, rfl⟩ := hencodes'
  rw [hread, Except.ok.injEq] at hread'
  rw [hread']

/-- A store succeeds exactly when the encode of the same document does and the
destination names a slot; it sends the same data from the same device to that
slot. -/
theorem store_is_encode_readdressed (kit : Kit) (area dest : String)
    (doc : Value) {ch : UInt8} (hch : ch ≤ 15) :
    ((∃ bytes, store kit area doc dest ch = some (.ok bytes)) ↔
      (area = "memory" ∨ area = "edit") ∧
      (∃ bytes, encode kit area doc ch = .ok bytes) ∧
      (NamesManual dest ∨ ∃ n, NamesUser dest n)) ∧
    ((∃ bytes, store kit area doc dest ch = some (.ok bytes)) ∨
      ∃ error, store kit area doc dest ch = some (.error error)) ∧
    ∀ bytes live, store kit area doc dest ch = some (.ok bytes) →
      encode kit area doc ch = .ok live →
      ∃ f g, Frame.decode bytes = .ok f ∧ Frame.decode live = .ok g ∧
        f.command = cmdDT1 ∧ f.deviceId = g.deviceId ∧ f.data = g.data ∧
        ((NamesManual dest ∧ f.address = memoryManualBase) ∨
          ∃ n : UInt8, NamesUser dest n.toNat ∧
            f.address = (MemorySlot.user n).baseAddress) ∧
        f.address ≠ editBufferBase ∧ f.address ≠ systemBase := by
  refine ⟨?_, ?_, ?_⟩
  · rw [← targetFor_eq_memory_iff, ← @exists_parseDest_iff kit]
    constructor
    · intro hstores
      obtain ⟨bytes, hstore⟩ := hstores
      obtain ⟨address, slot, data, htarget, hdest, hencodes, _⟩ :=
        store_eq_ok_iff.mp hstore
      exact ⟨⟨address, htarget⟩, ⟨_, (encode_eq_ok_iff_of_target htarget).mpr
        ⟨data, hencodes, rfl⟩⟩, slot, hdest⟩
    · intro hparts
      obtain ⟨⟨address, htarget⟩, ⟨live, hencode⟩, slot, hdest⟩ := hparts
      obtain ⟨data, hencodes, _⟩ :=
        (encode_eq_ok_iff_of_target htarget).mp hencode
      exact ⟨_, store_eq_ok_iff.mpr
        ⟨address, slot, data, htarget, hdest, hencodes, rfl⟩⟩
  · have hanswers : ∃ result, store kit area doc dest ch = some result :=
      ⟨_, rfl⟩
    obtain ⟨error | bytes, hstore⟩ := hanswers
    · exact Or.inr ⟨error, hstore⟩
    · exact Or.inl ⟨bytes, hstore⟩
  · intro bytes live hstore hencode
    obtain ⟨address, slot, data, htarget, hdest, hencodes, rfl⟩ :=
      store_eq_ok_iff.mp hstore
    obtain ⟨data', hencodes', rfl⟩ :=
      (encode_eq_ok_iff_of_target htarget).mp hencode
    obtain rfl := hencodes.memory_unique hencodes'
    have hstored := dataSet_safe hch (parseDest_exists hdest).sevenBit
      hencodes.memory_lt
    have hlive := dataSet_safe hch (Target.base_sevenBit htarget)
      hencodes.memory_lt
    refine ⟨_, _, hstored.2, hlive.2, rfl, rfl, rfl, ?_,
      baseAddress_ne_editBufferBase slot, baseAddress_ne_systemBase slot⟩
    rcases (parseDest_eq_ok_iff dest slot).mp hdest with
      ⟨rfl, hmanual⟩ | ⟨n, rfl, huser⟩
    · exact Or.inl ⟨hmanual, baseAddress_manual⟩
    · exact Or.inr ⟨n, huser, rfl⟩

theorem store_captured_at_twelve :
    ∃ bytes, store Kit.reference "edit" (memoryDocument Memory.captured) "+012"
      0 = some (.ok bytes) := by
  have hch : (0 : UInt8) ≤ 15 := by decide
  have hencode : ∃ bytes, encode Kit.reference "edit"
      (memoryDocument Memory.captured) 0 = .ok bytes :=
    ⟨_, (encode_eq_ok_iff_of_target (targetFor_eq_some_iff _ _ |>.mpr
      (Or.inr (Or.inr ⟨rfl, rfl⟩)))).mpr
        ⟨_, ⟨_, memoryDocument_read _, Memory.captured_inRange, rfl⟩, rfl⟩⟩
  have htwelve : NamesUser "+012" 12 :=
    ⟨⟨['0', '1', '2'], Or.inr (by decide), by simp, by simp, by decide⟩,
      by decide, by decide⟩
  exact (store_is_encode_readdressed Kit.reference "edit" "+012" _ hch).1.mpr
    ⟨Or.inr rfl, hencode, Or.inr ⟨12, htwelve⟩⟩

end Store

end SpaceEcho.Re202
