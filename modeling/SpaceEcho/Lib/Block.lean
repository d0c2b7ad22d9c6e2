/-
Blocks of a fixed length: reading one as a list, overwriting a slice of one,
and scanning a list for its first element out of range.
-/
import Mathlib.Data.List.OfFn
import SpaceEcho.Lib.Codec

namespace Block

variable {α : Type} {n k : ℕ}

theorem toList_eq_ofFn (v : Vector α n) :
    v.toList = List.ofFn fun i : Fin n => v[i] := by
  apply List.ext_getElem
  · simp
  · intro i _ _
    simp

/-- A list of the right length is a block. -/
theorem exists_toList_eq {l : List α} (hlength : l.length = n) :
    ∃ v : Vector α n, v.toList = l :=
  ⟨⟨l.toArray, by simpa using hlength⟩, rfl⟩

/-- A decoder is exact when it is exact on the blocks of one length and refuses
every list of another length. -/
theorem exact_of_toList {β ε : Type} {decode : List α → Except ε β}
    {encode : β → Vector α n} {Valid : β → Prop}
    (hwrong : ∀ l, l.length ≠ n → ∃ e, decode l = .error e)
    (hblock : ∀ b a, decode b.toList = .ok a ↔ Valid a ∧ encode a = b) :
    Codec.Exact decode (Vector.toList ∘ encode) Valid where
  sound := by
    intro l a hdecode
    have hlength : l.length = n := by
      by_contra hother
      obtain ⟨e, herror⟩ := hwrong l hother
      rw [herror] at hdecode
      cases hdecode
    obtain ⟨b, rfl⟩ := exists_toList_eq hlength
    obtain ⟨hvalid, hencode⟩ := (hblock b a).mp hdecode
    exact ⟨hvalid, congrArg Vector.toList hencode⟩
  complete := by
    intro a hvalid
    exact (hblock (encode a) a).mpr ⟨hvalid, rfl⟩

/-- Overwrite the slice of `src`'s length that starts at `offset`. -/
def copyFromSlice (b : Vector α n) (offset : ℕ) (src : Vector α k)
    (hfits : offset + k ≤ n := by decide) : Vector α n :=
  ⟨(b.toList.take offset ++ src.toList ++ b.toList.drop (offset + k)).toArray,
    by simp; omega⟩

theorem toList_copyFromSlice (b : Vector α n) (offset : ℕ) (src : Vector α k)
    (hfits : offset + k ≤ n) :
    (copyFromSlice b offset src hfits).toList =
      b.toList.take offset ++ src.toList ++ b.toList.drop (offset + k) :=
  rfl

/-- Replacing an element of the middle part leaves the outer parts alone. -/
theorem set_middle (front x back : List α) {i : ℕ} (hi : i < x.length) (a : α) :
    (front ++ (x ++ back)).set (front.length + i) a =
      front ++ (x.set i a ++ back) := by
  rw [List.set_append_right _ _ (Nat.le_add_right _ _), Nat.add_sub_cancel_left,
    List.set_append_left _ _ hi]

theorem getElem_middle (front x back : List α) {i : ℕ} (hi : i < x.length)
    (hbound : front.length + i < (front ++ (x ++ back)).length) :
    (front ++ (x ++ back))[front.length + i] = x[i] := by
  rw [List.getElem_append_right (Nat.le_add_right _ _)]
  simp only [Nat.add_sub_cancel_left, List.getElem_append_left hi]

/-- Stop at the first element that is out of range. -/
def scan {ε : Type} (bad : α → Prop) [DecidablePred bad] (error : α → ε) :
    List α → Except ε Unit
  | [] => .ok ()
  | a :: rest => if bad a then .error (error a) else scan bad error rest

theorem scan_eq_ok_iff {ε : Type} {bad : α → Prop} [DecidablePred bad]
    {error : α → ε} (l : List α) (u : Unit) :
    scan bad error l = .ok u ↔ ∀ a ∈ l, ¬ bad a := by
  induction l with
  | nil => simp [scan]
  | cons a rest ih =>
      by_cases hbad : bad a
      · simp [scan, hbad]
      · simp [scan, hbad, ih]

end Block
