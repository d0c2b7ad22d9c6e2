/-
Computations that check a list of items in order and stop at the first bad
one.  The items are named apart from the code that checks them, so that the
steps of a computation, put in sequence, check their items put in sequence.
-/
import SpaceEcho.Lib.Block
import SpaceEcho.Lib.FirstMatch

namespace FirstFault

variable {ι α β ε γ : Type}
variable {Good : ι → Prop} {Blames : ε → ι → Prop}

/-- The computation returns when all items are good; otherwise it fails, and
its error blames the first item that is not. -/
def Checks (Good : ι → Prop) (Blames : ε → ι → Prop) (items : List ι)
    (x : Except ε α) : Prop :=
  (∃ a, x = .ok a ∧ ∀ i ∈ items, Good i) ∨
    ∃ before bad after e, items = before ++ bad :: after ∧
      (∀ i ∈ before, Good i) ∧ ¬ Good bad ∧ x = .error e ∧ Blames e bad

theorem checks_ok (a : α) : Checks Good Blames [] (.ok a : Except ε α) :=
  Or.inl ⟨a, rfl, fun _ hi => absurd hi List.not_mem_nil⟩

/-- A step that looks at one item. -/
theorem checks_item {i : ι} {x : Except ε α} (hgood : Good i → ∃ a, x = .ok a)
    (hbad : ¬ Good i → ∃ e, x = .error e ∧ Blames e i) :
    Checks Good Blames [i] x := by
  by_cases hi : Good i
  · obtain ⟨a, ha⟩ := hgood hi
    refine Or.inl ⟨a, ha, ?_⟩
    intro j hj
    rwa [List.mem_singleton.mp hj]
  · obtain ⟨e, he, hblames⟩ := hbad hi
    exact Or.inr ⟨[], i, [], e, rfl, fun _ hj => absurd hj List.not_mem_nil, hi,
      he, hblames⟩

/-- Steps in sequence check their items in sequence. -/
theorem Checks.bind {front back : List ι} {x : Except ε α} {f : α → Except ε β}
    (hx : Checks Good Blames front x) (hf : ∀ a, Checks Good Blames back (f a)) :
    Checks Good Blames (front ++ back) (x >>= f) := by
  rcases hx with ⟨a, rfl, hfront⟩ | ⟨before, bad, after, e, rfl, hrest⟩
  · rcases hf a with ⟨b, hb, hback⟩ | ⟨before, bad, after, e, rfl, hbefore, hrest⟩
    · refine Or.inl ⟨b, hb, ?_⟩
      intro i hi
      exact (List.mem_append.mp hi).elim (hfront i) (hback i)
    · refine Or.inr ⟨front ++ before, bad, after, e,
        (List.append_assoc _ _ _).symm, ?_, hrest⟩
      intro i hi
      exact (List.mem_append.mp hi).elim (hfront i) (hbefore i)
  · obtain ⟨hbefore, hbad, rfl, hblames⟩ := hrest
    exact Or.inr ⟨before, bad, after ++ back, e, by simp, hbefore, hbad, rfl,
      hblames⟩

/-- A loop that stops at the first element out of range checks them all. -/
theorem checks_scan {bad : γ → Prop} [DecidablePred bad] {error : γ → ε}
    (item : γ → ι) (hgood : ∀ c, Good (item c) ↔ ¬ bad c)
    (hblames : ∀ c, Blames (error c) (item c)) (l : List γ) :
    Checks Good Blames (l.map item) (Block.scan bad error l) := by
  induction l with
  | nil => exact checks_ok ()
  | cons c rest ih =>
      have hitem : Checks Good Blames [item c]
          (if bad c then .error (error c) else .ok () : Except ε Unit) := by
        by_cases hbad : bad c
        · rw [if_pos hbad]
          exact checks_item (fun h => absurd hbad ((hgood c).mp h))
            (fun _ => ⟨_, rfl, hblames c⟩)
        · rw [if_neg hbad]
          exact checks_item (fun _ => ⟨(), rfl⟩)
            (fun h => absurd ((hgood c).mpr hbad) h)
      have hsplit : Block.scan bad error (c :: rest) =
          (if bad c then .error (error c) else .ok () : Except ε Unit) >>=
            fun _ => Block.scan bad error rest := by
        by_cases hbad : bad c
        · simp only [Block.scan, if_pos hbad]
          rfl
        · simp only [Block.scan, if_neg hbad]
          rfl
      rw [hsplit]
      exact hitem.bind fun _ => ih

section Checks

variable {items : List ι} {x : Except ε α}

theorem Checks.returns_iff (h : Checks Good Blames items x) :
    (∃ a, x = .ok a) ↔ ∀ i ∈ items, Good i := by
  rcases h with ⟨a, rfl, hgood⟩ | ⟨before, bad, after, e, rfl, _, hbad, rfl, _⟩
  · exact ⟨fun _ => hgood, fun _ => ⟨a, rfl⟩⟩
  · constructor
    · rintro ⟨a, ha⟩
      cases ha
    · intro hgood
      exact absurd (hgood bad (by simp)) hbad

/-- The position of the item that is blamed, and that all before it are good. -/
theorem Checks.blames_first (h : Checks Good Blames items x) {e : ε}
    (he : x = .error e) :
    ∃ (k : ℕ) (item : ι), items[k]? = some item ∧ ¬ Good item ∧ Blames e item ∧
      ∀ j < k, ∀ earlier, items[j]? = some earlier → Good earlier := by
  rcases h with ⟨a, rfl, _⟩ | ⟨before, bad, after, e', rfl, hgood, hbad, rfl, hblames⟩
  · cases he
  · cases he
    refine ⟨before.length, bad, by simp, hbad, hblames, ?_⟩
    intro j hj earlier hearlier
    rw [List.getElem?_append_left hj] at hearlier
    exact hgood earlier (List.mem_of_getElem? hearlier)

/-- When the error is made from the item it blames, the first bad item and no
other decides what the computation fails with. -/
theorem Checks.error_iff {report : ι → ε}
    (h : Checks Good (fun e i => e = report i) items x) {e : ε} :
    x = .error e ↔ ∃ before bad after, items = before ++ bad :: after ∧
      (∀ i ∈ before, Good i) ∧ ¬ Good bad ∧ e = report bad := by
  rcases h with ⟨a, rfl, hgood⟩ | ⟨before, bad, after, e', hitems, hbefore, hbad, rfl, rfl⟩
  · constructor
    · intro he
      cases he
    · rintro ⟨before, bad, after, rfl, _, hbad, _⟩
      exact absurd (hgood bad (by simp)) hbad
  · constructor
    · intro he
      exact ⟨before, bad, after, hitems, hbefore, hbad, (Except.error.inj he).symm⟩
    · rintro ⟨before', bad', after', hitems', hbefore', hbad', rfl⟩
      have hsplit : FirstMatch.SplitsAt (fun i => ¬ Good i) items before bad after :=
        ⟨hitems, hbad, fun i hi => not_not_intro (hbefore i hi)⟩
      obtain ⟨_, rfl⟩ := hsplit.unique
        ⟨hitems', hbad', fun i hi => not_not_intro (hbefore' i hi)⟩
      rfl

end Checks

end FirstFault
