/-
Acceptance: which inputs a fallible computation returns on, whatever it returns.
A sequence of independent steps accepts when each step does, and a traversal
when every item does.
-/
import SpaceEcho.Lib.Codec
import Mathlib.Data.List.Forall2

namespace Acceptance

variable {α β ι ε : Type}

/-- The computation returns. -/
def Accepts (x : Except ε α) : Prop := ∃ a, x = .ok a

theorem accepts_ok (a : α) : Accepts (.ok a : Except ε α) := ⟨a, rfl⟩

theorem not_accepts_error (e : ε) : ¬ Accepts (.error e : Except ε α) := by
  rintro ⟨_, hok⟩
  cases hok

theorem isOk_iff {x : Except ε α} : x.isOk = true ↔ Accepts x := by
  rcases x with e | a
  · constructor
    · intro hok
      cases hok
    · intro haccepts
      exact absurd haccepts (not_accepts_error e)
  · exact ⟨fun _ => accepts_ok a, fun _ => rfl⟩

theorem accepts_bind_iff {x : Except ε α} {f : α → Except ε β} :
    Accepts (x >>= f) ↔ ∃ a, x = .ok a ∧ Accepts (f a) := by
  constructor
  · intro haccepts
    obtain ⟨b, hbind⟩ := haccepts
    obtain ⟨a, hx, hf⟩ := Codec.bind_returns_iff.mp hbind
    exact ⟨a, hx, b, hf⟩
  · intro hsteps
    obtain ⟨a, hx, b, hf⟩ := hsteps
    exact ⟨b, Codec.bind_returns_iff.mpr ⟨a, hx, hf⟩⟩

/-- When the rest does not depend on the value of a step, it is enough that the
step returns. -/
theorem accepts_step {x : Except ε α} {f : α → Except ε β} {P : Prop}
    (hrest : ∀ a, Accepts (f a) ↔ P) : Accepts (x >>= f) ↔ Accepts x ∧ P := by
  rw [accepts_bind_iff]
  simp only [hrest, exists_and_right]
  rfl

/-- A traversal returns the values its items are taken to, in order. -/
theorem mapM_eq_ok_iff {f : ι → Except ε β} {items : List ι}
    {values : List β} :
    items.mapM f = .ok values ↔
      List.Forall₂ (fun item value => f item = .ok value) items values := by
  induction items generalizing values with
  | nil => simp [pure, Except.pure, eq_comm]
  | cons first rest ih =>
      rw [List.mapM_cons, List.forall₂_cons_left_iff]
      simp only [Codec.bind_returns_iff, pure, Except.pure, Except.ok.injEq, ih]
      constructor
      · intro hsteps
        obtain ⟨value, hvalue, tail, htail, rfl⟩ := hsteps
        exact ⟨value, tail, hvalue, htail, rfl⟩
      · intro hvalues
        obtain ⟨value, tail, hvalue, htail, rfl⟩ := hvalues
        exact ⟨value, hvalue, tail, htail, rfl⟩

/-- Values related to all items exist exactly when every item has one. -/
theorem exists_forall₂_iff {R : ι → β → Prop} {items : List ι} :
    (∃ values, List.Forall₂ R items values) ↔
      ∀ item ∈ items, ∃ value, R item value := by
  induction items with
  | nil => simp
  | cons first rest ih =>
      rw [List.forall_mem_cons, ← ih]
      constructor
      · intro hvalues
        obtain ⟨_, hvalues⟩ := hvalues
        obtain ⟨value, tail, hvalue, htail, _⟩ :=
          List.forall₂_cons_left_iff.mp hvalues
        exact ⟨⟨value, hvalue⟩, tail, htail⟩
      · intro hvalues
        obtain ⟨⟨value, hvalue⟩, tail, htail⟩ := hvalues
        exact ⟨value :: tail, .cons hvalue htail⟩

theorem forall₂_and_iff {R S : ι → β → Prop} {items : List ι}
    {values : List β} :
    List.Forall₂ (fun item value => R item value ∧ S item value) items values ↔
      List.Forall₂ R items values ∧ List.Forall₂ S items values := by
  simp only [List.forall₂_iff_zip]
  constructor
  · rintro ⟨hlength, hboth⟩
    exact ⟨⟨hlength, fun hmem => (hboth hmem).1⟩,
      hlength, fun hmem => (hboth hmem).2⟩
  · rintro ⟨⟨hlength, hleft⟩, _, hright⟩
    exact ⟨hlength, fun hmem => ⟨hleft hmem, hright hmem⟩⟩

/-- A traversal returns values related to its items exactly when every item is
taken to a value related to it. -/
theorem exists_mapM_iff {key : ι → α} {f : α → Except ε β} {R : ι → β → Prop}
    {items : List ι} :
    (∃ values, (items.map key).mapM f = .ok values ∧
      List.Forall₂ R items values) ↔
    ∀ item ∈ items, ∃ value, f (key item) = .ok value ∧ R item value := by
  simp only [mapM_eq_ok_iff, List.forall₂_map_left_iff, ← forall₂_and_iff,
    exists_forall₂_iff]

end Acceptance
