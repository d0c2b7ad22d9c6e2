/-
Searching a list for the first match.  A list splits at its first match in one
way only.  A search by a coarse test, meant to find items of a finer kind, finds
one of them exactly when no other coarse match stands before the first.
-/
import SpaceEcho.Lib.Codec

namespace FirstMatch

variable {α : Type*} {p q : α → Prop}

/-- `item` satisfies `p`, and nothing before it in `items` does. -/
def SplitsAt (p : α → Prop) (items before : List α) (item : α)
    (after : List α) : Prop :=
  items = before ++ item :: after ∧ p item ∧ ∀ other ∈ before, ¬ p other

theorem find?_eq_some_iff {f : α → Bool} {items : List α} {item : α} :
    items.find? f = some item ↔
      ∃ before after, SplitsAt (fun a => f a = true) items before item after := by
  rw [List.find?_eq_some_iff_append]
  constructor
  · intro hfind
    obtain ⟨hitem, before, after, hitems, hbefore⟩ := hfind
    exact ⟨before, after, hitems, hitem, fun other hother =>
      by simpa using hbefore other hother⟩
  · intro hsplit
    obtain ⟨before, after, hitems, hitem, hbefore⟩ := hsplit
    exact ⟨hitem, before, after, hitems, fun other hother =>
      by simpa using hbefore other hother⟩

theorem exists_splitsAt {items : List α} (hsome : ∃ item ∈ items, p item) :
    ∃ before item after, SplitsAt p items before item after := by
  induction items with
  | nil =>
      obtain ⟨item, hmem, _⟩ := hsome
      cases hmem
  | cons first rest ih =>
      by_cases hfirst : p first
      · exact ⟨[], first, rest, rfl, hfirst, by simp⟩
      · have hrest : ∃ item ∈ rest, p item := by
          obtain ⟨item, hmem, hitem⟩ := hsome
          rcases List.mem_cons.mp hmem with rfl | hmem
          · exact absurd hitem hfirst
          · exact ⟨item, hmem, hitem⟩
        obtain ⟨before, item, after, rfl, hitem, hbefore⟩ := ih hrest
        refine ⟨first :: before, item, after, rfl, hitem, ?_⟩
        intro other hother
        rcases List.mem_cons.mp hother with rfl | hother
        · exact hfirst
        · exact hbefore other hother

theorem SplitsAt.unique {items before after before' after' : List α}
    {item item' : α} (hsplit : SplitsAt p items before item after)
    (hsplit' : SplitsAt p items before' item' after') :
    before = before' ∧ item = item' := by
  obtain ⟨rfl, hitem, hbefore⟩ := hsplit
  obtain ⟨hitems, hitem', hbefore'⟩ := hsplit'
  induction before generalizing before' with
  | nil =>
      rcases before' with _ | ⟨first, rest⟩
      · exact ⟨rfl, (List.cons.inj hitems).1⟩
      · have hfirst : item = first := (List.cons.inj hitems).1
        exact absurd hitem (hbefore' item (hfirst ▸ List.mem_cons_self))
  | cons first rest ih =>
      have hfirst : ¬ p first := hbefore first List.mem_cons_self
      rcases before' with _ | ⟨first', rest'⟩
      · have hsame : first = item' := (List.cons.inj hitems).1
        exact absurd (hsame ▸ hitem') hfirst
      · obtain ⟨rfl, htail⟩ := List.cons.inj hitems
        obtain ⟨rfl, hsame⟩ := ih
          (fun other hother => hbefore other (List.mem_cons_of_mem _ hother))
          htail (fun other hother =>
            hbefore' other (List.mem_cons_of_mem _ hother))
        exact ⟨rfl, hsame⟩

/-- The coarse search finds what it is meant to, where there is such an item,
exactly when no coarse match stands before the first one. -/
theorem coarse_search_iff {items : List α} (hqp : ∀ item, q item → p item) :
    ((∃ item ∈ items, q item) →
      ∃ before item after, SplitsAt p items before item after ∧ q item) ↔
    ∀ before item after, SplitsAt q items before item after →
      ∀ other ∈ before, ¬ p other := by
  constructor
  · intro hfinds before item after hsplit
    have hmem : item ∈ items := by
      rw [hsplit.1]
      simp
    obtain ⟨before', item', after', ⟨hitems, hitem, hbefore⟩, hfine⟩ :=
      hfinds ⟨item, hmem, hsplit.2.1⟩
    have hsplit' : SplitsAt q items before' item' after' :=
      ⟨hitems, hfine, fun other hother hq =>
        hbefore other hother (hqp other hq)⟩
    obtain ⟨rfl, _⟩ := hsplit.unique hsplit'
    exact hbefore
  · intro hnone hsome
    obtain ⟨before, item, after, hsplit⟩ := exists_splitsAt hsome
    exact ⟨before, item, after,
      ⟨hsplit.1, hqp item hsplit.2.1, hnone before item after hsplit⟩,
      hsplit.2.1⟩

end FirstMatch
