/-
Machines on a flat memory whose events have footprints: each event writes within
one window and reads at most one other.  Events that keep out of each other's
windows commute, and an event that fills a window undoes what was done to it.
-/
import SpaceEcho.Lib.FlatMemory
import SpaceEcho.Lib.Machine

namespace FlatMemory

open Machine

universe u

variable {β W : Type} {ε : Type u}

/-- Each event changes nothing outside the window it writes, and what it leaves
at an address depends on that address and on the window it reads. -/
structure Footprint (layout : Layout W) (step : (ℕ → β) → ε → ℕ → β)
    (writes reads : ε → Option W) : Prop where
  frame : ∀ {e a}, (∀ w, writes e = some w → ¬ layout.Contains w a) →
    ∀ memory, step memory e a = memory a
  reading : ∀ {e a memory memory'},
    (∀ w, reads e = some w → layout.view memory w = layout.view memory' w) →
    memory a = memory' a → step memory e a = step memory' e a

namespace Footprint

/-- Neither event writes what the other writes or reads. -/
structure Independent (writes reads : ε → Option W) (e e' : ε) : Prop where
  apart : ∀ w, writes e = some w → writes e' ≠ some w
  unread : ∀ w, writes e = some w → reads e' ≠ some w
  unreading : ∀ w, writes e' = some w → reads e ≠ some w

theorem Independent.symm {writes reads : ε → Option W} {e e' : ε}
    (hindep : Independent writes reads e e') : Independent writes reads e' e where
  apart := fun w hw hw' => hindep.apart w hw' hw
  unread := hindep.unreading
  unreading := hindep.unread

section Rules

variable {layout : Layout W} {step : (ℕ → β) → ε → ℕ → β}
variable {writes reads : ε → Option W}

/-- Memories that agree on a window have one view of it. -/
theorem view_congr {memory memory' : ℕ → β} {w : W}
    (hagree : ∀ a, layout.Contains w a → memory a = memory' a) :
    layout.view memory w = layout.view memory' w := by
  apply congrArg List.ofFn
  funext i
  exact hagree _ ⟨Nat.le_add_right _ _, Nat.add_lt_add_left i.isLt _⟩

/-- An address lies in one window at most. -/
theorem window_unique {v w : W} {a : ℕ} (hv : layout.Contains v a)
    (hw : layout.Contains w a) : v = w := by
  by_contra hne
  have hdisjoint := layout.disjoint v w hne
  simp only [Layout.Contains] at hv hw
  omega

/-- Run: an address that no event writes keeps what it holds. -/
theorem run_frame (h : Footprint layout step writes reads) {events : List ε} {a : ℕ}
    (ha : ∀ e ∈ events, ∀ w, writes e = some w → ¬ layout.Contains w a)
    (memory : ℕ → β) : run step events memory a = memory a := by
  refine @run_keeps _ _ _ step (fun memory => memory a)
    (fun e => ∃ w, writes e = some w ∧ layout.Contains w a) ?_ events ?_ memory
  · intro e he memory
    exact h.frame (fun w hw hcontains => he ⟨w, hw, hcontains⟩) memory
  · rintro e he ⟨w, hw, hcontains⟩
    exact ha e he w hw hcontains

/-- Run: a window that no event writes keeps its contents. -/
theorem run_view (h : Footprint layout step writes reads) {events : List ε} {w : W}
    (hw : ∀ e ∈ events, writes e ≠ some w) (memory : ℕ → β) :
    layout.view (run step events memory) w = layout.view memory w := by
  apply view_congr
  intro a ha
  apply h.run_frame
  intro e he v hv hcontains
  exact hw e he (window_unique hcontains ha ▸ hv)

/-- An event that fills its window leaves nothing of the events that wrote there
only. -/
theorem run_absorbed (h : Footprint layout step writes reads) {e : ε} {w : W}
    (hfills : ∀ memory memory' a, layout.Contains w a →
      step memory e a = step memory' e a) (he : writes e = some w)
    {events : List ε} (hevents : ∀ e' ∈ events, ∀ v, writes e' = some v → v = w)
    (memory : ℕ → β) : run step (events ++ [e]) memory = step memory e := by
  rw [run_append, run_cons, run_nil]
  funext a
  by_cases hcontains : layout.Contains w a
  · exact hfills _ _ a hcontains
  · have hframe : ∀ v, writes e = some v → ¬ layout.Contains v a := by
      intro v hv
      rwa [Option.some.inj (hv.symm.trans he)]
    rw [h.frame hframe, h.frame hframe]
    apply h.run_frame
    intro e' he' v hv
    rwa [hevents e' he' v hv]

end Rules

end Footprint

end FlatMemory
