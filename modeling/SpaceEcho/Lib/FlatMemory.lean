/-
Block writes into a flat memory.  A layout names disjoint windows of the
address space; writing whole windows is then the same as updating a map from
windows to their contents, so a run of writes leaves in each window the data of
the last write to it.
-/
import Mathlib.Data.List.OfFn
import Mathlib.Logic.Function.Basic
import SpaceEcho.Lib.Window

namespace FlatMemory

variable {β W : Type}

/-- Store a block at consecutive addresses from `base` on. -/
def write (memory : ℕ → β) (base : ℕ) (data : List β) : ℕ → β := fun a =>
  if base ≤ a then (data[a - base]?).getD (memory a) else memory a

/-- The `length` cells from `base` on. -/
def read (memory : ℕ → β) (base length : ℕ) : List β :=
  List.ofFn fun i : Fin length => memory (base + i)

@[simp] theorem length_read (memory : ℕ → β) (base length : ℕ) :
    (read memory base length).length = length := by
  simp [read]

theorem write_of_outside (memory : ℕ → β) (base : ℕ) (data : List β) {a : ℕ}
    (ha : a < base ∨ base + data.length ≤ a) :
    write memory base data a = memory a := by
  by_cases hbase : base ≤ a
  · have hpast : data.length ≤ a - base := by omega
    simp [write, hbase, List.getElem?_eq_none hpast]
  · simp [write, hbase]

/-- What a write leaves at an address depends on that address only. -/
theorem write_congr {memory memory' : ℕ → β} {a : ℕ} (ha : memory a = memory' a)
    (base : ℕ) (data : List β) :
    write memory base data a = write memory' base data a := by
  rw [write, write, ha]

/-- Where a write reaches, what was there before does not matter. -/
theorem write_inside (memory memory' : ℕ → β) {base a : ℕ} {data : List β}
    (ha : base ≤ a ∧ a < base + data.length) :
    write memory base data a = write memory' base data a := by
  have hindex : a - base < data.length := by omega
  rw [write, write, if_pos ha.1, if_pos ha.1, List.getElem?_eq_getElem hindex]
  rfl

theorem read_write_same (memory : ℕ → β) (base : ℕ) (data : List β) :
    read (write memory base data) base data.length = data := by
  apply List.ext_getElem
  · simp
  · intro i _ hi
    simp [read, write]

theorem read_write_disjoint (memory : ℕ → β) (base : ℕ) (data : List β)
    {start length : ℕ}
    (hdisjoint : start + length ≤ base ∨ base + data.length ≤ start) :
    read (write memory base data) start length = read memory start length := by
  have hcell : ∀ i : Fin length,
      write memory base data (start + i) = memory (start + i) := by
    intro i
    have hi := i.isLt
    exact write_of_outside memory base data (by omega)
  simp only [read, hcell]

/-- A write within the cells that are read overwrites that part of them. -/
theorem read_write_within (memory : ℕ → β) (base : ℕ) {offset length : ℕ}
    {data : List β} (hfits : offset + data.length ≤ length) :
    read (write memory (base + offset) data) base length =
      FieldWindow.overwrite (read memory base length) offset data := by
  apply List.ext_getElem
  · simp only [FieldWindow.overwrite, List.length_append, List.length_take,
      List.length_drop, length_read]
    omega
  · intro i hread _
    rw [length_read] at hread
    simp only [FieldWindow.overwrite, read, write, List.getElem_ofFn,
      List.getElem_append, List.length_append, List.length_take,
      List.length_ofFn, List.getElem_take, List.getElem_drop]
    by_cases hbefore : i < offset
    · have hlow : ¬ base + offset ≤ base + i := by omega
      have hfront : i < min offset length := by omega
      have hfront' : i < min offset length + data.length := by omega
      simp [hlow, hfront, hfront']
    · have hhigh : base + offset ≤ base + i := by omega
      have hindex : base + i - (base + offset) = i - offset := by omega
      have hmin : min offset length = offset := by omega
      by_cases hinside : i < offset + data.length
      · have hi : i - offset < data.length := by omega
        simp [hhigh, hindex, hmin, hbefore, hinside, List.getElem?_eq_getElem hi]
      · have hi : data.length ≤ i - offset := by omega
        have hback : offset + data.length + (i - (offset + data.length)) = i := by
          omega
        simp [hhigh, hindex, hmin, hinside, List.getElem?_eq_none hi, hback]

/-- Named windows of the address space, no two of which overlap. -/
structure Layout (W : Type) where
  base : W → ℕ
  length : W → ℕ
  disjoint : ∀ v w, v ≠ w →
    base v + length v ≤ base w ∨ base w + length w ≤ base v

namespace Layout

variable (layout : Layout W)

/-- The address lies in window `w`. -/
def Contains (w : W) (a : ℕ) : Prop :=
  layout.base w ≤ a ∧ a < layout.base w + layout.length w

/-- The contents of every window. -/
def view (memory : ℕ → β) : W → List β := fun w =>
  read memory (layout.base w) (layout.length w)

/-- One write: a window and a block of its length. -/
structure Write (layout : Layout W) (β : Type) where
  window : W
  data : List β
  fits : data.length = layout.length window

variable {layout}

/-- Store a block in its window. -/
def Write.apply (w : Write layout β) (memory : ℕ → β) : ℕ → β :=
  write memory (layout.base w.window) w.data

/-- The blocks written to a window, in order. -/
def blocksTo [DecidableEq W] (writes : List (Write layout β)) (target : W) :
    List (List β) :=
  (writes.filter fun w => w.window = target).map Write.data

/-- A write replaces its own window and keeps every other one. -/
theorem Write.view_apply [DecidableEq W] (w : Write layout β)
    (memory : ℕ → β) :
    layout.view (w.apply memory) =
      Function.update (layout.view memory) w.window w.data := by
  funext target
  by_cases htarget : target = w.window
  · subst htarget
    rw [Function.update_self]
    simp only [view, Write.apply, ← w.fits, read_write_same]
  · rw [Function.update_of_ne htarget]
    apply read_write_disjoint
    rw [w.fits]
    exact layout.disjoint target w.window htarget

/-- A write inside a window overwrites part of it and keeps every other one. -/
theorem view_write_within [DecidableEq W] (memory : ℕ → β) (w : W) {offset : ℕ}
    {data : List β} (hfits : offset + data.length ≤ layout.length w) :
    layout.view (write memory (layout.base w + offset) data) =
      Function.update (layout.view memory) w
        (FieldWindow.overwrite (layout.view memory w) offset data) := by
  funext target
  by_cases htarget : target = w
  · subst htarget
    rw [Function.update_self]
    exact read_write_within memory (layout.base target) hfits
  · rw [Function.update_of_ne htarget]
    apply read_write_disjoint
    have hdisjoint := layout.disjoint target w htarget
    omega

theorem Write.apply_outside (w : Write layout β) (memory : ℕ → β) {a : ℕ}
    (ha : ¬ layout.Contains w.window a) : w.apply memory a = memory a := by
  apply write_of_outside
  rw [w.fits]
  simp only [Contains] at ha
  omega

/-- Within its window a write leaves nothing of what was there. -/
theorem Write.apply_inside (w : Write layout β) (memory memory' : ℕ → β) {a : ℕ}
    (ha : layout.Contains w.window a) : w.apply memory a = w.apply memory' a := by
  apply write_inside
  rw [w.fits]
  exact ha

/-- The state of the windows after a run of writes, on the map of windows. -/
theorem view_run [DecidableEq W] (writes : List (Write layout β))
    (memory : ℕ → β) :
    layout.view (writes.foldl (fun mem w => w.apply mem) memory) =
      writes.foldl (fun windows w => Function.update windows w.window w.data)
        (layout.view memory) := by
  induction writes generalizing memory with
  | nil => rfl
  | cons w rest ih =>
      simp only [List.foldl_cons]
      rw [ih, Write.view_apply]

theorem foldl_update_apply [DecidableEq W] (writes : List (Write layout β))
    (windows : W → List β) (target : W) :
    writes.foldl (fun state w => Function.update state w.window w.data)
        windows target =
      (blocksTo writes target).getLast?.getD (windows target) := by
  induction writes generalizing windows with
  | nil => rfl
  | cons w rest ih =>
      rw [List.foldl_cons, ih]
      by_cases htarget : w.window = target
      · subst htarget
        simp [blocksTo, List.getLast?_cons]
      · simp [blocksTo, htarget, Function.update_of_ne (Ne.symm htarget)]

/-- After any run of writes each window holds the last block written to it. -/
theorem view_run_apply [DecidableEq W] (writes : List (Write layout β))
    (memory : ℕ → β) (target : W) :
    layout.view (writes.foldl (fun mem w => w.apply mem) memory) target =
      (blocksTo writes target).getLast?.getD (layout.view memory target) := by
  rw [view_run, foldl_update_apply]

/-- No run of writes touches an address outside every window. -/
theorem run_outside (writes : List (Write layout β)) (memory : ℕ → β) {a : ℕ}
    (ha : ∀ w, ¬ layout.Contains w a) :
    writes.foldl (fun mem w => w.apply mem) memory a = memory a := by
  induction writes generalizing memory with
  | nil => rfl
  | cons w rest ih =>
      rw [List.foldl_cons, ih, Write.apply_outside w memory (ha w.window)]

end Layout

end FlatMemory
