/-
Runs of a machine.  A machine is a step function on states; what one step
preserves, a run of any length and in any order preserves.  Runs of two parties
whose events commute may be interleaved in any way.
-/
import Mathlib.Data.List.Basic

namespace Machine

universe u v w x

variable {σ : Type u} {τ : Type v} {ε : Type w} {ω : Type x}

/-- The state after the events, in order. -/
def run (step : σ → ε → σ) (events : List ε) (s : σ) : σ := events.foldl step s

@[simp] theorem run_nil (step : σ → ε → σ) (s : σ) : run step [] s = s := rfl

@[simp] theorem run_cons (step : σ → ε → σ) (e : ε) (events : List ε) (s : σ) :
    run step (e :: events) s = run step events (step s e) := rfl

theorem run_append (step : σ → ε → σ) (front back : List ε) (s : σ) :
    run step (front ++ back) s = run step back (run step front s) :=
  List.foldl_append

/-- Two machines that stay related step by step stay related over a run of
events that are all admitted. -/
theorem run_simulates {step : σ → ε → σ} {spec : τ → ε → τ}
    {Related : σ → τ → Prop} {Admitted : ε → Prop}
    (hstep : ∀ e, Admitted e → ∀ s t, Related s t →
      Related (step s e) (spec t e))
    {events : List ε} (hadmitted : ∀ e ∈ events, Admitted e) {s : σ} {t : τ}
    (hrelated : Related s t) :
    Related (run step events s) (run spec events t) := by
  induction events generalizing s t with
  | nil => exact hrelated
  | cons e rest ih =>
      have hfirst := hadmitted e List.mem_cons_self
      apply ih
      · intro e' he'
        exact hadmitted e' (List.mem_cons_of_mem e he')
      · exact hstep e hfirst s t hrelated

/-- What no event of the run touches is at the end what it was. -/
theorem run_keeps {step : σ → ε → σ} {view : σ → ω} {Touches : ε → Prop}
    (hstep : ∀ e, ¬ Touches e → ∀ s, view (step s e) = view s)
    {events : List ε} (huntouched : ∀ e ∈ events, ¬ Touches e) (s : σ) :
    view (run step events s) = view s := by
  induction events generalizing s with
  | nil => rfl
  | cons e rest ih =>
      have hfirst := hstep e (huntouched e List.mem_cons_self) s
      rw [run_cons, ih (fun e' he' => huntouched e' (List.mem_cons_of_mem e he')),
        hfirst]

/-- The events of two runs, each in its own order. -/
inductive Interleaving : List ε → List ε → List ε → Prop where
  | nil : Interleaving [] [] []
  | left {e : ε} {mine theirs events : List ε} :
      Interleaving mine theirs events →
      Interleaving (e :: mine) theirs (e :: events)
  | right {e : ε} {mine theirs events : List ε} :
      Interleaving mine theirs events →
      Interleaving mine (e :: theirs) (e :: events)

theorem Interleaving.symm {mine theirs events : List ε}
    (hevents : Interleaving mine theirs events) :
    Interleaving theirs mine events := by
  induction hevents with
  | nil => exact .nil
  | left _ ih => exact .right ih
  | right _ ih => exact .left ih

end Machine
