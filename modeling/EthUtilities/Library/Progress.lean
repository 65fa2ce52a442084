/-
**Progress along runs.**

* `total work events` — the work of a list of events.
* **`checked_run_of_work`** — what every step adds to a level at least, the steps of a run add up to.
* **`checked_run_of_drain`** — a rank that every step lowers by its work, as long as nothing is taken
  in, is lowered by the whole work of a run in which nothing is.
-/

import Mathlib.Algebra.BigOperators.Group.List.Basic
import Mathlib.Algebra.Order.Monoid.Defs
import EthUtilities.Library.Machine

namespace Library.Machine

variable {σ ε φ : Type*} {exec : σ → ε → Except φ σ} {enabled : σ → ε → Prop} {P : σ → Prop} {s : σ}
  {events : List ε}

/-- The work of a list of events. -/
def total {α : Type*} [AddMonoid α] (work : ε → α) (events : List ε) : α := (events.map work).sum

theorem total_concat {α : Type*} [AddMonoid α] (work : ε → α) (events : List ε) (event : ε) :
    total work (events ++ [event]) = total work events + work event := by
  unfold total
  rw [List.map_append, List.sum_append, List.map_singleton, List.sum_singleton]

/-- **Levels**: every step adds its work at least. -/
theorem checked_run_of_work {α : Type*} [AddCommMonoid α] [PartialOrder α] [IsOrderedAddMonoid α]
    (level : σ → α) (work : ε → α)
    (step : ∀ s event, P s → enabled s event →
      ∃ t, exec s event = .ok t ∧ P t ∧ level s + work event ≤ level t)
    (start : P s) (valid : (checked exec enabled).Valid (.ok s) events) :
    ∃ t, (checked exec enabled).run (.ok s) events = .ok t ∧ P t ∧
      level s + total work events ≤ level t := by
  induction events generalizing s with
  | nil => exact ⟨s, rfl, start, le_of_eq (add_zero _)⟩
  | cons event events ih =>
    obtain ⟨t, executed, good, raised⟩ := step s event start (valid.1 s rfl)
    have after : (checked exec enabled).next (.ok s) event = .ok t := executed
    have rest := valid.2
    rw [after] at rest
    obtain ⟨last, ran, kept, further⟩ := ih good rest
    refine ⟨last, ?_, kept, ?_⟩
    · rw [run_cons, after]
      exact ran
    · calc level s + total work (event :: events)
          = level s + work event + total work events := (add_assoc _ _ _).symm
        _ ≤ level t + total work events := add_le_add_left raised _
        _ ≤ level last := further

/-- **Ranks**: every step lowers the rank by its work, unless something is taken in. -/
theorem checked_run_of_drain {α : Type*} [PartialOrder α] (taken : σ → α) (rank : σ → Nat)
    (work : ε → Nat)
    (step : ∀ s event, P s → enabled s event → ∃ t, exec s event = .ok t ∧ P t ∧
      taken s ≤ taken t ∧ (taken t = taken s → rank t ≤ rank s - work event))
    (start : P s) (valid : (checked exec enabled).Valid (.ok s) events) :
    ∃ t, (checked exec enabled).run (.ok s) events = .ok t ∧ P t ∧ taken s ≤ taken t ∧
      (taken t = taken s → rank t ≤ rank s - total work events) := by
  induction events generalizing s with
  | nil => exact ⟨s, rfl, start, le_refl _, fun _ => le_refl _⟩
  | cons event events ih =>
    obtain ⟨t, executed, good, grown, lowered⟩ := step s event start (valid.1 s rfl)
    have after : (checked exec enabled).next (.ok s) event = .ok t := executed
    have rest := valid.2
    rw [after] at rest
    obtain ⟨last, ran, kept, further, drained⟩ := ih good rest
    refine ⟨last, ?_, kept, grown.trans further, fun same => ?_⟩
    · rw [run_cons, after]
      exact ran
    · have still : taken t = taken s := le_antisymm (further.trans same.le) grown
      have here := lowered still
      have later := drained (same.trans still.symm)
      have both : total work (event :: events) = work event + total work events := rfl
      omega

end Library.Machine
