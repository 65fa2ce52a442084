/-
**History variables.**

What a proof has to remember of a run, and the steps do not read: it is recorded beside the state.

* `history` — what was recorded along a run.
* **`invariant_with_history`** — what every proper step keeps between the state and the history holds
  between the state that a run ends in and the history of the run. `valid_invariant_with_history`: the
  same for the steps that the environment may take. `checked_run_with_history`: if the two together
  rule faults out, no valid run faults.
-/

import EthUtilities.Library.Machine

namespace Library.Machine

variable {σ ε φ η : Type*} (exec : σ → ε → Except φ σ) (record : σ → ε → η → η)

/-- The history of a run; a fault ends it. -/
def history : σ → List ε → η → η
  | _, [], h => h
  | s, event :: events, h =>
    match exec s event with
    | .ok t => history t events (record s event h)
    | .error _ => h

variable {exec record} {s t : σ} {h : η} {event : ε} {events : List ε}

@[simp] theorem history_nil : history exec record s [] h = h := rfl

theorem history_cons (executed : exec s event = .ok t) :
    history exec record s (event :: events) h = history exec record t events (record s event h) := by
  rw [history, executed]

/-- The first step of a run that ends in a proper state is proper. -/
theorem checked_run_cons {enabled : σ → ε → Prop}
    (ran : (checked exec enabled).run (.ok s) (event :: events) = .ok t) :
    ∃ next, exec s event = .ok next ∧ (checked exec enabled).run (.ok next) events = .ok t := by
  have stuck : ∀ (fault : φ) (events : List ε),
      (checked exec enabled).run (.error fault) events = .error fault := fun fault events => by
    induction events with
    | nil => rfl
    | cons event events ih => exact ih
  rw [run_cons] at ran
  change (checked exec enabled).run (exec s event) events = .ok t at ran
  cases executed : exec s event with
  | ok next =>
    rw [executed] at ran
    exact ⟨next, rfl, ran⟩
  | error fault =>
    rw [executed, stuck] at ran
    cases ran

/-- **Invariants between a state and the history of the run that leads to it.** -/
theorem invariant_with_history {enabled : σ → ε → Prop} {P : σ → η → Prop}
    (step : ∀ s event t h, P s h → exec s event = .ok t → P t (record s event h)) (start : P s h)
    (ran : (checked exec enabled).run (.ok s) events = .ok t) :
    P t (history exec record s events h) := by
  induction events generalizing s h with
  | nil =>
    rw [history_nil, ← Except.ok.inj ran]
    exact start
  | cons event events ih =>
    obtain ⟨next, executed, rest⟩ := checked_run_cons ran
    rw [history_cons executed]
    exact ih (step s event next h start executed) rest

/-- **Invariants of valid runs.** -/
theorem valid_invariant_with_history {enabled : σ → ε → Prop} {P : σ → η → Prop}
    (step : ∀ s event t h, P s h → enabled s event → exec s event = .ok t → P t (record s event h))
    (start : P s h) (valid : (checked exec enabled).Valid (.ok s) events)
    (ran : (checked exec enabled).run (.ok s) events = .ok t) :
    P t (history exec record s events h) := by
  induction events generalizing s h with
  | nil =>
    rw [history_nil, ← Except.ok.inj ran]
    exact start
  | cons event events ih =>
    obtain ⟨next, executed, rest⟩ := checked_run_cons ran
    have after : (checked exec enabled).next (.ok s) event = .ok next := executed
    have later := valid.2
    rw [after] at later
    rw [history_cons executed]
    exact ih (step s event next h start (valid.1 s rfl) executed) later rest

/-- **Fault freedom with a history.** -/
theorem checked_run_with_history {enabled : σ → ε → Prop} {P : σ → η → Prop}
    (step : ∀ s event h, P s h → enabled s event →
      ∃ t, exec s event = .ok t ∧ P t (record s event h))
    (start : P s h) (valid : (checked exec enabled).Valid (.ok s) events) :
    ∃ t, (checked exec enabled).run (.ok s) events = .ok t ∧
      P t (history exec record s events h) := by
  induction events generalizing s h with
  | nil => exact ⟨s, rfl, start⟩
  | cons event events ih =>
    obtain ⟨next, executed, good⟩ := step s event h start (valid.1 s rfl)
    have after : (checked exec enabled).next (.ok s) event = .ok next := executed
    have rest := valid.2
    rw [after] at rest
    obtain ⟨last, ran, kept⟩ := ih good rest
    refine ⟨last, ?_, ?_⟩
    · rw [run_cons, after]
      exact ran
    · rw [history_cons executed]
      exact kept

end Library.Machine
