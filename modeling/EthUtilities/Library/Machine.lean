/-
**Event-driven machines and their runs.**

A machine has a state, the events its environment may deliver in it (`enabled`) and the state each
of them leads to (`next`). A run is a list of events.

* `Steps Q` / `States P` — every step of the run meets `Q`, every state it passes through meets `P`
  (the first and the last included). `Valid` is `Steps enabled`.
* `states_of_step` — the invariant rule: what one enabled step preserves holds along every valid
  run. `states_of_steps` is the same rule for the runs whose steps all meet a condition.
* **`states_iff_steps`** — when a step from a good state leads to a good state *exactly* if it meets
  `Q`, a valid run from a good state stays good exactly if all its steps meet `Q`.
  `states_iff_steps_of_invariant`: what is good may rest on an invariant;
  `states_iff_steps_of_stronger`: it may be kept by way of something stronger.
* `Machine.checked` — a machine whose steps may fault. `checked_run`: if an invariant rules faults
  out, every valid run ends in a proper state that satisfies it. `checked_invariant`: an invariant
  of the steps that do not fault.
-/

import Mathlib.Logic.Basic
import Mathlib.Data.List.Basic

namespace Library

/-- The events a system may be given and the state each of them leads to. -/
structure Machine (σ ε : Type*) where
  enabled : σ → ε → Prop
  next : σ → ε → σ

namespace Machine

variable {σ ε : Type*} (M : Machine σ ε)

/-- The state after a list of events. -/
def run (s : σ) (events : List ε) : σ := events.foldl M.next s

/-- Every step of the run meets `Q`, read in the state before the step. -/
def Steps (Q : σ → ε → Prop) : σ → List ε → Prop
  | _, [] => True
  | s, event :: events => Q s event ∧ Steps Q (M.next s event) events

/-- Every state the run passes through meets `P`. -/
def States (P : σ → Prop) : σ → List ε → Prop
  | s, [] => P s
  | s, event :: events => P s ∧ States P (M.next s event) events

/-- Every event of the run is enabled when it is delivered. -/
abbrev Valid (s : σ) (events : List ε) : Prop := M.Steps M.enabled s events

instance decidableSteps (Q : σ → ε → Prop) [∀ s event, Decidable (Q s event)] :
    ∀ s events, Decidable (M.Steps Q s events)
  | _, [] => .isTrue trivial
  | s, event :: events =>
    have := decidableSteps Q (M.next s event) events
    inferInstanceAs (Decidable (Q s event ∧ M.Steps Q (M.next s event) events))

/-! ### Composition of runs -/

@[simp] theorem run_nil (s : σ) : M.run s [] = s := rfl

@[simp] theorem run_cons (s : σ) (event : ε) (events : List ε) :
    M.run s (event :: events) = M.run (M.next s event) events := rfl

theorem run_append (s : σ) (first second : List ε) :
    M.run s (first ++ second) = M.run (M.run s first) second := List.foldl_append

variable {M}

theorem steps_append {Q : σ → ε → Prop} {s : σ} {first second : List ε} :
    M.Steps Q s (first ++ second) ↔ M.Steps Q s first ∧ M.Steps Q (M.run s first) second := by
  induction first generalizing s with
  | nil => exact (and_iff_right trivial).symm
  | cons event first ih => exact (and_congr_right fun _ => ih).trans and_assoc.symm

theorem Steps.mono {Q Q' : σ → ε → Prop} (weaker : ∀ s event, Q s event → Q' s event) {s : σ}
    {events : List ε} (meets : M.Steps Q s events) : M.Steps Q' s events := by
  induction events generalizing s with
  | nil => trivial
  | cons event events ih => exact ⟨weaker s event meets.1, ih meets.2⟩

theorem States.mono {P P' : σ → Prop} (weaker : ∀ s, P s → P' s) {s : σ} {events : List ε}
    (good : M.States P s events) : M.States P' s events := by
  induction events generalizing s with
  | nil => exact weaker s good
  | cons event events ih => exact ⟨weaker s good.1, ih good.2⟩

theorem States.and {P P' : σ → Prop} {s : σ} {events : List ε} (first : M.States P s events)
    (second : M.States P' s events) : M.States (fun s => P s ∧ P' s) s events := by
  induction events generalizing s with
  | nil => exact ⟨first, second⟩
  | cons event events ih => exact ⟨⟨first.1, second.1⟩, ih first.2 second.2⟩

theorem States.last {P : σ → Prop} {s : σ} {events : List ε} (good : M.States P s events) :
    P (M.run s events) := by
  induction events generalizing s with
  | nil => exact good
  | cons event events ih => exact ih good.2

variable (M)

/-! ### Invariants -/

/-- **The invariant rule for constrained runs.** -/
theorem states_of_steps {P : σ → Prop} {Q : σ → ε → Prop}
    (step : ∀ s event, P s → M.enabled s event → Q s event → P (M.next s event)) {s : σ}
    {events : List ε} (start : P s) (valid : M.Valid s events) (meets : M.Steps Q s events) :
    M.States P s events := by
  induction events generalizing s with
  | nil => exact start
  | cons event events ih =>
    exact ⟨start, ih (step s event start valid.1 meets.1) valid.2 meets.2⟩

/-- What every step from a good state does, the steps of a run do. -/
theorem steps_of_steps {G : σ → Prop} {Q R : σ → ε → Prop}
    (kept : ∀ s event, G s → M.enabled s event → Q s event → G (M.next s event))
    (does : ∀ s event, G s → M.enabled s event → Q s event → R s event) {s : σ}
    {events : List ε} (start : G s) (valid : M.Valid s events) (meets : M.Steps Q s events) :
    M.Steps R s events := by
  induction events generalizing s with
  | nil => trivial
  | cons event events ih =>
    exact ⟨does s event start valid.1 meets.1,
      ih (kept s event start valid.1 meets.1) valid.2 meets.2⟩

/-- **The invariant rule.** -/
theorem states_of_step {P : σ → Prop}
    (step : ∀ s event, P s → M.enabled s event → P (M.next s event)) {s : σ} {events : List ε}
    (start : P s) (valid : M.Valid s events) : M.States P s events :=
  M.states_of_steps (Q := M.enabled) (fun s event good enabled _ => step s event good enabled)
    start valid valid

/-- **Exactness.** If from a good state precisely the steps that meet `Q` lead to a good state, the
good runs are precisely those whose steps all meet `Q`. -/
theorem states_iff_steps {P : σ → Prop} {Q : σ → ε → Prop}
    (step : ∀ s event, P s → M.enabled s event → (P (M.next s event) ↔ Q s event)) {s : σ}
    {events : List ε} (start : P s) (valid : M.Valid s events) :
    M.States P s events ↔ M.Steps Q s events := by
  constructor
  · intro good
    induction events generalizing s with
    | nil => trivial
    | cons event events ih =>
      have here : P (M.next s event) := by
        cases events with
        | nil => exact good.2
        | cons _ _ => exact good.2.1
      exact ⟨(step s event start valid.1).mp here, ih here valid.2 good.2⟩
  · exact M.states_of_steps (fun s event good enabled => (step s event good enabled).mpr) start valid

/-- Exactness under an invariant. -/
theorem states_iff_steps_of_invariant {I P : σ → Prop} {Q : σ → ε → Prop}
    (invariant : ∀ s event, I s → M.enabled s event → I (M.next s event))
    (step : ∀ s event, I s → P s → M.enabled s event → (P (M.next s event) ↔ Q s event)) {s : σ}
    {events : List ε} (start : I s) (good : P s) (valid : M.Valid s events) :
    M.States P s events ↔ M.Steps Q s events := by
  have both : M.States (fun s => I s ∧ P s) s events ↔ M.Steps Q s events := by
    refine M.states_iff_steps (fun s event here enabled => ?_) ⟨start, good⟩ valid
    rw [and_iff_right (invariant s event here.1 enabled)]
    exact step s event here.1 here.2 enabled
  rw [← both]
  exact ⟨fun states => (M.states_of_step invariant start valid).and states,
    fun states => states.mono fun _ here => here.2⟩

/-- Exactness for a property that is kept by way of a stronger one: `P` may hold in states that are
not good, but no step that misses `Q` leads from a good state to one where it does. -/
theorem states_iff_steps_of_stronger {G P : σ → Prop} {Q : σ → ε → Prop}
    (weaker : ∀ s, G s → P s)
    (kept : ∀ s event, G s → M.enabled s event → Q s event → G (M.next s event))
    (missed : ∀ s event, G s → M.enabled s event → P (M.next s event) → Q s event) {s : σ}
    {events : List ε} (start : G s) (valid : M.Valid s events) :
    M.States P s events ↔ M.Steps Q s events := by
  constructor
  · intro states
    induction events generalizing s with
    | nil => trivial
    | cons event events ih =>
      have here : P (M.next s event) := by
        cases events with
        | nil => exact states.2
        | cons _ _ => exact states.2.1
      have meets := missed s event start valid.1 here
      exact ⟨meets, ih (kept s event start valid.1 meets) valid.2 states.2⟩
  · intro steps
    exact (M.states_of_steps kept start valid steps).mono weaker

/-! ### Machines whose steps may fault -/

section Checked

variable {φ : Type*} (exec : σ → ε → Except φ σ) (enabled : σ → ε → Prop)

/-- Two steps that end properly. -/
theorem bind_eq_ok_iff {α β : Type*} {first : Except φ α} {next : α → Except φ β} {b : β} :
    first.bind next = .ok b ↔ ∃ a, first = .ok a ∧ next a = .ok b := by
  constructor
  · intro ran
    cases first with
    | error fault => cases ran
    | ok a => exact ⟨a, rfl, ran⟩
  · rintro ⟨a, rfl, ran⟩
    exact ran

/-- The machine of a step function that may fault: a fault ends the run. -/
def checked : Machine (Except φ σ) ε where
  enabled state event := ∀ s, state = .ok s → enabled s event
  next state event := state.bind fun s => exec s event

instance decidableEnabled [∀ s event, Decidable (enabled s event)] :
    ∀ state event, Decidable ((checked exec enabled).enabled state event)
  | .ok s, event => decidable_of_iff (enabled s event)
      ⟨fun here _ same => Except.ok.inj same ▸ here, fun always => always s rfl⟩
  | .error _, _ => .isTrue fun _ impossible => nomatch impossible

/-- **Fault freedom for constrained runs.** An invariant under which no enabled step on an event that
meets `Q` faults, and which every such step keeps, holds in the state that a valid run of such events
ends in. -/
theorem checked_run_of_forall {P : σ → Prop} {Q : ε → Prop}
    (step : ∀ s event, P s → enabled s event → Q event → ∃ t, exec s event = .ok t ∧ P t) {s : σ}
    {events : List ε} (start : P s) (valid : (checked exec enabled).Valid (.ok s) events)
    (meets : ∀ event ∈ events, Q event) :
    ∃ t, (checked exec enabled).run (.ok s) events = .ok t ∧ P t := by
  induction events generalizing s with
  | nil => exact ⟨s, rfl, start⟩
  | cons event events ih =>
    obtain ⟨t, executed, good⟩ :=
      step s event start (valid.1 s rfl) (meets event List.mem_cons_self)
    have after : (checked exec enabled).next (.ok s) event = .ok t := executed
    have rest := valid.2
    rw [after] at rest
    obtain ⟨last, ran, kept⟩ :=
      ih good rest fun other member => meets other (List.mem_cons_of_mem _ member)
    refine ⟨last, ?_, kept⟩
    rw [run_cons, after]
    exact ran

/-- **Fault freedom.** An invariant under which no enabled step faults, and which every enabled
step keeps, holds in the state that any valid run ends in; no valid run faults. -/
theorem checked_run {P : σ → Prop}
    (step : ∀ s event, P s → enabled s event → ∃ t, exec s event = .ok t ∧ P t) {s : σ}
    {events : List ε} (start : P s) (valid : (checked exec enabled).Valid (.ok s) events) :
    ∃ t, (checked exec enabled).run (.ok s) events = .ok t ∧ P t :=
  checked_run_of_forall exec enabled (Q := fun _ => True)
    (fun s event good here _ => step s event good here) start valid fun _ _ => trivial

/-- **Invariants of machines that may fault**: what every step that does not fault keeps holds in
every proper state that a run ends in. -/
theorem checked_invariant {P : σ → Prop}
    (step : ∀ s event t, P s → exec s event = .ok t → P t) {s t : σ} {events : List ε} (start : P s)
    (ran : (checked exec enabled).run (.ok s) events = .ok t) : P t := by
  have stuck : ∀ (fault : φ) (events : List ε),
      (checked exec enabled).run (.error fault) events = .error fault := fun fault events => by
    induction events with
    | nil => rfl
    | cons event events ih => exact ih
  induction events generalizing s with
  | nil => exact Except.ok.inj ran ▸ start
  | cons event events ih =>
    rw [run_cons] at ran
    cases executed : exec s event with
    | ok t' =>
      have after : (checked exec enabled).next (.ok s) event = .ok t' := executed
      rw [after] at ran
      exact ih (step s event t' start executed) ran
    | error fault =>
      have after : (checked exec enabled).next (.ok s) event = .error fault := executed
      rw [after, stuck] at ran
      cases ran

end Checked

end Machine

end Library
