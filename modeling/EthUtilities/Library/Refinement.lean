/-
**Systems that answer, and their simulation by a specification.**

An implementation is a step function that answers every event and may fault; a specification is a
step function that answers and does not.

* `answers`, `expected` — the answers to a list of events, and the state after them. `answers_run`:
  without the answers, it is the run of a machine.
* `Admissible` — every event of the run is one that the environment may deliver then.
* **`answers_of_simulation`** — a relation that every admissible step keeps, with equal answers,
  gives whole runs without a fault, with the answers that the specification expects.
* `readings`, **`expected_of_readings`** — the same for an implementation that does not fault, and
  that reads its events in its state: the specification is given what it reads.
* `recorded` — a history of the events and their answers. **`answers_invariant`** — what every step
  keeps between the state and the history holds after a run.
* `Agree` — two computations that both end properly, with related results, or both fault, with related
  faults. **`Agree.answers`** — simulation by a specification that faults when the implementation does.
-/

import EthUtilities.Library.Machine

namespace Library.Refinement

variable {σ τ ε ω φ : Type*}

/-- The answers of the implementation to a list of events, and its state after them. -/
def answers (exec : σ → ε → Except φ (σ × ω)) : σ → List ε → Except φ (List ω × σ)
  | s, [] => .ok ([], s)
  | s, event :: events => do
    let (t, answer) ← exec s event
    let (rest, last) ← answers exec t events
    return (answer :: rest, last)

/-- The answers of the specification, and its state. -/
def expected (spec : τ → ε → τ × ω) : τ → List ε → List ω × τ
  | t, [] => ([], t)
  | t, event :: events =>
    let rest := expected spec (spec t event).1 events
    ((spec t event).2 :: rest.1, rest.2)

/-- Every event may be delivered in the state it meets. -/
def Admissible (exec : σ → ε → Except φ (σ × ω)) (enabled : σ → ε → Prop) : σ → List ε → Prop
  | _, [] => True
  | s, event :: events =>
    enabled s event ∧ ∀ t answer, exec s event = .ok (t, answer) → Admissible exec enabled t events

variable {exec : σ → ε → Except φ (σ × ω)} {enabled : σ → ε → Prop} {spec : τ → ε → τ × ω}
  {R : σ → τ → Prop}

/-- A run whose first step is known. -/
theorem Admissible.cons {s t : σ} {event : ε} {answer : ω} {events : List ε}
    (ready : enabled s event) (executed : exec s event = .ok (t, answer))
    (rest : Admissible exec enabled t events) : Admissible exec enabled s (event :: events) := by
  refine ⟨ready, fun next other again => ?_⟩
  obtain ⟨rfl, rfl⟩ := Prod.mk.inj (Except.ok.inj (executed.symm.trans again))
  exact rest

/-- What may always be delivered may be delivered in a run. -/
theorem admissible_of_forall {proper : ε → Prop} {s : σ} {events : List ε}
    (always : ∀ event ∈ events, proper event) :
    Admissible exec (fun _ => proper) s events := by
  induction events generalizing s with
  | nil => trivial
  | cons event events ih =>
    exact ⟨always event List.mem_cons_self, fun _ _ _ =>
      ih fun other inside => always other (List.mem_cons_of_mem _ inside)⟩

/-- **Simulation.** -/
theorem answers_of_simulation
    (step : ∀ s t event, R s t → enabled s event →
      ∃ s', exec s event = .ok (s', (spec t event).2) ∧ R s' (spec t event).1)
    {s : σ} {t : τ} {events : List ε} (start : R s t)
    (admissible : Admissible exec enabled s events) :
    ∃ s', answers exec s events = .ok ((expected spec t events).1, s') ∧
      R s' (expected spec t events).2 := by
  induction events generalizing s t with
  | nil => exact ⟨s, rfl, start⟩
  | cons event events ih =>
    obtain ⟨next, executed, related⟩ := step s t event start admissible.1
    obtain ⟨last, answered, kept⟩ := ih related (admissible.2 next _ executed)
    refine ⟨last, ?_, kept⟩
    unfold answers
    rw [executed]
    dsimp only [bind, Except.bind]
    rw [answered]
    rfl

/-! ### Machines without answers -/

section Machines

variable (step : σ → ε → Except φ σ)

theorem run_error (fault : φ) (events : List ε) :
    (Machine.checked step enabled).run (.error fault) events = .error fault := by
  induction events with
  | nil => rfl
  | cons event events ih => exact ih

variable {step}

/-- **The state after the answers** is the one after the run of the machine. -/
theorem answers_run (same : ∀ s event, (exec s event).map Prod.fst = step s event) (s : σ)
    (events : List ε) :
    (answers exec s events).map Prod.snd = (Machine.checked step enabled).run (.ok s) events := by
  induction events generalizing s with
  | nil => rfl
  | cons event events ih =>
    have after : (Machine.checked step enabled).next (.ok s) event =
      (exec s event).map Prod.fst := (same s event).symm
    rw [Machine.run_cons, after, answers]
    cases exec s event with
    | error fault => exact (run_error step fault events).symm
    | ok pair =>
      refine Eq.trans ?_ (ih pair.1)
      show ((answers exec pair.1 events).bind _).map Prod.snd = _
      cases answers exec pair.1 events with
      | error fault => rfl
      | ok rest => rfl

end Machines

/-! ### Histories -/

section Histories

variable {η : Type*} (record : η → ε → ω → η)

/-- What is recorded of some events and their answers. -/
def recorded : η → List ε → List ω → η
  | h, event :: events, answer :: outputs => recorded (record h event answer) events outputs
  | h, _, _ => h

variable {record}

/-- The first step of a run. -/
theorem answers_cons {s last : σ} {event : ε} {events : List ε} {outputs : List ω}
    (ran : answers exec s (event :: events) = .ok (outputs, last)) :
    ∃ t answer rest, exec s event = .ok (t, answer) ∧ answers exec t events = .ok (rest, last) ∧
      outputs = answer :: rest := by
  unfold answers at ran
  cases executed : exec s event with
  | error fault =>
    rw [executed] at ran
    cases ran
  | ok pair =>
    rw [executed] at ran
    dsimp only [bind, Except.bind] at ran
    cases later : answers exec pair.1 events with
    | error fault =>
      rw [later] at ran
      cases ran
    | ok rest =>
      rw [later] at ran
      obtain ⟨rfl, rfl⟩ := Prod.mk.inj (Except.ok.inj ran)
      exact ⟨_, _, _, rfl, later, rfl⟩

/-- **Invariants between a state and what was recorded.** -/
theorem answers_invariant {P : σ → η → Prop} {s last : σ} {events : List ε} {outputs : List ω}
    {h : η} (step : ∀ s t event answer h, P s h → exec s event = .ok (t, answer) →
      P t (record h event answer)) (start : P s h)
    (ran : answers exec s events = .ok (outputs, last)) : P last (recorded record h events outputs) := by
  induction events generalizing s h outputs with
  | nil =>
    obtain ⟨rfl, rfl⟩ := Prod.mk.inj (Except.ok.inj ran)
    exact start
  | cons event events ih =>
    obtain ⟨t, answer, rest, executed, later, rfl⟩ := answers_cons ran
    exact ih (step s t event answer h start executed) later

/-- The same with what can be computed from the events alone. -/
theorem answers_invariant_foldl {κ : Type*} {next : κ → ε → κ} {P : σ → η → κ → Prop} {s last : σ}
    {events : List ε} {outputs : List ω} {h : η} {k : κ}
    (step : ∀ s t event answer h k, P s h k → exec s event = .ok (t, answer) →
      P t (record h event answer) (next k event)) (start : P s h k)
    (ran : answers exec s events = .ok (outputs, last)) :
    P last (recorded record h events outputs) (events.foldl next k) := by
  induction events generalizing s h k outputs with
  | nil =>
    obtain ⟨rfl, rfl⟩ := Prod.mk.inj (Except.ok.inj ran)
    exact start
  | cons event events ih =>
    obtain ⟨t, answer, rest, executed, later, rfl⟩ := answers_cons ran
    exact ih (step s t event answer h k start executed) later

end Histories

/-! ### Events that are read in a state -/

section Readings

variable {ε' : Type*} (impl : σ → ε → σ × ω) (reading : σ → ε → ε')

/-- The events of a run, as the implementation reads them. -/
def readings : σ → List ε → List ε'
  | _, [] => []
  | s, event :: events => reading s event :: readings (impl s event).1 events

variable {impl reading} {spec' : τ → ε' → τ × ω}

/-- **Simulation by what is read.** -/
theorem expected_of_readings
    (step : ∀ s t event, R s t →
      (impl s event).2 = (spec' t (reading s event)).2 ∧
        R (impl s event).1 (spec' t (reading s event)).1)
    {s : σ} {t : τ} (start : R s t) (events : List ε) :
    (expected impl s events).1 = (expected spec' t (readings impl reading s events)).1 ∧
      R (expected impl s events).2 (expected spec' t (readings impl reading s events)).2 := by
  induction events generalizing s t with
  | nil => exact ⟨rfl, start⟩
  | cons event events ih =>
    obtain ⟨answer, related⟩ := step s t event start
    obtain ⟨answers, last⟩ := ih related
    exact ⟨congrArg₂ List.cons answer answers, last⟩

end Readings

/-! ### Specifications that fault -/

section Agree

variable {ψ α β γ δ : Type*}

/-- Both end properly, or both fault. -/
inductive Agree (F : φ → ψ → Prop) (R : α → β → Prop) : Except φ α → Except ψ β → Prop
  | ok {a : α} {b : β} (related : R a b) : Agree F R (.ok a) (.ok b)
  | error {f : φ} {g : ψ} (related : F f g) : Agree F R (.error f) (.error g)

variable {F : φ → ψ → Prop} {S : α → β → Prop} {T : γ → δ → Prop} {x : Except φ α}
  {y : Except ψ β}

/-- Computations that agree step by step. -/
theorem Agree.bind {f : α → Except φ γ} {g : β → Except ψ δ} (first : Agree F S x y)
    (next : ∀ a b, S a b → Agree F T (f a) (g b)) : Agree F T (x.bind f) (y.bind g) := by
  cases first with
  | ok related => exact next _ _ related
  | error related => exact .error related

/-- What is known of the results of one of them. -/
theorem Agree.and_left {P : α → Prop} (agree : Agree F S x y) (known : ∀ a, x = .ok a → P a) :
    Agree F (fun a b => S a b ∧ P a) x y := by
  cases agree with
  | ok related => exact .ok ⟨related, known _ rfl⟩
  | error related => exact .error related

/-- What the specification does is known from what the implementation does. -/
theorem Agree.of_ok {a : α} (agree : Agree F S (.ok a) y) : ∃ b, y = .ok b ∧ S a b := by
  cases agree with
  | ok related => exact ⟨_, rfl, related⟩

/-- **Simulation by a specification that faults.** -/
theorem Agree.answers {spec : τ → ε → Except ψ (τ × ω)}
    (step : ∀ s t event, R s t →
      Agree F (fun a b => R a.1 b.1 ∧ a.2 = b.2) (exec s event) (spec t event))
    {s : σ} {t : τ} (start : R s t) (events : List ε) :
    Agree F (fun a b => a.1 = b.1 ∧ R a.2 b.2) (answers exec s events)
      (Refinement.answers spec t events) := by
  induction events generalizing s t with
  | nil => exact .ok ⟨rfl, start⟩
  | cons event events ih =>
    refine (step s t event start).bind fun a b ⟨related, same⟩ => (ih related).bind fun c d later => ?_
    exact .ok ⟨congrArg₂ List.cons same later.1, later.2⟩

end Agree

end Library.Refinement
