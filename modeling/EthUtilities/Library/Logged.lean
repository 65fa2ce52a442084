/-
**Computations that log what they do.**

* `Logged Event Fault α` — a computation that ends with a result and the events it logged on the way,
  or with a fault. `log` is one event, `lift` a step that logs nothing.
* `Returns step log a` — how a computation ended. `Returns.bind` composes two steps, and
  `returns_bind_iff` takes them apart again.
* `result` — the computation without its log; with the lemmas about it, `simp` erases the log of a
  program that is written in `do`-notation.
-/

import Mathlib.Data.List.Basic

namespace Library

/-- A computation that logs events. -/
def Logged (Event Fault α : Type) : Type := Except Fault (List Event × α)

namespace Logged

variable {Event Fault α β : Type}

instance : Monad (Logged Event Fault) where
  pure a := Except.ok ([], a)
  bind step next := Except.bind step fun (first, a) =>
    Except.map (fun (second, b) => (first ++ second, b)) (next a)

/-- One event. -/
def log (event : Event) : Logged Event Fault Unit := Except.ok ([event], ())

/-- A step that ends the computation. -/
def fault (fault : Fault) : Logged Event Fault α := Except.error fault

/-- A step that logs nothing. -/
def lift (step : Except Fault α) : Logged Event Fault α := step.map ([], ·)

/-- The computation ended with this log and this result. -/
def Returns (step : Logged Event Fault α) (log : List Event) (a : α) : Prop :=
  step = Except.ok (log, a)

/-- The computation without its log. -/
def result (step : Logged Event Fault α) : Except Fault α := step.map Prod.snd

section Returns

variable {step : Logged Event Fault α} {next : α → Logged Event Fault β} {first second : List Event}
  {a a' : α} {b : β}

theorem returns_pure : (pure a : Logged Event Fault α).Returns [] a := rfl

@[simp] theorem returns_pure_iff : (pure a : Logged Event Fault α).Returns first a' ↔
    first = [] ∧ a = a' := by
  show (Except.ok ([], a) : Except Fault _) = Except.ok (first, a') ↔ _
  rw [Except.ok.injEq, Prod.mk.injEq, @eq_comm _ []]

@[simp] theorem returns_log_iff {event : Event} {done : Unit} :
    (log event : Logged Event Fault Unit).Returns first done ↔ first = [event] := by
  show (Except.ok ([event], ()) : Except Fault _) = Except.ok (first, done) ↔ _
  simp [eq_comm]

@[simp] theorem not_returns_fault {ended : Fault} :
    ¬ (fault ended : Logged Event Fault α).Returns first a := by
  rintro ⟨⟩

@[simp] theorem returns_lift_iff {step : Except Fault α} :
    (lift step : Logged Event Fault α).Returns first a ↔ first = [] ∧ step = .ok a := by
  cases step with
  | error ended => exact iff_of_false not_returns_fault (by simp)
  | ok value =>
    rw [Except.ok.injEq]
    exact returns_pure_iff

theorem Returns.bind (ran : step.Returns first a) (continued : (next a).Returns second b) :
    (step >>= next).Returns (first ++ second) b := by
  rw [Returns] at ran continued
  subst ran
  show Except.map _ (next a) = _
  rw [continued]
  rfl

theorem returns_bind_iff {whole : List Event} : (step >>= next).Returns whole b ↔
    ∃ first a second, step.Returns first a ∧ (next a).Returns second b ∧ whole = first ++ second := by
  constructor
  · intro ran
    cases step with
    | error ended => cases ran
    | ok first =>
      have continued : Except.map (fun second => (first.1 ++ second.1, second.2)) (next first.2) =
        Except.ok (whole, b) := ran
      cases rest : next first.2 with
      | error ended =>
        rw [rest] at continued
        cases continued
      | ok second =>
        rw [rest] at continued
        obtain ⟨rfl, rfl⟩ := Prod.mk.inj (Except.ok.inj continued)
        exact ⟨first.1, first.2, second.1, rfl, rest, rfl⟩
  · rintro ⟨first, a, second, ran, continued, rfl⟩
    exact ran.bind continued

theorem returns_ite_iff {condition : Prop} [Decidable condition] {other : Logged Event Fault α} :
    (if condition then step else other).Returns first a ↔
      if condition then step.Returns first a else other.Returns first a := by
  split <;> rfl

end Returns

/-! ### Without the log -/

section Result

variable {step : Logged Event Fault α} {next : α → Logged Event Fault β} {a : α}

@[simp] theorem result_pure : (pure a : Logged Event Fault α).result = .ok a := rfl

@[simp] theorem result_log {event : Event} : (log event : Logged Event Fault Unit).result = .ok () :=
  rfl

@[simp] theorem result_fault {ended : Fault} :
    (fault ended : Logged Event Fault α).result = .error ended := rfl

@[simp] theorem result_lift {step : Except Fault α} :
    (lift step : Logged Event Fault α).result = step := by
  cases step <;> rfl

@[simp] theorem result_bind :
    (step >>= next).result = step.result.bind fun a => (next a).result := by
  cases step with
  | error ended => rfl
  | ok first =>
    show Except.map Prod.snd (Except.map _ (next first.2)) = (next first.2).result
    unfold result
    cases next first.2 <;> rfl

@[simp] theorem result_ite {condition : Prop} [Decidable condition] {other : Logged Event Fault α} :
    (if condition then step else other).result =
      if condition then step.result else other.result := by
  split <;> rfl

theorem exists_returns (ended : step.result = .ok a) : ∃ events, step.Returns events a := by
  cases step with
  | error fault => cases ended
  | ok first => exact ⟨first.1, congrArg (fun b => Except.ok (first.1, b)) (Except.ok.inj ended)⟩

end Result

end Logged

end Library
