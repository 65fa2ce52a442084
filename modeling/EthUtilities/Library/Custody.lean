/-
**Resources that are held by owners.**

A table says for each resource who holds it. `holdings` is the other direction: what an owner holds.

* `holdings_acquire`, `holdings_release` — taking a free resource and giving one back change the
  holdings of one owner.
-/

import Mathlib.Data.Set.Insert

namespace Library.Custody

variable {ρ κ : Type*} [DecidableEq ρ] [DecidableEq κ]

/-- What an owner holds. -/
def holdings (table : ρ → Option κ) (owner : κ) : Set ρ := { r | table r = some owner }

variable {table : ρ → Option κ} {r : ρ} {owner : κ}

/-- **A free resource is taken.** -/
theorem holdings_acquire (free : table r = none) (owner : κ) :
    holdings (Function.update table r (some owner)) =
      Function.update (holdings table) owner (insert r (holdings table owner)) := by
  funext other
  ext q
  show Function.update table r (some owner) q = some other ↔ _
  by_cases same : other = owner
  · subst same
    rw [Function.update_self, Set.mem_insert_iff]
    by_cases here : q = r
    · simp [here]
    · rw [Function.update_of_ne here]
      exact ⟨.inr, fun held => held.resolve_left here⟩
  · rw [Function.update_of_ne same]
    by_cases here : q = r
    · subst here
      rw [Function.update_self]
      refine ⟨fun taken => absurd (Option.some.inj taken).symm same, fun held => ?_⟩
      exact absurd (free.symm.trans held) (Option.some_ne_none other).symm
    · rw [Function.update_of_ne here]
      exact Iff.rfl

/-- **A resource is given back.** -/
theorem holdings_release (held : r ∈ holdings table owner) :
    holdings (Function.update table r none) =
      Function.update (holdings table) owner (holdings table owner \ {r}) := by
  funext other
  ext q
  show Function.update table r none q = some other ↔ _
  by_cases here : q = r
  · subst here
    rw [Function.update_self]
    refine ⟨fun none => absurd none.symm (Option.some_ne_none other), fun still => ?_⟩
    by_cases same : other = owner
    · subst same
      rw [Function.update_self] at still
      exact absurd rfl still.2
    · rw [Function.update_of_ne same] at still
      exact absurd (Option.some.inj (Eq.trans (Eq.symm held) still)).symm same
  · rw [Function.update_of_ne here]
    by_cases same : other = owner
    · subst same
      rw [Function.update_self]
      exact ⟨fun still => ⟨still, here⟩, fun still => still.1⟩
    · rw [Function.update_of_ne same]
      exact Iff.rfl

end Library.Custody
