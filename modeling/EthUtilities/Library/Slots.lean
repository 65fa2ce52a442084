/-
**A row of slots that each hold a key or are vacant.**

The first `n` places of an array hold keys; one value of the keys, `vacant`, marks a free slot. This
is a lease table, a connection pool or a cache of fixed size, searched from the front.

* `find` — the first slot with a key. `find_eq_some_iff`, `find_eq_none_iff`.
* `Exclusive` — no key is in two slots. `Exclusive.find_iff`: then a key is found exactly where it
  is.
* `release` — free the first slot with a key; `occupy` — put a key into a slot. Both keep
  `Exclusive` (`Exclusive.release`, `Exclusive.occupy`); after `release` an exclusive row does not
  hold the key any more (`Exclusive.released`), and other keys stay where they are
  (`release_of_other`).
* `Distinct` — rows without vacancies: `Distinct.append`, `Distinct.remove`, and what is found after
  a key was appended.
-/

import Mathlib.Logic.Function.Basic
import Mathlib.Data.List.Basic

namespace Library.Slots

variable {κ : Type*} [DecidableEq κ]

/-- The first slot with a property. -/
def search (n : Nat) (test : Nat → Bool) : Option Nat := (List.range n).find? test

/-- The first slot with the key. -/
def find (n : Nat) (slots : Nat → κ) (key : κ) : Option Nat := search n fun i => slots i = key

/-- Free the first slot with the key. -/
def release (vacant : κ) (n : Nat) (slots : Nat → κ) (key : κ) : Nat → κ :=
  match find n slots key with
  | some i => Function.update slots i vacant
  | none => slots

def occupy (slots : Nat → κ) (i : Nat) (key : κ) : Nat → κ := Function.update slots i key

/-- No key is in two slots. -/
def Exclusive (vacant : κ) (n : Nat) (slots : Nat → κ) : Prop :=
  ∀ i < n, ∀ j < n, slots i = slots j → slots i ≠ vacant → i = j

variable {vacant key other : κ} {n i : Nat} {slots : Nat → κ} {test : Nat → Bool}

/-! ### Searching -/

theorem search_eq_some_iff :
    search n test = some i ↔ i < n ∧ test i = true ∧ ∀ j < i, test j = false := by
  rw [search, List.find?_range_eq_some, List.mem_range]
  constructor
  · rintro ⟨holds, inside, first⟩
    exact ⟨inside, holds, fun j before => by simpa using first j before⟩
  · rintro ⟨inside, holds, first⟩
    exact ⟨holds, inside, fun j before => by simpa using first j before⟩

theorem search_eq_none_iff : search n test = none ↔ ∀ i < n, test i = false := by
  rw [search, List.find?_range_eq_none]
  exact forall₂_congr fun i _ => by simp

/-- A search succeeds if some slot meets the condition. -/
theorem search_isSome (inside : i < n) (holds : test i = true) : ∃ j, search n test = some j := by
  cases found : search n test with
  | some j => exact ⟨j, rfl⟩
  | none => exact absurd (search_eq_none_iff.mp found i inside) (by rw [holds]; decide)

theorem find_eq_some_iff :
    find n slots key = some i ↔ i < n ∧ slots i = key ∧ ∀ j < i, slots j ≠ key := by
  rw [find, search_eq_some_iff]
  simp only [decide_eq_true_eq, decide_eq_false_iff_not, ne_eq]

theorem find_eq_none_iff : find n slots key = none ↔ ∀ i < n, slots i ≠ key := by
  rw [find, search_eq_none_iff]
  simp only [decide_eq_false_iff_not, ne_eq]

theorem find_lt (found : find n slots key = some i) : i < n := (find_eq_some_iff.mp found).1

theorem slot_of_find (found : find n slots key = some i) : slots i = key :=
  (find_eq_some_iff.mp found).2.1

/-- A key that is in one slot only is found there. -/
theorem find_of_unique (inside : i < n) (here : slots i = key)
    (unique : ∀ j < n, slots j = key → j = i) : find n slots key = some i := by
  refine find_eq_some_iff.mpr ⟨inside, here, fun j before same => ?_⟩
  have twice := unique j (by omega) same
  omega

/-- **A key of an exclusive row is found exactly where it is.** -/
theorem Exclusive.find_iff (exclusive : Exclusive vacant n slots) (proper : key ≠ vacant) :
    find n slots key = some i ↔ i < n ∧ slots i = key := by
  refine ⟨fun found => ⟨find_lt found, slot_of_find found⟩, fun ⟨inside, here⟩ => ?_⟩
  exact find_of_unique inside here fun j inside' there =>
    exclusive j inside' i inside (there.trans here.symm) (there ▸ proper)

/-! ### Releasing -/

theorem release_of_find (found : find n slots key = some i) :
    release vacant n slots key = Function.update slots i vacant := by
  rw [release, found]

theorem release_of_absent (absent : find n slots key = none) :
    release vacant n slots key = slots := by
  rw [release, absent]

/-- Other keys stay where they are. -/
theorem release_of_other (different : slots i ≠ key) :
    release vacant n slots key i = slots i := by
  cases found : find n slots key with
  | none => rw [release_of_absent found]
  | some j =>
    rw [release_of_find found, Function.update_of_ne]
    rintro rfl
    exact different (slot_of_find found)

/-- A slot that holds something after a release held it before. -/
theorem slot_of_release (holds : release vacant n slots key i ≠ vacant) :
    release vacant n slots key i = slots i := by
  cases found : find n slots key with
  | none => rw [release_of_absent found]
  | some j =>
    rw [release_of_find found] at holds ⊢
    by_cases here : i = j
    · rw [here, Function.update_self] at holds
      exact absurd rfl holds
    · rw [Function.update_of_ne here]

/-- A slot is vacant after a release if it was, or if it is the one that was freed. -/
theorem release_eq_vacant_iff :
    release vacant n slots key i = vacant ↔ slots i = vacant ∨ find n slots key = some i := by
  cases found : find n slots key with
  | none =>
    rw [release_of_absent found]
    simp only [reduceCtorEq, or_false]
  | some j =>
    rw [release_of_find found]
    by_cases here : i = j
    · rw [here, Function.update_self]
      exact iff_of_true rfl (.inr rfl)
    · rw [Function.update_of_ne here, Option.some.injEq]
      exact (or_iff_left fun same => here same.symm).symm

/-- Releasing changes something exactly if a proper key is there. -/
theorem release_eq_self_iff :
    release vacant n slots key = slots ↔ key = vacant ∨ find n slots key = none := by
  cases found : find n slots key with
  | none => exact iff_of_true (release_of_absent found) (.inr rfl)
  | some j =>
    rw [release_of_find found]
    constructor
    · intro same
      have freed := congrFun same j
      rw [Function.update_self, slot_of_find found] at freed
      exact .inl freed.symm
    · rintro (rfl | impossible)
      · rw [← slot_of_find found, Function.update_eq_self]
      · cases impossible

theorem Exclusive.release (exclusive : Exclusive vacant n slots) :
    Exclusive vacant n (release vacant n slots key) := by
  intro i inside j inside' same proper
  have kept := slot_of_release proper
  have kept' := slot_of_release (i := j) (same ▸ proper)
  rw [kept, kept'] at same
  rw [kept] at proper
  exact exclusive i inside j inside' same proper

/-- **A released key is gone from an exclusive row.** -/
theorem Exclusive.released (exclusive : Exclusive vacant n slots) (proper : key ≠ vacant)
    (inside : i < n) : Slots.release vacant n slots key i ≠ key := by
  intro still
  have kept : Slots.release vacant n slots key i = slots i :=
    slot_of_release (still.symm ▸ proper)
  have found := (exclusive.find_iff proper).mpr ⟨inside, kept.symm.trans still⟩
  rw [release_of_find found, Function.update_self] at still
  exact proper still.symm

/-! ### Occupying -/

omit [DecidableEq κ] in
theorem Exclusive.occupy (exclusive : Exclusive vacant n slots)
    (absent : key ≠ vacant → ∀ j < n, slots j ≠ key) :
    Exclusive vacant n (occupy slots i key) := by
  intro j inside k inside' same proper
  by_cases first : j = i <;> by_cases second : k = i
  · rw [first, second]
  · rw [first, Slots.occupy, Function.update_self] at same proper
    rw [Function.update_of_ne second] at same
    exact absurd same.symm (absent proper k inside')
  · rw [Slots.occupy, Function.update_of_ne first] at same proper
    rw [second, Function.update_self] at same
    exact absurd same (absent (same ▸ proper) j inside)
  · rw [Slots.occupy, Function.update_of_ne first, Function.update_of_ne second] at same
    rw [Slots.occupy, Function.update_of_ne first] at proper
    exact exclusive j inside k inside' same proper

/-! ### Rows without vacancies -/

/-- No key is twice among the first `n` slots. -/
def Distinct (n : Nat) (slots : Nat → κ) : Prop := ∀ i < n, ∀ j < n, slots i = slots j → i = j

/-- Slot `i` is taken out, and the slots behind it move one place to the front. -/
def remove {α : Type*} (n : Nat) (slots : Nat → α) (i : Nat) : Nat → α := fun j =>
  if i ≤ j ∧ j < n - 1 then slots (j + 1) else slots j

theorem Distinct.find_iff (distinct : Distinct n slots) :
    find n slots key = some i ↔ i < n ∧ slots i = key := by
  refine ⟨fun found => ⟨find_lt found, slot_of_find found⟩, fun ⟨inside, here⟩ => ?_⟩
  exact find_of_unique inside here fun j inside' there =>
    distinct j inside' i inside (there.trans here.symm)

/-- A new key goes behind the others. -/
theorem Distinct.append (distinct : Distinct n slots) (fresh : find n slots key = none) :
    Distinct (n + 1) (Function.update slots n key) := by
  have absent := find_eq_none_iff.mp fresh
  intro i inside j inside' same
  by_cases first : i = n <;> by_cases second : j = n
  · rw [first, second]
  · rw [first, Function.update_self, Function.update_of_ne second] at same
    exact absurd same.symm (absent j (by omega))
  · rw [second, Function.update_self, Function.update_of_ne first] at same
    exact absurd same (absent i (by omega))
  · rw [Function.update_of_ne first, Function.update_of_ne second] at same
    exact distinct i (by omega) j (by omega) same

theorem find_append_self (fresh : find n slots key = none) :
    find (n + 1) (Function.update slots n key) key = some n := by
  have absent := find_eq_none_iff.mp fresh
  refine find_of_unique (Nat.lt_succ_self n) (Function.update_self n key slots) fun j inside same => ?_
  by_contra other
  rw [Function.update_of_ne other] at same
  exact absent j (by omega) same

theorem find_append_other (different : other ≠ key) :
    find (n + 1) (Function.update slots n key) other = find n slots other := by
  have last : Function.update slots n key n ≠ other := by
    rw [Function.update_self]
    exact different.symm
  refine Option.ext fun i => ?_
  rw [find_eq_some_iff, find_eq_some_iff]
  constructor
  · rintro ⟨inside, here, first⟩
    have before : i ≠ n := by
      rintro rfl
      exact last here
    rw [Function.update_of_ne before] at here
    refine ⟨by omega, here, fun j earlier => ?_⟩
    have kept := first j earlier
    rwa [Function.update_of_ne (by omega)] at kept
  · rintro ⟨inside, here, first⟩
    refine ⟨by omega, by rw [Function.update_of_ne (by omega), here], fun j earlier => ?_⟩
    rw [Function.update_of_ne (by omega)]
    exact first j earlier

omit [DecidableEq κ] in
theorem Distinct.remove (distinct : Distinct n slots) (i : Nat) :
    Distinct (n - 1) (remove n slots i) := by
  intro j inside k inside' same
  unfold Slots.remove at same
  by_cases first : i ≤ j ∧ j < n - 1 <;> by_cases second : i ≤ k ∧ k < n - 1
  · rw [if_pos first, if_pos second] at same
    have := distinct _ (by omega) _ (by omega) same
    omega
  · rw [if_pos first, if_neg second] at same
    have := distinct _ (by omega) _ (by omega) same
    omega
  · rw [if_neg first, if_pos second] at same
    have := distinct _ (by omega) _ (by omega) same
    omega
  · rw [if_neg first, if_neg second] at same
    exact distinct _ (by omega) _ (by omega) same

end Library.Slots
