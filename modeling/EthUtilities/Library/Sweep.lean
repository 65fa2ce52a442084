/-
**Passes over a list that change every element and drop some.**

* `sweep` — the pass as it is meant: every element is changed, and those to be dropped are left out.
* `skipping` — the pass of an index loop that deletes the element at hand and then goes on with the
  next index all the same: the element behind a deleted one moves to the index that is done, and
  stays as it is.
* **`skipping_eq_sweep_iff`** — if every change shows, the two agree exactly on the lists in which no
  element but the last one is dropped.
* `origin_of_skipping` — an element behind the index loop was changed and kept, or it was passed over
  and moved to the front. `kept_of_skipping`: nothing else is dropped.
* `visited` — what the index loop has at hand in its turns.
-/

import Mathlib.Data.List.Basic

namespace Library.Sweep

variable {α : Type*} (change : α → α) (dropped : α → Bool)

def sweep (xs : List α) : List α := (xs.map change).filter fun x => !dropped x

def skipping : List α → List α
  | [] => []
  | [x] => if dropped (change x) then [] else [change x]
  | x :: y :: rest =>
    if dropped (change x) then y :: skipping rest else change x :: skipping (y :: rest)

/-- The elements that the index loop changes, changed, in the order of its turns. -/
def visited : List α → List α
  | [] => []
  | [x] => [change x]
  | x :: y :: rest =>
    change x :: if dropped (change x) then visited rest else visited (y :: rest)

variable {change dropped}

/-! ### The intended pass -/

@[simp] theorem sweep_nil : sweep change dropped [] = [] := rfl

theorem sweep_dropped {x : α} (drops : dropped (change x) = true) (xs : List α) :
    sweep change dropped (x :: xs) = sweep change dropped xs := by
  simp [sweep, drops]

theorem sweep_kept {x : α} (keeps : dropped (change x) = false) (xs : List α) :
    sweep change dropped (x :: xs) = change x :: sweep change dropped xs := by
  simp [sweep, keeps]

theorem length_sweep_cons_le (x : α) (xs : List α) :
    (sweep change dropped (x :: xs)).length ≤ (sweep change dropped xs).length + 1 := by
  cases drops : dropped (change x) with
  | true => simp [sweep_dropped drops]
  | false => simp [sweep_kept drops]

/-! ### The two passes -/

/-- Whatever an index loop drops was to be dropped. -/
theorem length_sweep_le (xs : List α) :
    (sweep change dropped xs).length ≤ (skipping change dropped xs).length := by
  fun_induction skipping change dropped xs with
  | case1 => simp
  | case2 x drops => simp [sweep_dropped drops]
  | case3 x keeps => simp [sweep_kept (Bool.eq_false_iff.mpr keeps)]
  | case4 x y rest drops ih =>
    rw [sweep_dropped drops, List.length_cons]
    exact Nat.le_trans (length_sweep_cons_le y rest) (Nat.succ_le_succ ih)
  | case5 x y rest keeps ih =>
    rw [sweep_kept (Bool.eq_false_iff.mpr keeps), List.length_cons, List.length_cons]
    exact Nat.succ_le_succ ih

/-- An element that was skipped shows: it is unchanged, or there although it was to be dropped. -/
theorem skipping_ne_sweep {x y : α} {rest : List α} (moves : change y ≠ y)
    (drops : dropped (change x) = true) :
    skipping change dropped (x :: y :: rest) ≠ sweep change dropped (x :: y :: rest) := by
  intro same
  rw [skipping, if_pos drops, sweep_dropped drops] at same
  cases next : dropped (change y) with
  | true =>
    rw [sweep_dropped next] at same
    have longer := congrArg List.length same
    have shorter := @length_sweep_le _ change dropped rest
    rw [List.length_cons] at longer
    omega
  | false =>
    rw [sweep_kept next] at same
    exact moves (List.cons.inj same).1.symm

/-- **When deleting during an index loop is harmless.** -/
theorem skipping_eq_sweep_iff {xs : List α} (moves : ∀ x ∈ xs, change x ≠ x) :
    skipping change dropped xs = sweep change dropped xs ↔
      ∀ x ∈ xs.dropLast, dropped (change x) = false := by
  fun_induction skipping change dropped xs with
  | case1 => simp
  | case2 x drops => simp [sweep_dropped drops]
  | case3 x keeps => simp [sweep_kept (Bool.eq_false_iff.mpr keeps)]
  | case4 x y rest drops ih =>
    have skipped : skipping change dropped (x :: y :: rest) = y :: skipping change dropped rest := by
      rw [skipping, if_pos drops]
    rw [← skipped]
    refine iff_of_false (skipping_ne_sweep (moves y (by simp)) drops) fun all => ?_
    have kept := all x (by simp)
    rw [drops] at kept
    exact nomatch kept
  | case5 x y rest keeps ih =>
    have kept : dropped (change x) = false := Bool.eq_false_iff.mpr keeps
    have rest' := ih fun z member => moves z (List.mem_cons_of_mem _ member)
    rw [sweep_kept kept, List.cons.injEq, rest', List.dropLast_cons_cons, List.forall_mem_cons]
    simp [kept]

/-! ### Where the elements come from -/

/-- An element that was passed over is nearer to the front than it was. -/
theorem origin_of_skipping {xs : List α} {i : Nat} {y : α}
    (there : (skipping change dropped xs)[i]? = some y) :
    ∃ j x, xs[j]? = some x ∧
      (i ≤ j ∧ y = change x ∧ dropped y = false ∨ i < j ∧ y = x) := by
  fun_induction skipping change dropped xs generalizing i with
  | case1 => simp at there
  | case2 => simp at there
  | case3 x keeps =>
    obtain ⟨rfl, rfl⟩ : i = 0 ∧ change x = y := by simpa [List.getElem?_singleton] using there
    exact ⟨0, x, rfl, .inl ⟨Nat.le_refl 0, rfl, Bool.eq_false_iff.mpr keeps⟩⟩
  | case4 x z rest drops ih =>
    cases i with
    | zero =>
      obtain rfl : z = y := by simpa using there
      exact ⟨1, z, rfl, .inr ⟨Nat.one_pos, rfl⟩⟩
    | succ i =>
      obtain ⟨j, x', place, from'⟩ := ih (by simpa using there)
      refine ⟨j + 2, x', by simpa using place, from'.imp ?_ ?_⟩
      · exact fun ⟨behind, made⟩ => ⟨by omega, made⟩
      · exact fun ⟨behind, made⟩ => ⟨by omega, made⟩
  | case5 x z rest keeps ih =>
    cases i with
    | zero =>
      obtain rfl : change x = y := by simpa using there
      exact ⟨0, x, rfl, .inl ⟨Nat.le_refl 0, rfl, Bool.eq_false_iff.mpr keeps⟩⟩
    | succ i =>
      obtain ⟨j, x', place, from'⟩ := ih (by simpa using there)
      refine ⟨j + 1, x', by simpa using place, from'.imp ?_ ?_⟩
      · exact fun ⟨behind, made⟩ => ⟨Nat.succ_le_succ behind, made⟩
      · exact fun ⟨behind, made⟩ => ⟨Nat.succ_lt_succ behind, made⟩

/-- An element is changed in one of the turns, or passed over. -/
theorem visited_or_skipped {xs : List α} {x : α} (member : x ∈ xs) :
    change x ∈ visited change dropped xs ∧
        (dropped (change x) = true ∨ change x ∈ skipping change dropped xs) ∨
      x ∈ skipping change dropped xs := by
  fun_induction skipping change dropped xs with
  | case1 => exact absurd member List.not_mem_nil
  | case2 z drops =>
    obtain rfl := List.mem_singleton.mp member
    exact .inl ⟨List.mem_cons_self, .inl drops⟩
  | case3 z _ =>
    obtain rfl := List.mem_singleton.mp member
    exact .inl ⟨List.mem_cons_self, .inr List.mem_cons_self⟩
  | case4 z z' rest drops ih =>
    rw [visited, if_pos drops]
    rcases List.mem_cons.mp member with rfl | member
    · exact .inl ⟨List.mem_cons_self, .inl drops⟩
    rcases List.mem_cons.mp member with rfl | member
    · exact .inr List.mem_cons_self
    · exact (ih member).imp
        (And.imp (List.mem_cons_of_mem _) (Or.imp id (List.mem_cons_of_mem _)))
        (List.mem_cons_of_mem _)
  | case5 z z' rest keeps ih =>
    rw [visited, if_neg keeps]
    rcases List.mem_cons.mp member with rfl | member
    · exact .inl ⟨List.mem_cons_self, .inr List.mem_cons_self⟩
    · exact (ih member).imp
        (And.imp (List.mem_cons_of_mem _) (Or.imp id (List.mem_cons_of_mem _)))
        (List.mem_cons_of_mem _)

/-- What is not to be dropped stays, changed or passed over. -/
theorem kept_of_skipping {xs : List α} {x : α} (member : x ∈ xs)
    (keeps : dropped (change x) = false) :
    change x ∈ skipping change dropped xs ∨ x ∈ skipping change dropped xs := by
  refine (visited_or_skipped member).imp_left fun ⟨_, kept⟩ => kept.resolve_left fun drops => ?_
  rw [keeps] at drops
  exact nomatch drops

end Library.Sweep
