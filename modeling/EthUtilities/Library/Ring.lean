/-
**Circular indices and what lies between them.**

A ring has `n` cells. From an index `start` the cells are walked in circular order: `slot n start k`
is the `k`-th of them, `advance` the next one, `distance n start stop` how many there are up to
`stop`.

* `contents cell n start count` — what the `count` cells from `start` on hold.
* `contents_succ`, `contents_cons` — one cell more at the end, one cell less in front.
* `contents_prefix_iff` — when the contents before a change of the cells are a prefix of those after.
* `enter` — a list kept in the cells by an index that is also its length: the entry into the last
  cell empties it. `foldl_enter`: what is left of a sequence of entries.
* `Passes` — what came into such a list, what went out of it and what is left: `Passes.trans`,
  `passes_enter`, `passes_leave`.
-/

import Mathlib.Data.List.Basic

namespace Library.Ring

variable {n start stop k : Nat}

/-- The cell `k` places behind `start`. -/
def slot (n start k : Nat) : Nat := if start + k < n then start + k else start + k - n

/-- The next cell. -/
def advance (n i : Nat) : Nat := if i + 1 = n then 0 else i + 1

/-- How many cells there are from `start` up to `stop`, `stop` itself not counted. -/
def distance (n start stop : Nat) : Nat :=
  if start ≤ stop then stop - start else stop + n - start

/-! ### Indices -/

theorem distance_eq_mod (startInside : start < n) (stopInside : stop < n) :
    distance n start stop = (stop + n - start) % n := by
  unfold distance
  split
  case isTrue before =>
    have around : stop + n - start = stop - start + n := by omega
    rw [around, Nat.add_mod_right, Nat.mod_eq_of_lt (by omega)]
  case isFalse behind => rw [Nat.mod_eq_of_lt (by omega)]

theorem slot_zero (startInside : start < n) : slot n start 0 = start :=
  if_pos startInside

theorem slot_ne {j : Nat} (before : j < k) (inside : k < n) :
    slot n start j ≠ slot n start k := by
  unfold slot
  split <;> split <;> omega

theorem slot_succ (inside : k + 1 < n) :
    slot n start (k + 1) = slot n (advance n start) k := by
  unfold slot advance
  split <;> split <;> split <;> omega

theorem advance_lt (inside : start < n) : advance n start < n := by
  unfold advance
  split <;> omega

theorem distance_lt (startInside : start < n) (stopInside : stop < n) :
    distance n start stop < n := by
  unfold distance
  split <;> omega

/-- Walking the distance leads to the end. -/
theorem slot_distance (startInside : start < n) (stopInside : stop < n) :
    slot n start (distance n start stop) = stop := by
  unfold slot distance
  split <;> split <;> omega

theorem distance_self : distance n start start = 0 := by
  rw [distance, if_pos (Nat.le_refl start), Nat.sub_self]

/-- The end moves on while there is room. -/
theorem distance_advance_stop (startInside : start < n) (stopInside : stop < n)
    (room : distance n start stop + 1 < n) :
    distance n start (advance n stop) = distance n start stop + 1 := by
  unfold distance advance at *
  split at room <;> split <;> split <;> omega

/-- The end moves onto the start when there is no room. -/
theorem distance_advance_full (startInside : start < n) (stopInside : stop < n)
    (full : distance n start stop + 1 = n) : distance n start (advance n stop) = 0 := by
  unfold distance advance at *
  split at full <;> split <;> split <;> omega

/-- The start moves on while something lies between. -/
theorem distance_advance_start (startInside : start < n) (stopInside : stop < n)
    (some : 0 < distance n start stop) :
    distance n (advance n start) stop + 1 = distance n start stop := by
  unfold distance advance at *
  split at some <;> split <;> split <;> omega

/-! ### Contents -/

section Contents

variable {α : Type*} {cell cell' : Nat → α} {count : Nat}

/-- What the `count` cells from `start` on hold, in their order. -/
def contents (cell : Nat → α) (n start count : Nat) : List α :=
  (List.range count).map fun k => cell (slot n start k)

@[simp] theorem length_contents : (contents cell n start count).length = count := by
  rw [contents, List.length_map, List.length_range]

@[simp] theorem contents_zero : contents cell n start 0 = [] := rfl

theorem contents_succ :
    contents cell n start (count + 1) =
      contents cell n start count ++ [cell (slot n start count)] := by
  rw [contents, List.range_succ, List.map_append]
  rfl

theorem contents_cons (startInside : start < n) (inside : count < n) :
    contents cell n start (count + 1) = cell start :: contents cell n (advance n start) count := by
  unfold contents
  rw [List.range_succ_eq_map, List.map_cons, List.map_map, slot_zero startInside]
  refine congrArg (cell start :: ·) (List.map_congr_left fun k member => ?_)
  have inRange := List.mem_range.mp member
  exact congrArg cell (slot_succ (by omega))

theorem contents_eq_iff :
    contents cell n start count = contents cell' n start count ↔
      ∀ k < count, cell (slot n start k) = cell' (slot n start k) := by
  unfold contents
  rw [List.map_inj_left]
  exact ⟨fun same k inside => same k (List.mem_range.mpr inside),
    fun same k member => same k (List.mem_range.mp member)⟩

/-- **Growing by one**: the old contents lead the new ones exactly if the change of the cells
left what they hold. -/
theorem contents_prefix_iff :
    contents cell n start count <+: contents cell' n start (count + 1) ↔
      ∀ k < count, cell (slot n start k) = cell' (slot n start k) := by
  rw [contents_succ, ← contents_eq_iff]
  constructor
  · intro leads
    have taken := List.prefix_iff_eq_take.mp leads
    rw [length_contents, List.take_left' length_contents] at taken
    exact taken
  · intro same
    rw [same]
    exact List.prefix_append _ _

end Contents

/-! ### Starting over -/

section Enter

variable {α : Type*}

/-- An entry behind those in the list. The one that fills all `n` cells sets the length back to 0. -/
def enter (n : Nat) (xs : List α) (x : α) : List α :=
  if xs.length + 1 = n then [] else xs ++ [x]

theorem length_enter_lt (positive : 0 < n) {xs : List α} (fits : xs.length < n) (x : α) :
    (enter n xs x).length < n := by
  rw [enter]
  split
  · exact positive
  · rw [List.length_append, List.length_singleton]
    omega

/-- **What is left** are the entries since the list was emptied last. -/
theorem foldl_enter (positive : 0 < n) {first : List α} (fits : first.length < n) (xs : List α) :
    xs.foldl (enter n) first =
      (first ++ xs).drop (n * ((first ++ xs).length / n)) := by
  induction xs generalizing first with
  | nil => simp [Nat.div_eq_of_lt fits]
  | cons x xs ih =>
    rw [List.foldl_cons, ih (length_enter_lt positive fits x)]
    by_cases full : first.length + 1 = n
    · have rounds : (first ++ x :: xs).length / n = xs.length / n + 1 := by
        rw [List.length_append, List.length_cons, ← Nat.add_assoc, Nat.add_right_comm, full,
          Nat.add_comm, Nat.add_div_right _ positive]
      have front : first ++ x :: xs = (first ++ [x]) ++ xs := by simp
      rw [enter, if_pos full, rounds, Nat.mul_succ, List.nil_append, front, Nat.add_comm _ n,
        ← List.drop_drop, List.drop_left' (by simp [full])]
    · have front : first ++ x :: xs = (first ++ [x]) ++ xs := by simp
      rw [enter, if_neg full, front]

/-- The list is not empty but after a multiple of `n` entries. -/
theorem drop_rounds_eq_nil_iff (xs : List α) :
    xs.drop (n * (xs.length / n)) = [] ↔ n ∣ xs.length := by
  rw [List.drop_eq_nil_iff, Nat.dvd_iff_div_mul_eq, Nat.mul_comm]
  have below := Nat.div_mul_le_self xs.length n
  omega

end Enter

/-! ### What comes in and what goes out -/

section Passes

variable {α : Type*} {before came went after : List α}

/-- Entries go out in the order they came in; those that are lost are lost `n` at a time. -/
structure Passes (n : Nat) (before came went after : List α) : Prop where
  order : (went ++ after).Sublist (before ++ came)
  count : ∃ losses, before.length + came.length = went.length + after.length + n * losses

theorem Passes.refl (xs : List α) : Passes n xs [] [] xs where
  order := by rw [List.nil_append, List.append_nil]
  count := ⟨0, Nat.add_comm _ _⟩

theorem Passes.trans {came' went' after' : List α} (first : Passes n before came went after)
    (second : Passes n after came' went' after') :
    Passes n before (came ++ came') (went ++ went') after' where
  order := by
    have rest := second.order.append_left went
    have front := first.order.append_right came'
    rw [List.append_assoc] at front ⊢
    rw [← List.append_assoc before]
    exact rest.trans front
  count := by
    obtain ⟨losses, counted⟩ := first.count
    obtain ⟨more, counted'⟩ := second.count
    refine ⟨losses + more, ?_⟩
    rw [List.length_append, List.length_append, Nat.mul_add]
    omega

/-- The entry that fills all cells is lost, with those before it. -/
theorem passes_enter (xs : List α) (x : α) : Passes n xs [x] [] (enter n xs x) := by
  rw [enter]
  by_cases full : xs.length + 1 = n
  · rw [if_pos full]
    refine ⟨List.nil_sublist _, 1, ?_⟩
    rw [Nat.mul_one]
    exact full.trans (Nat.zero_add n).symm
  · rw [if_neg full]
    refine ⟨List.Sublist.refl _, 0, ?_⟩
    rw [List.length_append, List.length_nil]
    omega

theorem passes_leave (x : α) (xs : List α) : Passes n (x :: xs) [] [x] xs where
  order := by
    rw [List.append_nil]
    exact List.Sublist.refl _
  count := ⟨0, Nat.add_comm _ 1⟩

end Passes

end Library.Ring
