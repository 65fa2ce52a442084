/-
**Lists of objects that are named by distinct keys.**

A program that keeps its objects in a list and reaches them by a name: `find` searches the list from
the front, `update` changes the object with a name in place.

* `find_eq_some_iff`, `find_eq_none_iff` — with distinct keys, an object is found by its key exactly
  if it is in the list.
* `map_update`, `mem_update` — an update keeps the keys and touches no other object.
* `find_cons`, `find_filter_ne` — a list in which a new object hides the older ones with its key is a
  function that is updated.
* `flatMap_found` — a pass over the list that only one object answers.
-/

import Mathlib.Data.List.Nodup

namespace Library.Keyed

variable {α κ β : Type*} [DecidableEq κ] (key : α → κ)

/-- No two objects have the same key. -/
def Distinct (objects : List α) : Prop := (objects.map key).Nodup

/-- The first object with the key. -/
def find (objects : List α) (name : κ) : Option α := objects.find? fun object => key object = name

/-- Change the object with the key in place. -/
def update (objects : List α) (name : κ) (change : α → α) : List α :=
  objects.map fun object => if key object = name then change object else object

variable {key} {objects : List α} {object : α} {name : κ} {change : α → α}

theorem find_eq_none_iff :
    find key objects name = none ↔ ∀ object ∈ objects, key object ≠ name := by
  unfold find
  simp only [List.find?_eq_none, decide_eq_true_eq, ne_eq]

theorem mem_of_find (found : find key objects name = some object) : object ∈ objects :=
  List.mem_of_find?_eq_some found

theorem key_of_find (found : find key objects name = some object) : key object = name :=
  of_decide_eq_true (List.find?_some (p := fun object => decide (key object = name)) found)

theorem Distinct.cons (distinct : Distinct key objects)
    (absent : find key objects (key object) = none) : Distinct key (object :: objects) := by
  refine List.nodup_cons.mpr ⟨fun member => ?_, distinct⟩
  obtain ⟨other, inside, same⟩ := List.mem_map.mp member
  exact find_eq_none_iff.mp absent other inside same

theorem Distinct.find_eq_some_iff (distinct : Distinct key objects) :
    find key objects name = some object ↔ object ∈ objects ∧ key object = name := by
  refine ⟨fun found => ⟨mem_of_find found, key_of_find found⟩, fun ⟨inside, named⟩ => ?_⟩
  cases found : find key objects name with
  | none => exact absurd named (find_eq_none_iff.mp found object inside)
  | some other =>
    have same := List.inj_on_of_nodup_map distinct (mem_of_find found) inside
      ((key_of_find found).trans named.symm)
    rw [same]

/-! ### Updates -/

theorem map_update (keeps : ∀ object, key (change object) = key object) :
    (update key objects name change).map key = objects.map key := by
  unfold update
  rw [List.map_map]
  refine List.map_congr_left fun object _ => ?_
  rw [Function.comp_apply, apply_ite key, keeps, ite_self]

theorem Distinct.update (distinct : Distinct key objects)
    (keeps : ∀ object, key (change object) = key object) :
    Distinct key (update key objects name change) := by
  unfold Distinct
  rw [map_update keeps]
  exact distinct

theorem mem_update {updated : α} : updated ∈ update key objects name change ↔
    ∃ object ∈ objects, (if key object = name then change object else object) = updated :=
  List.mem_map

/-! ### Objects that hide others -/

theorem find_cons (object : α) (objects : List α) :
    find key (object :: objects) =
      Function.update (find key objects) (key object) (some object) := by
  funext name
  by_cases here : name = key object
  · subst here
    rw [Function.update_self]
    exact List.find?_cons_of_pos (decide_eq_true rfl)
  · rw [Function.update_of_ne here]
    exact List.find?_cons_of_neg (by simpa using Ne.symm here)

theorem find_filter_ne (objects : List α) (name : κ) :
    find key (objects.filter fun object => key object ≠ name) =
      Function.update (find key objects) name none := by
  funext other
  by_cases here : other = name
  · subst here
    rw [Function.update_self, find_eq_none_iff]
    intro object member
    exact of_decide_eq_true (List.mem_filter.mp member).2
  · rw [Function.update_of_ne here, find, find, List.find?_filter]
    congr 1
    funext object
    by_cases named : key object = other
    · simp [named, here]
    · simp [named]

/-! ### Passes over the list -/

/-- **A pass over all objects yields what the object with the name yields**, if the others yield
nothing. -/
theorem flatMap_found {answer : α → List β} (distinct : Distinct key objects)
    (found : find key objects name = some object)
    (silent : ∀ other ∈ objects, key other ≠ name → answer other = []) :
    objects.flatMap answer = answer object := by
  induction objects with
  | nil => cases found
  | cons first rest ih =>
    obtain ⟨absent, distinct'⟩ := List.nodup_cons.mp distinct
    by_cases here : key first = name
    · obtain rfl : first = object := by
        have first : find key (first :: rest) name = some first :=
          List.find?_cons_of_pos (decide_eq_true here)
        exact Option.some.inj (first.symm.trans found)
      have quiet : rest.flatMap answer = [] := List.flatMap_eq_nil_iff.mpr fun other inside =>
        silent other (List.mem_cons_of_mem _ inside) fun same =>
          absent (List.mem_map.mpr ⟨other, inside, same.trans here.symm⟩)
      rw [List.flatMap_cons, quiet, List.append_nil]
    · have skips : find key (first :: rest) name = find key rest name :=
        List.find?_cons_of_neg (by simpa using here)
      rw [skips] at found
      rw [List.flatMap_cons, silent first List.mem_cons_self here, List.nil_append]
      exact ih distinct' found fun other inside => silent other (List.mem_cons_of_mem _ inside)

end Library.Keyed
