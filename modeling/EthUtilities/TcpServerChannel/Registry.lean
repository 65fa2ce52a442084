/-
**The connection registry of `TcpServerChannel`.**

`connectionsBuffer_` is an array of `TCP_SERVER_NUM_BROADCAST_CONNECTIONS` pointers to connection
records, `connectionsCounter_` the number of slots the channel walks over. Three functions touch
them: `addConnectionToBuffer`, `deleteConnectionFromBuffer` and `isConnectionInBuffer`.

The second half describes an array by what it holds: `slots n stored filler` has the records
`stored` in its first slots and `filler` in all others. Both operations are computed on arrays of
this shape.

* `storeInFirstFree_slots`, `storeInFirstFree_match` — where a new record goes.
* `clearConnection_mem` — a record that is not in the last slot is shifted out: the array keeps its
  shape, **filler included**, whatever the filler is.
* `clearConnection_filler_last` — a record in the last slot is overwritten by `NULL`.
-/

import Mathlib.Data.List.Basic
import Mathlib.Data.List.Nodup

namespace Jblib.Ethutilities.TcpServerChannel

/-- The address of a connection record (`TcpServerParameters_t`). In a slot, `none` is `NULL`. -/
abbrev Address := Nat

/-- `connectionsBuffer_` and `connectionsCounter_`. -/
structure Registry where
  connectionsBuffer : List (Option Address)
  connectionsCounter : Nat
  deriving DecidableEq

/-- The registry the constructor leaves: every slot `NULL`. -/
def construct (numBroadcastConnections : Nat) : Registry :=
  ⟨List.replicate numBroadcastConnections none, 0⟩

/-- The loop of `addConnectionToBuffer`: it stops at the record itself or fills the first `NULL`. -/
def storeInFirstFree (ss : Address) : List (Option Address) → List (Option Address)
  | [] => []
  | slot :: slots =>
    if slot = some ss then slot :: slots
    else if slot = none then some ss :: slots
    else slot :: storeInFirstFree ss slots

def addConnectionToBuffer (registry : Registry) (ss : Address) : Registry :=
  if registry.connectionsCounter = registry.connectionsBuffer.length then registry
  else ⟨storeInFirstFree ss registry.connectionsBuffer, registry.connectionsCounter + 1⟩

/-- The shifting loop of `deleteConnectionFromBuffer` from slot `index` on: each slot takes the next
one's pointer, until that pointer is `NULL` or the array ends. The last slot is never written. -/
def shiftSlots : List (Option Address) → List (Option Address)
  | _ :: slot :: slots => slot :: if slot = none then slot :: slots else shiftSlots (slot :: slots)
  | slots => slots

/-- What `deleteConnectionFromBuffer` does to the array. `index` is the array's length if the record
is in no slot. -/
def clearConnection (buffer : List (Option Address)) (ss : Address) : List (Option Address) :=
  let index := buffer.findIdx (· = some ss)
  if index = buffer.length - 1 then
    if buffer[index]? = some (some ss) then buffer.set index none else buffer
  else buffer.take index ++ shiftSlots (buffer.drop index)

def deleteConnectionFromBuffer (registry : Registry) (ss : Address) : Registry :=
  if registry.connectionsCounter = 0 then registry
  else ⟨clearConnection registry.connectionsBuffer ss, registry.connectionsCounter - 1⟩

/-- The slots the channel's loops `i < connectionsCounter_` walk over. -/
def Registry.walked (registry : Registry) : List (Option Address) :=
  registry.connectionsBuffer.take registry.connectionsCounter

def isConnectionInBuffer (registry : Registry) (ss : Address) : Bool :=
  registry.walked.any (· = some ss)

/-- The records `tx` sends to when its parameter is `NULL`, in order. -/
def broadcastConnections (registry : Registry) : List Address := registry.walked.filterMap id

/-- The records the destructor closes and frees, in order. -/
def destructedConnections (registry : Registry) : List Address := registry.walked.filterMap id

theorem isConnectionInBuffer_iff {registry : Registry} {ss : Address} :
    isConnectionInBuffer registry ss = true ↔ some ss ∈ registry.walked := by
  simp [isConnectionInBuffer]

theorem mem_broadcastConnections {registry : Registry} {ss : Address} :
    ss ∈ broadcastConnections registry ↔ some ss ∈ registry.walked := by
  simp [broadcastConnections]

/-- A registry whose counter is zero serves nobody. -/
theorem counter_ne_zero_of_walked {registry : Registry} {slot : Option Address}
    (member : slot ∈ registry.walked) : registry.connectionsCounter ≠ 0 := by
  intro zero
  rw [Registry.walked, zero, List.take_zero] at member
  cases member

/-! ### Arrays by what they hold -/

/-- `n` slots: the records `stored`, then `filler` in every other slot. -/
def slots (n : Nat) (stored : List Address) (filler : Option Address) : List (Option Address) :=
  stored.map some ++ List.replicate (n - stored.length) filler

variable {n : Nat} {stored : List Address} {filler : Option Address} {ss : Address}

theorem length_slots (fits : stored.length ≤ n) : (slots n stored filler).length = n := by
  simp only [slots, List.length_append, List.length_map, List.length_replicate]
  omega

theorem mem_slots {slot : Option Address} (member : slot ∈ slots n stored filler) :
    slot = filler ∨ ∃ ss ∈ stored, slot = some ss := by
  rcases List.mem_append.mp member with inStored | inFiller
  · obtain ⟨ss, inside, rfl⟩ := List.mem_map.mp inStored
    exact .inr ⟨ss, inside, rfl⟩
  · exact .inl (List.eq_of_mem_replicate inFiller)

theorem take_slots {count : Nat} (covers : stored.length ≤ count) :
    (slots n stored filler).take count =
      stored.map some ++
        List.replicate (min (count - stored.length) (n - stored.length)) filler := by
  rw [slots, List.take_append, List.length_map, List.take_replicate,
    List.take_of_length_le (by rw [List.length_map]; exact covers)]

/-- A full array is also an array filled up with its last record. -/
theorem slots_full {last : Address} (full : stored.length + 1 = n) :
    slots n (stored ++ [last]) none = slots n stored (some last) := by
  have none_left : n - (stored ++ [last]).length = 0 := by
    rw [List.length_append, List.length_singleton]
    omega
  have one_left : n - stored.length = 1 := by omega
  rw [slots, slots, none_left, one_left, List.map_append, List.replicate_zero, List.append_nil]
  rfl

/-! ### Adding a record -/

theorem storeInFirstFree_skip {before after : List (Option Address)}
    (occupied : ∀ slot ∈ before, slot ≠ none ∧ slot ≠ some ss) :
    storeInFirstFree ss (before ++ after) = before ++ storeInFirstFree ss after := by
  induction before with
  | nil => rfl
  | cons slot before ih =>
    obtain ⟨notNull, other⟩ := occupied slot List.mem_cons_self
    show storeInFirstFree ss (slot :: (before ++ after)) = slot :: (before ++ _)
    rw [storeInFirstFree, if_neg other, if_neg notNull,
      ih fun slot inside => occupied slot (List.mem_cons_of_mem _ inside)]

theorem occupied_of_not_mem (fresh : ss ∉ stored) :
    ∀ slot ∈ stored.map some, slot ≠ none ∧ slot ≠ some ss := by
  intro slot inside
  obtain ⟨other, member, rfl⟩ := List.mem_map.mp inside
  exact ⟨Option.some_ne_none _, fun same => fresh (Option.some.inj same ▸ member)⟩

/-- A new record goes into the first `NULL` slot. -/
theorem storeInFirstFree_slots (fresh : ss ∉ stored) (room : stored.length < n) :
    storeInFirstFree ss (slots n stored none) = slots n (stored ++ [ss]) none := by
  obtain ⟨free, count⟩ : ∃ free, n - stored.length = free + 1 := ⟨n - stored.length - 1, by omega⟩
  have rest : n - (stored ++ [ss]).length = free := by
    rw [List.length_append, List.length_singleton]
    omega
  rw [slots, slots, storeInFirstFree_skip (occupied_of_not_mem fresh), count, rest,
    List.replicate_succ, storeInFirstFree, if_neg (Option.some_ne_none ss).symm, if_pos rfl,
    List.map_append, List.append_assoc]
  rfl

/-- With no `NULL` slot left the array does not change, whether the record is in a slot or not. -/
theorem storeInFirstFree_match {last : Address} (fresh : ss ∉ stored) :
    storeInFirstFree ss (slots n stored (some last)) = slots n stored (some last) := by
  rw [slots, storeInFirstFree_skip (occupied_of_not_mem fresh)]
  congr 1
  generalize n - stored.length = count
  induction count with
  | zero => rfl
  | succ count ih =>
    rw [List.replicate_succ, storeInFirstFree]
    split
    · rfl
    · rw [if_neg (Option.some_ne_none last), ih]

/-! ### Removing a record -/

theorem shiftSlots_replicate (count : Nat) :
    shiftSlots (List.replicate count filler) = List.replicate count filler := by
  induction count with
  | zero => rfl
  | succ count ih =>
    cases count with
    | zero => rfl
    | succ count =>
      rw [List.replicate_succ, List.replicate_succ, shiftSlots]
      split
      · rfl
      · rw [← List.replicate_succ, ih]

/-- **The shift keeps the filler**: every record moves down one slot and the freed slot takes what
the slots behind them hold. -/
theorem shiftSlots_stored (slot : Option Address) (later : List Address) (count : Nat) :
    shiftSlots (slot :: (later.map some ++ List.replicate (count + 1) filler)) =
      later.map some ++ List.replicate (count + 2) filler := by
  induction later generalizing slot with
  | nil =>
    show filler :: (if filler = none then filler :: List.replicate count filler
      else shiftSlots (filler :: List.replicate count filler)) = _
    split
    · rfl
    · exact congrArg (filler :: ·) (shiftSlots_replicate (count + 1))
  | cons next later ih =>
    show some next :: (if some next = none then _
      else shiftSlots (some next :: (later.map some ++ List.replicate (count + 1) filler))) = _
    rw [if_neg (Option.some_ne_none next), ih]
    rfl

theorem findIdx_slots {before : List (Option Address)} (slot : Option Address)
    (after : List (Option Address)) (absent : some ss ∉ before) (here : slot = some ss) :
    (before ++ slot :: after).findIdx (· = some ss) = before.length := by
  subst here
  rw [List.findIdx_append, if_neg, List.findIdx_cons]
  · simp
  · intro found
    have index := List.findIdx_lt_length.mp found
    obtain ⟨other, inside, same⟩ := index
    exact absent (of_decide_eq_true same ▸ inside)

theorem not_mem_map_some (absent : ss ∉ stored) : some ss ∉ stored.map some := fun inside =>
  absent (by simpa using inside)

/-- **A record in front of the fillers is removed**, and the array keeps its filler. -/
theorem clearConnection_mem (member : ss ∈ stored) (room : stored.length < n) :
    clearConnection (slots n stored filler) ss = slots n (stored.erase ss) filler := by
  obtain ⟨before, after, rfl, absent⟩ := List.eq_append_cons_of_mem member
  rw [List.length_append, List.length_cons] at room
  obtain ⟨free, count⟩ : ∃ free, n - (before ++ ss :: after).length = free + 1 :=
    ⟨n - (before ++ ss :: after).length - 1, by
      rw [List.length_append, List.length_cons]
      omega⟩
  have erased : (before ++ ss :: after).erase ss = before ++ after := by
    rw [List.erase_append_right _ absent, List.erase_cons_head]
  have freed : n - (before ++ after).length = free + 2 := by
    rw [List.length_append, List.length_cons] at count
    rw [List.length_append]
    omega
  have split : slots n (before ++ ss :: after) filler =
      before.map some ++ some ss :: (after.map some ++ List.replicate (free + 1) filler) := by
    rw [slots, count, List.map_append, List.map_cons, List.append_assoc, List.cons_append]
  have index := findIdx_slots (some ss) (after.map some ++ List.replicate (free + 1) filler)
    (not_mem_map_some absent) rfl
  have inner : (before.map some).length ≠ (slots n (before ++ ss :: after) filler).length - 1 := by
    rw [length_slots (by rw [List.length_append, List.length_cons]; omega), List.length_map]
    omega
  simp only [clearConnection]
  rw [split] at inner ⊢
  rw [index, if_neg inner, List.take_left, List.drop_left, shiftSlots_stored, slots, erased, freed,
    List.map_append, List.append_assoc]

/-- A record that is in no slot leaves the array alone. -/
theorem clearConnection_absent {buffer : List (Option Address)} (absent : some ss ∉ buffer) :
    clearConnection buffer ss = buffer := by
  have index : buffer.findIdx (· = some ss) = buffer.length := by
    refine List.findIdx_eq_length.mpr fun slot inside => ?_
    exact decide_eq_false fun same => absent (same ▸ inside)
  simp only [clearConnection]
  rw [index, List.getElem?_eq_none (Nat.le_refl _), List.take_length, List.drop_length]
  simp [shiftSlots]

/-- The fillers of a full array: removing their record frees no slot … -/
theorem clearConnection_filler (absent : ss ∉ stored) (room : stored.length + 1 < n) :
    clearConnection (slots n stored (some ss)) ss = slots n stored (some ss) := by
  obtain ⟨free, count⟩ : ∃ free, n - stored.length = free + 2 := ⟨n - stored.length - 2, by omega⟩
  have split : slots n stored (some ss) =
      stored.map some ++ some ss :: List.replicate (free + 1) (some ss) := by
    rw [slots, count, List.replicate_succ]
  have index := findIdx_slots (some ss) (List.replicate (free + 1) (some ss))
    (not_mem_map_some absent) rfl
  have inner : (stored.map some).length ≠ (slots n stored (some ss)).length - 1 := by
    rw [length_slots (by omega), List.length_map]
    omega
  simp only [clearConnection]
  rw [split] at inner ⊢
  rw [index, if_neg inner, List.take_left, List.drop_left, ← List.replicate_succ,
    shiftSlots_replicate]

/-- … unless it is only in the last slot, which is set to `NULL`. -/
theorem clearConnection_filler_last (absent : ss ∉ stored) (full : stored.length + 1 = n) :
    clearConnection (slots n stored (some ss)) ss = slots n stored none := by
  have count : n - stored.length = 1 := by omega
  have split : slots n stored (some ss) = stored.map some ++ some ss :: [] := by
    rw [slots, count]
    rfl
  have index := findIdx_slots (some ss) [] (not_mem_map_some absent) rfl
  have last : (stored.map some).length = (slots n stored (some ss)).length - 1 := by
    rw [length_slots (by omega), List.length_map]
    omega
  simp only [clearConnection]
  rw [split] at last ⊢
  rw [index, if_pos last, slots, count, List.getElem?_append_right (Nat.le_refl _), Nat.sub_self,
    if_pos (show [some ss][0]? = some (some ss) from rfl),
    List.set_append_right _ _ (Nat.le_refl _), Nat.sub_self]
  rfl

end Jblib.Ethutilities.TcpServerChannel
