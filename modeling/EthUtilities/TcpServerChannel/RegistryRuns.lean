/-
**The registry over whole runs: accept, close and error in any order.**

The server's state here is the registry together with two facts the code does not store: which
records are live (accepted and not yet freed; `malloc_s` returns none of these) and which of the
live ones `addConnectionToBuffer` put into a slot.

* `Sound` — the registry has no dangling and no duplicate entry. `sound_iff_holds`: it is sound
  exactly if it is a bounded list of live records, `NULL` behind them.
* **`registry_sound_iff`** — a run stays sound exactly as long as every closed record is in the
  registry and, if the table is full, in its last slot. The shifting loop never writes the last
  slot, so a deletion from a full table leaves a copy there (`registry_dangling`).
* **`registry_reachable_iff`** — every stored record stays reachable, and deleting a pointer that is
  not stored changes nothing, exactly as long as every closed record is in the registry. The counter
  is decremented whether or not the record was found (`registry_unreachable`).
-/

import EthUtilities.Library.Machine
import EthUtilities.TcpServerChannel.Registry
import Mathlib.Data.Finset.Insert
import Mathlib.Data.Finset.Erase

namespace Jblib.Ethutilities.TcpServerChannel

open Library

/-- The registry, the live records and those of them that `addConnectionToBuffer` stored. -/
structure Server where
  registry : Registry
  live : Finset Address
  stored : Finset Address

/-- What happens to a connection. `accept` carries the address `malloc_s` returned. -/
inductive Event
  | accept (ss : Address)
  | close (ss : Address)
  | error (ss : Address)
  deriving DecidableEq

/-- `addConnectionToBuffer` finds a slot for the record. -/
def storesConnection (registry : Registry) (ss : Address) : Prop :=
  registry.connectionsCounter ≠ registry.connectionsBuffer.length ∧
    some ss ∈ storeInFirstFree ss registry.connectionsBuffer

instance (registry : Registry) (ss : Address) : Decidable (storesConnection registry ss) :=
  inferInstanceAs (Decidable (_ ∧ _))

/-- `accept` with a record from `malloc_s`. -/
def Server.accept (s : Server) (ss : Address) : Server where
  registry := addConnectionToBuffer s.registry ss
  live := insert ss s.live
  stored := if storesConnection s.registry ss then insert ss s.stored else s.stored

/-- `deleteConnectionFromBuffer` followed by `free_s`, as `close` and `error` both do. -/
def Server.release (s : Server) (ss : Address) : Server where
  registry := deleteConnectionFromBuffer s.registry ss
  live := s.live.erase ss
  stored := s.stored.erase ss

def Server.close (s : Server) (ss : Address) : Server := s.release ss

def Server.error (s : Server) (ss : Address) : Server := s.release ss

/-- The server under connection events. An accepted record is new, a closed one is live. -/
def server : Machine Server Event where
  enabled s
    | .accept ss => ss ∉ s.live
    | .close ss | .error ss => ss ∈ s.live
  next s
    | .accept ss => s.accept ss
    | .close ss => s.close ss
    | .error ss => s.error ss

instance : ∀ s event, Decidable (server.enabled s event)
  | s, .accept ss => inferInstanceAs (Decidable (ss ∉ s.live))
  | s, .close ss | s, .error ss => inferInstanceAs (Decidable (ss ∈ s.live))

/-- The state after the constructor: no connection yet. -/
def initial (numBroadcastConnections : Nat) : Server := ⟨construct numBroadcastConnections, ∅, ∅⟩

/-! ### Sound registries -/

/-- **No dangling and no duplicate entry.** The first `connectionsCounter_` slots hold pairwise
distinct live records, all other slots are `NULL`, and so the walks of broadcast `tx` and of the
destructor meet only live records, each once. -/
structure Sound (n : Nat) (s : Server) : Prop where
  length : s.registry.connectionsBuffer.length = n
  counter_le : s.registry.connectionsCounter ≤ n
  stored : ∀ i < s.registry.connectionsCounter,
    ∃ ss ∈ s.live, s.registry.connectionsBuffer[i]? = some (some ss)
  distinct : ∀ i < s.registry.connectionsCounter, ∀ j < s.registry.connectionsCounter,
    s.registry.connectionsBuffer[i]? = s.registry.connectionsBuffer[j]? → i = j
  vacant : ∀ i, s.registry.connectionsCounter ≤ i → i < n →
    s.registry.connectionsBuffer[i]? = some none
  broadcast : (broadcastConnections s.registry).Nodup ∧
    ∀ ss ∈ broadcastConnections s.registry, ss ∈ s.live
  destruct : (destructedConnections s.registry).Nodup ∧
    ∀ ss ∈ destructedConnections s.registry, ss ∈ s.live

/-- The registry as a bounded list: it holds exactly `stored`, in order, and nothing behind. -/
structure Holds (n : Nat) (registry : Registry) (stored : List Address) : Prop where
  buffer : registry.connectionsBuffer = slots n stored none
  counter : registry.connectionsCounter = stored.length
  fits : stored.length ≤ n
  nodup : stored.Nodup

theorem Holds.walked {n : Nat} {registry : Registry} {stored : List Address}
    (holds : Holds n registry stored) : registry.walked = stored.map some := by
  rw [Registry.walked, holds.buffer, holds.counter, take_slots (Nat.le_refl _), Nat.sub_self,
    Nat.zero_min, List.replicate_zero, List.append_nil]

theorem Holds.occupied {n : Nat} {registry : Registry} {stored : List Address}
    (holds : Holds n registry stored) : registry.walked.filterMap id = stored := by
  rw [holds.walked, List.filterMap_map]
  exact List.filterMap_some

theorem getElem?_slots_stored {n : Nat} {stored : List Address} {filler : Option Address} {i : Nat}
    (inside : i < stored.length) : (slots n stored filler)[i]? = some (some stored[i]) := by
  rw [slots, List.getElem?_append_left (by rw [List.length_map]; exact inside), List.getElem?_map,
    List.getElem?_eq_getElem inside]
  rfl

theorem getElem?_slots_filler {n : Nat} {stored : List Address} {filler : Option Address} {i : Nat}
    (behind : stored.length ≤ i) (inside : i < n) :
    (slots n stored filler)[i]? = some filler := by
  rw [slots, List.getElem?_append_right (by rw [List.length_map]; exact behind), List.length_map,
    List.getElem?_replicate, if_pos (by omega)]

theorem Holds.sound {n : Nat} {s : Server} {stored : List Address}
    (holds : Holds n s.registry stored) (alive : ∀ ss ∈ stored, ss ∈ s.live) : Sound n s where
  length := by rw [holds.buffer, length_slots holds.fits]
  counter_le := by
    rw [holds.counter]
    exact holds.fits
  stored i inside := by
    rw [holds.counter] at inside
    exact ⟨stored[i], alive _ (List.getElem_mem inside), by
      rw [holds.buffer, getElem?_slots_stored inside]⟩
  distinct i inside j inside' same := by
    rw [holds.counter] at inside inside'
    rw [holds.buffer, getElem?_slots_stored inside, getElem?_slots_stored inside'] at same
    exact (List.Nodup.getElem_inj_iff holds.nodup).mp (Option.some.inj (Option.some.inj same))
  vacant i behind inside := by
    rw [holds.counter] at behind
    rw [holds.buffer, getElem?_slots_filler behind inside]
  broadcast := by
    rw [broadcastConnections, holds.occupied]
    exact ⟨holds.nodup, alive⟩
  destruct := by
    rw [destructedConnections, holds.occupied]
    exact ⟨holds.nodup, alive⟩

/-- **A sound registry is a bounded list of live records.** -/
theorem sound_iff_holds {n : Nat} {s : Server} :
    Sound n s ↔ ∃ stored, Holds n s.registry stored ∧ ∀ ss ∈ stored, ss ∈ s.live := by
  constructor
  · intro sound
    have walk : ∀ i < s.registry.connectionsCounter, ∃ ss ∈ s.live,
        s.registry.walked[i]? = some (some ss) := fun i inside => by
      obtain ⟨ss, alive, here⟩ := sound.stored i inside
      exact ⟨ss, alive, by rw [Registry.walked, List.getElem?_take_of_lt inside, here]⟩
    have count : s.registry.walked.length = s.registry.connectionsCounter := by
      rw [Registry.walked, List.length_take, sound.length, Nat.min_eq_left sound.counter_le]
    have occupied : (s.registry.walked.filterMap id).map some = s.registry.walked := by
      rw [List.map_filterMap]
      have each : ∀ slot ∈ s.registry.walked, (id slot).map some = some slot := by
        intro slot member
        obtain ⟨i, inside, rfl⟩ := List.mem_iff_getElem.mp member
        obtain ⟨ss, _, here⟩ := walk i (count ▸ inside)
        rw [List.getElem?_eq_getElem inside] at here
        rw [Option.some.inj here]
        rfl
      rw [List.filterMap_congr each]
      exact List.filterMap_some
    have size : (s.registry.walked.filterMap id).length = s.registry.connectionsCounter := by
      rw [← count, ← occupied, List.length_map, occupied]
    refine ⟨s.registry.walked.filterMap id, ⟨?_, size.symm, ?_, sound.broadcast.1⟩,
      sound.broadcast.2⟩
    · rw [slots, occupied, size, Registry.walked]
      conv_lhs => rw [← List.take_append_drop s.registry.connectionsCounter
        s.registry.connectionsBuffer]
      congr 1
      refine List.eq_replicate_iff.mpr ⟨by rw [List.length_drop, sound.length], fun slot member => ?_⟩
      obtain ⟨i, inside, rfl⟩ := List.mem_iff_getElem.mp member
      rw [List.length_drop, sound.length] at inside
      have here := sound.vacant (s.registry.connectionsCounter + i) (Nat.le_add_right _ _) (by omega)
      rw [List.getElem_drop]
      exact Option.some.inj ((List.getElem?_eq_getElem _).symm.trans here)
    · rw [size]
      exact sound.counter_le
  · rintro ⟨stored, holds, alive⟩
    exact holds.sound alive

/-! ### One step of a sound registry -/

/-- Deleting the record keeps the registry sound: it is in the registry, and in the last slot if the
table is full. An empty registry ignores deletions. -/
def DeletesSoundly (registry : Registry) (ss : Address) : Prop :=
  registry.connectionsCounter = 0 ∨
    isConnectionInBuffer registry ss = true ∧
      (registry.connectionsCounter = registry.connectionsBuffer.length →
        registry.connectionsBuffer.getLast? = some (some ss))

instance (registry : Registry) (ss : Address) : Decidable (DeletesSoundly registry ss) :=
  inferInstanceAs (Decidable (_ ∨ _))

/-- The steps that keep a registry sound. -/
def KeepsSound (s : Server) : Event → Prop
  | .accept _ => True
  | .close ss | .error ss => DeletesSoundly s.registry ss

instance : ∀ s event, Decidable (KeepsSound s event)
  | _, .accept _ => .isTrue trivial
  | s, .close ss | s, .error ss => inferInstanceAs (Decidable (DeletesSoundly s.registry ss))

section Step

variable {n : Nat} {registry : Registry} {stored : List Address} {ss : Address}

theorem Holds.isConnectionInBuffer_iff (holds : Holds n registry stored) :
    isConnectionInBuffer registry ss = true ↔ ss ∈ stored := by
  rw [TcpServerChannel.isConnectionInBuffer_iff, holds.walked]
  simp

/-- A new record is appended while there is room. -/
theorem Holds.add (holds : Holds n registry stored) (fresh : ss ∉ stored)
    (room : stored.length < n) : Holds n (addConnectionToBuffer registry ss) (stored ++ [ss]) := by
  have notFull : registry.connectionsCounter ≠ registry.connectionsBuffer.length := by
    rw [holds.counter, holds.buffer, length_slots holds.fits]
    omega
  refine ⟨?_, ?_, ?_, ?_⟩
  · rw [addConnectionToBuffer, if_neg notFull, holds.buffer]
    exact storeInFirstFree_slots fresh room
  · rw [addConnectionToBuffer, if_neg notFull, List.length_append, holds.counter]
    rfl
  · rw [List.length_append, List.length_singleton]
    omega
  · refine List.nodup_append.mpr ⟨holds.nodup, List.nodup_singleton ss, ?_⟩
    intro other inside _ here same
    rw [List.mem_singleton.mp here] at same
    exact fresh (same ▸ inside)

/-- A full table ignores a new record. -/
theorem Holds.add_full (holds : Holds n registry stored) (full : stored.length = n) :
    addConnectionToBuffer registry ss = registry := by
  rw [addConnectionToBuffer, if_pos]
  rw [holds.counter, holds.buffer, length_slots holds.fits, full]

theorem Holds.delete_empty (holds : Holds n registry []) :
    deleteConnectionFromBuffer registry ss = registry := by
  rw [deleteConnectionFromBuffer, if_pos (show registry.connectionsCounter = 0 from holds.counter)]

/-- Deleting a stored record from a table with room removes it. -/
theorem Holds.delete (holds : Holds n registry stored) (member : ss ∈ stored)
    (room : stored.length < n) :
    Holds n (deleteConnectionFromBuffer registry ss) (stored.erase ss) := by
  have positive := List.length_pos_of_mem member
  have size := List.length_erase_of_mem member
  have notEmpty : registry.connectionsCounter ≠ 0 := by
    rw [holds.counter]
    omega
  refine ⟨?_, ?_, by omega, holds.nodup.erase ss⟩
  · rw [deleteConnectionFromBuffer, if_neg notEmpty, holds.buffer]
    exact clearConnection_mem member room
  · rw [deleteConnectionFromBuffer, if_neg notEmpty, size, holds.counter]

/-- Deleting the last record of a full table removes it. -/
theorem Holds.delete_last (holds : Holds n registry (stored ++ [ss]))
    (full : stored.length + 1 = n) : Holds n (deleteConnectionFromBuffer registry ss) stored := by
  obtain ⟨nodup, _, apart⟩ := List.nodup_append.mp holds.nodup
  have fresh : ss ∉ stored := fun inside => apart ss inside ss (List.mem_singleton_self ss) rfl
  have notEmpty : registry.connectionsCounter ≠ 0 := by
    rw [holds.counter, List.length_append]
    exact Nat.succ_ne_zero _
  refine ⟨?_, ?_, by omega, nodup⟩
  · rw [deleteConnectionFromBuffer, if_neg notEmpty, holds.buffer, slots_full full]
    exact clearConnection_filler_last fresh full
  · rw [deleteConnectionFromBuffer, if_neg notEmpty, holds.counter, List.length_append]
    rfl

/-- **A full table keeps a copy of its last record** when any other record is deleted. -/
theorem Holds.delete_full {last : Address} (holds : Holds n registry (stored ++ [last]))
    (full : stored.length + 1 = n) (member : ss ∈ stored) :
    deleteConnectionFromBuffer registry ss =
      ⟨slots n (stored.erase ss) (some last), stored.length⟩ := by
  have notEmpty : registry.connectionsCounter ≠ 0 := by
    rw [holds.counter, List.length_append]
    exact Nat.succ_ne_zero _
  rw [deleteConnectionFromBuffer, if_neg notEmpty, holds.buffer, slots_full full,
    clearConnection_mem member (by omega), holds.counter, List.length_append]
  rfl

/-- **A record that is in no slot is counted out all the same.** -/
theorem Holds.delete_absent (holds : Holds n registry stored) (absent : ss ∉ stored)
    (notEmpty : stored ≠ []) :
    deleteConnectionFromBuffer registry ss = ⟨slots n stored none, stored.length - 1⟩ := by
  have positive : registry.connectionsCounter ≠ 0 := by
    rw [holds.counter]
    exact fun zero => notEmpty (List.eq_nil_of_length_eq_zero zero)
  have nowhere : some ss ∉ slots n stored none := fun inside => by
    rcases mem_slots inside with null | ⟨other, member, same⟩
    · cases null
    · exact absent (Option.some.inj same ▸ member)
  rw [deleteConnectionFromBuffer, if_neg positive, holds.buffer, clearConnection_absent nowhere,
    holds.counter]

/-- The last slot of a full table holds the last record. -/
theorem Holds.getLast? {last : Address} (holds : Holds n registry (stored ++ [last]))
    (full : stored.length + 1 = n) :
    registry.connectionsBuffer.getLast? = some (some last) := by
  have count : n - stored.length = 1 := by omega
  rw [holds.buffer, slots_full full, slots, count]
  exact List.getLast?_concat

end Step

/-- A slot behind the counter that still holds a record makes the registry unsound. -/
theorem not_sound_of_slot {n : Nat} {s : Server} (i : Nat) (ss : Address)
    (behind : s.registry.connectionsCounter ≤ i) (inside : i < n)
    (occupied : s.registry.connectionsBuffer[i]? = some (some ss)) : ¬ Sound n s := fun sound => by
  have vacant := sound.vacant i behind inside
  rw [occupied] at vacant
  cases vacant

section Release

variable {n : Nat} {s : Server} {ss : Address} {stored : List Address}

/-- What is left in the registry is still live. -/
theorem kept_live_release (alive : ∀ other ∈ stored, other ∈ s.live) {kept : List Address}
    (subset : ∀ other ∈ kept, other ∈ stored ∧ other ≠ ss) :
    ∀ other ∈ kept, other ∈ (s.release ss).live := fun other inside =>
  Finset.mem_erase.mpr ⟨(subset other inside).2, alive other (subset other inside).1⟩

/-- A full table keeps a copy of its last record. -/
theorem Holds.not_sound_full {front : List Address} {last : Address}
    (holds : Holds n s.registry (front ++ [last])) (full : front.length + 1 = n)
    (inFront : ss ∈ front) : ¬ Sound n (s.release ss) := by
  have size := List.length_erase_of_mem inFront
  refine not_sound_of_slot front.length last ?_ (by omega) ?_
  · show (deleteConnectionFromBuffer s.registry ss).connectionsCounter ≤ front.length
    rw [holds.delete_full full inFront]
  · show (deleteConnectionFromBuffer s.registry ss).connectionsBuffer[front.length]? = _
    rw [holds.delete_full full inFront]
    exact getElem?_slots_filler (by omega) (by omega)

/-- A record that is in no slot pushes the last one behind the counter. -/
theorem Holds.not_sound_absent (holds : Holds n s.registry stored) (absent : ss ∉ stored)
    (notEmpty : stored ≠ []) : ¬ Sound n (s.release ss) := by
  have positive : 0 < stored.length := List.length_pos_iff.mpr notEmpty
  have final : stored.length - 1 < stored.length := by omega
  have fits := holds.fits
  refine not_sound_of_slot (stored.length - 1) stored[stored.length - 1] ?_ (by omega) ?_
  · show (deleteConnectionFromBuffer s.registry ss).connectionsCounter ≤ _
    rw [holds.delete_absent absent notEmpty]
  · show (deleteConnectionFromBuffer s.registry ss).connectionsBuffer[stored.length - 1]? = _
    rw [holds.delete_absent absent notEmpty]
    exact getElem?_slots_stored (by omega)

/-- Of a full table only the last slot can be freed. -/
theorem Holds.sound_release_full_iff {front : List Address} {last : Address}
    (holds : Holds n s.registry (front ++ [last])) (full : front.length + 1 = n)
    (alive : ∀ other ∈ front ++ [last], other ∈ s.live) (inside : ss ∈ front ++ [last]) :
    Sound n (s.release ss) ↔ DeletesSoundly s.registry ss := by
  have apart := (List.nodup_append.mp holds.nodup).2.2
  by_cases isLast : ss = last
  · subst isLast
    refine iff_of_true ((holds.delete_last full).sound (kept_live_release alive fun other kept => ?_))
      (.inr ⟨holds.isConnectionInBuffer_iff.mpr inside, fun _ => holds.getLast? full⟩)
    exact ⟨List.mem_append_left _ kept, apart other kept ss (List.mem_singleton_self ss)⟩
  · have inFront : ss ∈ front := by
      rcases List.mem_append.mp inside with here | there
      · exact here
      · exact absurd (List.mem_singleton.mp there) isLast
    refine iff_of_false (holds.not_sound_full full inFront) ?_
    have filled : s.registry.connectionsCounter = s.registry.connectionsBuffer.length := by
      rw [holds.counter, holds.buffer, length_slots holds.fits, List.length_append,
        List.length_singleton, full]
    rintro (zero | ⟨_, lastSlot⟩)
    · rw [holds.counter, List.length_append] at zero
      exact absurd zero (Nat.succ_ne_zero _)
    · have same := lastSlot filled
      rw [holds.getLast? full] at same
      exact isLast (Option.some.inj (Option.some.inj same)).symm

/-- **One deletion from a sound registry**, exactly. -/
theorem sound_release_iff (sound : Sound n s) :
    Sound n (s.release ss) ↔ DeletesSoundly s.registry ss := by
  obtain ⟨stored, holds, alive⟩ := sound_iff_holds.mp sound
  by_cases empty : stored = []
  · subst empty
    have unchanged : Holds n (s.release ss).registry [] := by
      show Holds n (deleteConnectionFromBuffer s.registry ss) []
      rw [holds.delete_empty]
      exact holds
    exact iff_of_true (unchanged.sound (kept_live_release alive fun _ inside => by cases inside))
      (.inl holds.counter)
  by_cases inside : ss ∈ stored
  case neg =>
    refine iff_of_false (holds.not_sound_absent inside empty) ?_
    rintro (zero | ⟨found, _⟩)
    · exact empty (List.eq_nil_of_length_eq_zero (holds.counter.symm.trans zero))
    · exact inside (holds.isConnectionInBuffer_iff.mp found)
  by_cases room : stored.length < n
  · refine iff_of_true ((holds.delete inside room).sound (kept_live_release alive fun other kept => ?_))
      (.inr ⟨holds.isConnectionInBuffer_iff.mpr inside, fun full => ?_⟩)
    · exact ⟨List.mem_of_mem_erase kept, fun same =>
        (List.Nodup.not_mem_erase holds.nodup) (same ▸ kept)⟩
    · rw [holds.counter, holds.buffer, length_slots holds.fits] at full
      omega
  · obtain ⟨front, last, rfl⟩ := (List.eq_nil_or_concat' stored).resolve_left empty
    have fits := holds.fits
    rw [List.length_append, List.length_singleton] at room fits
    exact holds.sound_release_full_iff (by omega) alive inside

end Release

/-- Accepting a new record keeps a sound registry sound. -/
theorem sound_accept {n : Nat} {s : Server} {ss : Address} (sound : Sound n s)
    (fresh : ss ∉ s.live) : Sound n (s.accept ss) := by
  obtain ⟨stored, holds, alive⟩ := sound_iff_holds.mp sound
  have survive : ∀ other ∈ stored, other ∈ (s.accept ss).live := fun other inside =>
    Finset.mem_insert_of_mem (alive other inside)
  by_cases room : stored.length < n
  · refine (holds.add (fun inside => fresh (alive ss inside)) room).sound fun other inside => ?_
    rcases List.mem_append.mp inside with old | new
    · exact survive other old
    · rw [List.mem_singleton.mp new]
      exact Finset.mem_insert_self ss _
  · have unchanged : Holds n (s.accept ss).registry stored := by
      show Holds n (addConnectionToBuffer s.registry ss) stored
      rw [holds.add_full (by have := holds.fits; omega)]
      exact holds
    exact unchanged.sound survive

theorem sound_initial (n : Nat) : Sound n (initial n) := by
  have holds : Holds n (initial n).registry [] := ⟨rfl, rfl, Nat.zero_le n, List.nodup_nil⟩
  exact holds.sound fun _ inside => by cases inside

/-- **The registry stays sound exactly while every closed record is in it and, if the table is full,
in its last slot.** -/
theorem registry_sound_iff (n : Nat) (events : List Event)
    (valid : server.Valid (initial n) events) :
    server.States (Sound n) (initial n) events ↔ server.Steps KeepsSound (initial n) events := by
  refine server.states_iff_steps (fun s event sound enabled => ?_) (sound_initial n) valid
  cases event with
  | accept ss => exact iff_of_true (sound_accept sound enabled) trivial
  | close ss => exact sound_release_iff sound
  | error ss => exact sound_release_iff sound

/-- A full table that is emptied from its last slot. -/
theorem registry_sound_backwards : server.States (Sound 2) (initial 2)
    [.accept 1, .accept 2, .close 2, .accept 3, .error 3, .close 1] :=
  (registry_sound_iff 2 _ (by decide)).mpr (by decide)

/-- Two slots, both taken; the first record closes, a third connects, the second record closes. The
deletion from the full table leaves a copy of record 2 in the last slot, the next `accept` counts
that copy in, and broadcast `tx` then sends to record 2 twice and, after it was freed, once more. -/
theorem registry_dangling :
    server.Valid (initial 2) [.accept 1, .accept 2, .close 1, .accept 3, .close 2] ∧
      ¬ server.States (Sound 2) (initial 2) [.accept 1, .accept 2, .close 1] ∧
      broadcastConnections
        (server.run (initial 2) [.accept 1, .accept 2, .close 1, .accept 3]).registry = [2, 2] ∧
      broadcastConnections (server.run (initial 2)
        [.accept 1, .accept 2, .close 1, .accept 3, .close 2]).registry = [2] ∧
      2 ∉ (server.run (initial 2) [.accept 1, .accept 2, .close 1, .accept 3, .close 2]).live := by
  refine ⟨by decide, fun good => ?_, by decide, by decide, by decide⟩
  exact absurd (good.last.vacant 1 (by decide) (by decide)) (by decide)

/-! ### Reachable connections -/

/-- `tx` serves the record: by explicit parameter (the registry is not empty and the record is
found) and by broadcast. -/
structure Served (registry : Registry) (ss : Address) : Prop where
  counted : registry.connectionsCounter ≠ 0
  found : isConnectionInBuffer registry ss = true
  broadcast : ss ∈ broadcastConnections registry

theorem served_of_walked {registry : Registry} {ss : Address} (member : some ss ∈ registry.walked) :
    Served registry ss :=
  ⟨counter_ne_zero_of_walked member, isConnectionInBuffer_iff.mpr member,
    mem_broadcastConnections.mpr member⟩

/-- Every stored record that was not closed is served. -/
def StoredServed (s : Server) : Prop := ∀ ss ∈ s.stored, Served s.registry ss

/-- The step does not delete a pointer that is not stored, or leaves the registry as it was. -/
def KeepsOthers (s : Server) : Event → Prop
  | .accept _ => True
  | .close ss | .error ss => isConnectionInBuffer s.registry ss = false →
      deleteConnectionFromBuffer s.registry ss = s.registry

/-- The closed record is in the registry. An empty registry ignores deletions. -/
def ClosesStored (s : Server) : Event → Prop
  | .accept _ => True
  | .close ss | .error ss =>
    s.registry.connectionsCounter = 0 ∨ isConnectionInBuffer s.registry ss = true

instance : ∀ s event, Decidable (ClosesStored s event)
  | _, .accept _ => .isTrue trivial
  | s, .close ss | s, .error ss =>
    inferInstanceAs (Decidable (s.registry.connectionsCounter = 0 ∨
      isConnectionInBuffer s.registry ss = true))

/-- Deleting a pointer that is not stored leaves the registry alone only if the registry is empty:
the counter is decremented in any case. -/
theorem delete_absent_iff {registry : Registry} {ss : Address} :
    (isConnectionInBuffer registry ss = false →
        deleteConnectionFromBuffer registry ss = registry) ↔
      (registry.connectionsCounter = 0 ∨ isConnectionInBuffer registry ss = true) := by
  by_cases empty : registry.connectionsCounter = 0
  · exact iff_of_true (fun _ => by rw [deleteConnectionFromBuffer, if_pos empty]) (.inl empty)
  by_cases found : isConnectionInBuffer registry ss = true
  · exact iff_of_true (fun absent => absurd (found.symm.trans absent) (by decide)) (.inr found)
  · refine iff_of_false (fun frame => ?_) (not_or.mpr ⟨empty, found⟩)
    have same := congrArg Registry.connectionsCounter (frame (Bool.eq_false_iff.mpr found))
    rw [deleteConnectionFromBuffer, if_neg empty] at same
    exact empty (by have : registry.connectionsCounter - 1 = registry.connectionsCounter := same
                    omega)

/-! ### The array in a run that only closes stored records -/

/-- The registry is a list of live records, every stored record among them. -/
structure Lists (n : Nat) (s : Server) (kept : List Address) : Prop where
  holds : Holds n s.registry kept
  alive : ∀ ss ∈ kept, ss ∈ s.live
  stored : ∀ ss ∈ s.stored, ss ∈ kept

/-- The array has no `NULL` slot left: the live records `kept`, then copies of the one record `last`
that was in the last slot when the table was full. The counter covers `kept` and, while `last` is
live, one of its copies. -/
structure Copies (n : Nat) (s : Server) (kept : List Address) (last : Address) : Prop where
  buffer : s.registry.connectionsBuffer = slots n kept (some last)
  room : kept.length < n
  nodup : kept.Nodup
  apart : last ∉ kept
  counter_le : s.registry.connectionsCounter ≤ n
  covers : kept.length ≤ s.registry.connectionsCounter
  coversLast : last ∈ s.live → kept.length < s.registry.connectionsCounter
  alive : ∀ ss ∈ kept, ss ∈ s.live
  stored : ∀ ss ∈ s.stored, ss ∈ s.live ∧ (ss ∈ kept ∨ ss = last)

/-- How the array looks in a run that only closes stored records. -/
def Layout (n : Nat) (s : Server) : Prop :=
  (∃ kept, Lists n s kept) ∨ ∃ kept last, Copies n s kept last

theorem Layout.storedServed {n : Nat} {s : Server} (layout : Layout n s) : StoredServed s := by
  intro ss member
  refine served_of_walked ?_
  rcases layout with ⟨kept, lists⟩ | ⟨kept, last, copies⟩
  · rw [lists.holds.walked]
    exact List.mem_map_of_mem (lists.stored ss member)
  · rw [Registry.walked, copies.buffer, take_slots copies.covers]
    obtain ⟨live, inside | rfl⟩ := copies.stored ss member
    · exact List.mem_append_left _ (List.mem_map_of_mem inside)
    · have below := copies.coversLast live
      have room := copies.room
      exact List.mem_append_right _ (List.mem_replicate.mpr ⟨by omega, rfl⟩)

section LayoutStep

variable {n : Nat} {s : Server} {ss last other : Address} {kept : List Address}

theorem live_accept (live : other ∈ s.live) : other ∈ (s.accept ss).live :=
  Finset.mem_insert_of_mem live

theorem stored_accept (member : other ∈ (s.accept ss).stored) :
    other ∈ s.stored ∨ other = ss ∧ storesConnection s.registry ss := by
  unfold Server.accept at member
  dsimp only at member
  split at member
  · rename_i stores
    rcases Finset.mem_insert.mp member with new | old
    · exact .inr ⟨new, stores⟩
    · exact .inl old
  · exact .inl member

theorem live_release (live : other ∈ s.live) (different : other ≠ ss) :
    other ∈ (s.release ss).live := Finset.mem_erase.mpr ⟨different, live⟩

theorem stored_release (member : other ∈ (s.release ss).stored) : other ∈ s.stored ∧ other ≠ ss :=
  ⟨Finset.mem_of_mem_erase member, Finset.ne_of_mem_erase member⟩

theorem mem_erase_of_nodup (nodup : kept.Nodup) (inside : other ∈ kept.erase ss) :
    other ∈ kept ∧ other ≠ ss :=
  ⟨List.mem_of_mem_erase inside, fun same => List.Nodup.not_mem_erase nodup (same ▸ inside)⟩

theorem Lists.accept (lists : Lists n s kept) (fresh : ss ∉ s.live) :
    ∃ kept', Lists n (s.accept ss) kept' := by
  obtain ⟨holds, alive, stored⟩ := lists
  have fits := holds.fits
  by_cases room : kept.length < n
  · refine ⟨kept ++ [ss], holds.add (fun inside => fresh (alive ss inside)) room,
      fun other inside => ?_, fun other inside => ?_⟩
    · rcases List.mem_append.mp inside with old | here
      · exact live_accept (alive other old)
      · rw [List.mem_singleton.mp here]
        exact Finset.mem_insert_self ss _
    · rcases stored_accept inside with old | ⟨rfl, _⟩
      · exact List.mem_append_left _ (stored other old)
      · exact List.mem_append_right _ (List.mem_singleton_self other)
  · have full : kept.length = n := by omega
    have unchanged : (s.accept ss).registry = s.registry := holds.add_full full
    refine ⟨kept, unchanged ▸ holds, fun other inside => live_accept (alive other inside),
      fun other inside => ?_⟩
    rcases stored_accept inside with old | ⟨_, notFull, _⟩
    · exact stored other old
    · exact absurd (by rw [holds.counter, holds.buffer, length_slots fits, full]) notFull

/-- With no free slot the array stays as it is, and only the counter may move. -/
theorem Copies.accept (copies : Copies n s kept last) (fresh : ss ∉ s.live) :
    Copies n (s.accept ss) kept last := by
  obtain ⟨buffer, room, nodup, apart, counter_le, covers, coversLast, alive, stored⟩ := copies
  have new : ss ∉ kept := fun inside => fresh (alive ss inside)
  have length : s.registry.connectionsBuffer.length = n := by
    rw [buffer, length_slots (Nat.le_of_lt room)]
  have registry : (s.accept ss).registry =
      ⟨slots n kept (some last), min n (s.registry.connectionsCounter + 1)⟩ := by
    show addConnectionToBuffer s.registry ss = _
    unfold addConnectionToBuffer
    split
    · rename_i full
      rw [← buffer, Nat.min_eq_left (by omega), ← length, ← full]
    · rename_i notFull
      rw [buffer, storeInFirstFree_match new, Nat.min_eq_right (by omega)]
  have counter := congrArg Registry.connectionsCounter registry
  dsimp only at counter
  refine ⟨by rw [registry], room, nodup, apart, by omega, by omega, fun live => ?_,
    fun other inside => live_accept (alive other inside), fun other inside => ?_⟩
  · rcases Finset.mem_insert.mp live with _ | old
    · omega
    · have := coversLast old
      omega
  · rcases stored_accept inside with old | ⟨rfl, _, found⟩
    · exact ⟨live_accept (stored other old).1, (stored other old).2⟩
    · refine ⟨Finset.mem_insert_self other _, ?_⟩
      rw [buffer, storeInFirstFree_match new] at found
      rcases mem_slots found with same | ⟨_, inside, same⟩
      · exact .inr (Option.some.inj same)
      · exact .inl (Option.some.inj same ▸ inside)

theorem Lists.release_room (lists : Lists n s kept) (member : ss ∈ kept) (room : kept.length < n) :
    Lists n (s.release ss) (kept.erase ss) := by
  refine ⟨lists.holds.delete member room, fun other inside => ?_, fun other inside => ?_⟩
  · obtain ⟨old, different⟩ := mem_erase_of_nodup lists.holds.nodup inside
    exact live_release (lists.alive other old) different
  · obtain ⟨old, different⟩ := stored_release inside
    exact (List.mem_erase_of_ne different).mpr (lists.stored other old)

theorem mem_concat_ne (nodup : (kept ++ [last]).Nodup) (inside : other ∈ kept) : other ≠ last :=
  (List.nodup_append.mp nodup).2.2 other inside last (List.mem_singleton_self last)

theorem mem_concat_cases (inside : other ∈ kept ++ [last]) : other ∈ kept ∨ other = last :=
  (List.mem_append.mp inside).imp_right List.mem_singleton.mp

theorem Lists.release_last (lists : Lists n s (kept ++ [ss])) (full : kept.length + 1 = n) :
    Lists n (s.release ss) kept := by
  refine ⟨lists.holds.delete_last full, fun other inside => ?_, fun other inside => ?_⟩
  · exact live_release (lists.alive other (List.mem_append_left _ inside))
      (mem_concat_ne lists.holds.nodup inside)
  · obtain ⟨old, different⟩ := stored_release inside
    exact (mem_concat_cases (lists.stored other old)).resolve_right different

/-- A deletion from a full table that is not of its last record leaves a copy of the latter. -/
theorem Lists.release_full (lists : Lists n s (kept ++ [last])) (full : kept.length + 1 = n)
    (member : ss ∈ kept) : Copies n (s.release ss) (kept.erase ss) last := by
  obtain ⟨holds, alive, stored⟩ := lists
  have size := List.length_erase_of_mem member
  have positive := List.length_pos_of_mem member
  have nodup := (List.nodup_append.mp holds.nodup).1
  have registry : (s.release ss).registry = ⟨slots n (kept.erase ss) (some last), kept.length⟩ :=
    holds.delete_full full member
  have counter := congrArg Registry.connectionsCounter registry
  dsimp only at counter
  refine ⟨by rw [registry], by omega, nodup.erase ss, fun inside => ?_, by omega, by omega,
    fun _ => by omega, fun other inside => ?_, fun other inside => ?_⟩
  · exact mem_concat_ne holds.nodup (List.mem_of_mem_erase inside) rfl
  · obtain ⟨old, different⟩ := mem_erase_of_nodup nodup inside
    exact live_release (alive other (List.mem_append_left _ old)) different
  · obtain ⟨old, different⟩ := stored_release inside
    exact ⟨live_release (alive other (stored other old)) different,
      (mem_concat_cases (stored other old)).imp_left (List.mem_erase_of_ne different).mpr⟩

/-- What a deletion does to a registry that is not empty. -/
theorem release_registry (s : Server) (ss : Address)
    (counted : s.registry.connectionsCounter ≠ 0) :
    (s.release ss).registry =
      ⟨clearConnection s.registry.connectionsBuffer ss, s.registry.connectionsCounter - 1⟩ := by
  show deleteConnectionFromBuffer s.registry ss = _
  rw [deleteConnectionFromBuffer, if_neg counted]

theorem Copies.release_empty (copies : Copies n s kept last)
    (zero : s.registry.connectionsCounter = 0) : Copies n (s.release ss) kept last := by
  obtain ⟨buffer, room, nodup, apart, counter_le, covers, coversLast, alive, stored⟩ := copies
  have unchanged : (s.release ss).registry = s.registry := by
    show deleteConnectionFromBuffer s.registry ss = _
    rw [deleteConnectionFromBuffer, if_pos zero]
  have nobody : kept = [] := List.eq_nil_of_length_eq_zero (by omega)
  subst nobody
  refine ⟨by rw [unchanged, buffer], room, nodup, apart, by rw [unchanged]; exact counter_le,
    Nat.zero_le _, fun live => ?_, fun _ inside => absurd inside List.not_mem_nil,
    fun other inside => ?_⟩
  · rw [unchanged]
    exact coversLast (Finset.mem_of_mem_erase live)
  · obtain ⟨old, different⟩ := stored_release inside
    exact ⟨live_release (stored other old).1 different, (stored other old).2⟩

theorem Copies.release_kept (copies : Copies n s kept last) (member : ss ∈ kept) :
    Copies n (s.release ss) (kept.erase ss) last := by
  obtain ⟨buffer, room, nodup, apart, counter_le, covers, coversLast, alive, stored⟩ := copies
  have size := List.length_erase_of_mem member
  have positive := List.length_pos_of_mem member
  have registry := release_registry s ss (by omega)
  rw [buffer, clearConnection_mem member room] at registry
  have counter := congrArg Registry.connectionsCounter registry
  dsimp only at counter
  refine ⟨by rw [registry], by omega, nodup.erase ss,
    fun inside => apart (List.mem_of_mem_erase inside), by omega, by omega, fun live => ?_,
    fun other inside => ?_, fun other inside => ?_⟩
  · have := coversLast (Finset.mem_of_mem_erase live)
    omega
  · obtain ⟨old, different⟩ := mem_erase_of_nodup nodup inside
    exact live_release (alive other old) different
  · obtain ⟨old, different⟩ := stored_release inside
    exact ⟨live_release (stored other old).1 different,
      (stored other old).2.imp_left (List.mem_erase_of_ne different).mpr⟩

/-- Closing the copied record itself frees a slot only if that is the last one. -/
theorem Copies.release_last (copies : Copies n s kept ss) (live : ss ∈ s.live) :
    Layout n (s.release ss) := by
  obtain ⟨buffer, room, nodup, apart, counter_le, covers, coversLast, alive, stored⟩ := copies
  have counted := coversLast live
  have registry := release_registry s ss (by omega)
  rw [buffer] at registry
  have counter := congrArg Registry.connectionsCounter registry
  dsimp only at counter
  have survive : ∀ other ∈ kept, other ∈ (s.release ss).live := fun other inside =>
    live_release (alive other inside) fun same => apart (same ▸ inside)
  by_cases lastSlot : kept.length + 1 = n
  · rw [clearConnection_filler_last apart lastSlot] at registry
    refine .inl ⟨kept, ⟨by rw [registry], by omega, Nat.le_of_lt room, nodup⟩, survive,
      fun other inside => ?_⟩
    obtain ⟨old, different⟩ := stored_release inside
    exact (stored other old).2.resolve_right different
  · rw [clearConnection_filler apart (by omega)] at registry
    refine .inr ⟨kept, ss, by rw [registry], room, nodup, apart, by omega, by omega,
      fun inside => absurd rfl (Finset.ne_of_mem_erase inside), survive, fun other inside => ?_⟩
    obtain ⟨old, different⟩ := stored_release inside
    exact ⟨live_release (stored other old).1 different, (stored other old).2⟩

/-- Accepting a new record keeps the layout. -/
theorem Layout.accept (layout : Layout n s) (fresh : ss ∉ s.live) : Layout n (s.accept ss) := by
  rcases layout with ⟨kept, lists⟩ | ⟨kept, last, copies⟩
  · exact .inl (lists.accept fresh)
  · exact .inr ⟨kept, last, copies.accept fresh⟩

/-- Closing a live record that the registry holds keeps the layout. -/
theorem Layout.release (layout : Layout n s) (live : ss ∈ s.live)
    (closes : s.registry.connectionsCounter = 0 ∨ isConnectionInBuffer s.registry ss = true) :
    Layout n (s.release ss) := by
  rcases layout with ⟨kept, lists⟩ | ⟨kept, last, copies⟩
  · by_cases empty : kept = []
    · subst empty
      have unchanged : (s.release ss).registry = s.registry := lists.holds.delete_empty
      exact .inl ⟨[], unchanged ▸ lists.holds, fun _ inside => absurd inside List.not_mem_nil,
        fun other inside => lists.stored other (stored_release inside).1⟩
    have member : ss ∈ kept := by
      rcases closes with zero | found
      · rw [lists.holds.counter] at zero
        exact absurd (List.eq_nil_of_length_eq_zero zero) empty
      · exact lists.holds.isConnectionInBuffer_iff.mp found
    by_cases room : kept.length < n
    · exact .inl ⟨_, lists.release_room member room⟩
    obtain ⟨front, last, rfl⟩ := (List.eq_nil_or_concat' kept).resolve_left empty
    have fits := lists.holds.fits
    rw [List.length_append, List.length_singleton] at room fits
    have full : front.length + 1 = n := by omega
    rcases mem_concat_cases member with inFront | rfl
    · exact .inr ⟨_, _, lists.release_full full inFront⟩
    · exact .inl ⟨_, lists.release_last full⟩
  · rcases closes with zero | found
    · exact .inr ⟨kept, last, copies.release_empty zero⟩
    have inside := isConnectionInBuffer_iff.mp found
    rw [Registry.walked, copies.buffer] at inside
    rcases mem_slots (List.mem_of_mem_take inside) with same | ⟨other, inKept, same⟩
    · obtain rfl := Option.some.inj same
      exact copies.release_last live
    · obtain rfl := Option.some.inj same
      exact .inr ⟨_, _, copies.release_kept inKept⟩

end LayoutStep

theorem layout_initial (n : Nat) : Layout n (initial n) :=
  .inl ⟨[], ⟨rfl, rfl, Nat.zero_le n, List.nodup_nil⟩, fun _ inside => absurd inside List.not_mem_nil,
    fun _ inside => absurd inside (Finset.notMem_empty _)⟩

theorem layout_step {n : Nat} (s : Server) (event : Event) (layout : Layout n s)
    (enabled : server.enabled s event) (closes : ClosesStored s event) :
    Layout n (server.next s event) := by
  cases event with
  | accept ss => exact layout.accept enabled
  | close ss => exact layout.release enabled closes
  | error ss => exact layout.release enabled closes

/-- **Closing one connection makes no other one unreachable exactly while every closed record is in
the registry.** -/
theorem registry_reachable_iff (n : Nat) (events : List Event)
    (valid : server.Valid (initial n) events) :
    server.States StoredServed (initial n) events ∧
        server.Steps KeepsOthers (initial n) events ↔
      server.Steps ClosesStored (initial n) events := by
  have frame : ∀ s event, KeepsOthers s event ↔ ClosesStored s event := by
    rintro s (ss | ss | ss)
    · exact Iff.rfl
    · exact delete_absent_iff
    · exact delete_absent_iff
  constructor
  · rintro ⟨_, keeps⟩
    exact keeps.mono fun s event => (frame s event).mp
  · intro closes
    exact ⟨(server.states_of_steps layout_step (layout_initial n) valid closes).mono
      fun s layout => layout.storedServed, closes.mono fun s event => (frame s event).mpr⟩

/-- Stored connections that close in the order they came, through a full table. -/
theorem registry_reachable_forwards :
    server.States StoredServed (initial 2) [.accept 1, .accept 2, .close 1, .accept 3, .error 2] ∧
      server.Steps KeepsOthers (initial 2) [.accept 1, .accept 2, .close 1, .accept 3, .error 2] :=
  (registry_reachable_iff 2 _ (by decide)).mpr (by decide)

/-- Two slots and three connections: the third is live but not stored. Closing it counts the second,
stored and live connection out of the registry. -/
theorem registry_unreachable :
    server.Valid (initial 2) [.accept 1, .accept 2, .accept 3, .close 3] ∧
      2 ∈ (server.run (initial 2) [.accept 1, .accept 2, .accept 3, .close 3]).stored ∧
      isConnectionInBuffer
        (server.run (initial 2) [.accept 1, .accept 2, .accept 3, .close 3]).registry 2 = false ∧
      2 ∉ broadcastConnections
        (server.run (initial 2) [.accept 1, .accept 2, .accept 3, .close 3]).registry ∧
      isConnectionInBuffer
        (server.run (initial 2) [.accept 1, .accept 2, .accept 3]).registry 3 = false ∧
      deleteConnectionFromBuffer
          (server.run (initial 2) [.accept 1, .accept 2, .accept 3]).registry 3 ≠
        (server.run (initial 2) [.accept 1, .accept 2, .accept 3]).registry := by
  decide

end Jblib.Ethutilities.TcpServerChannel
