/-
**The life of a reference-counted buffer.**

* `Recorded` — the operations on buffers with a log of what they allocate, access and deallocate;
  without the log they are those operations (`Recorded.result_free` and its like).
* `Life` — a buffer is unused, then allocated, then deallocated, and is only accessed in between.
* `Lives heap log heap'` — the events of every buffer lead from its state in `heap` to that in
  `heap'`; so they do for the log of each operation (`Recorded.of_free` and its like), and
  `Lives.trans` joins logs.
* **`Lives.count_removed`**, **`Lives.untouched_later`** — what is taken out of a list was deallocated
  once, and not touched afterwards. `Lives.count_kept`: what stays there was not deallocated.
-/

import EthUtilities.Library.Logged
import EthUtilities.Library.PbufHeap

namespace Library.PbufHeap

/-- What happens to a buffer. -/
inductive PbufEvent
  | allocate (p : Nat)
  | access (p : Nat)
  | deallocate (p : Nat)
  deriving DecidableEq

def PbufEvent.address : PbufEvent → Nat
  | .allocate p | .access p | .deallocate p => p

/-- A computation that logs what it does to buffers. -/
abbrev Recording := Logged PbufEvent Fault

/-! ### The operations with their log -/

namespace Recorded

def read (heap : Heap) (p : Nat) : Recording Pbuf := do
  let buf ← Logged.lift (heap.read p)
  Logged.log (.access p)
  pure buf

def alloc (heap : Heap) (length : Nat) : Recording (Heap × Nat) := do
  Logged.log (.allocate heap.size)
  pure (heap.alloc length)

def memcpy (heap : Heap) (p : Nat) (data : List UInt8) : Recording Heap := do
  let buf ← read heap p
  if data.length ≤ buf.payload.length then
    pure (heap.set p (some { buf with payload := data ++ buf.payload.drop data.length }))
  else Logged.fault (.overflow p)

def addRef (heap : Heap) (p : Nat) : Recording Heap := do
  let buf ← read heap p
  pure (heap.set p (some { buf with ref := buf.ref + 1 }))

def last (heap : Heap) : Nat → Nat → Recording Nat
  | 0, _ => Logged.fault .diverges
  | fuel + 1, p => do
    let buf ← read heap p
    match buf.next with
    | none => pure p
    | some next => last heap fuel next

def chain (heap : Heap) (head tail : Nat) : Recording Heap := do
  let p ← last heap (heap.size + 1) head
  let buf ← read heap p
  addRef (heap.set p (some { buf with next := some tail })) tail

def freeLoop : Nat → Heap → Option Nat → Nat → Recording (Heap × Nat)
  | 0, _, _, _ => Logged.fault .diverges
  | _ + 1, heap, none, count => pure (heap, count)
  | fuel + 1, heap, some p, count => do
    let buf ← read heap p
    match buf.ref with
    | 0 => Logged.fault (.underflow p)
    | 1 => do
      Logged.log (.deallocate p)
      freeLoop fuel (heap.set p none) buf.next ((count + 1) % 256)
    | ref + 2 => pure (heap.set p (some { buf with ref := ref + 1 }), count)

def free (heap : Heap) (p : Nat) : Recording (Heap × Nat) :=
  freeLoop (heap.size + 1) heap (some p) 0

section Erasure

variable (heap : Heap) (p : Nat)

@[simp] theorem result_read : (read heap p).result = heap.read p := by
  simp only [read, Logged.result_bind, Logged.result_lift, Logged.result_log, Logged.result_pure]
  cases heap.read p <;> rfl

@[simp] theorem result_alloc (length : Nat) :
    (alloc heap length).result = .ok (heap.alloc length) := rfl

@[simp] theorem result_memcpy (data : List UInt8) :
    (memcpy heap p data).result = heap.memcpy p data := by
  simp only [memcpy, Logged.result_bind, result_read, Logged.result_ite, Logged.result_pure,
    Logged.result_fault]
  rfl

@[simp] theorem result_addRef : (addRef heap p).result = heap.addRef p := by
  simp only [addRef, Logged.result_bind, result_read, Logged.result_pure]
  rfl

@[simp] theorem result_last (fuel : Nat) : (last heap fuel p).result = heap.last fuel p := by
  induction fuel generalizing p with
  | zero => rfl
  | succ fuel ih =>
    simp only [last, Heap.last, Logged.result_bind, result_read]
    show Except.bind _ _ = Except.bind _ _
    congr
    ext buf
    cases buf.next with
    | none => rfl
    | some next => rw [ih]

@[simp] theorem result_chain (tail : Nat) : (chain heap p tail).result = heap.chain p tail := by
  simp only [chain, Logged.result_bind, result_last, result_read, result_addRef]
  rfl

@[simp] theorem result_freeLoop (fuel : Nat) (start : Option Nat) (count : Nat) :
    (freeLoop fuel heap start count).result = Heap.freeLoop fuel heap start count := by
  induction fuel generalizing heap start count with
  | zero => rfl
  | succ fuel ih =>
    cases start with
    | none => rfl
    | some p =>
      simp only [freeLoop, Heap.freeLoop, Logged.result_bind, result_read]
      show Except.bind _ _ = Except.bind _ _
      congr
      ext buf
      rcases buf.ref with _ | _ | ref
      · rfl
      · rw [Logged.result_bind]
        exact ih _ _ _
      · rfl

@[simp] theorem result_free : (free heap p).result = heap.free p := result_freeLoop heap _ _ _

end Erasure

end Recorded

/-! ### The life of a buffer -/

inductive Life
  | unused
  | allocated
  | deallocated
  deriving DecidableEq

/-- What a buffer is after an event; there is no answer to an event that must not happen. -/
def Life.after : Life → PbufEvent → Option Life
  | .unused, .allocate _ => some .allocated
  | .allocated, .access _ => some .allocated
  | .allocated, .deallocate _ => some .deallocated
  | _, _ => none

/-- An address is unused until `alloc` returns it. -/
def Heap.life (heap : Heap) (p : Nat) : Life :=
  if heap.size ≤ p then .unused else if (heap.get p).isSome then .allocated else .deallocated

/-- The events of one buffer. -/
def eventsOf (p : Nat) (log : List PbufEvent) : List PbufEvent := log.filter (·.address = p)

/-- **The events of every buffer lead from its state in one heap to that in the other.** -/
def Lives (heap : Heap) (log : List PbufEvent) (heap' : Heap) : Prop :=
  ∀ p, (eventsOf p log).foldlM Life.after (heap.life p) = some (heap'.life p)

section Life

variable {heap heap' heap'' : Heap} {log first second : List PbufEvent} {p q : Nat} {buf : Pbuf}
  {life life' : Life}

theorem Heap.life_of_get (found : heap.get p = some buf) : heap.life p = .allocated := by
  rw [life, if_neg (Nat.not_le_of_lt (lt_size_of_get found)), found]
  rfl

theorem Heap.life_eq_allocated_iff : heap.life p = .allocated ↔ heap.get p ≠ none := by
  constructor
  · intro lives none
    rw [life, none] at lives
    split at lives <;> cases lives
  · intro some
    obtain ⟨buf, found⟩ := Option.ne_none_iff_exists'.mp some
    exact life_of_get found

theorem Heap.life_of_none (used : p < heap.size) (gone : heap.get p = none) :
    heap.life p = .deallocated := by
  rw [life, if_neg (Nat.not_le_of_lt used), gone]
  rfl

theorem Heap.life_congr (size : heap'.size = heap.size)
    (same : (heap'.get p).isSome = (heap.get p).isSome) : heap'.life p = heap.life p := by
  rw [life, life, size, same]

theorem eventsOf_append : eventsOf p (first ++ second) = eventsOf p first ++ eventsOf p second :=
  List.filter_append _ _

theorem Lives.trans (before : Lives heap first heap') (behind : Lives heap' second heap'') :
    Lives heap (first ++ second) heap'' := by
  intro p
  rw [eventsOf_append, List.foldlM_append, before p]
  exact behind p

/-- What changes contents only. -/
theorem Lives.same (size : heap'.size = heap.size)
    (same : ∀ p, (heap'.get p).isSome = (heap.get p).isSome) : Lives heap [] heap' := fun p => by
  rw [Heap.life_congr size (same p)]
  rfl

theorem Lives.refl (heap : Heap) : Lives heap [] heap := .same rfl fun _ => rfl

/-- One event is one of its own buffer; the others live on as they do. -/
theorem Lives.single (p : Nat) {event : PbufEvent} (own : event.address = p)
    (here : Life.after (heap.life p) event = some (heap'.life p))
    (others : ∀ q, q ≠ p → heap'.life q = heap.life q) : Lives heap [event] heap' := by
  intro q
  by_cases same : q = p
  · subst same
    simp [eventsOf, own, here]
  · rw [others q same]
    simp [eventsOf, own, Ne.symm same]

theorem Lives.access (found : heap.get p = some buf) : Lives heap [.access p] heap := by
  refine .single p rfl ?_ fun _ _ => rfl
  rw [Heap.life_of_get found]
  rfl

theorem Lives.update (found : heap.get p = some buf) (cell : Pbuf) :
    Lives heap [] (heap.set p (some cell)) := by
  refine .same Heap.size_set fun q => ?_
  by_cases here : q = p
  · rw [here, Heap.get_set_self found, found]
    rfl
  · rw [Heap.get_set_of_ne here]

theorem Lives.deallocate (found : heap.get p = some buf) :
    Lives heap [.deallocate p] (heap.set p none) := by
  refine .single p rfl ?_ fun q other => ?_
  · have used : p < (heap.set p none).size := by
      rw [Heap.size_set]
      exact Heap.lt_size_of_get found
    rw [Heap.life_of_get found, Heap.life_of_none used (Heap.get_set_self found)]
    rfl
  · exact Heap.life_congr Heap.size_set (by rw [Heap.get_set_of_ne other])

theorem Lives.allocate (heap : Heap) (length : Nat) :
    Lives heap [.allocate heap.size] (heap.alloc length).1 := by
  have grown : (heap.alloc length).1.size = heap.size + 1 := List.length_append
  refine .single heap.size rfl ?_ fun q other => ?_
  · rw [Heap.life_of_get (heap.get_alloc_self length), Heap.life, if_pos (Nat.le_refl _)]
    rfl
  · by_cases old : q < heap.size
    · have here : ¬ heap.size ≤ q := Nat.not_le_of_lt old
      have there : ¬ heap.size + 1 ≤ q := by omega
      rw [Heap.life, Heap.life, grown, if_neg there, if_neg here, Heap.get_alloc_of_lt length old]
    · have there : heap.size + 1 ≤ q := by omega
      rw [Heap.life, Heap.life, grown, if_pos there, if_pos (Nat.le_of_not_lt old)]

end Life

/-! ### The operations -/

section Operations

variable {heap heap' : Heap} {log : List PbufEvent} {p : Nat}

/-- A step that does nothing. -/
theorem Recorded.of_pure {α : Type} {a a' : α} (ran : (pure a : Recording α).Returns log a')
    (f : α → Heap) : Lives (f a) log (f a') := by
  obtain ⟨rfl, rfl⟩ := Logged.returns_pure_iff.mp ran
  exact .refl _

theorem Recorded.of_read {buf : Pbuf} (ran : (Recorded.read heap p).Returns log buf) :
    heap.get p = some buf ∧ Lives heap log heap := by
  simp only [Recorded.read, Logged.returns_bind_iff, Logged.returns_lift_iff,
    Logged.returns_log_iff, Logged.returns_pure_iff] at ran
  obtain ⟨_, buf', _, ⟨rfl, found⟩, ⟨_, _, _, rfl, ⟨rfl, rfl⟩, rfl⟩, rfl⟩ := ran
  have here : heap.get p = some buf' := by
    unfold Heap.read at found
    split at found
    case h_1 => rwa [← Except.ok.inj found]
    case h_2 => cases found
  exact ⟨here, .access here⟩

theorem Recorded.of_alloc {length : Nat} {allocated : Heap × Nat}
    (ran : (Recorded.alloc heap length).Returns log allocated) :
    allocated = heap.alloc length ∧ Lives heap log allocated.1 := by
  simp only [Recorded.alloc, Logged.returns_bind_iff, Logged.returns_log_iff,
    Logged.returns_pure_iff] at ran
  obtain ⟨_, _, _, rfl, ⟨rfl, rfl⟩, rfl⟩ := ran
  exact ⟨rfl, .allocate heap length⟩

theorem Recorded.of_memcpy {data : List UInt8}
    (ran : (Recorded.memcpy heap p data).Returns log heap') : Lives heap log heap' := by
  obtain ⟨first, buf, second, readBuf, copied, rfl⟩ := Logged.returns_bind_iff.mp ran
  obtain ⟨found, lives⟩ := Recorded.of_read readBuf
  split at copied
  case isTrue fits =>
    obtain ⟨rfl, rfl⟩ := Logged.returns_pure_iff.mp copied
    exact lives.trans (.update found _)
  case isFalse tooLong => exact absurd copied Logged.not_returns_fault

theorem Recorded.of_addRef (ran : (Recorded.addRef heap p).Returns log heap') :
    Lives heap log heap' := by
  obtain ⟨first, buf, second, readBuf, counted, rfl⟩ := Logged.returns_bind_iff.mp ran
  obtain ⟨found, lives⟩ := Recorded.of_read readBuf
  obtain ⟨rfl, rfl⟩ := Logged.returns_pure_iff.mp counted
  exact lives.trans (.update found _)

theorem Recorded.of_last {fuel : Nat} {finish : Nat}
    (ran : (Recorded.last heap fuel p).Returns log finish) : Lives heap log heap := by
  induction fuel generalizing p log with
  | zero => exact absurd ran Logged.not_returns_fault
  | succ fuel ih =>
    obtain ⟨first, buf, second, readBuf, further, rfl⟩ := Logged.returns_bind_iff.mp ran
    obtain ⟨found, lives⟩ := Recorded.of_read readBuf
    refine lives.trans ?_
    cases next : buf.next with
    | none =>
      rw [next] at further
      obtain ⟨rfl, -⟩ := Logged.returns_pure_iff.mp further
      exact .refl heap
    | some q =>
      rw [next] at further
      exact ih further

theorem Recorded.of_chain {tail : Nat} (ran : (Recorded.chain heap p tail).Returns log heap') :
    Lives heap log heap' := by
  obtain ⟨first, place, rest, lastOf, linked, rfl⟩ := Logged.returns_bind_iff.mp ran
  obtain ⟨second, buf, third, readBuf, counted, rfl⟩ := Logged.returns_bind_iff.mp linked
  obtain ⟨found, lives⟩ := Recorded.of_read readBuf
  have joined := Lives.update found { buf with next := some tail }
  exact (Recorded.of_last lastOf).trans (lives.trans (joined.trans (Recorded.of_addRef counted)))

/-- **Freeing a chain**: what it deallocates it does not touch again. -/
theorem Recorded.of_freeLoop {fuel count : Nat} {start : Option Nat} {freed : Heap × Nat}
    (ran : (Recorded.freeLoop fuel heap start count).Returns log freed) :
    Lives heap log freed.1 := by
  induction fuel generalizing heap start count log with
  | zero => exact absurd ran Logged.not_returns_fault
  | succ fuel ih =>
    cases start with
    | none => exact Recorded.of_pure ran Prod.fst
    | some p =>
      obtain ⟨first, buf, second, readBuf, further, rfl⟩ := Logged.returns_bind_iff.mp ran
      obtain ⟨found, lives⟩ := Recorded.of_read readBuf
      refine lives.trans ?_
      split at further
      case h_1 => exact absurd further Logged.not_returns_fault
      case h_2 =>
        obtain ⟨gone, _, rest, dropped, freed, rfl⟩ := Logged.returns_bind_iff.mp further
        rw [Logged.returns_log_iff.mp dropped]
        exact (Lives.deallocate found).trans (ih freed)
      case h_3 =>
        obtain ⟨rfl, rfl⟩ := Logged.returns_pure_iff.mp further
        exact .update found _

theorem Recorded.of_free {freed : Heap × Nat} (ran : (Recorded.free heap p).Returns log freed) :
    Lives heap log freed.1 := Recorded.of_freeLoop ran

end Operations

/-! ### What a log says -/

section Logs

variable {heap heap' : Heap} {log events : List PbufEvent} {p : Nat} {life life' : Life}

/-- Nothing happens to a buffer that is gone. -/
theorem Life.over (ran : events.foldlM Life.after .deallocated = some life) : events = [] := by
  cases events with
  | nil => rfl
  | cons event events =>
    rw [List.foldlM_cons] at ran
    cases event <;> cases ran

/-- What was used once is used or gone. -/
theorem Life.ne_unused (used : life ≠ .unused) (ran : events.foldlM Life.after life = some life') :
    life' ≠ .unused ∧ ∀ p, PbufEvent.allocate p ∉ events := by
  induction events generalizing life with
  | nil =>
    obtain rfl := Option.some.inj ran
    exact ⟨used, fun _ => List.not_mem_nil⟩
  | cons event events ih =>
    rw [List.foldlM_cons] at ran
    obtain ⟨between, step, rest⟩ := Option.bind_eq_some_iff.mp ran
    have other : between ≠ .unused ∧ ∀ p, event ≠ .allocate p := by
      cases life with
      | unused => exact absurd rfl used
      | allocated =>
        cases event with
        | allocate => cases step
        | access | deallocate =>
          obtain rfl := Option.some.inj step
          exact ⟨by decide, fun _ => by simp⟩
      | deallocated => cases event <;> cases step
    obtain ⟨later, none⟩ := ih other.1 rest
    exact ⟨later, fun p => List.not_mem_cons_of_ne_of_not_mem (other.2 p).symm (none p)⟩

/-- A buffer ends deallocated by one deallocation, and else there is none. -/
theorem Life.count_deallocate (own : ∀ event ∈ events, event.address = p)
    (start : life ≠ .deallocated) (ran : events.foldlM Life.after life = some life') :
    events.count (.deallocate p) = if life' = .deallocated then 1 else 0 := by
  induction events generalizing life with
  | nil =>
    obtain rfl := Option.some.inj ran
    rw [if_neg start]
    rfl
  | cons event events ih =>
    rw [List.foldlM_cons] at ran
    obtain ⟨between, step, rest⟩ := Option.bind_eq_some_iff.mp ran
    have ownRest := fun event member => own event (List.mem_cons_of_mem _ member)
    cases event with
    | allocate q | access q =>
      have alive : between ≠ .deallocated := by
        rintro rfl
        cases life <;> cases step
      rw [List.count_cons_of_ne (by simp), ih ownRest alive rest]
    | deallocate q =>
      obtain rfl : q = p := own _ List.mem_cons_self
      obtain rfl : between = .deallocated := by
        cases life <;> cases step
        rfl
      obtain rfl := Life.over rest
      obtain rfl := Option.some.inj rest
      simp

theorem mem_eventsOf {event : PbufEvent} (member : event ∈ log) (own : event.address = p) :
    event ∈ eventsOf p log :=
  List.mem_filter.mpr ⟨member, by simpa using own⟩

/-- **A buffer that is gone was deallocated once**; one that is there, or was never used, not at
all. -/
theorem Lives.count_deallocate (lives : Lives heap log heap') (start : heap.life p ≠ .deallocated) :
    log.count (.deallocate p) = if heap'.life p = .deallocated then 1 else 0 := by
  have own : ∀ event ∈ eventsOf p log, event.address = p := fun event member =>
    of_decide_eq_true (List.mem_filter.mp member).2
  rw [← Life.count_deallocate own start (lives p), eventsOf, List.count_filter]
  simp [PbufEvent.address]

/-- **A buffer that was deallocated is not touched again.** -/
theorem Lives.untouched_later (lives : Lives heap log heap') {before after : List PbufEvent}
    (cut : log = before ++ .deallocate p :: after) : ∀ event ∈ after, event.address ≠ p := by
  intro event member own
  have ran := lives p
  rw [cut, eventsOf_append, List.foldlM_append] at ran
  obtain ⟨between, -, rest⟩ := Option.bind_eq_some_iff.mp ran
  have first : eventsOf p (.deallocate p :: after) = .deallocate p :: eventsOf p after :=
    List.filter_cons_of_pos (by simp [PbufEvent.address])
  rw [first, List.foldlM_cons] at rest
  obtain ⟨gone, step, later⟩ := Option.bind_eq_some_iff.mp rest
  obtain rfl : gone = .deallocated := by
    cases between <;> cases step
    rfl
  have here := mem_eventsOf member own
  rw [Life.over later] at here
  cases here

/-- What was allocated on the way was unused. -/
theorem Lives.allocated (lives : Lives heap log heap') (member : PbufEvent.allocate p ∈ log) :
    heap.life p = .unused ∧ heap'.life p ≠ .unused := by
  have here : PbufEvent.allocate p ∈ eventsOf p log := mem_eventsOf member rfl
  have start : heap.life p = .unused := by
    by_contra used
    exact (Life.ne_unused used (lives p)).2 p here
  refine ⟨start, ?_⟩
  have ran := lives p
  rw [start] at ran
  cases events : eventsOf p log with
  | nil =>
    rw [events] at here
    cases here
  | cons event rest =>
    rw [events, List.foldlM_cons] at ran
    obtain ⟨between, step, later⟩ := Option.bind_eq_some_iff.mp ran
    refine (Life.ne_unused ?_ later).1
    cases event with
    | allocate =>
      obtain rfl := Option.some.inj step
      decide
    | access | deallocate => cases step

/-! ### Chains -/

section Footprints

variable {old new : List Nat}

theorem Heap.not_deallocated (here : heap.get p ≠ none) : heap.life p ≠ .deallocated := by
  rw [life_eq_allocated_iff.mpr here]
  decide

/-- A buffer that is taken off a chain is deallocated once. -/
theorem Lives.count_removed (lives : Lives heap log heap') (replaces : Replaces heap heap' old new)
    (before : heap.get p ≠ none) (onOld : p ∈ old) (off : p ∉ new) :
    log.count (.deallocate p) = 1 := by
  have gone : heap'.get p = none := by
    by_contra here
    rcases replaces.allocated p here with onNew | ⟨-, outside⟩
    · exact off onNew
    · exact outside onOld
  have used : p < heap'.size := Nat.lt_of_lt_of_le (Heap.lt_size_of_allocated before) replaces.size
  rw [lives.count_deallocate (Heap.not_deallocated before), if_pos (Heap.life_of_none used gone)]

/-- A buffer that came on the way and is not on the chain was deallocated once. -/
theorem Lives.count_passed (lives : Lives heap log heap') (replaces : Replaces heap heap' old new)
    (came : .allocate p ∈ log) (off : p ∉ new) : log.count (.deallocate p) = 1 := by
  obtain ⟨unused, used⟩ := lives.allocated came
  have gone : heap'.life p = .deallocated := by
    cases now : heap'.life p with
    | unused => exact absurd now used
    | deallocated => rfl
    | allocated =>
      have here := Heap.life_eq_allocated_iff.mp now
      obtain ⟨before, -⟩ := (replaces.allocated p here).resolve_left off
      rw [Heap.life, if_neg (Nat.not_le_of_lt before)] at unused
      split at unused <;> cases unused
  rw [lives.count_deallocate (by rw [unused]; decide), if_pos gone]

/-- A buffer that is on the chain was not deallocated. -/
theorem Lives.count_kept (lives : Lives heap log heap') (replaces : Replaces heap heap' old new)
    (allocated : ∀ q ∈ old, heap.get q ≠ none) (onNew : p ∈ new) (here : heap'.get p ≠ none) :
    log.count (.deallocate p) = 0 := by
  have start : heap.life p ≠ .deallocated := by
    rcases replaces.fresh p onNew with onOld | fresh
    · exact Heap.not_deallocated (allocated p onOld)
    · rw [Heap.life, if_pos fresh]
      decide
  rw [lives.count_deallocate start, if_neg (Heap.not_deallocated here)]

end Footprints

end Logs

end Library.PbufHeap
