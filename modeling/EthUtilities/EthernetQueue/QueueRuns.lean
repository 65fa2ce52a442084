/-
**`EthernetQueue` against a first-in-first-out list.**

* `exec` — the queue as a system that answers operations; `fifo` — the list it stands for.
* **`queue_refines_fifo`** — pushes made when there is room for them and with sizes of a frame: the
  queue answers as the list of capacity `size_ - 1` does.
* **`keepsQueued_iff`** — pushes made at any time: when the frames queued before are queued after.
-/

import EthUtilities.Library.Machine
import EthUtilities.Library.Refinement
import EthUtilities.EthernetQueue.Queue

namespace Jblib.Ethutilities

open Library Refinement

namespace EthernetQueue

inductive Operation
  | push (frame : Buffer) (size : UInt16)
  | pull (frame : Buffer)
  | getCount
  | getFree

inductive Answer
  | pushed
  /-- what `pull` leaves in the output buffer, and what it returns -/
  | pulled (frame : Buffer) (size : UInt16)
  | number (n : Nat)

section Systems

variable (common : JbCommon)

/-- One operation on the queue. -/
def exec (queue : EthernetQueue) : Operation → Except Fault (EthernetQueue × Answer)
  | .push frame size => (push common queue frame size).map fun queue => (queue, .pushed)
  | .pull frame =>
    (pull common queue frame).map fun answer => (answer.1, .pulled answer.2.1 answer.2.2)
  | .getCount => .ok (queue, .number (getCount common queue))
  | .getFree => .ok (queue, .number (getFree common queue))

/-- A push is made when there is room, with the size of a frame. -/
def Enabled (queue : EthernetQueue) : Operation → Prop
  | .push _ size => 0 < getFree common queue ∧ 1 ≤ size.toNat ∧ size.toNat ≤ common.frameBytes
  | _ => True

end Systems

/-- The list of frames, oldest first, as a queue of a capacity. -/
def fifo (capacity : Nat) : List (List UInt8) → Operation → List (List UInt8) × Answer
  | frames, .push frame size => (frames ++ [frame.read 0 size.toNat], .pushed)
  | [], .pull frame => ([], .pulled frame 0)
  | oldest :: frames, .pull frame =>
    (frames, .pulled (frame.write 0 oldest) (UInt16.ofNat oldest.length))
  | frames, .getCount => (frames, .number frames.length)
  | frames, .getFree => (frames, .number (capacity - frames.length))

/-! ### The simulation -/

section Simulation

variable {common : JbCommon}

/-- The queue stands for a list of frames, each of them within its slot. -/
structure Represents (common : JbCommon) (size : UInt16) (queue : EthernetQueue)
    (frames : List (List UInt8)) : Prop where
  valid : Valid common queue
  sized : queue.size = size.toNat
  contents : queued common queue = frames
  within : ∀ k < getCount common queue,
    (queue.frameSizes (Ring.slot queue.size queue.br k)).toNat ≤ common.frameBytes

variable {queue : EthernetQueue} {frame : Buffer} {size n : UInt16}

/-- A copy that stays within its slot leaves the other slots. -/
theorem frameAt_pushed {i : Nat} (other : i ≠ queue.bw) (within : size.toNat ≤ common.frameBytes)
    (iWithin : (queue.frameSizes i).toNat ≤ common.frameBytes) :
    frameAt common (pushed common queue frame size) i = frameAt common queue i := by
  unfold frameAt
  have kept : (pushed common queue frame size).frameSizes i = queue.frameSizes i := if_neg other
  rw [kept]
  refine Buffer.read_write_apart ?_
  rw [Buffer.length_read]
  -- the two slots are at least one slot apart
  rcases Nat.lt_or_gt_of_ne other with before | behind
  · have slots := Nat.mul_le_mul_right common.frameBytes (Nat.succ_le_of_lt before)
    rw [Nat.succ_mul] at slots
    exact Or.inl (by omega)
  · have slots := Nat.mul_le_mul_right common.frameBytes (Nat.succ_le_of_lt behind)
    rw [Nat.succ_mul] at slots
    exact Or.inr (by omega)

/-- A slot has room for a frame. -/
theorem inside_of_within (valid : Valid common queue) (within : size.toNat ≤ common.frameBytes) :
    Inside common queue queue.bw size := by
  have slots := Nat.mul_le_mul_right common.frameBytes (Nat.succ_le_of_lt valid.bw_lt)
  rw [Nat.succ_mul] at slots
  unfold Inside
  omega

namespace Represents

variable {frames : List (List UInt8)}

theorem length_eq (represents : Represents common n queue frames) :
    frames.length = getCount common queue := by
  rw [← represents.contents]
  exact Valid.length_queued

/-- The queue for whose room the push asks gets the frame at its end. -/
theorem push (represents : Represents common n queue frames) (room : 0 < getFree common queue)
    (within : size.toNat ≤ common.frameBytes) :
    Represents common n (pushed common queue frame size) (frames ++ [frame.read 0 size.toNat]) := by
  have valid := represents.valid
  have inside := inside_of_within valid within
  have counted : getCount common (pushed common queue frame size) = getCount common queue + 1 :=
    valid.getCount_pushed inside room
  have others : ∀ k < getCount common queue, frameAt common queue
      (Ring.slot queue.size queue.br k) =
        frameAt common (pushed common queue frame size) (Ring.slot queue.size queue.br k) := by
    intro k before
    have other := slot_ne_bw valid (valid.getCount_eq ▸ before)
    exact (frameAt_pushed other within (represents.within k before)).symm
  have here : Ring.slot queue.size queue.br (getCount common queue) = queue.bw := by
    rw [valid.getCount_eq]
    exact Ring.slot_distance valid.br_lt valid.bw_lt
  refine ⟨valid.push inside, represents.sized, ?_, fun k before => ?_⟩
  · rw [← represents.contents, queued, counted, Ring.contents_succ]
    show Ring.contents _ queue.size queue.br _ ++
      [frameAt common (pushed common queue frame size) (Ring.slot queue.size queue.br _)] = _
    rw [here, frameAt_pushed_bw, ← Ring.contents_eq_iff.mpr others]
    rfl
  · rw [counted] at before
    show ((pushed common queue frame size).frameSizes (Ring.slot queue.size queue.br k)).toNat ≤ _
    rcases Nat.lt_succ_iff_lt_or_eq.mp before with older | rfl
    · rw [frameSizes_pushed valid (valid.getCount_eq ▸ older)]
      exact represents.within k older
    · rw [here, frameSizes_pushed_bw]
      exact within

/-- The oldest frame is the head of the list. -/
theorem head_eq {oldest : List UInt8} (represents : Represents common n queue (oldest :: frames)) :
    0 < getCount common queue ∧ oldest = frameAt common queue queue.br ∧
      queued common (pulled queue) = frames := by
  have some : 0 < getCount common queue := by
    rw [← represents.length_eq]
    exact Nat.zero_lt_succ _
  have split := queued_pulled represents.valid some
  rw [represents.contents] at split
  exact ⟨some, (List.cons.inj split).1, (List.cons.inj split).2.symm⟩

theorem pull {oldest : List UInt8} (represents : Represents common n queue (oldest :: frames)) :
    Represents common n (pulled queue) frames := by
  have valid := represents.valid
  obtain ⟨some, _, rest⟩ := represents.head_eq
  refine ⟨valid.pull some, represents.sized, rest, fun k before => ?_⟩
  have fewer := valid.getCount_pulled some
  have next : k + 1 < getCount common queue := by
    rw [← fewer]
    exact Nat.succ_lt_succ before
  have behind := represents.within (k + 1) next
  rw [Ring.slot_succ (Nat.lt_trans next (valid.getCount_eq ▸ valid.distance_lt))] at behind
  exact behind

end Represents

/-- **One operation.** -/
theorem exec_represents {frames : List (List UInt8)} {operation : Operation}
    (represents : Represents common n queue frames) (enabled : Enabled common queue operation) :
    ∃ queue', exec common queue operation =
        .ok (queue', (fifo (n.toNat - 1) frames operation).2) ∧
      Represents common n queue' (fifo (n.toNat - 1) frames operation).1 := by
  have valid := represents.valid
  cases operation with
  | push frame size =>
    obtain ⟨room, _, within⟩ := enabled
    refine ⟨pushed common queue frame size, ?_, represents.push room within⟩
    show (push common queue frame size).map _ = _
    rw [push_eq valid frame (inside_of_within valid within)]
    rfl
  | pull frame =>
    cases frames with
    | nil =>
      have none : getCount common queue = 0 := represents.length_eq.symm
      refine ⟨queue, ?_, represents⟩
      show (pull common queue frame).map _ = _
      rw [pull_empty valid none]
      rfl
    | cons oldest rest =>
      obtain ⟨some, head, _⟩ := represents.head_eq
      have returned : queue.frameSizes queue.br = UInt16.ofNat oldest.length := by
        rw [head, frameAt, Buffer.length_read, UInt16.ofNat_toNat]
      refine ⟨pulled queue, ?_, represents.pull⟩
      show (pull common queue frame).map _ = _
      rw [pull_eq valid some, ← head, returned]
      rfl
  | getCount =>
    refine ⟨queue, ?_, represents⟩
    show Except.ok (queue, Answer.number (getCount common queue)) = _
    rw [← represents.length_eq]
    rfl
  | getFree =>
    refine ⟨queue, ?_, represents⟩
    show Except.ok (queue, Answer.number (getFree common queue)) = _
    rw [valid.getFree_eq, represents.sized, ← represents.length_eq]
    rfl

variable (common)

/-- **The queue is a bounded first-in-first-out list**: same answers on every run, no fault, counts
that agree, indices in range and without wrap. -/
theorem queue_refines_fifo (positive : n ≠ 0) (frames : Buffer) (frameSizes : Nat → UInt16)
    (operations : List Operation)
    (admissible : Admissible (exec common) (Enabled common)
      (construct n (some frames) (some frameSizes)) operations) :
    ∃ queue, answers (exec common) (construct n (some frames) (some frameSizes)) operations =
        .ok ((expected (fifo (n.toNat - 1)) [] operations).1, queue) ∧
      getCount common queue = (expected (fifo (n.toNat - 1)) [] operations).2.length ∧
      getCount common queue + getFree common queue = n.toNat - 1 ∧
      queue.bw < n.toNat ∧ queue.bw + 1 < 65536 ∧ queue.br < n.toNat ∧ queue.br + 1 < 65536 ∧
      ((expected (fifo (n.toNat - 1)) [] operations).2 = [] →
        ∀ frame, pull common queue frame = .ok (queue, frame, 0)) := by
  have valid : Valid common (construct n (some frames) (some frameSizes)) :=
    construct_valid frames frameSizes positive
  have none : getCount common (construct n (some frames) (some frameSizes)) = 0 := by
    rw [valid.getCount_eq, construct, if_neg positive]
    exact Ring.distance_self
  have start : Represents common n (construct n (some frames) (some frameSizes)) [] := by
    refine ⟨valid, ?_, ?_, fun k before => ?_⟩
    · rw [construct, if_neg positive]
    · rw [queued, none, Ring.contents_zero]
    · rw [none] at before
      exact absurd before (Nat.not_lt_zero k)
  obtain ⟨queue, answered, represents⟩ := answers_of_simulation
    (fun queue frames operation => exec_represents) start admissible
  have bounds := represents.valid
  have sized := represents.sized
  have fits := bounds.fits
  refine ⟨queue, answered, represents.length_eq.symm, sized ▸ bounds.getCount_add_getFree,
    sized ▸ bounds.bw_lt, Nat.lt_of_le_of_lt bounds.bw_lt fits, sized ▸ bounds.br_lt,
    Nat.lt_of_le_of_lt bounds.br_lt fits, fun empty frame => ?_⟩
  refine pull_empty bounds ?_
  rw [← represents.length_eq, empty]
  rfl

/-- A `JbCommon` with one-byte frames. -/
def sampleCommon : JbCommon := ⟨1, fun a b c => (a + c - b) % c, fun _ _ _ _ _ => rfl⟩

/-- A queue of three slots. -/
def sampleQueue : EthernetQueue := construct 3 (some fun _ => 0) (some fun _ => 0)

/-- Three frames through two places. -/
def sampleOperations : List Operation :=
  [.push (fun _ => 7) 1, .push (fun _ => 8) 1, .pull fun _ => 0, .push (fun _ => 9) 1,
    .pull fun _ => 0, .pull fun _ => 0]

theorem sampleOperations_admissible :
    Admissible (exec sampleCommon) (Enabled sampleCommon) sampleQueue sampleOperations := by
  have proper : (1 : UInt16).toNat ≤ sampleCommon.frameBytes := by decide
  refine .cons ⟨by decide, by decide, proper⟩ rfl ?_
  refine .cons ⟨by decide, by decide, proper⟩ rfl ?_
  refine .cons trivial rfl ?_
  refine .cons ⟨by decide, by decide, proper⟩ rfl ?_
  refine .cons trivial rfl (.cons trivial rfl trivial)

/-- The frames come out as they went in and in their order. Both indices wrap. -/
theorem queue_refines_fifo_sample :
    ∃ queue, answers (exec sampleCommon) sampleQueue sampleOperations =
      .ok ([.pushed, .pushed, .pulled (Buffer.write (fun _ => 0) 0 [7]) 1, .pushed,
        .pulled (Buffer.write (fun _ => 0) 0 [8]) 1,
        .pulled (Buffer.write (fun _ => 0) 0 [9]) 1], queue) ∧ getCount sampleCommon queue = 0 := by
  obtain ⟨queue, answered, counted, _⟩ := queue_refines_fifo sampleCommon (n := 3) (by decide)
    (fun _ => 0) (fun _ => 0) sampleOperations sampleOperations_admissible
  exact ⟨queue, answered, counted⟩

end Simulation

/-! ### Pushes at any time -/

section Loss

variable (common : JbCommon)

/-- The queue under arbitrary operations. -/
def machine : Machine (Except Fault EthernetQueue) Operation :=
  Machine.checked (fun queue operation => (exec common queue operation).map Prod.fst)
    fun _ _ => True

/-- What was queued is queued after the push in front of the new frame; a full queue may drop the new
frame or the oldest one. -/
def KeepsQueued (queue : EthernetQueue) (frame : Buffer) (size : UInt16) : Prop :=
  ∃ queue', push common queue frame size = .ok queue' ∧
    getCount common queue ≤ getCount common queue' ∧
    (queued common queue <+: queued common queue' ∨
      getFree common queue = 0 ∧ (queued common queue).tail <+: queued common queue')

/-- There is a free slot, the copy stays inside the block, and where it runs over bytes of queued
frames it writes what is there. -/
def Fits (queue : EthernetQueue) (frame : Buffer) (size : UInt16) : Prop :=
  0 < getFree common queue ∧ Inside common queue queue.bw size ∧
    ∀ k < getCount common queue,
      ∀ j < (queue.frameSizes (Ring.slot queue.size queue.br k)).toNat, ∀ i < size.toNat,
        Ring.slot queue.size queue.br k * common.frameBytes + j =
            queue.bw * common.frameBytes + i →
          frame i = queue.frames (queue.bw * common.frameBytes + i)

variable {common} {queue : EthernetQueue} {frame : Buffer} {size n : UInt16}

/-- When the copy leaves a queued frame as it is. -/
theorem frameAt_pushed_iff {i : Nat} (other : i ≠ queue.bw) :
    frameAt common queue i = frameAt common (pushed common queue frame size) i ↔
      ∀ j < (queue.frameSizes i).toNat, ∀ k < size.toNat,
        i * common.frameBytes + j = queue.bw * common.frameBytes + k →
          frame k = queue.frames (queue.bw * common.frameBytes + k) := by
  have kept : (pushed common queue frame size).frameSizes i = queue.frameSizes i := if_neg other
  unfold frameAt
  rw [kept, Buffer.read_eq_iff]
  refine forall₂_congr fun j _ => Buffer.write_eq_iff.trans (forall₃_congr fun k _ here => ?_)
  rw [here]

/-- A push into a full queue of more than one slot loses what is queued. -/
theorem not_keepsQueued_of_full (valid : Valid common queue) (several : 2 ≤ queue.size)
    (full : getFree common queue = 0) : ¬ KeepsQueued common queue frame size := by
  rintro ⟨queue', executed, counted, _⟩
  have whole := valid.getCount_add_getFree
  by_cases inside : Inside common queue queue.bw size
  · rw [push_eq valid frame inside] at executed
    rw [← Except.ok.inj executed, valid.getCount_pushed_full inside full] at counted
    omega
  · rw [push_outside valid frame inside] at executed
    cases executed

/-- **One push**, in a queue that meets the invariant. -/
theorem keepsQueued_iff_of_valid (valid : Valid common queue) (several : 2 ≤ queue.size) :
    KeepsQueued common queue frame size ↔ Fits common queue frame size := by
  rcases Nat.eq_zero_or_pos (getFree common queue) with full | room
  · refine iff_of_false (not_keepsQueued_of_full valid several full) fun fits => ?_
    rw [Fits, full] at fits
    exact Nat.lt_irrefl 0 fits.1
  by_cases inside : Inside common queue queue.bw size
  case neg =>
    refine iff_of_false ?_ fun fits => inside fits.2.1
    rintro ⟨queue', executed, _⟩
    rw [push_outside valid frame inside] at executed
    cases executed
  have kept : queued common queue <+: queued common (pushed common queue frame size) ↔
      ∀ k < getCount common queue,
        ∀ j < (queue.frameSizes (Ring.slot queue.size queue.br k)).toNat, ∀ i < size.toNat,
          Ring.slot queue.size queue.br k * common.frameBytes + j =
              queue.bw * common.frameBytes + i →
            frame i = queue.frames (queue.bw * common.frameBytes + i) := by
    rw [queued_prefix_iff valid inside room]
    refine forall₂_congr fun k before => frameAt_pushed_iff ?_
    exact slot_ne_bw valid (valid.getCount_eq ▸ before)
  unfold KeepsQueued
  rw [push_eq valid frame inside]
  constructor
  · rintro ⟨queue', executed, _, leads | ⟨full, _⟩⟩
    · rw [← Except.ok.inj executed] at leads
      exact ⟨room, inside, kept.mp leads⟩
    · exact absurd full (Nat.ne_of_gt room)
  · rintro ⟨_, _, same⟩
    refine ⟨_, rfl, ?_, Or.inl (kept.mpr same)⟩
    rw [valid.getCount_pushed inside room]
    exact Nat.le_succ _

/-- Every operation keeps the invariant. -/
theorem exec_valid {operation : Operation} {queue' : EthernetQueue}
    (good : Valid common queue ∧ queue.size = n.toNat)
    (executed : (exec common queue operation).map Prod.fst = .ok queue') :
    Valid common queue' ∧ queue'.size = n.toNat := by
  obtain ⟨valid, sized⟩ := good
  cases operation with
  | push frame size =>
    change ((push common queue frame size).map _).map Prod.fst = _ at executed
    by_cases inside : Inside common queue queue.bw size
    · rw [push_eq valid frame inside] at executed
      exact Except.ok.inj executed ▸ ⟨valid.push inside, sized⟩
    · rw [push_outside valid frame inside] at executed
      cases executed
  | pull frame =>
    change ((pull common queue frame).map _).map Prod.fst = _ at executed
    rcases Nat.eq_zero_or_pos (getCount common queue) with none | some
    · rw [pull_empty valid none] at executed
      exact Except.ok.inj executed ▸ ⟨valid, sized⟩
    · rw [pull_eq valid some] at executed
      exact Except.ok.inj executed ▸ ⟨valid.pull some, sized⟩
  | getCount => exact Except.ok.inj executed ▸ ⟨valid, sized⟩
  | getFree => exact Except.ok.inj executed ▸ ⟨valid, sized⟩

/-- The queues that runs from a fresh queue reach meet the invariant. -/
theorem reachable_valid (positive : n ≠ 0) {frames : Buffer} {frameSizes : Nat → UInt16}
    {operations : List Operation}
    (ran : (machine common).run (.ok (construct n (some frames) (some frameSizes))) operations =
      .ok queue) : Valid common queue ∧ queue.size = n.toNat := by
  refine Machine.checked_invariant _ _ (P := fun queue => Valid common queue ∧ queue.size = n.toNat)
    (fun queue operation queue' => exec_valid) ⟨construct_valid frames frameSizes positive, ?_⟩ ran
  rw [construct, if_neg positive]

/-- **When a push loses nothing**, whatever was pushed and pulled before. -/
theorem keepsQueued_iff (common : JbCommon) (several : 2 ≤ n.toNat) (frames : Buffer)
    (frameSizes : Nat → UInt16) (operations : List Operation)
    (ran : (machine common).run (.ok (construct n (some frames) (some frameSizes))) operations =
      .ok queue) (frame : Buffer) (size : UInt16) :
    KeepsQueued common queue frame size ↔ Fits common queue frame size := by
  have positive : n ≠ 0 := by
    rintro rfl
    exact absurd several (by decide)
  obtain ⟨valid, sized⟩ := reachable_valid positive ran
  exact keepsQueued_iff_of_valid valid (sized ▸ several)

/-- The second frame that a queue of three slots is given leaves the first one. -/
theorem keepsQueued_iff_sample :
    ∃ queue, (machine sampleCommon).run (.ok sampleQueue) [.push (fun _ => 7) 1] = .ok queue ∧
      queued sampleCommon queue = [[7]] ∧ KeepsQueued sampleCommon queue (fun _ => 8) 1 := by
  have ran : (machine sampleCommon).run (.ok sampleQueue) [.push (fun _ => 7) 1] =
      .ok (pushed sampleCommon sampleQueue (fun _ => 7) 1) := rfl
  have fits : Fits sampleCommon (pushed sampleCommon sampleQueue (fun _ => 7) 1) (fun _ => 8) 1 :=
    ⟨by decide, by decide, by decide⟩
  refine ⟨_, ran, by decide, ?_⟩
  exact (keepsQueued_iff sampleCommon (n := 3) (by decide) _ _ _ ran _ _).mpr fits

/-- The second frame that a queue of two slots is given empties it. -/
theorem push_loses_queued :
    ∃ queue, (machine sampleCommon).run (.ok (construct 2 (some fun _ => 0) (some fun _ => 0)))
        [.push (fun _ => 7) 1] = .ok queue ∧
      ¬ KeepsQueued sampleCommon queue (fun _ => 8) 1 := by
  have ran : (machine sampleCommon).run (.ok (construct 2 (some fun _ => 0) (some fun _ => 0)))
      [.push (fun _ => 7) 1] =
        .ok (pushed sampleCommon (construct 2 (some fun _ => 0) (some fun _ => 0)) (fun _ => 7) 1) :=
    rfl
  obtain ⟨valid, sized⟩ := reachable_valid (by decide) ran
  exact ⟨_, ran, not_keepsQueued_of_full valid (sized ▸ by decide) rfl⟩

end Loss

end EthernetQueue

end Jblib.Ethutilities
