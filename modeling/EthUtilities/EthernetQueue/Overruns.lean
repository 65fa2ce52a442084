/-
**`EthernetQueue` that is pushed without a look at `getFree`.**

As long as there is room, the queue is a list. The push that would need the last slot moves the write
index onto the read index, and the queue counts as empty.

* `Request`, `serve` — the operations, with the threshold that `setTreshold` stores.
* `overrun` — the list it stands for: the frame that does not fit empties it (`Ring.enter`).
* `run_passes` — what that list hands out: frames in order, each at most once, and those that are lost
  are lost all together, a full queue and the frame that did not fit.
* `Stands` — the queue stands for the list; `Represents.enter`: with room or without.
* **`queue_overruns`** — every run of the queue, with frames of any proper size.
-/

import EthUtilities.EthernetQueue.QueueRuns

namespace Jblib.Ethutilities

open Library Refinement

namespace EthernetQueue

/-! ### The operations -/

/-- The queue, and `treshold_`. -/
structure Watched where
  queue : EthernetQueue
  treshold : UInt16

inductive Request
  | operation (operation : Operation)
  | setTreshold (treshold : UInt16)
  | isAboveTreshold

inductive Reply
  | answer (answer : Answer)
  | stored
  | above (result : Bool)

/-- One operation. -/
def serve (common : JbCommon) (w : Watched) : Request → Except Fault (Watched × Reply)
  | .operation operation =>
    (exec common w.queue operation).map fun answer => ({ w with queue := answer.1 }, .answer answer.2)
  | .setTreshold treshold => .ok ({ w with treshold }, .stored)
  | .isAboveTreshold => .ok (w, .above (isAboveTreshold common w.queue w.treshold))

/-- A push is made with the size of a frame. -/
def Proper (common : JbCommon) : Request → Prop
  | .operation (.push _ size) => 1 ≤ size.toNat ∧ size.toNat ≤ common.frameBytes
  | _ => True

/-! ### The list -/

/-- The frames, oldest first, and the threshold. -/
structure Frames where
  frames : List (List UInt8)
  treshold : UInt16

/-- The list in `n` slots. -/
def overrun (n : Nat) (t : Frames) : Request → Frames × Reply
  | .operation (.push frame size) =>
    ({ t with frames := Ring.enter n t.frames (frame.read 0 size.toNat) }, .answer .pushed)
  | .operation operation =>
    let next := fifo (n - 1) t.frames operation
    ({ t with frames := next.1 }, .answer next.2)
  | .setTreshold treshold => ({ t with treshold }, .stored)
  | .isAboveTreshold => (t, .above (t.treshold.toNat ≤ t.frames.length))

/-- The frame that is pushed. -/
def Request.frame? : Request → Option (List UInt8)
  | .operation (.push frame size) => some (frame.read 0 size.toNat)
  | _ => none

/-- The frame that is pulled; `pull` of an empty queue returns 0. -/
def Reply.frame? : Reply → Option (List UInt8)
  | .answer (.pulled frame size) => if size = 0 then none else some (frame.read 0 size.toNat)
  | _ => none

def received (requests : List Request) : List (List UInt8) := requests.filterMap Request.frame?

def sent (replies : List Reply) : List (List UInt8) := replies.filterMap Reply.frame?

section Lists

variable {common : JbCommon} {n : Nat} {frames : List (List UInt8)} {frame : Buffer} {size : UInt16}

/-- A frame is not empty, and its size is a `uint16_t`. -/
def IsFrame (data : List UInt8) : Prop := 0 < data.length ∧ data.length < 65536

theorem isFrame_read (some : 1 ≤ size.toNat) : IsFrame (frame.read 0 size.toNat) := by
  rw [IsFrame, Buffer.length_read]
  exact ⟨some, size.toNat_lt⟩

/-- What a pull hands out is the oldest frame. -/
theorem frame?_pulled (frame : Buffer) {oldest : List UInt8} (proper : IsFrame oldest) :
    (Reply.answer (.pulled (frame.write 0 oldest) (UInt16.ofNat oldest.length))).frame? =
      some oldest := by
  have length : (UInt16.ofNat oldest.length).toNat = oldest.length := Nat.mod_eq_of_lt proper.2
  have some : UInt16.ofNat oldest.length ≠ 0 := fun zero => by
    have nothing := congrArg UInt16.toNat zero
    rw [length] at nothing
    exact Nat.ne_of_gt proper.1 nothing
  rw [Reply.frame?, if_neg some, length, Buffer.read_write_self]

/-- One operation. -/
theorem overrun_passes {t : Frames} (request : Request) (whole : ∀ data ∈ t.frames, IsFrame data) :
    Ring.Passes n t.frames (received [request]) (sent [(overrun n t request).2])
      (overrun n t request).1.frames := by
  cases request with
  | setTreshold treshold => exact .refl _
  | isAboveTreshold => exact .refl _
  | operation operation =>
    cases operation with
    | push frame size => exact Ring.passes_enter _ _
    | getCount => exact .refl _
    | getFree => exact .refl _
    | pull frame =>
      obtain ⟨frames, treshold⟩ := t
      cases frames with
      | nil => exact .refl _
      | cons oldest frames =>
        have out := frame?_pulled frame (whole oldest List.mem_cons_self)
        have handed : sent [(overrun n ⟨oldest :: frames, treshold⟩ (.operation (.pull frame))).2] =
          [oldest] := List.filterMap_cons_some out
        rw [handed]
        exact Ring.passes_leave oldest frames

/-- The list holds frames. -/
theorem overrun_whole {t : Frames} {request : Request} (proper : Proper common request)
    (whole : ∀ data ∈ t.frames, IsFrame data) :
    ∀ data ∈ (overrun n t request).1.frames, IsFrame data := by
  cases request with
  | setTreshold treshold => exact whole
  | isAboveTreshold => exact whole
  | operation operation =>
    cases operation with
    | getCount => exact whole
    | getFree => exact whole
    | push frame size =>
      intro data inside
      change data ∈ Ring.enter n t.frames (frame.read 0 size.toNat) at inside
      rw [Ring.enter] at inside
      split at inside
      · cases inside
      · rcases List.mem_append.mp inside with old | new
        · exact whole data old
        · rw [List.mem_singleton.mp new]
          exact isFrame_read proper.1
    | pull frame =>
      obtain ⟨frames, treshold⟩ := t
      cases frames with
      | nil => exact whole
      | cons oldest frames => exact fun data inside => whole data (List.mem_cons_of_mem _ inside)

/-- **What the list hands out** in a run. -/
theorem run_passes {requests : List Request} {t : Frames}
    (proper : ∀ request ∈ requests, Proper common request)
    (whole : ∀ data ∈ t.frames, IsFrame data) :
    Ring.Passes n t.frames (received requests) (sent (expected (overrun n) t requests).1)
      (expected (overrun n) t requests).2.frames := by
  induction requests generalizing t with
  | nil => exact .refl _
  | cons request requests ih =>
    have first := overrun_passes (n := n) request whole
    have kept := overrun_whole (n := n) (proper request List.mem_cons_self) whole
    have rest := ih (fun other inside => proper other (List.mem_cons_of_mem _ inside)) kept
    have came : received (request :: requests) = received [request] ++ received requests :=
      List.filterMap_append (l := [request])
    have went : sent (expected (overrun n) t (request :: requests)).1 =
        sent [(overrun n t request).2] ++
          sent (expected (overrun n) (overrun n t request).1 requests).1 :=
      List.filterMap_append (l := [(overrun n t request).2])
    rw [came, went]
    exact first.trans rest

end Lists

/-! ### The queue -/

section Simulation

variable {common : JbCommon} {n : UInt16} {w : Watched} {t : Frames}

/-- The push that does not fit empties the queue. -/
theorem Represents.overrun {queue : EthernetQueue} {frames : List (List UInt8)} {frame : Buffer}
    {size : UInt16} (represents : Represents common n queue frames)
    (full : getFree common queue = 0) (within : size.toNat ≤ common.frameBytes) :
    Represents common n (pushed common queue frame size) [] := by
  have valid := represents.valid
  have inside := inside_of_within valid within
  have none : getCount common (pushed common queue frame size) = 0 :=
    valid.getCount_pushed_full inside full
  refine ⟨valid.push inside, represents.sized, ?_, fun k before => ?_⟩
  · rw [queued, none, Ring.contents_zero]
  · rw [none] at before
    exact absurd before (Nat.not_lt_zero k)

/-- **A push**, with room or without. -/
theorem Represents.enter {queue : EthernetQueue} {frames : List (List UInt8)} {frame : Buffer}
    {size : UInt16} (represents : Represents common n queue frames)
    (within : size.toNat ≤ common.frameBytes) :
    Represents common n (pushed common queue frame size)
      (Ring.enter n.toNat frames (frame.read 0 size.toNat)) := by
  have valid := represents.valid
  have slots := valid.getCount_add_getFree
  have some := valid.bw_lt
  rw [represents.sized, ← represents.length_eq] at slots
  rw [represents.sized] at some
  rw [Ring.enter]
  by_cases full : frames.length + 1 = n.toNat
  · rw [if_pos full]
    exact represents.overrun (by omega) within
  · rw [if_neg full]
    exact represents.push (by omega) within

/-- The queue stands for the list, with the same threshold. -/
structure Stands (common : JbCommon) (n : UInt16) (w : Watched) (t : Frames) : Prop where
  represents : Represents common n w.queue t.frames
  treshold : w.treshold = t.treshold

/-- **One operation.** -/
theorem Stands.serve (stands : Stands common n w t) (request : Request)
    (proper : Proper common request) :
    ∃ w', serve common w request = .ok (w', (overrun n.toNat t request).2) ∧
      Stands common n w' (overrun n.toNat t request).1 := by
  obtain ⟨represents, treshold⟩ := stands
  have valid := represents.valid
  have asked {operation : Operation} (enabled : Enabled common w.queue operation) :
      ∃ w', EthernetQueue.serve common w (.operation operation) =
          .ok (w', .answer (fifo (n.toNat - 1) t.frames operation).2) ∧
        Stands common n w' { t with frames := (fifo (n.toNat - 1) t.frames operation).1 } := by
    obtain ⟨queue, executed, represents'⟩ := exec_represents represents enabled
    refine ⟨{ w with queue }, ?_, represents', treshold⟩
    rw [EthernetQueue.serve, executed]
    rfl
  cases request with
  | setTreshold treshold => exact ⟨{ w with treshold }, rfl, represents, rfl⟩
  | isAboveTreshold =>
    refine ⟨w, ?_, represents, treshold⟩
    have reached := valid.isAboveTreshold_iff w.treshold
    rw [represents.contents, treshold] at reached
    have same : isAboveTreshold common w.queue t.treshold =
        decide (t.treshold.toNat ≤ t.frames.length) := by
      rw [Bool.eq_iff_iff, reached, decide_eq_true_iff]
    rw [EthernetQueue.serve, treshold, same]
    rfl
  | operation operation =>
    cases operation with
    | push frame size =>
      refine ⟨{ w with queue := pushed common w.queue frame size }, ?_,
        represents.enter proper.2, treshold⟩
      have executed := push_eq valid frame (inside_of_within valid proper.2)
      rw [EthernetQueue.serve, exec, executed]
      rfl
    | pull frame => exact asked trivial
    | getCount => exact asked trivial
    | getFree => exact asked trivial

/-- The queue of the constructor. -/
theorem stands_construct (positive : n ≠ 0) (frames : Buffer) (frameSizes : Nat → UInt16) :
    Stands common n ⟨construct n (some frames) (some frameSizes), 0⟩ ⟨[], 0⟩ := by
  have valid : Valid common (construct n (some frames) (some frameSizes)) :=
    construct_valid frames frameSizes positive
  have none : getCount common (construct n (some frames) (some frameSizes)) = 0 := by
    rw [valid.getCount_eq, construct, if_neg positive]
    exact Ring.distance_self
  refine ⟨⟨valid, ?_, ?_, fun k before => ?_⟩, rfl⟩
  · rw [construct, if_neg positive]
  · rw [queued, none, Ring.contents_zero]
  · rw [none] at before
    exact absurd before (Nat.not_lt_zero k)

/-- **The queue that is pushed at any time.** With frames of any proper size no operation leaves the
block, and the queue answers as the list does that a frame without room empties. So the frames that
are pulled, and then those in the queue, are some of those that were pushed, in their order; and the
others were lost, as many at a time as the queue has slots. -/
theorem queue_overruns (common : JbCommon) (positive : n ≠ 0) (frames : Buffer)
    (frameSizes : Nat → UInt16) {requests : List Request}
    (proper : ∀ request ∈ requests, Proper common request) :
    let run := expected (overrun n.toNat) ⟨[], 0⟩ requests
    ∃ w, answers (serve common) ⟨construct n (some frames) (some frameSizes), 0⟩ requests =
        .ok (run.1, w) ∧
      queued common w.queue = run.2.frames ∧
      Ring.Passes n.toNat [] (received requests) (sent run.1) (queued common w.queue) := by
  intro run
  have admissible : Admissible (serve common) (fun _ => Proper common)
    ⟨construct n (some frames) (some frameSizes), 0⟩ requests := admissible_of_forall proper
  obtain ⟨w, answered, stands⟩ := answers_of_simulation (R := Stands common n)
    (fun _ _ request stands proper => stands.serve request proper)
    (stands_construct positive frames frameSizes) admissible
  refine ⟨w, answered, stands.represents.contents, ?_⟩
  rw [stands.represents.contents]
  exact run_passes (t := ⟨[], 0⟩) proper fun data inside => absurd inside List.not_mem_nil

/-- A queue of two slots has room for one frame; the second one empties it. -/
def crowded : List Request :=
  [.setTreshold 1, .operation (.push (fun _ => 7) 1), .isAboveTreshold,
    .operation (.push (fun _ => 8) 1), .isAboveTreshold, .operation (.push (fun _ => 9) 1),
    .operation (.pull fun _ => 0)]

theorem queue_overruns_sample :
    let run := expected (overrun 2) ⟨[], 0⟩ crowded
    ∃ w, answers (serve sampleCommon) ⟨construct 2 (some fun _ => 0) (some fun _ => 0), 0⟩ crowded =
        .ok (run.1, w) ∧
      queued sampleCommon w.queue = run.2.frames ∧
      Ring.Passes 2 [] (received crowded) (sent run.1) (queued sampleCommon w.queue) :=
  queue_overruns sampleCommon (n := 2) (by decide) (fun _ => 0) (fun _ => 0) fun request inside => by
    have proper : ∀ frame : Buffer, Proper sampleCommon (.operation (.push frame 1)) := fun _ =>
      ⟨by decide, by decide⟩
    rw [crowded] at inside
    simp only [List.mem_cons, List.not_mem_nil, or_false] at inside
    rcases inside with rfl | rfl | rfl | rfl | rfl | rfl | rfl
    all_goals first | exact trivial | exact proper _

end Simulation

end EthernetQueue

end Jblib.Ethutilities
