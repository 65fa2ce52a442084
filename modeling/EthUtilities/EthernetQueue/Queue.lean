/-
**`EthernetQueue`: a circular queue of frames.**

* `JbCommon` — what the queue uses of `jb_common.h`: the size of an `EthernetFrame` and
  `D_A_MIN_B_MOD_C`.
* `frames` is one block of bytes; a push copies as many bytes as it is told, which may run over the
  slots behind. Beyond the end of the block it is a `Fault`.
* `queued` — the frames in the queue, oldest first.
* `Valid` — the invariant of an initialised queue; `Valid.push`, `Valid.pull`.
-/

import EthUtilities.Library.Buffer
import EthUtilities.Library.Ring

namespace Jblib.Ethutilities

open Library

/-- What the queue uses of `jb_common.h`. -/
structure JbCommon where
  /-- `sizeof(EthernetFrame)` -/
  frameBytes : Nat
  /-- `D_A_MIN_B_MOD_C` -/
  dAMinBModC : Nat → Nat → Nat → Nat
  /-- It is subtraction modulo its last argument. -/
  dAMinBModC_eq : ∀ a b c, a < c → b < c → dAMinBModC a b c = (a + c - b) % c

/-- The queue. -/
structure EthernetQueue where
  /-- The bytes of the block. -/
  frames : Buffer
  frameSizes : Nat → UInt16
  bw : Nat
  br : Nat
  size : Nat
  isInitialized : Bool

namespace EthernetQueue

inductive Fault
  /-- a write or a read that leaves the block `frames` -/
  | outOfBounds
  deriving DecidableEq

/-- The constructor. Each allocation yields arbitrary contents, or fails. -/
def construct (size : UInt16) (frames : Option Buffer) (frameSizes : Option (Nat → UInt16)) :
    EthernetQueue :=
  let queue : EthernetQueue :=
    { frames := fun _ => 0, frameSizes := fun _ => 0, bw := 0, br := 0, size := size.toNat,
      isInitialized := false }
  if size = 0 then queue
  else
    match frames, frameSizes with
    | some frames, some frameSizes =>
      { queue with frames := frames, frameSizes := frameSizes, isInitialized := true }
    | _, _ => queue

section Operations

variable (common : JbCommon)

/-- `index++; if(index == size_) index = 0;` on a `uint16_t`. -/
def increment (index size : Nat) : Nat :=
  let index := (index + 1) % 65536
  if index = size then 0 else index

/-- `size` bytes from `frames_[index]` on lie in the block. -/
def Inside (queue : EthernetQueue) (index : Nat) (size : UInt16) : Prop :=
  index * common.frameBytes + size.toNat ≤ queue.size * common.frameBytes

instance (queue : EthernetQueue) (index : Nat) (size : UInt16) :
    Decidable (Inside common queue index size) :=
  inferInstanceAs (Decidable (_ ≤ _))

def push (queue : EthernetQueue) (frame : Buffer) (size : UInt16) : Except Fault EthernetQueue :=
  if queue.isInitialized then
    if Inside common queue queue.bw size then
      .ok { queue with
        frames := queue.frames.write (queue.bw * common.frameBytes) (frame.read 0 size.toNat)
        frameSizes := fun i => if i = queue.bw then size else queue.frameSizes i
        bw := increment queue.bw queue.size }
    else .error .outOfBounds
  else .ok queue

/-- The queue, the contents of `frame` and the returned size. -/
def pull (queue : EthernetQueue) (frame : Buffer) :
    Except Fault (EthernetQueue × Buffer × UInt16) :=
  if queue.isInitialized then
    let count := common.dAMinBModC queue.bw queue.br queue.size % 65536
    if count ≠ 0 then
      let size := queue.frameSizes queue.br
      if Inside common queue queue.br size then
        .ok ({ queue with br := increment queue.br queue.size },
          frame.write 0 (queue.frames.read (queue.br * common.frameBytes) size.toNat), size)
      else .error .outOfBounds
    else .ok (queue, frame, 0)
  else .ok (queue, frame, 0)

def getCount (queue : EthernetQueue) : Nat :=
  if queue.isInitialized then common.dAMinBModC queue.bw queue.br queue.size % 65536 else 0

def getFree (queue : EthernetQueue) : Nat :=
  if queue.isInitialized then
    (((queue.size : Int) - 1 - common.dAMinBModC queue.bw queue.br queue.size) % 65536).toNat
  else 0

/-- `treshold` is what `setTreshold` stored. -/
def isAboveTreshold (queue : EthernetQueue) (treshold : UInt16) : Bool :=
  queue.isInitialized && treshold.toNat ≤ common.dAMinBModC queue.bw queue.br queue.size

end Operations

/-! ### The invariant -/

/-- The frame in a slot. -/
def frameAt (common : JbCommon) (queue : EthernetQueue) (i : Nat) : List UInt8 :=
  queue.frames.read (i * common.frameBytes) (queue.frameSizes i).toNat

/-- The frames in the queue, oldest first. -/
def queued (common : JbCommon) (queue : EthernetQueue) : List (List UInt8) :=
  Ring.contents (frameAt common queue) queue.size queue.br (getCount common queue)

/-- An initialised queue with its indices in range and its frames inside the block. -/
structure Valid (common : JbCommon) (queue : EthernetQueue) : Prop where
  initialized : queue.isInitialized = true
  fits : queue.size < 65536
  bw_lt : queue.bw < queue.size
  br_lt : queue.br < queue.size
  inside : ∀ k < Ring.distance queue.size queue.br queue.bw,
    Inside common queue (Ring.slot queue.size queue.br k)
      (queue.frameSizes (Ring.slot queue.size queue.br k))

section Operations

variable {common : JbCommon} {queue : EthernetQueue}

theorem increment_eq {index size : Nat} (fits : size < 65536) (inside : index < size) :
    increment index size = Ring.advance size index := by
  unfold increment Ring.advance
  rw [Nat.mod_eq_of_lt (by omega)]

namespace Valid

theorem dAMinBModC_eq (valid : Valid common queue) :
    common.dAMinBModC queue.bw queue.br queue.size =
      Ring.distance queue.size queue.br queue.bw :=
  (common.dAMinBModC_eq _ _ _ valid.bw_lt valid.br_lt).trans
    (Ring.distance_eq_mod valid.br_lt valid.bw_lt).symm

theorem distance_lt (valid : Valid common queue) :
    Ring.distance queue.size queue.br queue.bw < queue.size :=
  Ring.distance_lt valid.br_lt valid.bw_lt

/-- The count is not cut to 16 bits. -/
theorem count_mod (valid : Valid common queue) :
    common.dAMinBModC queue.bw queue.br queue.size % 65536 =
      Ring.distance queue.size queue.br queue.bw := by
  rw [valid.dAMinBModC_eq, Nat.mod_eq_of_lt (Nat.lt_trans valid.distance_lt valid.fits)]

theorem getCount_eq (valid : Valid common queue) :
    getCount common queue = Ring.distance queue.size queue.br queue.bw := by
  rw [getCount, if_pos valid.initialized, valid.count_mod]

theorem getFree_eq (valid : Valid common queue) :
    getFree common queue = queue.size - 1 - getCount common queue := by
  have fits := valid.fits
  have below := valid.distance_lt
  rw [getFree, if_pos valid.initialized, valid.dAMinBModC_eq, valid.getCount_eq]
  omega

theorem getCount_add_getFree (valid : Valid common queue) :
    getCount common queue + getFree common queue = queue.size - 1 := by
  have below := valid.distance_lt
  rw [valid.getFree_eq, valid.getCount_eq]
  omega

theorem length_queued : (queued common queue).length = getCount common queue :=
  Ring.length_contents

/-- The threshold is compared with the number of frames, and may be reached. -/
theorem isAboveTreshold_iff (valid : Valid common queue) (treshold : UInt16) :
    isAboveTreshold common queue treshold = true ↔
      treshold.toNat ≤ (queued common queue).length := by
  rw [length_queued, valid.getCount_eq, isAboveTreshold, valid.initialized, valid.dAMinBModC_eq,
    Bool.true_and, decide_eq_true_iff]

end Valid

/-- A queue as the constructor leaves it when both allocations succeed. -/
theorem construct_valid {size : UInt16} (frames : Buffer) (frameSizes : Nat → UInt16)
    (positive : size ≠ 0) : Valid common (construct size (some frames) (some frameSizes)) := by
  have some : 0 < size.toNat := Nat.pos_of_ne_zero fun zero => positive (UInt16.toNat_inj.mp zero)
  rw [construct, if_neg positive]
  refine ⟨rfl, size.toNat_lt, some, some, fun k before => ?_⟩
  rw [Ring.distance_self] at before
  exact absurd before (Nat.not_lt_zero k)

/-! ### What push does -/

/-- The queue after a push that stays inside the block. -/
def pushed (common : JbCommon) (queue : EthernetQueue) (frame : Buffer) (size : UInt16) :
    EthernetQueue :=
  { queue with
    frames := queue.frames.write (queue.bw * common.frameBytes) (frame.read 0 size.toNat)
    frameSizes := fun i => if i = queue.bw then size else queue.frameSizes i
    bw := Ring.advance queue.size queue.bw }

theorem push_eq (valid : Valid common queue) (frame : Buffer) {size : UInt16}
    (inside : Inside common queue queue.bw size) :
    push common queue frame size = .ok (pushed common queue frame size) := by
  rw [push, if_pos valid.initialized, if_pos inside, increment_eq valid.fits valid.bw_lt]
  rfl

theorem push_outside (valid : Valid common queue) (frame : Buffer) {size : UInt16}
    (outside : ¬ Inside common queue queue.bw size) :
    push common queue frame size = .error .outOfBounds := by
  rw [push, if_pos valid.initialized, if_neg outside]

variable {frame : Buffer} {size : UInt16}

/-- A queued frame's slot is not the one that is written next. -/
theorem slot_ne_bw (valid : Valid common queue) {k : Nat}
    (before : k < Ring.distance queue.size queue.br queue.bw) :
    Ring.slot queue.size queue.br k ≠ queue.bw := by
  have differs : Ring.slot queue.size queue.br k ≠
      Ring.slot queue.size queue.br (Ring.distance queue.size queue.br queue.bw) :=
    Ring.slot_ne before valid.distance_lt
  rwa [Ring.slot_distance valid.br_lt valid.bw_lt] at differs

theorem frameSizes_pushed (valid : Valid common queue) {k : Nat}
    (before : k < Ring.distance queue.size queue.br queue.bw) :
    (pushed common queue frame size).frameSizes (Ring.slot queue.size queue.br k) =
      queue.frameSizes (Ring.slot queue.size queue.br k) :=
  if_neg (slot_ne_bw valid before)

theorem frameSizes_pushed_bw : (pushed common queue frame size).frameSizes queue.bw = size :=
  if_pos rfl

/-- The slot just written holds the frame. -/
theorem frameAt_pushed_bw :
    frameAt common (pushed common queue frame size) queue.bw = frame.read 0 size.toNat := by
  unfold frameAt
  rw [frameSizes_pushed_bw]
  exact Buffer.read_write_array (frame.field 0 size.toNat)

namespace Valid

/-- A push keeps the invariant. -/
theorem push (valid : Valid common queue) (inside : Inside common queue queue.bw size) :
    Valid common (pushed common queue frame size) := by
  refine ⟨valid.initialized, valid.fits, Ring.advance_lt valid.bw_lt, valid.br_lt, ?_⟩
  intro k before
  change k < Ring.distance queue.size queue.br (Ring.advance queue.size queue.bw) at before
  rcases Nat.lt_or_ge (Ring.distance queue.size queue.br queue.bw + 1) queue.size with room | none
  · rw [Ring.distance_advance_stop valid.br_lt valid.bw_lt room] at before
    rcases Nat.lt_succ_iff_lt_or_eq.mp before with older | rfl
    · show Inside common queue (Ring.slot queue.size queue.br k)
        ((pushed common queue frame size).frameSizes (Ring.slot queue.size queue.br k))
      rw [frameSizes_pushed valid older]
      exact valid.inside k older
    · show Inside common queue (Ring.slot queue.size queue.br _)
        ((pushed common queue frame size).frameSizes (Ring.slot queue.size queue.br _))
      rw [Ring.slot_distance valid.br_lt valid.bw_lt, frameSizes_pushed_bw]
      exact inside
  · have full := Nat.le_antisymm valid.distance_lt none
    rw [Ring.distance_advance_full valid.br_lt valid.bw_lt full] at before
    exact absurd before (Nat.not_lt_zero k)

theorem room_iff (valid : Valid common queue) :
    0 < getFree common queue ↔ Ring.distance queue.size queue.br queue.bw + 1 < queue.size := by
  rw [valid.getFree_eq, valid.getCount_eq]
  omega

theorem getCount_pushed (valid : Valid common queue) (inside : Inside common queue queue.bw size)
    (room : 0 < getFree common queue) :
    getCount common (pushed common queue frame size) = getCount common queue + 1 := by
  rw [(valid.push inside).getCount_eq, valid.getCount_eq]
  exact Ring.distance_advance_stop valid.br_lt valid.bw_lt (valid.room_iff.mp room)

/-- A push into a full queue empties it. -/
theorem getCount_pushed_full (valid : Valid common queue)
    (inside : Inside common queue queue.bw size) (full : getFree common queue = 0) :
    getCount common (pushed common queue frame size) = 0 := by
  rw [(valid.push inside).getCount_eq]
  refine Ring.distance_advance_full valid.br_lt valid.bw_lt (Nat.le_antisymm valid.distance_lt ?_)
  refine Nat.le_of_not_lt fun room => ?_
  have free := valid.room_iff.mpr room
  rw [full] at free
  exact Nat.lt_irrefl 0 free

end Valid

/-! ### What pull does -/

/-- The queue after a pull of a frame. -/
def pulled (queue : EthernetQueue) : EthernetQueue :=
  { queue with br := Ring.advance queue.size queue.br }

theorem pull_eq (valid : Valid common queue) (some : 0 < getCount common queue) :
    pull common queue frame = .ok (pulled queue,
      frame.write 0 (frameAt common queue queue.br), queue.frameSizes queue.br) := by
  rw [valid.getCount_eq] at some
  have inside := valid.inside 0 some
  rw [Ring.slot_zero valid.br_lt] at inside
  unfold pull
  dsimp only
  rw [if_pos valid.initialized, valid.count_mod, if_pos (Nat.ne_of_gt some), if_pos inside,
    increment_eq valid.fits valid.br_lt]
  rfl

theorem pull_empty (valid : Valid common queue) (none : getCount common queue = 0) :
    pull common queue frame = .ok (queue, frame, 0) := by
  rw [valid.getCount_eq] at none
  unfold pull
  dsimp only
  rw [if_pos valid.initialized, valid.count_mod, if_neg fun some => some none]

namespace Valid

theorem pull (valid : Valid common queue) (some : 0 < getCount common queue) :
    Valid common (pulled queue) := by
  rw [valid.getCount_eq] at some
  refine ⟨valid.initialized, valid.fits, valid.bw_lt, Ring.advance_lt valid.br_lt, ?_⟩
  intro k before
  have shorter := Ring.distance_advance_start valid.br_lt valid.bw_lt some
  have below := valid.distance_lt
  have next : k + 1 < Ring.distance queue.size queue.br queue.bw := by
    rw [← shorter]
    exact Nat.succ_lt_succ before
  have behind := valid.inside (k + 1) next
  rw [Ring.slot_succ (Nat.lt_trans next below)] at behind
  exact behind

theorem getCount_pulled (valid : Valid common queue) (some : 0 < getCount common queue) :
    getCount common (pulled queue) + 1 = getCount common queue := by
  rw [(valid.pull some).getCount_eq]
  rw [valid.getCount_eq] at some ⊢
  exact Ring.distance_advance_start valid.br_lt valid.bw_lt some

end Valid

/-- The oldest frame is the one in the slot that is read next. -/
theorem queued_pulled (valid : Valid common queue) (some : 0 < getCount common queue) :
    queued common queue = frameAt common queue queue.br :: queued common (pulled queue) := by
  have fewer := valid.getCount_pulled some
  have below : getCount common (pulled queue) < queue.size := by
    rw [(valid.pull some).getCount_eq]
    exact (valid.pull some).distance_lt
  unfold queued
  rw [← fewer, Ring.contents_cons valid.br_lt below]
  rfl

/-- When a push with room leaves the frames that were queued in front of the new one. -/
theorem queued_prefix_iff (valid : Valid common queue) (inside : Inside common queue queue.bw size)
    (room : 0 < getFree common queue) :
    queued common queue <+: queued common (pushed common queue frame size) ↔
      ∀ k < getCount common queue, frameAt common queue (Ring.slot queue.size queue.br k) =
        frameAt common (pushed common queue frame size) (Ring.slot queue.size queue.br k) := by
  have counted : getCount common (pushed common queue frame size) = getCount common queue + 1 :=
    valid.getCount_pushed inside room
  unfold queued
  rw [counted]
  exact Ring.contents_prefix_iff

end Operations

end EthernetQueue

end Jblib.Ethutilities
