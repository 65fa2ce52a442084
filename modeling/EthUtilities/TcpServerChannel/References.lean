/-
**The reference counts of the pending chain.**

* `Recorded` — `tx` and `send` with a log of the buffers they allocate, access and deallocate; without
  the log they are `tx` and `send` (`Recorded.result_calls`). `Recorded.of_calls`: every buffer keeps
  to its life.
* `calls_replaces` — any calls of `tx` and `send` end without a fault, whatever lwIP answers, and
  touch no other chain.
* **`references_exact`** — a buffer that leaves the chain was deallocated once and not touched again,
  and one on the chain has a reference.
-/

import EthUtilities.Library.PbufLife
import EthUtilities.TcpServerChannel.StreamRuns

namespace Jblib.Ethutilities.TcpServerChannel

open Library Library.PbufHeap

/-- A call of `tx` on the connection, or of `send`, with what lwIP answers. -/
inductive Call
  | tx (buffer : List UInt8) (answer : TxResponse)
  | send (lwip : Nat → Response)

def call (tcpMss : Nat) (self : Address) (c : Connection) : Call → Except Fault Connection
  | .tx buffer answer => txConnection tcpMss self buffer answer c
  | .send lwip => send lwip c

/-- Calls, one after the other. -/
def calls (tcpMss : Nat) (self : Address) (list : List Call) (c : Connection) :
    Except Fault Connection := list.foldlM (call tcpMss self) c

/-! ### The functions with their log -/

namespace Recorded

open Library.PbufHeap.Recorded

def freeUntilFreed : Nat → Heap → Nat → Recording Heap
  | 0, _, _ => Logged.fault .diverges
  | fuel + 1, heap, p => do
    let (heap, freed) ← free heap p
    if freed = 0 then freeUntilFreed fuel heap p else pure heap

def chop (heap : Heap) (p : Nat) (buf : Pbuf) : Recording Heap := do
  let heap ← match buf.next with
    | some next => addRef heap next
    | none => pure heap
  freeUntilFreed buf.ref heap p

def sendLoop (lwip : Nat → Response) : Nat → Nat → Connection → Recording Connection
  | 0, _, _ => Logged.fault .diverges
  | fuel + 1, k, c =>
    match c.ss.p with
    | none => pure c
    | some p => do
      let buf ← read c.heap p
      if buf.payload.length ≤ (lwip k).sndbuf then
        let c := c.emit (.tcpWrite c.ss.pcb buf.payload (lwip k).write)
        match (lwip k).write with
        | .ok => do
          let heap ← chop c.heap p buf
          sendLoop lwip fuel (k + 1) (c.withChain heap buf.next)
        | .mem => pure (c.withChain c.heap (some p))
        | .other => pure c
      else pure c

def send (lwip : Nat → Response) (c : Connection) : Recording Connection :=
  sendLoop lwip (c.heap.size + 1) 0 c

def append (c : Connection) (p : Nat) : Recording Connection :=
  match c.ss.p with
  | none => pure (c.withChain c.heap (some p))
  | some head => do
    let heap ← chain c.heap head p
    pure (c.withChain heap (some head))

def fillChain (tcpMss : Nat) (pbufAlloc : Nat → Bool) :
    Nat → Nat → List UInt8 → Connection → Recording Connection
  | 0, _, _, _ => Logged.fault .diverges
  | fuel + 1, k, data, c =>
    if 0 < data.length then
      let payloadSize := min data.length tcpMss
      if pbufAlloc k then do
        let (heap, p) ← alloc c.heap payloadSize
        let heap ← memcpy heap p (data.take payloadSize)
        let c ← append { c with heap } p
        fillChain tcpMss pbufAlloc fuel (k + 1) (data.drop payloadSize) c
      else pure c
    else pure c

def txConnection (tcpMss : Nat) (self : Address) (buffer : List UInt8) (answer : TxResponse)
    (c : Connection) : Recording Connection :=
  if Accepts self c then do
    let c ← fillChain tcpMss answer.pbufAlloc (buffer.length + 1) 0 buffer c
    send answer.lwip (c.emit (.enqueue (c.heap.bytes c.ss.p)))
  else pure c

def call (tcpMss : Nat) (self : Address) (c : Connection) : Call → Recording Connection
  | .tx buffer answer => txConnection tcpMss self buffer answer c
  | .send lwip => send lwip c

def calls (tcpMss : Nat) (self : Address) (list : List Call) (c : Connection) :
    Recording Connection := list.foldlM (call tcpMss self) c

/-! ### Without the log -/

section Erasure

variable (lwip : Nat → Response) (tcpMss : Nat) (self : Address)

@[simp] theorem result_freeUntilFreed (fuel : Nat) (heap : Heap) (p : Nat) :
    (freeUntilFreed fuel heap p).result = TcpServerChannel.freeUntilFreed fuel heap p := by
  induction fuel generalizing heap with
  | zero => rfl
  | succ fuel ih =>
    simp only [freeUntilFreed, Logged.result_bind, result_free, Logged.result_ite, ih]
    rfl

@[simp] theorem result_chop (heap : Heap) (p : Nat) (buf : Pbuf) :
    (chop heap p buf).result = TcpServerChannel.chop heap p buf := by
  unfold chop TcpServerChannel.chop
  dsimp only
  cases buf.next with
  | none =>
    rw [Logged.result_bind]
    exact result_freeUntilFreed _ _ _
  | some next =>
    simp only [Logged.result_bind, result_addRef, result_freeUntilFreed]
    rfl

@[simp] theorem result_sendLoop (fuel k : Nat) (c : Connection) :
    (sendLoop lwip fuel k c).result = TcpServerChannel.sendLoop lwip fuel k c := by
  induction fuel generalizing k c with
  | zero => rfl
  | succ fuel ih =>
    rw [sendLoop, TcpServerChannel.sendLoop]
    cases c.ss.p with
    | none => rfl
    | some p =>
      rw [Logged.result_bind, result_read]
      show Except.bind _ _ = Except.bind _ _
      congr
      ext buf
      dsimp only
      rw [Logged.result_ite]
      congr 1
      cases (lwip k).write with
      | ok =>
        simp only [Logged.result_bind, result_chop, ih]
        rfl
      | mem | other => rfl

@[simp] theorem result_send (c : Connection) :
    (send lwip c).result = TcpServerChannel.send lwip c := result_sendLoop lwip _ _ c

@[simp] theorem result_append (c : Connection) (p : Nat) :
    (append c p).result = TcpServerChannel.append c p := by
  unfold append TcpServerChannel.append
  cases c.ss.p with
  | none => rfl
  | some head =>
    simp only [Logged.result_bind, result_chain]
    rfl

@[simp] theorem result_fillChain (pbufAlloc : Nat → Bool) (fuel k : Nat) (data : List UInt8)
    (c : Connection) : (fillChain tcpMss pbufAlloc fuel k data c).result =
      TcpServerChannel.fillChain tcpMss pbufAlloc fuel k data c := by
  induction fuel generalizing k data c with
  | zero => rfl
  | succ fuel ih =>
    simp only [fillChain, TcpServerChannel.fillChain, Logged.result_bind, Logged.result_ite,
      result_alloc, result_memcpy, result_append, Logged.result_pure, ih]
    rfl

@[simp] theorem result_call (c : Connection) (request : Call) :
    (call tcpMss self c request).result = TcpServerChannel.call tcpMss self c request := by
  cases request with
  | send lwip => exact result_send lwip c
  | tx buffer answer =>
    show (txConnection tcpMss self buffer answer c).result =
      TcpServerChannel.txConnection tcpMss self buffer answer c
    simp only [txConnection, TcpServerChannel.txConnection, Logged.result_bind, Logged.result_ite,
      result_fillChain, result_send, Logged.result_pure]
    rfl

/-- **Without the log** the calls are those of the code. -/
theorem result_calls (list : List Call) (c : Connection) :
    (calls tcpMss self list c).result = TcpServerChannel.calls tcpMss self list c := by
  unfold calls TcpServerChannel.calls
  induction list generalizing c with
  | nil => rfl
  | cons request list ih =>
    simp only [List.foldlM_cons, Logged.result_bind, result_call, ih]
    rfl

end Erasure

/-! ### The life of the buffers -/

section Lives

variable {lwip : Nat → Response} {tcpMss : Nat} {self : Address} {heap heap' : Heap}
  {c c' : Connection} {log : List PbufEvent} {p : Nat}

theorem of_freeUntilFreed {fuel : Nat} (ran : (freeUntilFreed fuel heap p).Returns log heap') :
    Lives heap log heap' := by
  induction fuel generalizing heap log with
  | zero => exact absurd ran Logged.not_returns_fault
  | succ fuel ih =>
    obtain ⟨first, freed, second, once, again, rfl⟩ := Logged.returns_bind_iff.mp ran
    refine (of_free once).trans ?_
    dsimp only at again
    split at again
    case isTrue => exact ih again
    case isFalse => exact of_pure again id

theorem of_chop {buf : Pbuf} (ran : (chop heap p buf).Returns log heap') :
    Lives heap log heap' := by
  unfold chop at ran
  dsimp only at ran
  split at ran
  case h_1 =>
    obtain ⟨first, between, second, referenced, freed, rfl⟩ := Logged.returns_bind_iff.mp ran
    exact (of_addRef referenced).trans (of_freeUntilFreed freed)
  case h_2 =>
    obtain ⟨first, between, second, unchanged, freed, rfl⟩ := Logged.returns_bind_iff.mp ran
    obtain ⟨rfl, rfl⟩ := Logged.returns_pure_iff.mp unchanged
    exact of_freeUntilFreed freed

theorem of_sendLoop {fuel k : Nat} (ran : (sendLoop lwip fuel k c).Returns log c') :
    Lives c.heap log c'.heap := by
  induction fuel generalizing k c log with
  | zero => exact absurd ran Logged.not_returns_fault
  | succ fuel ih =>
    rw [sendLoop] at ran
    cases start : c.ss.p with
    | none =>
      rw [start] at ran
      exact of_pure ran Connection.heap
    | some p =>
      rw [start] at ran
      obtain ⟨first, buf, second, readBuf, turn, rfl⟩ := Logged.returns_bind_iff.mp ran
      refine (of_read readBuf).2.trans ?_
      dsimp only at turn
      split at turn
      case isFalse => exact of_pure turn Connection.heap
      case isTrue =>
        cases result : (lwip k).write with
        | ok =>
          rw [result] at turn
          obtain ⟨third, heap, fourth, chopped, rest, rfl⟩ := Logged.returns_bind_iff.mp turn
          exact (of_chop chopped).trans (ih rest)
        | mem | other =>
          rw [result] at turn
          exact of_pure turn Connection.heap

theorem of_send (ran : (send lwip c).Returns log c') : Lives c.heap log c'.heap := of_sendLoop ran

theorem of_append (ran : (append c p).Returns log c') : Lives c.heap log c'.heap := by
  unfold append at ran
  split at ran
  case h_1 => exact of_pure ran Connection.heap
  case h_2 head _ =>
    obtain ⟨first, heap, second, chained, joined, rfl⟩ := Logged.returns_bind_iff.mp ran
    obtain ⟨rfl, rfl⟩ := Logged.returns_pure_iff.mp joined
    rw [List.append_nil]
    exact of_chain chained

theorem of_fillChain {pbufAlloc : Nat → Bool} {fuel k : Nat} {data : List UInt8}
    (ran : (fillChain tcpMss pbufAlloc fuel k data c).Returns log c') :
    Lives c.heap log c'.heap := by
  induction fuel generalizing k data c log with
  | zero => exact absurd ran Logged.not_returns_fault
  | succ fuel ih =>
    rw [fillChain] at ran
    dsimp only at ran
    split_ifs at ran
    case pos =>
      obtain ⟨first, new, _, allocated, filled, rfl⟩ := Logged.returns_bind_iff.mp ran
      obtain ⟨second, heap, _, copied, appended, rfl⟩ := Logged.returns_bind_iff.mp filled
      obtain ⟨third, longer, fourth, joined, rest, rfl⟩ := Logged.returns_bind_iff.mp appended
      obtain ⟨rfl, lives⟩ := of_alloc allocated
      exact lives.trans ((of_memcpy copied).trans ((of_append joined).trans (ih rest)))
    all_goals exact of_pure ran Connection.heap

theorem of_call {request : Call} (ran : (call tcpMss self c request).Returns log c') :
    Lives c.heap log c'.heap := by
  cases request with
  | send lwip => exact of_send ran
  | tx buffer answer =>
    unfold call txConnection at ran
    dsimp only at ran
    split at ran
    case isTrue =>
      obtain ⟨first, filled, second, chunks, sent, rfl⟩ := Logged.returns_bind_iff.mp ran
      have lives := of_send sent
      exact (of_fillChain chunks).trans lives
    case isFalse => exact of_pure ran Connection.heap

/-- **Every buffer keeps to its life.** -/
theorem of_calls {list : List Call} (ran : (calls tcpMss self list c).Returns log c') :
    Lives c.heap log c'.heap := by
  unfold calls at ran
  induction list generalizing c log with
  | nil => exact of_pure ran Connection.heap
  | cons request list ih =>
    rw [List.foldlM_cons] at ran
    obtain ⟨first, between, second, called, rest, rfl⟩ := Logged.returns_bind_iff.mp ran
    exact (of_call called).trans (ih rest)

end Lives

end Recorded

/-! ### Any calls -/

section Calls

variable {tcpMss : Nat} {self : Address} {c : Connection} {links : List Link}

theorem call_replaces (positive : 0 < tcpMss) (request : Call)
    (pending : Pending c.heap c.ss.p links) :
    ∃ c' links', call tcpMss self c request = .ok c' ∧ Pending c'.heap c'.ss.p links' ∧
      Replaces c.heap c'.heap (links.map Link.address) (links'.map Link.address) := by
  cases request with
  | tx buffer answer =>
    obtain ⟨c', links', ran, pending', -, replaces⟩ :=
      txConnection_replaces self positive buffer answer pending
    exact ⟨c', links', ran, pending', replaces⟩
  | send lwip =>
    obtain ⟨c', links', ran, -, pending', replaces⟩ := send_sends lwip pending
    exact ⟨c', links', ran, pending', replaces⟩

/-- **Any calls end**, without a fault, with a pending chain. -/
theorem calls_replaces (positive : 0 < tcpMss) (list : List Call)
    (pending : Pending c.heap c.ss.p links) :
    ∃ c' links', calls tcpMss self list c = .ok c' ∧ Pending c'.heap c'.ss.p links' ∧
      Replaces c.heap c'.heap (links.map Link.address) (links'.map Link.address) := by
  unfold calls
  induction list generalizing c links with
  | nil => exact ⟨c, links, rfl, pending, .refl _ _⟩
  | cons request list ih =>
    obtain ⟨c₁, links₁, called, pending₁, replaces₁⟩ := call_replaces positive request pending
    obtain ⟨c', links', ran, pending', replaces⟩ := ih pending₁
    refine ⟨c', links', ?_, pending', replaces₁.trans replaces⟩
    rw [List.foldlM_cons, called]
    exact ran

/-- The buffers of a pending chain are allocated, with a reference. -/
theorem Pending.referenced {heap : Heap} {p : Option Nat} (pending : Pending heap p links) {q : Nat}
    (on : OnChain heap p q) : ∃ buf, heap.get q = some buf ∧ 1 ≤ buf.ref := by
  obtain ⟨link, inside, rfl⟩ := List.mem_map.mp (pending.linked.onChain_iff.mp on)
  obtain ⟨next, found⟩ := pending.linked.get inside
  refine ⟨_, found, ?_⟩
  cases links with
  | nil => cases inside
  | cons first rest =>
    obtain ⟨one, two⟩ := pending.counted
    rcases List.mem_cons.mp inside with rfl | later
    · rcases one with one | one <;> simp [one]
    · simp [two link later]

/-- What becomes of the buffers while calls lead from one state to another. -/
structure CountsExactly (c c' : Connection) (log : List PbufEvent) : Prop where
  /-- a buffer that was on the chain, or came to it, and is not on it any more -/
  removed : ∀ q, OnChain c.heap c.ss.p q ∨ .allocate q ∈ log → ¬ OnChain c'.heap c'.ss.p q →
    log.count (.deallocate q) = 1
  /-- nothing happens to a buffer after it was deallocated -/
  untouched : ∀ q before after, log = before ++ .deallocate q :: after →
    ∀ event ∈ after, event.address ≠ q
  /-- a buffer on the chain -/
  kept : ∀ q, OnChain c'.heap c'.ss.p q → log.count (.deallocate q) = 0 ∧
    ∃ buf, c'.heap.get q = some buf ∧ 1 ≤ buf.ref

/-- **The reference counting is exact**: whatever `tx` built the chain from, calls of `send`, and of
`tx`, always end, and count every buffer out once. -/
theorem references_exact (positive : 0 < tcpMss) (nothing : c.ss.p = none) (built sends : List Call) :
    ∃ c₁ log₁ c₂ log₂, (Recorded.calls tcpMss self built c).Returns log₁ c₁ ∧
      (Recorded.calls tcpMss self sends c₁).Returns log₂ c₂ ∧ CountsExactly c₁ c₂ log₂ := by
  have pending : Pending c.heap c.ss.p [] := by
    rw [nothing]
    exact .empty
  obtain ⟨c₁, links₁, ran₁, pending₁, -⟩ := @calls_replaces _ self _ _ positive built pending
  obtain ⟨c₂, links₂, ran₂, pending₂, replaces⟩ :=
    @calls_replaces _ self _ _ positive sends pending₁
  obtain ⟨log₁, returns₁⟩ := Logged.exists_returns
    ((Recorded.result_calls tcpMss self built c).trans ran₁)
  obtain ⟨log₂, returns₂⟩ := Logged.exists_returns
    ((Recorded.result_calls tcpMss self sends c₁).trans ran₂)
  have lives := Recorded.of_calls returns₂
  have allocated : ∀ q ∈ links₁.map Link.address, c₁.heap.get q ≠ none := fun q inside => by
    obtain ⟨buf, found, -⟩ := pending₁.referenced (pending₁.linked.onChain_iff.mpr inside)
    simp [found]
  refine ⟨c₁, log₁, c₂, log₂, returns₁, returns₂, fun q was off => ?_,
    fun q before after cut => lives.untouched_later cut, fun q on => ⟨?_, pending₂.referenced on⟩⟩
  · rw [pending₂.linked.onChain_iff] at off
    rcases was with on | came
    · have inside := pending₁.linked.onChain_iff.mp on
      exact lives.count_removed replaces (allocated q inside) inside off
    · exact lives.count_passed replaces came off
  · obtain ⟨buf, found, -⟩ := pending₂.referenced on
    exact lives.count_kept replaces allocated (pending₂.linked.onChain_iff.mp on) (by simp [found])

/-- Three buffers: the first `send` gets rid of two of them, and the last one waits for memory. -/
theorem references_exact_sample :
    let built : List Call := [.tx [1, 2, 3, 4, 5] ⟨fun _ => true, fun _ => ⟨0, .ok⟩⟩]
    let sends : List Call :=
      [.send fun k => ⟨2, if k < 2 then .ok else .mem⟩, .send fun _ => ⟨9, .ok⟩]
    ∃ c₁ log₁ c₂ log₂,
      (Recorded.calls 2 7 built (accept ⟨[some 7, none], 1⟩ true .empty 9)).Returns log₁ c₁ ∧
      (Recorded.calls 2 7 sends c₁).Returns log₂ c₂ ∧ CountsExactly c₁ c₂ log₂ :=
  references_exact (by decide) rfl _ _

end Calls

end Jblib.Ethutilities.TcpServerChannel
