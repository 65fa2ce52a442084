/-
**Whether messages are queued whole.**

A message is put on the chain chunk by chunk; when a `pbuf_alloc` fails, the chunks before it stay
there, and are sent.

* `takes_whole_iff` — a call of `tx` takes the whole message or nothing of it exactly if the first
  `pbuf_alloc` fails or none does.
* `connectionStep_enqueues` — what one event puts on the chain.
* **`whole_messages_iff`** — at every connection, and over whole runs: as long as every call meets
  that condition, what the peer gets is a sequence of whole messages.
-/

import EthUtilities.TcpServerChannel.StreamRuns

namespace Jblib.Ethutilities.TcpServerChannel

open Library Library.PbufHeap

/-- The first `pbuf_alloc` for a message fails, or none does. -/
def AllOrFirst (tcpMss : Nat) (buffer : List UInt8) (pbufAlloc : Nat → Bool) : Prop :=
  pbufAlloc 0 = false ∨ ∀ k, k * tcpMss < buffer.length → pbufAlloc k = true

/-- The bytes that the peer was sent, and those it is still to be sent. -/
def stream (c : Connection) : List UInt8 := written c.trace ++ c.heap.bytes c.ss.p

/-- The message is sent or to be sent after what was before, or nothing of it is. -/
def WholeOrNothing (buffer : List UInt8) (c c' : Connection) : Prop :=
  stream c' = stream c ++ buffer ∨ stream c' = stream c

/-! ### One call -/

section Call

variable {tcpMss : Nat} {self : Address} {c c' : Connection} {buffer data : List UInt8}
  {answer : TxResponse}

/-- **What a call takes**, all or nothing. -/
theorem takes_whole_iff (positive : 0 < tcpMss) (takes : Takes tcpMss buffer answer data) :
    data = buffer ∨ data = [] ↔ AllOrFirst tcpMss buffer answer.pbufAlloc := by
  obtain ⟨chunks, rfl, all, none⟩ := takes
  have allocated : ∀ i < chunks, answer.pbufAlloc i = true := fun i before => by
    have here := all i before
    rw [Nat.zero_add] at here
    exact here
  rw [Nat.zero_add] at none
  constructor
  · rintro (whole | nothing)
    · have length := congrArg List.length whole
      rw [List.length_take] at length
      refine .inr fun k more => allocated k (Nat.lt_of_mul_lt_mul_right (a := tcpMss) ?_)
      omega
    · by_cases empty : buffer.length = 0
      · exact .inr fun k more => absurd more (by omega)
      · have length := congrArg List.length nothing
        rw [List.length_take, List.length_nil] at length
        have zero : chunks * tcpMss = 0 := by omega
        obtain rfl : chunks = 0 := (Nat.mul_eq_zero.mp zero).resolve_right (Nat.ne_of_gt positive)
        exact .inl (none (by omega))
  · rintro (first | always)
    · have zero : chunks = 0 := by
        by_contra some
        have here := allocated 0 (Nat.pos_of_ne_zero some)
        rw [first] at here
        cases here
      rw [zero, Nat.zero_mul]
      exact .inr rfl
    · refine .inl (List.take_of_length_le (Nat.le_of_not_lt fun more => ?_))
      have failed := none more
      rw [always chunks more] at failed
      cases failed

/-- What was put on the chain is added to the stream. -/
theorem stream_of_enqueued {news : List (List UInt8)} (flow : Flow c) (flow' : Flow c')
    (enqueues : enqueued c'.trace = enqueued c.trace ++ news) :
    stream c' = stream c ++ news.flatten := by
  unfold stream
  rw [flow'.stream, flow.stream, enqueues, List.flatten_append]

/-- **One call of `tx`** that takes its message. -/
theorem tx_whole_iff (positive : 0 < tcpMss) (flow : Flow c) (alive : c.freed = false)
    (accepts : Accepts self c) (buffer : List UInt8) (answer : Nat → TxResponse) :
    ∃ c', tx tcpMss self buffer (some self) answer c = .ok c' ∧
      (WholeOrNothing buffer c c' ↔ AllOrFirst tcpMss buffer (answer 0).pbufAlloc) := by
  obtain ⟨c', ran, flow', _, _, explicit, _⟩ :=
    tx_takes self positive buffer (some self) answer flow alive
  obtain ⟨data, enqueues, takes⟩ := explicit rfl accepts
  have added := stream_of_enqueued flow flow' enqueues
  rw [List.flatten_singleton] at added
  refine ⟨c', ran, ?_⟩
  rw [← takes_whole_iff positive takes, WholeOrNothing, added, List.append_cancel_left_eq,
    List.append_right_eq_self]

end Call

/-! ### Runs -/

section Runs

variable {tcpMss : Nat} (self : Address) {c c' : Connection}

theorem enqueued_append_silent (trace : List Output) {more : List Output}
    (silent : ∀ output ∈ more, Silent output) : enqueued (trace ++ more) = enqueued trace := by
  rw [enqueued_append, enqueued_silent silent, List.append_nil]

/-- A further attempt to send puts nothing on the chain. -/
theorem resend_enqueued (lwip : Nat → Response) (flow : Flow c)
    (ran : send lwip (c.emit (.tcpSent c.ss.pcb)) = .ok c') :
    enqueued c'.trace = enqueued c.trace := by
  have flow₁ : Flow (c.emit (.tcpSent c.ss.pcb)) := flow.outputs (by simp [Silent])
  obtain ⟨links, pending⟩ := flow₁.pending
  obtain ⟨sent, _, ran', sends, _⟩ := send_sends lwip pending
  obtain rfl : sent = c' := Except.ok.inj (ran'.symm.trans ran)
  rw [sends.enqueued]
  exact enqueued_append_silent c.trace (by simp [Silent])

theorem close_enqueued : enqueued (close self c).trace = enqueued c.trace := by
  show enqueued (c.trace ++ [_]) = _
  rw [enqueued_append]
  exact List.append_nil _

theorem poll_enqueued (lwip : Nat → Response) (flow : Flow c) (ran : poll self lwip c = .ok c') :
    enqueued c'.trace = enqueued c.trace := by
  rw [poll] at ran
  cases nothing : c.ss.p with
  | some p =>
    rw [nothing] at ran
    exact resend_enqueued lwip flow ran
  | none =>
    rw [nothing] at ran
    dsimp only at ran
    split at ran
    · cases ran
      exact close_enqueued self
    · cases ran
      rfl

/-- The branch of `receive` for the end of the stream. -/
theorem drain_enqueued (lwip : Nat → Response) (flow : Flow c)
    (ran : (match c.ss.p with
      | none => Except.ok (close self c)
      | some _ => send lwip (c.emit (.tcpSent c.ss.pcb))) = .ok c') :
    enqueued c'.trace = enqueued c.trace := by
  cases nothing : c.ss.p with
  | some p =>
    rw [nothing] at ran
    exact resend_enqueued lwip flow ran
  | none =>
    rw [nothing] at ran
    cases ran
    exact close_enqueued self

theorem receive_enqueued (p : Option (List (List UInt8))) (err : Err) (lwip : Nat → Response)
    (flow : Flow c) (ran : receive self p err lwip c = .ok c') :
    enqueued c'.trace = enqueued c.trace := by
  unfold receive at ran
  cases p with
  | none =>
    have flow₁ : Flow { c with ss := { c.ss with state := .closing } } :=
      ⟨flow.pending, flow.stream, flow.closes, flow.drained⟩
    have drained := drain_enqueued self lwip flow₁ ran
    exact drained
  | some segments =>
    dsimp only at ran
    split at ran
    · cases ran
      rfl
    · cases state : c.ss.state with
      | accepted =>
        rw [state] at ran
        cases ran
        dsimp only
        rw [List.append_assoc]
        exact enqueued_append_silent c.trace (silent_delivered c.callback segments _ _)
      | closing | none =>
        rw [state] at ran
        cases ran
        exact enqueued_append_silent c.trace (by simp [Silent])

/-- **What one event puts on the chain**: messages of `tx`, as far as they are taken. -/
theorem connectionStep_enqueues (positive : 0 < tcpMss) (event : ConnectionEvent) (flow : Flow c)
    (alive : c.freed = false) (ran : connectionStep tcpMss self c event = .ok c') :
    ∃ news, enqueued c'.trace = enqueued c.trace ++ news ∧
      ∀ data ∈ news, ∃ buffer parameter answer i, event = .tx buffer parameter answer ∧
        Takes tcpMss buffer (answer i) data := by
  have nothing : enqueued c'.trace = enqueued c.trace →
      ∃ news, enqueued c'.trace = enqueued c.trace ++ news ∧
        ∀ data ∈ news, ∃ buffer parameter answer i, event = .tx buffer parameter answer ∧
          Takes tcpMss buffer (answer i) data := fun same =>
    ⟨[], same.trans (List.append_nil _).symm, fun _ inside => absurd inside List.not_mem_nil⟩
  cases event with
  | tx buffer parameter answer =>
    obtain ⟨c'', called, _, refused, foreign, explicit, broadcast⟩ :=
      tx_takes self positive buffer parameter answer flow alive
    obtain rfl : c'' = c' := Except.ok.inj (called.symm.trans ran)
    by_cases accepts : Accepts self c
    case neg => exact nothing (by rw [refused accepts])
    cases parameter with
    | none =>
      obtain ⟨news, _, enqueues, takes⟩ := broadcast rfl accepts
      refine ⟨news, enqueues, fun data member => ?_⟩
      obtain ⟨i, taken⟩ := takes data member
      exact ⟨buffer, none, answer, i, rfl, taken⟩
    | some record =>
      by_cases here : record = self
      · obtain ⟨data, enqueues, taken⟩ := explicit (congrArg some here) accepts
        refine ⟨[data], enqueues, fun other member => ?_⟩
        rw [List.mem_singleton.mp member]
        exact ⟨buffer, some record, answer, 0, rfl, taken⟩
      · exact nothing (by rw [foreign record rfl here])
  | poll lwip => exact nothing (poll_enqueued self lwip flow ran)
  | sent lwip => exact nothing (poll_enqueued self lwip flow ran)
  | receive p err lwip => exact nothing (receive_enqueued self p err lwip flow ran)
  | others registry =>
    cases ran
    exact nothing rfl
  | setCallback callback =>
    cases ran
    exact nothing rfl

/-- All calls of an event meet the condition. -/
def WholeCalls (tcpMss : Nat) : ConnectionEvent → Prop
  | .tx buffer _ answer => ∀ i, AllOrFirst tcpMss buffer (answer i).pbufAlloc
  | _ => True

/-- A message that `tx` was called with. -/
def IsMessage (events : List ConnectionEvent) (data : List UInt8) : Prop :=
  ∃ parameter answer, .tx data parameter answer ∈ events

/-- **A run of such calls** puts whole messages on the chain. -/
theorem run_whole (positive : 0 < tcpMss) {events : List ConnectionEvent} (flow : Flow c)
    (fresh : enqueued c.trace = []) (valid : (connection tcpMss self).Valid (.ok c) events)
    (whole : ∀ event ∈ events, WholeCalls tcpMss event) :
    ∃ c', (connection tcpMss self).run (.ok c) events = .ok c' ∧ Flow c' ∧
      ∀ data ∈ enqueued c'.trace, data = [] ∨ IsMessage events data := by
  refine Machine.checked_run_of_forall (connectionStep tcpMss self) (fun c _ => c.freed = false)
    (Q := fun event => event ∈ events ∧ WholeCalls tcpMss event) ?_ ⟨flow, ?_⟩ valid
    fun event member => ⟨member, whole event member⟩
  · rintro c event ⟨flow, pieces⟩ alive ⟨member, meets⟩
    obtain ⟨c', ran, flow'⟩ := connectionStep_flow self positive event flow alive
    obtain ⟨news, enqueues, taken⟩ := connectionStep_enqueues self positive event flow alive ran
    refine ⟨c', ran, flow', fun data inside => ?_⟩
    rw [enqueues] at inside
    rcases List.mem_append.mp inside with earlier | new
    · exact pieces data earlier
    · obtain ⟨buffer, parameter, answer, i, rfl, takes⟩ := taken data new
      rcases (takes_whole_iff positive takes).mpr (meets i) with rfl | nothing
      · exact .inr ⟨parameter, answer, member⟩
      · exact .inl nothing
  · rw [fresh]
    exact fun _ inside => absurd inside List.not_mem_nil

/-- **Whether messages are queued whole.** At a connection in any state it reaches, a call of `tx`
that takes its message adds the whole of it to the stream or nothing exactly if the first
`pbuf_alloc` fails or none does; and as long as all calls are like that, the stream is a sequence of
whole messages. -/
theorem whole_messages_iff {tcpMss : Nat} (positive : 0 < tcpMss) (self pcb : Address)
    (registry : Registry) (callback : Bool) (heap : Heap) (events : List ConnectionEvent)
    (valid : (connection tcpMss self).Valid (.ok (accept registry callback heap pcb)) events) :
    ∃ c, (connection tcpMss self).run (.ok (accept registry callback heap pcb)) events = .ok c ∧
      (c.freed = false → Accepts self c → ∀ buffer answer, ∃ c',
        tx tcpMss self buffer (some self) answer c = .ok c' ∧
        (WholeOrNothing buffer c c' ↔ AllOrFirst tcpMss buffer (answer 0).pbufAlloc)) ∧
      ((∀ event ∈ events, WholeCalls tcpMss event) → ∃ messages : List (List UInt8),
        stream c = messages.flatten ∧
        ∀ message ∈ messages, message = [] ∨ IsMessage events message) := by
  obtain ⟨c, ran, flow⟩ := Machine.checked_run (connectionStep tcpMss self)
    (fun c _ => c.freed = false)
    (fun c event flow alive => connectionStep_flow self positive event flow alive)
    (accept_flow registry callback heap pcb) valid
  refine ⟨c, ran, fun alive accepts buffer answer =>
    tx_whole_iff positive flow alive accepts buffer answer, fun whole => ?_⟩
  obtain ⟨c', ran', _, pieces⟩ :=
    run_whole self positive (accept_flow registry callback heap pcb) rfl valid whole
  obtain rfl : c = c' := Except.ok.inj (ran.symm.trans ran')
  exact ⟨enqueued c.trace, flow.stream, pieces⟩

/-- A channel with one connection. -/
def sampleConnection : Connection := accept ⟨[some 7, none], 1⟩ true .empty 9

/-- An answer of lwIP with a number of buffers. -/
def buffersFor (buffers : Nat) : TxResponse := ⟨fun k => k < buffers, fun _ => ⟨2, .ok⟩⟩

theorem whole_messages_iff_sample :
    ∃ c, (connection 2 7).run (.ok sampleConnection)
        [.tx [1, 2, 3] (some 7) fun _ => buffersFor 2] = .ok c ∧
      (c.freed = false → Accepts 7 c → ∀ buffer answer, ∃ c',
        tx 2 7 buffer (some 7) answer c = .ok c' ∧
        (WholeOrNothing buffer c c' ↔ AllOrFirst 2 buffer (answer 0).pbufAlloc)) ∧
      ((∀ event ∈ [ConnectionEvent.tx [1, 2, 3] (some 7) fun _ => buffersFor 2],
          WholeCalls 2 event) → ∃ messages : List (List UInt8), stream c = messages.flatten ∧
        ∀ message ∈ messages, message = [] ∨
          IsMessage [.tx [1, 2, 3] (some 7) fun _ => buffersFor 2] message) :=
  whole_messages_iff (by decide) 7 9 ⟨[some 7, none], 1⟩ true .empty _ (by decide)

/-- When the second buffer cannot be had, the peer gets the first one all the same. -/
theorem prefix_sent : Accepts 7 sampleConnection ∧
    ∃ c', tx 2 7 [1, 2, 3] (some 7) (fun _ => buffersFor 1) sampleConnection = .ok c' ∧
      written c'.trace = [1, 2] ∧ ¬ WholeOrNothing [1, 2, 3] sampleConnection c' := by
  refine ⟨by decide, _, rfl, rfl, ?_⟩
  rintro (whole | nothing)
  · cases whole
  · cases nothing

end Runs

end Jblib.Ethutilities.TcpServerChannel
