/-
**A connection sends what it took, segment by segment, and closes.**

`poll`, `sent` and the end of the stream in `receive` give the channel a chance to send. How far it
comes depends on lwIP; here the chances count in which lwIP has room for one segment at least.

* `Queued` — a message is cut into segments of `TCP_MSS` bytes, the last one what is left of it; each
  of them is one `tcp_write`, and what is not written yet is on the chain.
* `sendLoop_forwards`, `fillChain_segmented` — what the two loops do to the segments.
* `connectionStep_progress` — one event. Once the remote host has closed the connection, a chance
  writes a segment or closes the record.
* **`connection_drains`** — over whole runs: no chance is lost on a connection that the remote host has
  closed, and without new messages a connection is done after as many chances as it has segments.
-/

import Mathlib.Algebra.Order.Group.Nat
import EthUtilities.Library.Progress
import EthUtilities.TcpServerChannel.WholeMessages

namespace Jblib.Ethutilities.TcpServerChannel

open Library Library.PbufHeap

/-! ### Segments -/

section Segments

variable {tcpMss : Nat}

/-- The number of segments of so many bytes. -/
def segments (tcpMss length : Nat) : Nat := (length + tcpMss - 1) / tcpMss

theorem segments_zero (positive : 0 < tcpMss) : segments tcpMss 0 = 0 :=
  Nat.div_eq_of_lt (by omega)

theorem segments_full (positive : 0 < tcpMss) (length : Nat) :
    segments tcpMss (tcpMss + length) = segments tcpMss length + 1 := by
  unfold segments
  rw [show tcpMss + length + tcpMss - 1 = length + tcpMss - 1 + tcpMss by omega,
    Nat.add_div_right _ positive]

theorem segments_last {length : Nat} (some : 0 < length) (fits : length ≤ tcpMss) :
    segments tcpMss length = 1 := by
  unfold segments
  rw [show length + tcpMss - 1 = length - 1 + tcpMss by omega,
    Nat.add_div_right _ (by omega), Nat.div_eq_of_lt (by omega)]

/-- A chain of segments: all are full but the last one. -/
structure Segmented (tcpMss : Nat) (links : List Link) : Prop where
  some : ∀ link ∈ links, 0 < link.data.length
  fits : ∀ link ∈ links, link.data.length ≤ tcpMss
  full : ∀ link ∈ links.dropLast, link.data.length = tcpMss

theorem Segmented.nil : Segmented tcpMss [] :=
  ⟨fun _ inside => absurd inside List.not_mem_nil, fun _ inside => absurd inside List.not_mem_nil,
    fun _ inside => absurd inside List.not_mem_nil⟩

/-- The segments behind the first ones. -/
theorem Segmented.suffix {front rest : List Link} (segmented : Segmented tcpMss (front ++ rest)) :
    Segmented tcpMss rest where
  some link inside := segmented.some link (List.mem_append_right _ inside)
  fits link inside := segmented.fits link (List.mem_append_right _ inside)
  full link inside := by
    have more : rest ≠ [] := by
      rintro rfl
      cases inside
    refine segmented.full link ?_
    rw [List.dropLast_append_of_ne_nil more]
    exact List.mem_append_right _ inside

/-- Full segments and a last one. -/
theorem Segmented.concat {links : List Link} {last : Link} (positive : 0 < tcpMss)
    (full : ∀ link ∈ links, link.data.length = tcpMss) (some : 0 < last.data.length)
    (fits : last.data.length ≤ tcpMss) : Segmented tcpMss (links ++ [last]) where
  some link inside := by
    rcases List.mem_append.mp inside with earlier | here
    · rw [full link earlier]
      exact positive
    · rw [List.mem_singleton.mp here]
      exact some
  fits link inside := by
    rcases List.mem_append.mp inside with earlier | here
    · exact (full link earlier).le
    · rw [List.mem_singleton.mp here]
      exact fits
  full link inside := by
    rw [List.dropLast_concat] at inside
    exact full link inside

theorem Segmented.of_full {links : List Link} (positive : 0 < tcpMss)
    (full : ∀ link ∈ links, link.data.length = tcpMss) : Segmented tcpMss links where
  some link inside := by
    rw [full link inside]
    exact positive
  fits link inside := (full link inside).le
  full link inside := full link (List.dropLast_subset links inside)

/-- **A chain has as many buffers as its bytes have segments.** -/
theorem Segmented.length_eq {links : List Link} (positive : 0 < tcpMss)
    (segmented : Segmented tcpMss links) :
    links.length = segments tcpMss (links.flatMap Link.data).length := by
  induction links with
  | nil => exact (segments_zero positive).symm
  | cons link links ih =>
    rw [List.flatMap_cons, List.length_append]
    cases links with
    | nil =>
      exact (segments_last (segmented.some link List.mem_cons_self)
        (segmented.fits link List.mem_cons_self)).symm
    | cons second links =>
      have tail : Segmented tcpMss (second :: links) :=
        @Segmented.suffix tcpMss [link] (second :: links) segmented
      rw [segmented.full link List.mem_cons_self, segments_full positive, ← ih tail]
      rfl

end Segments

/-! ### Queued segments -/

/-- The number of segments that `tcp_write` accepted. -/
def writes (trace : List Output) : Nat :=
  trace.countP fun
    | .tcpWrite _ _ .ok => true
    | _ => false

/-- The number of segments of all messages that were taken. -/
def due (tcpMss : Nat) (trace : List Output) : Nat :=
  Machine.total (fun data => segments tcpMss data.length) (enqueued trace)

/-- The number of segments that are pending. -/
def backlog (tcpMss : Nat) (c : Connection) : Nat :=
  segments tcpMss (c.heap.bytes c.ss.p).length

/-- **What is due is written or on the chain**, segment by segment. -/
def Queued (tcpMss : Nat) (c : Connection) : Prop :=
  ∃ links, Pending c.heap c.ss.p links ∧ Segmented tcpMss links ∧
    writes c.trace + links.length = due tcpMss c.trace

theorem writes_append (trace more : List Output) :
    writes (trace ++ more) = writes trace + writes more := List.countP_append

theorem writes_silent {more : List Output} (silent : ∀ output ∈ more, Silent output) :
    writes more = 0 := by
  refine List.countP_eq_zero.mpr fun output inside => ?_
  cases output with
  | tcpWrite => exact (silent _ inside).elim
  | _ => exact Bool.false_ne_true

section Queued

variable {tcpMss : Nat} {c : Connection}

theorem Queued.writes_add_backlog (positive : 0 < tcpMss) (queued : Queued tcpMss c) :
    writes c.trace + backlog tcpMss c = due tcpMss c.trace := by
  obtain ⟨links, pending, segmented, accounted⟩ := queued
  rw [backlog, pending.bytes_eq, ← segmented.length_eq positive]
  exact accounted

theorem Queued.backlog_eq_zero_iff (positive : 0 < tcpMss) (queued : Queued tcpMss c) :
    backlog tcpMss c = 0 ↔ c.ss.p = none := by
  obtain ⟨links, pending, segmented, _⟩ := queued
  rw [backlog, pending.bytes_eq, ← segmented.length_eq positive]
  cases links with
  | nil => exact ⟨fun _ => pending.linked, fun _ => rfl⟩
  | cons link links =>
    refine iff_of_false (Nat.succ_ne_zero _) fun nothing => ?_
    rw [nothing] at pending
    cases pending.eq_nil

/-- What does not touch the chain. -/
theorem Queued.outputs (queued : Queued tcpMss c) {more : List Output}
    (silent : ∀ output ∈ more, Silent output) :
    Queued tcpMss { c with trace := c.trace ++ more } := by
  obtain ⟨links, pending, segmented, accounted⟩ := queued
  refine ⟨links, pending, segmented, ?_⟩
  dsimp only
  rw [writes_append, writes_silent silent, due, enqueued_append, enqueued_silent silent,
    List.append_nil]
  exact accounted

end Queued

/-! ### Sending -/

/-- lwIP has room for a segment. -/
def Room (tcpMss : Nat) (response : Response) : Prop :=
  tcpMss ≤ response.sndbuf ∧ response.write = .ok

instance (tcpMss : Nat) (response : Response) : Decidable (Room tcpMss response) :=
  inferInstanceAs (Decidable (_ ∧ _))

/-- What `send` does: it writes `front`, the first segments of the chain. -/
structure Forwards (front rest : List Link) (c c' : Connection) : Prop where
  pending : Pending c'.heap c'.ss.p rest
  state : c'.ss.state = c.ss.state
  freed : c'.freed = c.freed
  enqueued : enqueued c'.trace = enqueued c.trace
  wrote : writes c'.trace = writes c.trace + front.length

section Sending

variable {tcpMss : Nat} {c c' c'' : Connection} {links front rest : List Link}

theorem Forwards.refl (pending : Pending c.heap c.ss.p links) : Forwards [] links c c :=
  ⟨pending, rfl, rfl, rfl, rfl⟩

/-- A refused `tcp_write`. -/
theorem forwards_refused (pending : Pending c.heap c.ss.p links) {pcb : Address}
    {data : List UInt8} {result : Err} (refused : result ≠ .ok) :
    Forwards [] links c (c.emit (.tcpWrite pcb data result)) where
  pending := pending
  state := rfl
  freed := rfl
  enqueued := (enqueued_append c.trace _).trans (List.append_nil _)
  wrote := by
    refine (writes_append c.trace _).trans ?_
    cases result with
    | ok => exact absurd rfl refused
    | mem | other => rfl

/-- A segment that is written, before others. -/
theorem Forwards.cons {link : Link} {next : Option Nat} {heap' : Heap} {data : List UInt8}
    (later : Forwards front rest ((c.emit (.tcpWrite c.ss.pcb data .ok)).withChain heap' next) c') :
    Forwards (link :: front) rest c c' where
  pending := later.pending
  state := later.state
  freed := later.freed
  enqueued := later.enqueued.trans ((enqueued_append c.trace _).trans (List.append_nil _))
  wrote := by
    have one : writes (c.trace ++ [.tcpWrite c.ss.pcb data .ok]) = writes c.trace + 1 :=
      writes_append c.trace _
    rw [List.length_cons, later.wrote]
    show writes (c.trace ++ _) + _ = _
    rw [one]
    omega

/-- **The loop of `send`** writes the first segments of the chain, at least one if there is room. The
induction is on the pending chain. -/
theorem sendLoop_forwards (lwip : Nat → Response) {fuel : Nat} (k : Nat)
    (pending : Pending c.heap c.ss.p links) (fits : ∀ link ∈ links, link.data.length ≤ tcpMss)
    (ran : sendLoop lwip fuel k c = .ok c') :
    ∃ front rest, links = front ++ rest ∧ Forwards front rest c c' ∧
      (Room tcpMss (lwip k) → links ≠ [] → front ≠ []) := by
  induction links generalizing fuel k c with
  | nil =>
    cases fuel with
    | zero => cases ran
    | succ fuel =>
      rw [sendLoop, show c.ss.p = none from pending.linked] at ran
      cases ran
      exact ⟨[], [], rfl, .refl pending, fun _ some => absurd rfl some⟩
  | cons link links ih =>
    cases fuel with
    | zero => cases ran
    | succ fuel =>
      rcases sendLoop_turn lwip fuel k pending with
        ⟨_, _, next, heap', tail, _, turn⟩ | ⟨_, refused, turn⟩ | ⟨window, turn⟩
      · obtain ⟨front, rest, rfl, later, _⟩ := ih (k + 1)
          (c := (c.emit (.tcpWrite c.ss.pcb link.data .ok)).withChain heap' next) tail
          (fun other inside => fits other (List.mem_cons_of_mem _ inside)) (turn.symm.trans ran)
        exact ⟨link :: front, rest, rfl, later.cons, fun _ _ => List.cons_ne_nil _ _⟩
      · obtain rfl := Except.ok.inj (turn.symm.trans ran)
        exact ⟨[], link :: links, rfl, forwards_refused pending refused,
          fun room _ => absurd room.2 refused⟩
      · obtain rfl := Except.ok.inj (turn.symm.trans ran)
        refine ⟨[], link :: links, rfl, .refl pending, fun room _ => ?_⟩
        exact absurd ((fits link List.mem_cons_self).trans room.1) (Nat.not_le_of_lt window)

end Sending

/-! ### Taking messages -/

/-- What `tx` does to the segments of a connection. -/
structure Loads (tcpMss : Nat) (c c' : Connection) : Prop where
  queued : Queued tcpMss c'
  state : c'.ss.state = c.ss.state
  freed : c'.freed = c.freed
  grown : due tcpMss c.trace ≤ due tcpMss c'.trace
  wrote : writes c.trace ≤ writes c'.trace

section Taking

variable {tcpMss : Nat} (self : Address) {c c' c'' : Connection} {links : List Link}

theorem Loads.refl (queued : Queued tcpMss c) : Loads tcpMss c c :=
  ⟨queued, rfl, rfl, Nat.le_refl _, Nat.le_refl _⟩

theorem Loads.trans (first : Loads tcpMss c c') (second : Loads tcpMss c' c'') :
    Loads tcpMss c c'' where
  queued := second.queued
  state := second.state.trans first.state
  freed := second.freed.trans first.freed
  grown := first.grown.trans second.grown
  wrote := first.wrote.trans second.wrote

/-- Nothing to cut. -/
theorem fillChain_nil {fuel k : Nat} {pbufAlloc : Nat → Bool}
    (ran : fillChain tcpMss pbufAlloc fuel k [] c = .ok c') : c' = c := by
  cases fuel with
  | zero => cases ran
  | succ fuel =>
    rw [fillChain_done fun more => absurd more (Nat.not_lt_zero _)] at ran
    exact (Except.ok.inj ran).symm

/-- **The loop of `tx`** cuts segments. -/
theorem fillChain_segmented (positive : 0 < tcpMss) {fuel k : Nat} {data : List UInt8}
    {pbufAlloc : Nat → Bool} (pending : Pending c.heap c.ss.p links)
    (full : ∀ link ∈ links, link.data.length = tcpMss)
    (ran : fillChain tcpMss pbufAlloc fuel k data c = .ok c') :
    ∃ links', Pending c'.heap c'.ss.p links' ∧ Segmented tcpMss links' := by
  induction fuel generalizing k data c links with
  | zero => cases ran
  | succ fuel ih =>
    by_cases more : 0 < data.length
    case neg =>
      rw [fillChain_done fun some => absurd some more] at ran
      cases ran
      exact ⟨links, pending, .of_full positive full⟩
    cases allocated : pbufAlloc k with
    | false =>
      rw [fillChain_done fun _ => allocated] at ran
      cases ran
      exact ⟨links, pending, .of_full positive full⟩
    | true =>
      have chunk : (data.take (min data.length tcpMss)).length = min data.length tcpMss := by
        rw [List.length_take]
        exact Nat.min_eq_left (Nat.min_le_left _ _)
      obtain ⟨heap₁, p₁, ref, turn, filled, _⟩ := fillChain_turn tcpMss fuel pending more allocated
      rw [turn] at ran
      by_cases last : data.length ≤ tcpMss
      · -- the message ends with this segment
        rw [Nat.min_eq_left last] at chunk filled ran
        rw [List.drop_length] at ran
        rw [fillChain_nil ran]
        refine ⟨_, filled, .concat positive full ?_ ?_⟩
        · show 0 < (data.take data.length).length
          rw [chunk]
          exact more
        · show (data.take data.length).length ≤ tcpMss
          rw [chunk]
          exact last
      · rw [Nat.min_eq_right (by omega)] at chunk filled ran
        refine ih filled (fun link inside => ?_) ran
        rcases List.mem_append.mp inside with earlier | here
        · exact full link earlier
        · rw [List.mem_singleton.mp here]
          exact chunk

/-- **`tx` on one connection** queues the segments of what it takes. -/
theorem txConnection_loads (positive : 0 < tcpMss) (buffer : List UInt8) (answer : TxResponse)
    (queued : Queued tcpMss c) (ran : txConnection tcpMss self buffer answer c = .ok c') :
    Loads tcpMss c c' := by
  rw [txConnection] at ran
  by_cases accepts : Accepts self c
  · rw [if_pos accepts] at ran
    obtain ⟨links, pending, _, accounted⟩ := queued
    have nothing := accepts.2
    rw [nothing] at pending
    obtain rfl := pending.eq_nil
    have empty : Pending c.heap c.ss.p [] := nothing ▸ pending
    obtain ⟨heap', p', _, _, filled, _⟩ := fillChain_takes positive 0 buffer answer.pbufAlloc empty
      (Nat.lt_succ_self buffer.length)
    obtain ⟨links', pending', segmented⟩ := fillChain_segmented positive empty
      (fun _ inside => absurd inside List.not_mem_nil) filled
    rw [filled] at ran
    let c₁ := (c.withChain heap' p').emit (.enqueue (heap'.bytes p'))
    change send answer.lwip c₁ = .ok c' at ran
    obtain ⟨front, rest, cut, forwards, _⟩ :=
      sendLoop_forwards answer.lwip (c := c₁) 0 pending' segmented.fits ran
    have wrote : writes c₁.trace = writes c.trace := writes_append c.trace _
    have enqueues : enqueued c₁.trace = enqueued c.trace ++ [heap'.bytes p'] :=
      enqueued_append c.trace _
    have chain : links'.length = segments tcpMss (heap'.bytes p').length := by
      rw [segmented.length_eq positive]
      exact congrArg (fun bytes => segments tcpMss (List.length bytes)) pending'.bytes_eq.symm
    have added : due tcpMss c'.trace = due tcpMss c.trace + links'.length := by
      rw [due, forwards.enqueued, enqueues, Machine.total_concat, chain]
      rfl
    have parts := congrArg List.length cut
    rw [List.length_append] at parts
    have total := forwards.wrote
    rw [wrote] at total
    rw [List.length_nil] at accounted
    exact ⟨⟨rest, forwards.pending, (cut ▸ segmented).suffix, by omega⟩, forwards.state,
      forwards.freed, by omega, by omega⟩
  · rw [if_neg accepts] at ran
    cases ran
    exact .refl queued

/-- The calls a broadcast makes. -/
theorem txCalls_loads (positive : 0 < tcpMss) (buffer : List UInt8) (answer : Nat → TxResponse)
    (calls : List (Address × Nat)) (queued : Queued tcpMss c)
    (ran : calls.foldlM (fun c (record, i) => if record = self then
      txConnection tcpMss self buffer (answer i) c else .ok c) c = .ok c') : Loads tcpMss c c' := by
  induction calls generalizing c with
  | nil =>
    cases ran
    exact .refl queued
  | cons call calls ih =>
    obtain ⟨record, i⟩ := call
    rw [List.foldlM_cons] at ran
    dsimp only at ran
    by_cases here : record = self
    · rw [if_pos here] at ran
      cases called : txConnection tcpMss self buffer (answer i) c with
      | error fault =>
        rw [called] at ran
        cases ran
      | ok c₁ =>
        rw [called] at ran
        have first := txConnection_loads self positive buffer (answer i) queued called
        exact first.trans (ih first.queued ran)
    · rw [if_neg here] at ran
      exact ih queued ran

/-- **`tx`** queues the segments of what it takes. -/
theorem tx_loads (positive : 0 < tcpMss) (buffer : List UInt8) (parameter : Option Address)
    (answer : Nat → TxResponse) (queued : Queued tcpMss c)
    (ran : tx tcpMss self buffer parameter answer c = .ok c') : Loads tcpMss c c' := by
  unfold tx at ran
  by_cases zero : c.registry.connectionsCounter = 0
  · rw [if_pos zero] at ran
    cases ran
    exact .refl queued
  · rw [if_neg zero] at ran
    cases parameter with
    | none => exact txCalls_loads self positive buffer answer _ queued ran
    | some record =>
      dsimp only at ran
      by_cases here : record = self
      · rw [if_pos here] at ran
        exact txConnection_loads self positive buffer (answer 0) queued ran
      · rw [if_neg here] at ran
        cases ran
        exact .refl queued

end Taking

/-! ### One event -/

/-- The chances to send that an event gives. -/
def chances (tcpMss : Nat) : ConnectionEvent → Nat
  | .poll lwip | .sent lwip | .receive none _ lwip => if Room tcpMss (lwip 0) then 1 else 0
  | .receive (some _) _ _ | .tx _ _ _ | .others _ | .setCallback _ => 0

/-- **What an event does to the segments of a live connection.** -/
structure Advances (tcpMss chances : Nat) (c c' : Connection) : Prop where
  queued : Queued tcpMss c'
  grown : due tcpMss c.trace ≤ due tcpMss c'.trace
  closing : c.ss.state = .closing → c'.ss.state = .closing
  wrote : writes c.trace + min chances (backlog tcpMss c) ≤ writes c'.trace
  /-- when the remote host has closed the connection -/
  used : c.ss.state = .closing → writes c.trace + chances ≤ writes c'.trace + c'.freed.toNat

section Events

variable {tcpMss : Nat} (self : Address) {c c' : Connection}

/-- Outputs that have nothing to do with the chain. -/
theorem Advances.of_silent (queued : Queued tcpMss c) {more : List Output}
    (silent : ∀ output ∈ more, Silent output) :
    Advances tcpMss 0 c { c with trace := c.trace ++ more } where
  queued := queued.outputs silent
  grown := by
    rw [due, due, enqueued_append, enqueued_silent silent, List.append_nil]
  closing := id
  wrote := by
    rw [Nat.zero_min, writes_append]
    exact Nat.le_add_right _ _
  used _ := by
    dsimp only
    rw [writes_append, Nat.add_assoc]
    exact Nat.le_add_right _ _

/-- What the other connections and the user set. -/
theorem Advances.of_settings (queued : Queued tcpMss c) (registry : Registry) (callback : Bool) :
    Advances tcpMss 0 c { c with registry, callback } where
  queued := queued
  grown := Nat.le_refl _
  closing := id
  wrote := by
    rw [Nat.zero_min]
    exact Nat.le_refl _
  used _ := Nat.le_add_right _ _

theorem Loads.advances (loads : Loads tcpMss c c') : Advances tcpMss 0 c c' where
  queued := loads.queued
  grown := loads.grown
  closing closing := loads.state.trans closing
  wrote := by
    rw [Nat.zero_min]
    exact loads.wrote
  used _ := loads.wrote.trans (Nat.le_add_right _ _)

/-- A chance with nothing to send, and nothing to close. -/
theorem advances_idle {chance : Nat} (positive : 0 < tcpMss) (queued : Queued tcpMss c)
    (nothing : c.ss.p = none) (staying : c.ss.state ≠ .closing) : Advances tcpMss chance c c where
  queued := queued
  grown := Nat.le_refl _
  closing := id
  wrote := by
    rw [(queued.backlog_eq_zero_iff positive).mpr nothing, Nat.min_zero]
    exact Nat.le_refl _
  used closing := absurd closing staying

/-- A chance with nothing to send, on a connection that is to be closed. -/
theorem close_advances {chance : Nat} (positive : 0 < tcpMss) (once : chance ≤ 1)
    (queued : Queued tcpMss c) (nothing : c.ss.p = none) :
    Advances tcpMss chance c (close self c) where
  queued := by
    obtain ⟨links, pending, segmented, accounted⟩ := queued
    refine ⟨links, pending, segmented, ?_⟩
    rw [due, close_enqueued]
    show writes (c.trace ++ [_]) + _ = _
    rw [writes_append]
    exact accounted
  grown := by
    rw [due, due, close_enqueued]
  closing := id
  wrote := by
    rw [(queued.backlog_eq_zero_iff positive).mpr nothing, Nat.min_zero]
    show _ ≤ writes (c.trace ++ [_])
    rw [writes_append]
    exact Nat.le_add_right _ _
  used _ := by
    show _ ≤ writes (c.trace ++ [_]) + 1
    rw [writes_append]
    omega

/-- A chance with something to send. -/
theorem resend_advances (lwip : Nat → Response) {p : Nat}
    (queued : Queued tcpMss c) (waiting : c.ss.p = some p)
    (ran : send lwip (c.emit (.tcpSent c.ss.pcb)) = .ok c') :
    Advances tcpMss (if Room tcpMss (lwip 0) then 1 else 0) c c' := by
  have silent : ∀ output ∈ [Output.tcpSent c.ss.pcb], Silent output := by simp [Silent]
  obtain ⟨links, pending, segmented, accounted⟩ := queued
  obtain ⟨front, rest, cut, forwards, room⟩ :=
    sendLoop_forwards lwip (c := c.emit (.tcpSent c.ss.pcb)) 0 pending segmented.fits ran
  have wrote : writes c'.trace = writes c.trace + front.length := by
    rw [forwards.wrote]
    show writes (c.trace ++ _) + _ = _
    rw [writes_append, writes_silent silent, Nat.add_zero]
  have enqueues : enqueued c'.trace = enqueued c.trace :=
    forwards.enqueued.trans (enqueued_append_silent c.trace silent)
  have some : links ≠ [] := by
    rintro rfl
    exact absurd (waiting.symm.trans pending.linked) (by simp)
  have first : (if Room tcpMss (lwip 0) then 1 else 0) ≤ front.length := by
    split
    · exact List.length_pos_iff.mpr (room ‹_› some)
    · exact Nat.zero_le _
  have same : due tcpMss c'.trace = due tcpMss c.trace := by rw [due, due, enqueues]
  have parts := congrArg List.length cut
  rw [List.length_append] at parts
  exact ⟨⟨rest, forwards.pending, (cut ▸ segmented).suffix, by omega⟩, same.symm.le,
    fun closing => forwards.state.trans closing, by omega, fun _ => by omega⟩

theorem chance_le_one {lwip : Nat → Response} : (if Room tcpMss (lwip 0) then 1 else 0) ≤ 1 := by
  split
  · exact Nat.le_refl _
  · exact Nat.zero_le _

theorem poll_advances (positive : 0 < tcpMss) (lwip : Nat → Response) (queued : Queued tcpMss c)
    (ran : poll self lwip c = .ok c') :
    Advances tcpMss (if Room tcpMss (lwip 0) then 1 else 0) c c' := by
  rw [poll] at ran
  cases waiting : c.ss.p with
  | some p =>
    rw [waiting] at ran
    exact resend_advances lwip queued waiting ran
  | none =>
    rw [waiting] at ran
    dsimp only at ran
    by_cases closing : c.ss.state = .closing
    · rw [if_pos closing] at ran
      cases ran
      exact close_advances self positive chance_le_one queued waiting
    · rw [if_neg closing] at ran
      cases ran
      exact advances_idle positive queued waiting closing

/-- The end of the stream. -/
theorem drain_advances (positive : 0 < tcpMss) (lwip : Nat → Response) (queued : Queued tcpMss c)
    (ran : (match c.ss.p with
      | none => Except.ok (close self c)
      | some _ => send lwip (c.emit (.tcpSent c.ss.pcb))) = .ok c') :
    Advances tcpMss (if Room tcpMss (lwip 0) then 1 else 0) c c' := by
  cases waiting : c.ss.p with
  | some p =>
    rw [waiting] at ran
    exact resend_advances lwip queued waiting ran
  | none =>
    rw [waiting] at ran
    cases ran
    exact close_advances self positive chance_le_one queued waiting

theorem receive_advances (positive : 0 < tcpMss) (p : Option (List (List UInt8))) (err : Err)
    (lwip : Nat → Response) (queued : Queued tcpMss c)
    (ran : receive self p err lwip c = .ok c') :
    Advances tcpMss (chances tcpMss (.receive p err lwip)) c c' := by
  unfold receive at ran
  cases p with
  | none =>
    let marked : Connection := { c with ss := { c.ss with state := .closing } }
    have advances := drain_advances self positive lwip (c := marked) queued ran
    exact ⟨advances.queued, advances.grown, fun _ => advances.closing rfl, advances.wrote,
      fun _ => advances.used rfl⟩
  | some segments =>
    dsimp only at ran
    by_cases failed : err ≠ .ok
    · rw [if_pos failed] at ran
      cases ran
      exact (Loads.refl queued).advances
    · rw [if_neg failed] at ran
      cases state : c.ss.state with
      | accepted =>
        rw [state] at ran
        cases ran
        rw [List.append_assoc]
        exact .of_silent queued (silent_delivered c.callback segments _ _)
      | closing | none =>
        rw [state] at ran
        cases ran
        exact .of_silent queued (by simp [Silent])

/-- **One event.** -/
theorem connectionStep_advances (positive : 0 < tcpMss) (event : ConnectionEvent)
    (queued : Queued tcpMss c) (ran : connectionStep tcpMss self c event = .ok c') :
    Advances tcpMss (chances tcpMss event) c c' := by
  cases event with
  | tx buffer parameter answer =>
    exact (tx_loads self positive buffer parameter answer queued ran).advances
  | poll lwip => exact poll_advances self positive lwip queued ran
  | sent lwip => exact poll_advances self positive lwip queued ran
  | receive p err lwip => exact receive_advances self positive p err lwip queued ran
  | others registry =>
    cases ran
    exact .of_settings queued registry c.callback
  | setCallback callback =>
    cases ran
    exact .of_settings queued c.registry callback

end Events

/-! ### Runs -/

/-- The remote host closes the connection in the run. -/
def RemoteClosed (events : List ConnectionEvent) : Prop :=
  ∃ err lwip, .receive none err lwip ∈ events

section Runs

variable {tcpMss : Nat} (self : Address) {c c' : Connection} {events : List ConnectionEvent}

/-- The stream and its segments. -/
structure Carried (tcpMss : Nat) (c : Connection) : Prop where
  flow : Flow c
  queued : Queued tcpMss c

theorem connectionStep_carried (positive : 0 < tcpMss) (event : ConnectionEvent)
    (carried : Carried tcpMss c) (alive : c.freed = false) :
    ∃ c', connectionStep tcpMss self c event = .ok c' ∧ Carried tcpMss c' ∧
      Advances tcpMss (chances tcpMss event) c c' := by
  obtain ⟨c', ran, flow⟩ := connectionStep_flow self positive event carried.flow alive
  have advances := connectionStep_advances self positive event carried.queued ran
  exact ⟨c', ran, ⟨flow, advances.queued⟩, advances⟩

/-- After the end of the stream the connection is to be closed. -/
theorem receive_end (positive : 0 < tcpMss) (err : Err) (lwip : Nat → Response)
    (queued : Queued tcpMss c) (ran : receive self none err lwip c = .ok c') :
    c'.ss.state = .closing := by
  let marked : Connection := { c with ss := { c.ss with state := .closing } }
  exact (drain_advances self positive lwip (c := marked) queued ran).closing rfl

/-- **Once the remote host has closed the connection**, every chance writes a segment or closes the
record. -/
theorem run_used (positive : 0 < tcpMss) (carried : Carried tcpMss c)
    (closing : c.ss.state = .closing) (valid : (connection tcpMss self).Valid (.ok c) events) :
    ∃ c', (connection tcpMss self).run (.ok c) events = .ok c' ∧
      (Carried tcpMss c' ∧ c'.ss.state = .closing) ∧
      writes c.trace + c.freed.toNat + Machine.total (chances tcpMss) events ≤
        writes c'.trace + c'.freed.toNat := by
  refine Machine.checked_run_of_work (P := fun c => Carried tcpMss c ∧ c.ss.state = .closing)
    (fun c => writes c.trace + c.freed.toNat) (chances tcpMss) ?_ ⟨carried, closing⟩ valid
  rintro c event ⟨carried, closing⟩ alive
  obtain ⟨c', ran, carried', advances⟩ := connectionStep_carried self positive event carried alive
  refine ⟨c', ran, ⟨carried', advances.closing closing⟩, ?_⟩
  have used := advances.used closing
  rw [alive]
  exact used

theorem run_closing (positive : 0 < tcpMss) (carried : Carried tcpMss c)
    (valid : (connection tcpMss self).Valid (.ok c) events) (closed : RemoteClosed events)
    (ran : (connection tcpMss self).run (.ok c) events = .ok c') : c'.ss.state = .closing := by
  induction events generalizing c with
  | nil =>
    obtain ⟨_, _, inside⟩ := closed
    cases inside
  | cons event events ih =>
    obtain ⟨c₁, step, carried₁, _⟩ :=
      connectionStep_carried self positive event carried (valid.1 c rfl)
    have after : (connection tcpMss self).next (.ok c) event = .ok c₁ := step
    have rest := valid.2
    rw [after] at rest
    rw [Machine.run_cons, after] at ran
    obtain ⟨err, lwip, inside⟩ := closed
    rcases List.mem_cons.mp inside with rfl | later
    · obtain ⟨last, ran', ⟨_, kept⟩, _⟩ := run_used self positive carried₁
        (receive_end self positive err lwip carried.queued step) rest
      exact Except.ok.inj (ran'.symm.trans ran) ▸ kept
    · exact ih carried₁ rest ⟨err, lwip, later⟩ ran

/-- **Without new messages** every chance makes the backlog shorter. -/
theorem run_drains (positive : 0 < tcpMss) (carried : Carried tcpMss c)
    (valid : (connection tcpMss self).Valid (.ok c) events) :
    ∃ c', (connection tcpMss self).run (.ok c) events = .ok c' ∧ Carried tcpMss c' ∧
      due tcpMss c.trace ≤ due tcpMss c'.trace ∧ (due tcpMss c'.trace = due tcpMss c.trace →
        backlog tcpMss c' ≤ backlog tcpMss c - Machine.total (chances tcpMss) events) := by
  refine Machine.checked_run_of_drain (fun c => due tcpMss c.trace) (backlog tcpMss) (chances tcpMss)
    (P := Carried tcpMss) (fun c event carried alive => ?_) carried valid
  obtain ⟨c', ran, carried', advances⟩ := connectionStep_carried self positive event carried alive
  refine ⟨c', ran, carried', advances.grown, fun nothing => ?_⟩
  have balance := carried.queued.writes_add_backlog positive
  have balance' := carried'.queued.writes_add_backlog positive
  have wrote := advances.wrote
  omega

theorem accept_carried (registry : Registry) (callback : Bool) (heap : Heap) (pcb : Address) :
    Carried tcpMss (accept registry callback heap pcb) :=
  ⟨accept_flow registry callback heap pcb, [], .empty, .nil, rfl⟩

/-- **A connection drains and closes.** Take any run of a connection and any continuation of it. Every
message that was taken leaves in as many `tcp_write`s as it has segments. Once the remote host has
closed the connection, each chance to send in the continuation writes one more segment or closes the
record. If the continuation takes no message, every chance shortens the backlog, until `tx` is ready
again; and if the remote host has closed and there are more chances than the backlog, the record is
closed, and all that was taken is written. -/
theorem connection_drains {tcpMss : Nat} (positive : 0 < tcpMss) (self pcb : Address)
    (registry : Registry) (callback : Bool) (heap : Heap) (events later : List ConnectionEvent)
    (valid : (connection tcpMss self).Valid (.ok (accept registry callback heap pcb))
      (events ++ later)) :
    ∃ c c', (connection tcpMss self).run (.ok (accept registry callback heap pcb)) events = .ok c ∧
      (connection tcpMss self).run (.ok (accept registry callback heap pcb)) (events ++ later) =
        .ok c' ∧
      writes c'.trace + backlog tcpMss c' = due tcpMss c'.trace ∧
      (RemoteClosed events → writes c.trace + Machine.total (chances tcpMss) later ≤
        writes c'.trace + c'.freed.toNat) ∧
      (due tcpMss c'.trace = due tcpMss c.trace →
        backlog tcpMss c' ≤ backlog tcpMss c - Machine.total (chances tcpMss) later ∧
        (backlog tcpMss c ≤ Machine.total (chances tcpMss) later → c'.ss.p = none) ∧
        (RemoteClosed events → backlog tcpMss c < Machine.total (chances tcpMss) later →
          c'.freed = true ∧ written c'.trace = (enqueued c'.trace).flatten)) := by
  obtain ⟨before, after⟩ := Machine.steps_append.mp valid
  have accepted : Carried tcpMss (accept registry callback heap pcb) := accept_carried _ _ _ _
  obtain ⟨c, ran, carried, _⟩ := run_drains self positive accepted before
  rw [ran] at after
  obtain ⟨c', ran', carried', _, drains⟩ := run_drains self positive carried after
  have used (closed : RemoteClosed events) :
      writes c.trace + Machine.total (chances tcpMss) later ≤ writes c'.trace + c'.freed.toNat := by
    have closing := run_closing self positive accepted before closed ran
    obtain ⟨last, same, _, level⟩ := run_used self positive carried closing after
    obtain rfl : last = c' := Except.ok.inj (same.symm.trans ran')
    omega
  have balance := carried.queued.writes_add_backlog positive
  have balance' := carried'.queued.writes_add_backlog positive
  refine ⟨c, c', ran, ?_, balance', used, fun still => ⟨drains still, fun enough => ?_,
    fun closed more => ?_⟩⟩
  · rw [Machine.run_append, ran, ran']
  · have shorter := drains still
    exact (carried'.queued.backlog_eq_zero_iff positive).mp (by omega)
  · have level := used closed
    have freed : c'.freed = true := by
      cases ended : c'.freed with
      | true => rfl
      | false =>
        rw [ended, Bool.toNat_false] at level
        omega
    have stream := carried'.flow.stream
    rw [carried'.flow.drained freed, bytes_none, List.append_nil] at stream
    exact ⟨freed, stream⟩

/-- The remote host closes the connection while a segment is pending; the next chance writes it, and
the one after that closes the record. -/
theorem connection_drains_sample :
    let window : Nat → Response := fun _ => ⟨2, .ok⟩
    let short : Nat → Response := fun k => ⟨2 - 2 * k, .ok⟩
    let start := accept ⟨[some 7, none], 1⟩ true .empty 9
    let events : List ConnectionEvent := [.tx [1, 2, 3] (some 7) fun _ => ⟨fun _ => true, short⟩,
      .receive none .ok fun _ => ⟨0, .ok⟩]
    let later : List ConnectionEvent := [.poll window, .poll window]
    ∃ c c', (connection 2 7).run (.ok start) events = .ok c ∧
      (connection 2 7).run (.ok start) (events ++ later) = .ok c' ∧
      writes c'.trace + backlog 2 c' = due 2 c'.trace ∧
      (RemoteClosed events → writes c.trace + Machine.total (chances 2) later ≤
        writes c'.trace + c'.freed.toNat) ∧
      (due 2 c'.trace = due 2 c.trace →
        backlog 2 c' ≤ backlog 2 c - Machine.total (chances 2) later ∧
        (backlog 2 c ≤ Machine.total (chances 2) later → c'.ss.p = none) ∧
        (RemoteClosed events → backlog 2 c < Machine.total (chances 2) later →
          c'.freed = true ∧ written c'.trace = (enqueued c'.trace).flatten)) :=
  connection_drains (by decide) 7 9 _ _ _ _ _ (by decide)

end Runs

end Jblib.Ethutilities.TcpServerChannel
