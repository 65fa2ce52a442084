/-
**The transmit stream of a connection keeps every byte, in order.**

* `Pending heap p links` — the pending chain: linked, without repetitions, one or two references to
  the first buffer and two to each later one. `Pending.chop`: chopping the first buffer off leaves
  the rest pending; the loop `while(freed == 0)` ends because of the reference counts.
* `sendLoop_sends` — `send` only moves bytes from the chain to `tcp_write`. `fillChain_takes` — `tx`
  puts as many chunks of the message on the chain as `pbuf_alloc` yields.
* **`Flow`** — what was written followed by what is pending is what was enqueued; the record is only
  closed with nothing pending.
* **`stream_integrity`** — no event faults, every event keeps `Flow`, and `tx` takes a message
  exactly if the record is stored and has nothing pending.
-/

import EthUtilities.TcpServerChannel.Stream

namespace Jblib.Ethutilities.TcpServerChannel

open Library Library.PbufHeap

/-! ### The trace -/

/-- The bytes `tcp_write` accepted. -/
def written (trace : List Output) : List UInt8 :=
  trace.flatMap fun
    | .tcpWrite _ data .ok => data
    | _ => []

/-- What each accepted `tx` call put on the chain, in call order. -/
def enqueued (trace : List Output) : List (List UInt8) :=
  trace.filterMap fun
    | .enqueue data => some data
    | _ => none

/-- Whenever the record was closed, nothing was pending. -/
def ClosedDrained (trace : List Output) : Prop := ∀ pcb p, Output.close pcb p ∈ trace → p = none

theorem written_append (trace more : List Output) :
    written (trace ++ more) = written trace ++ written more := List.flatMap_append

theorem enqueued_append (trace more : List Output) :
    enqueued (trace ++ more) = enqueued trace ++ enqueued more := List.filterMap_append

theorem closedDrained_append {trace more : List Output} (before : ClosedDrained trace)
    (after : ClosedDrained more) : ClosedDrained (trace ++ more) := by
  intro pcb p closed
  rcases List.mem_append.mp closed with earlier | later
  · exact before pcb p earlier
  · exact after pcb p later

/-- An output that neither writes, nor enqueues, nor closes. -/
def Silent : Output → Prop
  | .tcpSent _ | .tcpRecved _ _ | .channelCallback _ => True
  | .enqueue _ | .tcpWrite _ _ _ | .close _ _ => False

theorem written_silent {more : List Output} (silent : ∀ output ∈ more, Silent output) :
    written more = [] := by
  refine List.flatMap_eq_nil_iff.mpr fun output inside => ?_
  cases output with
  | tcpWrite => exact (silent _ inside).elim
  | _ => rfl

theorem enqueued_silent {more : List Output} (silent : ∀ output ∈ more, Silent output) :
    enqueued more = [] := by
  refine List.filterMap_eq_nil_iff.mpr fun output inside => ?_
  cases output with
  | enqueue => exact (silent _ inside).elim
  | _ => rfl

/-- Handing received segments over to the user is silent. -/
theorem silent_delivered (callback : Bool) (segments : List (List UInt8)) (pcb : Address)
    (length : Nat) : ∀ output ∈ (if callback then segments.map Output.channelCallback else []) ++
      [.tcpRecved pcb length], Silent output := by
  intro output inside
  rcases List.mem_append.mp inside with delivered | last
  · cases callback with
    | true =>
      obtain ⟨_, _, rfl⟩ := List.mem_map.mp delivered
      trivial
    | false => exact absurd delivered List.not_mem_nil
  · rw [List.mem_singleton.mp last]
    trivial

/-! ### The pending chain -/

/-- The reference counts along a pending chain: a buffer that was appended by `pbuf_chain` has a
second reference, and keeps two when it becomes the first one. -/
def Counted : List Link → Prop
  | [] => True
  | first :: rest => (first.ref = 1 ∨ first.ref = 2) ∧ ∀ link ∈ rest, link.ref = 2

/-- The chain from `p` holds `links`, to be sent. -/
structure Pending (heap : Heap) (p : Option Nat) (links : List Link) : Prop where
  linked : Linked heap p links
  nodup : (links.map Link.address).Nodup
  counted : Counted links

section PendingChain

variable {heap heap' : Heap} {p : Option Nat} {link : Link} {links : List Link}

theorem Pending.empty : Pending heap none [] := ⟨rfl, List.nodup_nil, trivial⟩

theorem Pending.bytes_eq (pending : Pending heap p links) :
    heap.bytes p = links.flatMap Link.data := pending.linked.bytes_eq pending.nodup

theorem Pending.eq_nil (pending : Pending heap none links) : links = [] := by
  cases links with
  | nil => rfl
  | cons link links => exact absurd pending.linked.1 (by simp)

theorem bytes_none : heap.bytes none = [] := rfl

/-- Freeing until something is freed costs one more turn for a second reference. -/
theorem freeUntilFreed_shared {address : Nat} {data : List UInt8} {next : Option Nat}
    (found : heap.get address = some ⟨data, next, 2⟩) :
    freeUntilFreed 2 heap address =
      freeUntilFreed 1 (heap.set address (some ⟨data, next, 1⟩)) address := by
  rw [freeUntilFreed, free_shared found]
  rfl

/-- Chopping the last buffer off. -/
theorem Pending.chop_last (pending : Pending heap p [link]) :
    ∃ heap', chop heap link.address ⟨link.data, none, link.ref⟩ = .ok heap' ∧
      Erases heap heap' link.address := by
  obtain ⟨_, next, found, rest⟩ := pending.linked
  rw [show next = none from rest] at found
  rcases pending.counted.1 with single | double
  · rw [single] at found ⊢
    refine ⟨heap.set link.address none, ?_, Heap.size_set, Heap.get_set_self found,
      fun q other => Heap.get_set_of_ne other⟩
    show freeUntilFreed 1 heap link.address = _
    rw [freeUntilFreed, free_last found]
    rfl
  · rw [double] at found ⊢
    have left : (heap.set link.address (some ⟨link.data, none, 1⟩)).get link.address =
      some ⟨link.data, none, 1⟩ := Heap.get_set_self found
    refine ⟨(heap.set link.address (some ⟨link.data, none, 1⟩)).set link.address none, ?_,
      Heap.size_set.trans Heap.size_set, Heap.get_set_self left, fun q other => ?_⟩
    · show freeUntilFreed 2 heap link.address = _
      rw [freeUntilFreed_shared found, freeUntilFreed, free_last left]
      rfl
    · rw [Heap.get_set_of_ne other, Heap.get_set_of_ne other]

/-- With an additional reference to the second buffer, freeing the first one until it is freed
deallocates it and takes that buffer back to two references. -/
theorem freeUntilFreed_first {address second : Nat} {data data' : List UInt8}
    {next' : Option Nat} {ref : Nat} (count : ref = 1 ∨ ref = 2)
    (found : heap.get address = some ⟨data, some second, ref⟩) (different : second ≠ address)
    (foundNext : heap.get second = some ⟨data', next', 3⟩) :
    ∃ heap', freeUntilFreed ref heap address = .ok heap' ∧ heap'.size = heap.size ∧
      heap'.get address = none ∧ heap'.get second = some ⟨data', next', 2⟩ ∧
      ∀ other, other ≠ address → other ≠ second → heap'.get other = heap.get other := by
  rcases count with rfl | rfl
  · have erased : (heap.set address none).get second = some ⟨data', next', 3⟩ := by
      rw [Heap.get_set_of_ne different, foundNext]
    refine ⟨_, ?_, Heap.size_set.trans Heap.size_set, ?_, Heap.get_set_self erased,
      fun other notFirst notSecond => ?_⟩
    · rw [freeUntilFreed, free_first found different foundNext]
      rfl
    · rw [Heap.get_set_of_ne different.symm, Heap.get_set_self found]
    · rw [Heap.get_set_of_ne notSecond, Heap.get_set_of_ne notFirst]
  · have left : (heap.set address (some ⟨data, some second, 1⟩)).get address =
      some ⟨data, some second, 1⟩ := Heap.get_set_self found
    have kept : (heap.set address (some ⟨data, some second, 1⟩)).get second =
      some ⟨data', next', 3⟩ := by rw [Heap.get_set_of_ne different, foundNext]
    have erased : ((heap.set address (some ⟨data, some second, 1⟩)).set address none).get second =
      some ⟨data', next', 3⟩ := by rw [Heap.get_set_of_ne different, kept]
    refine ⟨_, ?_, (Heap.size_set.trans Heap.size_set).trans Heap.size_set, ?_,
      Heap.get_set_self erased, fun other notFirst notSecond => ?_⟩
    · rw [freeUntilFreed_shared found, freeUntilFreed, free_first left different kept]
      rfl
    · rw [Heap.get_set_of_ne different.symm, Heap.get_set_self left]
    · rw [Heap.get_set_of_ne notSecond, Heap.get_set_of_ne notFirst, Heap.get_set_of_ne notFirst]

/-- The rest of a chain does not need its first buffer. -/
theorem Pending.tail {next : Option Nat} (pending : Pending heap p (link :: links))
    (found : heap.get link.address = some ⟨link.data, next, link.ref⟩)
    (erases : Erases heap heap' link.address) : Pending heap' next links := by
  obtain ⟨_, next', found', rest⟩ := pending.linked
  obtain rfl : next' = next := congrArg Pbuf.next (Option.some.inj (found'.symm.trans found))
  obtain ⟨fresh, nodup⟩ := List.nodup_cons.mp pending.nodup
  refine ⟨rest.frame fun other inside => erases.others _ ?_, nodup, ?_⟩
  · intro same
    exact fresh (same ▸ List.mem_map_of_mem inside)
  · cases links with
    | nil => trivial
    | cons second links =>
      exact ⟨.inr (pending.counted.2 second List.mem_cons_self),
        fun other inside => pending.counted.2 other (List.mem_cons_of_mem _ inside)⟩

/-- **Chopping the first buffer off the chain** deallocates it and nothing else. -/
theorem Pending.chop (pending : Pending heap p (link :: links)) :
    ∃ next heap', heap.get link.address = some ⟨link.data, next, link.ref⟩ ∧
      chop heap link.address ⟨link.data, next, link.ref⟩ = .ok heap' ∧
      Erases heap heap' link.address := by
  obtain ⟨_, next, found, linked⟩ := pending.linked
  cases links with
  | nil =>
    obtain ⟨heap', chopped, erases⟩ := pending.chop_last
    rw [show next = none from linked] at found
    exact ⟨none, heap', found, chopped, erases⟩
  | cons second links =>
    obtain ⟨rfl, next', foundNext, later⟩ := linked
    have twice : second.ref = 2 := pending.counted.2 second List.mem_cons_self
    rw [twice] at foundNext
    have different : second.address ≠ link.address := by
      intro same
      exact (List.nodup_cons.mp pending.nodup).1 (same ▸ List.mem_cons_self)
    let heap₁ := heap.set second.address (some ⟨second.data, next', 3⟩)
    have referenced : heap.addRef second.address = .ok heap₁ := by
      rw [Heap.addRef, Heap.read_of_get foundNext]
      rfl
    have found₁ : heap₁.get link.address = some ⟨link.data, some second.address, link.ref⟩ := by
      rw [Heap.get_set_of_ne different.symm, found]
    obtain ⟨heap', freed, size, getFirst, getSecond, getOther⟩ :=
      freeUntilFreed_first pending.counted.1 found₁ different (Heap.get_set_self foundNext)
    refine ⟨some second.address, heap', found, ?_, size.trans Heap.size_set, getFirst,
      fun q notFirst => ?_⟩
    · show ((heap.addRef second.address).bind _) = _
      rw [referenced]
      exact freed
    · by_cases here : q = second.address
      · rw [here, getSecond, foundNext]
      · rw [getOther q notFirst here, Heap.get_set_of_ne here]

end PendingChain

/-! ### Sending -/

/-- What `send` does to a connection: pending bytes move to `tcp_write`, the rest stays. -/
structure Sends (c c' : Connection) : Prop where
  registry : c'.registry = c.registry
  freed : c'.freed = c.freed
  pending : ∃ links, Pending c'.heap c'.ss.p links
  conserved : written c'.trace ++ c'.heap.bytes c'.ss.p = written c.trace ++ c.heap.bytes c.ss.p
  enqueued : enqueued c'.trace = enqueued c.trace
  closed : ClosedDrained c.trace → ClosedDrained c'.trace

section Sending

variable {c c' c'' : Connection} {links : List Link}

theorem Sends.refl (pending : Pending c.heap c.ss.p links) : Sends c c :=
  ⟨rfl, rfl, ⟨links, pending⟩, rfl, rfl, id⟩

theorem Sends.trans (first : Sends c c') (second : Sends c' c'') : Sends c c'' where
  registry := second.registry.trans first.registry
  freed := second.freed.trans first.freed
  pending := second.pending
  conserved := second.conserved.trans first.conserved
  enqueued := second.enqueued.trans first.enqueued
  closed drained := second.closed (first.closed drained)

/-- A refused `tcp_write` changes nothing. -/
theorem sends_refused (pending : Pending c.heap c.ss.p links) {pcb : Address} {data : List UInt8}
    {result : Err} (refused : result ≠ .ok) : Sends c (c.emit (.tcpWrite pcb data result)) where
  registry := rfl
  freed := rfl
  pending := ⟨links, pending⟩
  conserved := by
    have nothing : written [.tcpWrite pcb data result] = [] := by
      cases result with
      | ok => exact absurd rfl refused
      | mem | other => rfl
    show written (c.trace ++ [_]) ++ _ = _
    rw [written_append, nothing, List.append_nil]
    rfl
  enqueued := by
    show TcpServerChannel.enqueued (c.trace ++ [_]) = _
    rw [enqueued_append]
    exact List.append_nil _
  closed drained := closedDrained_append drained (by simp [ClosedDrained])

/-- One turn of the loop whose `tcp_write` succeeds. -/
theorem sends_written {link : Link} {next : Option Nat} {heap' : Heap}
    (pending : Pending c.heap c.ss.p (link :: links)) (rest : Pending heap' next links) :
    Sends c ((c.emit (.tcpWrite c.ss.pcb link.data .ok)).withChain heap' next) where
  registry := rfl
  freed := rfl
  pending := ⟨links, rest⟩
  conserved := by
    show written (c.trace ++ [_]) ++ heap'.bytes next = _
    rw [written_append, rest.bytes_eq, pending.bytes_eq, List.append_assoc]
    show _ ++ (link.data ++ [] ++ _) = _ ++ (link.data ++ links.flatMap Link.data)
    rw [List.append_nil]
  enqueued := by
    show TcpServerChannel.enqueued (c.trace ++ [_]) = _
    rw [enqueued_append]
    exact List.append_nil _
  closed drained := closedDrained_append drained (by simp [ClosedDrained])

/-- **One turn of the loop of `send`**: `tcp_write` takes the first pending buffer, which is then
deallocated, or refuses it, or is not asked for want of room. -/
theorem sendLoop_turn (lwip : Nat → Response) (fuel k : Nat) {link : Link}
    (pending : Pending c.heap c.ss.p (link :: links)) :
    (link.data.length ≤ (lwip k).sndbuf ∧ (lwip k).write = .ok ∧ ∃ next heap',
      Pending heap' next links ∧ Erases c.heap heap' link.address ∧
      sendLoop lwip (fuel + 1) k c = sendLoop lwip fuel (k + 1)
        ((c.emit (.tcpWrite c.ss.pcb link.data .ok)).withChain heap' next)) ∨
    (link.data.length ≤ (lwip k).sndbuf ∧ (lwip k).write ≠ .ok ∧
      sendLoop lwip (fuel + 1) k c =
        .ok (c.emit (.tcpWrite c.ss.pcb link.data (lwip k).write))) ∨
    (lwip k).sndbuf < link.data.length ∧ sendLoop lwip (fuel + 1) k c = .ok c := by
  obtain ⟨next, heap', found, chopped, erases⟩ := pending.chop
  rw [sendLoop, pending.linked.1]
  dsimp only [bind]
  rw [Heap.read_of_get found]
  dsimp only [Except.bind]
  by_cases window : link.data.length ≤ (lwip k).sndbuf
  case neg => exact .inr (.inr ⟨Nat.lt_of_not_le window, if_neg window⟩)
  rw [if_pos window]
  cases (lwip k).write with
  | ok =>
    refine .inl ⟨window, rfl, next, heap', pending.tail found erases, erases, ?_⟩
    have emitted : chop (c.emit (.tcpWrite c.ss.pcb link.data .ok)).heap link.address
        ⟨link.data, next, link.ref⟩ = .ok heap' := chopped
    dsimp only
    rw [emitted]
  | mem =>
    have same : c.withChain c.heap (some link.address) = c := by
      rw [← pending.linked.1]
      rfl
    refine .inr (.inl ⟨window, by decide, ?_⟩)
    exact congrArg
      (fun c : Connection => Except.ok (c.emit (.tcpWrite c.ss.pcb link.data .mem))) same
  | other => exact .inr (.inl ⟨window, by decide, rfl⟩)

/-- **The loop of `send`** ends, without a fault, and only moves pending bytes to `tcp_write`, whose
buffers it deallocates. The induction is on the pending chain. -/
theorem sendLoop_sends (lwip : Nat → Response) {fuel : Nat} (k : Nat)
    (pending : Pending c.heap c.ss.p links)
    (enough : links.length < fuel) :
    ∃ c' rest, sendLoop lwip fuel k c = .ok c' ∧ Sends c c' ∧ Pending c'.heap c'.ss.p rest ∧
      Replaces c.heap c'.heap (links.map Link.address) (rest.map Link.address) := by
  induction links generalizing fuel k c with
  | nil =>
    obtain ⟨less, rfl⟩ : ∃ less, fuel = less + 1 := ⟨fuel - 1, by simp at enough; omega⟩
    refine ⟨c, [], ?_, .refl pending, pending, .refl _ _⟩
    rw [sendLoop, show c.ss.p = none from pending.linked]
  | cons link links ih =>
    rw [List.length_cons] at enough
    obtain ⟨less, rfl⟩ : ∃ less, fuel = less + 1 := ⟨fuel - 1, by omega⟩
    rcases sendLoop_turn lwip less k pending with
      ⟨_, _, next, heap', tail, erases, turn⟩ | ⟨_, refused, turn⟩ | ⟨_, turn⟩
    · obtain ⟨c', rest, ran, sends, pending', replaces⟩ := ih (k + 1)
        (c := (c.emit (.tcpWrite c.ss.pcb link.data .ok)).withChain heap' next) tail
        (show links.length < less by omega)
      exact ⟨c', rest, turn.trans ran, (sends_written pending tail).trans sends, pending',
        (Replaces.erase erases).trans replaces⟩
    · exact ⟨_, link :: links, turn, sends_refused pending refused, pending, .refl _ _⟩
    · exact ⟨c, link :: links, turn, .refl pending, pending, .refl _ _⟩

/-- **`send`** only moves pending bytes to `tcp_write`. -/
theorem send_sends (lwip : Nat → Response) (pending : Pending c.heap c.ss.p links) :
    ∃ c' rest, send lwip c = .ok c' ∧ Sends c c' ∧ Pending c'.heap c'.ss.p rest ∧
      Replaces c.heap c'.heap (links.map Link.address) (rest.map Link.address) :=
  sendLoop_sends lwip 0 pending (Nat.lt_succ_of_le (pending.linked.length_le pending.nodup))

end Sending

/-! ### Filling the chain -/

section Filling

variable {heap heap' : Heap} {p : Option Nat} {links : List Link} {bytes : List UInt8} {tail : Nat}

/-- The first buffer of a chain. -/
theorem Pending.first (single : heap.get tail = some ⟨bytes, none, 1⟩) :
    Pending heap (some tail) [⟨tail, bytes, 1⟩] :=
  ⟨⟨rfl, none, single, rfl⟩, List.nodup_singleton _, .inl rfl, fun _ inside =>
    absurd inside List.not_mem_nil⟩

theorem Pending.frame (pending : Pending heap p links)
    (same : ∀ q, q < heap.size → heap'.get q = heap.get q) : Pending heap' p links where
  linked := pending.linked.frame fun _ inside => same _ (pending.linked.lt_size inside)
  nodup := pending.nodup
  counted := pending.counted

/-- A later buffer of a chain. -/
theorem Pending.append {start : Nat} (pending : Pending heap (some start) links)
    (apart : ∀ link ∈ links, link.address ≠ tail)
    (single : heap.get tail = some ⟨bytes, none, 1⟩) :
    ∃ heap', heap.chain start tail = .ok heap' ∧
      Pending heap' (some start) (links ++ [⟨tail, bytes, 2⟩]) ∧
      Replaces heap heap' (links.map Link.address ++ [tail])
        (links.map Link.address ++ [tail]) := by
  obtain ⟨heap', chained, linked, size, others⟩ :=
    pending.linked.chain pending.nodup apart single
  refine ⟨heap', chained, ⟨linked, ?_, ?_⟩, .touch size fun q off => others q
    (fun on => off (List.mem_append_left _ on))
    fun last => off (List.mem_append_right _ (List.mem_singleton.mpr last))⟩
  · rw [List.map_append, List.nodup_append]
    refine ⟨pending.nodup, List.nodup_singleton _, fun address inside other last same => ?_⟩
    obtain ⟨link, on, rfl⟩ := List.mem_map.mp inside
    exact apart link on (same.trans (List.mem_singleton.mp last))
  · cases links with
    | nil => exact ⟨.inr rfl, fun _ inside => absurd inside List.not_mem_nil⟩
    | cons link links =>
      refine ⟨pending.counted.1, fun other inside => ?_⟩
      rcases List.mem_append.mp inside with old | new
      · exact pending.counted.2 other old
      · rw [List.mem_singleton.mp new]

variable {tcpMss : Nat} {c : Connection}

/-- A chunk goes to the end of the chain. -/
theorem append_chunk (bytes : List UInt8) (pending : Pending c.heap c.ss.p links) :
    ∃ heap heap' p', (c.heap.alloc bytes.length).1.memcpy c.heap.size bytes = .ok heap ∧
      append { c with heap } c.heap.size = .ok (c.withChain heap' p') ∧
      ∃ ref, Pending heap' p' (links ++ [⟨c.heap.size, bytes, ref⟩]) ∧
        Replaces c.heap heap' (links.map Link.address)
          (links.map Link.address ++ [c.heap.size]) := by
  obtain ⟨heap, copied, size, cell, older⟩ := memcpy_alloc c.heap bytes
  cases start : c.ss.p with
  | none =>
    rw [start] at pending
    obtain rfl := pending.eq_nil
    refine ⟨heap, heap, some c.heap.size, copied, ?_, 1, .first cell, .alloc size older⟩
    rw [append]
    dsimp only
    rw [start]
    rfl
  | some head =>
    have apart : ∀ link ∈ links, link.address ≠ c.heap.size := fun link inside =>
      Nat.ne_of_lt (pending.linked.lt_size inside)
    rw [start] at pending
    obtain ⟨heap', chained, appended, touches⟩ := (pending.frame older).append apart cell
    refine ⟨heap, heap', some head, copied, ?_, 2, appended,
      (Replaces.alloc size older).trans touches⟩
    rw [append]
    dsimp only
    rw [start]
    dsimp only
    rw [chained]
    rfl

/-- The loop of `tx` ends when nothing is left or `pbuf_alloc` fails. -/
theorem fillChain_done {fuel k : Nat} {data : List UInt8} {pbufAlloc : Nat → Bool}
    (done : 0 < data.length → pbufAlloc k = false) :
    fillChain tcpMss pbufAlloc (fuel + 1) k data c = .ok c := by
  rw [fillChain]
  by_cases more : 0 < data.length
  · rw [if_pos more, done more]
    rfl
  · rw [if_neg more]

/-- **One turn of the loop of `tx`** puts a chunk of the message at the end of the chain. -/
theorem fillChain_turn (tcpMss fuel : Nat) {k : Nat} {data : List UInt8} {pbufAlloc : Nat → Bool}
    (pending : Pending c.heap c.ss.p links) (more : 0 < data.length)
    (allocated : pbufAlloc k = true) :
    ∃ heap' p' ref,
      fillChain tcpMss pbufAlloc (fuel + 1) k data c =
        fillChain tcpMss pbufAlloc fuel (k + 1) (data.drop (min data.length tcpMss))
          (c.withChain heap' p') ∧
      Pending heap' p'
        (links ++ [⟨c.heap.size, data.take (min data.length tcpMss), ref⟩]) ∧
      Replaces c.heap heap' (links.map Link.address) (links.map Link.address ++ [c.heap.size]) := by
  have chunk : (data.take (min data.length tcpMss)).length = min data.length tcpMss := by
    rw [List.length_take]
    exact Nat.min_eq_left (Nat.min_le_left _ _)
  obtain ⟨heap, heap', p', copied, appended, ref, filled, replaces⟩ :=
    append_chunk (data.take (min data.length tcpMss)) pending
  rw [chunk] at copied
  refine ⟨heap', p', ref, ?_, filled, replaces⟩
  rw [fillChain, if_pos more, allocated, if_pos rfl]
  show ((c.heap.alloc _).1.memcpy c.heap.size _).bind _ = _
  rw [copied]
  show (append { c with heap } c.heap.size).bind _ = _
  rw [appended]
  rfl

/-- What as many chunks of the message hold as `pbuf_alloc` yields, from call `k` on. -/
def TakesFrom (tcpMss : Nat) (pbufAlloc : Nat → Bool) (k : Nat) (data taken : List UInt8) : Prop :=
  ∃ chunks, taken = data.take (chunks * tcpMss) ∧ (∀ i < chunks, pbufAlloc (k + i) = true) ∧
    (chunks * tcpMss < data.length → pbufAlloc (k + chunks) = false)

/-- One chunk more. -/
theorem TakesFrom.cons {pbufAlloc : Nat → Bool} {k : Nat} {data taken : List UInt8}
    (allocated : pbufAlloc k = true)
    (rest : TakesFrom tcpMss pbufAlloc (k + 1) (data.drop (min data.length tcpMss)) taken) :
    TakesFrom tcpMss pbufAlloc k data (data.take (min data.length tcpMss) ++ taken) := by
  obtain ⟨chunks, rfl, all, none⟩ := rest
  refine ⟨chunks + 1, ?_, fun i before => ?_, fun more => ?_⟩
  · rw [← List.take_add, Nat.succ_mul, Nat.add_comm]
    by_cases last : data.length ≤ tcpMss
    · rw [List.take_of_length_le (by omega), List.take_of_length_le (by omega)]
    · rw [Nat.min_eq_right (by omega)]
  · cases i with
    | zero => exact allocated
    | succ i =>
      rw [Nat.add_comm i 1, ← Nat.add_assoc]
      exact all i (Nat.lt_of_succ_lt_succ before)
  · rw [Nat.add_comm chunks 1, ← Nat.add_assoc]
    refine none ?_
    rw [Nat.succ_mul] at more
    rw [List.length_drop]
    omega

/-- **The loop of `tx`** ends, without a fault, with the chunks that were allocated at the end of the
chain, in new buffers. -/
theorem fillChain_takes (positive : 0 < tcpMss) {fuel : Nat} (k : Nat) (data : List UInt8)
    (pbufAlloc : Nat → Bool) (pending : Pending c.heap c.ss.p links) (enough : data.length < fuel) :
    ∃ heap' p' links' taken,
      fillChain tcpMss pbufAlloc fuel k data c = .ok (c.withChain heap' p') ∧
      Pending heap' p' links' ∧
      Replaces c.heap heap' (links.map Link.address) (links'.map Link.address) ∧
      links'.flatMap Link.data = links.flatMap Link.data ++ taken ∧
      TakesFrom tcpMss pbufAlloc k data taken := by
  induction fuel generalizing k data c links with
  | zero => exact absurd enough (Nat.not_lt_zero _)
  | succ fuel ih =>
    have nothing : (0 < data.length → pbufAlloc k = false) →
        TakesFrom tcpMss pbufAlloc k data [] := fun done =>
      ⟨0, by rw [Nat.zero_mul, List.take_zero], fun i before => absurd before (Nat.not_lt_zero i),
        fun more => done (by rw [Nat.zero_mul] at more; exact more)⟩
    by_cases more : 0 < data.length
    case neg =>
      exact ⟨c.heap, c.ss.p, links, [], fillChain_done fun some => absurd some more, pending,
        .refl _ _, by rw [List.append_nil], nothing fun some => absurd some more⟩
    cases allocated : pbufAlloc k with
    | false =>
      exact ⟨c.heap, c.ss.p, links, [], fillChain_done fun _ => allocated, pending, .refl _ _,
        by rw [List.append_nil], nothing fun _ => allocated⟩
    | true =>
      obtain ⟨heap₁, p₁, ref, turn, filled, chunks⟩ :=
        fillChain_turn tcpMss fuel pending more allocated
      have shorter : (data.drop (min data.length tcpMss)).length < fuel := by
        rw [List.length_drop]
        omega
      obtain ⟨heap', p', links', taken, ran, pending', replaces, bytes, takes⟩ :=
        ih (k + 1) (data.drop (min data.length tcpMss)) (c := c.withChain heap₁ p₁) filled shorter
      rw [List.map_append] at replaces
      refine ⟨heap', p', links', data.take (min data.length tcpMss) ++ taken, turn.trans ran,
        pending', chunks.trans replaces, ?_, takes.cons allocated⟩
      rw [bytes, List.flatMap_append, List.flatMap_singleton, List.append_assoc]

end Filling

/-! ### One event -/

/-- **The stream of a connection**: the bytes `tcp_write` accepted so far, followed by the pending
ones, are what the accepted `tx` calls enqueued; a closed connection has nothing pending. -/
structure Flow (c : Connection) : Prop where
  pending : ∃ links, Pending c.heap c.ss.p links
  stream : written c.trace ++ c.heap.bytes c.ss.p = (enqueued c.trace).flatten
  closes : ClosedDrained c.trace
  drained : c.freed = true → c.ss.p = none

/-- What one accepted call of `tx` with this message may enqueue. -/
def Chunked (tcpMss : Nat) (buffer : List UInt8) (answer : TxResponse) (data : List UInt8) : Prop :=
  data <+: buffer ∧
    ((∀ k, k * tcpMss < buffer.length → answer.pbufAlloc k = true) → data = buffer)

/-- What one accepted call of `tx` with this message enqueues. -/
def Takes (tcpMss : Nat) (buffer : List UInt8) (answer : TxResponse) (data : List UInt8) : Prop :=
  TakesFrom tcpMss answer.pbufAlloc 0 buffer data

theorem Takes.chunked {tcpMss : Nat} {buffer data : List UInt8} {answer : TxResponse}
    (takes : Takes tcpMss buffer answer data) : Chunked tcpMss buffer answer data := by
  obtain ⟨chunks, rfl, _, none⟩ := takes
  refine ⟨List.take_prefix _ _, fun always => List.take_of_length_le (Nat.le_of_not_lt fun more => ?_)⟩
  have failed := none more
  rw [Nat.zero_add, always chunks more] at failed
  cases failed

section Events

variable {tcpMss : Nat} (self : Address) {c c' : Connection}

/-- Nothing but a `tx` puts bytes on the chain, and only `send` takes them off. -/
theorem Flow.sends (flow : Flow c) (alive : c.freed = false) (sends : Sends c c') : Flow c' where
  pending := sends.pending
  stream := by rw [sends.conserved, sends.enqueued, flow.stream]
  closes := sends.closed flow.closes
  drained freed := by
    rw [sends.freed, alive] at freed
    cases freed

theorem Flow.outputs (flow : Flow c) {more : List Output}
    (silent : ∀ output ∈ more, Silent output) : Flow { c with trace := c.trace ++ more } where
  pending := flow.pending
  stream := by
    rw [written_append, enqueued_append, written_silent silent, enqueued_silent silent,
      List.append_nil, List.append_nil, flow.stream]
  closes := closedDrained_append flow.closes fun _ _ closed => (silent _ closed).elim
  drained := flow.drained

/-- **What `tx` does to the chain**: new buffers come to it, and what is sent at once goes. -/
theorem txConnection_replaces (positive : 0 < tcpMss) (buffer : List UInt8) (answer : TxResponse)
    {links : List Link} (pending : Pending c.heap c.ss.p links) :
    ∃ c' links', txConnection tcpMss self buffer answer c = .ok c' ∧
      Pending c'.heap c'.ss.p links' ∧ c'.freed = c.freed ∧
      Replaces c.heap c'.heap (links.map Link.address) (links'.map Link.address) := by
  rw [txConnection]
  by_cases accepts : Accepts self c
  · rw [if_pos accepts]
    obtain ⟨heap, p, chunks, _, filled, pending', fills, _⟩ := fillChain_takes positive 0 buffer
      answer.pbufAlloc pending (Nat.lt_succ_self buffer.length)
    let queued := (c.withChain heap p).emit (.enqueue (heap.bytes p))
    have queuedPending : Pending queued.heap queued.ss.p chunks := pending'
    obtain ⟨c', rest, ran, sends, pending'', replaces⟩ := send_sends answer.lwip queuedPending
    refine ⟨c', rest, ?_, pending'', sends.freed, fills.trans replaces⟩
    rw [filled]
    exact ran
  · rw [if_neg accepts]
    exact ⟨c, links, rfl, pending, rfl, .refl _ _⟩

/-- **`tx` on one connection.** It takes the message exactly if the record is stored and has
nothing pending; then one piece is enqueued. -/
theorem txConnection_takes (positive : 0 < tcpMss) (buffer : List UInt8) (answer : TxResponse)
    (flow : Flow c) (alive : c.freed = false) :
    ∃ c', txConnection tcpMss self buffer answer c = .ok c' ∧ Flow c' ∧ c'.freed = false ∧
      (¬ Accepts self c → c' = c) ∧
      (Accepts self c → ∃ data, enqueued c'.trace = enqueued c.trace ++ [data] ∧
        Takes tcpMss buffer answer data) := by
  rw [txConnection]
  by_cases accepts : Accepts self c
  · rw [if_pos accepts]
    obtain ⟨links, pending⟩ := flow.pending
    have nothing := accepts.2
    rw [nothing] at pending
    obtain rfl := pending.eq_nil
    obtain ⟨heap', p', links', taken, filled, pending', _, bytes, takes⟩ :=
      fillChain_takes positive 0 buffer answer.pbufAlloc (nothing ▸ pending)
        (Nat.lt_succ_self buffer.length)
    have chain : heap'.bytes p' = taken := by rw [pending'.bytes_eq, bytes]; rfl
    let c₁ := (c.withChain heap' p').emit (.enqueue (heap'.bytes p'))
    have enqueues : enqueued c₁.trace = enqueued c.trace ++ [taken] := by
      rw [← chain]
      exact enqueued_append _ _
    have flow₁ : Flow c₁ := by
      refine ⟨⟨links', pending'⟩, ?_, closedDrained_append flow.closes (by simp [ClosedDrained]),
        fun freed => absurd (alive.symm.trans freed) (by decide)⟩
      rw [enqueues, List.flatten_append, ← flow.stream, nothing]
      show written (c.trace ++ [_]) ++ heap'.bytes p' = _
      rw [written_append, chain, bytes_none, List.append_nil]
      show written c.trace ++ [] ++ taken = written c.trace ++ (taken ++ [])
      rw [List.append_nil, List.append_nil]
    obtain ⟨c', _, sent, sends, _⟩ := send_sends answer.lwip (c := c₁) pending'
    refine ⟨c', ?_, flow₁.sends alive sends, sends.freed.trans alive,
      fun refused => absurd accepts refused, fun _ => ⟨taken, ?_, takes⟩⟩
    · rw [filled]
      exact sent
    · rw [sends.enqueued, enqueues]
  · rw [if_neg accepts]
    exact ⟨c, rfl, flow, alive, fun _ => rfl, fun accepted => absurd accepted accepts⟩

/-- The calls a broadcast makes, one after the other. -/
theorem txCalls_takes (positive : 0 < tcpMss) (buffer : List UInt8) (answer : Nat → TxResponse)
    (calls : List (Address × Nat)) (flow : Flow c) (alive : c.freed = false) :
    ∃ c' news, calls.foldlM (fun c (record, i) => if record = self then
        txConnection tcpMss self buffer (answer i) c else .ok c) c = .ok c' ∧
      Flow c' ∧ c'.freed = false ∧ enqueued c'.trace = enqueued c.trace ++ news ∧
      (∀ data ∈ news, ∃ i, Takes tcpMss buffer (answer i) data) ∧
      (¬ Accepts self c → c' = c) ∧
      (Accepts self c → self ∈ calls.map Prod.fst → news ≠ []) := by
  induction calls generalizing c with
  | nil =>
    exact ⟨c, [], rfl, flow, alive, (List.append_nil _).symm,
      fun _ inside => absurd inside List.not_mem_nil, fun _ => rfl,
      fun _ inside => absurd inside List.not_mem_nil⟩
  | cons call calls ih =>
    obtain ⟨record, i⟩ := call
    rw [List.foldlM_cons]
    dsimp only
    by_cases here : record = self
    · rw [if_pos here]
      obtain ⟨c₁, called, flow₁, alive₁, refused, accepted⟩ :=
        txConnection_takes self positive buffer (answer i) flow alive
      obtain ⟨c', news, ran, flow', alive', more, chunked, refused', _⟩ := ih flow₁ alive₁
      rw [called]
      by_cases accepts : Accepts self c
      · obtain ⟨data, first, piece⟩ := accepted accepts
        refine ⟨c', data :: news, ran, flow', alive', ?_, ?_, fun refuses => absurd accepts refuses,
          fun _ _ => List.cons_ne_nil _ _⟩
        · rw [more, first, List.append_assoc]
          rfl
        · intro other inside
          rcases List.mem_cons.mp inside with rfl | later
          · exact ⟨i, piece⟩
          · exact chunked other later
      · obtain rfl := refused accepts
        exact ⟨c', news, ran, flow', alive', more, chunked, refused', fun yes => absurd yes accepts⟩
    · rw [if_neg here]
      obtain ⟨c', news, ran, flow', alive', more, chunked, refused, accepted⟩ := ih flow alive
      refine ⟨c', news, ran, flow', alive', more, chunked, refused, fun accepts inside => ?_⟩
      refine accepted accepts ((List.mem_cons.mp inside).resolve_left fun same => ?_)
      exact here same.symm

/-- What one call of `tx` does to the connection. -/
structure Transmits (tcpMss : Nat) (self : Address) (buffer : List UInt8)
    (parameter : Option Address) (answer : Nat → TxResponse) (c c' : Connection) : Prop where
  /-- a record that is not stored, or has bytes pending, does not take the message -/
  refused : ¬ Accepts self c → c' = c
  /-- a message for another connection -/
  foreign : ∀ record, parameter = some record → record ≠ self → c' = c
  /-- a message for this connection: one piece is enqueued -/
  explicit : parameter = some self → Accepts self c → ∃ data,
    enqueued c'.trace = enqueued c.trace ++ [data] ∧ Chunked tcpMss buffer (answer 0) data
  /-- a broadcast: one piece for every call it makes for this record and that takes the message -/
  broadcast : parameter = none → Accepts self c → ∃ news, news ≠ [] ∧
    enqueued c'.trace = enqueued c.trace ++ news ∧
    ∀ data ∈ news, ∃ i, Chunked tcpMss buffer (answer i) data

/-- The same, with what is known of the pieces in detail. -/
structure TransmitsBy (piece : TxResponse → List UInt8 → Prop) (self : Address)
    (parameter : Option Address) (answer : Nat → TxResponse) (c c' : Connection) : Prop where
  refused : ¬ Accepts self c → c' = c
  foreign : ∀ record, parameter = some record → record ≠ self → c' = c
  explicit : parameter = some self → Accepts self c → ∃ data,
    enqueued c'.trace = enqueued c.trace ++ [data] ∧ piece (answer 0) data
  broadcast : parameter = none → Accepts self c → ∃ news, news ≠ [] ∧
    enqueued c'.trace = enqueued c.trace ++ news ∧ ∀ data ∈ news, ∃ i, piece (answer i) data

/-- **`tx`**, and the chunks it takes. -/
theorem tx_takes (positive : 0 < tcpMss) (buffer : List UInt8) (parameter : Option Address)
    (answer : Nat → TxResponse) (flow : Flow c) (alive : c.freed = false) :
    ∃ c', tx tcpMss self buffer parameter answer c = .ok c' ∧ Flow c' ∧
      TransmitsBy (Takes tcpMss buffer) self parameter answer c c' := by
  unfold tx
  by_cases zero : c.registry.connectionsCounter = 0
  · rw [if_pos zero]
    have unstored : ¬ Accepts self c := fun accepts =>
      counter_ne_zero_of_walked (isConnectionInBuffer_iff.mp accepts.1) zero
    exact ⟨c, rfl, flow, fun _ => rfl, fun _ _ _ => rfl, fun _ accepts => absurd accepts unstored,
      fun _ accepts => absurd accepts unstored⟩
  · rw [if_neg zero]
    cases parameter with
    | none =>
      obtain ⟨c', news, ran, flow', _, more, takes, refused, accepted⟩ :=
        txCalls_takes self positive buffer answer (broadcastConnections c.registry).zipIdx
          flow alive
      refine ⟨c', ran, flow', refused, fun _ impossible => absurd impossible (by simp),
        fun impossible => absurd impossible (by simp),
        fun _ accepts => ⟨news, accepted accepts ?_, more, takes⟩⟩
      rw [List.zipIdx_map_fst]
      exact mem_broadcastConnections.mpr (isConnectionInBuffer_iff.mp accepts.1)
    | some record =>
      by_cases here : record = self
      · obtain ⟨c', ran, flow', _, refused, accepted⟩ :=
          txConnection_takes self positive buffer (answer 0) flow alive
        dsimp only
        rw [if_pos here]
        refine ⟨c', ran, flow', refused, fun other same different => ?_, fun _ => accepted,
          fun impossible => absurd impossible (by simp)⟩
        exact absurd ((Option.some.inj same).symm.trans here) different
      · dsimp only
        rw [if_neg here]
        exact ⟨c, rfl, flow, fun _ => rfl, fun _ _ _ => rfl,
          fun same => absurd (Option.some.inj same) here,
          fun impossible => absurd impossible (by simp)⟩

/-- **`tx`.** -/
theorem tx_flow (positive : 0 < tcpMss) (buffer : List UInt8) (parameter : Option Address)
    (answer : Nat → TxResponse) (flow : Flow c) (alive : c.freed = false) :
    ∃ c', tx tcpMss self buffer parameter answer c = .ok c' ∧ Flow c' ∧
      Transmits tcpMss self buffer parameter answer c c' := by
  obtain ⟨c', ran, flow', refused, foreign, explicit, broadcast⟩ :=
    tx_takes self positive buffer parameter answer flow alive
  refine ⟨c', ran, flow', refused, foreign, fun here accepts => ?_, fun all accepts => ?_⟩
  · obtain ⟨data, enqueues, takes⟩ := explicit here accepts
    exact ⟨data, enqueues, takes.chunked⟩
  · obtain ⟨news, some, enqueues, takes⟩ := broadcast all accepts
    exact ⟨news, some, enqueues, fun data member => (takes data member).imp fun _ => Takes.chunked⟩

/-- `close` with nothing pending. -/
theorem close_flow (flow : Flow c) (nothing : c.ss.p = none) : Flow (close self c) where
  pending := flow.pending
  stream := by
    show written (c.trace ++ [_]) ++ _ = (enqueued (c.trace ++ [_])).flatten
    rw [written_append, enqueued_append]
    exact (List.append_nil (written c.trace)).symm ▸ (List.append_nil (enqueued c.trace)).symm ▸
      flow.stream
  closes := closedDrained_append flow.closes (by simp [ClosedDrained, nothing])
  drained _ := nothing

/-- The branch of `poll`, `sent` and `receive` for a pending chain. -/
theorem resend_flow (lwip : Nat → Response) (flow : Flow c) (alive : c.freed = false) :
    ∃ c', send lwip (c.emit (.tcpSent c.ss.pcb)) = .ok c' ∧ Flow c' := by
  have flow₁ : Flow (c.emit (.tcpSent c.ss.pcb)) := flow.outputs (by simp [Silent])
  obtain ⟨links, pending⟩ := flow₁.pending
  obtain ⟨c', _, sent, sends, _⟩ := send_sends lwip pending
  exact ⟨c', sent, flow₁.sends alive sends⟩

theorem poll_flow (lwip : Nat → Response) (flow : Flow c) (alive : c.freed = false) :
    ∃ c', poll self lwip c = .ok c' ∧ Flow c' := by
  rw [poll]
  cases nothing : c.ss.p with
  | some p => exact resend_flow lwip flow alive
  | none =>
    dsimp only
    by_cases closing : c.ss.state = .closing
    · rw [if_pos closing]
      exact ⟨_, rfl, close_flow self flow nothing⟩
    · rw [if_neg closing]
      exact ⟨c, rfl, flow⟩

/-- The branch of `receive` for the end of the stream. -/
theorem drain_flow (lwip : Nat → Response) (flow : Flow c) (alive : c.freed = false) :
    ∃ c', (match c.ss.p with
      | none => Except.ok (close self c)
      | some _ => send lwip (c.emit (.tcpSent c.ss.pcb))) = .ok c' ∧ Flow c' := by
  cases nothing : c.ss.p with
  | some p => exact resend_flow lwip flow alive
  | none => exact ⟨_, rfl, close_flow self flow nothing⟩

theorem receive_flow (p : Option (List (List UInt8))) (err : Err) (lwip : Nat → Response)
    (flow : Flow c) (alive : c.freed = false) :
    ∃ c', receive self p err lwip c = .ok c' ∧ Flow c' := by
  unfold receive
  cases p with
  | none =>
    have flow₁ : Flow { c with ss := { c.ss with state := .closing } } :=
      ⟨flow.pending, flow.stream, flow.closes, flow.drained⟩
    exact drain_flow self lwip flow₁ alive
  | some segments =>
    dsimp only
    by_cases failed : err ≠ .ok
    · rw [if_pos failed]
      exact ⟨c, rfl, flow⟩
    · rw [if_neg failed]
      cases c.ss.state with
      | accepted =>
        refine ⟨_, rfl, ?_⟩
        rw [List.append_assoc]
        exact flow.outputs (silent_delivered c.callback segments _ _)
      | closing | none => exact ⟨_, rfl, flow.outputs (by simp [Silent])⟩

/-- **One event** of a live connection does not fault and keeps the stream. -/
theorem connectionStep_flow (positive : 0 < tcpMss) (event : ConnectionEvent) (flow : Flow c)
    (alive : c.freed = false) :
    ∃ c', connectionStep tcpMss self c event = .ok c' ∧ Flow c' := by
  cases event with
  | tx buffer parameter answer =>
    obtain ⟨c', ran, flow', _⟩ := tx_flow self positive buffer parameter answer flow alive
    exact ⟨c', ran, flow'⟩
  | poll lwip => exact poll_flow self lwip flow alive
  | sent lwip => exact poll_flow self lwip flow alive
  | receive p err lwip => exact receive_flow self p err lwip flow alive
  | others registry =>
    exact ⟨_, rfl, flow.pending, flow.stream, flow.closes, flow.drained⟩
  | setCallback callback =>
    exact ⟨_, rfl, flow.pending, flow.stream, flow.closes, flow.drained⟩

end Events

/-! ### Runs -/

theorem accept_flow (registry : Registry) (callback : Bool) (heap : Heap) (pcb : Address) :
    Flow (accept registry callback heap pcb) :=
  ⟨⟨[], .empty⟩, rfl, fun _ _ inside => absurd inside List.not_mem_nil, fun _ => rfl⟩

end Jblib.Ethutilities.TcpServerChannel
