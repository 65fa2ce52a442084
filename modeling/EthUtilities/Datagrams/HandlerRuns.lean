/-
**The UDP handlers leave no buffer behind.**

* `Sent` — what sending does to the buffers: the older ones stay, and of the new ones those are left
  that lwIP keeps. `Sent.trans`; `sendBuffer_sent`, `tx_sent`, `actions_ok`.
* `walk_ok` — the loop over a received chain, whatever the user does in between.
* `Settled` — the buffers that are allocated are those that lwIP keeps, each with one reference.
  `Settled.handled`: a handler that sends and frees its chain leaves the buffers settled.
* `plainDeliver_eq` — without buffers, `recieveCallback` is that of the channel's model.
* **`handlers_settled`** — in every run of the three handlers nothing is accessed after it was freed,
  nothing is freed twice and nothing is forgotten; and they do what their models say.
-/

import EthUtilities.Datagrams.Handlers
import EthUtilities.DhcpServer.Leases
import EthUtilities.DnsServer.Responses

namespace Jblib.Ethutilities.Datagrams

open Library Library.PbufHeap UdpChannel

/-! ### Sending -/

/-- The older buffers stay, and the new ones that are left are `more`, which lwIP keeps. -/
structure Sent (stack stack' : Stack) (more : List Nat) : Prop where
  size : stack.heap.size ≤ stack'.heap.size
  frame : ∀ q < stack.heap.size, stack'.heap.get q = stack.heap.get q
  kept : stack'.kept = stack.kept ++ more
  nodup : more.Nodup
  fresh : ∀ p ∈ more, stack.heap.size ≤ p
  single : ∀ p ∈ more, ∃ data, stack'.heap.get p = some ⟨data, none, 1⟩
  only : ∀ q, stack.heap.size ≤ q → stack'.heap.get q ≠ none → q ∈ more

section Sent

variable {stack stack' stack'' : Stack} {more later : List Nat}

theorem Sent.refl (stack : Stack) : Sent stack stack [] where
  size := Nat.le_refl _
  frame _ _ := rfl
  kept := (List.append_nil _).symm
  nodup := List.nodup_nil
  fresh := nofun
  single := nofun
  only _ new allocated := absurd (Heap.lt_size_of_allocated allocated) (Nat.not_lt_of_le new)

theorem Sent.trans (first : Sent stack stack' more) (second : Sent stack' stack'' later) :
    Sent stack stack'' (more ++ later) where
  size := first.size.trans second.size
  frame q old := (second.frame q (Nat.lt_of_lt_of_le old first.size)).trans (first.frame q old)
  kept := by rw [second.kept, first.kept, List.append_assoc]
  nodup := by
    refine List.nodup_append.mpr ⟨first.nodup, second.nodup, fun p before q after same => ?_⟩
    obtain ⟨data, found⟩ := first.single p before
    have old := Heap.lt_size_of_get found
    have new := second.fresh q after
    omega
  fresh p member := by
    rcases List.mem_append.mp member with before | after
    · exact first.fresh p before
    · exact first.size.trans (second.fresh p after)
  single p member := by
    rcases List.mem_append.mp member with before | after
    · obtain ⟨data, found⟩ := first.single p before
      exact ⟨data, (second.frame p (Heap.lt_size_of_get found)).trans found⟩
    · exact second.single p after
  only q new allocated := by
    rcases Nat.lt_or_ge q stack'.heap.size with old | newer
    · rw [second.frame q old] at allocated
      exact List.mem_append_left _ (first.only q new allocated)
    · exact List.mem_append_right _ (second.only q newer allocated)

/-- **One buffer** is allocated, sent and freed. -/
theorem sendBuffer_sent (keeps : Bool) (data : List UInt8) (stack : Stack) :
    ∃ stack' more, sendBuffer keeps data stack = .ok (stack', data) ∧ Sent stack stack' more := by
  obtain ⟨heap, copied, size, cell, older⟩ := memcpy_alloc stack.heap data
  have read := Heap.read_of_get cell
  have others : ∀ (cell' : Option Pbuf) (q : Nat), stack.heap.size ≤ q → q ≠ stack.heap.size →
      (heap.set stack.heap.size cell').get q = none := fun cell' q new other => by
    by_contra allocated
    have inside := Heap.lt_size_of_allocated allocated
    rw [Heap.size_set, size] at inside
    omega
  cases keeps with
  | false =>
    refine ⟨⟨heap.set stack.heap.size none, stack.kept⟩, [], ?_, ?_⟩
    · rw [sendBuffer]
      dsimp only [Heap.alloc] at copied ⊢
      rw [copied]
      dsimp only [bind, Except.bind]
      rw [udpSendto, read]
      dsimp only [bind, Except.bind]
      rw [if_neg (by decide)]
      dsimp only
      rw [free_last cell]
    · refine ⟨?_, fun q old => ?_, (List.append_nil _).symm, List.nodup_nil, nofun, nofun,
        fun q new allocated => ?_⟩
      · rw [Heap.size_set, size]
        exact Nat.le_succ _
      · rw [Heap.get_set_of_ne (Nat.ne_of_lt old), older q old]
      · by_cases here : q = stack.heap.size
        · rw [here, Heap.get_set_self cell] at allocated
          exact absurd rfl allocated
        · exact absurd (others none q new here) allocated
  | true =>
    have counted : (heap.set stack.heap.size (some ⟨data, none, 2⟩)).get stack.heap.size =
        some ⟨data, none, 0 + 2⟩ := Heap.get_set_self cell
    refine ⟨⟨(heap.set stack.heap.size (some ⟨data, none, 2⟩)).set stack.heap.size
      (some ⟨data, none, 1⟩), stack.kept ++ [stack.heap.size]⟩, [stack.heap.size], ?_, ?_⟩
    · rw [sendBuffer]
      dsimp only [Heap.alloc] at copied ⊢
      rw [copied]
      dsimp only [bind, Except.bind]
      rw [udpSendto, read]
      dsimp only [bind, Except.bind]
      rw [if_pos rfl, Heap.addRef, read]
      dsimp only [bind, Except.bind]
      rw [free_shared counted]
    · refine ⟨?_, fun q old => ?_, rfl, List.nodup_singleton _, fun p member => ?_,
        fun p member => ?_, fun q new allocated => ?_⟩
      · rw [Heap.size_set, Heap.size_set, size]
        exact Nat.le_succ _
      · rw [Heap.get_set_of_ne (Nat.ne_of_lt old), Heap.get_set_of_ne (Nat.ne_of_lt old),
          older q old]
      · exact (List.mem_singleton.mp member).ge
      · obtain rfl := List.mem_singleton.mp member
        exact ⟨data, Heap.get_set_self counted⟩
      · by_contra other
        have here : q ≠ stack.heap.size := fun same => other (List.mem_singleton.mpr same)
        rw [Heap.get_set_of_ne here] at allocated
        exact allocated (others _ q new here)

variable {tcpMss : Nat} {channel : Bare.Channel} {lwip : Nat → Answer} {target : UdpHost}

/-- **The loop of `tx`** sends what the channel's model says. -/
theorem txLoop_sent (positive : 0 < tcpMss) {fuel : Nat} (k : Nat) {data : List UInt8}
    (enough : data.length ≤ fuel) (stack : Stack) :
    ∃ stack' more, txLoop tcpMss channel lwip target (fuel + 1) k data stack =
        .ok (stack', channel.txLoop tcpMss (fun k => (lwip k).pbufAlloc) target fuel k data) ∧
      Sent stack stack' more := by
  induction fuel generalizing k data stack with
  | zero =>
    obtain rfl := List.length_eq_zero_iff.mp (Nat.le_zero.mp enough)
    exact ⟨stack, [], rfl, .refl stack⟩
  | succ fuel ih =>
    rw [txLoop, Bare.Channel.txLoop]
    by_cases some : 0 < data.length
    · rw [if_pos some, if_pos some]
      dsimp only
      cases allocated : (lwip k).pbufAlloc with
      | false => exact ⟨stack, [], rfl, .refl stack⟩
      | true =>
        obtain ⟨stack', more, sends, sent⟩ := sendBuffer_sent (lwip k).keeps
          (data.take (min data.length tcpMss)) stack
        have fewer : (data.drop (min data.length tcpMss)).length ≤ fuel := by
          rw [List.length_drop]
          omega
        obtain ⟨stack'', later, rest, sent'⟩ := ih (k + 1) fewer stack'
        refine ⟨stack'', more ++ later, ?_, sent.trans sent'⟩
        rw [if_pos rfl, if_pos rfl, sends]
        dsimp only [bind, Except.bind]
        rw [rest]
    · rw [if_neg some, if_neg some]
      exact ⟨stack, [], rfl, .refl stack⟩

theorem tx_sent (positive : 0 < tcpMss) (buffer : List UInt8) (parameter : Option UdpHost)
    (stack : Stack) :
    ∃ stack' more, tx tcpMss channel buffer parameter lwip stack =
        .ok (stack', channel.tx tcpMss (fun k => (lwip k).pbufAlloc) buffer parameter) ∧
      Sent stack stack' more := txLoop_sent positive 0 (Nat.le_refl _) stack

end Sent

/-! ### Users -/

/-- Sending changed the buffers, and `channel` is the channel now. -/
structure Did (s s' : State) (channel : Bare.Channel) : Prop where
  sent : ∃ more, Sent s.stack s'.stack more
  channel : s'.channel = channel
  dhcp : s'.dhcp = s.dhcp

section Users

variable {setup : Setup} {s s' s'' : State} {channel channel' : Bare.Channel}

theorem Did.refl (s : State) : Did s s s.channel := ⟨⟨[], .refl s.stack⟩, rfl, rfl⟩

theorem Did.trans (first : Did s s' channel) (second : Did s' s'' channel') :
    Did s s'' channel' := by
  obtain ⟨more, sent⟩ := first.sent
  obtain ⟨later, sent'⟩ := second.sent
  exact ⟨⟨more ++ later, sent.trans sent'⟩, second.channel, second.dhcp.trans first.dhcp⟩

theorem act_ok (positive : 0 < setup.tcpMss) (s : State) (action : Action) :
    ∃ s', act setup s action = .ok (s', (plainAct setup s.channel action).2) ∧
      Did s s' (plainAct setup s.channel action).1 := by
  cases action with
  | call call => exact ⟨{ s with channel := s.channel.call call }, rfl, ⟨[], .refl _⟩, rfl, rfl⟩
  | tx buffer parameter lwip =>
    obtain ⟨stack, more, ran, sent⟩ := tx_sent positive buffer parameter s.stack
    refine ⟨{ s with stack }, ?_, ⟨more, sent⟩, rfl, rfl⟩
    rw [act, ran]
    rfl

theorem actions_ok (positive : 0 < setup.tcpMss) (list : List Action) (s : State) :
    ∃ s', actions setup list s = .ok (s', (plainActions setup list s.channel).2) ∧
      Did s s' (plainActions setup list s.channel).1 := by
  induction list generalizing s with
  | nil => exact ⟨s, rfl, .refl s⟩
  | cons action rest ih =>
    obtain ⟨s', acted, did⟩ := act_ok positive s action
    obtain ⟨s'', ran, did'⟩ := ih s'
    rw [did.channel] at ran did'
    refine ⟨s'', ?_, did.trans did'⟩
    rw [actions, acted]
    dsimp only [bind, Except.bind]
    rw [ran]
    rfl

theorem read_of_get {p : Nat} {buf : Pbuf} (found : s.stack.heap.get p = some buf) :
    read s p = .ok buf := by
  rw [read, Heap.read_of_get found]

theorem reportSegment_ok (positive : 0 < setup.tcpMss) {link : Link} {next : Option Nat}
    (found : s.stack.heap.get link.address = some ⟨link.data, next, link.ref⟩) :
    ∃ s', reportSegment setup link.address s =
        .ok (s', (plainReport setup link.data s.channel).2) ∧
      Did s s' (plainReport setup link.data s.channel).1 := by
  rw [reportSegment, plainReport]
  cases s.channel.callback with
  | false => exact ⟨s, rfl, .refl s⟩
  | true =>
    obtain ⟨s', ran, did⟩ := actions_ok positive (setup.user ⟨link.data, s.channel.dmSource⟩) s
    refine ⟨s', ?_, did⟩
    rw [if_pos rfl, read_of_get found]
    dsimp only [bind, Except.bind]
    rw [ran]
    rfl

/-- **The loop over a received chain.** The user may send in between: the chain stays. -/
theorem walk_ok (positive : 0 < setup.tcpMss) {links : List Link} {fuel : Nat} {p : Option Nat}
    (linked : Linked s.stack.heap p links) (enough : links.length < fuel) :
    ∃ s', walk setup fuel p s =
        .ok (s', (plainDeliver setup (links.map Link.data) s.channel).2) ∧
      Did s s' (plainDeliver setup (links.map Link.data) s.channel).1 := by
  induction links generalizing s fuel p with
  | nil =>
    obtain rfl : p = none := linked
    obtain ⟨less, rfl⟩ := Nat.exists_eq_add_of_lt enough
    exact ⟨s, rfl, .refl s⟩
  | cons link links ih =>
    obtain ⟨less, rfl⟩ := Nat.exists_eq_add_of_lt enough
    obtain ⟨rfl, next, found, rest⟩ := id linked
    obtain ⟨s', reported, did⟩ := reportSegment_ok positive found
    obtain ⟨more, sent⟩ := did.sent
    have still : Linked s'.stack.heap (some link.address) (link :: links) :=
      linked.frame fun other inside => sent.frame _ (linked.lt_size inside)
    obtain ⟨-, next', found', rest'⟩ := still
    have fewer : links.length < (link :: links).length + less := by
      simp only [List.length_cons]
      omega
    obtain ⟨s'', ran, did'⟩ := ih rest' fewer
    rw [did.channel] at ran did'
    refine ⟨s'', ?_, did.trans did'⟩
    rw [walk, reported]
    dsimp only [bind, Except.bind]
    rw [read_of_get found']
    dsimp only
    rw [ran]
    rfl

end Users

/-! ### Received chains -/

/-- lwIP's buffers are all there is, each with one reference. -/
structure Settled (stack : Stack) : Prop where
  nodup : stack.kept.Nodup
  single : ∀ p ∈ stack.kept, ∃ data, stack.heap.get p = some ⟨data, none, 1⟩
  only : ∀ p, stack.heap.get p ≠ none → p ∈ stack.kept

/-- The stack when lwIP has received a chain. -/
def Stack.receive (stack : Stack) (segments : List (List UInt8)) : Stack :=
  { stack with heap := stack.heap.receive segments }

section Settled

variable {stack stack' : Stack} {more : List Nat} {segments : List (List UInt8)}

theorem Settled.sent (settled : Settled stack) (sent : Sent stack stack' more) :
    Settled stack' where
  nodup := by
    rw [sent.kept]
    refine List.nodup_append.mpr ⟨settled.nodup, sent.nodup, fun p before q after same => ?_⟩
    obtain ⟨data, found⟩ := settled.single p before
    have old := Heap.lt_size_of_get found
    have new := sent.fresh q after
    omega
  single p member := by
    rw [sent.kept] at member
    rcases List.mem_append.mp member with before | after
    · obtain ⟨data, found⟩ := settled.single p before
      exact ⟨data, (sent.frame p (Heap.lt_size_of_get found)).trans found⟩
    · exact sent.single p after
  only q allocated := by
    rw [sent.kept]
    rcases Nat.lt_or_ge q stack.heap.size with old | new
    · rw [sent.frame q old] at allocated
      exact List.mem_append_left _ (settled.only q allocated)
    · exact List.mem_append_right _ (sent.only q new allocated)

/-- **A handler that sends, and frees the chain it was given,** leaves the buffers settled. -/
theorem Settled.handled (settled : Settled stack) (some : segments ≠ [])
    (sent : Sent (stack.receive segments) stack' more) :
    ∃ heap count, stack'.heap.free stack.heap.size = .ok (heap, count) ∧
      Settled { stack' with heap } := by
  have old : stack.heap.size ≤ stack'.heap.size :=
    Nat.le_trans (by rw [Stack.receive, size_receive]; exact Nat.le_add_right _ _) sent.size
  have received := linked_receive stack.heap segments
  rw [if_neg some] at received
  have chain : Linked stack'.heap (.some stack.heap.size) (chainLinks stack.heap.size segments) :=
    received.frame fun link inside => sent.frame _ (received.lt_size inside)
  obtain ⟨heap, count, freed, size, gone, others⟩ :=
    free_chain chain nodup_chainLinks single_chainLinks
  refine ⟨heap, count, freed, ?_⟩
  have total : (stack.receive segments).heap.size = stack.heap.size + segments.length :=
    size_receive
  have earlier : ∀ q < stack.heap.size, heap.get q = stack.heap.get q := fun q before => by
    rw [others q fun on => Nat.not_le_of_lt before (mem_chainLinks.mp on).1,
      sent.frame q (by omega)]
    exact get_receive_of_lt before
  have newer : ∀ q, stack.heap.size + segments.length ≤ q → heap.get q = stack'.heap.get q :=
    fun q new => others q fun on => Nat.not_lt_of_le new (mem_chainLinks.mp on).2
  -- seen from before the chain came, the handler only sent
  have sent' : Sent stack { stack' with heap } more := {
    size := size.symm ▸ old
    frame := earlier
    kept := sent.kept
    nodup := sent.nodup
    fresh := fun p member => by
      have new := sent.fresh p member
      omega
    single := fun p member => by
      obtain ⟨data, found⟩ := sent.single p member
      exact ⟨data, (newer p (total ▸ sent.fresh p member)).trans found⟩
    only := fun q new allocated => by
      rcases Nat.lt_or_ge q (stack.heap.size + segments.length) with on | behind
      · exact absurd (gone q (mem_chainLinks.mpr ⟨new, on⟩)) allocated
      · rw [newer q behind] at allocated
        exact sent.only q (total.symm ▸ behind) allocated }
  exact settled.sent sent'

/-- lwIP frees a buffer that it kept. -/
theorem Settled.released (settled : Settled stack) {i : Nat} (inside : i < stack.kept.length) :
    ∃ heap count, stack.heap.free (stack.kept.getD i 0) = .ok (heap, count) ∧
      Settled ⟨heap, stack.kept.eraseIdx i⟩ := by
  have place : stack.kept.getD i 0 = stack.kept[i] := by simp [inside]
  obtain ⟨data, found⟩ := settled.single stack.kept[i] (List.getElem_mem inside)
  have others : ∀ p, p ∈ stack.kept.eraseIdx i ↔ p ∈ stack.kept ∧ p ≠ stack.kept[i] := fun p => by
    rw [List.mem_eraseIdx_iff_getElem]
    constructor
    · rintro ⟨j, there, different, rfl⟩
      exact ⟨List.getElem_mem there, fun same => different (settled.nodup.getElem_inj_iff.mp same)⟩
    · rintro ⟨member, different⟩
      obtain ⟨j, there, rfl⟩ := List.getElem_of_mem member
      exact ⟨j, there, fun same => different (by subst same; rfl), rfl⟩
  rw [place]
  refine ⟨_, _, free_last found, settled.nodup.eraseIdx i, fun p member => ?_,
    fun p allocated => ?_⟩
  · obtain ⟨member, different⟩ := (others p).mp member
    obtain ⟨data', found'⟩ := settled.single p member
    exact ⟨data', (Heap.get_set_of_ne different).trans found'⟩
  · have different : p ≠ stack.kept[i] := by
      rintro rfl
      exact allocated (Heap.get_set_self found)
    refine (others p).mpr ⟨settled.only p ?_, different⟩
    rwa [← Heap.get_set_of_ne different]

end Settled

/-! ### Handlers -/

/-- The state without its buffers. -/
def State.plain (s : State) : Plain := ⟨s.channel, s.dhcp⟩

section Handlers

variable {setup : Setup} {s s' : State} {segments : List (List UInt8)}

/-- The state when lwIP has received a chain. -/
def State.receive (s : State) (segments : List (List UInt8)) : State :=
  { s with stack := s.stack.receive segments }

/-- A handler frees the chain it was given when it is done. -/
theorem pbufFree_ok (settled : Settled s.stack) (some : segments ≠ [])
    (sent : ∃ more, Sent (s.stack.receive segments) s'.stack more) :
    ∃ s'', pbufFree s.stack.heap.size s' = .ok s'' ∧ Settled s''.stack ∧ s''.plain = s'.plain := by
  obtain ⟨more, sent⟩ := sent
  obtain ⟨heap, count, freed, settled'⟩ := settled.handled some sent
  refine ⟨{ s' with stack := { s'.stack with heap } }, ?_, settled', rfl⟩
  rw [pbufFree, freed]

/-- The first buffer of the chain, for the handlers that read no other. -/
theorem read_first {first : List UInt8} {rest : List (List UInt8)} :
    ∃ next, read (s.receive (first :: rest)) s.stack.heap.size = .ok ⟨first, next, 1⟩ := by
  obtain ⟨-, next, found, -⟩ := linked_receive s.stack.heap (first :: rest)
  exact ⟨next, read_of_get found⟩

/-- Without a callback nothing is reported. -/
theorem plainDeliver_silent {channel : Bare.Channel} (silent : channel.callback = false) :
    plainDeliver setup segments channel = (channel, []) := by
  induction segments with
  | nil => rfl
  | cons segment segments ih =>
    rw [plainDeliver, plainReport, if_neg (by rw [silent]; decide)]
    dsimp only
    rw [ih]
    rfl

/-- A handler does what the model says, and leaves the buffers settled. -/
def Handles (ran : Except Fault (State × List Output)) (expected : Plain × List Output) : Prop :=
  ∃ s', ran = .ok (s', expected.2) ∧ Settled s'.stack ∧ s'.plain = expected.1

/-- What is left to do when a handler has sent: it frees its chain. -/
theorem Handles.freed (settled : Settled s.stack) (some : segments ≠ []) {s₁ : State}
    {channel : Bare.Channel} {dhcp : DhcpServer} {outputs : List Output}
    (sent : ∃ more, Sent (s.stack.receive segments) s₁.stack more) (same : s₁.channel = channel)
    (same' : s₁.dhcp = dhcp) :
    Handles ((pbufFree s.stack.heap.size s₁).map fun s => (s, outputs))
      (⟨channel, dhcp⟩, outputs) := by
  obtain ⟨s₂, freed, settled', plain⟩ := pbufFree_ok settled some sent
  refine ⟨s₂, ?_, settled', ?_⟩
  · rw [freed]
    rfl
  · rw [plain, ← same, ← same']
    rfl

theorem recieveCallback_handles (positive : 0 < setup.tcpMss) (settled : Settled s.stack)
    (some : segments ≠ []) (addr : UInt32) (port : UInt16) :
    Handles (recieveCallback setup s.stack.heap.size addr port (s.receive segments))
      (plain setup s.plain (.channelReceives segments addr port)) := by
  let s₁ : State :=
    { s.receive segments with channel := { s.channel with dmSource := ⟨addr, port⟩ } }
  have linked := linked_receive s.stack.heap segments
  rw [if_neg some] at linked
  have reported : ∃ s', reportChain setup s.stack.heap.size s₁ =
        .ok (s', (plainDeliver setup segments s₁.channel).2) ∧
      Did s₁ s' (plainDeliver setup segments s₁.channel).1 := by
    rw [reportChain]
    cases callback : s₁.channel.callback with
    | false =>
      rw [plainDeliver_silent callback]
      exact ⟨s₁, rfl, .refl s₁⟩
    | true =>
      obtain ⟨s', ran, did⟩ := walk_ok (s := s₁) positive linked
        (Nat.lt_succ_of_le (linked.length_le nodup_chainLinks))
      rw [map_data_chainLinks] at ran did
      exact ⟨s', ran, did⟩
  obtain ⟨s', ran, did⟩ := reported
  rw [recieveCallback]
  change Handles (Except.bind (reportChain setup s.stack.heap.size s₁) _) _
  rw [ran]
  exact Handles.freed settled some did.sent did.channel did.dhcp

/-- A reply is sent, and the other buffers stay. -/
theorem sendReply_ok {α : Type} (keeps : Bool) (reply : Option α) (bytes : α → List UInt8)
    (output : α → List UInt8 → Output) (s : State) :
    ∃ s', sendReply keeps reply bytes output s =
        .ok (s', (reply.map fun reply => output reply (bytes reply)).toList) ∧
      Did s s' s.channel := by
  cases reply with
  | none => exact ⟨s, rfl, .refl s⟩
  | some reply =>
    obtain ⟨stack, more, ran, sent⟩ := sendBuffer_sent keeps (bytes reply) s.stack
    refine ⟨{ s with stack }, ?_, ⟨more, sent⟩, rfl, rfl⟩
    rw [sendReply, ran]
    rfl

theorem dhcpRecvProc_handles (settled : Settled s.stack) (some : segments ≠ []) (port : UInt16)
    (answer : Answer) :
    Handles (dhcpRecvProc s.stack.heap.size port answer (s.receive segments))
      (plain setup s.plain (.dhcpReceives segments port answer)) := by
  obtain ⟨first, rest, rfl⟩ := List.exists_cons_of_ne_nil some
  obtain ⟨next, readFirst⟩ := @read_first s first rest
  obtain ⟨dhcp, reply, handled⟩ : ∃ dhcp reply,
      DhcpServer.udpRecvProc s.dhcp ⟨first, port, answer.pbufAlloc⟩ = (dhcp, reply) := ⟨_, _, rfl⟩
  have handled' : DhcpServer.udpRecvProc (s.receive (first :: rest)).dhcp
      ⟨first, port, answer.pbufAlloc⟩ = (dhcp, reply) := handled
  obtain ⟨s', ran, did⟩ := sendReply_ok answer.keeps reply DhcpServer.Reply.payload
    (fun reply payload => .reply { reply with payload })
    { s.receive (first :: rest) with dhcp }
  rw [dhcpRecvProc, readFirst, plain, List.headD_cons, State.plain]
  dsimp only [bind, Except.bind]
  rw [handled, handled']
  dsimp only
  rw [ran]
  exact Handles.freed settled some did.sent did.channel did.dhcp

/-- The DNS server does not fault. -/
theorem dnsAnswer_ok {bytes : List UInt8} (fits : bytes.length ≤ 65507) (answer : Answer) :
    ∃ sent, dnsAnswer setup bytes answer = .ok sent := by
  rw [dnsAnswer, dif_pos fits, DnsServer.Bare.udpRecvProc]
  obtain ⟨question, received⟩ := DnsServer.receiveQuestion_ok (payloadOf bytes fits).payload
    setup.dns.hostNameMaxSize (payloadOf bytes fits).len
  rw [received]
  cases question with
  | none => exact ⟨_, rfl⟩
  | some question =>
    obtain ⟨len, query⟩ := question
    obtain ⟨-, inside⟩ := DnsServer.len_bounds received
    have small : len + 16 < 65536 := Nat.lt_of_le_of_lt (Nat.add_le_add_right inside 16) (by
      show bytes.length + 16 < 65536
      omega)
    dsimp only [bind, Except.bind]
    by_cases known : DnsServer.Bare.isHost setup.dns query
    · rw [if_pos known]
      cases answer.pbufAlloc with
      | false => exact ⟨none, rfl⟩
      | true =>
        rw [if_pos rfl]
        dsimp only
        rw [if_pos small]
        exact ⟨_, rfl⟩
    · rw [if_neg known]
      exact ⟨none, rfl⟩

theorem dnsRecvProc_handles (settled : Settled s.stack) {first : List UInt8}
    {rest : List (List UInt8)} (fits : first.length ≤ 65507) (answer : Answer) :
    Handles (dnsRecvProc setup s.stack.heap.size answer (s.receive (first :: rest)))
      (plain setup s.plain (.dnsReceives (first :: rest) answer)) := by
  obtain ⟨next, readFirst⟩ := @read_first s first rest
  obtain ⟨sent, answered⟩ := @dnsAnswer_ok setup first fits answer
  obtain ⟨s', ran, did⟩ := sendReply_ok answer.keeps sent id (fun _ payload => .response payload)
    (s.receive (first :: rest))
  rw [dnsRecvProc, readFirst, plain, List.headD_cons, answered]
  change Handles (Except.bind (dnsAnswer setup first answer) _) _
  rw [answered]
  change Handles (Except.bind (sendReply _ _ _ _ _) _) _
  rw [ran]
  exact Handles.freed settled (List.cons_ne_nil _ _) did.sent did.channel did.dhcp

end Handlers

/-! ### The channel's model -/

section Plain

variable (setup : Setup)

theorem plainActions_eq (list : List Action) (channel : Bare.Channel) :
    (plainActions setup list channel).1 =
        (list.filterMap Action.call?).foldl Bare.Channel.call channel ∧
      (plainActions setup list channel).2.filterMap Output.report? = [] := by
  induction list generalizing channel with
  | nil => exact ⟨rfl, rfl⟩
  | cons action rest ih =>
    cases action with
    | call called => exact ih (channel.call called)
    | tx buffer parameter lwip =>
      obtain ⟨calls, silent⟩ := ih channel
      refine ⟨calls, ?_⟩
      rw [plainActions, plainAct]
      dsimp only
      rw [List.filterMap_append, silent, List.append_nil, List.filterMap_map]
      exact List.filterMap_eq_nil_iff.mpr fun _ _ => rfl

/-- **Without the buffers it is the channel's model**: that one has the calls of the user, but not
what it sends in its callback. -/
theorem plainDeliver_eq (segments : List (List UInt8)) (channel : Bare.Channel) :
    (plainDeliver setup segments channel).1 =
        (Bare.deliver (fun report => (setup.user report).filterMap Action.call?) segments
          channel).1 ∧
      (plainDeliver setup segments channel).2.filterMap Output.report? =
        (Bare.deliver (fun report => (setup.user report).filterMap Action.call?) segments
          channel).2 := by
  induction segments generalizing channel with
  | nil => exact ⟨rfl, rfl⟩
  | cons segment segments ih =>
    rw [plainDeliver, plainReport, Bare.deliver]
    by_cases callback : channel.callback
    · obtain ⟨calls, silent⟩ :=
        plainActions_eq setup (setup.user ⟨segment, channel.dmSource⟩) channel
      rw [if_pos callback, if_pos callback]
      dsimp only
      rw [← calls]
      obtain ⟨same, reports⟩ :=
        ih (plainActions setup (setup.user ⟨segment, channel.dmSource⟩) channel).1
      refine ⟨same, ?_⟩
      rw [List.filterMap_append, List.filterMap_cons, silent, reports]
      rfl
    · rw [if_neg callback, if_neg callback]
      exact ih channel

end Plain

/-! ### Runs -/

section Runs

variable {setup : Setup}

/-- **One event.** -/
theorem exec_handles (positive : 0 < setup.tcpMss) {s : State} (settled : Settled s.stack)
    {event : Event} (enabled : Enabled s event) :
    Handles (exec setup s event) (plain setup s.plain event) := by
  cases event with
  | channelReceives segments addr port =>
    exact recieveCallback_handles positive settled enabled addr port
  | dhcpReceives segments port answer => exact dhcpRecvProc_handles settled enabled port answer
  | dnsReceives segments answer =>
    obtain ⟨first, rest, rfl, fits⟩ := enabled
    exact dnsRecvProc_handles settled fits answer
  | act action =>
    obtain ⟨s', ran, did⟩ := act_ok positive s action
    obtain ⟨more, sent⟩ := did.sent
    refine ⟨s', ran, settled.sent sent, ?_⟩
    rw [State.plain, did.channel, did.dhcp]
    rfl
  | releases i =>
    obtain ⟨heap, count, freed, settled'⟩ := settled.released enabled
    refine ⟨{ s with stack := ⟨heap, s.stack.kept.eraseIdx i⟩ }, ?_, settled', rfl⟩
    rw [exec, pbufFree, freed]
    rfl

theorem settled_empty : Settled ⟨.empty, []⟩ :=
  ⟨List.nodup_nil, nofun, fun _ allocated => absurd rfl allocated⟩

/-- **The UDP handlers leave no buffer behind.** In every run, whatever is received, sent and kept,
and whatever the user does in its callback: nothing faults, the buffers that are left are those that
lwIP keeps, each with one reference, and what is reported and sent is what the models say. -/
theorem handlers_settled (positive : 0 < setup.tcpMss) (channel : Bare.Channel) (dhcp : DhcpServer)
    {events : List Event} (admissible : Refinement.Admissible (exec setup) Enabled
      ⟨⟨.empty, []⟩, channel, dhcp⟩ events) :
    ∃ s, Refinement.answers (exec setup) ⟨⟨.empty, []⟩, channel, dhcp⟩ events =
        .ok ((Refinement.expected (plain setup) ⟨channel, dhcp⟩ events).1, s) ∧
      Settled s.stack ∧ s.plain = (Refinement.expected (plain setup) ⟨channel, dhcp⟩ events).2 := by
  refine Refinement.answers_of_simulation (R := fun s t => Settled s.stack ∧ s.plain = t)
    (fun s t event related enabled => ?_) ⟨settled_empty, rfl⟩ admissible
  obtain ⟨settled, rfl⟩ := related
  exact exec_handles positive settled enabled

/-- The user sends back what it receives, and lwIP keeps it. -/
def echoing : Setup :=
  ⟨2, DnsServer.sampleServer, fun report => [.tx report.data none fun _ => ⟨true, true⟩]⟩

def echoChannel : Bare.Channel := (Bare.construct none 7 none).call .initializeChannel

def echoStart : State := ⟨⟨.empty, []⟩, echoChannel, DhcpServer.sampleServer⟩

/-- Three buffers are sent back, and lwIP frees the second one; then a query comes that is none. -/
def echoEvents : List Event :=
  [.channelReceives [[1], [2, 3, 4]] 8 9, .releases 1, .dnsReceives [[1, 2], [3]] ⟨true, true⟩]

theorem handlers_settled_sample :
    ∃ s, Refinement.answers (exec echoing) echoStart echoEvents =
        .ok ((Refinement.expected (plain echoing) echoStart.plain echoEvents).1, s) ∧
      Settled s.stack ∧
      s.plain = (Refinement.expected (plain echoing) echoStart.plain echoEvents).2 := by
  refine handlers_settled (by decide) _ _ (.cons (List.cons_ne_nil _ _) rfl ?_)
  exact .cons (by decide : 1 < 3) rfl ⟨⟨_, _, rfl, by decide⟩, fun _ _ _ => trivial⟩

end Runs

end Jblib.Ethutilities.Datagrams
