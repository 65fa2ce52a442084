/-
**A socket that two threads may close is closed once.**

* `Held` — an open channel has its descriptor; a closed one has left at most descriptor 0 from the
  channel that had its place before.
* `Acts` — a step of one channel does what the peer says; `tx_acts`, `wake_acts`.
* `Custody` — every channel is held, and an open one is polled by its thread.
* **`channels_serve`** — in every run in which no thread outlives its channel.
-/

import EthUtilities.Sockets.EndpointRuns
import EthUtilities.Sockets.VoidChannels

namespace Jblib.Ethutilities.UdpVoidChannel

open Library Sockets UdpChannel.Freertos

/-! ### One channel -/

/-- The channel without its descriptor. -/
def Channel.peer (c : Channel) : Peer := ⟨decide (0 ≤ c.socket), c.dstAddr⟩

/-- An open channel has its descriptor, and there is no other but 0. -/
structure Held (os : Os) (i : Nat) (c : Channel) : Prop where
  opened : 0 ≤ c.socket → os.sockets c.socket = some (.udpVoidChannel i)
  known : ∀ fd, os.sockets fd = some (.udpVoidChannel i) → fd = 0 ∨ 0 ≤ c.socket ∧ fd = c.socket

/-- A step of a channel: what the peer does, without a word about the others. -/
def Acts (i : Nat) (os : Os) (c : Channel) (ran : Except Fault (Os × Channel × List Output))
    (expected : Peer × List Output) : Prop :=
  ∃ os' c', ran = .ok (os', c', expected.2) ∧ (∃ share, os.Becomes os' (.udpVoidChannel i) share) ∧
    Held os' i c' ∧ c'.peer = expected.1 ∧ (c'.socket = c.socket ∨ c'.socket < 0)

section Channel

variable {i : Nat} {os os' os'' : Os} {c c' : Channel}

theorem Held.readdress (held : Held os i c) (dstAddr : SockaddrIn) :
    Held os i { c with dstAddr } := ⟨held.opened, held.known⟩

/-- A closed channel has nothing but what was left before. -/
theorem held_closed (closed : c.socket < 0)
    (left : ∀ fd, os.sockets fd = some (.udpVoidChannel i) → fd = 0) : Held os i c :=
  ⟨fun positive => absurd positive (Int.not_le.mpr closed), fun fd mine => .inl (left fd mine)⟩

theorem acts_none (held : Held os i c) : Acts i os c (.ok (os, c, [])) (c.peer, []) :=
  ⟨os, c, rfl, ⟨_, .refl os _⟩, held, rfl, .inl rfl⟩

theorem minus_one_neg : (-1 : Int) < 0 := by decide

theorem peer_of_closed (closed : c.socket < 0) : c.peer = ⟨false, c.dstAddr⟩ := by
  rw [Channel.peer, decide_eq_false (Int.not_le.mpr closed)]

/-- An open channel closes its socket. -/
theorem closes (held : Held os i c) (opened : 0 ≤ c.socket) :
    ∃ os', os.closesocket (.udpVoidChannel i) c.socket = .ok os' ∧
      (∃ share, os.Becomes os' (.udpVoidChannel i) share) ∧
      ∀ fd, os'.sockets fd = some (.udpVoidChannel i) → fd = 0 := by
  have mine : c.socket ∈ (os.share (.udpVoidChannel i)).sockets := held.opened opened
  obtain ⟨os', closed, becomes⟩ := Os.closesocket_becomes mine
  refine ⟨os', closed, ⟨_, becomes⟩, fun fd still => ?_⟩
  have left : fd ∈ (os'.share (.udpVoidChannel i)).sockets := still
  rw [becomes.self] at left
  exact (held.known fd left.1).resolve_right fun own => left.2 own.2

/-- **The socket is closed** and forgotten. -/
theorem close_acts (held : Held os i c) (opened : 0 ≤ c.socket) :
    Acts i os c ((os.closesocket (.udpVoidChannel i) c.socket).map fun os =>
      (os, { c with socket := -1 }, [])) ({ c.peer with isOpen := false }, []) := by
  obtain ⟨os', closed, becomes, left⟩ := closes held opened
  refine ⟨os', { c with socket := -1 }, ?_, becomes, held_closed minus_one_neg left, rfl,
    .inr minus_one_neg⟩
  rw [closed]
  rfl

theorem errorExit_acts (held : Held os i c) :
    Acts i os c (errorExit i c os) ({ c.peer with isOpen := false }, []) := by
  rw [errorExit]
  by_cases closed : c.socket < 0
  · rw [if_pos closed]
    refine ⟨os, { c with socket := -1 }, rfl, ⟨_, .refl os _⟩, held_closed minus_one_neg ?_, rfl,
      .inr minus_one_neg⟩
    exact fun fd mine => (held.known fd mine).resolve_right fun own =>
      Int.not_le.mpr closed own.1
  · rw [if_neg closed]
    exact close_acts held (Int.not_lt.mp closed)

/-- An open channel reaches its socket. -/
theorem access_ok (held : Held os i c) (opened : 0 ≤ c.socket) :
    os.access (.udpVoidChannel i) c.socket = .ok () := if_pos (held.opened opened)

theorem tx_acts (held : Held os i c) (call : Tx) :
    Acts i os c (tx i call c os) (c.peer.tx i call) := by
  have nothing := acts_none held
  rw [tx, Peer.tx]
  by_cases closed : c.socket < 0
  · rw [peer_of_closed closed] at nothing ⊢
    rw [if_pos closed]
    exact nothing
  · have opened := Int.not_lt.mp closed
    have free : c.peer.isOpen = true := decide_eq_true opened
    rw [if_neg closed, if_pos free, access_ok held opened]
    dsimp only [bind, Except.bind]
    cases call.result with
    | sent => exact ⟨os, c, rfl, ⟨_, .refl os _⟩, held, rfl, .inl rfl⟩
    | notConnected => exact nothing
    | failed => exact close_acts held opened

/-- **The calls of a callback.** -/
theorem txs_acts (held : Held os i c) (calls : List Tx) :
    Acts i os c (txs i calls c os) (c.peer.txs i calls) := by
  induction calls generalizing c os with
  | nil => exact acts_none held
  | cons call calls ih =>
    obtain ⟨os', c', ran, ⟨share, becomes⟩, held', peer, socket⟩ := tx_acts held call
    obtain ⟨os'', c'', ran', ⟨share', becomes'⟩, held'', peer', socket'⟩ := ih held'
    rw [peer] at ran' peer'
    refine ⟨os'', c'', ?_, ⟨share', becomes.trans becomes'⟩, held'', peer', ?_⟩
    · rw [txs, ran]
      dsimp only [bind, Except.bind]
      rw [ran']
      rfl
    · rcases socket' with same | closed
      · rwa [same]
      · exact .inr closed

theorem deliver_acts (held : Held os i c) (opened : 0 ≤ c.socket) (srcAddr : SockaddrIn)
    (data : List UInt8) (calls : Option (List Tx)) :
    Acts i os c (deliver i srcAddr data calls c os)
      (c.peer.wake i (.datagram srcAddr data calls)) := by
  have free : c.peer.isOpen = true := decide_eq_true opened
  cases calls with
  | none =>
    rw [Peer.wake, if_pos free]
    exact ⟨os, { c with dstAddr := srcAddr }, rfl, ⟨_, .refl os _⟩, held.readdress srcAddr, rfl,
      .inl rfl⟩
  | some calls =>
    obtain ⟨os', c', ran, becomes, held', peer, socket⟩ := txs_acts held calls
    rw [deliver, ran, Peer.wake, if_pos free]
    dsimp only
    rw [← peer]
    exact ⟨os', { c' with dstAddr := srcAddr }, rfl, becomes, held'.readdress srcAddr, rfl, socket⟩

/-- **The thread from `poll` to `poll`.** -/
theorem wake_acts (held : Held os i c) (result : Wake) :
    Acts i os c (wake i result c os) (c.peer.wake i result) := by
  by_cases closed : c.socket < 0
  · have nothing := acts_none held
    have exits := errorExit_acts held
    rw [peer_of_closed closed] at nothing exits ⊢
    cases result with
    | idle => exact nothing
    | pollFailed => exact exits
    | ioctlFailed | recvfromFailed | empty | datagram srcAddr data calls =>
      rw [wake, if_pos closed]
      exact exits
  · have opened := Int.not_lt.mp closed
    have free : c.peer.isOpen = true := decide_eq_true opened
    cases result with
    | datagram srcAddr data calls =>
      rw [wake, if_neg closed, access_ok held opened]
      exact deliver_acts held opened srcAddr data calls
    | idle =>
      rw [Peer.wake, if_pos free]
      exact acts_none held
    | pollFailed =>
      rw [Peer.wake, if_pos free]
      exact errorExit_acts held
    | empty =>
      rw [wake, if_neg closed, access_ok held opened, Peer.wake, if_pos free]
      exact acts_none held
    | ioctlFailed | recvfromFailed =>
      rw [wake, if_neg closed, access_ok held opened, Peer.wake, if_pos free]
      exact errorExit_acts held

end Channel

/-! ### The system -/

/-- A place without a channel has at most descriptor 0 left. -/
def Kept (os : Os) (i : Nat) : Option Channel → Prop
  | none => ∀ fd, os.sockets fd = some (.udpVoidChannel i) → fd = 0
  | some c => Held os i c

structure Custody (s : System) : Prop where
  valid : s.os.Valid
  kept : ∀ i, Kept s.os i (s.channels i)
  listens : ∀ i c, s.channels i = some c → 0 ≤ c.socket → s.polled i = some c.socket

/-- What the users see. -/
def System.peers (s : System) : Nat → Option Peer := fun i => (s.channels i).map Channel.peer

/-- The system does what the peers do, and keeps its custody. -/
def Serves (ran : Except Fault (System × List Output))
    (expected : (Nat → Option Peer) × List Output) : Prop :=
  ∃ s', ran = .ok (s', expected.2) ∧ Custody s' ∧ s'.peers = expected.1

section System

variable {s : System} {os : Os} {i : Nat}

/-- What is kept depends on the descriptors of the channel. -/
theorem Kept.congr {os' : Os} {c : Option Channel} (kept : Kept os i c)
    (same : os'.share (.udpVoidChannel i) = os.share (.udpVoidChannel i)) : Kept os' i c := by
  have sockets : ∀ fd, os'.sockets fd = some (.udpVoidChannel i) ↔
      os.sockets fd = some (.udpVoidChannel i) := fun fd =>
    Set.ext_iff.mp (congrArg Share.sockets same) fd
  cases c with
  | none => exact fun fd mine => kept fd ((sockets fd).mp mine)
  | some c =>
    exact ⟨fun opened => (sockets _).mpr (kept.opened opened),
      fun fd mine => kept.known fd ((sockets fd).mp mine)⟩

/-- One channel, and what is polled for it, changed. -/
theorem Custody.setChannel (custody : Custody s) {share : Share}
    (becomes : s.os.Becomes os (.udpVoidChannel i) share) {c : Option Channel} (kept : Kept os i c)
    {polled : Nat → Option Int} (others : ∀ j ≠ i, polled j = s.polled j)
    (listens : ∀ c', c = some c' → 0 ≤ c'.socket → polled i = some c'.socket) :
    Custody ⟨os, Function.update s.channels i c, polled⟩ where
  valid := becomes.valid custody.valid
  kept j := by
    show Kept os j (Function.update s.channels i c j)
    by_cases here : j = i
    · subst here
      rw [Function.update_self]
      exact kept
    · rw [Function.update_of_ne here]
      exact (custody.kept j).congr (becomes.frame (by simpa using here))
  listens j c' there opened := by
    change Function.update s.channels i c j = some c' at there
    by_cases here : j = i
    · subst here
      rw [Function.update_self] at there
      exact listens c' there opened
    · rw [Function.update_of_ne here] at there
      exact (others j here).trans (custody.listens j c' there opened)

theorem peers_update (os : Os) (channels : Nat → Option Channel) (i : Nat) (c : Option Channel)
    (polled : Nat → Option Int) :
    (⟨os, Function.update channels i c, polled⟩ : System).peers =
      Function.update (fun j => (channels j).map Channel.peer) i (c.map Channel.peer) :=
  funext fun j => Function.apply_update (fun _ => Option.map Channel.peer) channels i c j

/-- **A step of one channel** is a step of its peer. -/
theorem onChannel_serves (custody : Custody s)
    {function : Channel → Os → Except Fault (Os × Channel × List Output)}
    {spec : Peer → Peer × List Output} (there : s.channels i ≠ none)
    (acts : ∀ c, Held s.os i c → Acts i s.os c (function c s.os) (spec c.peer)) :
    Serves (onChannel s i function) (onPeer s.peers i spec) := by
  obtain ⟨c, there⟩ := Option.ne_none_iff_exists'.mp there
  have held : Kept s.os i (s.channels i) := custody.kept i
  rw [there] at held
  obtain ⟨os', c', ran, ⟨share, becomes⟩, held', peer, socket⟩ := acts c held
  have seen : s.peers i = some c.peer := by
    rw [System.peers, there]
    rfl
  rw [onChannel, there, onPeer, seen]
  dsimp only
  rw [ran]
  refine ⟨_, rfl, custody.setChannel (c := some c') becomes held' (fun _ _ => rfl) ?_, ?_⟩
  · intro c'' same opened
    obtain rfl := Option.some.inj same
    rcases socket with socket | closed
    · rw [socket] at opened ⊢
      exact custody.listens i c there opened
    · exact absurd opened (Int.not_le.mpr closed)
  · rw [peers_update, ← peer]
    rfl

/-- The thread of a closed channel ends. -/
theorem Custody.loop (custody : Custody s) (i : Nat) : Custody (loop s i) := by
  rw [UdpVoidChannel.loop]
  cases there : s.channels i with
  | none => exact custody
  | some c =>
    dsimp only
    by_cases closed : c.socket < 0
    · rw [if_pos closed]
      refine ⟨custody.valid, custody.kept, fun j c' there' opened => ?_⟩
      have other : j ≠ i := by
        rintro rfl
        obtain rfl := Option.some.inj (there.symm.trans there')
        exact Int.not_le.mpr closed opened
      exact (Function.update_of_ne other _ _).trans (custody.listens j c' there' opened)
    · rw [if_neg closed]
      exact custody

theorem peers_loop (s : System) (i : Nat) : (loop s i).peers = s.peers := by
  rw [loop]
  split
  · split <;> rfl
  · rfl

/-- What a new channel has. -/
theorem held_construct {opening : Opening} (left : Kept s.os i none) (fresh : opening.Fresh s.os)
    (becomes : s.os.Becomes os (.udpVoidChannel i)
      (opening.opened (s.os.share (.udpVoidChannel i)))) :
    Held os i ⟨opening.descriptor, .zero⟩ := by
  have mine : ∀ fd, os.sockets fd = some (.udpVoidChannel i) ↔
      fd ∈ (opening.opened (s.os.share (.udpVoidChannel i))).sockets := fun fd => by
    rw [← becomes.self]
    rfl
  cases opening with
  | noSocket => exact held_closed minus_one_neg fun fd own => left fd ((mine fd).mp own)
  | notBound fd => exact held_closed minus_one_neg fun fd own => left fd ((mine fd).mp own)
  | bound fd =>
    refine ⟨fun _ => (mine fd).mpr (Set.mem_insert fd _), fun other own => ?_⟩
    rcases (mine other).mp own with same | before
    · exact .inr ⟨fresh.1, same⟩
    · exact .inl (left other before)

theorem descriptor_isOpen {opening : Opening} (fresh : opening.Fresh os) :
    decide (0 ≤ opening.descriptor) = opening.isBound := by
  cases opening with
  | noSocket => rfl
  | notBound fd => rfl
  | bound fd => exact decide_eq_true fresh.1

theorem construct_serves (custody : Custody s) {opening : Opening} (absent : s.channels i = none)
    (fresh : opening.Fresh s.os) :
    Serves (exec s (.construct i opening)) (serve s.peers (.construct i opening)) := by
  have left : Kept s.os i (s.channels i) := custody.kept i
  rw [absent] at left
  obtain ⟨os, opened, becomes⟩ := openSocket_becomes fresh (.udpVoidChannel i)
  rw [exec, construct, opened]
  refine ⟨_, rfl, custody.setChannel (c := some ⟨opening.descriptor, .zero⟩) becomes
    (held_construct left fresh becomes) (fun j other => Function.update_of_ne other _ _) ?_, ?_⟩
  · intro c same positive
    obtain rfl := Option.some.inj same
    rw [Function.update_self]
    exact if_neg (Int.not_lt.mpr positive)
  · rw [peers_update, serve, Option.map_some, Channel.peer, descriptor_isOpen fresh]
    rfl

theorem destruct_serves (custody : Custody s) (there : s.channels i ≠ none) :
    Serves (exec s (.destruct i)) (serve s.peers (.destruct i)) := by
  obtain ⟨c, there⟩ := Option.ne_none_iff_exists'.mp there
  have held : Kept s.os i (s.channels i) := custody.kept i
  rw [there] at held
  have closed : ∃ os share, (if 0 < c.socket then
      s.os.closesocket (.udpVoidChannel i) c.socket else .ok s.os) = .ok os ∧
        s.os.Becomes os (.udpVoidChannel i) share ∧ Kept os i none := by
    by_cases positive : 0 < c.socket
    · obtain ⟨os, closed, ⟨share, becomes⟩, left⟩ := closes held positive.le
      exact ⟨os, share, (if_pos positive).trans closed, becomes, left⟩
    · refine ⟨s.os, _, if_neg positive, .refl s.os _, fun fd mine => ?_⟩
      rcases held.known fd mine with zero | ⟨proper, same⟩
      · exact zero
      · omega
  obtain ⟨os, share, closed, becomes, left⟩ := closed
  refine ⟨_, ?_, custody.setChannel (c := none) becomes left (fun _ _ => rfl) nofun,
    peers_update _ _ _ _ _⟩
  rw [exec, destruct, there]
  dsimp only
  rw [closed]
  rfl

theorem wake_serves (custody : Custody s) (there : s.channels i ≠ none) (result : Wake) :
    Serves (exec s (.wake i result)) (serve s.peers (.wake i result)) := by
  obtain ⟨s', ran, custody', peers⟩ := @onChannel_serves s i custody (wake i result)
    (fun peer => peer.wake i result) there fun c held => wake_acts held result
  refine ⟨loop s' i, ?_, custody'.loop i, (peers_loop s' i).trans peers⟩
  rw [exec, ran]
  rfl

/-- The rest of the program did something. -/
theorem Custody.setOther (custody : Custody s) {share : Share}
    (becomes : s.os.Becomes os .other share) : Custody { s with os } where
  valid := becomes.valid custody.valid
  kept i := (custody.kept i).congr (becomes.frame (by simp))
  listens := custody.listens

end System

/-! ### Runs -/

section Runs

/-- **One event.** -/
theorem exec_serves {s : System} (custody : Custody s) {event : Event} (enabled : Enabled s event) :
    Serves (exec s event) (serve s.peers event) := by
  cases event with
  | construct i opening => exact construct_serves custody enabled.1 enabled.2.2
  | destruct i => exact destruct_serves custody enabled
  | tx i call => exact onChannel_serves custody enabled fun c held => tx_acts held call
  | wake i result => exact wake_serves custody enabled.2 result
  | otherOpens fd =>
    exact ⟨_, rfl, custody.setOther (s.os.socket_becomes enabled .other), rfl⟩
  | otherCloses fd =>
    have held : fd ∈ (s.os.share .other).sockets := enabled
    obtain ⟨os, closed, becomes⟩ := Os.closesocket_becomes held
    refine ⟨{ s with os }, ?_, custody.setOther becomes, rfl⟩
    rw [exec, closed]
    rfl

theorem custody_initial : Custody initial := ⟨nofun, fun _ => nofun, nofun⟩

/-- **A socket that two threads may close is closed once.** In every run in which no thread outlives
its channel, whichever of the threads finds an error first: nothing is closed, received from or sent
on that is not the channel's own, every open channel is polled by its thread, and what is sent and
reported is what the peers say. -/
theorem channels_serve {events : List Event}
    (admissible : Refinement.Admissible exec Enabled initial events) :
    ∃ s, Refinement.answers exec initial events =
        .ok ((Refinement.expected serve (fun _ => none) events).1, s) ∧
      Custody s ∧ s.peers = (Refinement.expected serve (fun _ => none) events).2 := by
  refine Refinement.answers_of_simulation (R := fun s t => Custody s ∧ s.peers = t)
    (fun s t event related enabled => ?_) ⟨custody_initial, rfl⟩ admissible
  obtain ⟨custody, rfl⟩ := related
  exact exec_serves custody enabled

/-- The callback of channel 0 answers. When the same datagram comes again the answer fails, and the
thread ends. Then the rest of the program gets the descriptor, and closes it itself. -/
def failingAnswer : List Event :=
  [.construct 0 (.bound 60), .wake 0 (.datagram ⟨2, 80, 7⟩ [1] (some [⟨[1], none, .sent⟩])),
    .wake 0 (.datagram ⟨2, 80, 7⟩ [1] (some [⟨[1], none, .failed⟩])), .otherOpens 60,
    .tx 0 ⟨[3], none, .sent⟩, .otherCloses 60, .destruct 0]

theorem channels_serve_sample :
    ∃ s, Refinement.answers exec initial failingAnswer =
        .ok ((Refinement.expected serve (fun _ => none) failingAnswer).1, s) ∧
      Custody s ∧ s.peers = (Refinement.expected serve (fun _ => none) failingAnswer).2 := by
  refine channels_serve ?_
  refine .cons ⟨rfl, rfl, by decide, rfl⟩ rfl (.cons ⟨?_, ?_⟩ rfl (.cons ⟨?_, ?_⟩ rfl ?_))
  · exact Option.some_ne_none _
  · exact Option.some_ne_none _
  · exact Option.some_ne_none _
  · exact Option.some_ne_none _
  refine .cons ⟨by decide, rfl⟩ rfl (.cons (Option.some_ne_none _) rfl (.cons rfl rfl ?_))
  exact .cons (Option.some_ne_none _) rfl trivial

end Runs

end Jblib.Ethutilities.UdpVoidChannel
