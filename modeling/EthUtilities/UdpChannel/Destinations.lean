/-
**Destinations of the two `UdpChannel`s.**

* `ntohs_htons`, `htons_eq_self_iff` — swapping twice gives the port back; swapping once does for
  equal bytes only.
* `Bare.tx_destination`, `Bare.tx_delivers` — where the datagrams of a message go, and that they
  carry all of it.
* `Bare.recieveCallback_source`, `Freertos.voidCallback_source` — the host that a callback gets is
  the sender; `Freertos.tx_reply`: an answer goes back to it.
* `RoundTrips` — a destination that was set is the one the getters return, and the one of `tx`.
* **`roundTrips_iff`** — on lwIP every destination round-trips, on sockets those with a port of two
  equal bytes: `getDestinationPort` returns the port as the socket has it.
-/

import EthUtilities.UdpChannel.Channels

namespace Jblib.Ethutilities

open Library

namespace UdpChannel

/-! ### The byte order of ports -/

theorem toNat_htons (port : UInt16) :
    (htons port).toNat = port.toNat % 256 * 256 + port.toNat / 256 := by
  have fits := port.toNat_lt
  have high : port.toNat / 256 < 2 ^ 8 := by omega
  have low : (port <<< 8).toNat = (port.toNat % 256) <<< 8 := by
    rw [UInt16.toNat_shiftLeft]
    show port.toNat <<< 8 % 65536 = _
    rw [Nat.shiftLeft_eq, Nat.shiftLeft_eq]
    omega
  have shifted : (port >>> 8).toNat = port.toNat / 256 := by
    rw [UInt16.toNat_shiftRight]
    exact Nat.shiftRight_eq_div_pow port.toNat 8
  rw [htons, UInt16.toNat_or, low, shifted, ← Nat.shiftLeft_add_eq_or_of_lt high, Nat.shiftLeft_eq]

theorem ntohs_htons (port : UInt16) : ntohs (htons port) = port := by
  have fits := port.toNat_lt
  have swapped := toNat_htons (htons port)
  rw [toNat_htons port] at swapped
  refine UInt16.toNat_inj.mp (swapped.trans ?_)
  omega

/-- High and low byte of a port. -/
def SameBytes (port : UInt16) : Prop := port.toNat / 256 = port.toNat % 256

instance (port : UInt16) : Decidable (SameBytes port) := inferInstanceAs (Decidable (_ = _))

theorem htons_eq_self_iff (port : UInt16) : htons port = port ↔ SameBytes port := by
  have fits := port.toNat_lt
  rw [← UInt16.toNat_inj, toNat_htons, SameBytes]
  omega

/-! ### The channel on lwIP -/

namespace Bare

section Sending

variable {channel : Channel} {tcpMss : Nat} {pbufAlloc : Nat → Bool} {target : UdpHost}

theorem txLoop_destination (fuel k : Nat) (data : List UInt8) :
    ∀ send ∈ channel.txLoop tcpMss pbufAlloc target fuel k data,
      send.datagram.destination = target := by
  induction fuel generalizing k data with
  | zero => exact fun send member => absurd member List.not_mem_nil
  | succ fuel ih =>
    rw [Channel.txLoop]
    split
    case isTrue some =>
      dsimp only
      split
      case isTrue allocated =>
        intro send member
        rcases List.mem_cons.mp member with rfl | member
        · rfl
        · exact ih _ _ send member
      case isFalse full => exact fun send member => absurd member List.not_mem_nil
    case isFalse done => exact fun send member => absurd member List.not_mem_nil

/-- All datagrams of a message go to its destination. -/
theorem tx_destination (buffer : List UInt8) (parameter : Option UdpHost) :
    ∀ send ∈ channel.tx tcpMss pbufAlloc buffer parameter,
      send.datagram.destination = parameter.getD ⟨channel.dstIpaddr, channel.dstPort⟩ := by
  cases parameter with
  | none => exact txLoop_destination _ _ buffer
  | some dstHost => exact txLoop_destination _ _ buffer

theorem txLoop_delivers (positive : 0 < tcpMss) (memory : ∀ k, pbufAlloc k = true) {fuel k : Nat}
    {data : List UInt8} (enough : data.length ≤ fuel) :
    (channel.txLoop tcpMss pbufAlloc target fuel k data).flatMap SendTo.payload = data := by
  induction fuel generalizing k data with
  | zero => exact (List.length_eq_zero_iff.mp (Nat.le_zero.mp enough)).symm
  | succ fuel ih =>
    by_cases some : 0 < data.length
    · have cut : min data.length tcpMss ≠ 0 := by omega
      have rest : (data.drop (min data.length tcpMss)).length ≤ fuel := by
        rw [List.length_drop]
        omega
      rw [Channel.txLoop, if_pos some, if_pos (memory k), List.flatMap_cons, ih rest]
      exact List.take_append_drop _ _
    · have none : data = [] := List.length_eq_zero_iff.mp (by omega)
      rw [Channel.txLoop, if_neg some, none]
      rfl

/-- **The loop of `tx` ends**, and the datagrams are the message if memory does not run out. -/
theorem tx_delivers (positive : 0 < tcpMss) (memory : ∀ k, pbufAlloc k = true)
    (buffer : List UInt8) (parameter : Option UdpHost) :
    (channel.tx tcpMss pbufAlloc buffer parameter).flatMap SendTo.payload = buffer :=
  txLoop_delivers positive memory (Nat.le_refl _)

end Sending

section Receiving

theorem calls_dmSource (calls : List Call) (channel : Channel) :
    (calls.foldl Channel.call channel).dmSource = channel.dmSource := by
  induction calls generalizing channel with
  | nil => rfl
  | cons call calls ih =>
    refine (ih (channel.call call)).trans ?_
    cases call <;> rfl

theorem deliver_source (user : Report → List Call) (segments : List (List UInt8))
    (channel : Channel) :
    ∀ report ∈ (deliver user segments channel).2, report.source = channel.dmSource := by
  induction segments generalizing channel with
  | nil => exact fun report member => absurd member List.not_mem_nil
  | cons segment segments ih =>
    rw [deliver]
    split
    case isTrue registered =>
      intro report member
      rcases List.mem_cons.mp member with rfl | member
      · rfl
      · exact (ih _ report member).trans (calls_dmSource _ channel)
    case isFalse removed => exact ih channel

/-- A callback is told the sender, whatever the calls before did with the channel. -/
theorem recieveCallback_source (user : Report → List Call) (p : List (List UInt8)) (addr : UInt32)
    (port : UInt16) (channel : Channel) :
    ∀ report ∈ (recieveCallback user p addr port channel).2, report.source = ⟨addr, port⟩ := by
  unfold recieveCallback
  dsimp only
  split
  · exact deliver_source user p _
  · exact fun report member => absurd member List.not_mem_nil

end Receiving

/-- A new channel has the destination of its constructor. -/
theorem construct_eq (dstIp : Option Buffer) (dstPort : UInt16) (netif : Option Nat) :
    construct dstIp dstPort netif =
      (construct none 0 netif).setDestination ⟨makeAddress dstIp, dstPort⟩ := rfl

end Bare

/-! ### The channel on sockets -/

namespace Freertos

/-- A callback is told the sender, with its port as a number. -/
theorem voidCallback_source (user : Report → List Call) (srcAddr : SockaddrIn)
    (rxBuffer : List UInt8) (channel : Channel) :
    ∀ report ∈ (voidCallback user (some (srcAddr, rxBuffer)) channel).2,
      report.source = ⟨srcAddr.sinAddr, ntohs srcAddr.sinPort⟩ := by
  unfold voidCallback
  dsimp only
  split
  · exact fun report member => congrArg Report.source (List.mem_singleton.mp member)
  · exact fun report member => absurd member List.not_mem_nil

/-- **An answer goes back to the sender.** -/
theorem tx_reply (user : Report → List Call) (srcAddr : SockaddrIn)
    (rxBuffer : List UInt8) (channel channel' : Channel) (buffer : List UInt8) :
    ∀ report ∈ (voidCallback user (some (srcAddr, rxBuffer)) channel).2,
      channel'.tx buffer (some report.source) =
        [⟨⟨pfInet, srcAddr.sinPort, srcAddr.sinAddr⟩, buffer⟩] := by
  intro report member
  have back : htons (ntohs srcAddr.sinPort) = srcAddr.sinPort := ntohs_htons srcAddr.sinPort
  rw [voidCallback_source user srcAddr rxBuffer channel report member, Channel.tx]
  dsimp only
  rw [back]

theorem tx_destination (channel : Channel) (buffer : List UInt8) (parameter : Option UdpHost) :
    ∀ send ∈ channel.tx buffer parameter, send.datagram.destination =
      parameter.getD ⟨channel.dstAddr.sinAddr, ntohs channel.dstAddr.sinPort⟩ := by
  intro send member
  rw [List.mem_singleton.mp member]
  cases parameter with
  | none => rfl
  | some dstHost =>
    show (⟨dstHost.host, ntohs (htons dstHost.port)⟩ : UdpHost) = dstHost
    rw [ntohs_htons]

/-- A new channel with a socket has the destination of its constructor. -/
theorem construct_eq (dstIp : Option Buffer) (dstPort : UInt16) :
    construct true dstIp dstPort =
      (construct true none 0).setDestination ⟨makeAddress dstIp, dstPort⟩ := rfl

end Freertos

/-! ### Round trips -/

/-- **A destination round-trips**: the getters return it, setting what they return changes nothing,
and `tx` sends to it, with a connection parameter or without. -/
structure RoundTrips (udp : Implementation) (channel : udp.Channel) (h : UdpHost) : Prop where
  host : udp.getDestinationHost (udp.setDestination channel h) = h.host
  port : udp.getDestinationPort (udp.setDestination channel h) = h.port
  unchanged : udp.setDestination (udp.setDestination channel h)
      ⟨udp.getDestinationHost (udp.setDestination channel h),
        udp.getDestinationPort (udp.setDestination channel h)⟩ = udp.setDestination channel h
  same : ∀ buffer, udp.tx (udp.setDestination channel h) buffer none =
    udp.tx (udp.setDestination channel h) buffer (some h)
  sent : ∀ buffer, ∀ datagram ∈ udp.tx (udp.setDestination channel h) buffer none,
    datagram.destination = h

theorem bare_roundTrips (tcpMss : Nat) (pbufAlloc : Nat → Bool) (channel : Bare.Channel)
    (h : UdpHost) : RoundTrips (bare tcpMss pbufAlloc) channel h where
  host := rfl
  port := rfl
  unchanged := rfl
  same _ := rfl
  sent buffer datagram member := by
    obtain ⟨send, sent, rfl⟩ := List.mem_map.mp member
    exact Bare.tx_destination buffer none send sent

theorem freertos_roundTrips_iff (channel : Freertos.Channel) (h : UdpHost) :
    RoundTrips freertos channel h ↔ SameBytes h.port := by
  rw [← htons_eq_self_iff]
  constructor
  · intro trips
    exact trips.port
  · intro same
    have unchanged : (channel.setDestination h).setDestination
        ⟨(channel.setDestination h).getDestinationHost,
          (channel.setDestination h).getDestinationPort⟩ = channel.setDestination h := by
      show channel.setDestination ⟨h.host, htons h.port⟩ = channel.setDestination h
      rw [same]
    exact {
      host := rfl
      port := same
      unchanged := unchanged
      same := fun _ => rfl
      sent := fun buffer datagram member => by
        obtain ⟨send, sent, rfl⟩ := List.mem_map.mp member
        refine (Freertos.tx_destination _ buffer none send sent).trans ?_
        show (⟨h.host, ntohs (htons h.port)⟩ : UdpHost) = h
        rw [ntohs_htons] }

/-- **Which destinations round-trip.** -/
theorem roundTrips_iff (tcpMss : Nat) (pbufAlloc : Nat → Bool) (platform : Platform)
    (channel : (implementation tcpMss pbufAlloc platform).Channel) (h : UdpHost) :
    RoundTrips (implementation tcpMss pbufAlloc platform) channel h ↔
      (platform = .freertos → SameBytes h.port) := by
  cases platform with
  | bare =>
    exact iff_of_true (bare_roundTrips tcpMss pbufAlloc channel h) fun other => by cases other
  | freertos =>
    exact (freertos_roundTrips_iff channel h).trans
      ⟨fun same _ => same, fun same => same rfl⟩

/-- A datagram from port 80, and the host that the callback is told as destination: the port that
`getDestinationPort` returns is 20480. -/
theorem reported_port_swapped :
    (Freertos.voidCallback (fun _ => []) (some (⟨Freertos.pfInet, 0x5000, 0x0700000A⟩, [1]))
        ⟨.zero, true, ⟨0, 0⟩⟩).2 = [⟨[1], ⟨0x0700000A, 80⟩⟩] ∧
      (Freertos.Channel.setDestination ⟨.zero, true, ⟨0, 0⟩⟩ ⟨0x0700000A, 80⟩).getDestinationPort =
        20480 ∧
      ¬ RoundTrips freertos (⟨.zero, true, ⟨0, 0⟩⟩ : Freertos.Channel) ⟨0x0700000A, 80⟩ :=
  ⟨by decide, by decide, fun trips => absurd trips.port (by decide)⟩

end UdpChannel

end Jblib.Ethutilities
