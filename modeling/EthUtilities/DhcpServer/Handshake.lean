/-
**The DHCP handshake: discover, offer, request, acknowledge.**

* `DiscoverFrom`, `RequestFrom` — a client's packets, of full length. `requestedAddress_encoded`:
  what the server reads from the options of the second one.
* `granted_binds`, `granted_others`, `granted_again` — the lease table after an acknowledgement.
* **`handshake`** — a client that is offered an address and requests it gets it, keeps no other
  entry, disturbs no other client, and can renew it.
-/

import EthUtilities.DhcpServer.LeaseRuns

namespace Jblib.Ethutilities.DhcpServer

open Library

/-! ### The client's packets -/

/-- A `DHCP_DISCOVER` of full length from this hardware address. -/
structure DiscoverFrom (p : Packet) (mac : Mac) : Prop where
  full : dhcpTypeSize ≤ p.payload.length
  client : (p.payload.drop dpChaddr).take 6 = mac.val
  type : (p.payload.drop (dpOptions + 2)).take 1 = [dhcpDiscover]

/-- A `DHCP_REQUEST` of full length from this hardware address for this address: the options area
starts with the message type and further options, the first one of type 50 being the address. -/
structure RequestFrom (p : Packet) (mac : Mac) (yiaddr : Ip) : Prop where
  full : dhcpTypeSize ≤ p.payload.length
  client : (p.payload.drop dpChaddr).take 6 = mac.val
  options : ∃ options option rest, (p.payload.drop dpOptions).take dpOptionsSize =
    encodeOptions (⟨dhcpMessagetype, [dhcpRequest], show 1 < 256 by decide⟩ :: options) ++ rest ∧
    options.find? (·.code = dhcpIpaddress) = some option ∧ option.value = yiaddr.val

/-- The server answers the packet with a `DHCP_OFFER` of this address. -/
def Offers (s : DhcpServer) (p : Packet) (yiaddr : Ip) : Prop :=
  ∃ reply, (udpRecvProc s p).2 = some reply ∧ reply.msgType = [dhcpOffer] ∧
    reply.yiaddr = yiaddr.val

section Packets

variable {s : DhcpServer} {p : Packet} {mac : Mac} {yiaddr : Ip}

theorem hardwareAddress_received (full : dhcpTypeSize ≤ p.payload.length)
    (client : (p.payload.drop dpChaddr).take 6 = mac.val) :
    hardwareAddress (received s p) = mac :=
  Subtype.ext ((received_read full (by decide)).trans client)

/-- **The requested address**, read back from encoded options. -/
theorem requestedAddress_encoded {data : Buffer} {options : List DhcpOption} {option : DhcpOption}
    (held : data.Holds dpOptions (encodeOptions options))
    (inside : (encodeOptions options).length ≤ dpOptionsSize)
    (first : options.find? (·.code = dhcpIpaddress) = some option)
    (value : option.value = yiaddr.val) : requestedAddress data = some yiaddr := by
  have area : (data.shift dpOptions).Holds 0 (encodeOptions options) := Buffer.holds_shift.mpr held
  obtain ⟨ptr, found, here, _⟩ := findDhcpOption_encoded area inside first
  obtain ⟨_, length, bytes⟩ := here
  have four : option.value.length = 4 := by rw [value, yiaddr.property]
  have address : (data.shift dpOptions).field (ptr + 2) 4 = yiaddr := by
    refine Subtype.ext ?_
    have whole := Buffer.holds_iff_read.mp bytes
    rw [four, value] at whole
    exact whole
  rw [requestedAddress, found]
  dsimp only
  rw [length, four, address]
  rfl

/-- A request is understood as one, and asks for its address. -/
theorem RequestFrom.asks (request : RequestFrom p mac yiaddr) :
    Leasing (received s p) ∧ wanted (received s p) = some yiaddr := by
  obtain ⟨options, option, rest, area, first, value⟩ := request.options
  have read : (received s p).read dpOptions dpOptionsSize = _ :=
    (received_read request.full (by decide)).trans area
  have held : (received s p).Holds dpOptions ((received s p).read dpOptions dpOptionsSize) :=
    Buffer.holds_read
  rw [read, Buffer.holds_append] at held
  have inside := congrArg List.length read
  rw [Buffer.length_read, List.length_append] at inside
  have type : messageType (received s p) = dhcpRequest := held.1.2.2.1
  refine ⟨.inl type, ?_⟩
  rw [wanted, if_pos type]
  exact requestedAddress_encoded held.1 (by omega) first value

/-- What is offered is free for the client, and a discovery leaves the table alone. -/
theorem Offers.free (offers : Offers s p yiaddr) (discover : DiscoverFrom p mac) :
    (∃ i < s.config.numEntry, (s.config.entries i).addr = yiaddr ∧ FreeFor s.config mac i) ∧
      (dhcp.next s p).config = s.config := by
  obtain ⟨reply, sent, _, address⟩ := offers
  have outcome := udpRecvProc_outcome s p
  rw [sent] at outcome
  have type : messageType (received s p) = dhcpDiscover :=
    (List.cons.inj ((received_read (k := dpOptions + 2) (m := 1) discover.full
      (by decide)).trans discover.type)).1
  obtain ⟨i, inside, same, free⟩ := outcome.free
  rw [hardwareAddress_received discover.full discover.client] at free
  exact ⟨⟨i, inside, Subtype.ext (same.symm.trans address), free⟩, outcome.discover type⟩

end Packets

/-! ### The table after an acknowledgement -/

section Granted

variable {config : DhcpConfig} {mac : Mac} {i : Nat}

theorem granted_binds : ((granted config mac i).entries i).mac = mac := by
  show (granted config mac i).macs i = mac
  rw [macs_granted, Slots.occupy, Function.update_self]

/-- No other entry is bound to the client. -/
theorem granted_alone (unshared : Unshared config) (proper : mac ≠ noMac) {j : Nat}
    (inside : j < config.numEntry) (different : j ≠ i) :
    ((granted config mac i).entries j).mac ≠ mac := by
  show (granted config mac i).macs j ≠ mac
  rw [macs_granted, Slots.occupy, Function.update_of_ne different]
  exact unshared.released proper inside

/-- Every other client keeps what it has. -/
theorem granted_others (free : FreeFor config mac i) {other : Mac} (proper : other ≠ noMac)
    (different : other ≠ mac) (j : Nat) :
    ((granted config mac i).entries j).mac = other ↔ (config.entries j).mac = other := by
  show (granted config mac i).macs j = other ↔ config.macs j = other
  rw [macs_granted, Slots.occupy]
  by_cases here : j = i
  · subst here
    rw [Function.update_self]
    exact iff_of_false (Ne.symm different) fun holds => free.ne holds proper different rfl
  · rw [Function.update_of_ne here]
    constructor
    · intro holds
      rw [← holds, Slots.slot_of_release (holds.symm ▸ proper)]
    · intro holds
      rw [Slots.release_of_other (holds.symm ▸ different), holds]

/-- Granting the same entry again changes nothing. -/
theorem granted_again (unshared : Unshared config) (proper : mac ≠ noMac)
    (inside : i < config.numEntry) (holds : config.macs i = mac) : granted config mac i = config := by
  have found := (unshared.find_iff proper).mpr ⟨inside, holds⟩
  rw [granted_eq, macs_granted, Slots.release_of_find found, Slots.occupy, Function.update_idem,
    ← holds, Function.update_eq_self, DhcpConfig.withMacs_macs]

end Granted

/-! ### The handshake -/

/-- In a pool without repetitions an address is found at its entry. -/
theorem entryByIp_of_distinct {config : DhcpConfig} (distinct : ∀ i < config.numEntry,
      ∀ j < config.numEntry, (config.entries i).addr = (config.entries j).addr → i = j) {i : Nat}
    (inside : i < config.numEntry) : config.entryByIp (config.entries i).addr = some i := by
  obtain ⟨j, found⟩ : ∃ j, config.entryByIp (config.entries i).addr = some j :=
    Slots.search_isSome inside (decide_eq_true rfl)
  have same := distinct j (DhcpConfig.lt_of_entryByIp found) i inside
    (DhcpConfig.addr_of_entryByIp found)
  rw [← same] at found ⊢
  exact found

/-- A request that can be granted is. -/
theorem RequestFrom.granted {s : DhcpServer} {q : Packet} {mac : Mac} {yiaddr : Ip} {i : Nat}
    (request : RequestFrom q mac yiaddr) (grants : Grants s.config q mac yiaddr i) :
    Acks s q yiaddr mac ∧ (dhcp.next s q).config = DhcpServer.granted s.config mac i := by
  obtain ⟨leasing, wants⟩ := request.asks (s := s)
  have acks := acks_of_grants leasing wants
    (hardwareAddress_received request.full request.client) grants
  obtain ⟨j, grants', config⟩ := acks.granted
  obtain rfl := Option.some.inj (grants.inPool.symm.trans grants'.inPool)
  exact ⟨acks, config⟩

/-- **The handshake.** Whatever the server did before: a client that is offered an address and then
requests it is acknowledged that address. It is then bound to the entry of the address and to no
other one, every other client keeps what it had, and repeating the request is acknowledged again and
leaves the table as it is. -/
theorem handshake {s₀ : DhcpServer} (start : Constructed s₀) (packets : List Packet) {mac : Mac}
    (proper : mac ≠ noMac) {yiaddr : Ip} {p q : Packet} (discover : DiscoverFrom p mac)
    (offers : Offers (dhcp.run s₀ packets) p yiaddr) (request : RequestFrom q mac yiaddr)
    (memory : q.pbufAlloc = true) :
    let s := dhcp.run s₀ (packets ++ [p])
    let s' := dhcp.next s q
    Acks s q yiaddr mac ∧
    (∃ i, s'.config.entryByIp yiaddr = some i ∧ (s'.config.entries i).mac = mac ∧
      ∀ j < s'.config.numEntry, j ≠ i → (s'.config.entries j).mac ≠ mac) ∧
    (∀ other, other ≠ noMac → other ≠ mac → ∀ j,
      (s'.config.entries j).mac = other ↔ (s.config.entries j).mac = other) ∧
    Acks s' q yiaddr mac ∧ (dhcp.next s' q).config = s'.config := by
  intro s s'
  obtain ⟨⟨i, inside, rfl, free⟩, unchanged⟩ := offers.free discover
  have config : s.config = (dhcp.run s₀ packets).config := by
    show (dhcp.run s₀ (packets ++ [p])).config = _
    rw [Machine.run_append]
    exact unchanged
  obtain ⟨pool, unshared⟩ := run_invariant start.unshared packets
  have distinct : ∀ i < (dhcp.run s₀ packets).config.numEntry,
      ∀ j < (dhcp.run s₀ packets).config.numEntry, ((dhcp.run s₀ packets).config.entries i).addr =
        ((dhcp.run s₀ packets).config.entries j).addr → i = j := by
    rw [pool]
    exact start.distinct
  have inPool := entryByIp_of_distinct distinct inside
  rw [← config] at unshared inside free inPool request ⊢
  obtain ⟨acks, next⟩ := request.granted ⟨memory, inPool, free⟩
  -- after the acknowledgement the entry is the client's own, and so free for it again
  have binds : s'.config.macs i = mac := by
    show (dhcp.next s q).config.macs i = mac
    rw [next]
    exact granted_binds
  have unshared' : Unshared s'.config := (udpRecvProc_outcome s q).unshared unshared
  have numEntry : s'.config.numEntry = s.config.numEntry := by
    show (dhcp.next s q).config.numEntry = _
    rw [next, granted_eq]
    rfl
  have inPool' : s'.config.entryByIp (s.config.entries i).addr = some i := by
    show (dhcp.next s q).config.entryByIp _ = _
    rw [next, granted_eq, DhcpConfig.entryByIp_withMacs]
    exact inPool
  have inside' : i < s'.config.numEntry := numEntry ▸ inside
  have own : s'.config.entryByMac mac = some i :=
    (unshared'.find_iff proper).mpr ⟨inside', binds⟩
  obtain ⟨acks', next'⟩ := request.granted ⟨memory, inPool', .inr own⟩
  refine ⟨acks, ⟨i, inPool', binds, fun j inside different => ?_⟩, fun other named different j => ?_,
    acks', next'.trans (granted_again unshared' proper inside' binds)⟩
  · show ((dhcp.next s q).config.entries j).mac ≠ mac
    rw [next]
    exact granted_alone unshared proper (numEntry ▸ inside) different
  · show ((dhcp.next s q).config.entries j).mac = other ↔ _
    rw [next]
    exact granted_others free named different j

def sampleDiscover : Packet :=
  clientPacket (Bytes.zero 4) (sampleMac 1) [dhcpMessagetype, 1, dhcpDiscover]

def sampleRequest : Packet := clientPacket (Bytes.zero 4) (sampleMac 1)
  [dhcpMessagetype, 1, dhcpRequest, dhcpIpaddress, 4, 10, 0, 0, 2, dhcpEnd]

/-- A new client of the sample server. -/
theorem handshake_sample :
    Acks (dhcp.run sampleServer ([] ++ [sampleDiscover])) sampleRequest (sampleIp 2) (sampleMac 1) := by
  have discover : DiscoverFrom sampleDiscover (sampleMac 1) :=
    ⟨by decide +kernel, by decide +kernel, by decide +kernel⟩
  have offers : Offers (dhcp.run sampleServer []) sampleDiscover (sampleIp 2) :=
    ⟨(udpRecvProc sampleServer sampleDiscover).2.get (by decide +kernel), (Option.some_get _).symm,
      by decide +kernel, by decide +kernel⟩
  have request : RequestFrom sampleRequest (sampleMac 1) (sampleIp 2) :=
    ⟨by decide +kernel, by decide +kernel, [⟨dhcpIpaddress, [10, 0, 0, 2], by decide⟩],
      ⟨dhcpIpaddress, [10, 0, 0, 2], by decide⟩, dhcpEnd :: List.replicate 265 0,
      by decide +kernel, rfl, rfl⟩
  exact (handshake constructed_sampleServer [] (by decide) discover offers request rfl).1

end Jblib.Ethutilities.DhcpServer
