/-
**The lease table over whole runs of the DHCP server.**

* `Outcome.withMacs`, `.unshared`, `.free`, `.keeps` — what every packet keeps, one case for each
  way it can end. `run_invariant`, `run_keeps` — the same for runs.
* `constructed_construct` — the constructor's state.
* **`lease_table_invariant`** — over whole runs: the pool stays, no hardware address has two
  entries, what is offered or acknowledged was vacant or the client's own.
* **`acked_exclusively_iff`** — an acknowledged address is not acknowledged to another client before
  the first one asks again, exactly if the first client's hardware address is not zero.
-/

import EthUtilities.DhcpServer.Leases

namespace Jblib.Ethutilities.DhcpServer

open Library

/-! ### What every packet keeps -/

theorem macs_granted (config : DhcpConfig) (mac : Mac) (i : Nat) : (granted config mac i).macs =
    Slots.occupy (Slots.release noMac config.numEntry config.macs mac) i mac := by
  rw [granted, DhcpConfig.setMac_eq, DhcpConfig.macs_withMacs, DhcpConfig.macs_freeRegistered]

theorem granted_eq (config : DhcpConfig) (mac : Mac) (i : Nat) :
    granted config mac i = config.withMacs (granted config mac i).macs := by
  rw [granted, DhcpConfig.setMac_eq, DhcpConfig.macs_withMacs, DhcpConfig.freeRegistered_eq]
  rfl

/-- No hardware address is in two entries. -/
def Unshared (config : DhcpConfig) : Prop := Slots.Exclusive noMac config.numEntry config.macs

section Kept

variable {config config' : DhcpConfig} {p : Packet} {data : Buffer} {reply : Option Reply}

/-- A packet changes nothing but hardware addresses. -/
theorem Outcome.withMacs (outcome : Outcome config p data config' reply) :
    config' = config.withMacs config'.macs := by
  cases outcome with
  | ignored | offered => rfl
  | refused => rw [DhcpConfig.freeRegistered_eq, DhcpConfig.macs_withMacs]
  | acknowledged => exact granted_eq _ _ _

theorem Outcome.unshared (outcome : Outcome config p data config' reply)
    (unshared : Unshared config) : Unshared config' := by
  cases outcome with
  | ignored | offered => exact unshared
  | refused =>
    rw [Unshared, DhcpConfig.freeRegistered_eq]
    exact unshared.release
  | acknowledged ip i =>
    rw [granted_eq, Unshared, DhcpConfig.macs_withMacs, macs_granted]
    exact unshared.release.occupy fun proper j inside => unshared.released proper inside

/-- What is offered or acknowledged is the address of an entry that is free for the client. -/
theorem Outcome.free {sent : Reply} (outcome : Outcome config p data config' (some sent)) :
    ∃ i < config.numEntry, sent.yiaddr = (config.entries i).addr.val ∧
      FreeFor config (hardwareAddress data) i := by
  cases outcome with
  | offered i reply _ inside free isReply => exact ⟨i, inside, (isReply.sendReply p).2.1, free⟩
  | acknowledged ip i reply _ _ grants isReply =>
    refine ⟨i, DhcpConfig.lt_of_entryByIp grants.inPool, ?_, grants.free⟩
    rw [DhcpConfig.addr_of_entryByIp grants.inPool]
    exact (isReply.sendReply p).2.1

theorem Outcome.discover (outcome : Outcome config p data config' reply)
    (type : messageType data = dhcpDiscover) : config' = config := by
  have notLeasing : ¬ Leasing data := by
    rintro (other | other) <;> exact absurd (type.symm.trans other) (by decide)
  cases outcome with
  | ignored | offered => rfl
  | refused _ leasing => exact absurd leasing notLeasing
  | acknowledged _ _ _ leasing => exact absurd leasing notLeasing

/-- An entry that is free for one client is not another one's. -/
theorem FreeFor.ne {mac other : Mac} {i j : Nat} (free : FreeFor config mac i)
    (holds : config.macs j = other) (proper : other ≠ noMac) (different : other ≠ mac) : j ≠ i := by
  rintro rfl
  rcases free with vacant | own
  · exact proper (holds.symm.trans (DhcpConfig.isVacant_iff.mp vacant))
  · exact different (holds.symm.trans (Slots.slot_of_find own))

/-- **A lease stays** while no `DHCP_REQUEST` or `DHCP_INFORM` comes from its client. -/
theorem Outcome.keeps (outcome : Outcome config p data config' reply) {mac : Mac} {i : Nat}
    (holds : config.macs i = mac) (proper : mac ≠ noMac)
    (silent : Leasing data → hardwareAddress data ≠ mac) : config'.macs i = mac := by
  cases outcome with
  | ignored | offered => exact holds
  | refused _ leasing =>
    rw [DhcpConfig.macs_freeRegistered, Slots.release_of_other, holds]
    rw [holds]
    exact (silent leasing).symm
  | acknowledged ip j _ leasing _ grants =>
    have different := (silent leasing).symm
    rw [macs_granted, Slots.occupy,
      Function.update_of_ne (grants.free.ne holds proper different), Slots.release_of_other, holds]
    rw [holds]
    exact different

end Kept

/-! ### Construction -/

/-- The server as its constructor leaves it, with a pool without repetitions. -/
structure Constructed (s : DhcpServer) : Prop where
  vacant : ∀ i < s.config.numEntry, s.config.macs i = noMac
  distinct : ∀ i < s.config.numEntry, ∀ j < s.config.numEntry,
    (s.config.entries i).addr = (s.config.entries j).addr → i = j
  cleared : s.dhcpData = fun _ => 0

theorem Constructed.unshared {s : DhcpServer} (start : Constructed s) : Unshared s.config :=
  fun i inside _ _ _ proper => absurd (start.vacant i inside) proper

theorem toNat_skip_le {c : UInt8} (own : Prop) [Decidable own] (positive : 0 < c.toNat) :
    (if own then c - 1 else c).toNat ≤ c.toNat := by
  by_cases skip : own
  · rw [if_pos skip, UInt8.toNat_sub_of_le c 1 (UInt8.le_iff_toNat_le.mpr positive)]
    exact Nat.sub_le _ _
  · exact Nat.le_of_eq (congrArg UInt8.toNat (if_neg skip))

/-- The constructor's loop leaves the entries it counts vacant. -/
theorem poolLoop_vacant {addr : Ip} {fuel i : Nat} {startIp ipCount : UInt8}
    {entries : Nat → DhcpEntry} (before : ∀ j < i, (entries j).mac = noMac)
    (enough : ipCount.toNat ≤ i + fuel) :
    ∀ j < (poolLoop addr fuel i startIp ipCount entries).1.toNat,
      ((poolLoop addr fuel i startIp ipCount entries).2 j).mac = noMac := by
  induction fuel generalizing i startIp ipCount entries with
  | zero => exact fun j inside => before j (Nat.lt_of_lt_of_le inside enough)
  | succ fuel ih =>
    rw [poolLoop]
    by_cases more : i < ipCount.toNat
    · rw [if_pos more]
      refine ih (fun j written => ?_) ?_
      · by_cases here : j = i
        · rw [here, Function.update_self]
          rfl
        · rw [Function.update_of_ne here]
          exact before j (by omega)
      · have fewer := toNat_skip_le (c := ipCount)
          (startIp.toNat + i = (addr.val.getD 3 0).toNat) (by omega)
        omega
    · rw [if_neg more]
      exact fun j inside => before j (Nat.lt_of_lt_of_le inside (Nat.le_of_not_lt more))

/-- **The constructor's state**, whenever its pool has no repetitions. -/
theorem constructed_construct {ipAddr : UInt32} {domain : Option Domain} {startIp ipCount : UInt8}
    {malloc : Option (Nat → DhcpEntry)} {s : DhcpServer}
    (built : construct ipAddr domain startIp ipCount malloc = some s)
    (distinct : ∀ i < s.config.numEntry, ∀ j < s.config.numEntry,
      (s.config.entries i).addr = (s.config.entries j).addr → i = j) : Constructed s := by
  unfold construct at built
  dsimp only at built
  cases malloc with
  | none => cases built
  | some entries =>
    dsimp only at built
    by_cases zero : ipCount = 0
    · rw [if_pos zero] at built
      cases built
    · rw [if_neg zero] at built
      obtain rfl := Option.some.inj built
      exact ⟨poolLoop_vacant (fun j inside => absurd inside (Nat.not_lt_zero j))
        (Nat.le_of_eq (Nat.zero_add _).symm), distinct, rfl⟩

/-- The sample server's pool has no repetitions. -/
theorem constructed_sampleServer : Constructed sampleServer :=
  constructed_construct (Option.some_get rfl).symm (by decide)

/-! ### Runs -/

/-- After any packets the configuration is the first one with other hardware addresses, and no
hardware address is in two entries. -/
theorem run_invariant {s₀ : DhcpServer} (unshared : Unshared s₀.config) (packets : List Packet) :
    (dhcp.run s₀ packets).config = s₀.config.withMacs (dhcp.run s₀ packets).config.macs ∧
      Unshared (dhcp.run s₀ packets).config := by
  have valid : ∀ s, dhcp.Valid s packets := by
    induction packets with
    | nil => exact fun _ => trivial
    | cons p packets ih => exact fun s => ⟨trivial, ih _⟩
  refine (dhcp.states_of_step (P := fun s => s.config = s₀.config.withMacs s.config.macs ∧
    Unshared s.config) (fun s p kept _ => ⟨?_, ?_⟩) ⟨rfl, unshared⟩ (valid s₀)).last
  · have step := (udpRecvProc_outcome s p).withMacs
    rw [kept.1, DhcpConfig.withMacs_withMacs] at step
    exact step
  · exact (udpRecvProc_outcome s p).unshared kept.2

/-- **The lease table over whole runs.** Whatever packets the server received since its
construction: the pool is as it was constructed, and no hardware address has two entries. The next
packet is only offered or acknowledged an address whose entry was vacant or its sender's own, and a
`DHCP_DISCOVER` changes no entry. -/
theorem lease_table_invariant {s₀ : DhcpServer} (start : Constructed s₀) (packets : List Packet)
    (p : Packet) :
    let s := dhcp.run s₀ packets
    (s.config.numEntry = s₀.config.numEntry ∧ ∀ i,
      (s.config.entries i).addr = (s₀.config.entries i).addr ∧
      (s.config.entries i).subnet = (s₀.config.entries i).subnet ∧
      (s.config.entries i).lease = (s₀.config.entries i).lease) ∧
    (∀ mac, mac ≠ noMac → ∀ i < s.config.numEntry, ∀ j < s.config.numEntry,
      (s.config.entries i).mac = mac → (s.config.entries j).mac = mac → i = j) ∧
    (∀ reply, (udpRecvProc s p).2 = some reply → ∃ i < s.config.numEntry,
      reply.yiaddr = (s.config.entries i).addr.val ∧
      (s.config.isVacant i = true ∨ (s.config.entries i).mac = hardwareAddress (received s p))) ∧
    (messageType (received s p) = dhcpDiscover →
      (udpRecvProc s p).1.config.entries = s.config.entries) := by
  intro s
  obtain ⟨pool, unshared⟩ := run_invariant start.unshared packets
  refine ⟨?_, fun mac proper i inside j inside' here there => ?_, fun reply sent => ?_,
    fun type => ?_⟩
  · have same : s.config = s₀.config.withMacs s.config.macs := pool
    rw [same]
    exact ⟨rfl, fun i => ⟨rfl, rfl, rfl⟩⟩
  · exact unshared i inside j inside' (here.trans there.symm)
      fun vacant => proper (here.symm.trans vacant)
  · have outcome := udpRecvProc_outcome s p
    rw [sent] at outcome
    obtain ⟨i, inside, yiaddr, free⟩ := outcome.free
    exact ⟨i, inside, yiaddr, free.imp_right Slots.slot_of_find⟩
  · rw [(udpRecvProc_outcome s p).discover type]

/-- Two clients ask for an address each. -/
def twoClients : List Packet :=
  [informPacket (sampleIp 3) (sampleMac 1), informPacket (sampleIp 2) (sampleMac 2)]

/-- Both have a lease then. The second one is answered again with the address it has. -/
theorem lease_table_invariant_sample : ∃ s, dhcp.run sampleServer twoClients = s ∧
    s.config.numEntry = 2 ∧
    (∀ i, (s.config.entries i).addr = (sampleServer.config.entries i).addr) ∧
    (s.config.entries 0).mac = sampleMac 2 ∧ (s.config.entries 1).mac = sampleMac 1 ∧
    (∀ i < 2, (s.config.entries i).mac = sampleMac 1 → i = 1) ∧
    ∀ reply, (udpRecvProc s (informPacket (sampleIp 2) (sampleMac 2))).2 = some reply →
      ∃ i < 2, reply.yiaddr = (s.config.entries i).addr.val ∧
        (s.config.isVacant i = true ∨ (s.config.entries i).mac = sampleMac 2) := by
  obtain ⟨⟨counted, pool⟩, unshared, free, -⟩ := lease_table_invariant constructed_sampleServer
    twoClients (informPacket (sampleIp 2) (sampleMac 2))
  have two : sampleServer.config.numEntry = 2 := by decide +kernel
  have second : ((dhcp.run sampleServer twoClients).config.entries 1).mac = sampleMac 1 := by
    decide +kernel
  have sender : hardwareAddress (received (dhcp.run sampleServer twoClients)
      (informPacket (sampleIp 2) (sampleMac 2))) = sampleMac 2 := by decide +kernel
  rw [counted, two] at unshared free
  rw [sender] at free
  refine ⟨_, rfl, counted.trans two, fun i => (pool i).1, by decide +kernel, second,
    fun i inside there => ?_, free⟩
  exact unshared _ (by decide) i inside 1 (by decide) there second

/-! ### Acknowledged addresses -/

/-- The server answers the packet with a `DHCP_ACK` of this address to this hardware address. -/
def Acks (s : DhcpServer) (p : Packet) (yiaddr : Ip) (mac : Mac) : Prop :=
  ∃ reply, (udpRecvProc s p).2 = some reply ∧ reply.msgType = [dhcpAck] ∧
    reply.yiaddr = yiaddr.val ∧ reply.chaddr = mac.val

/-- The packet is handled as a `DHCP_REQUEST` or `DHCP_INFORM` with this hardware address. -/
def Carries (s : DhcpServer) (p : Packet) (mac : Mac) : Prop :=
  Leasing (received s p) ∧ hardwareAddress (received s p) = mac

/-- What an acknowledgement means for the table. -/
theorem Acks.granted {s : DhcpServer} {p : Packet} {yiaddr : Ip} {mac : Mac}
    (acks : Acks s p yiaddr mac) : ∃ i, Grants s.config p mac yiaddr i ∧
      (udpRecvProc s p).1.config = DhcpServer.granted s.config mac i := by
  obtain ⟨reply, sent, type, yiaddrs, chaddrs⟩ := acks
  have outcome := udpRecvProc_outcome s p
  rw [sent] at outcome
  generalize (udpRecvProc s p).1.config = config' at outcome ⊢
  cases outcome with
  | offered i data _ _ _ isReply =>
    exact absurd (type.symm.trans (isReply.sendReply p).1) (by decide)
  | acknowledged ip i data _ _ grants isReply =>
    obtain ⟨_, address, client⟩ := isReply.sendReply p
    obtain rfl : ip = yiaddr := Subtype.ext (address.symm.trans yiaddrs)
    have same : hardwareAddress (received s p) = mac := Subtype.ext (client.symm.trans chaddrs)
    rw [same] at grants ⊢
    exact ⟨i, grants, rfl⟩

theorem acks_of_grants {s : DhcpServer} {p : Packet} {yiaddr : Ip} {mac : Mac} {i : Nat}
    (leasing : Leasing (received s p)) (wants : wanted (received s p) = some yiaddr)
    (client : hardwareAddress (received s p) = mac) (grants : Grants s.config p mac yiaddr i) :
    Acks s p yiaddr mac := by
  obtain rfl := client
  obtain ⟨clearCiaddr, result⟩ := udpRecvProc_wanted leasing wants
  obtain ⟨data, isReply, acked⟩ :=
    acknowledge_granted (s := { s with dhcpData := received s p }) clearCiaddr grants
  obtain ⟨type, address, chaddr⟩ := isReply.sendReply p
  exact ⟨sendReply data p, by rw [result, acked], type, address, chaddr⟩

/-- An address that is free for a client is acknowledged to it when it asks. -/
theorem acks_informPacket {s : DhcpServer} {ip : Ip} {mac : Mac} {i : Nat}
    (inPool : s.config.entryByIp ip = some i) (free : FreeFor s.config mac i) :
    Acks s (informPacket ip mac) ip mac := by
  obtain ⟨leasing, wants⟩ := informPacket_asks s ip mac
  exact acks_of_grants leasing wants (hardwareAddress_clientPacket s ip mac _) ⟨rfl, inPool, free⟩

theorem acks_sample (mac : Mac) :
    Acks sampleServer (informPacket (sampleIp 2) mac) (sampleIp 2) mac :=
  acks_informPacket (i := 0) (by decide) (.inl (by decide))

/-! ### Exclusive acknowledgements -/

/-- Between two states of a run some packet was a `DHCP_REQUEST` or `DHCP_INFORM` with the hardware
address. -/
def CarriedIn (s : DhcpServer) (packets : List Packet) (mac : Mac) : Prop :=
  ∃ before p after, packets = before ++ p :: after ∧ Carries (dhcp.run s before) p mac

/-- The entry of a client stays its own through packets that do not carry its hardware address. -/
theorem run_keeps {s : DhcpServer} {packets : List Packet} {mac : Mac} {i : Nat}
    (holds : s.config.macs i = mac) (proper : mac ≠ noMac)
    (silent : ¬ CarriedIn s packets mac) : (dhcp.run s packets).config.macs i = mac := by
  induction packets generalizing s with
  | nil => exact holds
  | cons p packets ih =>
    refine ih ((udpRecvProc_outcome s p).keeps holds proper fun leasing same => ?_) fun later => ?_
    · exact silent ⟨[], p, packets, rfl, leasing, same⟩
    · obtain ⟨before, q, after, split, carries⟩ := later
      exact silent ⟨p :: before, q, after, by rw [split]; rfl, carries⟩

/-- After an address was acknowledged to the zero hardware address, its entry is still vacant, so
any client may have it at once. -/
theorem acks_again {s : DhcpServer} {first : Packet} {yiaddr : Ip}
    (acks : Acks s first yiaddr noMac) (other : Mac) :
    Acks (dhcp.next s first) (informPacket yiaddr other) yiaddr other := by
  obtain ⟨i, grants, config⟩ := acks.granted
  have inPool : (dhcp.next s first).config.entryByIp yiaddr = some i := by
    show (udpRecvProc s first).1.config.entryByIp yiaddr = some i
    rw [config, granted_eq, DhcpConfig.entryByIp_withMacs]
    exact grants.inPool
  have vacant : (dhcp.next s first).config.isVacant i = true := by
    show (udpRecvProc s first).1.config.isVacant i = true
    rw [config, DhcpConfig.isVacant_iff, macs_granted, Slots.occupy, Function.update_self]
  exact acks_informPacket inPool (.inl vacant)

/-- **An address is never acknowledged to two clients at once, exactly if the first one has a proper
hardware address.** `first` is acknowledged the address `yiaddr` at some point of a run; `mac` is
the hardware address in the acknowledgement. -/
theorem acked_exclusively_iff {s₀ : DhcpServer} (start : Constructed s₀) (pre : List Packet)
    (first : Packet) (yiaddr : Ip) (mac : Mac) (acks : Acks (dhcp.run s₀ pre) first yiaddr mac) :
    (∀ mid second other, Acks (dhcp.run s₀ (pre ++ first :: mid)) second yiaddr other →
        other ≠ mac → CarriedIn (dhcp.run s₀ (pre ++ [first])) mid mac) ↔
      mac ≠ noMac := by
  have after : dhcp.run s₀ (pre ++ [first]) = dhcp.next (dhcp.run s₀ pre) first := by
    rw [Machine.run_append]
    rfl
  constructor
  · rintro exclusive rfl
    obtain ⟨before, _, _, impossible, _⟩ := exclusive [] (informPacket yiaddr (sampleMac 1))
      (sampleMac 1) (after ▸ acks_again acks _) (by decide)
    cases before <;> cases impossible
  · intro proper mid second other acks' different
    by_contra silent
    have split : dhcp.run s₀ (pre ++ first :: mid) = dhcp.run (dhcp.run s₀ (pre ++ [first])) mid := by
      rw [← Machine.run_append, List.append_assoc]
      rfl
    obtain ⟨i, grants, config⟩ := acks.granted
    have holds : (dhcp.run s₀ (pre ++ [first])).config.macs i = mac := by
      rw [after]
      show (udpRecvProc (dhcp.run s₀ pre) first).1.config.macs i = mac
      rw [config, macs_granted, Slots.occupy, Function.update_self]
    have still := run_keeps holds proper silent
    obtain ⟨j, grants', _⟩ := acks'.granted
    rw [split] at grants'
    have same : j = i := by
      have pool : (dhcp.run (dhcp.run s₀ (pre ++ [first])) mid).config.entryByIp yiaddr =
          (dhcp.run s₀ pre).config.entryByIp yiaddr := by
        rw [← split, (run_invariant start.unshared _).1, (run_invariant start.unshared pre).1,
          DhcpConfig.entryByIp_withMacs, DhcpConfig.entryByIp_withMacs]
      exact Option.some.inj (grants'.inPool.symm.trans (pool.trans grants.inPool))
    exact grants'.free.ne still proper different.symm same.symm

/-- The first client asks for another address, and only then the second one gets the first address. -/
theorem acked_exclusively_sample :
    CarriedIn (dhcp.run sampleServer ([] ++ [informPacket (sampleIp 2) (sampleMac 1)]))
      [informPacket (sampleIp 3) (sampleMac 1)] (sampleMac 1) :=
  (acked_exclusively_iff constructed_sampleServer [] _ _ _ (acks_sample _)).mpr (by decide) _
    (informPacket (sampleIp 2) (sampleMac 2)) (sampleMac 2)
    (acks_informPacket (i := 0) (by decide +kernel) (.inl (by decide +kernel))) (by decide)

/-- The zero hardware address is acknowledged an address, which a second client gets directly
afterwards. -/
theorem acked_to_two_clients :
    ¬ ∀ s₀, Constructed s₀ → ∀ pre first yiaddr mac, Acks (dhcp.run s₀ pre) first yiaddr mac →
      ∀ mid second other, Acks (dhcp.run s₀ (pre ++ first :: mid)) second yiaddr other →
        other ≠ mac → CarriedIn (dhcp.run s₀ (pre ++ [first])) mid mac := by
  intro claim
  obtain ⟨before, _, _, impossible, _⟩ := claim sampleServer constructed_sampleServer []
    (informPacket (sampleIp 2) noMac) (sampleIp 2) noMac (acks_sample _) []
    (informPacket (sampleIp 2) (sampleMac 1)) (sampleMac 1) (acks_again (acks_sample _) _)
    (by decide)
  cases before <;> cases impossible

end Jblib.Ethutilities.DhcpServer
