/-
**The lease table under received packets.**

A packet changes nothing in the configuration but the hardware addresses in the entries, so the
lease table is a row of slots that hold hardware addresses: freeing an entry releases a slot,
acknowledging an address occupies one.

* `DhcpConfig.withMacs` — the configuration with other hardware addresses. `acknowledge_granted`,
  `acknowledge_refused` — the two ways a `DHCP_REQUEST` or `DHCP_INFORM` ends.
* **`Outcome`** — everything a packet can do; `udpRecvProc_outcome`.
* `clientPacket`, `informPacket` — packets as clients send them; `received_read`.
* **`refused_keeps_leases_iff`** — a packet that is not acknowledged loses the sender's lease, unless
  it had none or the packet asked for no address: the entry is freed before the request is checked.
-/

import EthUtilities.DhcpServer.Replies

namespace Jblib.Ethutilities.DhcpServer

open Library

/-! ### Hardware addresses as slots -/

/-- The hardware address that marks a vacant entry. -/
abbrev noMac : Mac := Bytes.zero 6

namespace DhcpConfig

/-- The hardware address in each entry. -/
def macs (config : DhcpConfig) : Nat → Mac := fun i => (config.entries i).mac

/-- The configuration with other hardware addresses in its entries. -/
def withMacs (config : DhcpConfig) (macs : Nat → Mac) : DhcpConfig :=
  { config with entries := fun i => { config.entries i with mac := macs i } }

variable {config : DhcpConfig} {mac : Mac} {ip : Ip} {i : Nat}

@[simp] theorem macs_withMacs (macs : Nat → Mac) : (config.withMacs macs).macs = macs := rfl

@[simp] theorem withMacs_macs : config.withMacs config.macs = config := rfl

@[simp] theorem withMacs_withMacs (macs macs' : Nat → Mac) :
    (config.withMacs macs).withMacs macs' = config.withMacs macs' := rfl

@[simp] theorem entryByIp_withMacs (macs : Nat → Mac) :
    (config.withMacs macs).entryByIp ip = config.entryByIp ip := rfl

theorem entryByMac_eq : config.entryByMac mac = Slots.find config.numEntry config.macs mac := rfl

theorem isVacant_iff : config.isVacant i = true ↔ config.macs i = noMac := decide_eq_true_iff

theorem setMac_eq : config.setMac i mac = config.withMacs (Slots.occupy config.macs i mac) := by
  have entries : Function.update config.entries i { config.entries i with mac } =
      fun j => { config.entries j with mac := Slots.occupy config.macs i mac j } := by
    funext j
    by_cases here : j = i
    · rw [here, Function.update_self, Slots.occupy, Function.update_self]
    · rw [Function.update_of_ne here, Slots.occupy, Function.update_of_ne here]
      rfl
  rw [setMac, entries]
  rfl

theorem freeRegistered_eq : config.freeRegistered mac =
    config.withMacs (Slots.release noMac config.numEntry config.macs mac) := by
  rw [freeRegistered, entryByMac_eq]
  cases found : Slots.find config.numEntry config.macs mac with
  | none => rw [Slots.release_of_absent found, withMacs_macs]
  | some i =>
    rw [Slots.release_of_find found]
    exact setMac_eq

@[simp] theorem entryByIp_freeRegistered :
    (config.freeRegistered mac).entryByIp ip = config.entryByIp ip := by
  rw [freeRegistered_eq, entryByIp_withMacs]

@[simp] theorem macs_freeRegistered : (config.freeRegistered mac).macs =
    Slots.release noMac config.numEntry config.macs mac := by
  rw [freeRegistered_eq, macs_withMacs]

theorem lt_of_entryByIp (found : config.entryByIp ip = some i) : i < config.numEntry :=
  (Slots.search_eq_some_iff.mp found).1

theorem addr_of_entryByIp (found : config.entryByIp ip = some i) : (config.entries i).addr = ip :=
  of_decide_eq_true (Slots.search_eq_some_iff.mp found).2.1

end DhcpConfig

/-! ### Requests for an address -/

/-- The entry is free for the client: nobody's, or its own. -/
def FreeFor (config : DhcpConfig) (mac : Mac) (i : Nat) : Prop :=
  config.isVacant i = true ∨ config.entryByMac mac = some i

instance (config : DhcpConfig) (mac : Mac) (i : Nat) : Decidable (FreeFor config mac i) :=
  inferInstanceAs (Decidable (_ ∨ _))

theorem isVacant_freeRegistered {config : DhcpConfig} {mac : Mac} {i : Nat} :
    (config.freeRegistered mac).isVacant i = true ↔ FreeFor config mac i := by
  rw [DhcpConfig.isVacant_iff, DhcpConfig.macs_freeRegistered, Slots.release_eq_vacant_iff, FreeFor,
    DhcpConfig.isVacant_iff, DhcpConfig.entryByMac_eq]

/-- The configuration after the client got entry `i`. -/
def granted (config : DhcpConfig) (mac : Mac) (i : Nat) : DhcpConfig :=
  (config.freeRegistered mac).setMac i mac

/-- The request is acknowledged with entry `i`: it is the entry of the address asked for, free for
the client, and there is memory for the reply. -/
structure Grants (config : DhcpConfig) (p : Packet) (mac : Mac) (ip : Ip) (i : Nat) : Prop where
  pbufAlloc : p.pbufAlloc = true
  inPool : config.entryByIp ip = some i
  free : FreeFor config mac i

section Acknowledge

variable {s : DhcpServer} {p : Packet} {ip : Ip} (clearCiaddr : Bool) {i : Nat}

theorem acknowledge_granted (grants : Grants s.config p (hardwareAddress s.dhcpData) ip i) :
    ∃ data, IsReply data dhcpAck ip (hardwareAddress s.dhcpData) ∧
      acknowledge s p ip clearCiaddr =
        (⟨data, granted s.config (hardwareAddress s.dhcpData) i⟩, some (sendReply data p)) := by
  rw [acknowledge]
  dsimp only
  rw [DhcpConfig.entryByIp_freeRegistered, grants.inPool]
  dsimp only
  rw [if_pos (isVacant_freeRegistered.mpr grants.free), if_pos grants.pbufAlloc]
  refine ⟨_, ?_, rfl⟩
  cases clearCiaddr with
  | true => exact isReply_buildReply.clearCiaddr
  | false => exact isReply_buildReply

/-- An address outside the pool, another client's entry, or no memory: the client's entry was freed
before that turned out. -/
theorem acknowledge_denied
    (denied : ¬ ∃ i, Grants s.config p (hardwareAddress s.dhcpData) ip i) :
    (acknowledge s p ip clearCiaddr).1.config =
        s.config.freeRegistered (hardwareAddress s.dhcpData) ∧
      (acknowledge s p ip clearCiaddr).2 = none := by
  rw [acknowledge]
  dsimp only
  rw [DhcpConfig.entryByIp_freeRegistered]
  cases found : s.config.entryByIp ip with
  | none => exact ⟨rfl, rfl⟩
  | some i =>
    dsimp only
    by_cases free : FreeFor s.config (hardwareAddress s.dhcpData) i
    · have noMemory : ¬ p.pbufAlloc = true := fun memory => denied ⟨i, memory, found, free⟩
      rw [if_pos (isVacant_freeRegistered.mpr free), if_neg noMemory]
      exact ⟨rfl, rfl⟩
    · rw [if_neg fun vacant => free (isVacant_freeRegistered.mp vacant)]
      exact ⟨rfl, rfl⟩

end Acknowledge

/-! ### One packet -/

/-- The packet is handled as a `DHCP_REQUEST` or a `DHCP_INFORM`. -/
def Leasing (data : Buffer) : Prop :=
  messageType data = dhcpRequest ∨ messageType data = dhcpInform

instance (data : Buffer) : Decidable (Leasing data) := inferInstanceAs (Decidable (_ ∨ _))

/-- The address a `DHCP_REQUEST` or `DHCP_INFORM` asks for. -/
def wanted (data : Buffer) : Option Ip :=
  if messageType data = dhcpRequest then requestedAddress data else some (data.field dpCiaddr 4)

/-- What a packet can do to the configuration, and the reply to it. `data` is `dhcp_data_` with the
packet copied in. -/
inductive Outcome (config : DhcpConfig) (p : Packet) (data : Buffer) :
    DhcpConfig → Option Reply → Prop
  /-- another message type, nothing to offer, or no memory for the offer -/
  | ignored : Outcome config p data config none
  | offered (i : Nat) (reply : Buffer) (discover : messageType data = dhcpDiscover)
      (inside : i < config.numEntry) (free : FreeFor config (hardwareAddress data) i)
      (isReply : IsReply reply dhcpOffer (config.entries i).addr (hardwareAddress data)) :
      Outcome config p data config (some (sendReply reply p))
  /-- asked for an address in vain; the client's entry is freed all the same -/
  | refused (ip : Ip) (leasing : Leasing data) (wants : wanted data = some ip) :
      Outcome config p data (config.freeRegistered (hardwareAddress data)) none
  | acknowledged (ip : Ip) (i : Nat) (reply : Buffer) (leasing : Leasing data)
      (wants : wanted data = some ip) (grants : Grants config p (hardwareAddress data) ip i)
      (isReply : IsReply reply dhcpAck ip (hardwareAddress data)) :
      Outcome config p data (granted config (hardwareAddress data) i) (some (sendReply reply p))

theorem acknowledge_outcome (s : DhcpServer) (p : Packet) (ip : Ip) (clearCiaddr : Bool)
    (leasing : Leasing s.dhcpData) (wants : wanted s.dhcpData = some ip) :
    Outcome s.config p s.dhcpData (acknowledge s p ip clearCiaddr).1.config
      (acknowledge s p ip clearCiaddr).2 := by
  by_cases grants : ∃ i, Grants s.config p (hardwareAddress s.dhcpData) ip i
  · obtain ⟨i, grants⟩ := grants
    obtain ⟨data, isReply, result⟩ := acknowledge_granted clearCiaddr grants
    rw [result]
    exact .acknowledged ip i data leasing wants grants isReply
  · obtain ⟨config, reply⟩ := acknowledge_denied clearCiaddr grants
    rw [config, reply]
    exact .refused ip leasing wants

theorem discover_outcome (s : DhcpServer) (p : Packet)
    (type : messageType s.dhcpData = dhcpDiscover) :
    Outcome s.config p s.dhcpData (discover s p).1.config (discover s p).2 := by
  rw [discover]
  cases found : (s.config.entryByMac (hardwareAddress s.dhcpData) <|> s.config.vacantAddress) with
  | none => exact .ignored
  | some i =>
    have chosen : i < s.config.numEntry ∧ FreeFor s.config (hardwareAddress s.dhcpData) i := by
      cases own : s.config.entryByMac (hardwareAddress s.dhcpData) with
      | some j =>
        rw [own] at found
        obtain rfl := Option.some.inj found
        exact ⟨Slots.find_lt own, .inr own⟩
      | none =>
        rw [own] at found
        have first := Slots.search_eq_some_iff.mp found
        exact ⟨first.1, .inl first.2.1⟩
    cases allocated : p.pbufAlloc with
    | true =>
      dsimp only
      rw [if_pos rfl]
      exact .offered i _ type chosen.1 chosen.2 isReply_buildReply
    | false => exact .ignored

/-- A `DHCP_REQUEST` or `DHCP_INFORM` that asks for an address. -/
theorem udpRecvProc_wanted {s : DhcpServer} {p : Packet} {ip : Ip} (leasing : Leasing (received s p))
    (wants : wanted (received s p) = some ip) : ∃ clearCiaddr,
      udpRecvProc s p = acknowledge { s with dhcpData := received s p } p ip clearCiaddr := by
  rw [udpRecvProc]
  dsimp only
  rcases leasing with isRequest | isInform
  · rw [wanted, if_pos isRequest] at wants
    rw [if_neg (by rw [isRequest]; decide), if_pos isRequest, request]
    dsimp only
    rw [wants]
    exact ⟨false, rfl⟩
  · have notRequest : ¬ messageType (received s p) = dhcpRequest := by rw [isInform]; decide
    rw [wanted, if_neg notRequest] at wants
    rw [if_neg (by rw [isInform]; decide), if_neg notRequest, if_pos isInform, inform]
    obtain rfl := Option.some.inj wants
    exact ⟨true, rfl⟩

/-- A `DHCP_REQUEST` without an address, or a packet of a type the server does not know. -/
theorem udpRecvProc_ignored {s : DhcpServer} {p : Packet}
    (notDiscover : messageType (received s p) ≠ dhcpDiscover)
    (unwanted : Leasing (received s p) → wanted (received s p) = none) :
    udpRecvProc s p = ({ s with dhcpData := received s p }, none) := by
  rw [udpRecvProc]
  dsimp only
  rw [if_neg notDiscover]
  by_cases isRequest : messageType (received s p) = dhcpRequest
  · have missing := unwanted (.inl isRequest)
    rw [wanted, if_pos isRequest] at missing
    rw [if_pos isRequest, request]
    dsimp only
    rw [missing]
  · rw [if_neg isRequest, if_neg]
    intro isInform
    have missing := unwanted (.inr isInform)
    rw [wanted, if_neg isRequest] at missing
    cases missing

/-- **One packet.** -/
theorem udpRecvProc_outcome (s : DhcpServer) (p : Packet) :
    Outcome s.config p (received s p) (udpRecvProc s p).1.config (udpRecvProc s p).2 := by
  by_cases isDiscover : messageType (received s p) = dhcpDiscover
  · rw [udpRecvProc]
    dsimp only
    rw [if_pos isDiscover]
    exact discover_outcome { s with dhcpData := received s p } p isDiscover
  by_cases asks : Leasing (received s p) ∧ ∃ ip, wanted (received s p) = some ip
  · obtain ⟨leasing, ip, wants⟩ := asks
    obtain ⟨clearCiaddr, result⟩ := udpRecvProc_wanted leasing wants
    rw [result]
    exact acknowledge_outcome { s with dhcpData := received s p } p ip clearCiaddr leasing wants
  · rw [udpRecvProc_ignored isDiscover fun leasing => ?_]
    · exact .ignored
    · exact Option.eq_none_iff_forall_ne_some.mpr fun ip wants => asks ⟨leasing, ip, wants⟩

/-! ### Packets of full length -/

/-- A packet that covers all of `dhcp_data_` leaves nothing of its old contents. -/
theorem received_read {s : DhcpServer} {p : Packet} (full : dhcpTypeSize ≤ p.payload.length)
    {k m : Nat} (inside : k + m ≤ dhcpTypeSize) :
    (received s p).read k m = (p.payload.drop k).take m := by
  have length : (p.payload.take (min p.payload.length dhcpTypeSize)).length = dhcpTypeSize := by
    rw [List.length_take]
    omega
  have copied : (s.dhcpData.write 0 (p.payload.take (min p.payload.length dhcpTypeSize))).read
      (0 + k) m = ((p.payload.take (min p.payload.length dhcpTypeSize)).drop k).take m :=
    Buffer.read_write_inside (by rw [length]; exact inside)
  rw [Nat.zero_add] at copied
  rw [received, copied, List.drop_take, List.take_take]
  congr 1
  omega

/-- A message as clients send it, from an address and a hardware address, with options. -/
def clientMessage (ciaddr : Ip) (mac : Mac) (options : List UInt8) : Buffer :=
  ((Buffer.write (fun _ => 0) dpCiaddr ciaddr.val).write dpChaddr mac.val).write dpOptions options

def clientPacket (ciaddr : Ip) (mac : Mac) (options : List UInt8) : Packet :=
  ⟨(clientMessage ciaddr mac options).read 0 dhcpTypeSize, 68, true⟩

theorem received_clientPacket {s : DhcpServer} {ciaddr : Ip} {mac : Mac} {options : List UInt8}
    (k m : Nat) (inside : k + m ≤ dhcpTypeSize) :
    (received s (clientPacket ciaddr mac options)).read k m =
      (clientMessage ciaddr mac options).read k m := by
  rw [received_read (Nat.le_of_eq Buffer.length_read.symm) inside]
  exact (Buffer.drop_take_read inside).trans (by rw [Nat.zero_add])

/-- A `DHCP_INFORM` for an address. -/
def informPacket (ip : Ip) (mac : Mac) : Packet :=
  clientPacket ip mac [dhcpMessagetype, 1, dhcpInform]

theorem hardwareAddress_clientPacket (s : DhcpServer) (ciaddr : Ip) (mac : Mac)
    (options : List UInt8) :
    hardwareAddress (received s (clientPacket ciaddr mac options)) = mac := by
  refine Subtype.ext ((received_clientPacket dpChaddr 6 (by decide)).trans ?_)
  rw [clientMessage, Buffer.read_write_apart (.inl (by decide)), Buffer.read_write_array]

/-- An INFORM is understood as one, and asks for its address. -/
theorem informPacket_asks (s : DhcpServer) (ip : Ip) (mac : Mac) :
    Leasing (received s (informPacket ip mac)) ∧
      wanted (received s (informPacket ip mac)) = some ip := by
  have type : messageType (received s (informPacket ip mac)) = dhcpInform := by
    have byte : (received s (informPacket ip mac)).read (dpOptions + 2) 1 = _ :=
      received_clientPacket (dpOptions + 2) 1 (by decide)
    rw [clientMessage, Buffer.read_write_inside (k := 2) (by decide)] at byte
    exact (List.cons.inj byte).1
  have asks : (received s (informPacket ip mac)).field dpCiaddr 4 = ip := by
    refine Subtype.ext ((received_clientPacket dpCiaddr 4 (by decide)).trans ?_)
    rw [clientMessage, Buffer.read_write_apart (.inl (by decide)),
      Buffer.read_write_apart (.inl (by decide)), Buffer.read_write_array]
  exact ⟨.inr type, by rw [wanted, if_neg (by rw [type]; decide), asks]⟩

/-- A server at 10.0.0.1 with the addresses 10.0.0.2 and 10.0.0.3. -/
def sampleServer : DhcpServer :=
  (construct 0x0100000A none 2 2 (some fun _ => poolEntry (Bytes.zero 4) 0)).get rfl

def sampleMac (last : UInt8) : Mac := ⟨[2, 0, 0, 0, 0, last], rfl⟩

def sampleIp (last : UInt8) : Ip := ⟨[10, 0, 0, last], rfl⟩

/-! ### Requests that are not acknowledged -/

/-- The packet does not cost its sender a lease without an acknowledgement: the sender has no
hardware address or no lease, asks for no address, or is acknowledged. -/
def KeepsLease (config : DhcpConfig) (p : Packet) (data : Buffer) : Prop :=
  hardwareAddress data = noMac ∨ config.entryByMac (hardwareAddress data) = none ∨
    wanted data = none ∨ ∃ ip i, wanted data = some ip ∧ Grants config p (hardwareAddress data) ip i

/-- **A `DHCP_REQUEST` or `DHCP_INFORM` that is not acknowledged changes no lease exactly if its
sender had none to lose, or asked for no address.** -/
theorem refused_keeps_leases_iff (s : DhcpServer) (p : Packet) (leasing : Leasing (received s p)) :
    ((udpRecvProc s p).2 = none →
        ∀ i, ((udpRecvProc s p).1.config.entries i).mac = (s.config.entries i).mac) ↔
      KeepsLease s.config p (received s p) := by
  cases wants : wanted (received s p) with
  | none =>
    refine iff_of_true (fun _ i => ?_) (.inr (.inr (.inl wants)))
    rw [udpRecvProc_ignored (fun isDiscover => ?_) fun _ => wants]
    rcases leasing with type | type <;> exact absurd (isDiscover.symm.trans type) (by decide)
  | some ip =>
    obtain ⟨clearCiaddr, result⟩ := udpRecvProc_wanted leasing wants
    rw [result]
    by_cases grants : ∃ i, Grants s.config p (hardwareAddress (received s p)) ip i
    · obtain ⟨i, grants⟩ := grants
      refine iff_of_true (fun silent => ?_) (.inr (.inr (.inr ⟨ip, i, wants, grants⟩)))
      obtain ⟨data, _, acked⟩ :=
        acknowledge_granted (s := { s with dhcpData := received s p }) clearCiaddr grants
      rw [acked] at silent
      cases silent
    · obtain ⟨config, reply⟩ :=
        acknowledge_denied (s := { s with dhcpData := received s p }) clearCiaddr grants
      have freed : (∀ i, ((s.config.freeRegistered (hardwareAddress (received s p))).entries i).mac =
          (s.config.entries i).mac) ↔ hardwareAddress (received s p) = noMac ∨
            s.config.entryByMac (hardwareAddress (received s p)) = none := by
        rw [DhcpConfig.entryByMac_eq, ← Slots.release_eq_self_iff, ← DhcpConfig.macs_freeRegistered]
        exact ⟨fun same => funext same, fun same i => congrFun same i⟩
      rw [config, reply]
      refine (forall_prop_of_true rfl).trans (freed.trans ⟨fun nothing => ?_, fun keeps => ?_⟩)
      · rcases nothing with zero | absent
        · exact .inl zero
        · exact .inr (.inl absent)
      · rcases keeps with zero | absent | missing | ⟨ip', i, wants', acked⟩
        · exact .inl zero
        · exact .inr absent
        · rw [wants] at missing
          cases missing
        · obtain rfl := Option.some.inj (wants.symm.trans wants')
          exact absurd ⟨i, acked⟩ grants

/-- A client without a lease asks for an address that is taken. -/
theorem refused_keeps_leases_newcomer :
    let s := dhcp.run sampleServer [informPacket (sampleIp 2) (sampleMac 1)]
    let p := informPacket (sampleIp 2) (sampleMac 3)
    (udpRecvProc s p).2 = none →
      ∀ i, ((udpRecvProc s p).1.config.entries i).mac = (s.config.entries i).mac :=
  (refused_keeps_leases_iff _ _ (informPacket_asks _ _ _).1).mpr (.inr (.inl (by decide +kernel)))

/-- Two clients have leases; the first one asks for the address of the second one. The server does
not answer, but the first client's entry is vacant afterwards. -/
theorem refused_loses_lease :
    let s := dhcp.run sampleServer [informPacket (sampleIp 2) (sampleMac 1),
      informPacket (sampleIp 3) (sampleMac 2)]
    let p := informPacket (sampleIp 3) (sampleMac 1)
    ¬ (Leasing (received s p) → (udpRecvProc s p).2 = none →
      ∀ i, ((udpRecvProc s p).1.config.entries i).mac = (s.config.entries i).mac) := by
  intro s p claim
  exact absurd (claim (by decide +kernel) (by decide +kernel) 0) (by decide +kernel)

end Jblib.Ethutilities.DhcpServer
