/-
**The DHCP server keeps a book of leases.**

* `reading` — what the server takes a packet for; `View` — what a client makes of a reply: type and
  address, and the bytes that the server takes over from the request.
* `Represents` — the hardware addresses in the entries are a book: what stands in an entry has its
  address, and nobody has any other.
* `Represents.offer`, `Represents.taken_iff`, `Represents.without`, `Represents.acknowledged` — the
  searches in the table against the book, and its updates.
* **`keeps_leaseBook`** — whatever packets come: the replies are the answers of the book.
-/

import EthUtilities.DhcpServer.Handshake
import EthUtilities.Library.LeaseBook
import EthUtilities.Library.Refinement
import Mathlib.Data.List.Find

namespace Jblib.Ethutilities.DhcpServer

open Library

/-! ### What is asked and what is answered -/

/-- A client is known by its hardware address. -/
abbrev Client := { mac : Mac // mac ≠ noMac }

def clientOf (mac : Mac) : Option Client := if proper : mac ≠ noMac then some ⟨mac, proper⟩ else none

def dpHtype : Nat := 1

def dpSiaddr : Nat := 20

/-- What a reply takes over: `dp_htype` to `dp_xid`, `dp_siaddr` to `dp_legacy`, and the port. -/
structure Envelope where
  front : List UInt8
  middle : List UInt8
  port : UInt16

def envelope (data : Buffer) (p : Packet) : Envelope :=
  ⟨data.read dpHtype 7, data.read dpSiaddr 216, p.port⟩

/-- What a client makes of a reply. -/
structure View where
  envelope : Envelope
  msgType : List UInt8
  yiaddr : List UInt8

def Reply.view (reply : Reply) : View where
  envelope := ⟨(reply.payload.drop dpHtype).take 7, (reply.payload.drop dpSiaddr).take 216,
    reply.port⟩
  msgType := reply.msgType
  yiaddr := reply.yiaddr

/-- An answer, as it is to be seen. -/
def view : Envelope × LeaseBook.Answer Ip → View
  | (envelope, .offer ip) => ⟨envelope, [dhcpOffer], ip.val⟩
  | (envelope, .acknowledge ip) => ⟨envelope, [dhcpAck], ip.val⟩

/-- The address that a packet asks for. -/
def ask (data : Buffer) : LeaseBook.Ask Ip :=
  if messageType data = dhcpDiscover then .discover
  else if Leasing data then
    match wanted data with
    | some ip => .take ip
    | none => .nothing
  else .nothing

/-- What the server takes a packet for. -/
def reading (s : DhcpServer) (p : Packet) : LeaseBook.Request Ip Client Envelope where
  client := clientOf (hardwareAddress (received s p))
  ask := ask (received s p)
  tag := envelope (received s p) p
  memory := p.pbufAlloc

/-- The server, seen from its clients. -/
def serve (s : DhcpServer) (p : Packet) : DhcpServer × Option View :=
  ((udpRecvProc s p).1, (udpRecvProc s p).2.map Reply.view)

/-- The addresses of the entries. -/
def pool (config : DhcpConfig) : List Ip :=
  (List.range config.numEntry).map fun i => (config.entries i).addr

/-- The book behind the server. -/
def keepBook (config : DhcpConfig) (book : LeaseBook Ip Client)
    (request : LeaseBook.Request Ip Client Envelope) : LeaseBook Ip Client × Option View :=
  let answered := LeaseBook.step (pool config) book request
  (answered.1, answered.2.map view)

/-! ### Replies -/

section Replies

variable {data : Buffer} {config : DhcpConfig} {msgType : UInt8} {entry : DhcpEntry} {yiaddr : Ip}
  {mac : Mac} {p : Packet}

/-- Building a reply leaves the envelope as it is. -/
theorem envelope_buildReply :
    envelope (buildReply data config msgType entry yiaddr) p = envelope data p := by
  have front : (buildReply data config msgType entry yiaddr).read dpHtype 7 =
      data.read dpHtype 7 := by
    rw [buildReply, fillOptions_eq, Buffer.read_write_apart (.inl (by decide)),
      Buffer.read_write_apart (.inl (by decide)), Buffer.read_write_apart (.inl (by decide)),
      Buffer.read_write_apart (.inl (by decide)), Buffer.read_write_apart (.inl (by decide)),
      Buffer.read_write_apart (.inl (by decide)), Buffer.read_write_apart (.inr (by decide))]
  have middle : (buildReply data config msgType entry yiaddr).read dpSiaddr 216 =
      data.read dpSiaddr 216 := by
    rw [buildReply, fillOptions_eq, Buffer.read_write_apart (.inl (by decide)),
      Buffer.read_write_apart (.inl (by decide)), Buffer.read_write_apart (.inl (by decide)),
      Buffer.read_write_apart (.inr (by rw [yiaddr.property]; decide)),
      Buffer.read_write_apart (.inr (by decide)), Buffer.read_write_apart (.inr (by decide)),
      Buffer.read_write_apart (.inr (by decide))]
  rw [envelope, envelope, front, middle]

theorem envelope_clearCiaddr :
    envelope (data.write dpCiaddr [0, 0, 0, 0]) p = envelope data p := by
  rw [envelope, envelope, Buffer.read_write_apart (.inl (by decide)),
    Buffer.read_write_apart (.inr (by decide))]

/-- What is sent, as the client sees it. -/
theorem view_sendReply (reply : IsReply data msgType yiaddr mac) :
    (sendReply data p).view = ⟨envelope data p, [msgType], yiaddr.val⟩ := by
  obtain ⟨type, address, -⟩ := reply.sendReply p
  have front : ((data.read 0 dhcpTypeSize).drop dpHtype).take 7 = data.read dpHtype 7 :=
    (Buffer.drop_take_read (by decide)).trans (by rw [Nat.zero_add])
  have middle : ((data.read 0 dhcpTypeSize).drop dpSiaddr).take 216 = data.read dpSiaddr 216 :=
    (Buffer.drop_take_read (by decide)).trans (by rw [Nat.zero_add])
  rw [Reply.view, type, address, envelope, ← front, ← middle]
  rfl

end Replies

/-! ### The table and the book -/

/-- The hardware addresses in the entries are the book. -/
structure Represents (config : DhcpConfig) (macs : Nat → Mac) (book : LeaseBook Ip Client) :
    Prop where
  unshared : Slots.Exclusive noMac config.numEntry macs
  holder : ∀ i < config.numEntry, book (config.entries i).addr = clientOf (macs i)
  within : ∀ ip client, book ip = some client → ip ∈ pool config

section Represents

variable {config : DhcpConfig} {macs : Nat → Mac} {book : LeaseBook Ip Client} {mac : Mac} {ip : Ip}
  {client : Client} {i : Nat}

theorem clientOf_eq_some_iff : clientOf mac = some client ↔ mac = client.val := by
  unfold clientOf
  split
  · next proper =>
    rw [Option.some.injEq, Subtype.ext_iff]
  · next zero =>
    refine iff_of_false nofun fun same => client.property ?_
    rw [← same]
    exact not_not.mp zero

theorem clientOf_eq_none_iff : clientOf mac = none ↔ mac = noMac := by
  unfold clientOf
  split
  · next proper => exact iff_of_false nofun proper
  · next zero => exact iff_of_true rfl (not_not.mp zero)

/-- No address has two entries. -/
def NoRepetition (config : DhcpConfig) : Prop := ∀ i < config.numEntry, ∀ j < config.numEntry,
  (config.entries i).addr = (config.entries j).addr → i = j

theorem mem_pool : ip ∈ pool config ↔ ∃ i < config.numEntry, (config.entries i).addr = ip := by
  simp [pool]

/-- **Who has an address is found in the entries.** -/
theorem Represents.symm_eq (rep : Represents config macs book) (client : Client) :
    book.symm client =
      (Slots.find config.numEntry macs client.val).map fun i => (config.entries i).addr := by
  ext ip
  rw [book.eq_some_iff, Option.map_eq_some_iff]
  constructor
  · intro leased
    obtain ⟨i, inside, rfl⟩ := mem_pool.mp (rep.within ip client leased)
    rw [rep.holder i inside, clientOf_eq_some_iff] at leased
    exact ⟨i, (rep.unshared.find_iff client.property).mpr ⟨inside, leased⟩, rfl⟩
  · rintro ⟨i, found, rfl⟩
    obtain ⟨inside, here⟩ := (rep.unshared.find_iff client.property).mp found
    rw [rep.holder i inside, clientOf_eq_some_iff]
    exact here

theorem Represents.vacant (rep : Represents config macs book) :
    ((pool config).find? fun ip => (book ip).isNone) =
      (Slots.find config.numEntry macs noMac).map fun i => (config.entries i).addr := by
  rw [pool, List.find?_map]
  refine congrArg (Option.map _) (List.find?_congr fun i member => ?_)
  show (book (config.entries i).addr).isNone = _
  rw [rep.holder i (List.mem_range.mp member), Bool.eq_iff_iff, Option.isNone_iff_eq_none,
    clientOf_eq_none_iff, decide_eq_true_eq]

/-- The address that the server offers. -/
theorem Represents.offer (rep : Represents config macs book) (mac : Mac) :
    LeaseBook.offer (pool config) book (clientOf mac) =
      (Slots.find config.numEntry macs mac <|> Slots.find config.numEntry macs noMac).map
        fun i => (config.entries i).addr := by
  rw [LeaseBook.offer, rep.vacant]
  by_cases proper : mac = noMac
  · rw [clientOf_eq_none_iff.mpr proper, proper]
    cases Slots.find config.numEntry macs noMac <;> rfl
  · have known : clientOf mac = some ⟨mac, proper⟩ := clientOf_eq_some_iff.mpr rfl
    rw [known, Option.bind_some, rep.symm_eq]
    cases Slots.find config.numEntry macs mac <;> rfl

/-- The client gives back what it has. -/
theorem Represents.holder_without (rep : Represents config macs book) (mac : Mac)
    (inside : i < config.numEntry) : book.without (clientOf mac) (config.entries i).addr =
      clientOf (Slots.release noMac config.numEntry macs mac i) := by
  by_cases proper : mac = noMac
  · rw [clientOf_eq_none_iff.mpr proper, Slots.release_eq_self_iff.mpr (.inl proper)]
    exact rep.holder i inside
  · have known : clientOf mac = some ⟨mac, proper⟩ := clientOf_eq_some_iff.mpr rfl
    rw [known, LeaseBook.without, LeaseBook.release_apply, rep.holder i inside]
    by_cases own : macs i = mac
    · have found := (rep.unshared.find_iff proper).mpr ⟨inside, own⟩
      rw [if_pos (own ▸ known), Slots.release_of_find found, Function.update_self]
      exact (clientOf_eq_none_iff.mpr rfl).symm
    · rw [if_neg fun same => own (clientOf_eq_some_iff.mp same), Slots.release_of_other own]

theorem Represents.without (rep : Represents config macs book) (mac : Mac) :
    Represents config (Slots.release noMac config.numEntry macs mac)
      (book.without (clientOf mac)) := by
  refine ⟨rep.unshared.release, fun i inside => rep.holder_without mac inside,
    fun ip client leased => rep.within ip client ?_⟩
  cases known : clientOf mac with
  | none => rwa [known] at leased
  | some own =>
    rw [known] at leased
    exact (LeaseBook.release_eq_some_iff.mp leased).2

/-- The client gets a vacant address. -/
theorem Represents.acknowledged (rep : Represents config macs book)
    (distinct : NoRepetition config) (inside : i < config.numEntry)
    (vacant : Slots.release noMac config.numEntry macs mac i = noMac) :
    Represents config (Slots.occupy (Slots.release noMac config.numEntry macs mac) i mac)
      (book.acknowledged (config.entries i).addr (clientOf mac)) := by
  have released := rep.without mac
  cases known : clientOf mac with
  | none =>
    rw [known] at released
    obtain rfl := clientOf_eq_none_iff.mp known
    have same : Slots.occupy (Slots.release noMac config.numEntry macs noMac) i noMac =
        Slots.release noMac config.numEntry macs noMac :=
      Function.update_eq_self_iff.mpr vacant.symm
    rw [same]
    exact released
  | some client =>
    rw [known] at released
    refine ⟨rep.unshared.release.occupy fun proper j inside => rep.unshared.released proper inside,
      fun j within => ?_, fun ip other leased => ?_⟩
    · by_cases here : j = i
      · rw [here, Slots.occupy, Function.update_self, known]
        exact LeaseBook.lease_self
      · have apart : (config.entries j).addr ≠ (config.entries i).addr := fun same =>
          here (distinct j within i inside same)
        rw [Slots.occupy, Function.update_of_ne here]
        exact (LeaseBook.lease_of_ne apart).trans (released.holder j within)
    · by_cases here : ip = (config.entries i).addr
      · exact mem_pool.mpr ⟨i, inside, here.symm⟩
      · exact released.within ip other ((LeaseBook.lease_of_ne here).symm.trans leased)

/-- The server acknowledges what the book would. -/
theorem Represents.taken_iff (rep : Represents config macs book) (distinct : NoRepetition config)
    {p : Packet} :
    (∃ i, Grants (config.withMacs macs) p mac ip i) ↔
      ip ∈ pool config ∧ book.without (clientOf mac) ip = none ∧ p.pbufAlloc = true := by
  have free : ∀ i < config.numEntry, FreeFor (config.withMacs macs) mac i ↔
      book.without (clientOf mac) (config.entries i).addr = none := fun i inside => by
    rw [rep.holder_without mac inside, clientOf_eq_none_iff, Slots.release_eq_vacant_iff, FreeFor,
      DhcpConfig.isVacant_iff, DhcpConfig.entryByMac_eq]
    rfl
  constructor
  · rintro ⟨i, grants⟩
    have inside : i < config.numEntry := DhcpConfig.lt_of_entryByIp grants.inPool
    obtain rfl : (config.entries i).addr = ip := DhcpConfig.addr_of_entryByIp grants.inPool
    exact ⟨mem_pool.mpr ⟨i, inside, rfl⟩, (free i inside).mp grants.free, grants.pbufAlloc⟩
  · rintro ⟨member, vacant, memory⟩
    obtain ⟨i, inside, rfl⟩ := mem_pool.mp member
    exact ⟨i, memory, entryByIp_of_distinct distinct inside, (free i inside).mpr vacant⟩

end Represents

/-! ### One packet -/

section Serve

variable {s : DhcpServer} {p : Packet} {ip : Ip} {reply : Reply}

theorem discover_view (s : DhcpServer) (p : Packet) :
    (discover s p).1.config = s.config ∧ (discover s p).2.map Reply.view =
      if p.pbufAlloc then
        (s.config.entryByMac (hardwareAddress s.dhcpData) <|> s.config.vacantAddress).map
          fun i => ⟨envelope s.dhcpData p, [dhcpOffer], (s.config.entries i).addr.val⟩
      else none := by
  rw [discover]
  cases s.config.entryByMac (hardwareAddress s.dhcpData) <|> s.config.vacantAddress with
  | none => exact ⟨rfl, by simp⟩
  | some i =>
    refine ⟨rfl, ?_⟩
    cases p.pbufAlloc with
    | false => rfl
    | true =>
      show some (sendReply _ p).view = _
      rw [view_sendReply isReply_buildReply, envelope_buildReply]
      rfl

/-- An acknowledgement keeps the envelope. -/
theorem acknowledge_envelope {clearCiaddr : Bool}
    (sent : (acknowledge s p ip clearCiaddr).2 = some reply) :
    reply.view.envelope = envelope s.dhcpData p := by
  rw [acknowledge] at sent
  dsimp only at sent
  split at sent
  · cases sent
  split at sent
  · split at sent
    · obtain rfl := Option.some.inj sent
      cases clearCiaddr with
      | false =>
        rw [if_neg (by decide), view_sendReply isReply_buildReply]
        exact envelope_buildReply
      | true =>
        rw [if_pos rfl, view_sendReply isReply_buildReply.clearCiaddr]
        exact envelope_clearCiaddr.trans envelope_buildReply
    · cases sent
  · cases sent

/-- The server's entries are the first ones with other hardware addresses, and those are the book. -/
def Keeps (config : DhcpConfig) (s : DhcpServer) (book : LeaseBook Ip Client) : Prop :=
  ∃ macs, s.config = config.withMacs macs ∧ Represents config macs book

variable {config : DhcpConfig} {book : LeaseBook Ip Client} {macs : Nat → Mac}

/-- **A `DHCP_DISCOVER`.** -/
theorem keeps_discover {data : Buffer} (rep : Represents config macs book) (p : Packet) :
    (discover ⟨data, config.withMacs macs⟩ p).2.map Reply.view =
        (if p.pbufAlloc then
          (LeaseBook.offer (pool config) book (clientOf (hardwareAddress data))).map fun ip =>
            (envelope data p, .offer ip) else none).map view ∧
      Keeps config (discover ⟨data, config.withMacs macs⟩ p).1 book := by
  obtain ⟨same, seen⟩ := discover_view ⟨data, config.withMacs macs⟩ p
  refine ⟨seen.trans ?_, macs, same, rep⟩
  rw [rep.offer]
  cases p.pbufAlloc with
  | false => rfl
  | true =>
    rw [if_pos rfl, if_pos rfl, Option.map_map, Option.map_map]
    rfl

/-- **A request for an address.** -/
theorem keeps_acknowledge {data : Buffer} (rep : Represents config macs book)
    (distinct : NoRepetition config) (p : Packet) (ip : Ip) (clearCiaddr : Bool) :
    let s : DhcpServer := ⟨data, config.withMacs macs⟩
    let answered := LeaseBook.step (pool config) book
      ⟨clientOf (hardwareAddress data), .take ip, envelope data p, p.pbufAlloc⟩
    (acknowledge s p ip clearCiaddr).2.map Reply.view = answered.2.map view ∧
      Keeps config (acknowledge s p ip clearCiaddr).1 answered.1 := by
  intro s answered
  by_cases grants : ∃ i, Grants s.config p (hardwareAddress s.dhcpData) ip i
  · have takes : answered = _ := if_pos ((rep.taken_iff distinct).mp grants)
    obtain ⟨i, grants⟩ := grants
    have inside : i < config.numEntry := DhcpConfig.lt_of_entryByIp grants.inPool
    obtain rfl : (config.entries i).addr = ip := DhcpConfig.addr_of_entryByIp grants.inPool
    obtain ⟨built, isReply, ran⟩ := acknowledge_granted clearCiaddr grants
    have kept := acknowledge_envelope (congrArg Prod.snd ran)
    rw [view_sendReply isReply] at kept
    rw [ran, takes]
    refine ⟨?_, _, granted_eq _ _ _, ?_⟩
    · show some (sendReply built p).view = _
      rw [view_sendReply isReply]
      exact congrArg (fun e => some (⟨e, _, _⟩ : View)) kept
    · rw [macs_granted]
      refine rep.acknowledged distinct inside ?_
      have vacant := isVacant_freeRegistered.mpr grants.free
      rwa [DhcpConfig.isVacant_iff, DhcpConfig.macs_freeRegistered] at vacant
  · have refuses : answered = _ := if_neg fun taken => grants ((rep.taken_iff distinct).mpr taken)
    obtain ⟨same, silent⟩ := acknowledge_denied clearCiaddr grants
    rw [silent, refuses]
    refine ⟨rfl, _, ?_, rep.without _⟩
    rw [same, DhcpConfig.freeRegistered_eq]
    rfl

/-- **One packet.** -/
theorem keeps_step (distinct : NoRepetition config) (keeps : Keeps config s book) (p : Packet) :
    (serve s p).2 = (keepBook config book (reading s p)).2 ∧
      Keeps config (serve s p).1 (keepBook config book (reading s p)).1 := by
  obtain ⟨data, _⟩ := s
  obtain ⟨macs, rfl, rep⟩ := keeps
  let s : DhcpServer := ⟨data, config.withMacs macs⟩
  by_cases isDiscover : messageType (received s p) = dhcpDiscover
  · have asks : ask (received s p) = .discover := if_pos isDiscover
    have handled : udpRecvProc s p = discover { s with dhcpData := received s p } p :=
      if_pos isDiscover
    rw [serve, handled, keepBook, reading, asks]
    exact keeps_discover rep p
  by_cases leasing : Leasing (received s p) ∧ ∃ ip, wanted (received s p) = some ip
  · obtain ⟨leasing, ip, wants⟩ := leasing
    have asks : ask (received s p) = .take ip := by
      rw [ask, if_neg isDiscover, if_pos leasing, wants]
    obtain ⟨clearCiaddr, handled⟩ := udpRecvProc_wanted leasing wants
    rw [serve, handled, keepBook, reading, asks]
    exact keeps_acknowledge rep distinct p ip clearCiaddr
  · have nothing : Leasing (received s p) → wanted (received s p) = none := fun type =>
      Option.eq_none_iff_forall_ne_some.mpr fun ip wants => leasing ⟨type, ip, wants⟩
    have asks : ask (received s p) = .nothing := by
      rw [ask, if_neg isDiscover]
      split
      · next type => rw [nothing type]
      · rfl
    rw [serve, udpRecvProc_ignored isDiscover nothing, keepBook, reading, asks]
    exact ⟨rfl, macs, rfl, rep⟩

end Serve

/-! ### Runs -/

/-- The constructor's server keeps an empty book. -/
theorem keeps_constructed {s₀ : DhcpServer} (start : Constructed s₀) :
    Keeps s₀.config s₀ ⊥ := by
  refine ⟨s₀.config.macs, rfl, start.unshared, fun i inside => ?_, fun ip client leased => ?_⟩
  · rw [start.vacant i inside, clientOf_eq_none_iff.mpr rfl]
    rfl
  · cases leased

/-- **The server keeps a book of leases.** Whatever packets it receives since its construction, its
replies are the answers of the book to what it reads, and its entries are the book. -/
theorem keeps_leaseBook {s₀ : DhcpServer} (start : Constructed s₀) (packets : List Packet) :
    (Refinement.expected serve s₀ packets).1 =
        (Refinement.expected (keepBook s₀.config) ⊥
          (Refinement.readings serve reading s₀ packets)).1 ∧
      Keeps s₀.config (Refinement.expected serve s₀ packets).2
        (Refinement.expected (keepBook s₀.config) ⊥
          (Refinement.readings serve reading s₀ packets)).2 :=
  Refinement.expected_of_readings (R := Keeps s₀.config)
    (fun _ _ p keeps => keeps_step start.distinct keeps p) (keeps_constructed start) packets

/-- One client renews its lease, another one asks for the same address. -/
theorem keeps_leaseBook_sample :
    (Refinement.expected serve sampleServer [sampleDiscover, sampleRequest, sampleRequest,
        informPacket (sampleIp 2) (sampleMac 3)]).1 =
      (Refinement.expected (keepBook sampleServer.config) ⊥
        (Refinement.readings serve reading sampleServer [sampleDiscover, sampleRequest,
          sampleRequest, informPacket (sampleIp 2) (sampleMac 3)])).1 :=
  (keeps_leaseBook constructed_sampleServer _).1

end Jblib.Ethutilities.DhcpServer
