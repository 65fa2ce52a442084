/-
**The DHCP server: its data, its lease entries and what it does with a packet.**

The functions are those of the class `DhcpServer`. `dhcp_data_` is one block of `sizeof(DHCP_TYPE)`
bytes which a received packet is copied over, in which the reply is built, and which is never
cleared in between; its members are the fields at their offsets. A pointer to an entry is its index.

* `udpRecvProc` — one received packet: the new state of the server and the reply it sends, if any.
  Whether `pbuf_alloc` succeeds comes with the packet.
* `construct` — the constructor, with its loop over the pool.
* `dhcp` — the server as a machine; every packet is enabled in every state.
-/

import EthUtilities.Library.Machine
import EthUtilities.Library.Slots
import EthUtilities.DhcpServer.Options
import Mathlib.Logic.Function.Basic

namespace Jblib.Ethutilities

open Library

namespace DhcpServer

/-! ### Data -/

/-- A hardware address; all zeros in an entry that is vacant. -/
abbrev Mac := Bytes 6

abbrev Ip := Bytes 4

/-- `dhcp_entry_t`. -/
structure DhcpEntry where
  mac : Mac
  addr : Ip
  subnet : Bytes 4
  lease : UInt32

/-- A domain name whose option fits into the options area together with all the others. -/
abbrev Domain := { name : List UInt8 // name.length ≤ 239 }

/-- `dhcp_config_t`. The entries are the memory behind `entries`, `numEntry` of them in use. -/
structure DhcpConfig where
  addr : Ip
  port : UInt16
  dns : Bytes 4
  domain : Option Domain
  numEntry : Nat
  entries : Nat → DhcpEntry

/-! ### `DHCP_TYPE` -/

/-- `sizeof(DHCP_TYPE)`. -/
def dhcpTypeSize : Nat := 516

def dpOp : Nat := 0

def dpSecs : Nat := 8

def dpFlags : Nat := 10

def dpCiaddr : Nat := 12

def dpYiaddr : Nat := 16

def dpChaddr : Nat := 28

def dpMagic : Nat := 236

def dpOptions : Nat := 240

/-- `sizeof(dp_options)`. -/
def dpOptionsSize : Nat := 275

def dhcpDiscover : UInt8 := 1

def dhcpOffer : UInt8 := 2

def dhcpRequest : UInt8 := 3

def dhcpAck : UInt8 := 5

def dhcpInform : UInt8 := 8

def magicCookie : List UInt8 := [0x63, 0x82, 0x53, 0x63]

/-- The byte `udp_recv_proc` takes for the message type: the third one of the options. -/
def messageType (data : Buffer) : UInt8 := data (dpOptions + 2)

/-- The first 6 bytes of `dp_chaddr`. -/
def hardwareAddress (data : Buffer) : Mac := data.field dpChaddr 6

end DhcpServer

open DhcpServer

/-- The server. -/
structure DhcpServer where
  dhcpData : Buffer
  config : DhcpConfig

namespace DhcpServer

/-! ### The entries -/

namespace DhcpConfig

variable (config : DhcpConfig)

def entryByIp (ip : Ip) : Option Nat :=
  Slots.search config.numEntry fun i => (config.entries i).addr = ip

def entryByMac (mac : Mac) : Option Nat :=
  Slots.search config.numEntry fun i => (config.entries i).mac = mac

def isVacant (i : Nat) : Bool := (config.entries i).mac = Bytes.zero 6

def vacantAddress : Option Nat := Slots.search config.numEntry config.isVacant

/-- `memcpy(entry->mac, …, 6)`. -/
def setMac (i : Nat) (mac : Mac) : DhcpConfig :=
  { config with entries := Function.update config.entries i { config.entries i with mac } }

def freeEntry (i : Nat) : DhcpConfig := config.setMac i (Bytes.zero 6)

/-- Step 2 of the code: if the hardware address is registered, its entry is freed. -/
def freeRegistered (mac : Mac) : DhcpConfig :=
  match config.entryByMac mac with
  | some i => config.freeEntry i
  | none => config

end DhcpConfig

/-! ### Replies -/

/-- `*ptr++ = …` for some bytes, or `memcpy(ptr, …); ptr += …`. -/
def put (state : Buffer × Nat) (bytes : List UInt8) : Buffer × Nat :=
  (state.1.write state.2 bytes, state.2 + bytes.length)

/-- `fill_options`. -/
def fillOptions (data : Buffer) (config : DhcpConfig) (msgType : UInt8) (entry : DhcpEntry) :
    Buffer :=
  let ptr := put (data, dpOptions) [dhcpMessagetype, 1, msgType]
  let ptr := put (put ptr [dhcpServerid, 4]) config.addr.val
  let ptr := put ptr [dhcpLeasetime, 4, (entry.lease >>> 24).toUInt8, (entry.lease >>> 16).toUInt8,
    (entry.lease >>> 8).toUInt8, entry.lease.toUInt8]
  let ptr := put (put ptr [dhcpSubnetmask, 4]) entry.subnet.val
  let ptr := if config.addr ≠ Bytes.zero 4 then put (put ptr [dhcpRouter, 4]) config.addr.val
    else ptr
  let ptr := match config.domain with
    | some domain => put (put ptr [dhcpDnsdomain, UInt8.ofNat domain.val.length]) domain.val
    | none => ptr
  let ptr := if config.dns ≠ Bytes.zero 4 then put (put ptr [dhcpDnsserver, 4]) config.dns.val
    else ptr
  (put ptr [dhcpEnd]).1

/-- What `udp_sendto_if` sends to the broadcast address. -/
structure Reply where
  payload : List UInt8
  port : UInt16
  deriving DecidableEq

def Reply.yiaddr (reply : Reply) : List UInt8 := (reply.payload.drop dpYiaddr).take 4

def Reply.chaddr (reply : Reply) : List UInt8 := (reply.payload.drop dpChaddr).take 6

/-- The value of the first option, which `fill_options` makes the message type. -/
def Reply.msgType (reply : Reply) : List UInt8 := (reply.payload.drop (dpOptions + 2)).take 1

/-- A received packet, and whether `pbuf_alloc` succeeds for the reply to it. -/
structure Packet where
  payload : List UInt8
  port : UInt16
  pbufAlloc : Bool

/-- `dhcp_data_` after the packet was copied in. -/
def received (s : DhcpServer) (p : Packet) : Buffer :=
  s.dhcpData.write 0 (p.payload.take (min p.payload.length dhcpTypeSize))

/-- Steps 4 and 5 of the code: the fields and options of a reply, with the address `yiaddr`. -/
def buildReply (data : Buffer) (config : DhcpConfig) (msgType : UInt8) (entry : DhcpEntry)
    (yiaddr : Ip) : Buffer :=
  let data := data.write dpOp [2]
  let data := data.write dpSecs [0, 0]
  let data := data.write dpFlags [0, 0]
  let data := data.write dpYiaddr yiaddr.val
  let data := data.write dpMagic magicCookie
  let data := data.write dpOptions (List.replicate dpOptionsSize 0)
  fillOptions data config msgType entry

def sendReply (data : Buffer) (p : Packet) : Reply := ⟨data.read 0 dhcpTypeSize, p.port⟩

/-! ### Message types -/

/-- `case DHCP_DISCOVER`, with the packet already in `dhcp_data_`. -/
def discover (s : DhcpServer) (p : Packet) : DhcpServer × Option Reply :=
  match s.config.entryByMac (hardwareAddress s.dhcpData) <|> s.config.vacantAddress with
  | none => (s, none)
  | some i =>
    let entry := s.config.entries i
    let data := buildReply s.dhcpData s.config dhcpOffer entry entry.addr
    ({ s with dhcpData := data }, if p.pbufAlloc then some (sendReply data p) else none)

/-- Steps 2 to 6 of `case DHCP_REQUEST` and of `case DHCP_INFORM`, for the requested address `ip`.
Only the second one clears `dp_ciaddr` in the reply. -/
def acknowledge (s : DhcpServer) (p : Packet) (ip : Ip) (clearCiaddr : Bool) :
    DhcpServer × Option Reply :=
  let mac := hardwareAddress s.dhcpData
  let config := s.config.freeRegistered mac
  match config.entryByIp ip with
  | none => ({ s with config }, none)
  | some i =>
    if config.isVacant i then
      let data := buildReply s.dhcpData config dhcpAck (config.entries i) ip
      let data := if clearCiaddr then data.write dpCiaddr [0, 0, 0, 0] else data
      if p.pbufAlloc then (⟨data, config.setMac i mac⟩, some (sendReply data p))
      else (⟨data, config⟩, none)
    else ({ s with config }, none)

/-- The requested address of a `DHCP_REQUEST`: option 50, if it is there and has 4 bytes. -/
def requestedAddress (data : Buffer) : Option Ip :=
  match findDhcpOption (data.shift dpOptions) dpOptionsSize dhcpIpaddress with
  | none => none
  | some ptr => if (data.shift dpOptions) (ptr + 1) ≠ 4 then none
    else some ((data.shift dpOptions).field (ptr + 2) 4)

/-- `case DHCP_REQUEST`. -/
def request (s : DhcpServer) (p : Packet) : DhcpServer × Option Reply :=
  match requestedAddress s.dhcpData with
  | none => (s, none)
  | some ip => acknowledge s p ip false

/-- `case DHCP_INFORM`: the requested address is the client's own. -/
def inform (s : DhcpServer) (p : Packet) : DhcpServer × Option Reply :=
  acknowledge s p (s.dhcpData.field dpCiaddr 4) true

/-- `udp_recv_proc`. -/
def udpRecvProc (s : DhcpServer) (p : Packet) : DhcpServer × Option Reply :=
  let s := { s with dhcpData := received s p }
  if messageType s.dhcpData = dhcpDiscover then discover s p
  else if messageType s.dhcpData = dhcpRequest then request s p
  else if messageType s.dhcpData = dhcpInform then inform s p
  else (s, none)

/-- The server under received packets. -/
def dhcp : Machine DhcpServer Packet where
  enabled _ _ := True
  next s p := (udpRecvProc s p).1

/-! ### Construction -/

/-- The entry the constructor writes: vacant, with the server's address up to the last byte. -/
def poolEntry (addr : Ip) (last : UInt8) : DhcpEntry where
  mac := Bytes.zero 6
  addr := ⟨addr.val.set 3 last, by rw [List.length_set, addr.property]⟩
  subnet := ⟨[255, 255, 255, 0], rfl⟩
  lease := 24 * 60 * 60

/-- The loop of the constructor from turn `i` on, with the number of entries it ends with. When it
meets the server's own address, it goes one address on and uses one entry less. -/
def poolLoop (addr : Ip) : Nat → Nat → UInt8 → UInt8 → (Nat → DhcpEntry) →
    UInt8 × (Nat → DhcpEntry)
  | 0, _, _, ipCount, entries => (ipCount, entries)
  | fuel + 1, i, startIp, ipCount, entries =>
    if i < ipCount.toNat then
      let own := startIp.toNat + i = (addr.val.getD 3 0).toNat
      let startIp := if own then startIp + 1 else startIp
      let ipCount := if own then ipCount - 1 else ipCount
      poolLoop addr fuel (i + 1) startIp ipCount
        (Function.update entries i (poolEntry addr (startIp + UInt8.ofNat i)))
    else (ipCount, entries)

/-- The constructor. `malloc`: the memory of the entries, if there is any. The result is `none` when
it returns before it registers `udp_recv_proc`. -/
def construct (ipAddr : UInt32) (domain : Option Domain) (startIp ipCount : UInt8)
    (malloc : Option (Nat → DhcpEntry)) : Option DhcpServer :=
  let addr : Ip := ⟨[ipAddr.toUInt8, (ipAddr >>> 8).toUInt8, (ipAddr >>> 16).toUInt8,
    (ipAddr >>> 24).toUInt8], rfl⟩
  match malloc with
  | none => none
  | some entries =>
    if ipCount = 0 then none
    else
      let pool := poolLoop addr ipCount.toNat 0 startIp ipCount entries
      some ⟨fun _ => 0, ⟨addr, 67, addr, domain, pool.1.toNat, pool.2⟩⟩

end DhcpServer

end Jblib.Ethutilities
