/-
**The two `UdpChannel`s.**

* `htons`, `ntohs` — the byte order of ports, on a little-endian host.
* `Bare` — the channel on lwIP's callbacks. Its ports are in host order throughout, as `udp_sendto`
  takes them.
* `Freertos` — the channel on sockets. The ports in its `sockaddr_in`s are in network order.
* `Implementation` — what a user of either channel sees.

A user's `channelCallback` is given by the calls that it makes on the channel.
-/

import EthUtilities.Library.Buffer

namespace Jblib.Ethutilities

open Library

namespace UdpChannel

/-- `UdpHost_t`. The host is an address as lwIP and the sockets keep it, in network order. -/
structure UdpHost where
  host : UInt32
  port : UInt16
  deriving DecidableEq

/-- The bytes of a port in the other order. -/
def htons (port : UInt16) : UInt16 := port <<< 8 ||| port >>> 8

def ntohs (port : UInt16) : UInt16 := port <<< 8 ||| port >>> 8

/-- `htonl(LWIP_MAKEU32(ip[0], ip[1], ip[2], ip[3]))`, which `IP4_ADDR` sets too; without an address
it is that of any host. -/
def makeAddress : Option Buffer → UInt32
  | none => 0
  | some ip => (ip 0).toUInt32 ||| (ip 1).toUInt32 <<< 8 ||| (ip 2).toUInt32 <<< 16 |||
      (ip 3).toUInt32 <<< 24

/-- What a user's callback does with the channel. -/
inductive Call
  | setDestination (target : UdpHost)
  | initializeChannel
  | deinitializeChannel

/-- A datagram on its way: address and number of the port it is for. -/
structure Datagram where
  destination : UdpHost
  payload : List UInt8
  deriving DecidableEq

/-- What `channelCallback` is called with: data and sender. -/
structure Report where
  data : List UInt8
  source : UdpHost
  deriving DecidableEq

/-! ### The channel on lwIP -/

namespace Bare

/-- The channel; `netif` is an address. -/
structure Channel where
  dstIpaddr : UInt32
  dstPort : UInt16
  netif : Option Nat
  /-- whether there is a `callback_` -/
  callback : Bool
  dmSource : UdpHost
  deriving DecidableEq

/-- A call of `udp_sendto`, or with a netif of `udp_sendto_if`. -/
structure SendTo where
  netif : Option Nat
  dstIpaddr : UInt32
  dstPort : UInt16
  payload : List UInt8
  deriving DecidableEq

/-- lwIP takes the port in host order. -/
def SendTo.datagram (send : SendTo) : Datagram := ⟨⟨send.dstIpaddr, send.dstPort⟩, send.payload⟩

def construct (dstIp : Option Buffer) (dstPort : UInt16) (netif : Option Nat) : Channel :=
  ⟨makeAddress dstIp, dstPort, netif, false, ⟨0, 0⟩⟩

namespace Channel

variable (channel : Channel)

def setDestination (target : UdpHost) : Channel :=
  { channel with dstIpaddr := target.host, dstPort := target.port }

def getDestinationHost : UInt32 := channel.dstIpaddr

def getDestinationPort : UInt16 := channel.dstPort

def call : Call → Channel
  | .setDestination target => channel.setDestination target
  | .initializeChannel => { channel with callback := true }
  | .deinitializeChannel => { channel with callback := false }

/-- The loop of `tx`, from its turn `k` on. It ends by itself when `fuel` is at least the number of
bytes, for a positive `TCP_MSS`. -/
def txLoop (tcpMss : Nat) (pbufAlloc : Nat → Bool) (target : UdpHost) :
    (fuel k : Nat) → List UInt8 → List SendTo
  | 0, _, _ => []
  | fuel + 1, k, data =>
    if 0 < data.length then
      let payloadSize := min data.length tcpMss
      if pbufAlloc k then
        ⟨channel.netif, target.host, target.port, data.take payloadSize⟩ ::
          txLoop tcpMss pbufAlloc target fuel (k + 1) (data.drop payloadSize)
      else []
    else []

/-- `tx`, with the host that the connection parameter points at, if there is one. -/
def tx (tcpMss : Nat) (pbufAlloc : Nat → Bool) (buffer : List UInt8) (parameter : Option UdpHost) :
    List SendTo :=
  let target := match parameter with
    | none => ⟨channel.dstIpaddr, channel.dstPort⟩
    | some dstHost => ⟨dstHost.host, dstHost.port⟩
  channel.txLoop tcpMss pbufAlloc target buffer.length 0 buffer

end Channel

/-- The loop over the segments of the received chain. The callback may remove itself. -/
def deliver (user : Report → List Call) : List (List UInt8) → Channel → Channel × List Report
  | [], channel => (channel, [])
  | segment :: segments, channel =>
    if channel.callback then
      let report := ⟨segment, channel.dmSource⟩
      let (channel, reports) := deliver user segments ((user report).foldl Channel.call channel)
      (channel, report :: reports)
    else deliver user segments channel

/-- `recieveCallback` for a chain with these segments. -/
def recieveCallback (user : Report → List Call) (p : List (List UInt8)) (addr : UInt32)
    (port : UInt16) (channel : Channel) : Channel × List Report :=
  let channel := { channel with dmSource := ⟨addr, port⟩ }
  if channel.callback then deliver user p channel else (channel, [])

end Bare

/-! ### The channel on sockets -/

namespace Freertos

/-- `struct sockaddr_in`, with the port in network order. -/
structure SockaddrIn where
  sinFamily : UInt8
  sinPort : UInt16
  sinAddr : UInt32
  deriving DecidableEq

def pfInet : UInt8 := 2

/-- What `memset` leaves. -/
def SockaddrIn.zero : SockaddrIn := ⟨0, 0, 0⟩

structure Channel where
  dstAddr : SockaddrIn
  /-- whether there is a `callback_` -/
  callback : Bool
  dmSource : UdpHost
  deriving DecidableEq

/-- A call of `sendto`. -/
structure SendTo where
  dstAddr : SockaddrIn
  payload : List UInt8
  deriving DecidableEq

/-- The sockets take the port in network order. -/
def SendTo.datagram (send : SendTo) : Datagram :=
  ⟨⟨send.dstAddr.sinAddr, ntohs send.dstAddr.sinPort⟩, send.payload⟩

/-- The constructor; `bound`: there is a socket, and it could be bound. -/
def construct (bound : Bool) (dstIp : Option Buffer) (dstPort : UInt16) : Channel :=
  if bound then ⟨⟨pfInet, htons dstPort, makeAddress dstIp⟩, false, ⟨0, 0⟩⟩
  else ⟨.zero, false, ⟨0, 0⟩⟩

namespace Channel

variable (channel : Channel)

def setDestination (target : UdpHost) : Channel :=
  { channel with
    dstAddr := { channel.dstAddr with sinPort := htons target.port, sinAddr := target.host } }

def getDestinationHost : UInt32 := channel.dstAddr.sinAddr

def getDestinationPort : UInt16 := channel.dstAddr.sinPort

def call : Call → Channel
  | .setDestination target => channel.setDestination target
  | .initializeChannel => { channel with callback := true }
  | .deinitializeChannel => { channel with callback := false }

/-- `tx`, with the host that the connection parameter points at, if there is one. -/
def tx (buffer : List UInt8) (parameter : Option UdpHost) : List SendTo :=
  let dstAddr : SockaddrIn := { SockaddrIn.zero with sinFamily := pfInet }
  let dstAddr := match parameter with
    | none => channel.dstAddr
    | some dstHost => { dstAddr with sinPort := htons dstHost.port, sinAddr := dstHost.host }
  [⟨dstAddr, buffer⟩]

end Channel

/-- `voidCallback`; `received` is what `recvfrom` yields, `none` on an error. -/
def voidCallback (user : Report → List Call) (received : Option (SockaddrIn × List UInt8))
    (channel : Channel) : Channel × List Report :=
  match received with
  | none => (channel, [])
  | some (srcAddr, rxBuffer) =>
    let channel := { channel with dmSource := ⟨srcAddr.sinAddr, ntohs srcAddr.sinPort⟩ }
    if channel.callback then
      let report := ⟨rxBuffer, channel.dmSource⟩
      ((user report).foldl Channel.call channel, [report])
    else (channel, [])

end Freertos

/-! ### Both channels -/

/-- **A channel as its user sees it**: its destination and the datagrams that `tx` sends. -/
structure Implementation where
  Channel : Type
  setDestination : Channel → UdpHost → Channel
  getDestinationHost : Channel → UInt32
  getDestinationPort : Channel → UInt16
  tx : Channel → List UInt8 → Option UdpHost → List Datagram

def bare (tcpMss : Nat) (pbufAlloc : Nat → Bool) : Implementation where
  Channel := Bare.Channel
  setDestination := Bare.Channel.setDestination
  getDestinationHost := Bare.Channel.getDestinationHost
  getDestinationPort := Bare.Channel.getDestinationPort
  tx channel buffer parameter :=
    (channel.tx tcpMss pbufAlloc buffer parameter).map Bare.SendTo.datagram

def freertos : Implementation where
  Channel := Freertos.Channel
  setDestination := Freertos.Channel.setDestination
  getDestinationHost := Freertos.Channel.getDestinationHost
  getDestinationPort := Freertos.Channel.getDestinationPort
  tx channel buffer parameter := (channel.tx buffer parameter).map Freertos.SendTo.datagram

/-- `JB_LIB_OS == 0`, or not. -/
inductive Platform
  | bare
  | freertos
  deriving DecidableEq

/-- The channel of a platform. -/
def implementation (tcpMss : Nat) (pbufAlloc : Nat → Bool) : Platform → Implementation
  | .bare => bare tcpMss pbufAlloc
  | .freertos => freertos

end UdpChannel

end Jblib.Ethutilities
