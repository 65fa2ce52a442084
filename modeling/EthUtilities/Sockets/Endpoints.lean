/-
**The DNS server and the UDP channels of the build with an operating system, on its sockets.**

What the two do with a datagram is what their models say. Here they are one system with the table of
open descriptors, which they share with the rest of the program, and with the threads. Every call is
one step of it, also `~UdpChannel`, which closes its socket before it deletes the thread that is
blocked on it; and `deleteMainProcedure` returns to a thread that calls it on itself.

* `Os` — the open descriptors, each with its owner, and the threads.
* `openSocket` — the lines that `DnsServer::start` and `UdpChannel::construct` share.
* `start`, `stop`, `dnsCallback` — `DnsServer`.
* `construct`, `destruct`, `tx`, `receive` — `UdpChannel`; there may be any number of them.
* `exec` — one step of the system.
* `serve` — what it is for: a table of names, and channels, without descriptors and threads.
-/

import EthUtilities.DnsServer.Servers
import EthUtilities.Library.Refinement
import EthUtilities.UdpChannel.Channels

namespace Jblib.Ethutilities.Sockets

open DnsServer.Freertos UdpChannel UdpChannel.Freertos
open Library

/-! ### The operating system -/

/-- Who opened a descriptor, or runs in a thread. -/
inductive Owner
  | dnsServer
  | udpChannel (i : Nat)
  | udpVoidChannel (i : Nat)
  | other
  deriving DecidableEq

structure Os where
  sockets : Int → Option Owner
  /-- how many threads call its `voidCallback` -/
  procedures : Owner → Nat

inductive Fault
  /-- a descriptor that is not open, or of another owner -/
  | socket
  /-- a thread that does not run -/
  | procedure
  /-- an object that does not exist -/
  | object
  | dns (fault : DnsServer.Fault)

/-- What `socket` and `bind` do. -/
inductive Opening
  | noSocket
  | notBound (fd : Int)
  | bound (fd : Int)

def Opening.isBound : Opening → Bool
  | .bound _ => true
  | .noSocket | .notBound _ => false

namespace Os

variable (os : Os)

def socket (owner : Owner) (fd : Int) : Os :=
  { os with sockets := Function.update os.sockets fd (some owner) }

def closesocket (owner : Owner) (fd : Int) : Except Fault Os :=
  if os.sockets fd = some owner then
    .ok { os with sockets := Function.update os.sockets fd none }
  else .error .socket

/-- `select` and `recvfrom`. -/
def access (owner : Owner) (fd : Int) : Except Fault Unit :=
  if os.sockets fd = some owner then .ok () else .error .socket

/-- `sendto` reports an error if the descriptor is not open. -/
def sendto (owner : Owner) (fd : Int) : Except Fault Bool :=
  if os.sockets fd = none then .ok false
  else if os.sockets fd = some owner then .ok true
  else .error .socket

def addMainProcedure (owner : Owner) : Os :=
  { os with procedures := Function.update os.procedures owner (os.procedures owner + 1) }

/-- `deleteMainProcedure` and `vTaskDelete`. -/
def deleteMainProcedure (owner : Owner) : Except Fault Os :=
  if 0 < os.procedures owner then
    .ok { os with procedures := Function.update os.procedures owner (os.procedures owner - 1) }
  else .error .procedure

/-- A socket is created and bound; `-1` if there is none. -/
def openSocket (owner : Owner) : Opening → Except Fault (Os × Int)
  | .noSocket => .ok (os, -1)
  | .notBound fd => ((os.socket owner fd).closesocket owner fd).map fun os => (os, -1)
  | .bound fd => .ok (os.socket owner fd, fd)

end Os

/-! ### The system -/

structure SocketChannel where
  socket : Int
  /-- whether there is a `receiveTaskHandle_` -/
  receiveTask : Bool
  channel : Channel

structure System where
  os : Os
  dns : Server
  channels : Nat → Option SocketChannel

def System.setChannel (s : System) (i : Nat) (c : Option SocketChannel) : System :=
  { s with channels := Function.update s.channels i c }

inductive Output
  | response (bytes : List UInt8)
  | sent (i : Nat) (send : SendTo)
  | report (i : Nat) (report : Report)

/-- What does not change: the options of the DNS server, and what the users' callbacks do. -/
structure Setup where
  config : Config
  user : Nat → Report → List Call

inductive Event
  | start (opening : Opening) (replyIp : Bytes 4)
  | stop
  | addHost (hostName : List UInt8) (redirectRequest : Bool)
  | deleteHost (hostName : List UInt8)
  | dnsCallback (gethostbyname : List UInt8 → Option (Bytes 4)) (recvBuffer : Buffer)
      (reception : Reception)
  | construct (i : Nat) (opening : Opening) (dstIp : Option Buffer) (dstPort : UInt16) (task : Bool)
  | destruct (i : Nat)
  | call (i : Nat) (call : Call)
  | tx (i : Nat) (buffer : List UInt8) (parameter : Option UdpHost)
  | receive (i : Nat) (received : Option (SockaddrIn × List UInt8))
  | otherOpens (fd : Int)
  | otherCloses (fd : Int)

section Server

variable (s : System)

/-- `DnsServer::start`. -/
def start (opening : Opening) (replyIp : Bytes 4) : Except Fault System :=
  if s.dns.isStarted then .ok s
  else do
    let (os, socket) ← s.os.openSocket .dnsServer opening
    if socket = -1 then .ok { s with os, dns := { s.dns with replyIp, socket } }
    else .ok { s with
      os := os.addMainProcedure .dnsServer
      dns := { s.dns with replyIp, socket, isStarted := true } }

/-- `DnsServer::stop`. -/
def stop : Except Fault System :=
  if s.dns.isStarted then do
    let os ← s.os.deleteMainProcedure .dnsServer
    let os ← os.closesocket .dnsServer s.dns.socket
    .ok { s with os, dns := DnsServer.Freertos.stop s.dns }
  else .ok s

/-- `DnsServer::voidCallback`. -/
def dnsCallback (config : Config) (gethostbyname : List UInt8 → Option (Bytes 4))
    (recvBuffer : Buffer) (reception : Reception) : Except Fault (System × List Output) := do
  s.os.access .dnsServer s.dns.socket
  match reception with
  | .selectError | .recvfromError => (stop s).map fun s => (s, [])
  | .notReady => .ok (s, [])
  | .datagram p =>
    match reply config gethostbyname s.dns (received config recvBuffer p)
        (min p.len config.recieveBufferSize) with
    | .ok sent => .ok (s, (sent.map .response).toList)
    | .error fault => .error (.dns fault)

end Server

section Channel

variable (s : System) (i : Nat)

/-- `UdpChannel::construct`; `task` is whether there is a thread for it. -/
def construct (opening : Opening) (dstIp : Option Buffer) (dstPort : UInt16) (task : Bool) :
    Except Fault System := do
  let (os, socket) ← s.os.openSocket (.udpChannel i) opening
  if socket = -1 then
    let channel := UdpChannel.Freertos.construct false dstIp dstPort
    .ok ({ s with os }.setChannel i (some ⟨socket, false, channel⟩))
  else
    let channel := UdpChannel.Freertos.construct true dstIp dstPort
    let os := if task then os.addMainProcedure (.udpChannel i) else os
    .ok ({ s with os }.setChannel i (some ⟨socket, task, channel⟩))

def closeChannel (c : SocketChannel) (os : Os) : Except Fault Os :=
  if 0 < c.socket then os.closesocket (.udpChannel i) c.socket else .ok os

def deleteTask (c : SocketChannel) (os : Os) : Except Fault Os :=
  if c.receiveTask then os.deleteMainProcedure (.udpChannel i) else .ok os

/-- `UdpChannel::~UdpChannel`. -/
def destruct : Except Fault System :=
  match s.channels i with
  | none => .error .object
  | some c => do
    let os ← closeChannel i c s.os
    let os ← deleteTask i c os
    .ok ({ s with os }.setChannel i none)

/-- `setDestination`, `initialize` and `deinitialize`. -/
def call (called : Call) : Except Fault System :=
  match s.channels i with
  | none => .error .object
  | some c => .ok (s.setChannel i (some { c with channel := c.channel.call called }))

/-- `UdpChannel::tx`. -/
def tx (buffer : List UInt8) (parameter : Option UdpHost) : Except Fault (List Output) :=
  match s.channels i with
  | none => .error .object
  | some c => (s.os.sendto (.udpChannel i) c.socket).map fun sent =>
      if sent then (c.channel.tx buffer parameter).map (.sent i) else []

/-- `UdpChannel::voidCallback`. -/
def receive (user : Report → List Call) (received : Option (SockaddrIn × List UInt8)) :
    Except Fault (System × List Output) :=
  match s.channels i with
  | none => .error .object
  | some c => (s.os.access (.udpChannel i) c.socket).map fun _ =>
      let (channel, reports) := UdpChannel.Freertos.voidCallback user received c.channel
      (s.setChannel i (some { c with channel }), reports.map (.report i))

end Channel

def exec (setup : Setup) (s : System) : Event → Except Fault (System × List Output)
  | .start opening replyIp => (start s opening replyIp).map fun s => (s, [])
  | .stop => (stop s).map fun s => (s, [])
  | .addHost hostName redirectRequest =>
    .ok ({ s with dns := DnsServer.Freertos.addHost s.dns hostName redirectRequest }, [])
  | .deleteHost hostName => .ok ({ s with dns := DnsServer.Freertos.deleteHost s.dns hostName }, [])
  | .dnsCallback gethostbyname recvBuffer reception =>
    dnsCallback s setup.config gethostbyname recvBuffer reception
  | .construct i opening dstIp dstPort task =>
    (construct s i opening dstIp dstPort task).map fun s => (s, [])
  | .destruct i => (destruct s i).map fun s => (s, [])
  | .call i called => (call s i called).map fun s => (s, [])
  | .tx i buffer parameter => (tx s i buffer parameter).map fun outputs => (s, outputs)
  | .receive i received => receive s i (setup.user i) received
  | .otherOpens fd => .ok ({ s with os := s.os.socket .other fd }, [])
  | .otherCloses fd => (s.os.closesocket .other fd).map fun os => ({ s with os }, [])

/-! ### When there may be a step -/

/-- A new descriptor is not negative, and not one that is open. -/
def Os.Fresh (os : Os) (fd : Int) : Prop := 0 ≤ fd ∧ os.sockets fd = none

def Opening.Fresh (os : Os) : Opening → Prop
  | .noSocket => True
  | .notBound fd | .bound fd => os.Fresh fd

/-- Only threads receive; a channel is used from its constructor to its destructor; and the rest of
the program closes what it opened. -/
def Enabled (s : System) : Event → Prop
  | .start opening _ => s.dns.isStarted = false → opening.Fresh s.os
  | .stop | .addHost _ _ | .deleteHost _ => True
  | .dnsCallback _ _ _ => 0 < s.os.procedures .dnsServer
  | .construct i opening _ _ _ => s.channels i = none ∧ opening.Fresh s.os
  | .destruct i | .call i _ | .tx i _ _ => s.channels i ≠ none
  | .receive i _ => 0 < s.os.procedures (.udpChannel i)
  | .otherOpens fd => s.os.Fresh fd
  | .otherCloses fd => s.os.sockets fd = some .other

/-- Nothing is open, and the DNS server is as it is constructed. -/
def initial : System := ⟨⟨fun _ => none, fun _ => 0⟩, ⟨false, -1, Bytes.zero 4, []⟩, fun _ => none⟩

/-! ### What it is for -/

/-- The address that is told, while the server runs; for every name whether it is looked up; and the
channels, each with whether it has a socket. -/
structure Service where
  replyIp : Option (Bytes 4)
  redirect : List UInt8 → Option Bool
  channels : Nat → Option (Bool × Channel)

namespace Service

def initial : Service := ⟨none, fun _ => none, fun _ => none⟩

def setName (t : Service) (name : List UInt8) (redirect : Option Bool) : Service :=
  { t with redirect := Function.update t.redirect name redirect }

def setChannel (t : Service) (i : Nat) (c : Option (Bool × Channel)) : Service :=
  { t with channels := Function.update t.channels i c }

/-- The address for a name. -/
def address (t : Service) (config : Config) (gethostbyname : List UInt8 → Option (Bytes 4))
    (replyIp : Bytes 4) (name : List UInt8) : Option (Bytes 4) :=
  if config.responseToAllRequests then some replyIp
  else
    match t.redirect name with
    | none => none
    | some true => gethostbyname name
    | some false => some replyIp

/-- What is answered to a datagram, of which as much is seen as the receive buffer holds. -/
def answer (t : Service) (config : Config)
    (gethostbyname : List UInt8 → Option (Bytes 4)) (p : DnsServer.UdpPayload) :
    Option (List UInt8) :=
  match t.replyIp, DnsServer.receiveQuestion p.payload config.hostNameMaxSize
      (min p.len config.recieveBufferSize) with
  | some replyIp, .ok (some (len, query)) =>
    (t.address config gethostbyname replyIp (DnsServer.cString query.name)).map
      (DnsServer.response p.payload len)
  | _, _ => none

end Service

def serve (setup : Setup) (t : Service) : Event → Service × List Output
  | .start opening replyIp =>
    (if t.replyIp.isNone && opening.isBound then { t with replyIp := some replyIp } else t, [])
  | .stop => ({ t with replyIp := none }, [])
  | .addHost hostName redirectRequest =>
    (t.setName (DnsServer.cString hostName) (some redirectRequest), [])
  | .deleteHost hostName => (t.setName (DnsServer.cString hostName) none, [])
  | .dnsCallback _ _ .selectError | .dnsCallback _ _ .recvfromError =>
    ({ t with replyIp := none }, [])
  | .dnsCallback _ _ .notReady => (t, [])
  | .dnsCallback gethostbyname _ (.datagram p) =>
    (t, ((t.answer setup.config gethostbyname p).map .response).toList)
  | .construct i opening dstIp dstPort _ =>
    (t.setChannel i
      (some (opening.isBound, UdpChannel.Freertos.construct opening.isBound dstIp dstPort)), [])
  | .destruct i => (t.setChannel i none, [])
  | .call i called =>
    (t.setChannel i ((t.channels i).map fun c => (c.1, c.2.call called)), [])
  | .tx i buffer parameter =>
    (t, match t.channels i with
      | some (true, channel) => (channel.tx buffer parameter).map (.sent i)
      | _ => [])
  | .receive i received =>
    match t.channels i with
    | some (opened, channel) =>
      let (channel, reports) := UdpChannel.Freertos.voidCallback (setup.user i) received channel
      (t.setChannel i (some (opened, channel)), reports.map (.report i))
    | none => (t, [])
  | .otherOpens _ | .otherCloses _ => (t, [])

end Jblib.Ethutilities.Sockets
