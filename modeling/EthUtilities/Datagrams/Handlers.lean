/-
**The UDP handlers of the build without an operating system, on lwIP's buffers.**

`UdpChannel`, the DHCP server and the DNS server get a chain of `pbuf`s from lwIP and have to free it;
what they send they allocate, hand to `udp_sendto` and free again. What is in the buffers is what the
models of the three say.

* `Stack` — the buffers, and those that lwIP keeps a reference to because it sends them later.
* `sendBuffer` — the lines that all three share: allocate, copy, send, free.
* `tx`, `recieveCallback` — `UdpChannel`; a user's `channelCallback` may send and change the channel.
* `dhcpRecvProc`, `dnsRecvProc` — the two functions that are called `udp_recv_proc`.
* `exec` — the handlers as one system: lwIP receives, frees what it kept, and the user sends.
* `plain` — the same without buffers, from the models of the three.
-/

import EthUtilities.DhcpServer.Server
import EthUtilities.DnsServer.Servers
import EthUtilities.Library.PbufHeap
import EthUtilities.Library.Refinement
import EthUtilities.UdpChannel.Channels

namespace Jblib.Ethutilities.Datagrams

open Library Library.PbufHeap UdpChannel

/-! ### Data -/

/-- The buffers, and those that lwIP keeps for sending. -/
structure Stack where
  heap : Heap
  kept : List Nat

/-- What lwIP does about a buffer that is to be sent: `pbuf_alloc` succeeds or not, and `udp_sendto`
keeps a reference or is done with it. -/
structure Answer where
  pbufAlloc : Bool
  keeps : Bool

/-- What a user's `channelCallback` does with the channel. -/
inductive Action
  | call (call : Call)
  | tx (buffer : List UInt8) (parameter : Option UdpHost) (lwip : Nat → Answer)

def Action.call? : Action → Option Call
  | .call called => some called
  | .tx _ _ _ => none

/-- What is reported to the user, and what is sent. -/
inductive Output
  | report (report : Report)
  | send (send : Bare.SendTo)
  | reply (reply : DhcpServer.Reply)
  | response (bytes : List UInt8)

def Output.report? : Output → Option Report
  | .report reported => some reported
  | .send _ | .reply _ | .response _ => none

inductive Fault
  | pbuf (fault : PbufHeap.Fault)
  | dns (fault : DnsServer.Fault)
  /-- a datagram that is longer than IPv4 allows -/
  | overlong

/-- What does not change: `TCP_MSS`, the DNS server, and what the user's callback does. -/
structure Setup where
  tcpMss : Nat
  dns : DnsServer.Bare.Server
  user : Report → List Action

structure State where
  stack : Stack
  channel : Bare.Channel
  dhcp : DhcpServer

inductive Event
  | channelReceives (segments : List (List UInt8)) (addr : UInt32) (port : UInt16)
  | dhcpReceives (segments : List (List UInt8)) (port : UInt16) (answer : Answer)
  | dnsReceives (segments : List (List UInt8)) (answer : Answer)
  | act (action : Action)
  /-- lwIP has sent a buffer that it kept, and frees it -/
  | releases (i : Nat)

/-! ### Sending -/

/-- `udp_sendto` and `udp_sendto_if`; with the bytes that are sent. -/
def udpSendto (keeps : Bool) (p : Nat) (stack : Stack) :
    Except PbufHeap.Fault (Stack × List UInt8) := do
  let buf ← stack.heap.read p
  if keeps then
    let heap ← stack.heap.addRef p
    .ok (⟨heap, stack.kept ++ [p]⟩, buf.payload)
  else .ok (stack, buf.payload)

/-- The data are copied into a new buffer, which is sent and freed. -/
def sendBuffer (keeps : Bool) (data : List UInt8) (stack : Stack) :
    Except PbufHeap.Fault (Stack × List UInt8) := do
  let (heap, p) := stack.heap.alloc data.length
  let heap ← heap.memcpy p data
  let (stack, payload) ← udpSendto keeps p { stack with heap }
  let (heap, _) ← stack.heap.free p
  .ok ({ stack with heap }, payload)

/-- `pbuf_free`. -/
def pbufFree (p : Nat) (s : State) : Except Fault State :=
  match s.stack.heap.free p with
  | .ok (heap, _) => .ok { s with stack := { s.stack with heap } }
  | .error fault => .error (.pbuf fault)

/-- The loop of `UdpChannel::tx`, from its turn `k` on. -/
def txLoop (tcpMss : Nat) (channel : Bare.Channel) (lwip : Nat → Answer) (target : UdpHost) :
    (fuel k : Nat) → List UInt8 → Stack → Except PbufHeap.Fault (Stack × List Bare.SendTo)
  | 0, _, _, _ => .error .diverges
  | fuel + 1, k, data, stack =>
    if 0 < data.length then
      let payloadSize := min data.length tcpMss
      if (lwip k).pbufAlloc then do
        let (stack, payload) ← sendBuffer (lwip k).keeps (data.take payloadSize) stack
        let (stack, sends) ← txLoop tcpMss channel lwip target fuel (k + 1)
          (data.drop payloadSize) stack
        .ok (stack, ⟨channel.netif, target.host, target.port, payload⟩ :: sends)
      else .ok (stack, [])
    else .ok (stack, [])

/-- `UdpChannel::tx`. -/
def tx (tcpMss : Nat) (channel : Bare.Channel) (buffer : List UInt8) (parameter : Option UdpHost)
    (lwip : Nat → Answer) (stack : Stack) : Except PbufHeap.Fault (Stack × List Bare.SendTo) :=
  let target := match parameter with
    | none => ⟨channel.dstIpaddr, channel.dstPort⟩
    | some dstHost => ⟨dstHost.host, dstHost.port⟩
  txLoop tcpMss channel lwip target (buffer.length + 1) 0 buffer stack

/-! ### Receiving -/

section Receive

variable (setup : Setup)

def act (s : State) : Action → Except Fault (State × List Output)
  | .call call => .ok ({ s with channel := s.channel.call call }, [])
  | .tx buffer parameter lwip =>
    match tx setup.tcpMss s.channel buffer parameter lwip s.stack with
    | .ok (stack, sends) => .ok ({ s with stack }, sends.map .send)
    | .error fault => .error (.pbuf fault)

def actions : List Action → State → Except Fault (State × List Output)
  | [], s => .ok (s, [])
  | action :: rest, s => do
    let (s, outputs) ← act setup s action
    let (s, more) ← actions rest s
    .ok (s, outputs ++ more)

def read (s : State) (p : Nat) : Except Fault Pbuf :=
  match s.stack.heap.read p with
  | .ok buf => .ok buf
  | .error fault => .error (.pbuf fault)

/-- One turn of the loop in `recieveCallback`, in front of `pNext = pNext->next`. -/
def reportSegment (p : Nat) (s : State) : Except Fault (State × List Output) :=
  if s.channel.callback then do
    let buf ← read s p
    let report : Report := ⟨buf.payload, s.channel.dmSource⟩
    let (s, outputs) ← actions setup (setup.user report) s
    .ok (s, .report report :: outputs)
  else .ok (s, [])

/-- The loop of `recieveCallback` over the received chain. -/
def walk : (fuel : Nat) → Option Nat → State → Except Fault (State × List Output)
  | 0, _, _ => .error (.pbuf .diverges)
  | _ + 1, none, s => .ok (s, [])
  | fuel + 1, some p, s => do
    let (s, outputs) ← reportSegment setup p s
    let buf ← read s p
    let (s, more) ← walk fuel buf.next s
    .ok (s, outputs ++ more)

/-- The chain is reported if there is a callback. -/
def reportChain (p : Nat) (s : State) : Except Fault (State × List Output) :=
  if s.channel.callback then walk setup (s.stack.heap.size + 1) (some p) s else .ok (s, [])

/-- `UdpChannel::recieveCallback`. -/
def recieveCallback (p : Nat) (addr : UInt32) (port : UInt16) (s : State) :
    Except Fault (State × List Output) := do
  let s := { s with channel := { s.channel with dmSource := ⟨addr, port⟩ } }
  let (s, outputs) ← reportChain setup p s
  let s ← pbufFree p s
  .ok (s, outputs)

/-- A server's reply, if there is one, is sent; `output` is what it is with the bytes of the buffer. -/
def sendReply {α : Type} (keeps : Bool) (reply : Option α) (bytes : α → List UInt8)
    (output : α → List UInt8 → Output) (s : State) : Except Fault (State × List Output) :=
  match reply with
  | none => .ok (s, [])
  | some reply =>
    match sendBuffer keeps (bytes reply) s.stack with
    | .ok (stack, payload) => .ok ({ s with stack }, [output reply payload])
    | .error fault => .error (.pbuf fault)

/-- `DhcpServer::udp_recv_proc`. -/
def dhcpRecvProc (p : Nat) (port : UInt16) (answer : Answer) (s : State) :
    Except Fault (State × List Output) := do
  let buf ← read s p
  let (dhcp, reply) := DhcpServer.udpRecvProc s.dhcp ⟨buf.payload, port, answer.pbufAlloc⟩
  let (s, outputs) ← sendReply answer.keeps reply DhcpServer.Reply.payload
    (fun reply payload => .reply { reply with payload }) { s with dhcp }
  let s ← pbufFree p s
  .ok (s, outputs)

/-- The first buffer of a received datagram. -/
def payloadOf (bytes : List UInt8) (fits : bytes.length ≤ 65507) : DnsServer.UdpPayload :=
  ⟨fun i => bytes.getD i 0, bytes.length, fits⟩

/-- What `DnsServer::udp_recv_proc` answers to the bytes of a buffer. -/
def dnsAnswer (bytes : List UInt8) (answer : Answer) : Except Fault (Option (List UInt8)) :=
  if fits : bytes.length ≤ 65507 then
    match DnsServer.Bare.udpRecvProc setup.dns (payloadOf bytes fits)
        (if answer.pbufAlloc then some fun _ => 0 else none) with
    | .ok sent => .ok sent
    | .error fault => .error (.dns fault)
  else .error .overlong

/-- `DnsServer::udp_recv_proc`. -/
def dnsRecvProc (p : Nat) (answer : Answer) (s : State) : Except Fault (State × List Output) := do
  let buf ← read s p
  let sent ← dnsAnswer setup buf.payload answer
  let (s, outputs) ← sendReply answer.keeps sent id (fun _ payload => .response payload) s
  let s ← pbufFree p s
  .ok (s, outputs)

end Receive

/-! ### The system -/

/-- lwIP passes a chain with these segments to a handler. -/
def receive (segments : List (List UInt8)) (s : State)
    (handler : Nat → State → Except Fault (State × List Output)) :
    Except Fault (State × List Output) :=
  handler s.stack.heap.size { s with stack := { s.stack with heap := s.stack.heap.receive segments } }

def exec (setup : Setup) (s : State) : Event → Except Fault (State × List Output)
  | .channelReceives segments addr port =>
    receive segments s fun p => recieveCallback setup p addr port
  | .dhcpReceives segments port answer => receive segments s fun p => dhcpRecvProc p port answer
  | .dnsReceives segments answer => receive segments s fun p => dnsRecvProc setup p answer
  | .act action => act setup s action
  | .releases i =>
    (pbufFree (s.stack.kept.getD i 0) s).map fun s =>
      ({ s with stack := { s.stack with kept := s.stack.kept.eraseIdx i } }, [])

/-- A received chain is not empty, its first buffer no longer than a datagram, and lwIP frees what it
has. -/
def Enabled (s : State) : Event → Prop
  | .channelReceives segments _ _ | .dhcpReceives segments _ _ => segments ≠ []
  | .dnsReceives segments _ => ∃ first rest, segments = first :: rest ∧ first.length ≤ 65507
  | .act _ => True
  | .releases i => i < s.stack.kept.length

/-! ### The same without buffers -/

/-- The channel and the DHCP server, without the buffers. -/
structure Plain where
  channel : Bare.Channel
  dhcp : DhcpServer

section Plain

variable (setup : Setup)

def plainAct (channel : Bare.Channel) : Action → Bare.Channel × List Output
  | .call call => (channel.call call, [])
  | .tx buffer parameter lwip =>
    (channel, (channel.tx setup.tcpMss (fun k => (lwip k).pbufAlloc) buffer parameter).map .send)

def plainActions : List Action → Bare.Channel → Bare.Channel × List Output
  | [], channel => (channel, [])
  | action :: rest, channel =>
    let (channel, outputs) := plainAct setup channel action
    let (channel, more) := plainActions rest channel
    (channel, outputs ++ more)

def plainReport (segment : List UInt8) (channel : Bare.Channel) : Bare.Channel × List Output :=
  if channel.callback then
    let report : Report := ⟨segment, channel.dmSource⟩
    let (channel, outputs) := plainActions setup (setup.user report) channel
    (channel, .report report :: outputs)
  else (channel, [])

def plainDeliver : List (List UInt8) → Bare.Channel → Bare.Channel × List Output
  | [], channel => (channel, [])
  | segment :: segments, channel =>
    let (channel, outputs) := plainReport setup segment channel
    let (channel, more) := plainDeliver segments channel
    (channel, outputs ++ more)

/-- What the handlers do, as the models of the three have it. -/
def plain (t : Plain) : Event → Plain × List Output
  | .channelReceives segments addr port =>
    let delivered := plainDeliver setup segments { t.channel with dmSource := ⟨addr, port⟩ }
    ({ t with channel := delivered.1 }, delivered.2)
  | .dhcpReceives segments port answer =>
    let (dhcp, reply) := DhcpServer.udpRecvProc t.dhcp ⟨segments.headD [], port, answer.pbufAlloc⟩
    ({ t with dhcp }, (reply.map .reply).toList)
  | .dnsReceives segments answer =>
    match dnsAnswer setup (segments.headD []) answer with
    | .ok sent => (t, (sent.map .response).toList)
    | .error _ => (t, [])
  | .act action =>
    let (channel, outputs) := plainAct setup t.channel action
    ({ t with channel }, outputs)
  | .releases _ => (t, [])

end Plain

end Jblib.Ethutilities.Datagrams
