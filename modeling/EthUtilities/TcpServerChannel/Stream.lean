/-
**The transmit path of `TcpServerChannel`: one connection and its pending buffers.**

`tx` cuts a message into chunks of `TCP_MSS` bytes on a `pbuf` chain, `send` hands the chain to
`tcp_write` buffer by buffer, as far as window and memory allow, and `poll`, `sent` and `receive`
call it again. The functions here are those of the code on one connection record; a dangling
access or a loop that does not end is a fault.

What lwIP answers is an input: whether each `pbuf_alloc` succeeds, and for each turn of the loop in
`send` the free window (`tcp_sndbuf`) and the result of `tcp_write`. What the channel does to the
outside, it adds to `trace`; `enqueue` records what an accepted `tx` put on the chain.
-/

import EthUtilities.Library.Machine
import EthUtilities.Library.PbufHeap
import EthUtilities.TcpServerChannel.Registry

namespace Jblib.Ethutilities.TcpServerChannel

open Library Library.PbufHeap

/-- The results of `tcp_write` that `send` tells apart: `ERR_OK`, `ERR_MEM`, any other. -/
inductive Err
  | ok
  | mem
  | other
  deriving DecidableEq

/-- `TcpServerState_t`. -/
inductive TcpServerState
  | none
  | accepted
  | closing
  deriving DecidableEq

/-- The connection record `TcpServerParameters_t`. -/
structure TcpServerParameters where
  state : TcpServerState
  pcb : Address
  p : Option Nat

/-- What the channel does to lwIP and to its user, in order. -/
inductive Output
  /-- an accepted `tx` call put these bytes on the chain -/
  | enqueue (data : List UInt8)
  | tcpWrite (pcb : Address) (data : List UInt8) (result : Err)
  /-- `tcp_sent(tpcb, sent)` -/
  | tcpSent (pcb : Address)
  | tcpRecved (pcb : Address) (length : Nat)
  | channelCallback (data : List UInt8)
  /-- `close`, with the chain pointer of the record it frees -/
  | close (pcb : Address) (p : Option Nat)
  deriving DecidableEq

/-- One connection of a channel: the registry all connections share, the user's callback, the
buffers, the record and what happened so far. `freed`: the record was given to `free_s`. -/
structure Connection where
  registry : Registry
  callback : Bool
  heap : Heap
  ss : TcpServerParameters
  freed : Bool
  trace : List Output

/-- What lwIP answers in one turn of the loop in `send`. -/
structure Response where
  sndbuf : Nat
  write : Err

def Connection.emit (c : Connection) (output : Output) : Connection :=
  { c with trace := c.trace ++ [output] }

/-- The connection with another pending chain. -/
def Connection.withChain (c : Connection) (heap : Heap) (p : Option Nat) : Connection :=
  { c with heap, ss := { c.ss with p } }

/-- A new connection, as `accept` sets its record up. -/
def accept (registry : Registry) (callback : Bool) (heap : Heap) (pcb : Address) : Connection :=
  ⟨registry, callback, heap, ⟨.accepted, pcb, none⟩, false, []⟩

/-! ### Sending -/

/-- `while(freed == 0) freed = pbuf_free(p)`. -/
def freeUntilFreed : Nat → Heap → Nat → Except Fault Heap
  | 0, _, _ => .error .diverges
  | fuel + 1, heap, p => do
    let (heap, freed) ← heap.free p
    if freed = 0 then freeUntilFreed fuel heap p else .ok heap

/-- Chop the first buffer off the chain: a new reference to the next one, then free the first. -/
def chop (heap : Heap) (p : Nat) (buf : Pbuf) : Except Fault Heap := do
  let heap ← match buf.next with
    | some next => heap.addRef next
    | none => .ok heap
  freeUntilFreed buf.ref heap p

/-- The loop of `send`, from its turn `k` on. -/
def sendLoop (lwip : Nat → Response) : Nat → Nat → Connection → Except Fault Connection
  | 0, _, _ => .error .diverges
  | fuel + 1, k, c =>
    match c.ss.p with
    | none => .ok c
    | some p => do
      let buf ← c.heap.read p
      if buf.payload.length ≤ (lwip k).sndbuf then
        let c := c.emit (.tcpWrite c.ss.pcb buf.payload (lwip k).write)
        match (lwip k).write with
        | .ok => do
          let heap ← chop c.heap p buf
          sendLoop lwip fuel (k + 1) (c.withChain heap buf.next)
        | .mem => .ok (c.withChain c.heap (some p))
        | .other => .ok c
      else .ok c

def send (lwip : Nat → Response) (c : Connection) : Except Fault Connection :=
  sendLoop lwip (c.heap.size + 1) 0 c

/-! ### Transmitting -/

/-- `if(ss->p == NULL) ss->p = p; else pbuf_chain(ss->p, p)`. -/
def append (c : Connection) (p : Nat) : Except Fault Connection :=
  match c.ss.p with
  | none => .ok (c.withChain c.heap (some p))
  | some head => do
    let heap ← c.heap.chain head p
    .ok (c.withChain heap (some head))

/-- The loop of `tx` that cuts the message into chunks, from its turn `k` on. -/
def fillChain (tcpMss : Nat) (pbufAlloc : Nat → Bool) :
    Nat → Nat → List UInt8 → Connection → Except Fault Connection
  | 0, _, _, _ => .error .diverges
  | fuel + 1, k, data, c =>
    if 0 < data.length then
      let payloadSize := min data.length tcpMss
      if pbufAlloc k then do
        let (heap, p) := c.heap.alloc payloadSize
        let heap ← heap.memcpy p (data.take payloadSize)
        let c ← append { c with heap } p
        fillChain tcpMss pbufAlloc fuel (k + 1) (data.drop payloadSize) c
      else .ok c
    else .ok c

/-- What lwIP answers in one `tx` call: to the `pbuf_alloc`s, and in the final `send`. -/
structure TxResponse where
  pbufAlloc : Nat → Bool
  lwip : Nat → Response

/-- The record is stored and has nothing pending: `tx` takes the message. -/
def Accepts (self : Address) (c : Connection) : Prop :=
  isConnectionInBuffer c.registry self = true ∧ c.ss.p = none

instance (self : Address) (c : Connection) : Decidable (Accepts self c) :=
  inferInstanceAs (Decidable (_ ∧ _))

/-- `tx` with a connection parameter, on that connection. -/
def txConnection (tcpMss : Nat) (self : Address) (buffer : List UInt8) (answer : TxResponse)
    (c : Connection) : Except Fault Connection :=
  if Accepts self c then do
    let c ← fillChain tcpMss answer.pbufAlloc (buffer.length + 1) 0 buffer c
    send answer.lwip (c.emit (.enqueue (c.heap.bytes c.ss.p)))
  else .ok c

/-- `tx`. With a `NULL` parameter it calls itself for every record the registry holds; calls for
other records do not concern this connection. -/
def tx (tcpMss : Nat) (self : Address) (buffer : List UInt8) (parameter : Option Address)
    (answer : Nat → TxResponse) (c : Connection) : Except Fault Connection :=
  if c.registry.connectionsCounter = 0 then .ok c
  else match parameter with
    | none => (broadcastConnections c.registry).zipIdx.foldlM (fun c (record, i) =>
        if record = self then txConnection tcpMss self buffer (answer i) c else .ok c) c
    | some record => if record = self then txConnection tcpMss self buffer (answer 0) c else .ok c

/-! ### lwIP's callbacks -/

/-- `close`: the record leaves the registry and is freed. -/
def close (self : Address) (c : Connection) : Connection :=
  { c.emit (.close c.ss.pcb c.ss.p) with
    registry := deleteConnectionFromBuffer c.registry self, freed := true }

def poll (self : Address) (lwip : Nat → Response) (c : Connection) : Except Fault Connection :=
  match c.ss.p with
  | some _ => send lwip (c.emit (.tcpSent c.ss.pcb))
  | none => if c.ss.state = .closing then .ok (close self c) else .ok c

/-- `sent` has the same branches as `poll`. -/
def sent (self : Address) (lwip : Nat → Response) (c : Connection) : Except Fault Connection :=
  match c.ss.p with
  | some _ => send lwip (c.emit (.tcpSent c.ss.pcb))
  | none => if c.ss.state = .closing then .ok (close self c) else .ok c

/-- `receive`. The incoming chain `p` is given by its segments, `none` when the remote host closed
the connection. -/
def receive (self : Address) (p : Option (List (List UInt8))) (err : Err) (lwip : Nat → Response)
    (c : Connection) : Except Fault Connection :=
  match p with
  | none =>
    let c := { c with ss := { c.ss with state := .closing } }
    match c.ss.p with
    | none => .ok (close self c)
    | some _ => send lwip (c.emit (.tcpSent c.ss.pcb))
  | some segments =>
    if err ≠ .ok then .ok c
    else match c.ss.state with
      | .accepted =>
        let delivered := if c.callback then segments.map Output.channelCallback else []
        .ok { c with trace := c.trace ++ delivered ++
          [.tcpRecved c.ss.pcb segments.flatten.length] }
      | .closing | .none => .ok (c.emit (.tcpRecved c.ss.pcb segments.flatten.length))

/-- What can happen to the connection. `others`: other connections of the channel come and go, and
leave the registry in any state. -/
inductive ConnectionEvent
  | tx (buffer : List UInt8) (parameter : Option Address) (answer : Nat → TxResponse)
  | poll (lwip : Nat → Response)
  | sent (lwip : Nat → Response)
  | receive (p : Option (List (List UInt8))) (err : Err) (lwip : Nat → Response)
  | others (registry : Registry)
  /-- `initialize` with or without a callback, or `deinitialize` -/
  | setCallback (callback : Bool)

def connectionStep (tcpMss : Nat) (self : Address) (c : Connection) :
    ConnectionEvent → Except Fault Connection
  | .tx buffer parameter answer => tx tcpMss self buffer parameter answer c
  | .poll lwip => poll self lwip c
  | .sent lwip => sent self lwip c
  | .receive p err lwip => receive self p err lwip c
  | .others registry => .ok { c with registry }
  | .setCallback callback => .ok { c with callback }

/-- The connection under its events, which end when the record is freed. -/
def connection (tcpMss : Nat) (self : Address) : Machine (Except Fault Connection) ConnectionEvent :=
  Machine.checked (connectionStep tcpMss self) fun c _ => c.freed = false

instance (tcpMss : Nat) (self : Address) (state : Except Fault Connection)
    (event : ConnectionEvent) : Decidable ((connection tcpMss self).enabled state event) :=
  Machine.decidableEnabled _ _ state event

end Jblib.Ethutilities.TcpServerChannel
