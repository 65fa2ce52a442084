/-
**The whole channel: all its connections on one heap of buffers.**

The functions of `TcpServerChannel` on the records of all connections. What they do to one record is
what `Stream` says; here the record is looked up among those that are allocated, and a function that
uses a record after `free_s` is a fault.

* `accept`, `tx`, `poll`, `sent`, `receive`, `error` — with the address of the record where lwIP or
  the user passes one.
* `channel` — the channel as a machine. lwIP calls back for records it was given and that were not
  freed yet: `accept` sets the callbacks, `close` takes them back, and after `error` the pcb is gone.
-/

import EthUtilities.TcpServerChannel.Stream
import Mathlib.Logic.Function.Basic

namespace Jblib.Ethutilities.TcpServerChannel

open Library Library.PbufHeap

/-- The channel. `records`: the connection records between `malloc_s` and `free_s`, by address. -/
structure Channel where
  registry : Registry
  callback : Bool
  heap : Heap
  records : Address → Option TcpServerParameters

/-- What must not happen. -/
inductive ChannelFault
  | pbuf (fault : Fault)
  /-- a connection record is used after `free_s` -/
  | freedRecord (ss : Address)

/-- The channel before the first connection. -/
def initialChannel (numBroadcastConnections : Nat) (callback : Bool) : Channel :=
  ⟨construct numBroadcastConnections, callback, .empty, fun _ => none⟩

namespace Channel

/-- What a function sees that works on one record. -/
def connection (c : Channel) (ss : TcpServerParameters) : Connection :=
  ⟨c.registry, c.callback, c.heap, ss, false, []⟩

/-- The channel after a function worked on the record at `self`. -/
def update (c : Channel) (self : Address) (one : Connection) : Channel where
  registry := one.registry
  callback := c.callback
  heap := one.heap
  records := Function.update c.records self (if one.freed then none else some one.ss)

section Update

variable {c : Channel} {self other : Address} {one : Connection}

@[simp] theorem records_update_self :
    (c.update self one).records self = if one.freed then none else some one.ss :=
  Function.update_self ..

theorem records_update_of_ne (different : other ≠ self) :
    (c.update self one).records other = c.records other :=
  Function.update_of_ne different ..

end Update

/-- A function on the record at `self`. -/
def onRecord (c : Channel) (self : Address) (function : Connection → Except Fault Connection) :
    Except ChannelFault Channel :=
  match c.records self with
  | none => .error (.freedRecord self)
  | some ss =>
    match function (c.connection ss) with
    | .ok one => .ok (c.update self one)
    | .error fault => .error (.pbuf fault)

/-- `accept`, with the result of `malloc_s`. -/
def accept (c : Channel) (ss : Option Address) (newpcb : Address) : Channel :=
  match ss with
  | none => c
  | some self => c.update self
      (TcpServerChannel.accept (addConnectionToBuffer c.registry self) c.callback c.heap newpcb)

/-- `tx`. It looks at a record only if that is in the registry. -/
def tx (tcpMss : Nat) (buffer : List UInt8) (parameter : Option Address)
    (answer : Nat → TxResponse) (c : Channel) : Except ChannelFault Channel :=
  if c.registry.connectionsCounter = 0 then .ok c
  else match parameter with
    | none => (broadcastConnections c.registry).zipIdx.foldlM (fun c (self, i) =>
        c.onRecord self (txConnection tcpMss self buffer (answer i))) c
    | some self =>
      if isConnectionInBuffer c.registry self then
        c.onRecord self (txConnection tcpMss self buffer (answer 0))
      else .ok c

/-- `error`: the record leaves the registry and is freed. -/
def error (c : Channel) (self : Address) : Channel :=
  { c with
    registry := deleteConnectionFromBuffer c.registry self
    records := Function.update c.records self none }

theorem onRecord_eq {c : Channel} {self : Address} {ss : TcpServerParameters} {one : Connection}
    {function : Connection → Except Fault Connection} (live : c.records self = some ss)
    (ran : function (c.connection ss) = .ok one) :
    c.onRecord self function = .ok (c.update self one) := by
  rw [onRecord, live]
  dsimp only
  rw [ran]

end Channel

/-- What can happen to the channel. -/
inductive ChannelEvent
  | accept (ss : Option Address) (newpcb : Address)
  | tx (buffer : List UInt8) (parameter : Option Address) (answer : Nat → TxResponse)
  | poll (ss : Address) (lwip : Nat → Response)
  | sent (ss : Address) (lwip : Nat → Response)
  | receive (ss : Address) (p : Option (List (List UInt8))) (err : Err) (lwip : Nat → Response)
  | error (ss : Address)
  /-- `initialize` with or without a callback, or `deinitialize` -/
  | setCallback (callback : Bool)

def channelStep (tcpMss : Nat) (c : Channel) : ChannelEvent → Except ChannelFault Channel
  | .accept ss newpcb => .ok (c.accept ss newpcb)
  | .tx buffer parameter answer => c.tx tcpMss buffer parameter answer
  | .poll self lwip => c.onRecord self (poll self lwip)
  | .sent self lwip => c.onRecord self (sent self lwip)
  | .receive self p err lwip => c.onRecord self (receive self p err lwip)
  | .error self => .ok (c.error self)
  | .setCallback callback => .ok { c with callback }

/-- `malloc_s` returns memory that is not in use, and lwIP calls back for records in use. -/
def channelEnabled (c : Channel) : ChannelEvent → Prop
  | .accept (some self) _ => c.records self = none
  | .poll self _ | .sent self _ | .receive self _ _ _ | .error self => c.records self ≠ none
  | .accept none _ | .tx _ _ _ | .setCallback _ => True

instance : ∀ c event, Decidable (channelEnabled c event)
  | c, .accept (some self) _ => inferInstanceAs (Decidable (c.records self = none))
  | c, .poll self _ | c, .sent self _ | c, .receive self _ _ _ | c, .error self =>
    inferInstanceAs (Decidable (c.records self ≠ none))
  | _, .accept none _ | _, .tx _ _ _ | _, .setCallback _ => .isTrue trivial

/-- The channel under its events. -/
def channel (tcpMss : Nat) : Machine (Except ChannelFault Channel) ChannelEvent :=
  Machine.checked (channelStep tcpMss) channelEnabled

instance (tcpMss : Nat) (state : Except ChannelFault Channel) (event : ChannelEvent) :
    Decidable ((channel tcpMss).enabled state event) :=
  Machine.decidableEnabled _ _ state event

end Jblib.Ethutilities.TcpServerChannel
