/-
**`UdpVoidChannel`: a socket that two threads may close.**

The thread of a channel blocks in `poll`, on the descriptor that the constructor opened; meanwhile
other threads send, and close the socket if that fails. A step of the system is what a thread does
from one `poll` to the next: `poll` is the only call that is taken to block, and a thread is not
interrupted by the others elsewhere.

* `tx`, `errorExit` — both close the socket and forget it.
* `wake` — `rxHandler` from one `poll` to the next. Its callback may send; what it sends comes with
  the datagram, and need not be the same when the datagram comes again.
* `exec` — one step of any number of channels and of the program around them.
* `serve` — what it is for: every channel is open or not, and knows whom it answers.
-/

import EthUtilities.Sockets.Endpoints

namespace Jblib.Ethutilities.UdpVoidChannel

open Sockets UdpChannel.Freertos

/-! ### One channel -/

structure Channel where
  socket : Int
  dstAddr : SockaddrIn

/-- What `sendto` reports; `notConnected` is the error 118. -/
inductive SendResult
  | sent
  | notConnected
  | failed

/-- A call of `tx`. -/
structure Tx where
  data : List UInt8
  connectionParameter : Option SockaddrIn
  result : SendResult

/-- What `poll`, and then `ioctlsocket` and `recvfrom` report to `rxHandler`. -/
inductive Wake
  | idle
  | pollFailed
  | ioctlFailed
  | recvfromFailed
  | empty
  /-- `calls`: what the callback sends, if there is one -/
  | datagram (srcAddr : SockaddrIn) (data : List UInt8) (calls : Option (List Tx))

inductive Output
  | sent (i : Nat) (send : SendTo)
  | report (i : Nat) (srcAddr : SockaddrIn) (data : List UInt8)

section Channel

variable (i : Nat)

/-- `tx`. -/
def tx (call : Tx) (c : Channel) (os : Os) : Except Fault (Os × Channel × List Output) :=
  if c.socket < 0 then .ok (os, c, [])
  else do
    os.access (.udpVoidChannel i) c.socket
    match call.result with
    | .sent => .ok (os, c, [.sent i ⟨call.connectionParameter.getD c.dstAddr, call.data⟩])
    | .notConnected => .ok (os, c, [])
    | .failed =>
      (os.closesocket (.udpVoidChannel i) c.socket).map fun os => (os, { c with socket := -1 }, [])

/-- The calls of a callback. -/
def txs : List Tx → Channel → Os → Except Fault (Os × Channel × List Output)
  | [], c, os => .ok (os, c, [])
  | call :: calls, c, os => do
    let (os, c, outputs) ← tx i call c os
    let (os, c, more) ← txs calls c os
    .ok (os, c, outputs ++ more)

/-- `errorExit`; to close a negative descriptor does nothing. -/
def errorExit (c : Channel) (os : Os) : Except Fault (Os × Channel × List Output) :=
  if c.socket < 0 then .ok (os, { c with socket := -1 }, [])
  else (os.closesocket (.udpVoidChannel i) c.socket).map fun os => (os, { c with socket := -1 }, [])

/-- What is done with a datagram; the destination changes behind the callback, if there is one. -/
def deliver (srcAddr : SockaddrIn) (data : List UInt8) (calls : Option (List Tx)) (c : Channel)
    (os : Os) : Except Fault (Os × Channel × List Output) :=
  match calls with
  | none => .ok (os, { c with dstAddr := srcAddr }, [])
  | some calls => (txs i calls c os).map fun (os, c, outputs) =>
      (os, { c with dstAddr := srcAddr }, .report i srcAddr data :: outputs)

/-- `rxHandler` from `poll` to `poll`. A socket that was closed meanwhile makes `ioctlsocket` fail. -/
def wake (result : Wake) (c : Channel) (os : Os) : Except Fault (Os × Channel × List Output) :=
  match result with
  | .idle => .ok (os, c, [])
  | .pollFailed => errorExit i c os
  | .ioctlFailed | .recvfromFailed | .empty | .datagram _ _ _ =>
    if c.socket < 0 then errorExit i c os
    else do
      os.access (.udpVoidChannel i) c.socket
      match result with
      | .datagram srcAddr data calls => deliver i srcAddr data calls c os
      | .empty => .ok (os, c, [])
      | _ => errorExit i c os

end Channel

/-! ### The system -/

/-- The channels, and the descriptor that each thread polls. -/
structure System where
  os : Os
  channels : Nat → Option Channel
  polled : Nat → Option Int

inductive Event
  | construct (i : Nat) (opening : Opening)
  | destruct (i : Nat)
  | tx (i : Nat) (call : Tx)
  | wake (i : Nat) (result : Wake)
  | otherOpens (fd : Int)
  | otherCloses (fd : Int)

section System

variable (s : System) (i : Nat)

/-- The constructor; a thread is started if the socket is open. -/
def construct (opening : Opening) : Except Fault System :=
  (s.os.openSocket (.udpVoidChannel i) opening).map fun (os, socket) =>
    ⟨os, Function.update s.channels i (some ⟨socket, .zero⟩),
      Function.update s.polled i (if socket < 0 then none else some socket)⟩

/-- The destructor. It does not end the thread. -/
def destruct : Except Fault System :=
  match s.channels i with
  | none => .error .object
  | some c =>
    (if 0 < c.socket then s.os.closesocket (.udpVoidChannel i) c.socket else .ok s.os).map fun os =>
      { s with os, channels := Function.update s.channels i none }

/-- A call on a channel. -/
def onChannel (function : Channel → Os → Except Fault (Os × Channel × List Output)) :
    Except Fault (System × List Output) :=
  match s.channels i with
  | none => .error .object
  | some c => (function c s.os).map fun (os, c, outputs) =>
      ({ s with os, channels := Function.update s.channels i (some c) }, outputs)

/-- The loop of `rxHandler` ends when the socket is closed. -/
def loop : System :=
  match s.channels i with
  | some c => if c.socket < 0 then { s with polled := Function.update s.polled i none } else s
  | none => s

end System

def exec (s : System) : Event → Except Fault (System × List Output)
  | .construct i opening => (construct s i opening).map fun s => (s, [])
  | .destruct i => (destruct s i).map fun s => (s, [])
  | .tx i call => onChannel s i (tx i call)
  | .wake i result => (onChannel s i (wake i result)).map fun (s, outputs) => (loop s i, outputs)
  | .otherOpens fd => .ok ({ s with os := s.os.socket .other fd }, [])
  | .otherCloses fd => (s.os.closesocket .other fd).map fun os => ({ s with os }, [])

/-- Channels are used from the constructor to the destructor, also by their threads. -/
def Enabled (s : System) : Event → Prop
  | .construct i opening => s.channels i = none ∧ s.polled i = none ∧ opening.Fresh s.os
  | .destruct i | .tx i _ => s.channels i ≠ none
  | .wake i _ => s.polled i ≠ none ∧ s.channels i ≠ none
  | .otherOpens fd => s.os.Fresh fd
  | .otherCloses fd => s.os.sockets fd = some .other

def initial : System := ⟨⟨fun _ => none, fun _ => 0⟩, fun _ => none, fun _ => none⟩

/-! ### What it is for -/

/-- Whether a channel is open, and whom it answers. -/
structure Peer where
  isOpen : Bool
  dstAddr : SockaddrIn

namespace Peer

variable (i : Nat) (peer : Peer)

def tx (call : Tx) : Peer × List Output :=
  if peer.isOpen then
    match call.result with
    | .sent => (peer, [.sent i ⟨call.connectionParameter.getD peer.dstAddr, call.data⟩])
    | .notConnected => (peer, [])
    | .failed => ({ peer with isOpen := false }, [])
  else (peer, [])

def txs (peer : Peer) : List Tx → Peer × List Output
  | [] => (peer, [])
  | call :: calls =>
    let (peer, outputs) := peer.tx i call
    let (peer, more) := peer.txs calls
    (peer, outputs ++ more)

/-- Only an open channel receives, and it answers the last one it received from. -/
def wake (result : Wake) : Peer × List Output :=
  if peer.isOpen then
    match result with
    | .idle | .empty => (peer, [])
    | .pollFailed | .ioctlFailed | .recvfromFailed => ({ peer with isOpen := false }, [])
    | .datagram srcAddr data calls =>
      match calls with
      | none => ({ peer with dstAddr := srcAddr }, [])
      | some calls =>
        let (peer, outputs) := peer.txs i calls
        ({ peer with dstAddr := srcAddr }, .report i srcAddr data :: outputs)
  else (peer, [])

end Peer

/-- A step of one peer, if it is there. -/
def onPeer (t : Nat → Option Peer) (i : Nat) (function : Peer → Peer × List Output) :
    (Nat → Option Peer) × List Output :=
  match t i with
  | none => (t, [])
  | some peer => (Function.update t i (some (function peer).1), (function peer).2)

def serve (t : Nat → Option Peer) : Event → (Nat → Option Peer) × List Output
  | .construct i opening => (Function.update t i (some ⟨opening.isBound, .zero⟩), [])
  | .destruct i => (Function.update t i none, [])
  | .tx i call => onPeer t i fun peer => peer.tx i call
  | .wake i result => onPeer t i fun peer => peer.wake i result
  | .otherOpens _ | .otherCloses _ => (t, [])

end Jblib.Ethutilities.UdpVoidChannel
