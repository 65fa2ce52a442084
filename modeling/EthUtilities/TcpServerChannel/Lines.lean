/-
**The channel without its buffers: every connection is a queue of segments.**

`Channel` says what the functions of all connections do to the records and to the buffers. What they do
to lwIP and to the user is in the traces of `Stream`, which the channel drops.

* `Channel.exec` — one event of the channel with what it does to the outside, and for which record.
  `exec_fst`, `answers_exec`: without that it is `channelStep`, and its runs are those of `channel`.
* `Line` — a connection without buffers: its segments that are not written yet, in order.
* `serve` — what the channel is for: the registry and the lines, each of them for itself. It uses a
  freed record when the channel does, and has no other faults.
-/

import EthUtilities.Library.Refinement
import EthUtilities.TcpServerChannel.Channel
import EthUtilities.TcpServerChannel.Progress

namespace Jblib.Ethutilities.TcpServerChannel

open Library Library.PbufHeap

/-! ### The channel and what it does to the outside -/

namespace Channel

/-- A function on the record at `self`. -/
def report (c : Channel) (self : Address) (function : Connection → Except Fault Connection) :
    Except ChannelFault (Channel × List (Address × Output)) :=
  match c.records self with
  | none => .error (.freedRecord self)
  | some ss =>
    match function (c.connection ss) with
    | .ok one => .ok (c.update self one, one.trace.map fun output => (self, output))
    | .error fault => .error (.pbuf fault)

/-- The calls of a broadcast. -/
def reportTx (tcpMss : Nat) (buffer : List UInt8) (answer : Nat → TxResponse) :
    List (Address × Nat) → Channel → Except ChannelFault (Channel × List (Address × Output))
  | [], c => .ok (c, [])
  | (self, i) :: calls, c => do
    let (c, outputs) ← c.report self (txConnection tcpMss self buffer (answer i))
    let (c, more) ← reportTx tcpMss buffer answer calls c
    .ok (c, outputs ++ more)

def exec (tcpMss : Nat) (c : Channel) :
    ChannelEvent → Except ChannelFault (Channel × List (Address × Output))
  | .accept ss newpcb => .ok (c.accept ss newpcb, [])
  | .tx buffer parameter answer =>
    if c.registry.connectionsCounter = 0 then .ok (c, [])
    else match parameter with
      | none => reportTx tcpMss buffer answer (broadcastConnections c.registry).zipIdx c
      | some self =>
        if isConnectionInBuffer c.registry self then
          c.report self (txConnection tcpMss self buffer (answer 0))
        else .ok (c, [])
  | .poll self lwip => c.report self (poll self lwip)
  | .sent self lwip => c.report self (sent self lwip)
  | .receive self p err lwip => c.report self (receive self p err lwip)
  | .error self => .ok (c.error self, [])
  | .setCallback callback => .ok ({ c with callback }, [])

theorem report_fst (c : Channel) (self : Address)
    (function : Connection → Except Fault Connection) :
    (c.report self function).map Prod.fst = c.onRecord self function := by
  unfold report onRecord
  cases c.records self with
  | none => rfl
  | some ss =>
    dsimp only
    cases function (c.connection ss) with
    | ok one => rfl
    | error fault => rfl

theorem reportTx_fst (tcpMss : Nat) (buffer : List UInt8) (answer : Nat → TxResponse)
    (calls : List (Address × Nat)) (c : Channel) :
    (reportTx tcpMss buffer answer calls c).map Prod.fst = calls.foldlM (fun c (self, i) =>
      c.onRecord self (txConnection tcpMss self buffer (answer i))) c := by
  induction calls generalizing c with
  | nil => rfl
  | cons call calls ih =>
    obtain ⟨self, i⟩ := call
    rw [reportTx, List.foldlM_cons]
    dsimp only
    rw [← report_fst]
    cases c.report self (txConnection tcpMss self buffer (answer i)) with
    | error fault => rfl
    | ok reported =>
      refine Eq.trans ?_ (ih reported.1)
      show ((reportTx tcpMss buffer answer calls reported.1).bind _).map Prod.fst = _
      cases reportTx tcpMss buffer answer calls reported.1 with
      | error fault => rfl
      | ok rest => rfl

/-- **Without the outputs it is the channel.** -/
theorem exec_fst (tcpMss : Nat) (c : Channel) (event : ChannelEvent) :
    (exec tcpMss c event).map Prod.fst = channelStep tcpMss c event := by
  cases event with
  | accept _ _ | error _ | setCallback _ => rfl
  | poll _ _ | sent _ _ | receive _ _ _ _ => exact report_fst c _ _
  | tx buffer parameter answer =>
    unfold exec channelStep Channel.tx
    dsimp only
    by_cases zero : c.registry.connectionsCounter = 0
    · rw [if_pos zero, if_pos zero]
      rfl
    rw [if_neg zero, if_neg zero]
    cases parameter with
    | none => exact reportTx_fst tcpMss buffer answer _ c
    | some self =>
      dsimp only
      by_cases stored : isConnectionInBuffer c.registry self = true
      · rw [if_pos stored, if_pos stored]
        exact report_fst c self _
      · rw [if_neg stored, if_neg stored]
        rfl

/-- The same for runs: they fault alike, and end in the same channel. -/
theorem answers_exec (tcpMss : Nat) (c : Channel) (events : List ChannelEvent) :
    (Refinement.answers (exec tcpMss) c events).map Prod.snd = (channel tcpMss).run (.ok c) events :=
  Refinement.answers_run (exec_fst tcpMss) c events

end Channel

/-! ### One line -/

structure Line where
  state : TcpServerState
  pcb : Address
  /-- the segments that are not written yet -/
  queue : List (List UInt8)

namespace Line

/-- The first segments are written, as far as lwIP takes them; `k` counts its answers. -/
def sendFrom (pcb : Address) (lwip : Nat → Response) :
    Nat → List (List UInt8) → List (List UInt8) × List Output
  | _, [] => ([], [])
  | k, data :: queue =>
    if data.length ≤ (lwip k).sndbuf then
      if (lwip k).write = .ok then
        let rest := sendFrom pcb lwip (k + 1) queue
        (rest.1, .tcpWrite pcb data .ok :: rest.2)
      else (data :: queue, [.tcpWrite pcb data (lwip k).write])
    else (data :: queue, [])

def send (lwip : Nat → Response) (line : Line) : Line × List Output :=
  let rest := sendFrom line.pcb lwip 0 line.queue
  ({ line with queue := rest.1 }, rest.2)

/-- The segments of a message, in front of the first one that there is no buffer for. -/
def taken (tcpMss : Nat) (pbufAlloc : Nat → Bool) (data : List UInt8) : List (List UInt8) :=
  ((List.range (segments tcpMss data.length)).takeWhile pbufAlloc).map fun k =>
    (data.drop (k * tcpMss)).take tcpMss

/-- A line on which nothing waits takes a message, and sends at once what it can. -/
def tx (tcpMss : Nat) (buffer : List UInt8) (answer : TxResponse) (line : Line) :
    Line × List Output :=
  if line.queue = [] then
    let queue := taken tcpMss answer.pbufAlloc buffer
    let sent := { line with queue }.send answer.lwip
    (sent.1, .enqueue queue.flatten :: sent.2)
  else (line, [])

def close (line : Line) : Option Line × List Output := (none, [.close line.pcb none])

def resend (lwip : Nat → Response) (line : Line) : Option Line × List Output :=
  let sent := line.send lwip
  (some sent.1, .tcpSent line.pcb :: sent.2)

/-- What waits is sent; a line that is closing is closed when nothing waits. -/
def poll (lwip : Nat → Response) (line : Line) : Option Line × List Output :=
  if line.queue ≠ [] then line.resend lwip
  else if line.state = .closing then line.close
  else (some line, [])

def receive (callback : Bool) (p : Option (List (List UInt8))) (err : Err)
    (lwip : Nat → Response) (line : Line) : Option Line × List Output :=
  match p with
  | none =>
    let line := { line with state := .closing }
    if line.queue ≠ [] then line.resend lwip else line.close
  | some segments =>
    if err ≠ .ok then (some line, [])
    else
      let delivered := if line.state = .accepted ∧ callback = true then
        segments.map Output.channelCallback else []
      (some line, delivered ++ [.tcpRecved line.pcb segments.flatten.length])

end Line

/-! ### All lines -/

structure Lines where
  registry : Registry
  callback : Bool
  lines : Address → Option Line

namespace Lines

/-- A step of one line; one that is gone then leaves the registry. -/
def onLine (t : Lines) (self : Address) (function : Line → Option Line × List Output) :
    Except Address (Lines × List (Address × Output)) :=
  match t.lines self with
  | none => .error self
  | some line =>
    let (line, outputs) := function line
    .ok ({ t with
      registry := if line.isNone then deleteConnectionFromBuffer t.registry self else t.registry
      lines := Function.update t.lines self line }, outputs.map fun output => (self, output))

/-- A message for one line. -/
def tx (tcpMss : Nat) (buffer : List UInt8) (answer : TxResponse) (t : Lines) (self : Address) :
    Except Address (Lines × List (Address × Output)) :=
  t.onLine self fun line =>
    let sent := line.tx tcpMss buffer answer
    (some sent.1, sent.2)

def txs (tcpMss : Nat) (buffer : List UInt8) (answer : Nat → TxResponse) :
    List (Address × Nat) → Lines → Except Address (Lines × List (Address × Output))
  | [], t => .ok (t, [])
  | (self, i) :: calls, t => do
    let (t, outputs) ← t.tx tcpMss buffer (answer i) self
    let (t, more) ← txs tcpMss buffer answer calls t
    .ok (t, outputs ++ more)

end Lines

def serve (tcpMss : Nat) (t : Lines) :
    ChannelEvent → Except Address (Lines × List (Address × Output))
  | .accept none _ => .ok (t, [])
  | .accept (some self) newpcb => .ok ({ t with
      registry := addConnectionToBuffer t.registry self
      lines := Function.update t.lines self (some ⟨.accepted, newpcb, []⟩) }, [])
  | .tx buffer none answer =>
    t.txs tcpMss buffer answer (broadcastConnections t.registry).zipIdx
  | .tx buffer (some self) answer =>
    if isConnectionInBuffer t.registry self then t.tx tcpMss buffer (answer 0) self else .ok (t, [])
  | .poll self lwip | .sent self lwip => t.onLine self (Line.poll lwip)
  | .receive self p err lwip => t.onLine self (Line.receive t.callback p err lwip)
  | .error self => .ok ({ t with
      registry := deleteConnectionFromBuffer t.registry self
      lines := Function.update t.lines self none }, [])
  | .setCallback callback => .ok ({ t with callback }, [])

def initialLines (numBroadcastConnections : Nat) (callback : Bool) : Lines :=
  ⟨construct numBroadcastConnections, callback, fun _ => none⟩

end Jblib.Ethutilities.TcpServerChannel
