/-
**What the connections of the channel receive.**

`receive` hands the segments of a chain to the user and opens the window again by all their bytes. What
it hands over depends on the state of the record, and on the callback the channel has by then.

* `Inbound` — what should reach the user on one connection, and how far its window should be opened:
  computed from the events alone. `Inbound.next`: one event.
* `Deaf` — a step of a line that receives nothing; `deaf_tx`, `deaf_poll`.
* `Hears` — the outputs for a record are its inbound side; `Hears.serve`: every event keeps that.
* **`channel_receives`** — over whole runs of the channel, for all its connections.
-/

import EthUtilities.Library.Progress
import EthUtilities.TcpServerChannel.LineStreams

namespace Jblib.Ethutilities.TcpServerChannel

open Library Refinement

/-! ### What should be received -/

/-- The inbound side of the connection on a record. -/
structure Inbound where
  /-- the user has given a callback -/
  callback : Bool
  /-- the remote host has closed the connection -/
  closing : Bool
  /-- what is for the user, segment by segment -/
  segments : List (List UInt8)
  /-- how many bytes the window was opened by -/
  window : Nat

/-- A chain from lwIP. The user gets it if there is a callback, until the remote host has closed the
connection; the window is opened by all of it. -/
def Inbound.take (inbound : Inbound) (segments : List (List UInt8)) : Inbound :=
  { inbound with
    segments := inbound.segments ++
      if inbound.callback ∧ ¬ inbound.closing then segments else []
    window := inbound.window + segments.flatten.length }

def Inbound.next (record : Address) (inbound : Inbound) : ChannelEvent → Inbound
  | .accept (some self) _ =>
    if self = record then { inbound with closing := false, segments := [], window := 0 } else inbound
  | .receive self none _ _ =>
    if self = record then { inbound with closing := true } else inbound
  | .receive self (some segments) .ok _ =>
    if self = record then inbound.take segments else inbound
  | .setCallback callback => { inbound with callback }
  | _ => inbound

/-- What the user is given. -/
def Output.handed : Output → Option (List UInt8)
  | .channelCallback data => some data
  | _ => none

/-- How far the window is opened. -/
def Output.opened : Output → Nat
  | .tcpRecved _ length => length
  | _ => 0

def delivered (trace : List Output) : List (List UInt8) := trace.filterMap Output.handed

def window (trace : List Output) : Nat := Machine.total Output.opened trace

/-- The output is about sending. -/
def Outbound (output : Output) : Prop := output.handed = none ∧ output.opened = 0

section Traces

variable {trace more : List Output}

theorem delivered_append : delivered (trace ++ more) = delivered trace ++ delivered more :=
  List.filterMap_append

theorem window_append : window (trace ++ more) = window trace + window more := by
  unfold window Machine.total
  rw [List.map_append, List.sum_append]

theorem delivered_outbound (outbound : ∀ output ∈ more, Outbound output) : delivered more = [] :=
  List.filterMap_eq_nil_iff.mpr fun output inside => (outbound output inside).1

theorem window_outbound (outbound : ∀ output ∈ more, Outbound output) : window more = 0 := by
  unfold window Machine.total
  rw [List.sum_eq_zero]
  intro length inside
  obtain ⟨output, here, rfl⟩ := List.mem_map.mp inside
  exact (outbound output here).2

/-- What `receive` does with the segments of a chain. -/
theorem delivered_segments (segments : List (List UInt8)) (pcb : Address) (length : Nat) :
    delivered (segments.map .channelCallback ++ [.tcpRecved pcb length]) = segments := by
  rw [delivered_append]
  refine Eq.trans (List.append_nil _) ?_
  unfold delivered
  rw [List.filterMap_map]
  exact List.filterMap_some

theorem window_segments (segments : List (List UInt8)) (pcb : Address) (length : Nat) :
    window (segments.map .channelCallback ++ [.tcpRecved pcb length]) = length := by
  rw [window_append]
  have nothing : window (segments.map .channelCallback) = 0 := by
    unfold window Machine.total
    rw [List.map_map]
    exact List.sum_eq_zero fun length inside => by
      obtain ⟨_, _, rfl⟩ := List.mem_map.mp inside
      rfl
  rw [nothing, Nat.zero_add]
  exact Nat.add_zero length

end Traces

/-! ### Steps that receive nothing -/

/-- The line keeps its state, or is gone, and receives nothing. -/
structure Deaf (line : Line) (answer : Option Line × List Output) : Prop where
  state : ∀ found ∈ answer.1, found.state = line.state
  outbound : ∀ output ∈ answer.2, Outbound output

section Deaf

variable {line : Line}

theorem sendFrom_outbound (pcb : Address) (lwip : Nat → Response) (k : Nat)
    (queue : List (List UInt8)) :
    ∀ output ∈ (Line.sendFrom pcb lwip k queue).2, Outbound output := by
  induction queue generalizing k with
  | nil => exact fun _ inside => absurd inside List.not_mem_nil
  | cons data queue ih =>
    rw [Line.sendFrom]
    split_ifs with fits accepted
    · intro output inside
      rcases List.mem_cons.mp inside with rfl | later
      · exact ⟨rfl, rfl⟩
      · exact ih (k + 1) output later
    · intro output inside
      rw [List.mem_singleton.mp inside]
      exact ⟨rfl, rfl⟩
    · exact fun _ inside => absurd inside List.not_mem_nil

theorem deaf_nothing : Deaf line (some line, []) where
  state found here := by
    cases here
    rfl
  outbound _ inside := absurd inside List.not_mem_nil

theorem deaf_close : Deaf line line.close where
  state found here := by cases here
  outbound output inside := by
    rw [List.mem_singleton.mp inside]
    exact ⟨rfl, rfl⟩

theorem deaf_resend (lwip : Nat → Response) : Deaf line (line.resend lwip) where
  state found here := by
    cases here
    rfl
  outbound output inside := by
    rcases List.mem_cons.mp inside with rfl | later
    · exact ⟨rfl, rfl⟩
    · exact sendFrom_outbound _ lwip 0 _ output later

theorem deaf_poll (lwip : Nat → Response) : Deaf line (line.poll lwip) := by
  rw [Line.poll]
  split_ifs
  · exact deaf_resend lwip
  · exact deaf_close
  · exact deaf_nothing

theorem deaf_tx (tcpMss : Nat) (buffer : List UInt8) (answer : TxResponse) :
    Deaf line (some (line.tx tcpMss buffer answer).1, (line.tx tcpMss buffer answer).2) := by
  rw [Line.tx]
  split_ifs
  case neg => exact deaf_nothing
  refine ⟨fun found here => ?_, fun output inside => ?_⟩
  · cases here
    rfl
  · rcases List.mem_cons.mp inside with rfl | later
    · exact ⟨rfl, rfl⟩
    · exact sendFrom_outbound _ answer.lwip 0 _ output later

end Deaf

/-! ### All lines -/

/-- The outputs for a record are its inbound side. -/
structure Hears (record : Address) (t : Lines) (trace : List Output) (inbound : Inbound) : Prop where
  callback : t.callback = inbound.callback
  delivered : delivered trace = inbound.segments
  window : window trace = inbound.window
  state : ∀ line ∈ t.lines record, line.state = if inbound.closing then .closing else .accepted

section Hears

variable {tcpMss : Nat} {record other : Address} {t t' : Lines} {trace : List Output}
  {inbound : Inbound} {outputs : List (Address × Output)}

/-- The record hears nothing. -/
theorem Hears.silent (hears : Hears record t trace inbound) (callback : t'.callback = t.callback)
    (silent : ∀ output ∈ outputsOf record outputs, Outbound output)
    (state : ∀ line' ∈ t'.lines record, ∃ line ∈ t.lines record, line'.state = line.state) :
    Hears record t' (trace ++ outputsOf record outputs) inbound where
  callback := callback.trans hears.callback
  delivered := by
    rw [delivered_append, delivered_outbound silent, List.append_nil]
    exact hears.delivered
  window := by
    rw [window_append, window_outbound silent]
    exact hears.window
  state line' here := by
    obtain ⟨line, before, same⟩ := state line' here
    exact same.trans (hears.state line before)

/-- Nothing is done to the record. -/
theorem Hears.elsewhere (hears : Hears record t trace inbound)
    (same : t'.lines record = t.lines record) (callback : t'.callback = t.callback)
    (silent : outputsOf record outputs = []) :
    Hears record t' (trace ++ outputsOf record outputs) inbound := by
  refine hears.silent callback (fun output inside => ?_) fun line here => ⟨line, same ▸ here, rfl⟩
  rw [silent] at inside
  cases inside

/-- A step of a line that receives nothing. -/
theorem Hears.onLine {step : Line → Option Line × List Output}
    (hears : Hears record t trace inbound) (deaf : ∀ line, Deaf line (step line))
    (ran : t.onLine other step = .ok (t', outputs)) :
    Hears record t' (trace ++ outputsOf record outputs) inbound := by
  by_cases here : other = record
  · subst here
    obtain ⟨line, live⟩ := onLine_live ran
    obtain ⟨after, callback, _, own⟩ := onLine_own live ran
    refine hears.silent callback ?_ fun line' here => ⟨line, live, ?_⟩
    · rw [own]
      exact (deaf line).outbound
    · rw [after] at here
      exact (deaf line).state line' here
  · obtain ⟨same, callback, silent⟩ := onLine_foreign here ran
    exact hears.elsewhere same callback silent

theorem Hears.txs {buffer : List UInt8} {answer : Nat → TxResponse} {calls : List (Address × Nat)}
    (hears : Hears record t trace inbound)
    (ran : t.txs tcpMss buffer answer calls = .ok (t', outputs)) :
    Hears record t' (trace ++ outputsOf record outputs) inbound := by
  induction calls generalizing t trace outputs with
  | nil =>
    cases ran
    exact hears.elsewhere rfl rfl rfl
  | cons call calls ih =>
    obtain ⟨self, i⟩ := call
    rw [Lines.txs] at ran
    obtain ⟨⟨t₁, first⟩, sent, ran⟩ := Machine.bind_eq_ok_iff.mp ran
    obtain ⟨⟨t₂, more⟩, later, ran⟩ := Machine.bind_eq_ok_iff.mp ran
    cases ran
    rw [outputsOf_append, ← List.append_assoc]
    exact ih (hears.onLine (fun _ => deaf_tx tcpMss buffer (answer i)) sent) later

/-- The remote host closes the connection. -/
theorem Hears.receive_end (err : Err) (lwip : Nat → Response)
    (hears : Hears record t trace inbound)
    (ran : t.onLine record (Line.receive t.callback none err lwip) = .ok (t', outputs)) :
    Hears record t' (trace ++ outputsOf record outputs) { inbound with closing := true } := by
  obtain ⟨line, live⟩ := onLine_live ran
  obtain ⟨after, callback, _, own⟩ := onLine_own live ran
  have deaf : Deaf { line with state := .closing } (line.receive t.callback none err lwip) := by
    unfold Line.receive
    dsimp only
    split_ifs
    · exact deaf_resend lwip
    · exact deaf_close
  refine ⟨callback.trans hears.callback, ?_, ?_, fun line' here => ?_⟩
  · rw [delivered_append, own, delivered_outbound deaf.outbound, List.append_nil]
    exact hears.delivered
  · rw [window_append, own, window_outbound deaf.outbound]
    exact hears.window
  · rw [after] at here
    exact deaf.state line' here

/-- A chain of segments. -/
theorem Hears.receive_data {segments : List (List UInt8)} (lwip : Nat → Response)
    (hears : Hears record t trace inbound)
    (ran : t.onLine record (Line.receive t.callback (some segments) .ok lwip) = .ok (t', outputs)) :
    Hears record t' (trace ++ outputsOf record outputs) (inbound.take segments) := by
  obtain ⟨line, live⟩ := onLine_live ran
  obtain ⟨after, callback, _, own⟩ := onLine_own live ran
  have accepted : line.state = .accepted ↔ ¬ inbound.closing = true := by
    rw [hears.state line live]
    cases inbound.closing <;> decide
  have received : line.receive t.callback (some segments) .ok lwip = (some line,
      (if inbound.callback ∧ ¬ inbound.closing then segments else []).map .channelCallback ++
        [.tcpRecved line.pcb segments.flatten.length]) := by
    unfold Line.receive
    dsimp only
    rw [if_neg (not_not_intro rfl), hears.callback]
    congr 2
    by_cases handed : inbound.callback ∧ ¬ inbound.closing
    · rw [if_pos ⟨accepted.mpr handed.2, handed.1⟩, if_pos handed]
    · rw [if_neg fun both => handed ⟨both.2, accepted.mp both.1⟩, if_neg handed]
      rfl
  rw [received] at after own
  refine ⟨callback.trans hears.callback, ?_, ?_, fun line' here => ?_⟩
  · rw [delivered_append, own, delivered_segments, hears.delivered]
    rfl
  · rw [window_append, own, window_segments, hears.window]
    rfl
  · rw [after] at here
    cases here
    exact hears.state line live

/-- A message of the user. -/
theorem Hears.message {buffer : List UInt8} {parameter : Option Address} {answer : Nat → TxResponse}
    (hears : Hears record t trace inbound)
    (ran : serve tcpMss t (.tx buffer parameter answer) = .ok (t', outputs)) :
    Hears record t' (trace ++ outputsOf record outputs) inbound := by
  cases parameter with
  | none => exact hears.txs ran
  | some self =>
    rw [TcpServerChannel.serve] at ran
    split_ifs at ran
    · exact hears.onLine (fun _ => deaf_tx tcpMss buffer (answer 0)) ran
    · cases ran
      exact hears.elsewhere rfl rfl rfl

theorem opens_of_foreign {event : ChannelEvent} (foreign : event.foreign record = true) :
    event.opens record = false := by
  cases event with
  | accept ss newpcb =>
    cases ss with
    | none => rfl
    | some self =>
      exact decide_eq_false fun same => of_decide_eq_true foreign (congrArg some same)
  | _ => rfl

/-- Other records are not heard. -/
theorem next_foreign {event : ChannelEvent} (foreign : event.foreign record = true) :
    inbound.next record event = inbound := by
  cases event with
  | accept ss newpcb =>
    cases ss with
    | none => rfl
    | some self => exact if_neg fun same => of_decide_eq_true foreign (congrArg some same)
  | receive self p err lwip =>
    have here : self ≠ record := of_decide_eq_true foreign
    cases p with
    | none => exact if_neg here
    | some segments =>
      cases err with
      | ok => exact if_neg here
      | mem | other => rfl
  | tx | setCallback => cases foreign
  | poll | sent | error => rfl

/-- **One event.** -/
theorem Hears.serve {event : ChannelEvent} {life : Life}
    (hears : Hears record t life.trace inbound)
    (ran : serve tcpMss t event = .ok (t', outputs)) :
    Hears record t' (life.extend record event outputs).trace (inbound.next record event) := by
  by_cases foreign : event.foreign record = true
  · obtain ⟨same, callback, silent⟩ := serve_foreign foreign ran
    rw [extend_kept (opens_of_foreign foreign), next_foreign foreign]
    exact hears.elsewhere same callback silent
  cases event with
  | accept ss newpcb =>
    obtain rfl : ss = some record := of_not_not (mt decide_eq_true foreign)
    have opens : (ChannelEvent.accept (some record) newpcb).opens record = true := decide_eq_true rfl
    have next : inbound.next record (.accept (some record) newpcb) =
      { inbound with closing := false, segments := [], window := 0 } := if_pos rfl
    rw [extend_opens opens, next]
    cases ran
    refine ⟨hears.callback, rfl, rfl, fun line here => ?_⟩
    dsimp only at here
    rw [Function.update_self] at here
    cases here
    rfl
  | tx buffer parameter answer => exact hears.message ran
  | poll self lwip | sent self lwip => exact hears.onLine (fun _ => deaf_poll lwip) ran
  | receive self p err lwip =>
    obtain rfl : self = record := of_not_not (mt decide_eq_true foreign)
    cases p with
    | none =>
      rw [show inbound.next self (.receive self none err lwip) = { inbound with closing := true } from
        if_pos rfl]
      exact Hears.receive_end err lwip hears ran
    | some segments =>
      cases err with
      | ok =>
        rw [show inbound.next self (.receive self (some segments) .ok lwip) = inbound.take segments
          from if_pos rfl]
        exact Hears.receive_data lwip hears ran
      | mem | other => exact hears.onLine (fun _ => deaf_nothing) ran
  | error self =>
    obtain rfl : self = record := of_not_not (mt decide_eq_true foreign)
    cases ran
    refine hears.silent rfl (fun _ inside => absurd inside List.not_mem_nil) fun line here => ?_
    dsimp only at here
    rw [Function.update_self] at here
    cases here
  | setCallback callback =>
    cases ran
    rw [extend_kept rfl, outputsOf_nil, List.append_nil]
    exact ⟨rfl, hears.delivered, hears.window, hears.state⟩

end Hears

/-! ### Runs -/

/-- The inbound side of a record after a run. -/
def inboundOf (record : Address) (callback : Bool) (events : List ChannelEvent) : Inbound :=
  events.foldl (Inbound.next record) ⟨callback, false, [], 0⟩

/-- **What is received reaches the user, once and in order.** In every run of the channel that uses no
freed record, and for every connection: the segments that the user was given are those that came for
it in order, without an error, before the remote host closed it and while there was a callback; and
the window was opened by exactly the bytes that came without an error, thrown away or not. -/
theorem channel_receives {tcpMss : Nat} (positive : 0 < tcpMss) (numBroadcastConnections : Nat)
    (callback : Bool) {events : List ChannelEvent} {outputs : List (List (Address × Output))}
    {c : Channel} (ran : answers (Channel.exec tcpMss)
      (initialChannel numBroadcastConnections callback) events = .ok (outputs, c))
    (record : Address) :
    let life := lifeOf record events outputs
    delivered life.trace = (inboundOf record callback events).segments ∧
      window life.trace = (inboundOf record callback events).window := by
  intro life
  have serves := channel_serves positive numBroadcastConnections callback events
  rw [ran] at serves
  obtain ⟨⟨_, t⟩, served, same, _⟩ := serves.of_ok
  obtain rfl : outputs = _ := same
  have start : Hears record (initialLines numBroadcastConnections callback) []
      ⟨callback, false, [], 0⟩ := ⟨rfl, rfl, rfl, fun line here => by cases here⟩
  have hears : Hears record t life.trace (inboundOf record callback events) :=
    answers_invariant_foldl (P := fun t (life : Life) inbound => Hears record t life.trace inbound)
      (fun _ _ _ _ _ _ hears ran => Hears.serve hears ran) start served
  exact ⟨hears.delivered, hears.window⟩

/-- Two connections; the first one hears two segments, then there is no callback, then the remote host
closes it while a message waits, and sends once more. -/
def twoSenders : List ChannelEvent :=
  [.accept (some 7) 1, .accept (some 8) 2, .receive 7 (some [[1], [2, 3]]) .ok fun _ => ⟨0, .ok⟩,
    .receive 8 (some [[4]]) .ok fun _ => ⟨0, .ok⟩, .setCallback false,
    .receive 7 (some [[5]]) .ok fun _ => ⟨0, .ok⟩, .setCallback true,
    .tx [9] (some 7) fun _ => ⟨fun _ => true, fun _ => ⟨0, .ok⟩⟩,
    .receive 7 none .ok fun _ => ⟨0, .ok⟩, .receive 7 (some [[6]]) .ok fun _ => ⟨0, .ok⟩]

theorem channel_receives_sample : ∃ outputs c,
    answers (Channel.exec 2) (initialChannel 2 true) twoSenders = .ok (outputs, c) ∧
    let life := lifeOf 7 twoSenders outputs
    delivered life.trace = (inboundOf 7 true twoSenders).segments ∧
      window life.trace = (inboundOf 7 true twoSenders).window :=
  ⟨_, _, rfl, channel_receives (by decide : 0 < 2) 2 true rfl 7⟩

/-- Three bytes were for the user, and two more only opened the window. -/
example : (inboundOf 7 true twoSenders).segments = [[1], [2, 3]] ∧
    (inboundOf 7 true twoSenders).window = 5 := by decide

end Jblib.Ethutilities.TcpServerChannel
