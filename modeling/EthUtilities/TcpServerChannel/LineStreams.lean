/-
**The streams of all connections are intact at once.**

On one line it is easy to see: what is written, and then what waits, is what was taken. With
`channel_serves` it holds of the records and of the buffers they share.

* `Life`, `lifeOf` — what happened, and what the channel did for a record, since the connection on it was
  accepted.
* `Intact` — the stream of one line; `Intact.step`: a step of the line keeps it.
* `serve_intact` — no event disturbs a stream, also not one for another line.
* **`streams_intact`** — over whole runs of the channel.
-/

import EthUtilities.TcpServerChannel.LineRuns

namespace Jblib.Ethutilities.TcpServerChannel

open Library Library.PbufHeap Refinement

/-! ### What is done for a record -/

/-- A new connection on the record. -/
def ChannelEvent.opens (record : Address) : ChannelEvent → Bool
  | .accept (some other) _ => other = record
  | _ => false

/-- The event is about another record. -/
def ChannelEvent.foreign (record : Address) : ChannelEvent → Bool
  | .accept ss _ => ss ≠ some record
  | .poll self _ | .sent self _ | .receive self _ _ _ | .error self => self ≠ record
  | .tx _ _ _ | .setCallback _ => false

/-- The outputs for a record. -/
def outputsOf (record : Address) (outputs : List (Address × Output)) : List Output :=
  (outputs.filter fun output => output.1 = record).map Prod.snd

/-- The events since a connection was accepted on a record, and the outputs for it. -/
structure Life where
  events : List ChannelEvent
  trace : List Output

/-- A new connection starts with nothing. -/
def Life.extend (record : Address) (life : Life) (event : ChannelEvent)
    (outputs : List (Address × Output)) : Life :=
  if event.opens record then ⟨[], []⟩
  else ⟨life.events ++ [event], life.trace ++ outputsOf record outputs⟩

/-- The life of the connection that a record belongs to, or belonged to last. -/
def lifeOf (record : Address) (events : List ChannelEvent)
    (outputs : List (List (Address × Output))) : Life :=
  recorded (Life.extend record) ⟨[], []⟩ events outputs

section OutputsOf

variable {record other : Address}

theorem outputsOf_append (outputs more : List (Address × Output)) :
    outputsOf record (outputs ++ more) = outputsOf record outputs ++ outputsOf record more := by
  unfold outputsOf
  rw [List.filter_append, List.map_append]

theorem outputsOf_own (outputs : List Output) :
    outputsOf record (outputs.map fun output => (record, output)) = outputs := by
  unfold outputsOf
  rw [List.filter_map, List.map_map, List.filter_eq_self.mpr fun _ _ => by simp]
  exact List.map_id _

theorem outputsOf_other (different : other ≠ record) (outputs : List Output) :
    outputsOf record (outputs.map fun output => (other, output)) = [] := by
  unfold outputsOf
  rw [List.filter_map, List.filter_eq_nil_iff.mpr fun _ _ => by simp [different]]
  rfl

@[simp] theorem outputsOf_nil : outputsOf record [] = [] := rfl

variable {event : ChannelEvent}

theorem extend_opens (opens : event.opens record = true) (life : Life)
    (outputs : List (Address × Output)) : life.extend record event outputs = ⟨[], []⟩ :=
  if_pos opens

theorem extend_kept (kept : event.opens record = false) (life : Life)
    (outputs : List (Address × Output)) : life.extend record event outputs =
      ⟨life.events ++ [event], life.trace ++ outputsOf record outputs⟩ := by
  rw [Life.extend, kept, if_neg Bool.false_ne_true]

end OutputsOf

section Steps

variable {tcpMss : Nat} {record other : Address} {t t' : Lines} {line : Line}
  {step : Line → Option Line × List Output} {outputs : List (Address × Output)}

/-- A step of the line. -/
theorem onLine_own (live : t.lines record = some line)
    (ran : t.onLine record step = .ok (t', outputs)) :
    t'.lines record = (step line).1 ∧ t'.callback = t.callback ∧
      t'.registry = (if (step line).1.isNone then deleteConnectionFromBuffer t.registry record
        else t.registry) ∧
      outputsOf record outputs = (step line).2 := by
  rw [Lines.onLine, live] at ran
  cases ran
  exact ⟨Function.update_self .., rfl, rfl, outputsOf_own _⟩

/-- A step of another line. -/
theorem onLine_foreign (foreign : other ≠ record) (ran : t.onLine other step = .ok (t', outputs)) :
    t'.lines record = t.lines record ∧ t'.callback = t.callback ∧ outputsOf record outputs = [] := by
  rw [Lines.onLine] at ran
  cases live : t.lines other with
  | none =>
    rw [live] at ran
    cases ran
  | some line =>
    rw [live] at ran
    cases ran
    exact ⟨Function.update_of_ne foreign.symm _ _, rfl, outputsOf_other foreign _⟩

/-- A line that is gone makes no steps. -/
theorem onLine_live (ran : t.onLine record step = .ok (t', outputs)) :
    ∃ line, t.lines record = some line := by
  cases live : t.lines record with
  | none =>
    rw [Lines.onLine, live] at ran
    cases ran
  | some line => exact ⟨line, rfl⟩

/-- **An event about another record** does nothing to this one. -/
theorem serve_foreign {event : ChannelEvent} (foreign : event.foreign record = true)
    (ran : serve tcpMss t event = .ok (t', outputs)) :
    t'.lines record = t.lines record ∧ t'.callback = t.callback ∧ outputsOf record outputs = [] := by
  cases event with
  | accept ss newpcb =>
    cases ss with
    | none =>
      cases ran
      exact ⟨rfl, rfl, rfl⟩
    | some self =>
      have here : self ≠ record := fun same => of_decide_eq_true foreign (congrArg some same)
      cases ran
      exact ⟨Function.update_of_ne here.symm _ _, rfl, rfl⟩
  | tx buffer parameter answer | setCallback callback => cases foreign
  | poll self lwip | sent self lwip | receive self p err lwip =>
    exact onLine_foreign (of_decide_eq_true foreign) ran
  | error self =>
    have here : self ≠ record := of_decide_eq_true foreign
    cases ran
    exact ⟨Function.update_of_ne here.symm _ _, rfl, rfl⟩

end Steps

/-! ### One line -/

/-- The user sent this message to the record, or to all. -/
def Message (record : Address) (events : List ChannelEvent) (buffer : List UInt8) : Prop :=
  ∃ parameter answer, ChannelEvent.tx buffer parameter answer ∈ events ∧
    (parameter = none ∨ parameter = some record)

/-- **The stream of a line.** -/
structure Intact (record : Address) (events : List ChannelEvent) (line : Option Line)
    (trace : List Output) : Prop where
  /-- what is written, and then what waits, is what was taken … -/
  live : ∀ found ∈ line, written trace ++ found.queue.flatten = (enqueued trace).flatten
  /-- … and nothing else was ever written; … -/
  sound : written trace <+: (enqueued trace).flatten
  /-- … a line that was closed is gone, and all of it was written; … -/
  closed : ∀ pcb p, Output.close pcb p ∈ trace →
    line = none ∧ written trace = (enqueued trace).flatten
  /-- … and what was taken is the front of messages for it. -/
  messages : ∀ data ∈ enqueued trace, ∃ buffer, data <+: buffer ∧ Message record events buffer

section Line

variable {record : Address} {events : List ChannelEvent} {line : Line} {trace : List Output}

/-- What is sent leaves the queue. -/
theorem sendFrom_conserves (pcb : Address) (lwip : Nat → Response) (k : Nat)
    (queue : List (List UInt8)) :
    written (Line.sendFrom pcb lwip k queue).2 ++ (Line.sendFrom pcb lwip k queue).1.flatten =
        queue.flatten ∧
      enqueued (Line.sendFrom pcb lwip k queue).2 = [] ∧
      ∀ pcb' p, Output.close pcb' p ∉ (Line.sendFrom pcb lwip k queue).2 := by
  induction queue generalizing k with
  | nil => exact ⟨rfl, rfl, fun _ _ inside => absurd inside List.not_mem_nil⟩
  | cons data queue ih =>
    rw [Line.sendFrom]
    by_cases window : data.length ≤ (lwip k).sndbuf
    case neg =>
      rw [if_neg window]
      exact ⟨rfl, rfl, fun _ _ inside => absurd inside List.not_mem_nil⟩
    rw [if_pos window]
    by_cases result : (lwip k).write = .ok
    · rw [if_pos result]
      obtain ⟨conserved, none, stays⟩ := ih (k + 1)
      refine ⟨?_, none, fun pcb' p inside => ?_⟩
      · rw [List.flatten_cons, ← conserved, ← List.append_assoc]
        rfl
      · exact stays pcb' p ((List.mem_cons.mp inside).resolve_left fun same => by cases same)
    · rw [if_neg result]
      refine ⟨?_, rfl, fun pcb' p inside => ?_⟩
      · cases refused : (lwip k).write with
        | ok => exact absurd refused result
        | mem | other => rfl
      · cases List.mem_singleton.mp inside

/-- The segments of a message are its front. -/
theorem taken_prefix {tcpMss : Nat} (positive : 0 < tcpMss) (pbufAlloc : Nat → Bool)
    (data : List UInt8) : (Line.taken tcpMss pbufAlloc data).flatten <+: data := by
  induction bound : data.length using Nat.strong_induction_on generalizing data pbufAlloc with
  | _ length ih =>
    by_cases more : 0 < data.length
    case neg =>
      rw [taken_nothing positive fun some => absurd some more]
      exact List.nil_prefix
    cases allocated : pbufAlloc 0 with
    | false =>
      rw [taken_nothing positive fun _ => allocated]
      exact List.nil_prefix
    | true =>
      have shorter : (data.drop tcpMss).length < length := by
        rw [List.length_drop]
        omega
      obtain ⟨rest, whole⟩ := ih _ shorter (fun k => pbufAlloc (k + 1)) (data.drop tcpMss) rfl
      refine ⟨rest, ?_⟩
      rw [taken_cons positive more allocated, List.flatten_cons, List.append_assoc, whole,
        List.take_append_drop]

/-- What a step of a line may do to its stream. -/
structure Moves (record : Address) (events : List ChannelEvent) (line : Line)
    (answer : Option Line × List Output) : Prop where
  live : ∀ found ∈ answer.1, written answer.2 ++ found.queue.flatten =
    line.queue.flatten ++ (enqueued answer.2).flatten
  gone : answer.1 = none → line.queue = [] ∧ written answer.2 = [] ∧ enqueued answer.2 = []
  closed : ∀ pcb p, Output.close pcb p ∈ answer.2 → answer.1 = none
  messages : ∀ data ∈ enqueued answer.2, ∃ buffer, data <+: buffer ∧ Message record events buffer

/-- **A step of the line.** -/
theorem Intact.step {answer : Option Line × List Output}
    (intact : Intact record events (some line) trace) (moves : Moves record events line answer) :
    Intact record events answer.1 (trace ++ answer.2) := by
  have live : ∀ found ∈ answer.1, written (trace ++ answer.2) ++ found.queue.flatten =
      (enqueued (trace ++ answer.2)).flatten := fun found here => by
    rw [written_append, enqueued_append, List.flatten_append, List.append_assoc,
      moves.live found here, ← List.append_assoc, intact.live line rfl]
  refine ⟨live, ?_, fun pcb p closed => ?_, fun data taken => ?_⟩
  · cases left : answer.1 with
    | some found =>
      rw [← live found left]
      exact List.prefix_append _ _
    | none =>
      obtain ⟨_, silent, nothing⟩ := moves.gone left
      rw [written_append, enqueued_append, silent, nothing, List.append_nil, List.append_nil]
      exact intact.sound
  · rcases List.mem_append.mp closed with before | now
    · cases (intact.closed pcb p before).1
    · have left := moves.closed pcb p now
      obtain ⟨empty, silent, nothing⟩ := moves.gone left
      have whole := intact.live line rfl
      rw [empty, List.flatten_nil, List.append_nil] at whole
      refine ⟨left, ?_⟩
      rw [written_append, enqueued_append, silent, nothing, List.append_nil, List.append_nil, whole]
  · rw [enqueued_append] at taken
    rcases List.mem_append.mp taken with before | now
    · exact intact.messages data before
    · exact moves.messages data now

/-- Nothing is written or taken. -/
theorem Moves.silent {line' : Line} {outputs : List Output} (same : line'.queue = line.queue)
    (silent : ∀ output ∈ outputs, Silent output) :
    Moves record events line (some line', outputs) where
  live found here := by
    cases here
    rw [written_silent silent, enqueued_silent silent, same]
    exact (List.append_nil _).symm
  gone left := by cases left
  closed _ _ inside := (silent _ inside).elim
  messages data taken := by
    rw [enqueued_silent silent] at taken
    cases taken

theorem moves_close (empty : line.queue = []) : Moves record events line line.close where
  live found here := by cases here
  gone _ := ⟨empty, rfl, rfl⟩
  closed _ _ _ := rfl
  messages data taken := absurd taken List.not_mem_nil

theorem moves_resend (lwip : Nat → Response) : Moves record events line (line.resend lwip) := by
  obtain ⟨conserved, nothing, stays⟩ := sendFrom_conserves line.pcb lwip 0 line.queue
  refine ⟨fun found here => ?_, fun left => absurd left (Option.some_ne_none _),
    fun pcb p inside => ?_, fun data taken => ?_⟩
  · cases here
    refine conserved.trans ?_
    rw [show enqueued (line.resend lwip).2 = [] from nothing]
    exact (List.append_nil _).symm
  · exact absurd ((List.mem_cons.mp inside).resolve_left fun same => by cases same) (stays pcb p)
  · rw [show enqueued (line.resend lwip).2 = [] from nothing] at taken
    cases taken

theorem moves_poll (lwip : Nat → Response) : Moves record events line (line.poll lwip) := by
  rw [Line.poll]
  by_cases empty : line.queue = []
  · rw [if_neg (not_not_intro empty)]
    by_cases closing : line.state = .closing
    · rw [if_pos closing]
      exact moves_close empty
    · rw [if_neg closing]
      exact .silent rfl fun _ inside => absurd inside List.not_mem_nil
  · rw [if_pos empty]
    exact moves_resend lwip

theorem moves_receive (callback : Bool) (p : Option (List (List UInt8))) (err : Err)
    (lwip : Nat → Response) :
    Moves record events line (line.receive callback p err lwip) := by
  unfold Line.receive
  cases p with
  | none =>
    dsimp only
    by_cases empty : line.queue = []
    · rw [if_neg (not_not_intro empty)]
      have closes : Moves record events { line with state := .closing } _ := moves_close empty
      exact ⟨closes.live, closes.gone, closes.closed, closes.messages⟩
    · rw [if_pos empty]
      have sends : Moves record events { line with state := .closing } _ := moves_resend lwip
      exact ⟨sends.live, sends.gone, sends.closed, sends.messages⟩
  | some segments =>
    dsimp only
    by_cases failed : err ≠ .ok
    · rw [if_pos failed]
      exact .silent rfl fun _ inside => absurd inside List.not_mem_nil
    · rw [if_neg failed]
      refine .silent rfl ?_
      have delivered := silent_delivered
        (decide (line.state = .accepted ∧ callback = true)) segments line.pcb
        segments.flatten.length
      simpa using delivered

/-- A message for the record. -/
theorem moves_tx {tcpMss : Nat} (positive : 0 < tcpMss) {buffer : List UInt8} (answer : TxResponse)
    (message : Message record events buffer) :
    Moves record events line (some (line.tx tcpMss buffer answer).1,
      (line.tx tcpMss buffer answer).2) := by
  rw [Line.tx]
  by_cases empty : line.queue = []
  case neg =>
    rw [if_neg empty]
    exact .silent rfl fun _ inside => absurd inside List.not_mem_nil
  rw [if_pos empty]
  let queue := Line.taken tcpMss answer.pbufAlloc buffer
  obtain ⟨conserved, nothing, stays⟩ := sendFrom_conserves line.pcb answer.lwip 0 queue
  have taken : enqueued (Output.enqueue queue.flatten ::
      (Line.sendFrom line.pcb answer.lwip 0 queue).2) = [queue.flatten] :=
    congrArg (List.cons _) nothing
  refine ⟨fun found here => ?_, fun left => absurd left (Option.some_ne_none _),
    fun pcb p inside => ?_, fun data member => ?_⟩
  · cases here
    refine conserved.trans ?_
    dsimp only [Line.send]
    rw [taken, empty]
    exact (List.append_nil _).symm
  · exact absurd ((List.mem_cons.mp inside).resolve_left fun same => by cases same) (stays pcb p)
  · dsimp only [Line.send] at member
    rw [taken] at member
    rw [List.mem_singleton.mp member]
    exact ⟨buffer, taken_prefix positive answer.pbufAlloc buffer, message⟩

end Line

/-! ### All lines -/

section Lines

variable {tcpMss : Nat} {record other : Address} {events : List ChannelEvent} {t t' : Lines}
  {trace : List Output} {outputs : List (Address × Output)}

/-- A line that is gone. -/
theorem Intact.gone {line : Option Line} (intact : Intact record events line trace) :
    Intact record events none trace where
  live found here := by cases here
  sound := intact.sound
  closed pcb p inside := ⟨rfl, (intact.closed pcb p inside).2⟩
  messages := intact.messages

/-- Nothing was done yet. -/
theorem intact_new {line : Option Line} (empty : ∀ found ∈ line, found.queue = []) :
    Intact record events line [] where
  live found here := by
    rw [empty found here]
    rfl
  sound := List.nil_prefix
  closed _ _ inside := absurd inside List.not_mem_nil
  messages _ taken := absurd taken List.not_mem_nil

/-- A step of one line. -/
theorem Intact.onLine {step : Line → Option Line × List Output}
    (intact : Intact record events (t.lines record) trace)
    (moves : other = record → ∀ line, Moves record events line (step line))
    (ran : t.onLine other step = .ok (t', outputs)) :
    Intact record events (t'.lines record) (trace ++ outputsOf record outputs) := by
  by_cases here : other = record
  · subst here
    obtain ⟨line, live⟩ := onLine_live ran
    obtain ⟨after, _, _, own⟩ := onLine_own live ran
    rw [after, own]
    rw [live] at intact
    exact intact.step (moves rfl line)
  · obtain ⟨same, _, silent⟩ := onLine_foreign here ran
    rw [same, silent, List.append_nil]
    exact intact

theorem Intact.txs (positive : 0 < tcpMss) {buffer : List UInt8} {answer : Nat → TxResponse}
    (message : Message record events buffer) {calls : List (Address × Nat)}
    (intact : Intact record events (t.lines record) trace)
    (ran : t.txs tcpMss buffer answer calls = .ok (t', outputs)) :
    Intact record events (t'.lines record) (trace ++ outputsOf record outputs) := by
  induction calls generalizing t trace outputs with
  | nil =>
    cases ran
    rw [show outputsOf record [] = [] from rfl, List.append_nil]
    exact intact
  | cons call calls ih =>
    obtain ⟨self, i⟩ := call
    rw [Lines.txs] at ran
    obtain ⟨⟨t₁, first⟩, sent, ran⟩ := Machine.bind_eq_ok_iff.mp ran
    obtain ⟨⟨t₂, more⟩, later, ran⟩ := Machine.bind_eq_ok_iff.mp ran
    cases ran
    rw [outputsOf_append, ← List.append_assoc]
    exact ih (intact.onLine (fun _ line => moves_tx positive (answer i) message) sent) later

/-- An event that opens no connection on the record. -/
theorem serve_kept (positive : 0 < tcpMss) {event : ChannelEvent} (inside : event ∈ events)
    (kept : event.opens record = false) (intact : Intact record events (t.lines record) trace)
    (ran : serve tcpMss t event = .ok (t', outputs)) :
    Intact record events (t'.lines record) (trace ++ outputsOf record outputs) := by
  by_cases foreign : event.foreign record = true
  · obtain ⟨same, _, silent⟩ := serve_foreign foreign ran
    rw [same, silent, List.append_nil]
    exact intact
  cases event with
  | accept ss newpcb =>
    obtain rfl : ss = some record := of_not_not (mt decide_eq_true foreign)
    exact absurd kept (by simp [ChannelEvent.opens])
  | tx buffer parameter answer =>
    cases parameter with
    | none => exact intact.txs positive ⟨none, answer, inside, .inl rfl⟩ ran
    | some self =>
      rw [serve] at ran
      by_cases stored : isConnectionInBuffer t.registry self = true
      · rw [if_pos stored] at ran
        refine intact.onLine (fun here line => moves_tx positive (answer 0) ?_) ran
        exact ⟨some self, answer, inside, .inr (congrArg some here)⟩
      · rw [if_neg stored] at ran
        cases ran
        rw [outputsOf_nil, List.append_nil]
        exact intact
  | poll self lwip | sent self lwip => exact intact.onLine (fun _ _ => moves_poll lwip) ran
  | receive self p err lwip =>
    exact intact.onLine (fun _ _ => moves_receive t.callback p err lwip) ran
  | error self =>
    obtain rfl : self = record := of_not_not (mt decide_eq_true foreign)
    cases ran
    rw [outputsOf_nil, List.append_nil]
    dsimp only
    rw [Function.update_self]
    exact intact.gone
  | setCallback callback =>
    cases ran
    rw [outputsOf_nil, List.append_nil]
    exact intact

/-- Messages that were sent stay sent. -/
theorem Intact.later {line : Option Line} (intact : Intact record events line trace)
    (more : List ChannelEvent) : Intact record (events ++ more) line trace where
  live := intact.live
  sound := intact.sound
  closed := intact.closed
  messages data taken := by
    obtain ⟨buffer, front, parameter, answer, sent, addressed⟩ := intact.messages data taken
    exact ⟨buffer, front, parameter, answer, List.mem_append_left more sent, addressed⟩

/-- **One event.** -/
theorem serve_intact (positive : 0 < tcpMss) {event : ChannelEvent} {life : Life}
    (intact : Intact record life.events (t.lines record) life.trace)
    (ran : serve tcpMss t event = .ok (t', outputs)) :
    Intact record (life.extend record event outputs).events (t'.lines record)
      (life.extend record event outputs).trace := by
  cases opens : event.opens record with
  | false =>
    rw [extend_kept opens]
    exact serve_kept positive (List.mem_append_right _ (List.mem_singleton_self event)) opens
      (intact.later [event]) ran
  | true =>
    rw [extend_opens opens]
    cases event with
    | accept ss newpcb =>
      cases ss with
      | none => cases opens
      | some self =>
        obtain rfl : self = record := of_decide_eq_true opens
        cases ran
        dsimp only
        rw [Function.update_self]
        refine intact_new fun found here => ?_
        cases here
        rfl
    | _ => cases opens

end Lines

/-! ### Runs -/

/-- **The stream of a record.** -/
structure Streams (record : Address) (life : Life) (c : Channel) : Prop where
  live : ∀ ss, c.records record = some ss →
    written life.trace ++ c.heap.bytes ss.p = (enqueued life.trace).flatten
  sound : written life.trace <+: (enqueued life.trace).flatten
  closed : ∀ pcb p, Output.close pcb p ∈ life.trace →
    c.records record = none ∧ written life.trace = (enqueued life.trace).flatten
  messages : ∀ data ∈ enqueued life.trace, ∃ buffer, data <+: buffer ∧
    Message record life.events buffer

/-- The stream of a line is the one of its record. -/
theorem Intact.streams {c : Channel} {t : Lines} {record : Address} {life : Life}
    (intact : Intact record life.events (t.lines record) life.trace)
    (represents : Represents c t) : Streams record life c := by
  obtain ⟨chains, queues⟩ := represents
  have line := queues.lines record
  refine ⟨fun ss live => ?_, intact.sound, fun pcb p inside => ?_, intact.messages⟩
  · rw [live] at line
    have pending := queues.pending record ss live
    rw [pending.bytes_eq, List.flatMap_def]
    exact intact.live _ line
  · obtain ⟨gone, whole⟩ := intact.closed pcb p inside
    rw [line] at gone
    exact ⟨Option.map_eq_none_iff.mp gone, whole⟩

/-- **All streams are intact.** After any run of the channel that uses no freed record, on any number
of connections whose buffers share one heap: for every connection, what `tcp_write` accepted on it is
the front of what was taken for it, and while it lives the rest is pending on its record; if it was
closed, all of it was written. What was taken is the front of messages that were sent to it, or to
all, since it was accepted. No buffer is pending on two records. -/
theorem streams_intact {tcpMss : Nat} (positive : 0 < tcpMss) (numBroadcastConnections : Nat)
    (callback : Bool) {events : List ChannelEvent} {outputs : List (List (Address × Output))}
    {c : Channel} (ran : answers (Channel.exec tcpMss)
      (initialChannel numBroadcastConnections callback) events = .ok (outputs, c)) :
    (∀ record, Streams record (lifeOf record events outputs) c) ∧
      ∀ first second ss ss', first ≠ second → c.records first = some ss →
        c.records second = some ss' → ∀ q, OnChain c.heap ss.p q → ¬ OnChain c.heap ss'.p q := by
  have serves := channel_serves positive numBroadcastConnections callback events
  rw [ran] at serves
  obtain ⟨⟨_, t⟩, served, same, represents⟩ := serves.of_ok
  obtain rfl : outputs = _ := same
  refine ⟨fun record => Intact.streams (t := t) ?_ represents, ?_⟩
  · refine answers_invariant
      (P := fun t (life : Life) => Intact record life.events (t.lines record) life.trace)
      (fun _ _ _ _ _ intact executed => serve_intact positive intact executed) ?_ served
    refine intact_new fun found here => ?_
    cases here
  · obtain ⟨chains, queues⟩ := represents
    intro first second ss ss' different live live' q on on'
    exact queues.apart first second different q
      ((queues.pending first ss live).linked.onChain_iff.mp on)
      ((queues.pending second ss' live').linked.onChain_iff.mp on')

theorem streams_intact_sample : ∃ outputs c,
    answers (Channel.exec 2) (initialChannel 2 true) twoLines = .ok (outputs, c) ∧
    (∀ record, Streams record (lifeOf record twoLines outputs) c) ∧
      ∀ first second ss ss', first ≠ second → c.records first = some ss →
        c.records second = some ss' → ∀ q, OnChain c.heap ss.p q → ¬ OnChain c.heap ss'.p q :=
  ⟨_, _, rfl, streams_intact (by decide : 0 < 2) 2 true rfl⟩

end Jblib.Ethutilities.TcpServerChannel
