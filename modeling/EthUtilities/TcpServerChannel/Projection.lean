/-
**Every connection of the channel runs as if it were alone.**

`Stream` follows one connection, and lets the other ones do anything to the registry. What holds of all
its runs holds of each connection of the channel: the channel does nothing else to it.

* `Projected` — what an event of the channel is to the connection on a record.
* `Ran` — events of the channel are, projected, a run of the connection, on buffers of its own.
* `Shows` — a connection and its line: the same registry, callback, state and segments.
  `Shows.onLine`, `Shows.txs`: they make the same steps.
* `Mirrored` — the life of a record is such a run; `Mirrored.serve`: every event keeps that.
* **`connections_run`** — over whole runs of the channel.
-/

import EthUtilities.TcpServerChannel.LineStreams

namespace Jblib.Ethutilities.TcpServerChannel

open Library Library.PbufHeap Refinement

/-! ### Projections -/

/-- What an event of the channel is to the connection on a record. -/
inductive Projected (record : Address) : ChannelEvent → ConnectionEvent → Prop
  | tx (buffer : List UInt8) (parameter : Option Address) (answer : Nat → TxResponse) :
    Projected record (.tx buffer parameter answer) (.tx buffer parameter answer)
  | poll (lwip : Nat → Response) : Projected record (.poll record lwip) (.poll lwip)
  | sent (lwip : Nat → Response) : Projected record (.sent record lwip) (.sent lwip)
  | receive (p : Option (List (List UInt8))) (err : Err) (lwip : Nat → Response) :
    Projected record (.receive record p err lwip) (.receive p err lwip)
  | others {event : ChannelEvent} (foreign : event.foreign record = true) (registry : Registry) :
    Projected record event (.others registry)
  | setCallback (callback : Bool) : Projected record (.setCallback callback) (.setCallback callback)

/-- The events are a run of the connection since it was accepted. -/
def Ran (tcpMss : Nat) (record : Address) (lived : List ChannelEvent) (one : Connection) : Prop :=
  ∃ registry callback pcb own, List.Forall₂ (Projected record) lived own ∧
    (connection tcpMss record).Valid (.ok (accept registry callback .empty pcb)) own ∧
    (connection tcpMss record).run (.ok (accept registry callback .empty pcb)) own = .ok one

section Ran

variable {tcpMss : Nat} {record : Address} {lived : List ChannelEvent} {event : ChannelEvent}
  {own : ConnectionEvent} {one one' : Connection}

theorem ran_accept (registry : Registry) (callback : Bool) (pcb : Address) :
    Ran tcpMss record [] (accept registry callback .empty pcb) :=
  ⟨registry, callback, pcb, [], .nil, trivial, rfl⟩

/-- **One step more.** -/
theorem Ran.later (ran : Ran tcpMss record lived one) (alive : one.freed = false)
    (projected : Projected record event own)
    (next : connectionStep tcpMss record one own = .ok one') :
    Ran tcpMss record (lived ++ [event]) one' := by
  obtain ⟨registry, callback, pcb, before, each, valid, ran⟩ := ran
  refine ⟨registry, callback, pcb, before ++ [own], ?_, Machine.steps_append.mpr ⟨valid, ?_⟩, ?_⟩
  · exact List.rel_append each (.cons projected .nil)
  · rw [ran]
    refine ⟨fun c same => ?_, trivial⟩
    cases same
    exact alive
  · rw [Machine.run_append, ran]
    exact next

end Ran

/-! ### A connection and its line -/

/-- The connection is the line, in the same registry. -/
structure Shows (one : Connection) (t : Lines) (line : Line) : Prop where
  alive : one.freed = false
  registry : one.registry = t.registry
  callback : one.callback = t.callback
  line : ∃ links, Pending one.heap one.ss.p links ∧ lineOf one.ss links = line

/-- The connection is the line of its record, while that lives. -/
def Mirrors (record : Address) (one : Connection) (t : Lines) : Prop :=
  ∀ line, t.lines record = some line → Shows one t line

section Shows

variable {tcpMss : Nat} {record other : Address} {one : Connection} {t t' : Lines} {line : Line}
  {step : Line → Option Line × List Output} {outputs : List (Address × Output)}

theorem Shows.mirrors (shows : Shows one t line) (live : t.lines record = some line) :
    Mirrors record one t := by
  intro line' live'
  cases live.symm.trans live'
  exact shows

/-- **The connection makes the steps of its line.** -/
theorem Shows.onLine {function : Connection → Except Fault Connection} (shows : Shows one t line)
    (live : t.lines record = some line)
    (does : ∀ links, Pending one.heap one.ss.p links → ∃ one' links', function one = .ok one' ∧
      Does record one one' links links' (step (lineOf one.ss links)))
    (ran : t.onLine record step = .ok (t', outputs)) :
    ∃ one', function one = .ok one' ∧ one'.trace = one.trace ++ outputsOf record outputs ∧
      Mirrors record one' t' := by
  obtain ⟨links, pending, rfl⟩ := shows.line
  obtain ⟨one', links', executed, does⟩ := does links pending
  obtain ⟨after, callback, left, own⟩ := onLine_own live ran
  refine ⟨one', executed, ?_, fun line live' => ?_⟩
  · rw [own]
    exact does.trace
  · rw [after, ← does.line] at live'
    have registry := does.registry
    cases freed : one'.freed with
    | true =>
      rw [freed] at live'
      cases live'
    | false =>
      rw [freed] at live' registry
      cases live'
      refine ⟨freed, ?_, ?_, links', does.handles.pending, rfl⟩
      · rw [left, ← does.line, freed]
        exact registry.trans shows.registry
      · rw [callback]
        exact does.callback.trans shows.callback

/-- A message closes no line. -/
theorem tx_keeps (record : Address) {buffer : List UInt8} {answer : TxResponse}
    (ran : t.tx tcpMss buffer answer other = .ok (t', outputs)) :
    t'.registry = t.registry ∧ (t.lines record ≠ none → t'.lines record ≠ none) := by
  rw [Lines.tx, Lines.onLine] at ran
  cases live : t.lines other with
  | none =>
    rw [live] at ran
    cases ran
  | some line =>
    rw [live] at ran
    cases ran
    refine ⟨rfl, fun some => ?_⟩
    dsimp only
    by_cases here : record = other
    · subst here
      rw [Function.update_self]
      exact Option.some_ne_none _
    · rw [Function.update_of_ne here]
      exact some

/-- A message for another line. -/
theorem Shows.tx_foreign {buffer : List UInt8} {answer : TxResponse} (shows : Shows one t line)
    (foreign : other ≠ record) (ran : t.tx tcpMss buffer answer other = .ok (t', outputs)) :
    Shows one t' line ∧ t'.lines record = t.lines record ∧ outputsOf record outputs = [] := by
  obtain ⟨same, callback, silent⟩ := onLine_foreign foreign ran
  obtain ⟨registry, _⟩ := tx_keeps record ran
  exact ⟨⟨shows.alive, shows.registry.trans registry.symm, shows.callback.trans callback.symm,
    shows.line⟩, same, silent⟩

/-- A broadcast. The calls for other records do not concern the connection. -/
theorem Shows.txs (positive : 0 < tcpMss) {buffer : List UInt8} {answer : Nat → TxResponse}
    {calls : List (Address × Nat)} (shows : Shows one t line) (live : t.lines record = some line)
    (stored : ∀ call ∈ calls, isConnectionInBuffer t.registry call.1 = true)
    (ran : t.txs tcpMss buffer answer calls = .ok (t', outputs)) :
    ∃ one', calls.foldlM (fun c (self, i) =>
        if self = record then txConnection tcpMss record buffer (answer i) c else .ok c) one =
          .ok one' ∧
      one'.trace = one.trace ++ outputsOf record outputs ∧ Mirrors record one' t' := by
  induction calls generalizing t one line outputs with
  | nil =>
    cases ran
    exact ⟨one, rfl, (List.append_nil _).symm, shows.mirrors live⟩
  | cons call calls ih =>
    obtain ⟨self, i⟩ := call
    rw [Lines.txs] at ran
    obtain ⟨⟨t₁, first⟩, sent, ran⟩ := Machine.bind_eq_ok_iff.mp ran
    obtain ⟨⟨t₂, more⟩, later, ran⟩ := Machine.bind_eq_ok_iff.mp ran
    cases ran
    obtain ⟨registry, kept⟩ := tx_keeps record sent
    have own : isConnectionInBuffer t.registry self = true := stored (self, i) List.mem_cons_self
    have stored' : ∀ call ∈ calls, isConnectionInBuffer t₁.registry call.1 = true := by
      rw [registry]
      exact fun call inside => stored call (List.mem_cons_of_mem _ inside)
    rw [List.foldlM_cons, outputsOf_append, ← List.append_assoc]
    dsimp only
    by_cases here : self = record
    · subst here
      rw [if_pos rfl]
      obtain ⟨one₁, executed, trace, mirrors⟩ := shows.onLine live (fun links pending =>
        txConnection_does positive buffer (answer i) (shows.registry ▸ own) pending shows.alive) sent
      obtain ⟨line₁, live₁⟩ := Option.ne_none_iff_exists'.mp
        (kept (live ▸ Option.some_ne_none line))
      rw [executed, ← trace]
      exact ih (mirrors line₁ live₁) live₁ stored' later
    · rw [if_neg here]
      obtain ⟨shows₁, same, silent⟩ := shows.tx_foreign here sent
      rw [silent, List.append_nil]
      exact ih shows₁ (same.trans live) stored' later

/-- **A message**, for one record or for all. -/
theorem Shows.message (positive : 0 < tcpMss) {buffer : List UInt8} {parameter : Option Address}
    {answer : Nat → TxResponse} (shows : Shows one t line) (live : t.lines record = some line)
    (ran : serve tcpMss t (.tx buffer parameter answer) = .ok (t', outputs)) :
    ∃ one', tx tcpMss record buffer parameter answer one = .ok one' ∧
      one'.trace = one.trace ++ outputsOf record outputs ∧ Mirrors record one' t' := by
  have nothing : one.trace = one.trace ++ outputsOf record [] := (List.append_nil _).symm
  unfold TcpServerChannel.tx
  rw [shows.registry]
  cases parameter with
  | none =>
    rw [serve] at ran
    by_cases zero : t.registry.connectionsCounter = 0
    · rw [broadcastConnections_eq_nil zero] at ran
      cases ran
      rw [if_pos zero]
      exact ⟨one, rfl, nothing, shows.mirrors live⟩
    · rw [if_neg zero]
      exact shows.txs positive live (fun _ inside => stored_of_broadcast inside) ran
  | some self =>
    rw [serve] at ran
    by_cases stored : isConnectionInBuffer t.registry self = true
    case neg =>
      rw [if_neg stored] at ran
      cases ran
      -- the connection looks at its own registry, which does not hold the record either
      have refused : ¬ Accepts self one := fun accepts => stored (shows.registry ▸ accepts.1)
      dsimp only
      refine ⟨one, ?_, nothing, shows.mirrors live⟩
      split_ifs with zero here
      · rfl
      · subst here
        rw [txConnection, if_neg refused]
      · rfl
    rw [if_pos stored] at ran
    rw [if_neg (counter_ne_zero_of_walked (isConnectionInBuffer_iff.mp stored))]
    dsimp only
    by_cases here : self = record
    · subst here
      rw [if_pos rfl]
      exact shows.onLine live (fun links pending => txConnection_does positive buffer (answer 0)
        (shows.registry ▸ stored) pending shows.alive) ran
    · rw [if_neg here]
      obtain ⟨shows', same, silent⟩ := shows.tx_foreign here ran
      rw [silent, List.append_nil]
      exact ⟨one, rfl, rfl, shows'.mirrors (same.trans live)⟩

/-- **An event of the connection, or of another one.** -/
theorem Shows.serve (positive : 0 < tcpMss) {event : ChannelEvent} (shows : Shows one t line)
    (live : t.lines record = some line) (kept : event.opens record = false)
    (stays : event ≠ .error record) (ran : serve tcpMss t event = .ok (t', outputs)) :
    ∃ own one', Projected record event own ∧ connectionStep tcpMss record one own = .ok one' ∧
      one'.trace = one.trace ++ outputsOf record outputs ∧ Mirrors record one' t' := by
  by_cases foreign : event.foreign record = true
  · obtain ⟨same, callback, silent⟩ := serve_foreign foreign ran
    refine ⟨_, _, .others foreign t'.registry, rfl, ?_, fun line' live' => ?_⟩
    · rw [silent, List.append_nil]
    · cases (same.trans live).symm.trans live'
      exact ⟨shows.alive, rfl, shows.callback.trans callback.symm, shows.line⟩
  cases event with
  | accept ss newpcb =>
    obtain rfl : ss = some record := of_not_not (mt decide_eq_true foreign)
    exact absurd kept (by simp [ChannelEvent.opens])
  | tx buffer parameter answer =>
    obtain ⟨one', executed, trace, mirrors⟩ := shows.message positive live ran
    exact ⟨_, one', .tx buffer parameter answer, executed, trace, mirrors⟩
  | poll self lwip =>
    obtain rfl : self = record := of_not_not (mt decide_eq_true foreign)
    obtain ⟨one', executed, trace, mirrors⟩ :=
      shows.onLine live (fun _ pending => poll_does lwip pending shows.alive) ran
    exact ⟨_, one', .poll lwip, executed, trace, mirrors⟩
  | sent self lwip =>
    obtain rfl : self = record := of_not_not (mt decide_eq_true foreign)
    obtain ⟨one', executed, trace, mirrors⟩ :=
      shows.onLine live (fun _ pending => poll_does lwip pending shows.alive) ran
    exact ⟨_, one', .sent lwip, executed, trace, mirrors⟩
  | receive self p err lwip =>
    obtain rfl : self = record := of_not_not (mt decide_eq_true foreign)
    obtain ⟨one', executed, trace, mirrors⟩ := shows.onLine live (fun _ pending =>
      shows.callback ▸ receive_does p err lwip pending shows.alive) ran
    exact ⟨_, one', .receive p err lwip, executed, trace, mirrors⟩
  | error self =>
    exact absurd (congrArg _ (of_not_not (mt decide_eq_true foreign))) stays
  | setCallback callback =>
    cases ran
    refine ⟨_, _, .setCallback callback, rfl, (List.append_nil _).symm, fun line' live' => ?_⟩
    cases live.symm.trans live'
    exact ⟨shows.alive, shows.registry, rfl, shows.line⟩

end Shows

/-! ### Records that nobody uses -/

section Gone

variable {tcpMss : Nat} {record other : Address} {t t' : Lines}
  {outputs : List (Address × Output)}

theorem onLine_gone {step : Line → Option Line × List Output} (gone : t.lines record = none)
    (ran : t.onLine other step = .ok (t', outputs)) :
    t'.lines record = none ∧ outputsOf record outputs = [] := by
  have foreign : other ≠ record := by
    rintro rfl
    obtain ⟨line, live⟩ := onLine_live ran
    cases gone.symm.trans live
  obtain ⟨same, _, silent⟩ := onLine_foreign foreign ran
  exact ⟨same.trans gone, silent⟩

theorem txs_gone {buffer : List UInt8} {answer : Nat → TxResponse} {calls : List (Address × Nat)}
    (gone : t.lines record = none) (ran : t.txs tcpMss buffer answer calls = .ok (t', outputs)) :
    t'.lines record = none ∧ outputsOf record outputs = [] := by
  induction calls generalizing t outputs with
  | nil =>
    cases ran
    exact ⟨gone, rfl⟩
  | cons call calls ih =>
    rw [Lines.txs] at ran
    obtain ⟨⟨t₁, first⟩, sent, ran⟩ := Machine.bind_eq_ok_iff.mp ran
    obtain ⟨⟨t₂, more⟩, later, ran⟩ := Machine.bind_eq_ok_iff.mp ran
    cases ran
    obtain ⟨gone₁, silent⟩ := onLine_gone gone sent
    obtain ⟨gone₂, silent'⟩ := ih gone₁ later
    exact ⟨gone₂, by rw [outputsOf_append, silent, silent', List.append_nil]⟩

/-- Nothing is done for a record until a connection is accepted on it. -/
theorem serve_gone {event : ChannelEvent} (gone : t.lines record = none)
    (kept : event.opens record = false) (ran : serve tcpMss t event = .ok (t', outputs)) :
    t'.lines record = none ∧ outputsOf record outputs = [] := by
  by_cases foreign : event.foreign record = true
  · obtain ⟨same, _, silent⟩ := serve_foreign foreign ran
    exact ⟨same.trans gone, silent⟩
  cases event with
  | accept ss newpcb =>
    obtain rfl : ss = some record := of_not_not (mt decide_eq_true foreign)
    exact absurd kept (by simp [ChannelEvent.opens])
  | tx buffer parameter answer =>
    cases parameter with
    | none => exact txs_gone gone ran
    | some self =>
      rw [serve] at ran
      split_ifs at ran
      · exact onLine_gone gone ran
      · cases ran
        exact ⟨gone, rfl⟩
  | poll self lwip | sent self lwip | receive self p err lwip => exact onLine_gone gone ran
  | error self =>
    obtain rfl : self = record := of_not_not (mt decide_eq_true foreign)
    cases ran
    exact ⟨Function.update_self .., rfl⟩
  | setCallback callback =>
    cases ran
    exact ⟨gone, rfl⟩

end Gone

/-! ### Runs -/

/-- The life of a record is a run of the connection on it: all of it while it lives, else up to the end
of the connection. -/
def Mirrored (tcpMss : Nat) (record : Address) (t : Lines) (life : Life) : Prop :=
  ∃ lived one, lived <+: life.events ∧ Ran tcpMss record lived one ∧ one.trace = life.trace ∧
    ∀ line, t.lines record = some line → lived = life.events ∧ Shows one t line

section Mirrored

variable {tcpMss : Nat} {record : Address} {t t' : Lines} {life : Life} {event : ChannelEvent}
  {outputs : List (Address × Output)}

/-- A connection is accepted on the record. -/
theorem mirrored_accept {ss : Option Address} {newpcb : Address}
    (opens : (ChannelEvent.accept ss newpcb).opens record = true)
    (ran : serve tcpMss t (.accept ss newpcb) = .ok (t', outputs)) :
    Mirrored tcpMss record t' ⟨[], []⟩ := by
  cases ss with
  | none => cases opens
  | some self =>
    obtain rfl : self = record := of_decide_eq_true opens
    cases ran
    refine ⟨[], accept (addConnectionToBuffer t.registry self) t.callback .empty newpcb,
      List.prefix_rfl, ran_accept _ _ newpcb, rfl, fun line live => ⟨rfl, ?_⟩⟩
    dsimp only at live
    rw [Function.update_self] at live
    cases live
    exact ⟨rfl, rfl, rfl, [], .empty, rfl⟩

/-- **One event.** -/
theorem Mirrored.serve (positive : 0 < tcpMss) (mirrored : Mirrored tcpMss record t life)
    (ran : serve tcpMss t event = .ok (t', outputs)) :
    Mirrored tcpMss record t' (life.extend record event outputs) := by
  cases opens : event.opens record with
  | true =>
    rw [extend_opens opens]
    cases event with
    | accept ss newpcb => exact mirrored_accept opens ran
    | _ => cases opens
  | false =>
    rw [extend_kept opens]
    obtain ⟨lived, one, front, run, trace, whole⟩ := mirrored
    cases live : t.lines record with
    | none =>
      obtain ⟨gone, silent⟩ := serve_gone live opens ran
      refine ⟨lived, one, front.trans (List.prefix_append _ _), run, ?_, fun line live' => ?_⟩
      · rw [silent, List.append_nil]
        exact trace
      · cases gone.symm.trans live'
    | some line =>
      obtain ⟨rfl, shows⟩ := whole line live
      by_cases fails : event = .error record
      · subst fails
        cases ran
        refine ⟨life.events, one, List.prefix_append _ _, run, ?_, fun line live' => ?_⟩
        · rw [outputsOf_nil, List.append_nil]
          exact trace
        · dsimp only at live'
          rw [Function.update_self] at live'
          cases live'
      · obtain ⟨own, one', projected, next, trace', mirrors⟩ :=
          shows.serve positive live opens fails ran
        exact ⟨life.events ++ [event], one', List.prefix_rfl, run.later shows.alive projected next,
          trace'.trans (congrArg (· ++ _) trace), fun line' live' => ⟨rfl, mirrors line' live'⟩⟩

end Mirrored

/-- The connection is the one on a record, on buffers of its own. -/
structure Alike (one : Connection) (c : Channel) (ss : TcpServerParameters) : Prop where
  alive : one.freed = false
  registry : one.registry = c.registry
  callback : one.callback = c.callback
  state : one.ss.state = ss.state
  pcb : one.ss.pcb = ss.pcb
  segments : ∃ links links', Pending one.heap one.ss.p links ∧ Pending c.heap ss.p links' ∧
    links.map Link.data = links'.map Link.data

/-- A line and its record. -/
theorem Shows.alike {one : Connection} {c : Channel} {t : Lines} {chains : Address → List Link}
    {record : Address} {ss : TcpServerParameters} (queues : Queues c t chains)
    (live : c.records record = some ss) (shows : Shows one t (lineOf ss (chains record))) :
    Alike one c ss := by
  obtain ⟨links, pending, same⟩ := shows.line
  exact ⟨shows.alive, shows.registry.trans queues.registry,
    shows.callback.trans queues.callback, congrArg Line.state same, congrArg Line.pcb same,
    links, chains record, pending, queues.pending record ss live, congrArg Line.queue same⟩

/-- **Every connection of the channel is a run of the connection machine.** Take any run of the channel
and any record. What the channel did for the connection that it belongs to, or belonged to last, is
what the machine of that connection does in a run of its own: it gets the functions that were called
for this connection, every other event as something that happens to the registry, and it ends in the
same state, with the same segments pending. -/
theorem connections_run {tcpMss : Nat} (positive : 0 < tcpMss) (numBroadcastConnections : Nat)
    (callback : Bool) {events : List ChannelEvent} {outputs : List (List (Address × Output))}
    {c : Channel} (ran : answers (Channel.exec tcpMss)
      (initialChannel numBroadcastConnections callback) events = .ok (outputs, c))
    (record : Address) :
    let life := lifeOf record events outputs
    ∃ lived one, lived <+: life.events ∧ Ran tcpMss record lived one ∧ one.trace = life.trace ∧
      ∀ ss, c.records record = some ss → lived = life.events ∧ Alike one c ss := by
  intro life
  have serves := channel_serves positive numBroadcastConnections callback events
  rw [ran] at serves
  obtain ⟨⟨_, t⟩, served, same, chains, queues⟩ := serves.of_ok
  obtain rfl : outputs = _ := same
  have start : Mirrored tcpMss record (initialLines numBroadcastConnections callback) ⟨[], []⟩ :=
    ⟨[], _, List.prefix_rfl, ran_accept (construct numBroadcastConnections) callback 0, rfl,
      fun line live => by cases live⟩
  have mirrored : Mirrored tcpMss record t life := answers_invariant
    (fun _ _ _ _ _ mirrored ran => Mirrored.serve positive mirrored ran) start served
  obtain ⟨lived, one, front, run, trace, shows⟩ := mirrored
  refine ⟨lived, one, front, run, trace, fun ss live => ?_⟩
  have line := queues.lines record
  rw [live] at line
  obtain ⟨whole, shows⟩ := shows _ line
  exact ⟨whole, shows.alike queues live⟩

theorem connections_run_sample : ∃ outputs c,
    answers (Channel.exec 2) (initialChannel 2 true) (twoLines.take 4) = .ok (outputs, c) ∧
    let life := lifeOf 7 (twoLines.take 4) outputs
    ∃ lived one, lived <+: life.events ∧ Ran 2 7 lived one ∧ one.trace = life.trace ∧
      ∀ ss, c.records 7 = some ss → lived = life.events ∧ Alike one c ss :=
  ⟨_, _, rfl, connections_run (by decide : 0 < 2) 2 true rfl 7⟩

end Jblib.Ethutilities.TcpServerChannel
