/-
**The channel serves its lines.**

* `Does` — a function of one record does what a step of its line says: `send_line`, `poll_does`,
  `receive_does`, `txConnection_does`. `fillChain_line`: the segments on the chain.
* `Queues` — the chains of the records are the queues of the lines, and no two records share a buffer.
  `Queues.update`: what a function does to its own chain changes no other line.
* **`channel_serves`** — in every run the channel does what its lines do, and faults if they do.
-/

import EthUtilities.TcpServerChannel.Lines
import EthUtilities.TcpServerChannel.Teardown

namespace Jblib.Ethutilities.TcpServerChannel

open Library Library.PbufHeap Refinement

/-! ### Sending -/

/-- A record and its chain, seen as a line. -/
def lineOf (ss : TcpServerParameters) (links : List Link) : Line :=
  ⟨ss.state, ss.pcb, links.map Link.data⟩

/-- What a function does to its record is the answer of the line. -/
structure Does (record : Address) (one one' : Connection) (links links' : List Link)
    (answer : Option Line × List Output) : Prop where
  handles : Handles one one' links links'
  line : (if one'.freed then none else some (lineOf one'.ss links')) = answer.1
  registry : one'.registry =
    if one'.freed then deleteConnectionFromBuffer one.registry record else one.registry
  callback : one'.callback = one.callback
  trace : one'.trace = one.trace ++ answer.2

section Lines

variable {one one' : Connection} {links links' : List Link} {self : Address}

/-- Something waits on a line if there is a chain. -/
theorem Pending.queue_eq_nil_iff {heap : Heap} {p : Option Nat} (pending : Pending heap p links) :
    links.map Link.data = [] ↔ p = none := by
  rw [List.map_eq_nil_iff]
  constructor
  · rintro rfl
    exact pending.linked
  · rintro rfl
    exact pending.eq_nil

/-- **The loop of `send`** writes the first segments of the line. The induction is on the chain. -/
theorem sendLoop_line (lwip : Nat → Response) {fuel : Nat} (k : Nat)
    (pending : Pending one.heap one.ss.p links) (ran : sendLoop lwip fuel k one = .ok one') :
    ∃ rest, Pending one'.heap one'.ss.p rest ∧
      lineOf one'.ss rest = { lineOf one.ss links with
        queue := (Line.sendFrom one.ss.pcb lwip k (links.map Link.data)).1 } ∧
      one'.trace =
        one.trace ++ (Line.sendFrom one.ss.pcb lwip k (links.map Link.data)).2 := by
  induction links generalizing fuel k one with
  | nil =>
    cases fuel with
    | zero => cases ran
    | succ fuel =>
      rw [sendLoop, show one.ss.p = none from pending.linked] at ran
      cases ran
      exact ⟨[], pending, rfl, (List.append_nil _).symm⟩
  | cons link links ih =>
    cases fuel with
    | zero => cases ran
    | succ fuel =>
      rw [List.map_cons, Line.sendFrom]
      rcases sendLoop_turn lwip fuel k pending with
        ⟨window, taken, next, heap', tail, _, turn⟩ | ⟨window, refused, turn⟩ | ⟨window, turn⟩
      · rw [if_pos window, if_pos taken]
        let sent := (one.emit (.tcpWrite one.ss.pcb link.data .ok)).withChain heap' next
        have left : Pending sent.heap sent.ss.p links := tail
        obtain ⟨rest, pending', line, trace⟩ := ih (k + 1) left (turn.symm.trans ran)
        refine ⟨rest, pending', line, trace.trans ?_⟩
        exact List.append_assoc _ _ _
      · rw [if_pos window, if_neg refused]
        obtain rfl := Except.ok.inj (turn.symm.trans ran)
        exact ⟨link :: links, pending, rfl, rfl⟩
      · rw [if_neg (Nat.not_le_of_lt window)]
        obtain rfl := Except.ok.inj (turn.symm.trans ran)
        exact ⟨link :: links, pending, rfl, (List.append_nil _).symm⟩

/-- **`send`**. -/
theorem send_line (lwip : Nat → Response) (pending : Pending one.heap one.ss.p links)
    (alive : one.freed = false) : ∃ one' links', send lwip one = .ok one' ∧
      Handles one one' links links' ∧ Stays one one' ∧
      lineOf one'.ss links' = ((lineOf one.ss links).send lwip).1 ∧
      one'.trace = one.trace ++ ((lineOf one.ss links).send lwip).2 := by
  obtain ⟨one', links', ran, handles, _⟩ := send_handles lwip pending alive
  obtain ⟨rest, pending', line, trace⟩ := sendLoop_line lwip 0 pending ran
  rw [pending'.linked.unique handles.pending.linked] at line
  exact ⟨one', links', ran, handles, sendLoop_stays lwip ran, line, trace⟩

/-- The branch of `poll`, `sent` and `receive` for a pending chain. -/
theorem resend_does (lwip : Nat → Response) (pending : Pending one.heap one.ss.p links)
    (alive : one.freed = false) :
    ∃ one' links', send lwip (one.emit (.tcpSent one.ss.pcb)) = .ok one' ∧
      Does self one one' links links' ((lineOf one.ss links).resend lwip) := by
  have emitted : Pending (one.emit (.tcpSent one.ss.pcb)).heap one.ss.p links := pending
  obtain ⟨one', links', ran, handles, stays, line, trace⟩ := send_line lwip emitted alive
  have kept : one'.freed = false := stays.freed.trans alive
  refine ⟨one', links', ran, ⟨handles.pending, handles.replaces, handles.freed⟩, ?_, ?_,
    stays.callback, ?_⟩
  · rw [kept, line]
    rfl
  · rw [kept]
    exact stays.registry
  · rw [trace]
    exact List.append_assoc _ _ _

/-- `close` with nothing pending. -/
theorem close_does (pending : Pending one.heap one.ss.p links) (nothing : one.ss.p = none) :
    Does self one (close self one) links links (lineOf one.ss links).close where
  handles := close_handles self pending nothing
  line := rfl
  registry := rfl
  callback := rfl
  trace := by
    show one.trace ++ [.close one.ss.pcb one.ss.p] = _
    rw [nothing]
    rfl

/-- What leaves the chain and the registry alone. -/
theorem Does.same (pending : Pending one.heap one.ss.p links) (alive : one.freed = false)
    (state : TcpServerState) (outputs : List Output) :
    Does self one { one with ss := { one.ss with state }, trace := one.trace ++ outputs } links
      links (some { lineOf one.ss links with state }, outputs) where
  handles := .same pending rfl rfl fun freed => absurd (alive.symm.trans freed) Bool.false_ne_true
  line := by
    dsimp only
    rw [alive]
    rfl
  registry := by
    dsimp only
    rw [alive]
    rfl
  callback := rfl
  trace := rfl

/-- `poll`, and `sent`, which has the same branches. -/
theorem poll_does (lwip : Nat → Response) (pending : Pending one.heap one.ss.p links)
    (alive : one.freed = false) :
    ∃ one' links', poll self lwip one = .ok one' ∧
      Does self one one' links links' ((lineOf one.ss links).poll lwip) := by
  have waits := pending.queue_eq_nil_iff
  rw [poll, Line.poll]
  cases start : one.ss.p with
  | some p =>
    have some : (lineOf one.ss links).queue ≠ [] := fun empty => by
      cases start.symm.trans (waits.mp empty)
    rw [if_pos some]
    exact resend_does lwip pending alive
  | none =>
    have empty : (lineOf one.ss links).queue = [] := waits.mpr start
    rw [if_neg (not_not_intro empty)]
    dsimp only
    by_cases closing : one.ss.state = .closing
    · rw [if_pos closing, if_pos (show (lineOf one.ss links).state = .closing from closing)]
      exact ⟨_, links, rfl, close_does pending start⟩
    · rw [if_neg closing, if_neg (show (lineOf one.ss links).state ≠ .closing from closing)]
      have same : Does self one _ links links _ := .same pending alive one.ss.state []
      rw [List.append_nil] at same
      exact ⟨one, links, rfl, same⟩

/-- The branch of `receive` for the end of the stream. -/
theorem drain_does (lwip : Nat → Response) (pending : Pending one.heap one.ss.p links)
    (alive : one.freed = false) :
    ∃ one' links', (match one.ss.p with
      | none => Except.ok (close self one)
      | some _ => send lwip (one.emit (.tcpSent one.ss.pcb))) = .ok one' ∧
      Does self one one' links links' (if (lineOf one.ss links).queue ≠ [] then
        (lineOf one.ss links).resend lwip else (lineOf one.ss links).close) := by
  have waits := pending.queue_eq_nil_iff
  cases start : one.ss.p with
  | some p =>
    have some : (lineOf one.ss links).queue ≠ [] := fun empty => by
      cases start.symm.trans (waits.mp empty)
    rw [if_pos some]
    exact resend_does lwip pending alive
  | none =>
    have empty : (lineOf one.ss links).queue = [] := waits.mpr start
    rw [if_neg (not_not_intro empty)]
    exact ⟨_, links, rfl, close_does pending start⟩

theorem receive_does (p : Option (List (List UInt8))) (err : Err) (lwip : Nat → Response)
    (pending : Pending one.heap one.ss.p links) (alive : one.freed = false) :
    ∃ one' links', receive self p err lwip one = .ok one' ∧
      Does self one one' links links' ((lineOf one.ss links).receive one.callback p err lwip) := by
  unfold receive Line.receive
  cases p with
  | none =>
    let closing : Connection := { one with ss := { one.ss with state := .closing } }
    have here : Pending closing.heap closing.ss.p links := pending
    obtain ⟨one', links', ran, does⟩ : ∃ one' links', _ ∧ Does self closing one' links links' _ :=
      drain_does lwip here alive
    exact ⟨one', links', ran, ⟨does.handles.pending, does.handles.replaces, does.handles.freed⟩,
      does.line, does.registry, does.callback, does.trace⟩
  | some segments =>
    have same : ∀ outputs, Does self one _ links links _ := .same pending alive one.ss.state
    dsimp only
    by_cases failed : err ≠ .ok
    · rw [if_pos failed, if_pos failed]
      have nothing := same []
      rw [List.append_nil] at nothing
      exact ⟨one, links, rfl, nothing⟩
    · rw [if_neg failed, if_neg failed]
      have seen : (lineOf one.ss links).state = one.ss.state := rfl
      rw [seen]
      cases state : one.ss.state with
      | accepted =>
        refine ⟨_, links, rfl, ?_⟩
        rw [List.append_assoc]
        have handed : (if TcpServerState.accepted = .accepted ∧ one.callback = true then
            segments.map Output.channelCallback else []) =
            if one.callback then segments.map Output.channelCallback else [] := by simp
        rw [handed]
        exact same _
      | closing | none =>
        exact ⟨_, links, rfl, same _⟩

end Lines

/-! ### Taking messages -/

section Taking

variable {tcpMss : Nat} {one one' : Connection} {links : List Link} {self : Address}

theorem taken_nothing (positive : 0 < tcpMss) {pbufAlloc : Nat → Bool} {data : List UInt8}
    (done : 0 < data.length → pbufAlloc 0 = false) : Line.taken tcpMss pbufAlloc data = [] := by
  unfold Line.taken
  cases count : segments tcpMss data.length with
  | zero => rfl
  | succ count =>
    have more : 0 < data.length := by
      refine Nat.pos_of_ne_zero fun empty => ?_
      rw [empty, segments_zero positive] at count
      cases count
    rw [List.range_succ_eq_map, List.takeWhile_cons_of_neg (by simp [done more])]
    rfl

/-- A segment more. -/
theorem taken_cons (positive : 0 < tcpMss) {pbufAlloc : Nat → Bool} {data : List UInt8}
    (more : 0 < data.length) (allocated : pbufAlloc 0 = true) :
    Line.taken tcpMss pbufAlloc data = data.take tcpMss ::
      Line.taken tcpMss (fun k => pbufAlloc (k + 1)) (data.drop tcpMss) := by
  have count : segments tcpMss data.length = segments tcpMss (data.drop tcpMss).length + 1 := by
    rw [List.length_drop]
    by_cases last : data.length ≤ tcpMss
    · rw [segments_last more last, Nat.sub_eq_zero_of_le last, segments_zero positive]
    · rw [← segments_full positive]
      congr 1
      omega
  unfold Line.taken
  rw [count, List.range_succ_eq_map, List.takeWhile_cons_of_pos allocated, List.map_cons,
    List.takeWhile_map, List.map_map, Nat.zero_mul, List.drop_zero]
  congr 1
  refine List.map_congr_left fun k _ => ?_
  rw [Function.comp_apply, Nat.succ_eq_add_one, List.drop_drop, Nat.add_mul, Nat.one_mul,
    Nat.add_comm]

/-- **The loop of `tx`** puts segments of the message on the chain. -/
theorem fillChain_line (positive : 0 < tcpMss) {fuel k : Nat} {data : List UInt8}
    {pbufAlloc : Nat → Bool} (pending : Pending one.heap one.ss.p links)
    (ran : fillChain tcpMss pbufAlloc fuel k data one = .ok one') :
    ∃ links', Pending one'.heap one'.ss.p links' ∧ links'.map Link.data =
      links.map Link.data ++ Line.taken tcpMss (fun i => pbufAlloc (k + i)) data := by
  induction fuel generalizing k data one links with
  | zero => cases ran
  | succ fuel ih =>
    by_cases more : 0 < data.length
    case neg =>
      rw [fillChain_done fun some => absurd some more] at ran
      cases ran
      refine ⟨links, pending, ?_⟩
      rw [taken_nothing positive fun some => absurd some more, List.append_nil]
    cases allocated : pbufAlloc k with
    | false =>
      rw [fillChain_done fun _ => allocated] at ran
      cases ran
      refine ⟨links, pending, ?_⟩
      rw [taken_nothing positive fun _ => allocated, List.append_nil]
    | true =>
      obtain ⟨heap₁, p₁, ref, turn, filled, _⟩ := fillChain_turn tcpMss fuel pending more allocated
      obtain ⟨links', pending', bytes⟩ := ih filled (turn.symm.trans ran)
      refine ⟨links', pending', ?_⟩
      have first : data.take (min data.length tcpMss) = data.take tcpMss := by
        rw [List.take_eq_take_iff]
        omega
      have rest : data.drop (min data.length tcpMss) = data.drop tcpMss := by
        rw [List.drop_eq_drop_iff]
        omega
      rw [bytes, rest, List.map_append, List.append_assoc, taken_cons positive more allocated]
      have shifted : (fun i => pbufAlloc (k + 1 + i)) = fun i => pbufAlloc (k + (i + 1)) := by
        funext i
        congr 1
        omega
      rw [shifted, ← first]
      rfl

/-- **`tx`** for a record that is stored. -/
theorem txConnection_does (positive : 0 < tcpMss) (buffer : List UInt8) (answer : TxResponse)
    (stored : isConnectionInBuffer one.registry self = true)
    (pending : Pending one.heap one.ss.p links) (alive : one.freed = false) :
    ∃ one' links', txConnection tcpMss self buffer answer one = .ok one' ∧
      Does self one one' links links' (some ((lineOf one.ss links).tx tcpMss buffer answer).1,
        ((lineOf one.ss links).tx tcpMss buffer answer).2) := by
  rw [txConnection, Line.tx]
  by_cases nothing : one.ss.p = none
  case neg =>
    have waits : (lineOf one.ss links).queue ≠ [] := mt pending.queue_eq_nil_iff.mp nothing
    rw [if_neg fun accepts => nothing accepts.2, if_neg waits]
    have same : Does self one _ links links _ := .same pending alive one.ss.state []
    rw [List.append_nil] at same
    exact ⟨one, links, rfl, same⟩
  have empty : (lineOf one.ss links).queue = [] := pending.queue_eq_nil_iff.mpr nothing
  rw [if_pos (show Accepts self one from ⟨stored, nothing⟩), if_pos empty]
  obtain rfl : links = [] := List.map_eq_nil_iff.mp empty
  obtain ⟨heap', p', chunks, _, filled, pending', fills, _⟩ := fillChain_takes positive 0 buffer
    answer.pbufAlloc pending (Nat.lt_succ_self buffer.length)
  obtain ⟨chunks', pending'', data⟩ := fillChain_line positive pending filled
  obtain rfl : chunks' = chunks := pending''.linked.unique pending'.linked
  have queue : chunks'.map Link.data = Line.taken tcpMss answer.pbufAlloc buffer := by
    simpa using data
  let queued := (one.withChain heap' p').emit (.enqueue (heap'.bytes p'))
  have chain : heap'.bytes p' = (Line.taken tcpMss answer.pbufAlloc buffer).flatten := by
    rw [pending'.bytes_eq, ← queue]
    exact List.flatMap_def
  have loaded : lineOf queued.ss chunks' = { lineOf one.ss [] with
      queue := Line.taken tcpMss answer.pbufAlloc buffer } := by
    rw [← queue]
    rfl
  have full : Pending queued.heap queued.ss.p chunks' := pending'
  obtain ⟨one', links', ran, handles, stays, line, trace⟩ := send_line answer.lwip full alive
  have kept : one'.freed = false := stays.freed.trans alive
  rw [loaded] at line trace
  refine ⟨one', links', ?_, ⟨handles.pending, fills.trans handles.replaces, handles.freed⟩, ?_,
    ?_, ?_, ?_⟩
  · rw [filled]
    exact ran
  · rw [kept, line]
    rfl
  · rw [kept]
    exact stays.registry
  · exact stays.callback.trans (fillChain_stays filled).callback
  · rw [trace]
    dsimp only
    rw [← chain]
    exact List.append_assoc _ _ _

end Taking

/-! ### All lines -/

/-- **The chains of the records are the queues of the lines**, and no buffer is on two of them. -/
structure Queues (c : Channel) (t : Lines) (chains : Address → List Link) : Prop where
  registry : t.registry = c.registry
  callback : t.callback = c.callback
  lines : ∀ self, t.lines self = (c.records self).map fun ss => lineOf ss (chains self)
  pending : ∀ self ss, c.records self = some ss → Pending c.heap ss.p (chains self)
  idle : ∀ self, c.records self = none → chains self = []
  apart : ∀ self other, self ≠ other → ∀ q ∈ (chains self).map Link.address,
    q ∉ (chains other).map Link.address

/-- The lines of a channel. -/
def Represents (c : Channel) (t : Lines) : Prop := ∃ chains, Queues c t chains

section Queues

variable {c : Channel} {t : Lines} {chains : Address → List Link} {self other : Address}
  {ss : TcpServerParameters} {one : Connection} {links : List Link} {q : Nat}

theorem Queues.lt_size (queues : Queues c t chains) (owns : q ∈ (chains self).map Link.address) :
    q < c.heap.size := by
  cases live : c.records self with
  | none =>
    rw [queues.idle self live] at owns
    cases owns
  | some ss =>
    obtain ⟨link, on, rfl⟩ := List.mem_map.mp owns
    exact (queues.pending self ss live).linked.lt_size on

/-- The new chain of a record shares nothing with other records. -/
theorem Queues.apart_replaced (queues : Queues c t chains) {heap : Heap}
    (replaces : Replaces c.heap heap ((chains self).map Link.address) (links.map Link.address))
    (different : other ≠ self) (owns : q ∈ links.map Link.address) :
    q ∉ (chains other).map Link.address := by
  intro owns'
  rcases replaces.fresh q owns with before | unused
  · exact queues.apart self other different.symm q before owns'
  · exact absurd (queues.lt_size owns') (Nat.not_lt.mpr unused)

/-- Other chains than the one of a record stay apart, whatever its new chain is. -/
theorem apart_update (apart : ∀ self other, self ≠ other → ∀ q ∈ (chains self).map Link.address,
      q ∉ (chains other).map Link.address)
    (outside : ∀ other, other ≠ self → ∀ q ∈ links.map Link.address,
      q ∉ (chains other).map Link.address) (first second : Address) (different : first ≠ second) :
    ∀ q ∈ (Function.update chains self links first).map Link.address,
      q ∉ (Function.update chains self links second).map Link.address := by
  intro q owns
  by_cases firstHere : first = self
  · subst firstHere
    rw [Function.update_self] at owns
    rw [Function.update_of_ne different.symm]
    exact outside second different.symm q owns
  · rw [Function.update_of_ne firstHere] at owns
    by_cases secondHere : second = self
    · subst secondHere
      rw [Function.update_self]
      exact fun owns' => outside first firstHere q owns' owns
    · rw [Function.update_of_ne secondHere]
      exact apart first second different q owns

/-- **A function of one record** does its part, and the other lines stay. -/
theorem Queues.update (queues : Queues c t chains) {answer : Option Line × List Output}
    (does : Does self (c.connection ss) one (chains self) links answer) :
    Queues (c.update self one)
      { t with
        registry := if answer.1.isNone then deleteConnectionFromBuffer t.registry self
          else t.registry
        lines := Function.update t.lines self answer.1 }
      (Function.update chains self links) where
  registry := by
    rw [queues.registry, ← does.line]
    refine Eq.trans ?_ does.registry.symm
    cases one.freed with
    | false => rfl
    | true => rfl
  callback := queues.callback
  lines other := by
    dsimp only
    by_cases here : other = self
    · subst here
      rw [Function.update_self, Function.update_self, Channel.records_update_self, ← does.line]
      cases one.freed with
      | false => rfl
      | true => rfl
    · rw [Function.update_of_ne here, Function.update_of_ne here,
        Channel.records_update_of_ne here]
      exact queues.lines other
  pending other ss' found := by
    by_cases here : other = self
    · subst here
      rw [Channel.records_update_self] at found
      rw [Function.update_self]
      split at found
      · cases found
      · exact Option.some.inj found ▸ does.handles.pending
    · rw [Channel.records_update_of_ne here] at found
      rw [Function.update_of_ne here]
      exact (queues.pending other ss' found).replaced does.handles.replaces
        (queues.apart other self here)
  idle other dead := by
    by_cases here : other = self
    · subst here
      rw [Channel.records_update_self] at dead
      rw [Function.update_self]
      split at dead
      case isTrue freed => exact does.handles.freed freed
      case isFalse => cases dead
    · rw [Channel.records_update_of_ne here] at dead
      rw [Function.update_of_ne here]
      exact queues.idle other dead
  apart := apart_update queues.apart fun _ different _ owns =>
    queues.apart_replaced does.handles.replaces different owns

/-- The channel and its lines do the same, or use the same freed record. -/
abbrev Answers (x : Except ChannelFault (Channel × List (Address × Output)))
    (y : Except Address (Lines × List (Address × Output))) : Prop :=
  Agree (fun fault self => fault = .freedRecord self)
    (fun a b => Represents a.1 b.1 ∧ a.2 = b.2) x y

/-- A function on a record. -/
theorem Represents.report {function : Connection → Except Fault Connection}
    {step : Line → Option Line × List Output} (represents : Represents c t)
    (does : ∀ ss links, Pending c.heap ss.p links → ∃ one links',
      function (c.connection ss) = .ok one ∧
      Does self (c.connection ss) one links links' (step (lineOf ss links))) :
    Answers (c.report self function) (t.onLine self step) := by
  obtain ⟨chains, queues⟩ := represents
  unfold Channel.report Lines.onLine
  rw [queues.lines self]
  cases live : c.records self with
  | none => exact .error rfl
  | some ss =>
    obtain ⟨one, links, ran, does⟩ := does ss (chains self) (queues.pending self ss live)
    dsimp only
    rw [ran]
    refine .ok ⟨⟨_, queues.update does⟩, ?_⟩
    exact congrArg (List.map _) does.trace

/-- `tx` for records that are stored. -/
theorem Represents.tx (represents : Represents c t) {tcpMss : Nat} (positive : 0 < tcpMss)
    (stored : isConnectionInBuffer c.registry self = true) (buffer : List UInt8)
    (answer : TxResponse) :
    Answers (c.report self (txConnection tcpMss self buffer answer))
      (t.tx tcpMss buffer answer self) :=
  represents.report fun _ _ pending => txConnection_does positive buffer answer stored pending rfl

/-- A message leaves the registry alone. -/
theorem registry_of_tx {tcpMss : Nat} {buffer : List UInt8} {answer : TxResponse}
    {reported : Channel × List (Address × Output)}
    (ran : c.report self (txConnection tcpMss self buffer answer) = .ok reported) :
    reported.1.registry = c.registry := by
  have called : c.onRecord self (txConnection tcpMss self buffer answer) = .ok reported.1 := by
    rw [← Channel.report_fst, ran]
    rfl
  obtain ⟨ss, one, _, sent, same⟩ := onRecord_ok called
  rw [same]
  exact (txConnection_stays sent).registry

/-- The calls of a broadcast. -/
theorem Represents.txs (represents : Represents c t) {tcpMss : Nat} (positive : 0 < tcpMss)
    (buffer : List UInt8) (answer : Nat → TxResponse) {calls : List (Address × Nat)}
    (stored : ∀ call ∈ calls, isConnectionInBuffer c.registry call.1 = true) :
    Answers (Channel.reportTx tcpMss buffer answer calls c)
      (t.txs tcpMss buffer answer calls) := by
  induction calls generalizing c t with
  | nil => exact .ok ⟨represents, rfl⟩
  | cons call calls ih =>
    obtain ⟨self, i⟩ := call
    have first := represents.tx positive (stored (self, i) List.mem_cons_self) buffer (answer i)
    rw [Channel.reportTx, Lines.txs]
    refine (first.and_left fun _ ran => registry_of_tx ran).bind ?_
    rintro ⟨c₁, outputs⟩ ⟨t₁, _⟩ ⟨⟨represents₁, rfl⟩, registry⟩
    refine Agree.bind (ih represents₁ fun other inside => ?_) ?_
    · rw [show c₁.registry = c.registry from registry]
      exact stored other (List.mem_cons_of_mem _ inside)
    · rintro ⟨c', more⟩ ⟨t', _⟩ ⟨represents', rfl⟩
      exact .ok ⟨represents', rfl⟩

/-- Without connections there is nobody to send to. -/
theorem broadcastConnections_eq_nil {registry : Registry}
    (zero : registry.connectionsCounter = 0) : broadcastConnections registry = [] :=
  List.eq_nil_iff_forall_not_mem.mpr fun _ member =>
    counter_ne_zero_of_walked (mem_broadcastConnections.mp member) zero

/-- A broadcast goes to records that are stored. -/
theorem stored_of_broadcast {registry : Registry} {call : Address × Nat}
    (inside : call ∈ (broadcastConnections registry).zipIdx) :
    isConnectionInBuffer registry call.1 = true := by
  refine isConnectionInBuffer_iff.mpr (mem_broadcastConnections.mp ?_)
  rw [← List.zipIdx_map_fst 0 (broadcastConnections registry)]
  exact List.mem_map_of_mem inside

/-- A `tx` of the user. -/
theorem Represents.message (represents : Represents c t) {tcpMss : Nat} (positive : 0 < tcpMss)
    (buffer : List UInt8) (parameter : Option Address) (answer : Nat → TxResponse) :
    Answers (Channel.exec tcpMss c (.tx buffer parameter answer))
      (serve tcpMss t (.tx buffer parameter answer)) := by
  have registry : t.registry = c.registry := represents.elim fun _ queues => queues.registry
  unfold Channel.exec
  dsimp only
  cases parameter with
  | none =>
    rw [serve, registry]
    by_cases zero : c.registry.connectionsCounter = 0
    · rw [if_pos zero, broadcastConnections_eq_nil zero]
      exact .ok ⟨represents, rfl⟩
    · rw [if_neg zero]
      exact represents.txs positive buffer answer fun _ inside => stored_of_broadcast inside
  | some self =>
    rw [serve, registry]
    by_cases stored : isConnectionInBuffer c.registry self = true
    · have some := counter_ne_zero_of_walked (isConnectionInBuffer_iff.mp stored)
      rw [if_neg some, if_pos stored]
      dsimp only
      rw [if_pos stored]
      exact represents.tx positive stored buffer (answer 0)
    · rw [if_neg stored]
      dsimp only
      rw [if_neg stored, ite_self]
      exact .ok ⟨represents, rfl⟩

/-- A record at which nothing is pending, or which is gone. -/
theorem Represents.settle (represents : Represents c t) (registry : Registry)
    (ss : Option TcpServerParameters) (nothing : ∀ found ∈ ss, found.p = none) :
    Represents { c with registry, records := Function.update c.records self ss }
      { t with
        registry
        lines := Function.update t.lines self (ss.map fun found => lineOf found []) } := by
  obtain ⟨chains, queues⟩ := represents
  refine ⟨Function.update chains self [], rfl, queues.callback, fun other => ?_,
    fun other found live => ?_, fun other dead => ?_,
    apart_update queues.apart fun _ _ _ owns => absurd owns List.not_mem_nil⟩
  · dsimp only
    by_cases here : other = self
    · subst here
      rw [Function.update_self, Function.update_self, Function.update_self]
    · rw [Function.update_of_ne here, Function.update_of_ne here, Function.update_of_ne here]
      exact queues.lines other
  · dsimp only at live ⊢
    by_cases here : other = self
    · subst here
      rw [Function.update_self] at live ⊢
      rw [nothing found live]
      exact .empty
    · rw [Function.update_of_ne here] at live ⊢
      exact queues.pending other found live
  · dsimp only at dead
    by_cases here : other = self
    · subst here
      exact Function.update_self ..
    · rw [Function.update_of_ne here] at dead ⊢
      exact queues.idle other dead

/-- **One event.** -/
theorem Represents.exec (represents : Represents c t) {tcpMss : Nat} (positive : 0 < tcpMss)
    (event : ChannelEvent) : Answers (Channel.exec tcpMss c event) (serve tcpMss t event) := by
  have registry : t.registry = c.registry := represents.elim fun _ queues => queues.registry
  have callback : t.callback = c.callback := represents.elim fun _ queues => queues.callback
  cases event with
  | accept ss newpcb =>
    cases ss with
    | none => exact .ok ⟨represents, rfl⟩
    | some self =>
      refine .ok ⟨?_, rfl⟩
      rw [registry]
      exact represents.settle _ (some ⟨.accepted, newpcb, none⟩) fun found same => by
        cases same
        rfl
  | tx buffer parameter answer => exact represents.message positive buffer parameter answer
  | poll self lwip | sent self lwip =>
    exact represents.report fun _ _ pending => poll_does lwip pending rfl
  | receive self p err lwip =>
    rw [serve, callback]
    exact represents.report fun _ _ pending => receive_does p err lwip pending rfl
  | error self =>
    refine .ok ⟨?_, rfl⟩
    rw [registry]
    exact represents.settle _ none fun found same => by cases same
  | setCallback callback =>
    obtain ⟨chains, queues⟩ := represents
    exact .ok ⟨⟨chains, queues.registry, rfl, queues.lines, queues.pending, queues.idle,
      queues.apart⟩, rfl⟩

end Queues

/-! ### Runs -/

theorem represents_initial (numBroadcastConnections : Nat) (callback : Bool) :
    Represents (initialChannel numBroadcastConnections callback)
      (initialLines numBroadcastConnections callback) := by
  refine ⟨fun _ => [], rfl, rfl, fun _ => rfl, fun _ _ live => ?_, fun _ _ => rfl,
    fun _ _ _ _ owns => absurd owns List.not_mem_nil⟩
  cases live

/-- **The channel is its lines.** In every run, whatever is sent, received and closed on any number of
connections, what the channel does to lwIP and to its user is what the lines do, each of them with a
queue of its own; and the channel faults exactly if they do, by using a record that was freed. -/
theorem channel_serves {tcpMss : Nat} (positive : 0 < tcpMss) (numBroadcastConnections : Nat)
    (callback : Bool) (events : List ChannelEvent) :
    Agree (fun fault self => fault = .freedRecord self)
      (fun a b => a.1 = b.1 ∧ Represents a.2 b.2)
      (answers (Channel.exec tcpMss) (initialChannel numBroadcastConnections callback) events)
      (answers (serve tcpMss) (initialLines numBroadcastConnections callback) events) :=
  Agree.answers (fun _ _ event represents => represents.exec positive event)
    (represents_initial numBroadcastConnections callback) events

/-- Two connections take a message; the first one sends a segment of it and fails, the second one sends
all of it when the remote host has closed it, and is closed. -/
def twoLines : List ChannelEvent :=
  [.accept (some 7) 1, .accept (some 8) 2, .tx [1, 2, 3] none fun _ => ⟨fun _ => true, fun _ =>
    ⟨0, .ok⟩⟩, .poll 7 fun k => ⟨2 - 2 * k, .ok⟩, .receive 8 none .ok fun _ => ⟨2, .ok⟩, .error 7,
    .sent 8 fun _ => ⟨2, .ok⟩]

theorem channel_serves_sample : Agree (fun fault self => fault = .freedRecord self)
    (fun a b => a.1 = b.1 ∧ Represents a.2 b.2)
    (answers (Channel.exec 2) (initialChannel 2 true) twoLines)
    (answers (serve 2) (initialLines 2 true) twoLines) :=
  channel_serves (by decide) 2 true twoLines

end Jblib.Ethutilities.TcpServerChannel
