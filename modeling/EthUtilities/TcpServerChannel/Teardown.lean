/-
**The registry inside the channel, and what the destructor leaves behind.**

* `registryEvents` — the accepts, closings and errors of the registry machine that one event of the
  channel is. **`channel_follows_registry`** — every run of the channel is a run of that machine.
* `Channel.destruct` — the destructor: it closes and frees the records of the registry.
  `destruct_ok_iff` — it uses no freed record exactly if the registry lists live records, each once.
* `Channel.Orderly` — an event frees a record only if the registry can forget it, and nothing is
  pending on it.
* **`destructor_leaves`** — the state behind the destructor after any orderly run: it frees the stored
  records, but neither those that found no slot nor any buffer.
-/

import EthUtilities.Library.History
import EthUtilities.TcpServerChannel.Ledger
import EthUtilities.TcpServerChannel.RegistryRuns

namespace Jblib.Ethutilities.TcpServerChannel

open Library Library.PbufHeap

/-! ### Functions that leave the registry alone -/

/-- The registry and the callback stay, and so does the record. -/
structure Stays (one one' : Connection) : Prop where
  registry : one'.registry = one.registry
  callback : one'.callback = one.callback
  freed : one'.freed = one.freed

/-- The record leaves the registry, and is freed. -/
structure Closes (record : Address) (one one' : Connection) : Prop where
  registry : one'.registry = deleteConnectionFromBuffer one.registry record
  freed : one'.freed = true

section Stays

variable {one one' one'' : Connection}

theorem Stays.refl (one : Connection) : Stays one one := ⟨rfl, rfl, rfl⟩

theorem Stays.trans (first : Stays one one') (second : Stays one' one'') : Stays one one'' :=
  ⟨second.registry.trans first.registry, second.callback.trans first.callback,
    second.freed.trans first.freed⟩

theorem stays_emit (one : Connection) (output : Output) : Stays one (one.emit output) :=
  ⟨rfl, rfl, rfl⟩

theorem stays_withChain (one : Connection) (heap : Heap) (p : Option Nat) :
    Stays one (one.withChain heap p) := ⟨rfl, rfl, rfl⟩

theorem sendLoop_stays (lwip : Nat → Response) {fuel k : Nat}
    (ran : sendLoop lwip fuel k one = .ok one') : Stays one one' := by
  induction fuel generalizing k one with
  | zero => cases ran
  | succ fuel ih =>
    rw [sendLoop] at ran
    cases start : one.ss.p with
    | none =>
      rw [start] at ran
      cases ran
      exact .refl _
    | some p =>
      rw [start] at ran
      obtain ⟨buf, _, ran⟩ := Machine.bind_eq_ok_iff.mp ran
      dsimp only at ran
      by_cases window : buf.payload.length ≤ (lwip k).sndbuf
      case neg =>
        rw [if_neg window] at ran
        cases ran
        exact .refl _
      rw [if_pos window] at ran
      cases result : (lwip k).write with
      | ok =>
        rw [result] at ran
        obtain ⟨heap, _, ran⟩ := Machine.bind_eq_ok_iff.mp ran
        exact ((stays_emit one _).trans (stays_withChain _ heap buf.next)).trans (ih ran)
      | mem | other =>
        rw [result] at ran
        cases ran
        exact ⟨rfl, rfl, rfl⟩

theorem append_stays {p : Nat} (ran : append one p = .ok one') : Stays one one' := by
  rw [append] at ran
  cases start : one.ss.p with
  | none =>
    rw [start] at ran
    cases ran
    exact ⟨rfl, rfl, rfl⟩
  | some head =>
    rw [start] at ran
    obtain ⟨heap, _, ran⟩ := Machine.bind_eq_ok_iff.mp ran
    cases ran
    exact ⟨rfl, rfl, rfl⟩

theorem fillChain_stays {tcpMss fuel k : Nat} {data : List UInt8} {pbufAlloc : Nat → Bool}
    (ran : fillChain tcpMss pbufAlloc fuel k data one = .ok one') : Stays one one' := by
  induction fuel generalizing k data one with
  | zero => cases ran
  | succ fuel ih =>
    rw [fillChain] at ran
    by_cases more : 0 < data.length
    case neg =>
      rw [if_neg more] at ran
      cases ran
      exact .refl _
    rw [if_pos more] at ran
    dsimp only at ran
    cases allocated : pbufAlloc k with
    | false =>
      rw [allocated, if_neg Bool.false_ne_true] at ran
      cases ran
      exact .refl _
    | true =>
      rw [allocated, if_pos rfl] at ran
      obtain ⟨heap, _, ran⟩ := Machine.bind_eq_ok_iff.mp ran
      obtain ⟨next, appended, ran⟩ := Machine.bind_eq_ok_iff.mp ran
      have first : Stays { one with heap } next := append_stays appended
      exact Stays.trans ⟨first.registry, first.callback, first.freed⟩ (ih ran)

theorem txConnection_stays {tcpMss : Nat} {self : Address} {buffer : List UInt8}
    {answer : TxResponse} (ran : txConnection tcpMss self buffer answer one = .ok one') :
    Stays one one' := by
  rw [txConnection] at ran
  by_cases accepts : Accepts self one
  case neg =>
    rw [if_neg accepts] at ran
    cases ran
    exact .refl _
  rw [if_pos accepts] at ran
  obtain ⟨next, filled, ran⟩ := Machine.bind_eq_ok_iff.mp ran
  exact ((fillChain_stays filled).trans (stays_emit next _)).trans (sendLoop_stays _ ran)

end Stays

/-! ### The registry machine inside the channel -/

/-- The record is to be closed, and nothing is pending on it. -/
def Finished (ss : TcpServerParameters) : Prop := ss.p = none ∧ ss.state = .closing

instance (ss : TcpServerParameters) : Decidable (Finished ss) := inferInstanceAs (Decidable (_ ∧ _))

/-- The record that an event frees. -/
def released (c : Channel) : ChannelEvent → Option Address
  | .error self => some self
  | .poll self _ | .sent self _ =>
    if (c.records self).any fun ss => Finished ss then some self else none
  | .receive self none _ _ =>
    if (c.records self).any fun ss => ss.p = none then some self else none
  | .receive _ (some _) _ _ | .accept _ _ | .tx _ _ _ | .setCallback _ => none

/-- What an event is to the registry. -/
def registryEvents (c : Channel) : ChannelEvent → List Event
  | .accept (some self) _ => [.accept self]
  | .error self => [.error self]
  | event => (released c event).toList.map .close

/-- The registry's history of a run of the channel. -/
def registryHistory (tcpMss : Nat) (c : Channel) (events : List ChannelEvent) : List Event :=
  Machine.history (channelStep tcpMss) (fun c event h => h ++ registryEvents c event) c events []

/-- The registry machine has the channel's registry, and its live records. -/
structure Tracks (c : Channel) (s : Server) : Prop where
  registry : s.registry = c.registry
  live : ∀ self, self ∈ s.live ↔ c.records self ≠ none

section Tracks

variable {tcpMss : Nat} {c c' : Channel} {s : Server} {self : Address} {one : Connection}

/-- A function on one record that keeps it. -/
theorem Tracks.stays (tracks : Tracks c s) {ss : TcpServerParameters}
    (live : c.records self = some ss) (stays : Stays (c.connection ss) one) :
    Tracks (c.update self one) s where
  registry := tracks.registry.trans stays.registry.symm
  live other := by
    rw [tracks.live other]
    by_cases here : other = self
    · subst here
      have kept : one.freed = false := stays.freed
      simp [live, kept]
    · rw [Channel.records_update_of_ne here]

/-- A function that closes its record. -/
theorem Tracks.closes (tracks : Tracks c s) {ss : TcpServerParameters}
    (closes : Closes self (c.connection ss) one) :
    Tracks (c.update self one) (s.release self) where
  registry := by
    show deleteConnectionFromBuffer s.registry self = one.registry
    rw [tracks.registry, closes.registry]
    rfl
  live other := by
    show other ∈ s.live.erase self ↔ _
    rw [Finset.mem_erase, tracks.live other]
    by_cases here : other = self
    · subst here
      simp [closes.freed]
    · rw [Channel.records_update_of_ne here]
      simp [here]

theorem Tracks.accept (tracks : Tracks c s) (newpcb : Address) :
    Tracks (c.accept (some self) newpcb) (s.accept self) where
  registry := by
    show addConnectionToBuffer s.registry self = addConnectionToBuffer c.registry self
    rw [tracks.registry]
  live other := by
    show other ∈ insert self s.live ↔ (c.update self _).records other ≠ none
    rw [Finset.mem_insert, tracks.live other]
    by_cases here : other = self
    · subst here
      simp [TcpServerChannel.accept]
    · rw [Channel.records_update_of_ne here]
      simp [here]

theorem Tracks.error (tracks : Tracks c s) : Tracks (c.error self) (s.release self) where
  registry := by
    show deleteConnectionFromBuffer s.registry self = deleteConnectionFromBuffer c.registry self
    rw [tracks.registry]
  live other := by
    show other ∈ s.live.erase self ↔ Function.update c.records self none other ≠ none
    rw [Finset.mem_erase, tracks.live other]
    by_cases here : other = self
    · subst here
      simp
    · rw [Function.update_of_ne here]
      simp [here]

/-- A function on a record, which is live. -/
theorem onRecord_ok {function : Connection → Except Fault Connection}
    (ran : c.onRecord self function = .ok c') :
    ∃ ss one, c.records self = some ss ∧ function (c.connection ss) = .ok one ∧
      c' = c.update self one := by
  rw [Channel.onRecord] at ran
  cases live : c.records self with
  | none =>
    rw [live] at ran
    cases ran
  | some ss =>
    rw [live] at ran
    dsimp only at ran
    cases called : function (c.connection ss) with
    | error fault =>
      rw [called] at ran
      cases ran
    | ok one =>
      rw [called] at ran
      exact ⟨ss, one, rfl, called, (Except.ok.inj ran).symm⟩

/-- `tx` leaves the registry and the live records alone. -/
theorem txCalls_tracks (tracks : Tracks c s) (buffer : List UInt8) (answer : Nat → TxResponse)
    (calls : List (Address × Nat))
    (ran : calls.foldlM (fun c (self, i) =>
      c.onRecord self (txConnection tcpMss self buffer (answer i))) c = .ok c') : Tracks c' s := by
  induction calls generalizing c with
  | nil =>
    cases ran
    exact tracks
  | cons call calls ih =>
    rw [List.foldlM_cons] at ran
    obtain ⟨c₁, called, ran⟩ := Machine.bind_eq_ok_iff.mp ran
    obtain ⟨ss, one, live, sent, rfl⟩ := onRecord_ok called
    exact ih (tracks.stays live (txConnection_stays sent)) ran

theorem tx_tracks (tracks : Tracks c s) {buffer : List UInt8} {parameter : Option Address}
    {answer : Nat → TxResponse} (ran : c.tx tcpMss buffer parameter answer = .ok c') :
    Tracks c' s := by
  unfold Channel.tx at ran
  by_cases zero : c.registry.connectionsCounter = 0
  · rw [if_pos zero] at ran
    cases ran
    exact tracks
  rw [if_neg zero] at ran
  cases parameter with
  | none => exact txCalls_tracks tracks buffer answer _ ran
  | some self =>
    dsimp only at ran
    by_cases stored : isConnectionInBuffer c.registry self = true
    · rw [if_pos stored] at ran
      obtain ⟨ss, one, live, sent, rfl⟩ := onRecord_ok ran
      exact tracks.stays live (txConnection_stays sent)
    · rw [if_neg stored] at ran
      cases ran
      exact tracks

/-- `poll`, and `sent`, which has the same branches. -/
theorem poll_cases {one' : Connection} {lwip : Nat → Response}
    (ran : poll self lwip one = .ok one') :
    (Finished one.ss ∧ Closes self one one') ∨ (¬ Finished one.ss ∧ Stays one one') := by
  rw [poll] at ran
  cases start : one.ss.p with
  | some p =>
    rw [start] at ran
    refine .inr ⟨fun finished => ?_, (stays_emit one _).trans (sendLoop_stays lwip ran)⟩
    cases start.symm.trans finished.1
  | none =>
    rw [start] at ran
    dsimp only at ran
    by_cases closing : one.ss.state = .closing
    · rw [if_pos closing] at ran
      cases ran
      exact .inl ⟨⟨start, closing⟩, rfl, rfl⟩
    · rw [if_neg closing] at ran
      cases ran
      exact .inr ⟨fun finished => closing finished.2, .refl _⟩

/-- `receive` at the end of the stream. -/
theorem receive_end_cases {one' : Connection} {err : Err} {lwip : Nat → Response}
    (ran : receive self none err lwip one = .ok one') :
    (one.ss.p = none ∧ Closes self one one') ∨ (one.ss.p ≠ none ∧ Stays one one') := by
  unfold receive at ran
  dsimp only at ran
  cases start : one.ss.p with
  | some p =>
    rw [start] at ran
    refine .inr ⟨Option.some_ne_none p, ?_⟩
    have sent := sendLoop_stays lwip ran
    exact ⟨sent.registry, sent.callback, sent.freed⟩
  | none =>
    rw [start] at ran
    cases ran
    exact .inl ⟨rfl, rfl, rfl⟩

/-- `receive` of data. -/
theorem receive_data_stays {one' : Connection} {segments : List (List UInt8)} {err : Err}
    {lwip : Nat → Response} (ran : receive self (some segments) err lwip one = .ok one') :
    Stays one one' := by
  unfold receive at ran
  dsimp only at ran
  by_cases failed : err ≠ .ok
  · rw [if_pos failed] at ran
    cases ran
    exact .refl _
  · rw [if_neg failed] at ran
    cases state : one.ss.state with
    | accepted | closing | none =>
      rw [state] at ran
      cases ran
      exact ⟨rfl, rfl, rfl⟩

end Tracks

section Steps

variable {tcpMss : Nat} {c c' : Channel} {s : Server} {self : Address}

/-- The registry machine makes the steps. -/
def Follows (c' : Channel) (s : Server) (events : List Event) : Prop :=
  server.Valid s events ∧ Tracks c' (server.run s events)

theorem Tracks.follows (tracks : Tracks c' s) : Follows c' s [] := ⟨trivial, tracks⟩

/-- A record that a function of its own frees. -/
theorem Tracks.closing (tracks : Tracks c s) {ss : TcpServerParameters} {one : Connection}
    (live : c.records self = some ss) (closes : Closes self (c.connection ss) one) :
    Follows (c.update self one) s [.close self] := by
  refine ⟨⟨(tracks.live self).mpr ?_, trivial⟩, tracks.closes closes⟩
  rw [live]
  exact Option.some_ne_none ss

/-- `poll`, and `sent`. -/
theorem poll_follows (tracks : Tracks c s) {lwip : Nat → Response}
    (ran : c.onRecord self (poll self lwip) = .ok c') :
    Follows c' s (registryEvents c (.poll self lwip)) := by
  obtain ⟨ss, one, live, polled, rfl⟩ := onRecord_ok ran
  rcases poll_cases polled with ⟨finished, closes⟩ | ⟨waiting, stays⟩
  · have frees : registryEvents c (.poll self lwip) = [.close self] := by
      have finished : Finished ss := finished
      simp [registryEvents, released, live, finished]
    rw [frees]
    exact tracks.closing live closes
  · have nothing : registryEvents c (.poll self lwip) = [] := by
      have waiting : ¬ Finished ss := waiting
      simp [registryEvents, released, live, waiting]
    rw [nothing]
    exact (tracks.stays live stays).follows

theorem receive_follows (tracks : Tracks c s) {p : Option (List (List UInt8))} {err : Err}
    {lwip : Nat → Response} (ran : c.onRecord self (receive self p err lwip) = .ok c') :
    Follows c' s (registryEvents c (.receive self p err lwip)) := by
  obtain ⟨ss, one, live, received, rfl⟩ := onRecord_ok ran
  cases p with
  | some segments => exact (tracks.stays live (receive_data_stays received)).follows
  | none =>
    rcases receive_end_cases received with ⟨empty, closes⟩ | ⟨waiting, stays⟩
    · have frees : registryEvents c (.receive self none err lwip) = [.close self] := by
        have empty : ss.p = none := empty
        simp [registryEvents, released, live, empty]
      rw [frees]
      exact tracks.closing live closes
    · have nothing : registryEvents c (.receive self none err lwip) = [] := by
        have waiting : ss.p ≠ none := waiting
        simp [registryEvents, released, live, waiting]
      rw [nothing]
      exact (tracks.stays live stays).follows

/-- **One event of the channel** is none or one of the registry. -/
theorem step_follows (tracks : Tracks c s) (event : ChannelEvent)
    (enabled : channelEnabled c event) (ran : channelStep tcpMss c event = .ok c') :
    Follows c' s (registryEvents c event) := by
  cases event with
  | accept ss newpcb =>
    cases ran
    cases ss with
    | none => exact tracks.follows
    | some self =>
      exact ⟨⟨fun live => (tracks.live self).mp live enabled, trivial⟩, tracks.accept newpcb⟩
  | tx buffer parameter answer => exact (tx_tracks tracks ran).follows
  | poll self lwip => exact poll_follows tracks ran
  | sent self lwip => exact poll_follows tracks ran
  | receive self p err lwip => exact receive_follows tracks ran
  | error self =>
    cases ran
    exact ⟨⟨(tracks.live self).mpr enabled, trivial⟩, tracks.error⟩
  | setCallback callback =>
    cases ran
    exact Tracks.follows ⟨tracks.registry, tracks.live⟩

theorem tracks_initialChannel (numBroadcastConnections : Nat) (callback : Bool) :
    Tracks (initialChannel numBroadcastConnections callback) (initial numBroadcastConnections) :=
  ⟨rfl, fun _ => iff_of_false (Finset.notMem_empty _) fun live => live rfl⟩

end Steps

/-- **The channel follows the registry machine.** Take any run of the channel that uses no freed
record and no freed buffer: its accepts, closings and errors are a run of the registry machine, which
ends in the registry of the channel and with its records. -/
theorem channel_follows_registry (tcpMss numBroadcastConnections : Nat) (callback : Bool)
    (events : List ChannelEvent) {c : Channel}
    (valid : (channel tcpMss).Valid (.ok (initialChannel numBroadcastConnections callback)) events)
    (ran : (channel tcpMss).run (.ok (initialChannel numBroadcastConnections callback)) events =
      .ok c) :
    Follows c (initial numBroadcastConnections)
      (registryHistory tcpMss (initialChannel numBroadcastConnections callback) events) := by
  refine Machine.valid_invariant_with_history
    (P := fun c history => Follows c (initial numBroadcastConnections) history)
    (fun c event c' history follows enabled ran => ?_)
    (tracks_initialChannel numBroadcastConnections callback).follows valid ran
  obtain ⟨made, tracks⟩ := follows
  obtain ⟨more, tracks'⟩ := step_follows tracks event enabled ran
  refine ⟨Machine.steps_append.mpr ⟨made, more⟩, ?_⟩
  rw [Machine.run_append]
  exact tracks'

/-! ### The destructor -/

/-- The loop of the destructor over the records of the registry: it reads the pcb of a record, closes
it and frees the record. -/
def destructLoop : List Address → Channel → Except ChannelFault (Channel × List Output)
  | [], c => .ok (c, [])
  | self :: rest, c =>
    match c.records self with
    | none => .error (.freedRecord self)
    | some ss => do
      let (c, outputs) ← destructLoop rest
        { c with records := Function.update c.records self none }
      .ok (c, .close ss.pcb ss.p :: outputs)

/-- The destructor. The callbacks it takes back from a pcb were set by `accept`. -/
def Channel.destruct (c : Channel) : Except ChannelFault (Channel × List Output) :=
  destructLoop (destructedConnections c.registry) c

section Destructor

variable {c : Channel} {stored : List Address}

/-- What closing a record does to lwIP. -/
def closing (c : Channel) (self : Address) : Option Output :=
  (c.records self).map fun ss => .close ss.pcb ss.p

/-- The records that are left. -/
def without (stored : List Address) (c : Channel) : Channel :=
  { c with records := fun self => if self ∈ stored then none else c.records self }

theorem destructLoop_ok (distinct : stored.Nodup) (live : ∀ self ∈ stored, c.records self ≠ none) :
    destructLoop stored c = .ok (without stored c, stored.filterMap (closing c)) := by
  induction stored generalizing c with
  | nil =>
    have same : without [] c = c := by simp [without]
    rw [destructLoop, same]
    rfl
  | cons self stored ih =>
    obtain ⟨fresh, distinct⟩ := List.nodup_cons.mp distinct
    obtain ⟨ss, here⟩ := Option.ne_none_iff_exists'.mp (live self List.mem_cons_self)
    have others : ∀ other ∈ stored, Function.update c.records self none other = c.records other :=
      fun other inside => Function.update_of_ne (ne_of_mem_of_not_mem inside fresh) ..
    have rest := ih (c := { c with records := Function.update c.records self none }) distinct
      fun other inside => by
        dsimp only
        rw [others other inside]
        exact live other (List.mem_cons_of_mem _ inside)
    have left : without stored { c with records := Function.update c.records self none } =
        without (self :: stored) c := by
      unfold without
      congr 1
      funext other
      by_cases first : other = self
      · subst first
        simp
      · simp [first]
    have outputs : stored.filterMap
          (closing { c with records := Function.update c.records self none }) =
        stored.filterMap (closing c) := List.filterMap_congr fun other inside => by
      rw [closing, closing]
      dsimp only
      rw [others other inside]
    rw [destructLoop, here]
    dsimp only
    rw [rest, left, outputs, List.filterMap_cons, closing, here]
    rfl

/-- A record that is not live, or that comes twice. -/
theorem destructLoop_error (faulty : ¬ (stored.Nodup ∧ ∀ self ∈ stored, c.records self ≠ none)) :
    ∃ fault, destructLoop stored c = .error fault := by
  induction stored generalizing c with
  | nil => exact absurd ⟨List.nodup_nil, fun _ inside => absurd inside List.not_mem_nil⟩ faulty
  | cons self stored ih =>
    rw [destructLoop]
    cases here : c.records self with
    | none => exact ⟨.freedRecord self, rfl⟩
    | some ss =>
      let c' : Channel := { c with records := Function.update c.records self none }
      have later : ¬ (stored.Nodup ∧ ∀ other ∈ stored, c'.records other ≠ none) := by
        rintro ⟨distinct, live⟩
        have fresh : self ∉ stored := fun inside => live self inside (Function.update_self ..)
        refine faulty ⟨List.nodup_cons.mpr ⟨fresh, distinct⟩, fun other inside => ?_⟩
        rcases List.mem_cons.mp inside with rfl | later
        · rw [here]
          exact Option.some_ne_none ss
        · have still := live other later
          rwa [show c'.records other = c.records other from
            Function.update_of_ne (ne_of_mem_of_not_mem later fresh) ..] at still
      obtain ⟨fault, failed⟩ := ih later
      refine ⟨fault, ?_⟩
      dsimp only
      rw [failed]
      rfl

/-- **The destructor uses no freed record** exactly if the registry lists live records, each once. -/
theorem destruct_ok_iff : (∃ result, c.destruct = .ok result) ↔
    (destructedConnections c.registry).Nodup ∧
      ∀ self ∈ destructedConnections c.registry, c.records self ≠ none := by
  constructor
  · rintro ⟨result, ran⟩
    by_contra faulty
    obtain ⟨fault, failed⟩ := destructLoop_error faulty
    cases ran.symm.trans failed
  · rintro ⟨distinct, live⟩
    exact ⟨_, destructLoop_ok distinct live⟩

end Destructor

/-! ### Orderly runs -/

/-- **A record is freed in order**: the registry can forget it, and nothing is pending on it. -/
def Channel.Orderly (c : Channel) (event : ChannelEvent) : Prop :=
  ∀ self ∈ released c event,
    DeletesSoundly c.registry self ∧ (c.records self).bind TcpServerParameters.p = none

instance (c : Channel) (event : ChannelEvent) : Decidable (c.Orderly event) :=
  inferInstanceAs (Decidable (∀ self ∈ released c event, _))

def Orderly (state : Except ChannelFault Channel) (event : ChannelEvent) : Prop :=
  ∀ c, state = .ok c → c.Orderly event

instance : ∀ state event, Decidable (Orderly state event)
  | .ok c, event => decidable_of_iff (c.Orderly event)
      ⟨fun here _ same => Except.ok.inj same ▸ here, fun always => always c rfl⟩
  | .error _, _ => .isTrue fun _ impossible => by cases impossible

/-- The record has a slot. -/
def Stored (registry : Registry) (self : Address) : Prop :=
  isConnectionInBuffer registry self = true

section Registries

variable {n : Nat} {s : Server} {self other : Address}

/-- A new record takes no slot from another one. -/
theorem Sound.stored_add (sound : Sound n s) (fresh : self ∉ s.live)
    (inside : Stored s.registry other) : Stored (addConnectionToBuffer s.registry self) other := by
  obtain ⟨stored, holds, alive⟩ := sound_iff_holds.mp sound
  have member := holds.isConnectionInBuffer_iff.mp inside
  by_cases room : stored.length < n
  · have added := holds.add (fun here => fresh (alive self here)) room
    exact added.isConnectionInBuffer_iff.mpr (List.mem_append_left _ member)
  · rw [holds.add_full (Nat.le_antisymm holds.fits (Nat.le_of_not_lt room))]
    exact inside

/-- A record that leaves takes no other one along. -/
theorem Sound.stored_delete (sound : Sound n s) (soundly : DeletesSoundly s.registry self)
    (different : other ≠ self) (inside : Stored s.registry other) :
    Stored (deleteConnectionFromBuffer s.registry self) other := by
  obtain ⟨stored, holds, alive⟩ := sound_iff_holds.mp sound
  have member := holds.isConnectionInBuffer_iff.mp inside
  rcases soundly with empty | ⟨found, last⟩
  · rw [deleteConnectionFromBuffer, if_pos empty]
    exact inside
  · have here := holds.isConnectionInBuffer_iff.mp found
    by_cases room : stored.length < n
    · exact (holds.delete here room).isConnectionInBuffer_iff.mpr
        ((List.mem_erase_of_ne different).mpr member)
    · have full : stored.length = n := Nat.le_antisymm holds.fits (Nat.le_of_not_lt room)
      obtain ⟨front, back, rfl⟩ :=
        (List.eq_nil_or_concat' stored).resolve_left (List.ne_nil_of_mem member)
      rw [List.length_append, List.length_singleton] at full
      have count : s.registry.connectionsCounter = s.registry.connectionsBuffer.length := by
        rw [holds.counter, holds.buffer, length_slots holds.fits, List.length_append,
          List.length_singleton, full]
      have same := (holds.getLast? full).symm.trans (last count)
      obtain rfl : back = self := Option.some.inj (Option.some.inj same)
      refine (holds.delete_last full).isConnectionInBuffer_iff.mpr ?_
      exact (List.mem_append.mp member).resolve_right fun back => different
        (List.mem_singleton.mp back)

end Registries

/-- Nothing is pending on a record without a slot: `tx` takes no message for it. -/
def UnstoredIdle (c : Channel) : Prop :=
  ∀ self ss, c.records self = some ss → ¬ Stored c.registry self → ss.p = none

section UnstoredIdle

variable {tcpMss : Nat} {c c' : Channel} {self : Address} {one one' : Connection}

theorem UnstoredIdle.update (idle : UnstoredIdle c)
    (kept : ∀ other, other ≠ self → Stored c.registry other → Stored one.registry other)
    (here : one.freed = false → ¬ Stored one.registry self → one.ss.p = none) :
    UnstoredIdle (c.update self one) := by
  intro other ss live unstored
  by_cases same : other = self
  · subst same
    rw [Channel.records_update_self] at live
    cases freed : one.freed with
    | true =>
      rw [freed, if_pos rfl] at live
      cases live
    | false =>
      rw [freed, if_neg Bool.false_ne_true] at live
      exact Option.some.inj live ▸ here freed unstored
  · rw [Channel.records_update_of_ne same] at live
    exact idle other ss live fun before => unstored (kept other same before)

/-- A function that keeps its record, and puts nothing on an empty chain. -/
theorem UnstoredIdle.stays (idle : UnstoredIdle c) {ss : TcpServerParameters}
    (live : c.records self = some ss) (stays : Stays (c.connection ss) one)
    (empty : ss.p = none → one.ss.p = none) : UnstoredIdle (c.update self one) := by
  have same : one.registry = c.registry := stays.registry
  refine idle.update (fun other _ before => ?_) fun _ unstored => ?_
  · rw [same]
    exact before
  · rw [same] at unstored
    exact empty (idle self ss live unstored)

/-- A function that closes its record. -/
theorem UnstoredIdle.closes {n : Nat} {s : Server} (idle : UnstoredIdle c) (tracks : Tracks c s)
    (sound : Sound n s) {ss : TcpServerParameters} (closes : Closes self (c.connection ss) one)
    (soundly : DeletesSoundly c.registry self) : UnstoredIdle (c.update self one) := by
  refine idle.update (fun other different before => ?_) fun alive => ?_
  · rw [closes.registry]
    rw [← tracks.registry] at before soundly
    have kept := sound.stored_delete soundly different before
    rw [tracks.registry] at kept
    exact kept
  · rw [closes.freed] at alive
    cases alive

theorem poll_idle {lwip : Nat → Response} (ran : poll self lwip one = .ok one')
    (empty : one.ss.p = none) : one'.ss.p = none := by
  rw [poll, empty] at ran
  dsimp only at ran
  by_cases closing : one.ss.state = .closing
  · rw [if_pos closing] at ran
    cases ran
    exact empty
  · rw [if_neg closing] at ran
    cases ran
    exact empty

theorem receive_data_idle {segments : List (List UInt8)} {err : Err} {lwip : Nat → Response}
    (ran : receive self (some segments) err lwip one = .ok one') (empty : one.ss.p = none) :
    one'.ss.p = none := by
  unfold receive at ran
  dsimp only at ran
  by_cases failed : err ≠ .ok
  · rw [if_pos failed] at ran
    cases ran
    exact empty
  · rw [if_neg failed] at ran
    cases state : one.ss.state with
    | accepted | closing | none =>
      rw [state] at ran
      cases ran
      exact empty

/-- The calls of a broadcast change the records they are for. -/
theorem txCalls_others (buffer : List UInt8) (answer : Nat → TxResponse)
    (calls : List (Address × Nat))
    (ran : calls.foldlM (fun c (self, i) =>
      c.onRecord self (txConnection tcpMss self buffer (answer i))) c = .ok c') :
    c'.registry = c.registry ∧
      ∀ other, other ∉ calls.map Prod.fst → c'.records other = c.records other := by
  induction calls generalizing c with
  | nil =>
    cases ran
    exact ⟨rfl, fun _ _ => rfl⟩
  | cons call calls ih =>
    rw [List.foldlM_cons] at ran
    obtain ⟨c₁, called, ran⟩ := Machine.bind_eq_ok_iff.mp ran
    obtain ⟨ss, one, _, sent, rfl⟩ := onRecord_ok called
    obtain ⟨registry, others⟩ := ih ran
    refine ⟨registry.trans (txConnection_stays sent).registry, fun other outside => ?_⟩
    rw [List.map_cons, List.mem_cons, not_or] at outside
    rw [others other outside.2, Channel.records_update_of_ne outside.1]

theorem tx_others {buffer : List UInt8} {parameter : Option Address} {answer : Nat → TxResponse}
    (ran : c.tx tcpMss buffer parameter answer = .ok c') : c'.registry = c.registry ∧
      ∀ other, ¬ Stored c.registry other → c'.records other = c.records other := by
  unfold Channel.tx at ran
  by_cases zero : c.registry.connectionsCounter = 0
  · rw [if_pos zero] at ran
    cases ran
    exact ⟨rfl, fun _ _ => rfl⟩
  rw [if_neg zero] at ran
  cases parameter with
  | none =>
    obtain ⟨registry, others⟩ := txCalls_others buffer answer _ ran
    refine ⟨registry, fun other unstored => others other fun inside => unstored ?_⟩
    rw [List.zipIdx_map_fst] at inside
    exact isConnectionInBuffer_iff.mpr (mem_broadcastConnections.mp inside)
  | some self =>
    dsimp only at ran
    by_cases stored : isConnectionInBuffer c.registry self = true
    · rw [if_pos stored] at ran
      obtain ⟨ss, one, _, sent, rfl⟩ := onRecord_ok ran
      refine ⟨(txConnection_stays sent).registry, fun other unstored => ?_⟩
      refine Channel.records_update_of_ne ?_
      rintro rfl
      exact unstored stored
    · rw [if_neg stored] at ran
      cases ran
      exact ⟨rfl, fun _ _ => rfl⟩

end UnstoredIdle

/-- **The channel in an orderly run**: a sound registry, every buffer with its owner, and nothing
pending where there is no slot. -/
structure Settled (n : Nat) (c : Channel) : Prop where
  follows : ∃ s, Tracks c s ∧ Sound n s
  ledger : ∃ chains, Ledger c chains
  idle : UnstoredIdle c

section Orderly

variable {tcpMss n : Nat} {c c' : Channel} {s : Server}

theorem Settled.listed (settled : Settled n c) : (destructedConnections c.registry).Nodup ∧
    ∀ self ∈ destructedConnections c.registry, c.records self ≠ none := by
  obtain ⟨s, tracks, sound⟩ := settled.follows
  obtain ⟨distinct, live⟩ := sound.destruct
  rw [tracks.registry] at distinct live
  exact ⟨distinct, fun self inside => (tracks.live self).mp (live self inside)⟩

/-- No step does harm that is taken in order. -/
theorem Settled.harmless (settled : Settled n c) (event : ChannelEvent)
    (orderly : c.Orderly event) : c.Harmless event := by
  cases event with
  | accept _ _ | poll _ _ | sent _ _ | receive _ _ _ _ | setCallback _ => trivial
  | error self => exact (orderly self rfl).2
  | tx buffer parameter answer =>
    cases parameter with
    | none => exact settled.listed.2
    | some self =>
      exact fun stored => settled.listed.2 self
        (mem_broadcastConnections.mpr (isConnectionInBuffer_iff.mp stored))

/-- Closings that the registry can forget. -/
theorem sound_closings (sound : Sound n s) (closed : Option Address)
    (soundly : ∀ self ∈ closed, DeletesSoundly s.registry self) :
    Sound n (server.run s (closed.toList.map .close)) := by
  cases closed with
  | none => exact sound
  | some self => exact (sound_release_iff sound).mpr (soundly self rfl)

theorem sound_registryEvents (tracks : Tracks c s) (sound : Sound n s) (event : ChannelEvent)
    (orderly : c.Orderly event) (valid : server.Valid s (registryEvents c event)) :
    Sound n (server.run s (registryEvents c event)) := by
  have soundly : ∀ self ∈ released c event, DeletesSoundly s.registry self := fun self frees => by
    rw [tracks.registry]
    exact (orderly self frees).1
  cases event with
  | accept ss newpcb =>
    cases ss with
    | none => exact sound
    | some self => exact sound_accept sound valid.1
  | error self => exact (sound_release_iff sound).mpr (soundly self rfl)
  | tx _ _ _ | poll _ _ | sent _ _ | receive _ _ _ _ | setCallback _ =>
    exact sound_closings sound _ soundly

/-- `poll`, and `sent`. -/
theorem Settled.poll_idle (settled : Settled n c) {self : Address} {lwip : Nat → Response}
    (orderly : c.Orderly (.poll self lwip)) (ran : c.onRecord self (poll self lwip) = .ok c') :
    UnstoredIdle c' := by
  obtain ⟨s, tracks, sound⟩ := settled.follows
  obtain ⟨ss, one, live, polled, rfl⟩ := onRecord_ok ran
  rcases poll_cases polled with ⟨finished, closes⟩ | ⟨_, stays⟩
  · have frees : released c (.poll self lwip) = some self := by
      have finished : Finished ss := finished
      simp [released, live, finished]
    exact settled.idle.closes tracks sound closes (orderly self frees).1
  · exact settled.idle.stays live stays fun empty => TcpServerChannel.poll_idle polled empty

theorem Settled.receive_idle (settled : Settled n c) {self : Address}
    {p : Option (List (List UInt8))} {err : Err} {lwip : Nat → Response}
    (orderly : c.Orderly (.receive self p err lwip))
    (ran : c.onRecord self (receive self p err lwip) = .ok c') : UnstoredIdle c' := by
  obtain ⟨s, tracks, sound⟩ := settled.follows
  obtain ⟨ss, one, live, received, rfl⟩ := onRecord_ok ran
  cases p with
  | some segments =>
    exact settled.idle.stays live (receive_data_stays received) (receive_data_idle received)
  | none =>
    rcases receive_end_cases received with ⟨empty, closes⟩ | ⟨waiting, stays⟩
    · have frees : released c (.receive self none err lwip) = some self := by
        have empty : ss.p = none := empty
        simp [released, live, empty]
      exact settled.idle.closes tracks sound closes (orderly self frees).1
    · exact settled.idle.stays live stays fun empty => absurd empty waiting

theorem Settled.step_idle (settled : Settled n c) (event : ChannelEvent)
    (enabled : channelEnabled c event) (orderly : c.Orderly event)
    (ran : channelStep tcpMss c event = .ok c') : UnstoredIdle c' := by
  obtain ⟨s, tracks, sound⟩ := settled.follows
  cases event with
  | accept ss newpcb =>
    cases ran
    cases ss with
    | none => exact settled.idle
    | some self =>
      refine settled.idle.update (fun other _ before => ?_) fun _ _ => rfl
      rw [← tracks.registry] at before
      have kept := sound.stored_add (fun live => (tracks.live self).mp live enabled) before
      rw [tracks.registry] at kept
      exact kept
  | tx buffer parameter answer =>
    obtain ⟨registry, others⟩ := tx_others ran
    intro self ss live unstored
    rw [registry] at unstored
    rw [others self unstored] at live
    exact settled.idle self ss live unstored
  | poll self lwip => exact settled.poll_idle orderly ran
  | sent self lwip => exact settled.poll_idle orderly ran
  | receive self p err lwip => exact settled.receive_idle orderly ran
  | error self =>
    cases ran
    intro other ss live unstored
    change Function.update c.records self none other = some ss at live
    by_cases here : other = self
    · rw [here, Function.update_self] at live
      cases live
    · rw [Function.update_of_ne here] at live
      refine settled.idle other ss live fun before => unstored ?_
      have soundly := (orderly self rfl).1
      rw [← tracks.registry] at before soundly
      have kept := sound.stored_delete soundly here before
      rw [tracks.registry] at kept
      exact kept
  | setCallback callback =>
    cases ran
    exact settled.idle

/-- **One step in order.** -/
theorem Settled.step (settled : Settled n c) (positive : 0 < tcpMss) (event : ChannelEvent)
    (enabled : channelEnabled c event) (orderly : c.Orderly event) :
    ∃ c', channelStep tcpMss c event = .ok c' ∧ Settled n c' := by
  obtain ⟨s, tracks, sound⟩ := settled.follows
  obtain ⟨chains, ledger⟩ := settled.ledger
  obtain ⟨c', chains', ran, ledger', _⟩ :=
    step_ledger positive ledger event enabled (settled.harmless event orderly)
  obtain ⟨valid, tracks'⟩ := step_follows tracks event enabled ran
  exact ⟨c', ran, ⟨_, tracks', sound_registryEvents tracks sound event orderly valid⟩,
    ⟨chains', ledger'⟩, settled.step_idle event enabled orderly ran⟩

theorem settled_initialChannel (numBroadcastConnections : Nat) (callback : Bool) :
    Settled numBroadcastConnections (initialChannel numBroadcastConnections callback) where
  follows := ⟨_, tracks_initialChannel numBroadcastConnections callback,
    sound_initial numBroadcastConnections⟩
  ledger := by
    obtain ⟨c, chains, same, ledger⟩ := kept_initialChannel numBroadcastConnections callback
    exact ⟨chains, Except.ok.inj same ▸ ledger⟩
  idle self ss live := by cases live

/-- **Orderly runs.** -/
theorem run_settled (positive : 0 < tcpMss) {events : List ChannelEvent} (settled : Settled n c)
    (valid : (channel tcpMss).Valid (.ok c) events)
    (orderly : (channel tcpMss).Steps Orderly (.ok c) events) :
    ∃ c', (channel tcpMss).run (.ok c) events = .ok c' ∧ Settled n c' := by
  have states := (channel tcpMss).states_of_steps
    (P := fun state => ∃ c, state = .ok c ∧ Settled n c) (Q := Orderly)
    (fun state event here enabled orderly => ?_) ⟨c, rfl, settled⟩ valid orderly
  · exact states.last
  · obtain ⟨c, rfl, settled⟩ := here
    obtain ⟨c', ran, settled'⟩ := settled.step positive event (enabled c rfl) (orderly c rfl)
    exact ⟨c', ran, settled'⟩

end Orderly

/-! ### What is left -/

/-- **What the destructor leaves behind.** -/
structure Leaves (c c' : Channel) (outputs : List Output) : Prop where
  /-- each stored record is closed once, with its pcb -/
  closed : (destructedConnections c.registry).Nodup ∧
    outputs = (destructedConnections c.registry).filterMap (closing c)
  /-- the records that found no slot stay allocated … -/
  records : ∀ self, c'.records self ≠ none ↔ c.records self ≠ none ∧ ¬ Stored c.registry self
  /-- … with nothing pending … -/
  idle : ∀ self ss, c'.records self = some ss → ss.p = none
  /-- … and the buffers that were pending on the others stay allocated. -/
  buffers : ∀ q, c'.heap.get q ≠ none ↔
    ∃ self ss, c.records self = some ss ∧ Stored c.registry self ∧ OnChain c.heap ss.p q

section Leaves

variable {n : Nat} {c c' : Channel} {outputs : List Output}

theorem not_onChain_none {heap : Heap} {q : Nat} : ¬ OnChain heap none q := by
  rintro ⟨⟩

theorem Settled.destruct (settled : Settled n c) :
    ∃ c' outputs, c.destruct = .ok (c', outputs) ∧ Leaves c c' outputs := by
  obtain ⟨distinct, live⟩ := settled.listed
  have stored : ∀ self, self ∈ destructedConnections c.registry ↔ Stored c.registry self :=
    fun self => mem_broadcastConnections.trans isConnectionInBuffer_iff.symm
  refine ⟨_, _, destructLoop_ok distinct live, ⟨distinct, rfl⟩, fun self => ?_,
    fun self ss left => ?_, fun q => ?_⟩
  · rw [← stored self, without]
    dsimp only
    split
    case isTrue inside => simp [inside]
    case isFalse outside => simp [outside]
  · rw [without] at left
    dsimp only at left
    split at left
    case isTrue => cases left
    case isFalse outside =>
      exact settled.idle self ss left fun inside => outside ((stored self).mpr inside)
  · obtain ⟨chains, ledger⟩ := settled.ledger
    refine (ledger.balanced q).trans ⟨fun ⟨self, ss, here, on⟩ => ?_,
      fun ⟨self, ss, here, _, on⟩ => ⟨self, ss, here, on⟩⟩
    refine ⟨self, ss, here, ?_, on⟩
    by_contra unstored
    rw [settled.idle self ss here unstored] at on
    exact not_onChain_none on

/-- **It leaves nothing** exactly if every live record has a slot and nothing pending. -/
theorem Leaves.nothing_iff (leaves : Leaves c c' outputs) :
    ((∀ self, c'.records self = none) ∧ ∀ q, c'.heap.get q = none) ↔
      ∀ self ss, c.records self = some ss → Stored c.registry self ∧ ss.p = none := by
  constructor
  · rintro ⟨records, buffers⟩ self ss live
    have stored : Stored c.registry self := by
      by_contra unstored
      refine (leaves.records self).mpr ⟨?_, unstored⟩ (records self)
      rw [live]
      exact Option.some_ne_none ss
    refine ⟨stored, ?_⟩
    cases start : ss.p with
    | none => rfl
    | some q =>
      refine absurd (buffers q) ((leaves.buffers q).mpr ⟨self, ss, live, stored, ?_⟩)
      rw [start]
      exact .head
  · intro settled
    constructor
    · intro self
      by_contra left
      obtain ⟨live, unstored⟩ := (leaves.records self).mp left
      obtain ⟨ss, here⟩ := Option.ne_none_iff_exists'.mp live
      exact unstored (settled self ss here).1
    · intro q
      by_contra left
      obtain ⟨self, ss, live, _, on⟩ := (leaves.buffers q).mp left
      rw [(settled self ss live).2] at on
      exact not_onChain_none on

end Leaves

/-- **The destructor after any run** whose records were freed in order. No step uses a freed record or
buffer, nor does the destructor. It closes and frees every record of the registry once. It leaves the
records that found no slot, and all the buffers that were pending, which nobody points at any more;
so it leaves nothing exactly if every live record had a slot and nothing pending. -/
theorem destructor_leaves {tcpMss : Nat} (positive : 0 < tcpMss) (numBroadcastConnections : Nat)
    (callback : Bool) (events : List ChannelEvent)
    (valid : (channel tcpMss).Valid (.ok (initialChannel numBroadcastConnections callback)) events)
    (orderly : (channel tcpMss).Steps Orderly
      (.ok (initialChannel numBroadcastConnections callback)) events) :
    ∃ c c' outputs,
      (channel tcpMss).run (.ok (initialChannel numBroadcastConnections callback)) events = .ok c ∧
      c.destruct = .ok (c', outputs) ∧ Leaves c c' outputs ∧
      (((∀ self, c'.records self = none) ∧ ∀ q, c'.heap.get q = none) ↔
        ∀ self ss, c.records self = some ss → Stored c.registry self ∧ ss.p = none) := by
  obtain ⟨c, ran, settled⟩ := run_settled positive
    (settled_initialChannel numBroadcastConnections callback) valid orderly
  obtain ⟨c', outputs, destructed, leaves⟩ := settled.destruct
  exact ⟨c, c', outputs, ran, destructed, leaves, leaves.nothing_iff⟩

/-- Two slots and three connections; the second one closes, a fourth one takes its slot, and there is
something pending on the first one. -/
def crowdedEvents : List ChannelEvent :=
  [.accept (some 7) 1, .accept (some 8) 2, .accept (some 9) 3, .error 8, .accept (some 6) 4,
    .tx [1, 2, 3] (some 7) fun _ => ⟨fun _ => true, fun _ => ⟨0, .ok⟩⟩]

theorem channel_follows_registry_sample : ∃ c,
    (channel 2).run (.ok (initialChannel 2 true)) crowdedEvents = .ok c ∧
    Follows c (initial 2) (registryHistory 2 (initialChannel 2 true) crowdedEvents) :=
  ⟨_, rfl, channel_follows_registry 2 2 true crowdedEvents (by decide) rfl⟩

theorem destructor_leaves_sample : ∃ c c' outputs,
    (channel 2).run (.ok (initialChannel 2 true)) crowdedEvents = .ok c ∧
    c.destruct = .ok (c', outputs) ∧ Leaves c c' outputs ∧
    (((∀ self, c'.records self = none) ∧ ∀ q, c'.heap.get q = none) ↔
      ∀ self ss, c.records self = some ss → Stored c.registry self ∧ ss.p = none) :=
  destructor_leaves (by decide) 2 true crowdedEvents (by decide) (by decide)

end Jblib.Ethutilities.TcpServerChannel
