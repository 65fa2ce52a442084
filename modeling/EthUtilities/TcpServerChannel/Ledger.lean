/-
**No buffer outlives its connection.**

* `Ledger c chains` — who owns which buffers: each record the chain it points at, no buffer two
  records, and every allocated buffer belongs to a record.
* `Handles` — what a function does to the chain of its record; `txConnection_handles`,
  `poll_handles`, `receive_handles`. `Ledger.update`: so the ledger stays, since the footprint of
  the function is its own chain.
* `step_ledger` — every `Harmless` step keeps the ledger: an `error` meets a record with nothing
  pending, and a `tx` no record that was freed. `harmless_of_balanced`: no other step does.
* **`balanced_iff`** — over whole runs.
-/

import EthUtilities.TcpServerChannel.StreamRuns
import EthUtilities.TcpServerChannel.Channel

namespace Jblib.Ethutilities.TcpServerChannel

open Library Library.PbufHeap

/-! ### One record -/

/-- What a function does to the pending chain of its record. It touches no other buffer, and the
record is only freed when the chain is gone. -/
structure Handles (one one' : Connection) (links links' : List Link) : Prop where
  pending : Pending one'.heap one'.ss.p links'
  replaces : Replaces one.heap one'.heap (links.map Link.address) (links'.map Link.address)
  freed : one'.freed = true → links' = []

section Records

variable {one : Connection} {links : List Link} (self : Address)

/-- A chain that a step does not touch. -/
theorem Pending.replaced {heap heap' : Heap} {p : Option Nat} {old new : List Nat}
    (pending : Pending heap p links) (replaces : Replaces heap heap' old new)
    (apart : ∀ q ∈ links.map Link.address, q ∉ old) : Pending heap' p links where
  linked := pending.linked.frame fun _ inside =>
    replaces.kept _ (pending.linked.lt_size inside) (apart _ (List.mem_map_of_mem inside))
  nodup := pending.nodup
  counted := pending.counted

/-- A step that leaves the buffers alone. -/
theorem Handles.same {one' : Connection} (pending : Pending one.heap one.ss.p links)
    (heap : one'.heap = one.heap) (p : one'.ss.p = one.ss.p)
    (freed : one'.freed = true → links = []) : Handles one one' links links where
  pending := by
    rw [heap, p]
    exact pending
  replaces := by
    rw [heap]
    exact .refl _ _
  freed := freed

theorem send_handles (lwip : Nat → Response) (pending : Pending one.heap one.ss.p links)
    (alive : one.freed = false) : ∃ one' rest, send lwip one = .ok one' ∧
      Handles one one' links rest ∧ one'.freed = false := by
  obtain ⟨one', rest, ran, sends, pending', replaces⟩ := send_sends lwip pending
  have alive' : one'.freed = false := sends.freed.trans alive
  exact ⟨one', rest, ran, ⟨pending', replaces, fun freed => absurd (alive'.symm.trans freed)
    Bool.false_ne_true⟩, alive'⟩

/-- **`tx`** puts new buffers on the chain and takes off what it sends at once. -/
theorem txConnection_handles {tcpMss : Nat} (positive : 0 < tcpMss) (buffer : List UInt8)
    (answer : TxResponse) (pending : Pending one.heap one.ss.p links) (alive : one.freed = false) :
    ∃ one' links', txConnection tcpMss self buffer answer one = .ok one' ∧
      Handles one one' links links' ∧ one'.freed = false := by
  obtain ⟨one', links', ran, pending', freed, replaces⟩ :=
    txConnection_replaces self positive buffer answer pending
  have alive' : one'.freed = false := freed.trans alive
  exact ⟨one', links', ran, ⟨pending', replaces, fun gone => absurd (alive'.symm.trans gone)
    Bool.false_ne_true⟩, alive'⟩

/-- `close` with nothing pending. -/
theorem close_handles (pending : Pending one.heap one.ss.p links) (nothing : one.ss.p = none) :
    Handles one (close self one) links links := by
  refine .same pending rfl rfl fun _ => ?_
  rw [nothing] at pending
  exact pending.eq_nil

/-- The branch of `poll`, `sent` and `receive` for a pending chain. -/
theorem resend_handles (lwip : Nat → Response) (pending : Pending one.heap one.ss.p links)
    (alive : one.freed = false) : ∃ one' links',
    send lwip (one.emit (.tcpSent one.ss.pcb)) = .ok one' ∧ Handles one one' links links' := by
  have emitted : Pending (one.emit (.tcpSent one.ss.pcb)).heap one.ss.p links := pending
  obtain ⟨one', rest, ran, handles, _⟩ := send_handles lwip emitted alive
  exact ⟨one', rest, ran, handles.pending, handles.replaces, handles.freed⟩

/-- `poll`, and `sent`, which has the same branches. -/
theorem poll_handles (lwip : Nat → Response) (pending : Pending one.heap one.ss.p links)
    (alive : one.freed = false) :
    ∃ one' links', poll self lwip one = .ok one' ∧ Handles one one' links links' := by
  rw [poll]
  cases nothing : one.ss.p with
  | some p => exact resend_handles lwip pending alive
  | none =>
    dsimp only
    by_cases closing : one.ss.state = .closing
    · rw [if_pos closing]
      exact ⟨_, links, rfl, close_handles self pending nothing⟩
    · rw [if_neg closing]
      exact ⟨one, links, rfl, .same pending rfl rfl fun freed =>
        absurd (alive.symm.trans freed) Bool.false_ne_true⟩

/-- The branch of `receive` for the end of the stream. -/
theorem drain_handles (lwip : Nat → Response) (pending : Pending one.heap one.ss.p links)
    (alive : one.freed = false) :
    ∃ one' links', (match one.ss.p with
      | none => Except.ok (close self one)
      | some _ => send lwip (one.emit (.tcpSent one.ss.pcb))) = .ok one' ∧
      Handles one one' links links' := by
  cases nothing : one.ss.p with
  | some p => exact resend_handles lwip pending alive
  | none => exact ⟨_, links, rfl, close_handles self pending nothing⟩

theorem receive_handles (p : Option (List (List UInt8))) (err : Err) (lwip : Nat → Response)
    (pending : Pending one.heap one.ss.p links) (alive : one.freed = false) :
    ∃ one' links', receive self p err lwip one = .ok one' ∧ Handles one one' links links' := by
  have stays : ∀ one' : Connection, one'.heap = one.heap → one'.ss.p = one.ss.p →
      one'.freed = one.freed → Handles one one' links links := fun one' heap chain freed =>
    .same pending heap chain fun gone =>
      absurd ((freed.trans alive).symm.trans gone) Bool.false_ne_true
  unfold receive
  cases p with
  | none =>
    let closing : Connection := { one with ss := { one.ss with state := .closing } }
    have here : Pending closing.heap closing.ss.p links := pending
    obtain ⟨one', links', ran, handles⟩ := drain_handles self lwip here alive
    exact ⟨one', links', ran, handles.pending, handles.replaces, handles.freed⟩
  | some segments =>
    dsimp only
    by_cases failed : err ≠ .ok
    · rw [if_pos failed]
      exact ⟨one, links, rfl, stays one rfl rfl rfl⟩
    · rw [if_neg failed]
      cases one.ss.state with
      | accepted => exact ⟨_, links, rfl, stays _ rfl rfl rfl⟩
      | closing | none => exact ⟨_, links, rfl, stays _ rfl rfl rfl⟩

end Records

/-! ### The ledger -/

/-- **Who owns which buffers.** -/
structure Ledger (c : Channel) (chains : Address → List Link) : Prop where
  pending : ∀ self ss, c.records self = some ss → Pending c.heap ss.p (chains self)
  idle : ∀ self, c.records self = none → chains self = []
  apart : ∀ self other, self ≠ other → ∀ q ∈ (chains self).map Link.address,
    q ∉ (chains other).map Link.address
  owned : ∀ q, c.heap.get q ≠ none → ∃ self, q ∈ (chains self).map Link.address

/-- **Every allocated buffer is pending on a record, and every pending buffer is allocated.** -/
def Channel.Balanced (c : Channel) : Prop :=
  ∀ q, c.heap.get q ≠ none ↔ ∃ self ss, c.records self = some ss ∧ OnChain c.heap ss.p q

/-- The buffers of the records that are freed are deallocated. -/
def Releases (c c' : Channel) : Prop :=
  ∀ self ss, c.records self = some ss → c'.records self = none →
    ∀ q, OnChain c.heap ss.p q → c'.heap.get q = none

/-- An `error` for a record with nothing pending; a `tx` that meets no freed record. -/
def Channel.Harmless (c : Channel) : ChannelEvent → Prop
  | .error self => (c.records self).bind TcpServerParameters.p = none
  | .tx _ none _ => ∀ self ∈ broadcastConnections c.registry, c.records self ≠ none
  | .tx _ (some self) _ => isConnectionInBuffer c.registry self = true → c.records self ≠ none
  | .accept _ _ | .poll _ _ | .sent _ _ | .receive _ _ _ _ | .setCallback _ => True

instance : ∀ (c : Channel) event, Decidable (c.Harmless event)
  | c, .error self =>
    inferInstanceAs (Decidable ((c.records self).bind TcpServerParameters.p = none))
  | c, .tx _ none _ =>
    inferInstanceAs (Decidable (∀ self ∈ broadcastConnections c.registry, c.records self ≠ none))
  | c, .tx _ (some self) _ => inferInstanceAs (Decidable (_ → c.records self ≠ none))
  | _, .accept _ _ | _, .poll _ _ | _, .sent _ _ | _, .receive _ _ _ _ | _, .setCallback _ =>
    .isTrue trivial

section Ledgers

variable {c c' : Channel} {chains : Address → List Link} {self : Address}
  {ss : TcpServerParameters} {tcpMss : Nat}

theorem Ledger.allocated (ledger : Ledger c chains) {q : Nat}
    (owns : q ∈ (chains self).map Link.address) :
    ∃ ss, c.records self = some ss ∧ OnChain c.heap ss.p q ∧ c.heap.get q ≠ none := by
  cases live : c.records self with
  | none =>
    rw [ledger.idle self live] at owns
    cases owns
  | some ss =>
    have pending := ledger.pending self ss live
    obtain ⟨link, on, rfl⟩ := List.mem_map.mp owns
    obtain ⟨next, found⟩ := pending.linked.get on
    refine ⟨ss, rfl, pending.linked.onChain_iff.mpr owns, ?_⟩
    rw [found]
    exact Option.some_ne_none _

theorem Ledger.balanced (ledger : Ledger c chains) : c.Balanced := by
  intro q
  constructor
  · intro allocated
    obtain ⟨self, owns⟩ := ledger.owned q allocated
    obtain ⟨ss, live, on, _⟩ := ledger.allocated owns
    exact ⟨self, ss, live, on⟩
  · rintro ⟨self, ss, live, on⟩
    obtain ⟨_, _, _, allocated⟩ :=
      ledger.allocated ((ledger.pending self ss live).linked.onChain_iff.mp on)
    exact allocated

section Update

variable {one : Connection} {links : List Link} {other : Address} {q : Nat}

/-- The new chain of a record shares nothing with other records. -/
theorem Ledger.apart_handled (ledger : Ledger c chains)
    (handles : Handles (c.connection ss) one (chains self) links) (different : other ≠ self)
    (owns : q ∈ links.map Link.address) : q ∉ (chains other).map Link.address := by
  intro owns'
  rcases handles.replaces.fresh q owns with before | unused
  · exact ledger.apart self other different.symm q before owns'
  · obtain ⟨_, _, _, allocated⟩ := ledger.allocated owns'
    exact absurd (Heap.lt_size_of_allocated allocated) (Nat.not_lt.mpr unused)

/-- **A function that handles the chain of its record keeps the ledger.** -/
theorem Ledger.update (ledger : Ledger c chains)
    (handles : Handles (c.connection ss) one (chains self) links) :
    Ledger (c.update self one) (Function.update chains self links) where
  pending other ss' found := by
    by_cases here : other = self
    · subst here
      rw [Channel.records_update_self] at found
      rw [Function.update_self]
      split at found
      · cases found
      · exact Option.some.inj found ▸ handles.pending
    · rw [Channel.records_update_of_ne here] at found
      rw [Function.update_of_ne here]
      exact (ledger.pending other ss' found).replaced handles.replaces
        (ledger.apart other self here)
  idle other dead := by
    by_cases here : other = self
    · subst here
      rw [Channel.records_update_self] at dead
      rw [Function.update_self]
      split at dead
      case isTrue freed => exact handles.freed freed
      case isFalse => cases dead
    · rw [Channel.records_update_of_ne here] at dead
      rw [Function.update_of_ne here]
      exact ledger.idle other dead
  apart first second different q owns := by
    by_cases firstHere : first = self
    · subst firstHere
      rw [Function.update_self] at owns
      rw [Function.update_of_ne different.symm]
      exact ledger.apart_handled handles different.symm owns
    · rw [Function.update_of_ne firstHere] at owns
      by_cases secondHere : second = self
      · subst secondHere
        rw [Function.update_self]
        exact fun owns' => ledger.apart_handled handles firstHere owns' owns
      · rw [Function.update_of_ne secondHere]
        exact ledger.apart first second different q owns
  owned q allocated := by
    rcases handles.replaces.allocated q allocated with owns | ⟨inside, off⟩
    · refine ⟨self, ?_⟩
      rw [Function.update_self]
      exact owns
    · change one.heap.get q ≠ none at allocated
      rw [handles.replaces.kept q inside off] at allocated
      obtain ⟨other, owns⟩ := ledger.owned q allocated
      have different : other ≠ self := by
        rintro rfl
        exact off owns
      refine ⟨other, ?_⟩
      rw [Function.update_of_ne different]
      exact owns

/-- If it frees the record, the chain is deallocated. -/
theorem Ledger.releases_update (ledger : Ledger c chains)
    (handles : Handles (c.connection ss) one (chains self) links) :
    Releases c (c.update self one) := by
  intro other ss' live dead q on
  by_cases here : other = self
  · subst here
    rw [Channel.records_update_self] at dead
    split at dead
    case isFalse => cases dead
    case isTrue freed =>
      by_contra allocated
      have owns := (ledger.pending other ss' live).linked.onChain_iff.mp on
      rcases handles.replaces.allocated q allocated with after | ⟨_, off⟩
      · rw [handles.freed freed] at after
        cases after
      · exact off owns
  · rw [Channel.records_update_of_ne here, live] at dead
    cases dead

end Update

/-! ### One step -/

/-- A step of the channel keeps the ledger, and deallocates what a record it frees had pending. -/
def Keeps (c : Channel) (result : Except ChannelFault Channel) : Prop :=
  ∃ c' chains', result = .ok c' ∧ Ledger c' chains' ∧ Releases c c'

/-- A step that frees nothing. -/
theorem releases_of_live (same : ∀ other, c'.records other = none ↔ c.records other = none) :
    Releases c c' := fun other ss live dead _ _ => by
  rw [(same other).mp dead] at live
  cases live

/-- The events of one record. -/
theorem Ledger.callback (ledger : Ledger c chains) {function : Connection → Except Fault Connection}
    (enabled : c.records self ≠ none)
    (handles : ∀ one links, Pending one.heap one.ss.p links → one.freed = false →
      ∃ one' links', function one = .ok one' ∧ Handles one one' links links') :
    Keeps c (c.onRecord self function) := by
  obtain ⟨ss, live⟩ := Option.ne_none_iff_exists'.mp enabled
  obtain ⟨one, links, ran, handled⟩ :=
    handles (c.connection ss) (chains self) (ledger.pending self ss live) rfl
  exact ⟨_, _, Channel.onRecord_eq live ran, ledger.update handled, ledger.releases_update handled⟩

/-- A new record has nothing pending. -/
theorem Ledger.accept (ledger : Ledger c chains) (fresh : c.records self = none)
    (newpcb : Address) : Keeps c (.ok (c.accept (some self) newpcb)) := by
  have handled : Handles (c.connection ⟨.accepted, newpcb, none⟩)
      (TcpServerChannel.accept (addConnectionToBuffer c.registry self) c.callback c.heap newpcb)
      (chains self) [] := by
    rw [ledger.idle self fresh]
    exact .same .empty rfl rfl fun _ => rfl
  exact ⟨_, _, rfl, ledger.update handled, ledger.releases_update handled⟩

/-- A record with nothing pending can be freed. -/
theorem Ledger.error (ledger : Ledger c chains) {ss : TcpServerParameters}
    (live : c.records self = some ss) (nothing : ss.p = none) : Keeps c (.ok (c.error self)) := by
  have pending := ledger.pending self ss live
  have empty : chains self = [] := by
    rw [nothing] at pending
    exact pending.eq_nil
  have handled : Handles (c.connection ss)
      { c.connection ss with
        registry := deleteConnectionFromBuffer c.registry self, freed := true }
      (chains self) (chains self) := .same pending rfl rfl fun _ => empty
  exact ⟨_, _, rfl, ledger.update handled, ledger.releases_update handled⟩

/-- **An `error` for a record with something pending** leaves it allocated, and nobody owns it. -/
theorem Ledger.error_unbalanced (ledger : Ledger c chains) {p : Nat}
    (live : c.records self = some ss) (pending : ss.p = some p) : ¬ (c.error self).Balanced := by
  intro balanced
  have owns : p ∈ (chains self).map Link.address :=
    (ledger.pending self ss live).linked.onChain_iff.mp (pending ▸ OnChain.head)
  obtain ⟨_, _, _, allocated⟩ := ledger.allocated owns
  obtain ⟨other, ss', live', on⟩ := (balanced p).mp allocated
  change Function.update c.records self none other = some ss' at live'
  by_cases here : other = self
  · rw [here, Function.update_self] at live'
    cases live'
  · rw [Function.update_of_ne here] at live'
    exact ledger.apart other self here p
      ((ledger.pending other ss' live').linked.onChain_iff.mp on) owns

/-- `tx` to a live record. -/
theorem Ledger.txConnection (ledger : Ledger c chains) (positive : 0 < tcpMss)
    (live : c.records self ≠ none) (buffer : List UInt8) (answer : TxResponse) :
    ∃ c' chains', c.onRecord self (TcpServerChannel.txConnection tcpMss self buffer answer) =
      .ok c' ∧ Ledger c' chains' ∧ ∀ other, c'.records other = none ↔ c.records other = none := by
  obtain ⟨ss, found⟩ := Option.ne_none_iff_exists'.mp live
  have pending : Pending (c.connection ss).heap (c.connection ss).ss.p (chains self) :=
    ledger.pending self ss found
  obtain ⟨one, links, ran, handles, alive⟩ :=
    txConnection_handles self positive buffer answer pending rfl
  refine ⟨c.update self one, _, Channel.onRecord_eq found ran, ledger.update handles,
    fun other => ?_⟩
  by_cases here : other = self
  · subst here
    simp [alive, found]
  · rw [Channel.records_update_of_ne here]

/-- The calls of a broadcast, if all records are live … -/
theorem Ledger.txCalls (ledger : Ledger c chains) (positive : 0 < tcpMss) (buffer : List UInt8)
    (answer : Nat → TxResponse) {calls : List (Address × Nat)}
    (live : ∀ call ∈ calls, c.records call.1 ≠ none) :
    ∃ c' chains', calls.foldlM (fun c (self, i) =>
        c.onRecord self (TcpServerChannel.txConnection tcpMss self buffer (answer i))) c = .ok c' ∧
      Ledger c' chains' ∧ ∀ other, c'.records other = none ↔ c.records other = none := by
  induction calls generalizing c chains with
  | nil => exact ⟨c, chains, rfl, ledger, fun _ => Iff.rfl⟩
  | cons call calls ih =>
    obtain ⟨c₁, chains₁, called, ledger₁, same⟩ :=
      ledger.txConnection positive (live call List.mem_cons_self) buffer (answer call.2)
    obtain ⟨c', chains', ran, ledger', same'⟩ := ih ledger₁ fun other inside =>
      (same other.1).not.mpr (live other (List.mem_cons_of_mem _ inside))
    refine ⟨c', chains', ?_, ledger', fun other => (same' other).trans (same other)⟩
    rw [List.foldlM_cons]
    dsimp only
    rw [called]
    exact ran

/-- … and if one is not. -/
theorem Ledger.txCalls_fault (ledger : Ledger c chains) (positive : 0 < tcpMss)
    (buffer : List UInt8) (answer : Nat → TxResponse) {calls : List (Address × Nat)}
    {call : Address × Nat} (inside : call ∈ calls) (dead : c.records call.1 = none) :
    ∃ fault, calls.foldlM (fun c (self, i) =>
      c.onRecord self (TcpServerChannel.txConnection tcpMss self buffer (answer i))) c =
        .error fault := by
  induction calls generalizing c chains with
  | nil => exact absurd inside List.not_mem_nil
  | cons first calls ih =>
    rw [List.foldlM_cons]
    dsimp only
    by_cases live : c.records first.1 = none
    · refine ⟨.freedRecord first.1, ?_⟩
      rw [Channel.onRecord, live]
      rfl
    · obtain ⟨c₁, chains₁, called, ledger₁, same⟩ :=
        ledger.txConnection positive live buffer (answer first.2)
      have later : call ∈ calls := (List.mem_cons.mp inside).resolve_left fun here =>
        live (here ▸ dead)
      obtain ⟨fault, ran⟩ := ih ledger₁ later ((same call.1).mpr dead)
      refine ⟨fault, ?_⟩
      rw [called]
      exact ran

/-- A `tx` that meets no freed record. -/
theorem Ledger.tx (ledger : Ledger c chains) (positive : 0 < tcpMss) {buffer : List UInt8}
    {parameter : Option Address} {answer : Nat → TxResponse}
    (harmless : c.Harmless (.tx buffer parameter answer)) :
    Keeps c (c.tx tcpMss buffer parameter answer) := by
  have nothing : Keeps c (.ok c) := ⟨c, chains, rfl, ledger, releases_of_live fun _ => Iff.rfl⟩
  unfold Channel.tx
  split
  · exact nothing
  · cases parameter with
    | none =>
      have live : ∀ call ∈ (broadcastConnections c.registry).zipIdx, c.records call.1 ≠ none := by
        intro call inside
        refine harmless call.1 ?_
        rw [← List.zipIdx_map_fst 0 (broadcastConnections c.registry)]
        exact List.mem_map_of_mem inside
      obtain ⟨c', chains', ran, ledger', same⟩ := ledger.txCalls positive buffer answer live
      exact ⟨c', chains', ran, ledger', releases_of_live same⟩
    | some self =>
      dsimp only
      by_cases stored : isConnectionInBuffer c.registry self = true
      · rw [if_pos stored]
        obtain ⟨c', chains', ran, ledger', same⟩ :=
          ledger.txConnection positive (harmless stored) buffer (answer 0)
        exact ⟨c', chains', ran, ledger', releases_of_live same⟩
      · rw [if_neg stored]
        exact nothing

/-- A `tx` that does not fault met no freed record. -/
theorem Ledger.harmless_tx (ledger : Ledger c chains) (positive : 0 < tcpMss)
    {buffer : List UInt8} {parameter : Option Address} {answer : Nat → TxResponse}
    (ran : c.tx tcpMss buffer parameter answer = .ok c') :
    c.Harmless (.tx buffer parameter answer) := by
  unfold Channel.tx at ran
  split at ran
  case isTrue zero =>
    have unstored : ∀ slot, slot ∉ c.registry.walked := fun slot member =>
      counter_ne_zero_of_walked member zero
    cases parameter with
    | none => exact fun self member => absurd (mem_broadcastConnections.mp member) (unstored _)
    | some self => exact fun stored => absurd (isConnectionInBuffer_iff.mp stored) (unstored _)
  case isFalse =>
    cases parameter with
    | none =>
      intro self member dead
      obtain ⟨i, inside, here⟩ := List.mem_iff_getElem.mp member
      have called : (self, i) ∈ (broadcastConnections c.registry).zipIdx :=
        List.mem_zipIdx_iff_getElem?.mpr (List.getElem?_eq_some_iff.mpr ⟨inside, here⟩)
      obtain ⟨fault, failed⟩ := ledger.txCalls_fault positive buffer answer called dead
      cases ran.symm.trans failed
    | some self =>
      intro stored dead
      dsimp only at ran
      rw [if_pos stored, Channel.onRecord, dead] at ran
      cases ran

/-- **A harmless step keeps the ledger.** -/
theorem step_ledger (positive : 0 < tcpMss) (ledger : Ledger c chains) (event : ChannelEvent)
    (enabled : channelEnabled c event) (harmless : c.Harmless event) :
    Keeps c (channelStep tcpMss c event) := by
  have nothing : Keeps c (.ok c) := ⟨c, chains, rfl, ledger, releases_of_live fun _ => Iff.rfl⟩
  cases event with
  | accept ss newpcb =>
    cases ss with
    | none => exact nothing
    | some self => exact ledger.accept enabled newpcb
  | tx buffer parameter answer => exact ledger.tx positive harmless
  | poll self lwip =>
    exact ledger.callback enabled fun _ _ pending alive => poll_handles self lwip pending alive
  | sent self lwip =>
    exact ledger.callback enabled fun _ _ pending alive => poll_handles self lwip pending alive
  | receive self p err lwip =>
    exact ledger.callback enabled fun _ _ pending alive =>
      receive_handles self p err lwip pending alive
  | error self =>
    obtain ⟨ss, live⟩ := Option.ne_none_iff_exists'.mp enabled
    change (c.records self).bind TcpServerParameters.p = none at harmless
    rw [live] at harmless
    exact ledger.error live harmless
  | setCallback callback =>
    exact ⟨_, chains, rfl, ⟨ledger.pending, ledger.idle, ledger.apart, ledger.owned⟩,
      releases_of_live fun _ => Iff.rfl⟩

/-- **Any other step does not.** -/
theorem harmless_of_balanced (positive : 0 < tcpMss) (ledger : Ledger c chains)
    (event : ChannelEvent) (enabled : channelEnabled c event)
    (balanced : ∃ c', channelStep tcpMss c event = .ok c' ∧ c'.Balanced) : c.Harmless event := by
  obtain ⟨c', stepped, balanced⟩ := balanced
  cases event with
  | accept _ _ | poll _ _ | sent _ _ | receive _ _ _ _ | setCallback _ => trivial
  | tx buffer parameter answer => exact ledger.harmless_tx positive stepped
  | error self =>
    obtain ⟨ss, live⟩ := Option.ne_none_iff_exists'.mp enabled
    show (c.records self).bind TcpServerParameters.p = none
    rw [live]
    show ss.p = none
    cases stepped
    cases start : ss.p with
    | none => rfl
    | some p => exact absurd balanced (ledger.error_unbalanced live start)

end Ledgers

/-! ### Runs -/

/-- The channel did not use a freed record, and its buffers are balanced. -/
def Balanced (state : Except ChannelFault Channel) : Prop := ∃ c, state = .ok c ∧ c.Balanced

def Harmless (state : Except ChannelFault Channel) (event : ChannelEvent) : Prop :=
  ∀ c, state = .ok c → c.Harmless event

instance : ∀ state event, Decidable (Harmless state event)
  | .ok c, event => decidable_of_iff (c.Harmless event)
      ⟨fun here _ same => Except.ok.inj same ▸ here, fun always => always c rfl⟩
  | .error _, _ => .isTrue fun _ impossible => (nomatch impossible)

/-- A step that frees a record deallocates the buffers it had pending. -/
def ReleasesChains (tcpMss : Nat) (state : Except ChannelFault Channel) (event : ChannelEvent) :
    Prop :=
  ∀ c c', state = .ok c → channelStep tcpMss c event = .ok c' → Releases c c'

/-- Every buffer has its owner. -/
def Kept (state : Except ChannelFault Channel) : Prop := ∃ c chains, state = .ok c ∧ Ledger c chains

section Runs

variable {tcpMss : Nat}

theorem kept_initialChannel (numBroadcastConnections : Nat) (callback : Bool) :
    Kept (.ok (initialChannel numBroadcastConnections callback)) :=
  ⟨_, fun _ => [], rfl, ⟨fun _ _ impossible => (nomatch impossible), fun _ _ => rfl,
    fun _ _ _ _ impossible => absurd impossible List.not_mem_nil,
    fun _ allocated => absurd rfl allocated⟩⟩

theorem balanced_of_kept (state : Except ChannelFault Channel) (kept : Kept state) :
    Balanced state := by
  obtain ⟨c, chains, rfl, ledger⟩ := kept
  exact ⟨c, rfl, ledger.balanced⟩

theorem kept_next (positive : 0 < tcpMss) (state : Except ChannelFault Channel)
    (event : ChannelEvent) (kept : Kept state) (enabled : (channel tcpMss).enabled state event)
    (harmless : Harmless state event) : Kept ((channel tcpMss).next state event) := by
  obtain ⟨c, chains, rfl, ledger⟩ := kept
  obtain ⟨c', chains', stepped, ledger', _⟩ :=
    step_ledger positive ledger event (enabled c rfl) (harmless c rfl)
  exact ⟨c', chains', stepped, ledger'⟩

theorem releasesChains_of_kept (positive : 0 < tcpMss) (state : Except ChannelFault Channel)
    (event : ChannelEvent) (kept : Kept state) (enabled : (channel tcpMss).enabled state event)
    (harmless : Harmless state event) : ReleasesChains tcpMss state event := by
  obtain ⟨c, chains, rfl, ledger⟩ := kept
  intro _ c' here stepped
  cases here
  obtain ⟨_, _, stepped', _, releases⟩ :=
    step_ledger positive ledger event (enabled c rfl) (harmless c rfl)
  exact Except.ok.inj (stepped'.symm.trans stepped) ▸ releases

theorem harmless_of_next (positive : 0 < tcpMss) (state : Except ChannelFault Channel)
    (event : ChannelEvent) (kept : Kept state) (enabled : (channel tcpMss).enabled state event)
    (balanced : Balanced ((channel tcpMss).next state event)) : Harmless state event := by
  obtain ⟨c, chains, rfl, ledger⟩ := kept
  intro _ here
  cases here
  exact harmless_of_balanced positive ledger event (enabled c rfl) balanced

end Runs

/-- **No buffer outlives its connection**, in any run of the channel: in every state the allocated
buffers are exactly those that are pending on live records, and every record that is freed takes its
buffers along — exactly if every `error` meets a record with nothing pending, and no `tx` a record
that was freed. -/
theorem balanced_iff {tcpMss : Nat} (positive : 0 < tcpMss) (numBroadcastConnections : Nat)
    (callback : Bool) (events : List ChannelEvent)
    (valid : (channel tcpMss).Valid (.ok (initialChannel numBroadcastConnections callback))
      events) :
    ((channel tcpMss).States Balanced (.ok (initialChannel numBroadcastConnections callback))
        events ∧
      (channel tcpMss).Steps (ReleasesChains tcpMss)
        (.ok (initialChannel numBroadcastConnections callback)) events) ↔
      (channel tcpMss).Steps Harmless (.ok (initialChannel numBroadcastConnections callback))
        events := by
  have start := kept_initialChannel numBroadcastConnections callback
  have balanced := (channel tcpMss).states_iff_steps_of_stronger balanced_of_kept
    (kept_next positive) (harmless_of_next positive) start valid
  have releases := (channel tcpMss).steps_of_steps (kept_next positive)
    (releasesChains_of_kept positive) start valid
  rw [balanced]
  exact ⟨And.left, fun harmless => ⟨harmless, releases harmless⟩⟩

/-- Two connections. The first one has bytes pending when the remote host closes it, and is closed
when they are sent; the second one fails with nothing pending. -/
def sampleEvents : List ChannelEvent :=
  [.accept (some 7) 1, .accept (some 8) 2, .tx [1, 2, 3] (some 7) fun _ => ⟨fun _ => true, fun _ =>
    ⟨0, .ok⟩⟩, .receive 7 none .ok fun _ => ⟨2, .ok⟩, .sent 7 fun _ => ⟨2, .ok⟩, .error 8]

theorem balanced_iff_sample :
    (channel 2).States Balanced (.ok (initialChannel 2 true)) sampleEvents ∧
      (channel 2).Steps (ReleasesChains 2) (.ok (initialChannel 2 true)) sampleEvents :=
  (balanced_iff (by decide) 2 true sampleEvents (by decide)).mpr (by decide)

/-- A connection fails with a byte pending. -/
def failedEvents : List ChannelEvent :=
  [.accept (some 7) 1, .tx [1] (some 7) fun _ => ⟨fun _ => true, fun _ => ⟨0, .ok⟩⟩, .error 7]

/-- The buffer stays allocated, and no record points at it. -/
theorem not_balanced :
    (channel 2).Valid (.ok (initialChannel 2 true)) failedEvents ∧
    ¬ ((channel 2).States Balanced (.ok (initialChannel 2 true)) failedEvents ∧
      (channel 2).Steps (ReleasesChains 2) (.ok (initialChannel 2 true)) failedEvents) := by
  refine ⟨by decide, fun ⟨states, _⟩ => ?_⟩
  have harmless := ((channel 2).states_iff_steps_of_stronger balanced_of_kept
    (kept_next (by decide)) (harmless_of_next (by decide)) (kept_initialChannel 2 true)
    (by decide)).mp states
  exact absurd harmless (by decide)

end Jblib.Ethutilities.TcpServerChannel
