/-
**A neighbour that answers stays in the table.**

Two controllers on a link, with the frames between them in flight. One of them, `a`, ages its table
and asks; the other one, `b`, answers; both hear other hosts in between.

* `Link`, `LinkEvent`, `linkStep` — the system; a frame carries the number of ticks it has been on
  its way, in both directions together.
* `LinkEnabled` — no frame is on its way for more than `patience` ticks, no other host claims the
  address, `b` gets no further addresses, and no sender that `a` accepts gets the last line of its
  table, `b` in replies for other addresses included. The requests of `a` and the replies of `b` find
  memory.
* `Pending` — the question for the address is on its way to `b`, or the answer is on its way back.
* `Alive` — the invariant: the record is young, or no older than what is pending explains.
* **`neighbour_kept`** — in every run `a` resolves the address to `b`, if
  `ARP_CONTROLLER_REFRESH_RECORD_TIME` and the patience together stay below
  `ARP_CONTROLLER_DELETE_RECORD_TIME`.
-/

import EthUtilities.ArpController.Freshness
import EthUtilities.ArpController.Requests

namespace Jblib.Ethutilities.ArpController

open Library EthernetUtilities

/-! ### The link -/

/-- A frame on its way, and the ticks it has been. -/
structure Message where
  bytes : List UInt8
  waited : Nat

/-- Two controllers. `requests` are on their way from `a` to `b`, `replies` from `b` to `a`. -/
structure Link where
  a : ArpController
  b : ArpController
  requests : List Message
  replies : List Message

inductive LinkEvent
  /-- the ageing timer of `a` -/
  | tick (malloc : Nat → Buffer)
  /-- a request arrives -/
  | ask (i : Nat) (frame : Buffer) (frameSize : Nat) (malloc : Buffer)
  /-- a reply arrives -/
  | answer (i : Nat) (frame : Buffer) (frameSize : Nat) (malloc : Option Buffer)
  /-- a frame of another host arrives at `a` -/
  | hear (frame : Buffer) (frameSize : Nat) (parameter : Bool) (malloc : Option Buffer)
  /-- something else happens to `b` -/
  | elsewhere (event : Event)

/-- The messages a tick later. -/
def later (messages : List Message) : List Message :=
  messages.map fun m => { m with waited := m.waited + 1 }

/-- Frames that leave. -/
def sent (waited : Nat) (frames : List (List UInt8)) : List Message :=
  frames.map fun bytes => ⟨bytes, waited⟩

section System

variable (configA configB : ArpConfig)

/-- A reply has been on its way since its request left. -/
def linkStep (l : Link) : LinkEvent → Except Fault Link
  | .tick malloc =>
    (voidCallback configA l.a fun i => some (malloc i)).map fun (a, queued) =>
      { l with a, requests := later l.requests ++ sent 0 queued, replies := later l.replies }
  | .ask i frame frameSize malloc =>
    (parseFrame configB l.b frame frameSize false (some malloc)).map fun (b, queued) =>
      { l with
        b, requests := l.requests.eraseIdx i,
        replies := l.replies ++ sent (l.requests[i]?.elim 0 Message.waited) queued }
  | .answer i frame frameSize malloc =>
    (parseFrame configA l.a frame frameSize false malloc).map fun (a, _) =>
      { l with a, replies := l.replies.eraseIdx i }
  | .hear frame frameSize parameter malloc =>
    (parseFrame configA l.a frame frameSize parameter malloc).map fun (a, _) => { l with a }
  | .elsewhere event => (step configB l.b event).map fun b => { l with b }

/-- `x` is the address of `b`. -/
def LinkEnabled (patience : Nat) (x : Ip) (l : Link) : LinkEvent → Prop
  | .tick _ => ∀ m ∈ l.requests ++ l.replies, m.waited < patience
  | .ask i frame frameSize _ => ∃ m, l.requests[i]? = some m ∧ Carries frame frameSize m.bytes
  | .answer i frame frameSize _ =>
    (∃ m, l.replies[i]? = some m ∧ Carries frame frameSize m.bytes) ∧
      ¬ FillsTable configA l.a.arpTable (senderIp frame)
  | .hear frame frameSize parameter _ =>
    AcceptsArp l.a frame frameSize parameter →
      senderIp frame ≠ x ∧ ¬ FillsTable configA l.a.arpTable (senderIp frame)
  | .elsewhere event => ∀ ip mask, event ≠ .addIpForArpReply ip mask

def link (patience : Nat) (x : Ip) : Machine (Except Fault Link) LinkEvent :=
  Machine.checked (linkStep configA configB) (LinkEnabled configA patience x)

end System

/-! ### What a controller keeps -/

section Frame

variable {config : ArpConfig} {c c' : ArpController} {event : Event}

/-- The hardware address and the addresses for replies stay. -/
def SameHost (c c' : ArpController) : Prop :=
  c'.mac = c.mac ∧ c'.ipTableForReply = c.ipTableForReply

theorem SameHost.isIpInTableForReply_eq (same : SameHost c c') (ip : Ip) :
    isIpInTableForReply c' ip = isIpInTableForReply c ip := by
  rw [isIpInTableForReply, isIpInTableForReply, same.2]

/-- Frames and ticks leave the host what it is. -/
theorem step_sameHost (wellFormed : ArpTable.WellFormed config c.arpTable)
    (stepped : step config c event = .ok c')
    (noAddress : ∀ ip mask, event ≠ .addIpForArpReply ip mask) : SameHost c c' := by
  cases event with
  | parseFrame frame frameSize parameter malloc =>
    rw [step] at stepped
    by_cases accepts : AcceptsArp c frame frameSize parameter
    · obtain ⟨queued, learns⟩ := parseFrame_learns malloc config accepts
      rw [learns] at stepped
      cases learned : c.arpTable.learn config (senderIp frame) (senderMac frame) with
      | error fault =>
        rw [learned] at stepped
        cases stepped
      | ok table =>
        rw [learned] at stepped
        obtain rfl := Except.ok.inj stepped
        exact ⟨rfl, rfl⟩
    · rw [parseFrame_ignores malloc accepts] at stepped
      obtain rfl := Except.ok.inj stepped
      exact ⟨rfl, rfl⟩
  | voidCallback malloc =>
    obtain ⟨table, ran, -⟩ := voidCallback_lines malloc wellFormed
    rw [step, ran] at stepped
    obtain rfl := Except.ok.inj stepped
    exact ⟨rfl, rfl⟩
  | addIpForArpReply ip mask => exact absurd rfl (noAddress ip mask)

end Frame

/-! ### Senders -/

section Senders

variable {config : ArpConfig} {table : ArpTable} {ip : Ip} {mac : Mac}

/-- In a table of at most 32767 lines a sender that does not get the last one is recorded, and the
records of the others stay. -/
theorem learn_keeps (size : config.arpTableSize ≤ 32767)
    (wellFormed : ArpTable.WellFormed config table) (fits : ¬ FillsTable config table ip) (mac : Mac) :
    ∃ table', table.learn config ip mac = .ok table' ∧ ArpTable.WellFormed config table' ∧
      (⟨ip, mac, 0⟩ : ArpTableLine) ∈ table'.lines ∧
      ∀ line ∈ table.lines, line.ip ≠ ip → line ∈ table'.lines := by
  cases found : table.find ip with
  | some i =>
    have lines : (table.refreshed i mac).lines = _ := wellFormed.lines_refreshed found
    refine ⟨table.refreshed i mac, wellFormed.learn_known found, wellFormed.refreshed, ?_,
      fun line member other => ?_⟩
    · have same : (table.line i).ip = ip := Slots.slot_of_find found
      rw [lines]
      refine List.mem_map.mpr ⟨table.line i, ArpTable.mem_lines.mpr
        ⟨i, ArpTable.find_lt found, rfl⟩, ?_⟩
      rw [refreshLine, if_pos same]
    · rw [lines]
      refine List.mem_map.mpr ⟨line, member, ?_⟩
      rw [refreshLine, if_neg other]
  | none =>
    have room := wellFormed.room
    have small : table.recordCounter < 32768 := by omega
    have more : table.recordCounter + 1 ≠ config.arpTableSize := fun full => fits ⟨found, full⟩
    have lines : (table.recorded config ip mac).lines = _ := ArpTable.lines_recorded more
    refine ⟨table.recorded config ip mac, wellFormed.learn_new found small,
      wellFormed.recorded found small, ?_, fun line member _ => ?_⟩
    · rw [lines]
      exact List.mem_append_right _ List.mem_cons_self
    · rw [lines]
      exact List.mem_append_left _ member

end Senders

/-! ### The invariant -/

/-- The question for an address is on its way, or the answer to it is. -/
def Pending (l : Link) (x : Ip) (m : Message) : Prop :=
  (m ∈ l.requests ∧ ∃ p ∈ requestsFor l.a x, m.bytes = p.bytes) ∨
    m ∈ l.replies ∧ ∃ p ∈ requestsFor l.a x, m.bytes = (p.reply l.b.mac).bytes

/-- What is known about the link in every state. -/
structure Alive (configA configB : ArpConfig) (patience : Nat) (x : Ip) (l : Link) : Prop where
  wellFormedA : ArpTable.WellFormed configA l.a.arpTable
  wellFormedB : ArpTable.WellFormed configB l.b.arpTable
  asks : requestsFor l.a x ≠ []
  answers : isIpInTableForReply l.b x = true
  requests : ∀ m ∈ l.requests, m.waited ≤ patience ∧
    ∃ ip, ∃ p ∈ requestsFor l.a ip, m.bytes = p.bytes
  replies : ∀ m ∈ l.replies, m.waited ≤ patience ∧
    ∃ ip, ∃ p ∈ requestsFor l.a ip, m.bytes = (p.reply l.b.mac).bytes
  record : ∃ line ∈ l.a.arpTable.lines, line.ip = x ∧ line.mac = l.b.mac ∧
    (line.timeAfterUpdate.toNat ≤ configA.refreshRecordTime ∨
      ∃ m, Pending l x m ∧
        line.timeAfterUpdate.toNat ≤ configA.refreshRecordTime + 1 + m.waited)

namespace Alive

variable {configA configB : ArpConfig} {patience : Nat} {x : Ip} {l : Link}

/-- The address resolves. -/
theorem getMac_eq (alive : Alive configA configB patience x l) :
    l.a.arpTable.getMac configA x = .ok (some l.b.mac) := by
  obtain ⟨line, member, same, mac, -⟩ := alive.record
  rw [alive.wellFormedA.getMac_eq, alive.wellFormedA.resolve_iff.mpr ⟨line, member, same, mac⟩]

/-! ### A tick -/

theorem mem_later {messages : List Message} {m : Message} :
    m ∈ later messages ↔ ∃ earlier ∈ messages, m = ⟨earlier.bytes, earlier.waited + 1⟩ := by
  simp [later, eq_comm]

theorem mem_sent {waited : Nat} {frames : List (List UInt8)} {m : Message} :
    m ∈ sent waited frames ↔ ∃ bytes ∈ frames, m = ⟨bytes, waited⟩ := by
  simp [sent, eq_comm]

/-- Every frame of a tick is a request. -/
theorem request_of_mem {config : ArpConfig} {c : ArpController} {lines : List ArpTableLine}
    {frame : List UInt8} (queued : frame ∈ lines.flatMap (refreshes config c)) :
    ∃ ip, ∃ p ∈ requestsFor c ip, frame = p.bytes := by
  obtain ⟨line, -, member⟩ := List.mem_flatMap.mp queued
  rw [refreshes] at member
  split at member
  · obtain ⟨p, asked, rfl⟩ := List.mem_map.mp member
    exact ⟨line.ip, p, asked, rfl⟩
  · exact absurd member List.not_mem_nil

/-- **A tick.** -/
theorem tick (alive : Alive configA configB patience x l)
    (patient : configA.refreshRecordTime + patience < configA.deleteRecordTime)
    (small : configA.deleteRecordTime < 4294967295) (malloc : Nat → Buffer)
    (enabled : LinkEnabled configA patience x l (.tick malloc)) :
    ∃ l', linkStep configA configB l (.tick malloc) = .ok l' ∧
      Alive configA configB patience x l' := by
  obtain ⟨table, ran, wellFormed, lines⟩ := voidCallback_requests alive.wellFormedA malloc
  let queued := (agedLines configA l.a.arpTable).flatMap (refreshes configA l.a)
  let l' : Link := { l with
    a := { l.a with arpTable := table }
    requests := later l.requests ++ sent 0 queued
    replies := later l.replies }
  have stepped : linkStep configA configB l (.tick malloc) = .ok l' := by
    rw [linkStep, ran]
    rfl
  have early : ∀ m ∈ l.requests ++ l.replies, m.waited < patience := enabled
  -- what was pending is pending still
  have still : ∀ m, Pending l x m → m.waited < patience ∧
      Pending l' x ⟨m.bytes, m.waited + 1⟩ := by
    rintro m (⟨member, asked⟩ | ⟨member, asked⟩)
    · exact ⟨early m (List.mem_append_left _ member),
        .inl ⟨List.mem_append_left _ (mem_later.mpr ⟨m, member, rfl⟩), asked⟩⟩
    · exact ⟨early m (List.mem_append_right _ member),
        .inr ⟨mem_later.mpr ⟨m, member, rfl⟩, asked⟩⟩
  refine ⟨l', stepped, wellFormed, alive.wellFormedB, alive.asks, alive.answers, ?_, ?_, ?_⟩
  · intro m member
    rcases List.mem_append.mp member with old | new
    · obtain ⟨earlier, before, rfl⟩ := mem_later.mp old
      exact ⟨early earlier (List.mem_append_left _ before), (alive.requests earlier before).2⟩
    · obtain ⟨bytes, fresh, rfl⟩ := mem_sent.mp new
      exact ⟨Nat.zero_le _, request_of_mem fresh⟩
  · intro m member
    obtain ⟨earlier, before, rfl⟩ := mem_later.mp member
    exact ⟨early earlier (List.mem_append_right _ before), (alive.replies earlier before).2⟩
  · obtain ⟨line, member, rfl, mac, age⟩ := alive.record
    have bound : line.timeAfterUpdate.toNat < configA.deleteRecordTime := by
      rcases age with young | ⟨m, pending, late⟩
      · omega
      · have waits := (still m pending).1
        omega
    have next : line.aged.timeAfterUpdate.toNat = line.timeAfterUpdate.toNat + 1 := by
      rw [ArpTableLine.aged, UInt32.toNat_add]
      exact Nat.mod_eq_of_lt (Nat.succ_lt_succ (Nat.lt_trans bound small))
    have keeps : line.aged.expired configA ≠ true := by
      rw [ArpTableLine.expired, next, Ne, decide_eq_true_eq]
      exact Nat.not_lt_of_le bound
    rcases @Sweep.visited_or_skipped _ _ (ArpTableLine.expired configA) _ _ member with
      ⟨visited, kept⟩ | passed
    · refine ⟨line.aged, lines ▸ kept.resolve_left keeps, rfl, mac, ?_⟩
      rw [next]
      rcases age with young | ⟨m, pending, late⟩
      · rcases Nat.lt_or_ge line.timeAfterUpdate.toNat configA.refreshRecordTime with fresh | due
        · exact .inl fresh
        -- it is due now, and a request leaves
        · obtain ⟨p, asked⟩ := List.exists_mem_of_ne_nil _ alive.asks
          have leaves : p.bytes ∈ queued := by
            refine List.mem_flatMap.mpr ⟨line.aged, visited, ?_⟩
            rw [refreshes, next, if_pos (Nat.lt_succ_of_le due)]
            exact List.mem_map_of_mem asked
          exact .inr ⟨⟨p.bytes, 0⟩, .inl ⟨List.mem_append_right _ (mem_sent.mpr
            ⟨p.bytes, leaves, rfl⟩), p, asked, rfl⟩, Nat.succ_le_succ young⟩
      · exact .inr ⟨_, (still m pending).2, Nat.succ_le_succ late⟩
    · refine ⟨line, lines ▸ passed, rfl, mac, age.imp_right ?_⟩
      rintro ⟨m, pending, late⟩
      exact ⟨_, (still m pending).2, Nat.le_succ_of_le late⟩

/-! ### Frames -/

/-- A message stays, or it is the one that is taken. -/
theorem mem_eraseIdx_or {messages : List Message} {m : Message} (member : m ∈ messages) (i : Nat) :
    m ∈ messages.eraseIdx i ∨ messages[i]? = some m := by
  obtain ⟨j, place⟩ := List.mem_iff_getElem?.mp member
  by_cases here : j = i
  · exact .inr (here ▸ place)
  · exact .inl (List.mem_eraseIdx_iff_getElem?.mpr ⟨j, here, place⟩)

/-- The record and what explains its age, seen from a link whose table keeps the record. -/
theorem record_mono {l' : Link} (alive : Alive configA configB patience x l)
    (same : SameHost l.b l'.b)
    (kept : ∀ line ∈ l.a.arpTable.lines, line.ip = x → line ∈ l'.a.arpTable.lines)
    (still : ∀ m, Pending l x m → ∃ m', Pending l' x m' ∧ m.waited ≤ m'.waited) :
    ∃ line ∈ l'.a.arpTable.lines, line.ip = x ∧ line.mac = l'.b.mac ∧
      (line.timeAfterUpdate.toNat ≤ configA.refreshRecordTime ∨
        ∃ m, Pending l' x m ∧
          line.timeAfterUpdate.toNat ≤ configA.refreshRecordTime + 1 + m.waited) := by
  obtain ⟨line, member, here, mac, age⟩ := alive.record
  refine ⟨line, kept line member here, here, mac.trans same.1.symm, age.imp_right ?_⟩
  rintro ⟨m, pending, late⟩
  obtain ⟨m', pending', waits⟩ := still m pending
  exact ⟨m', pending', Nat.le_trans late (Nat.add_le_add_left waits _)⟩

theorem request_fields {c : ArpController} {ip : Ip} {p : ArpPacket} (asked : p ∈ requestsFor c ip) :
    p.opcode = 0x01 ∧ p.targetIp = ip ∧ isIpInTableForReply c p.senderIp = true := by
  obtain ⟨i, inside, -, rfl⟩ := mem_requestsFor.mp asked
  refine ⟨rfl, rfl, isIpInTableForReply_iff.mpr ?_⟩
  exact List.mem_map_of_mem (List.mem_range.mpr inside)

/-- **What `b` does with a request**: it answers if the request is for it. -/
theorem parseFrame_asked (alive : Alive configA configB patience x l)
    (size : configB.arpTableSize ≤ 32767) {ip : Ip} {p : ArpPacket} (asked : p ∈ requestsFor l.a ip)
    {frame : Buffer} {frameSize : Nat} (carries : Carries frame frameSize p.bytes)
    (malloc : Buffer) :
    ∃ b' queued, parseFrame configB l.b frame frameSize false (some malloc) = .ok (b', queued) ∧
      ArpTable.WellFormed configB b'.arpTable ∧ SameHost l.b b' ∧
      (∀ bytes ∈ queued, bytes = (p.reply l.b.mac).bytes) ∧
      (isIpInTableForReply l.b ip = true → (p.reply l.b.mac).bytes ∈ queued) := by
  obtain ⟨asks, rfl, -⟩ := request_fields asked
  cases mine : isIpInTableForReply l.b p.targetIp with
  | false =>
    exact ⟨l.b, [], parseFrame_other configB (some malloc) carries mine, alive.wellFormedB,
      ⟨rfl, rfl⟩, nofun, nofun⟩
  | true =>
    have parsed := parseFrame_request configB carries asks mine malloc
    obtain ⟨b', stepped, wellFormed⟩ := step_ok size
      (.parseFrame frame frameSize false (some malloc)) alive.wellFormedB
    have same := step_sameHost alive.wellFormedB stepped fun _ _ => nofun
    rw [step, parsed] at stepped
    cases learned : l.b.arpTable.learn configB p.senderIp p.senderMac with
    | error fault =>
      rw [learned] at stepped
      cases stepped
    | ok table =>
      rw [learned] at parsed stepped
      obtain rfl := Except.ok.inj stepped
      exact ⟨_, _, parsed, wellFormed, same, fun bytes member => List.mem_singleton.mp member,
        fun _ => List.mem_cons_self⟩

/-- **A request arrives.** -/
theorem ask (alive : Alive configA configB patience x l) (size : configB.arpTableSize ≤ 32767)
    {i : Nat} {frame : Buffer} {frameSize : Nat} {malloc : Buffer}
    (enabled : LinkEnabled configA patience x l (.ask i frame frameSize malloc)) :
    ∃ l', linkStep configA configB l (.ask i frame frameSize malloc) = .ok l' ∧
      Alive configA configB patience x l' := by
  obtain ⟨m, place, carries⟩ := enabled
  have member := List.mem_iff_getElem?.mpr ⟨i, place⟩
  obtain ⟨early, asked⟩ := alive.requests m member
  -- the same frame may be a request for several addresses only if they are the same
  obtain ⟨ip, p, isRequest, bytes, forX⟩ : ∃ ip, ∃ p ∈ requestsFor l.a ip, m.bytes = p.bytes ∧
      ((∃ p ∈ requestsFor l.a x, m.bytes = p.bytes) → ip = x) := by
    by_cases forX : ∃ p ∈ requestsFor l.a x, m.bytes = p.bytes
    · obtain ⟨p, isRequest, bytes⟩ := forX
      exact ⟨x, p, isRequest, bytes, fun _ => rfl⟩
    · obtain ⟨ip, p, isRequest, bytes⟩ := asked
      exact ⟨ip, p, isRequest, bytes, fun here => absurd here forX⟩
  rw [bytes] at carries
  obtain ⟨b', queued, parsed, wellFormed, same, onlyReply, replies⟩ :=
    alive.parseFrame_asked size isRequest carries malloc
  let l' : Link := { l with
    b := b'
    requests := l.requests.eraseIdx i
    replies := l.replies ++ sent m.waited queued }
  have stepped : linkStep configA configB l (.ask i frame frameSize malloc) = .ok l' := by
    rw [linkStep, parsed, place]
    rfl
  refine ⟨l', stepped, alive.wellFormedA, wellFormed, alive.asks,
    (same.isIpInTableForReply_eq x).trans alive.answers,
    fun other kept => alive.requests other (List.mem_of_mem_eraseIdx kept), ?_, ?_⟩
  · intro other back
    rcases List.mem_append.mp back with old | new
    · obtain ⟨early, ip, p, isRequest, bytes⟩ := alive.replies other old
      refine ⟨early, ip, p, isRequest, bytes.trans ?_⟩
      rw [same.1]
    · obtain ⟨reply, leaves, rfl⟩ := mem_sent.mp new
      refine ⟨early, ip, p, isRequest, (onlyReply reply leaves).trans ?_⟩
      rw [same.1]
  · refine alive.record_mono same (fun line here _ => here) ?_
    rintro other (⟨before, ofX⟩ | ⟨before, p', isRequest', bytes'⟩)
    · rcases mem_eraseIdx_or before i with stays | taken
      · exact ⟨other, .inl ⟨stays, ofX⟩, Nat.le_refl _⟩
      -- it is the one that `b` answers
      · obtain rfl := Option.some.inj (place.symm.trans taken)
        obtain rfl := forX ofX
        refine ⟨⟨(p.reply l.b.mac).bytes, m.waited⟩, .inr ⟨?_, p, isRequest, ?_⟩, Nat.le_refl _⟩
        · exact List.mem_append_right _ (mem_sent.mpr ⟨_, replies alive.answers, rfl⟩)
        · rw [same.1]
    · refine ⟨other, .inr ⟨List.mem_append_left _ before, p', isRequest', bytes'.trans ?_⟩,
        Nat.le_refl _⟩
      rw [same.1]

/-- **A sender is heard**, that is not `b` or says what `b` says. -/
theorem learned (alive : Alive configA configB patience x l) {table : ArpTable}
    (wellFormed : ArpTable.WellFormed configA table) {replies : List Message}
    (fewer : ∀ m ∈ replies, m ∈ l.replies)
    (record : (⟨x, l.b.mac, 0⟩ : ArpTableLine) ∈ table.lines ∨
      (∀ line ∈ l.a.arpTable.lines, line.ip = x → line ∈ table.lines) ∧
        ∀ m ∈ l.replies, (∃ p ∈ requestsFor l.a x, m.bytes = (p.reply l.b.mac).bytes) →
          m ∈ replies) :
    Alive configA configB patience x
      { l with a := { l.a with arpTable := table }, replies := replies } := by
  refine ⟨wellFormed, alive.wellFormedB, alive.asks, alive.answers, alive.requests,
    fun m member => alive.replies m (fewer m member), ?_⟩
  rcases record with new | ⟨kept, still⟩
  · exact ⟨_, new, rfl, rfl, .inl (Nat.zero_le _)⟩
  · refine alive.record_mono ⟨rfl, rfl⟩ kept ?_
    rintro m (asked | ⟨back, ofX⟩)
    · exact ⟨m, .inl asked, Nat.le_refl _⟩
    · exact ⟨m, .inr ⟨still m back ofX, ofX⟩, Nat.le_refl _⟩

/-- **A reply arrives.** -/
theorem answer (alive : Alive configA configB patience x l) (size : configA.arpTableSize ≤ 32767)
    {i : Nat} {frame : Buffer} {frameSize : Nat} {malloc : Option Buffer}
    (enabled : LinkEnabled configA patience x l (.answer i frame frameSize malloc)) :
    ∃ l', linkStep configA configB l (.answer i frame frameSize malloc) = .ok l' ∧
      Alive configA configB patience x l' := by
  obtain ⟨⟨m, place, carries⟩, fits⟩ := enabled
  have member := List.mem_iff_getElem?.mpr ⟨i, place⟩
  obtain ⟨ip, p, isRequest, bytes, forX⟩ : ∃ ip, ∃ p ∈ requestsFor l.a ip,
      m.bytes = (p.reply l.b.mac).bytes ∧
      ((∃ p ∈ requestsFor l.a x, m.bytes = (p.reply l.b.mac).bytes) → ip = x) := by
    by_cases forX : ∃ p ∈ requestsFor l.a x, m.bytes = (p.reply l.b.mac).bytes
    · obtain ⟨p, isRequest, bytes⟩ := forX
      exact ⟨x, p, isRequest, bytes, fun _ => rfl⟩
    · obtain ⟨-, ip, p, isRequest, bytes⟩ := alive.replies m member
      exact ⟨ip, p, isRequest, bytes, fun here => absurd here forX⟩
  obtain ⟨-, rfl, mine⟩ := request_fields isRequest
  rw [bytes] at carries
  have sender : senderIp frame = p.targetIp := carries.holds.senderIp
  rw [sender] at fits
  have parsed := parseFrame_reply configA malloc carries rfl mine
  obtain ⟨table, learned, wellFormed, new, kept⟩ :=
    learn_keeps size alive.wellFormedA fits l.b.mac
  have learns : l.a.arpTable.learn configA (p.reply l.b.mac).senderIp
      (p.reply l.b.mac).senderMac = .ok table := learned
  rw [learns] at parsed
  refine ⟨{ l with a := { l.a with arpTable := table }, replies := l.replies.eraseIdx i }, ?_,
    alive.learned wellFormed (fun _ member => List.mem_of_mem_eraseIdx member) ?_⟩
  · rw [linkStep, parsed]
    rfl
  · by_cases here : p.targetIp = x
    · exact .inl (here ▸ new)
    · refine .inr ⟨fun line member same => kept line member fun same' =>
        here (same'.symm.trans same), fun other back ofX => ?_⟩
      refine (mem_eraseIdx_or back i).resolve_right fun taken => here (forX ?_)
      obtain rfl := Option.some.inj (place.symm.trans taken)
      exact ofX

/-- **Another host is heard.** -/
theorem hear (alive : Alive configA configB patience x l) (size : configA.arpTableSize ≤ 32767)
    {frame : Buffer} {frameSize : Nat} {parameter : Bool} {malloc : Option Buffer}
    (enabled : LinkEnabled configA patience x l (.hear frame frameSize parameter malloc)) :
    ∃ l', linkStep configA configB l (.hear frame frameSize parameter malloc) = .ok l' ∧
      Alive configA configB patience x l' := by
  by_cases accepts : AcceptsArp l.a frame frameSize parameter
  · obtain ⟨other, fits⟩ := enabled accepts
    obtain ⟨queued, parsed⟩ := parseFrame_learns malloc configA accepts
    obtain ⟨table, learned, wellFormed, -, kept⟩ :=
      learn_keeps size alive.wellFormedA fits (senderMac frame)
    rw [learned] at parsed
    refine ⟨{ l with a := { l.a with arpTable := table } }, ?_,
      alive.learned wellFormed (fun _ member => member) (.inr ⟨fun line member same => ?_, ?_⟩)⟩
    · rw [linkStep, parsed]
      rfl
    · exact kept line member fun same' => other (same'.symm.trans same)
    · exact fun _ back _ => back
  · refine ⟨l, ?_, alive⟩
    rw [linkStep, parseFrame_ignores malloc accepts]
    rfl

/-- **Anything else at `b`.** -/
theorem elsewhere (alive : Alive configA configB patience x l)
    (size : configB.arpTableSize ≤ 32767) {event : Event}
    (enabled : LinkEnabled configA patience x l (.elsewhere event)) :
    ∃ l', linkStep configA configB l (.elsewhere event) = .ok l' ∧
      Alive configA configB patience x l' := by
  obtain ⟨b', stepped, wellFormed⟩ := step_ok size event alive.wellFormedB
  have same := step_sameHost alive.wellFormedB stepped enabled
  refine ⟨{ l with b := b' }, ?_, alive.wellFormedA, wellFormed, alive.asks,
    (same.isIpInTableForReply_eq x).trans alive.answers, alive.requests, ?_, ?_⟩
  · rw [linkStep, stepped]
    rfl
  · intro m back
    obtain ⟨early, ip, p, isRequest, bytes⟩ := alive.replies m back
    refine ⟨early, ip, p, isRequest, bytes.trans ?_⟩
    rw [same.1]
  · refine alive.record_mono same (fun line here _ => here) ?_
    rintro m (asked | ⟨back, p, isRequest, bytes⟩)
    · exact ⟨m, .inl asked, Nat.le_refl _⟩
    · refine ⟨m, .inr ⟨back, p, isRequest, bytes.trans ?_⟩, Nat.le_refl _⟩
      rw [same.1]

end Alive

/-! ### Runs -/

/-- **A neighbour that answers in time stays resolved.** `a` has just heard of it, it shares a network
with one of the addresses of `a`, and answers for its own. -/
theorem neighbour_kept {configA configB : ArpConfig} {patience : Nat} {x : Ip}
    (sizeA : 0 < configA.arpTableSize ∧ configA.arpTableSize ≤ 32767)
    (sizeB : 0 < configB.arpTableSize ∧ configB.arpTableSize ≤ 32767)
    (patient : configA.refreshRecordTime + patience < configA.deleteRecordTime)
    (small : configA.deleteRecordTime < 4294967295) {a₀ a b₀ b : ArpController}
    (freshA : Fresh a₀) {eventsA : List Event}
    (reachedA : (arp configA).run (.ok a₀) eventsA = .ok a) (freshB : Fresh b₀)
    {eventsB : List Event} (reachedB : (arp configB).run (.ok b₀) eventsB = .ok b)
    (asks : requestsFor a x ≠ []) (answers : isIpInTableForReply b x = true)
    (known : ∃ line ∈ a.arpTable.lines, line.ip = x ∧ line.mac = b.mac ∧
      line.timeAfterUpdate.toNat ≤ configA.refreshRecordTime) {events : List LinkEvent}
    (valid : (link configA configB patience x).Valid (.ok ⟨a, b, [], []⟩) events) :
    ∃ l, (link configA configB patience x).run (.ok ⟨a, b, [], []⟩) events = .ok l ∧
      l.a.arpTable.getMac configA x = .ok (some l.b.mac) := by
  obtain ⟨line, member, same, mac, young⟩ := known
  have start : Alive configA configB patience x ⟨a, b, [], []⟩ :=
    ⟨wellFormed_reached freshA sizeA.1 reachedA, wellFormed_reached freshB sizeB.1 reachedB, asks,
      answers, nofun, nofun, line, member, same, mac, .inl young⟩
  obtain ⟨l, ran, alive⟩ := Machine.checked_run (linkStep configA configB)
    (LinkEnabled configA patience x) (P := Alive configA configB patience x)
    (fun l event alive enabled => by
      cases event with
      | tick malloc => exact alive.tick patient small malloc enabled
      | ask => exact alive.ask sizeB.2 enabled
      | answer => exact alive.answer sizeA.2 enabled
      | hear => exact alive.hear sizeA.2 enabled
      | elsewhere => exact alive.elsewhere sizeB.2 enabled) start valid
  exact ⟨l, ran, alive.getMac_eq⟩

/-- The host that was heard. -/
def neighbour : ArpController := host (senderMac (sampleReply 2)) (senderIp (sampleReply 2))

theorem neighbour_fresh : Fresh neighbour := rfl

/-- What the acquainted host asks. -/
def question : ArpPacket :=
  ArpPacket.request (senderIp (sampleReply 2)) askingHost.mac (askingHost.ipTableForReply.ip 0)

/-- A tick, and the request arrives. -/
def linkEvents : List LinkEvent :=
  [.tick fun _ _ => 0,
    .ask 0 (Buffer.write (fun _ => 0) 0 question.bytes) question.bytes.length fun _ => 0]

theorem linkEvents_valid : (link refreshConfig sampleConfig 0 (senderIp (sampleReply 2))).Valid
    (.ok ⟨acquainted, neighbour, [], []⟩) linkEvents := by
  obtain ⟨table, ran⟩ := tick_requests_sample
  have ticked : (link refreshConfig sampleConfig 0 (senderIp (sampleReply 2))).next
      (.ok ⟨acquainted, neighbour, [], []⟩) (.tick fun _ _ => 0) =
        .ok ⟨{ acquainted with arpTable := table }, neighbour, [⟨question.bytes, 0⟩], []⟩ := by
    show linkStep refreshConfig sampleConfig ⟨acquainted, neighbour, [], []⟩ (.tick fun _ _ => 0) = _
    rw [linkStep, ran]
    rfl
  refine ⟨fun l here m impossible => ?_, ?_⟩
  · obtain rfl := Except.ok.inj here
    exact absurd impossible List.not_mem_nil
  · rw [ticked]
    refine ⟨fun l here => ?_, trivial⟩
    obtain rfl := Except.ok.inj here
    exact ⟨_, rfl, carries_write _⟩

theorem neighbour_kept_sample :
    ∃ l, (link refreshConfig sampleConfig 0 (senderIp (sampleReply 2))).run
        (.ok ⟨acquainted, neighbour, [], []⟩) linkEvents = .ok l ∧
      l.a.arpTable.getMac refreshConfig (senderIp (sampleReply 2)) = .ok (some l.b.mac) :=
  @neighbour_kept refreshConfig sampleConfig 0 (senderIp (sampleReply 2)) (by decide) (by decide)
    (by decide) (by decide) _ _ _ _ askingHost_fresh _ acquainted_reached neighbour_fresh []
    (show (arp sampleConfig).run (.ok neighbour) [] = .ok neighbour from rfl) (by decide +kernel)
    (by decide +kernel)
    ⟨acquainted.arpTable.line 0, ArpTable.mem_lines.mpr ⟨0, by decide, rfl⟩, by decide +kernel,
      by decide +kernel, by decide +kernel⟩
    _ linkEvents_valid

end Jblib.Ethutilities.ArpController
