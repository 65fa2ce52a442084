/-
**What an announcement does at other controllers.**

`sendGratiousArp` announces addresses of a controller in replies that nobody asked for, to all. A
controller that is given such a frame by the router drops it unless it replies for the target of the
frame, which is the address announced.

* `mem_sendGratiousArp_iff` — the frames that are sent.
* `refreshes_iff` — what becomes of one of them at a controller with a record for the address.
* **`announcement_refreshes_iff`** — the record is refreshed exactly if the controller replies for
  the address itself, or there is nothing to refresh.
-/

import EthUtilities.ArpController.Ageing
import EthUtilities.ArpController.ReplyAddresses

namespace Jblib.Ethutilities.ArpController

open Library EthernetUtilities

/-! ### Announcements -/

/-- The addresses that `sendGratiousArp` announces. -/
def Announces (a : ArpController) : (srcIp : Option Ip) → Ip → Prop
  | none, x => x ∈ registered a
  | some srcIp, x => x = srcIp

/-- **The frames that are sent.** -/
theorem mem_sendGratiousArp_iff {a : ArpController} {srcIp : Option Ip} (outputFrame : Buffer)
    {sent : List UInt8} : sent ∈ sendGratiousArp a srcIp (some outputFrame) ↔
      ∃ x, Announces a srcIp x ∧ sent = (ArpPacket.announcement a.mac x).bytes := by
  cases srcIp with
  | none =>
    rw [sendGratiousArp_eq, List.mem_map]
    exact exists_congr fun x => and_congr_right fun _ => eq_comm
  | some srcIp =>
    show sent ∈ [(createReplyTo none (some srcIp) a.mac srcIp outputFrame).read 0 arpFrameSize] ↔ _
    rw [createReplyTo_read, List.mem_singleton]
    constructor
    · exact fun same => ⟨srcIp, rfl, same⟩
    · rintro ⟨x, rfl, same⟩
      exact same

/-! ### Records -/

/-- The record of an address gets a hardware address and becomes young; others stay. -/
def refreshLine (x : Ip) (mac : Mac) (line : ArpTableLine) : ArpTableLine :=
  if line.ip = x then ⟨x, mac, 0⟩ else line

namespace ArpTable

variable {config : ArpConfig} {table : ArpTable} {x : Ip} {mac : Mac} {i : Nat}

/-- Refreshing a record, in the list of all records. -/
theorem WellFormed.lines_refreshed (wellFormed : WellFormed config table)
    (found : table.find x = some i) :
    (table.refreshed i mac).lines = table.lines.map (refreshLine x mac) := by
  unfold lines
  rw [List.map_map]
  refine List.map_congr_left fun j member => ?_
  have inside : j < table.recordCounter := List.mem_range.mp member
  show Function.update table.line i _ j = refreshLine x mac (table.line j)
  by_cases here : j = i
  · have same : (table.line i).ip = x := Slots.slot_of_find found
    rw [here, Function.update_self, refreshLine, if_pos same, ← same]
  · have other : (table.line j).ip ≠ x := fun same => by
      have again := wellFormed.distinct.find_iff.mpr ⟨inside, same⟩
      exact here (Option.some.inj (again.symm.trans found))
    rw [Function.update_of_ne here, refreshLine, if_neg other]

/-- There is nothing to refresh. -/
def Current (table : ArpTable) (x : Ip) (mac : Mac) : Prop :=
  ∀ line ∈ table.lines, line.ip = x → line.mac = mac ∧ line.timeAfterUpdate = 0

theorem lines_refreshLine_iff :
    table.lines = table.lines.map (refreshLine x mac) ↔ table.Current x mac := by
  have unchanged : table.lines = table.lines.map (refreshLine x mac) ↔
      ∀ line ∈ table.lines, line = refreshLine x mac line := by
    conv_lhs => lhs; rw [← List.map_id table.lines]
    exact List.map_inj_left
  rw [unchanged]
  refine forall₂_congr fun line _ => ?_
  unfold refreshLine
  constructor
  · intro same here
    rw [if_pos here] at same
    rw [same]
    exact ⟨rfl, rfl⟩
  · intro current
    split
    case isTrue here =>
      obtain ⟨ip, lineMac, time⟩ := line
      obtain ⟨rfl, rfl⟩ := current here
      cases here
      rfl
    case isFalse => rfl

end ArpTable

/-! ### Delivery -/

/-- The frame, given to the controller by the router, makes it resolve the address; the record of the
address is as young as can be, and the other records and the rest of the controller stay. -/
def Refreshes (config : ArpConfig) (b : ArpController) (frame : Buffer) (frameSize : Nat)
    (malloc : Option Buffer) (x : Ip) (mac : Mac) : Prop :=
  ∃ b' queued, parseFrame config b frame frameSize false malloc = .ok (b', queued) ∧
    b'.arpTable.getMac config x = .ok (some mac) ∧
    b'.arpTable.lines = b.arpTable.lines.map (refreshLine x mac) ∧
    b'.mac = b.mac ∧ b'.ipTableForReply = b.ipTableForReply

section Delivery

variable {config : ArpConfig} {b : ArpController} {frame : Buffer} {frameSize : Nat} {x : Ip}
  {mac : Mac}

/-- **What becomes of an announcement.** -/
theorem refreshes_iff (wellFormed : ArpTable.WellFormed config b.arpTable) {i : Nat}
    (found : b.arpTable.find x = some i) (malloc : Option Buffer)
    (carries : Carries frame frameSize (ArpPacket.announcement mac x).bytes) :
    Refreshes config b frame frameSize malloc x mac ↔
      x ∈ registered b ∨ b.arpTable.Current x mac := by
  by_cases mine : x ∈ registered b
  · refine iff_of_true ⟨{ b with arpTable := b.arpTable.refreshed i mac }, [], ?_, ?_,
      wellFormed.lines_refreshed found, rfl, rfl⟩ (.inl mine)
    · rw [parseFrame_reply config malloc carries rfl (isIpInTableForReply_iff.mpr mine)]
      show (b.arpTable.learn config x mac).map _ = _
      rw [wellFormed.learn_known found]
      rfl
    · rw [wellFormed.refreshed.getMac_eq, (ArpTable.resolve_refreshed mac found).1]
  · have other : isIpInTableForReply b x = false :=
      Bool.eq_false_iff.mpr fun here => mine (isIpInTableForReply_iff.mp here)
    have dropped := parseFrame_other config malloc carries other
    rw [or_iff_right mine, ← ArpTable.lines_refreshLine_iff]
    constructor
    · rintro ⟨b', queued, parsed, _, lines, _⟩
      rw [dropped] at parsed
      obtain ⟨rfl, _⟩ := Prod.mk.inj (Except.ok.inj parsed)
      exact lines
    · intro lines
      refine ⟨b, [], dropped, ?_, lines, rfl, rfl⟩
      have current := ArpTable.lines_refreshLine_iff.mp lines
      have member : b.arpTable.line i ∈ b.arpTable.lines :=
        List.mem_map_of_mem (List.mem_range.mpr (ArpTable.find_lt found))
      rw [wellFormed.getMac_eq, ArpTable.resolve, found]
      show Except.ok (some (b.arpTable.line i).mac) = _
      rw [(current _ member (Slots.slot_of_find found)).1]

/-- **Whether an announcement refreshes a peer.** It is sent; and at a controller in any state it
reaches, with a record for the address, it refreshes the record exactly if the controller replies
for the address itself, or the record is refreshed already. -/
theorem announcement_refreshes_iff (positive : 0 < config.arpTableSize) {start : ArpController}
    (fresh : Fresh start) {events : List Event}
    (reached : (arp config).run (.ok start) events = .ok b)
    (known : ∃ old, b.arpTable.getMac config x = .ok (some old)) {a : ArpController}
    {srcIp : Option Ip} (announces : Announces a srcIp x) (outputFrame : Buffer) :
    (ArpPacket.announcement a.mac x).bytes ∈ sendGratiousArp a srcIp (some outputFrame) ∧
      ∀ frame frameSize malloc, Carries frame frameSize (ArpPacket.announcement a.mac x).bytes →
        (Refreshes config b frame frameSize malloc x a.mac ↔
          x ∈ registered b ∨ b.arpTable.Current x a.mac) := by
  have wellFormed := wellFormed_reached fresh positive reached
  obtain ⟨old, resolved⟩ := known
  rw [wellFormed.getMac_eq, Except.ok.injEq] at resolved
  obtain ⟨i, found, _⟩ := Option.map_eq_some_iff.mp resolved
  exact ⟨(mem_sendGratiousArp_iff outputFrame).mpr ⟨x, announces, rfl⟩,
    fun _ _ malloc carries => refreshes_iff wellFormed found malloc carries⟩

end Delivery

/-- The address of host 2. -/
def sampleIp : Ip := senderIp (sampleReply 2)

/-- The frame in which another controller announces it. -/
def sampleAnnouncement : Buffer :=
  Buffer.write (fun _ => 0) 0 (ArpPacket.announcement sampleController.mac sampleIp).bytes

theorem sampleAnnouncement_carries : Carries sampleAnnouncement 42
    (ArpPacket.announcement sampleController.mac sampleIp).bytes := by
  have carries := carries_write (ArpPacket.announcement sampleController.mac sampleIp).bytes
  rw [ArpPacket.length_bytes] at carries
  exact carries

theorem announcement_refreshes_iff_sample :
    (ArpPacket.announcement sampleController.mac sampleIp).bytes ∈
        sendGratiousArp sampleController (some sampleIp) (some fun _ => 0) ∧
      ∀ frame frameSize malloc,
        Carries frame frameSize (ArpPacket.announcement sampleController.mac sampleIp).bytes →
        (Refreshes sampleConfig sampleState frame frameSize malloc sampleIp sampleController.mac ↔
          sampleIp ∈ registered sampleState ∨
            sampleState.arpTable.Current sampleIp sampleController.mac) :=
  announcement_refreshes_iff (by decide) sampleController_fresh sampleState_reached
    ⟨senderMac (sampleReply 2), by decide +kernel⟩
    (show Announces sampleController (some sampleIp) sampleIp from rfl) fun _ => 0

/-- A controller that resolves the address to another host goes on doing so. -/
theorem announcement_ignored :
    (arp sampleConfig).run (.ok sampleController) [.parseFrame (sampleReply 2) 42 true none] =
      .ok sampleState ∧
    sampleState.arpTable.getMac sampleConfig sampleIp = .ok (some (senderMac (sampleReply 2))) ∧
    Announces sampleController (some sampleIp) sampleIp ∧
    Carries sampleAnnouncement 42
      (ArpPacket.announcement sampleController.mac sampleIp).bytes ∧
    parseFrame sampleConfig sampleState sampleAnnouncement 42 false none = .ok (sampleState, []) ∧
    ¬ Refreshes sampleConfig sampleState sampleAnnouncement 42 none sampleIp
      sampleController.mac := by
  have dropped := parseFrame_other sampleConfig none sampleAnnouncement_carries
    (show isIpInTableForReply sampleState sampleIp = false from rfl)
  have known : sampleState.arpTable.getMac sampleConfig sampleIp =
      .ok (some (senderMac (sampleReply 2))) := by decide +kernel
  refine ⟨sampleState_reached, known, rfl, sampleAnnouncement_carries, dropped, ?_⟩
  rintro ⟨b', queued, parsed, resolves, _⟩
  rw [dropped] at parsed
  obtain ⟨rfl, _⟩ := Prod.mk.inj (Except.ok.inj parsed)
  rw [known] at resolves
  exact absurd resolves (by decide +kernel)

end Jblib.Ethutilities.ArpController
