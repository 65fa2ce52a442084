/-
**The requests of a tick.**

* `requestsFor` — the requests for an address: one from each of the controller's addresses that the
  address shares a network with, in their order. `sendArpRequest_eq`: the code's loop.
* `refreshes` — the frames for one record. `voidCallback_requests`: a tick with what it queues.
* **`tick_requests`** — a tick queues the requests for the addresses of exactly those records it ages
  and finds older than `ARP_CONTROLLER_REFRESH_RECORD_TIME`, deleted ones included, and nothing else.
-/

import EthUtilities.ArpController.Ageing
import EthUtilities.ArpController.Resolution
import EthUtilities.ArpController.ReplyAddresses

namespace Jblib.Ethutilities.ArpController

open Library EthernetUtilities

/-! ### One address -/

section Requests

variable {c : ArpController} {dstIp : Ip}

/-- The requests for an address. -/
def requestsFor (c : ArpController) (dstIp : Ip) : List ArpPacket :=
  ((List.range c.ipTableForReply.ipCount).filter fun i =>
    compareIp dstIp (c.ipTableForReply.ip i) (c.ipTableForReply.mask i)).map fun i =>
      ArpPacket.request dstIp c.mac (c.ipTableForReply.ip i)

/-- A request asks for the address, from an address of the controller in the same network. -/
theorem mem_requestsFor {p : ArpPacket} : p ∈ requestsFor c dstIp ↔
    ∃ i < c.ipTableForReply.ipCount,
      compareIp dstIp (c.ipTableForReply.ip i) (c.ipTableForReply.mask i) = true ∧
        ArpPacket.request dstIp c.mac (c.ipTableForReply.ip i) = p := by
  simp [requestsFor, and_assoc]

theorem sendArpRequestLoop_eq (fuel i : Nat) (outputFrame : Buffer) :
    sendArpRequestLoop c dstIp fuel i outputFrame =
      (((List.range' i fuel).filter fun j =>
        compareIp dstIp (c.ipTableForReply.ip j) (c.ipTableForReply.mask j)).map fun j =>
          (ArpPacket.request dstIp c.mac (c.ipTableForReply.ip j)).bytes) := by
  induction fuel generalizing i outputFrame with
  | zero => rfl
  | succ fuel ih =>
    rw [sendArpRequestLoop, List.range'_succ]
    by_cases near : compareIp dstIp (c.ipTableForReply.ip i) (c.ipTableForReply.mask i) = true
    · simp only [if_pos near, List.filter_cons, List.map_cons, createRequest_read, ih]
    · simp only [if_neg near, List.filter_cons, ih]

/-- **`sendArpRequest`** sends the requests, whatever was in its buffer. -/
theorem sendArpRequest_eq (outputFrame : Buffer) :
    sendArpRequest c dstIp none (some outputFrame) =
      (requestsFor c dstIp).map ArpPacket.bytes := by
  rw [sendArpRequest, sendArpRequestLoop_eq, requestsFor, List.map_map, List.range_eq_range']
  rfl

end Requests

/-! ### The tick -/

/-- The frames that a tick queues for a record it has aged. -/
def refreshes (config : ArpConfig) (c : ArpController) (line : ArpTableLine) :
    List (List UInt8) :=
  if line.timeAfterUpdate.toNat > config.refreshRecordTime then
    (requestsFor c line.ip).map ArpPacket.bytes
  else []

section Tick

variable {config : ArpConfig} {c : ArpController} {line : ArpTableLine}

/-- What is queued for a record is the same at every index, if there is memory for it. -/
theorem refresh_eq (outputFrame : Buffer) :
    refresh config c line (some outputFrame) = refreshes config c line := by
  rw [refresh, sendArpRequest_eq]
  rfl

theorem queuedFrom_eq (malloc : Nat → Buffer) (i : Nat) (aged : List ArpTableLine) :
    queuedFrom config (fun j => some (malloc j)) c i aged = aged.flatMap (refreshes config c) := by
  calc (aged.zipIdx i).flatMap (fun turn => refresh config c turn.1 (some (malloc turn.2)))
      = (aged.zipIdx i).flatMap (fun turn => refreshes config c turn.1) := by
        simp only [refresh_eq]
    _ = ((aged.zipIdx i).map Prod.fst).flatMap (refreshes config c) :=
        (List.flatMap_map _ _ _).symm
    _ = aged.flatMap (refreshes config c) := by rw [List.zipIdx_map_fst]

/-- **A tick**, with what it queues. -/
theorem voidCallback_requests (wellFormed : ArpTable.WellFormed config c.arpTable)
    (malloc : Nat → Buffer) :
    ∃ table, voidCallback config c (fun j => some (malloc j)) =
        .ok ({ c with arpTable := table },
          (agedLines config c.arpTable).flatMap (refreshes config c)) ∧
      ArpTable.WellFormed config table ∧
      table.lines =
        Sweep.skipping ArpTableLine.aged (ArpTableLine.expired config) c.arpTable.lines := by
  rw [← queuedFrom_eq malloc 0]
  exact voidCallback_lines (fun j => some (malloc j)) wellFormed

end Tick

/-- **The frames of a tick**, from any reachable state: for every aged record that is older than
`ARP_CONTROLLER_REFRESH_RECORD_TIME` a request from every address in the record's network, in the
order of the records. Every record is aged or still there as it was. -/
theorem tick_requests {config : ArpConfig} (positive : 0 < config.arpTableSize)
    {c₀ c : ArpController} (fresh : Fresh c₀) {events : List Event}
    (reached : (arp config).run (.ok c₀) events = .ok c) (malloc : Nat → Buffer) :
    ∃ table, voidCallback config c (fun j => some (malloc j)) =
        .ok ({ c with arpTable := table },
          (agedLines config c.arpTable).flatMap (refreshes config c)) ∧
      ∀ line ∈ c.arpTable.lines, line.aged ∈ agedLines config c.arpTable ∨ line ∈ table.lines := by
  obtain ⟨table, ran, -, lines⟩ :=
    voidCallback_requests (wellFormed_reached fresh positive reached) malloc
  refine ⟨table, ran, fun line member => ?_⟩
  rw [lines]
  exact (Sweep.visited_or_skipped member).imp_left And.left

/-- Records are refreshed from their first tick on. -/
def refreshConfig : ArpConfig := ⟨4, 1, 0, 5⟩

/-- A host with an address has heard another one. -/
def acquainted : ArpController :=
  { askingHost with
    arpTable := askingHost.arpTable.recorded refreshConfig (senderIp (sampleReply 2))
      (senderMac (sampleReply 2)) }

theorem acquainted_reached : (arp refreshConfig).run (.ok askingHost)
    [.parseFrame (sampleReply 2) 42 true none] = .ok acquainted := by
  have accepts : AcceptsArp askingHost (sampleReply 2) 42 true :=
    ⟨by decide +kernel, .inl (by decide +kernel)⟩
  obtain ⟨queued, parsed⟩ := parseFrame_learns none refreshConfig accepts
  rw [(wellFormed_fresh askingHost_fresh (by decide)).learn_new rfl (by decide)] at parsed
  exact congrArg (Except.map Prod.fst) parsed

theorem tick_requests_sample : ∃ table,
    voidCallback refreshConfig acquainted (fun _ => some fun _ => 0) =
      .ok ({ acquainted with arpTable := table },
        [(ArpPacket.request (senderIp (sampleReply 2)) askingHost.mac
          (askingHost.ipTableForReply.ip 0)).bytes]) := by
  obtain ⟨table, ran, -⟩ := tick_requests (by decide) askingHost_fresh acquainted_reached
    fun _ => fun _ => 0
  have one : (agedLines refreshConfig acquainted.arpTable).flatMap
      (refreshes refreshConfig acquainted) =
      [(ArpPacket.request (senderIp (sampleReply 2)) askingHost.mac
        (askingHost.ipTableForReply.ip 0)).bytes] := by decide +kernel
  rw [one] at ran
  exact ⟨table, ran⟩

end Jblib.Ethutilities.ArpController
