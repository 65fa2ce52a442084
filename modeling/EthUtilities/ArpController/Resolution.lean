/-
**Address resolution between two controllers.**

One controller asks for the hardware address of an IP address of the other one, and gets it. The
frames travel as bytes: what arrives is a buffer that starts with what was queued, of at least that
size.

* `records`, `others` — the table as a list of bindings, and the bindings of all addresses but one.
* `learn_iff` — when a sender is learned without disturbing the other bindings: in a table that it
  does not fill, exactly if it is known or the index of the new line fits an `int16_t`.
* `parseFrame_request`, `parseFrame_reply`, `parseFrame_other` — a controller that gets a packet for
  one of its addresses, or for another one.
* **`resolves_iff`** — the exchange, from any reachable tables that it does not fill, exactly if
  both senders can be learned.
-/

import EthUtilities.ArpController.TableRuns
import EthUtilities.ArpController.Packets

namespace Jblib.Ethutilities.ArpController

open Library EthernetUtilities

namespace ArpTable

/-! ### Bindings -/

/-- The bindings of the table, in its order. -/
def records (table : ArpTable) : List (Ip × Mac) :=
  (List.range table.recordCounter).map fun i => ((table.line i).ip, (table.line i).mac)

/-- The bindings of the other addresses. -/
def others (table : ArpTable) (ip : Ip) : List (Ip × Mac) :=
  table.records.filter fun record => record.1 ≠ ip

variable {config : ArpConfig} {table : ArpTable} {ip : Ip} {i : Nat}

theorem others_eq : table.others ip = ((List.range table.recordCounter).filter fun i =>
    table.ips i ≠ ip).map fun i => ((table.line i).ip, (table.line i).mac) := by
  rw [others, records, List.filter_map]
  rfl

theorem others_refreshed (mac : Mac) (found : table.find ip = some i) :
    (table.refreshed i mac).others ip = table.others ip := by
  rw [others_eq, others_eq, ips_refreshed]
  refine List.map_congr_left fun j kept => ?_
  have different : table.ips j ≠ ip := of_decide_eq_true (List.mem_filter.mp kept).2
  have apart : j ≠ i := by
    rintro rfl
    exact different (Slots.slot_of_find found)
  simp [refreshed, Function.update_of_ne apart]

theorem others_recorded (mac : Mac) (more : table.recordCounter + 1 ≠ config.arpTableSize) :
    (table.recorded config ip mac).others ip = table.others ip := by
  have counter : (table.recorded config ip mac).recordCounter = table.recordCounter + 1 :=
    if_neg more
  have before : ∀ {j}, j ∈ List.range table.recordCounter → j ≠ table.recordCounter :=
    fun inside => Nat.ne_of_lt (List.mem_range.mp inside)
  have last : [table.recordCounter].filter (fun j =>
      (table.recorded config ip mac).ips j ≠ ip) = [] := by
    simp [ips_recorded]
  have kept : ((List.range table.recordCounter).filter fun j =>
      (table.recorded config ip mac).ips j ≠ ip) =
      (List.range table.recordCounter).filter fun j => table.ips j ≠ ip := by
    refine List.filter_congr fun j inside => ?_
    rw [ips_recorded, Function.update_of_ne (before inside)]
  rw [others_eq, others_eq, counter, List.range_succ, List.filter_append, last, kept,
    List.append_nil]
  refine List.map_congr_left fun j inside => ?_
  simp [recorded, Function.update_of_ne (before (List.mem_filter.mp inside).1)]

/-- A sender is learned, and nothing else changes. -/
def Learns (config : ArpConfig) (table : ArpTable) (ip : Ip) (mac : Mac) (table' : ArpTable) :
    Prop :=
  table.learn config ip mac = .ok table' ∧ table'.getMac config ip = .ok (some mac) ∧
    table'.others ip = table.others ip

/-- An address that is in the table, or can go into the next line. -/
def CanLearn (config : ArpConfig) (table : ArpTable) (ip : Ip) : Prop :=
  (∃ mac, table.getMac config ip = .ok (some mac)) ∨ table.recordCounter < 32768

/-- **When a sender is learned.** -/
theorem WellFormed.learn_iff (wellFormed : WellFormed config table) (mac : Mac)
    (room : table.recordCounter + 1 < config.arpTableSize) :
    (∃ table', Learns config table ip mac table') ↔ CanLearn config table ip := by
  cases found : table.find ip with
  | some i =>
    refine iff_of_true ⟨table.refreshed i mac, wellFormed.learn_known found, ?_,
      others_refreshed mac found⟩ (.inl ⟨(table.line i).mac, ?_⟩)
    · rw [wellFormed.refreshed.getMac_eq, (resolve_refreshed mac found).1]
    · rw [wellFormed.getMac_eq, resolve, found]
      rfl
  | none =>
    have unknown : ¬ ∃ mac, table.getMac config ip = .ok (some mac) := by
      rintro ⟨mac, known⟩
      rw [wellFormed.getMac_eq, resolve, found] at known
      cases known
    rw [CanLearn, or_iff_right unknown]
    constructor
    · rintro ⟨table', learned, _, _⟩
      by_contra large
      rw [wellFormed.learn_outside found (by have := wellFormed.small; omega)] at learned
      cases learned
    · intro small
      have more : table.recordCounter + 1 ≠ config.arpTableSize := Nat.ne_of_lt room
      refine ⟨table.recorded config ip mac, wellFormed.learn_new found small, ?_,
        others_recorded mac more⟩
      rw [(wellFormed.recorded found small).getMac_eq, (resolve_recorded mac found more).1]

end ArpTable

/-! ### Delivery -/

/-- What arrives is the frame that was sent, with whatever is behind it. -/
structure Carries (frame : Buffer) (frameSize : Nat) (sent : List UInt8) : Prop where
  bytes : frame.read 0 sent.length = sent
  size : sent.length ≤ frameSize

section Delivery

variable {c : ArpController} {p : ArpPacket} {frame : Buffer} {frameSize : Nat}

theorem Carries.holds (carries : Carries frame frameSize p.bytes) : p.In frame :=
  ArpPacket.in_of_holds (Buffer.holds_iff_read.mpr carries.bytes)

/-- Every frame can be delivered. -/
theorem carries_write (sent : List UInt8) :
    Carries (Buffer.write (fun _ => 0) 0 sent) sent.length sent :=
  ⟨Buffer.read_write_self, Nat.le_refl _⟩

theorem allowArp_eq (carries : Carries frame frameSize p.bytes) :
    allowArp c frame frameSize false = isIpInTableForReply c p.targetIp := by
  have size := carries.size
  have positive : frameSize ≠ 0 := by
    rintro rfl
    rw [ArpPacket.length_bytes] at size
    exact absurd size (by decide)
  simp [allowArp, positive, carries.holds.frameType, carries.holds.targetIp]

variable (config : ArpConfig) (malloc : Option Buffer)

/-- A request that is not dropped is answered to its sender, which is learned. -/
theorem parseFrame_of_request {parameter : Bool} (shown : p.In frame) (asks : p.opcode = 0x01)
    (allowed : allowArp c frame frameSize parameter = true) (outputFrame : Buffer) :
    parseFrame config c frame frameSize parameter (some outputFrame) =
      (c.arpTable.learn config p.senderIp p.senderMac).map fun arpTable =>
        ({ c with arpTable }, [(p.reply c.mac).bytes]) := by
  have noReply : isReply frame = false := by
    simp [isReply, shown.opcodeLow, asks]
  have request : isRequest frame = true := by
    simp [isRequest, shown.opcodeHigh, shown.opcodeLow, asks]
  rw [parseFrame, allowed, noReply, request, senderIp, senderMac, shown.senderIp,
    shown.senderMac, ← createReply_read shown outputFrame]
  cases c.arpTable.learn config p.senderIp p.senderMac <;> rfl

/-- A packet for an address of another party is dropped. -/
theorem parseFrame_other (carries : Carries frame frameSize p.bytes)
    (other : isIpInTableForReply c p.targetIp = false) :
    parseFrame config c frame frameSize false malloc = .ok (c, []) := by
  rw [parseFrame, allowArp_eq carries, other]
  rfl

/-- A request is answered to its sender, which is learned. -/
theorem parseFrame_request (carries : Carries frame frameSize p.bytes) (asks : p.opcode = 0x01)
    (mine : isIpInTableForReply c p.targetIp = true) (outputFrame : Buffer) :
    parseFrame config c frame frameSize false (some outputFrame) =
      (c.arpTable.learn config p.senderIp p.senderMac).map fun arpTable =>
        ({ c with arpTable }, [(p.reply c.mac).bytes]) :=
  parseFrame_of_request config carries.holds asks ((allowArp_eq carries).trans mine) outputFrame

/-- The sender of a reply is learned. -/
theorem parseFrame_reply (carries : Carries frame frameSize p.bytes) (answers : p.opcode = 0x02)
    (mine : isIpInTableForReply c p.targetIp = true) :
    parseFrame config c frame frameSize false malloc =
      (c.arpTable.learn config p.senderIp p.senderMac).map fun arpTable =>
        ({ c with arpTable }, []) := by
  have here := carries.holds
  have reply : isReply frame = true := by
    simp [isReply, here.opcodeHigh, here.opcodeLow, answers]
  rw [parseFrame, allowArp_eq carries, mine, reply, senderIp, senderMac, here.senderIp,
    here.senderMac]
  cases c.arpTable.learn config p.senderIp p.senderMac <;> rfl

end Delivery

/-! ### The exchange -/

/-- The controller takes the frame, resolves `ip` to `mac` then, and has the other bindings it had,
in the same order. -/
def Resolved (config : ArpConfig) (c : ArpController) (frame : Buffer) (frameSize : Nat)
    (malloc : Option Buffer) (ip : Ip) (mac : Mac) (queued : List (List UInt8)) : Prop :=
  ∃ c', parseFrame config c frame frameSize false malloc = .ok (c', queued) ∧
    c'.arpTable.getMac config ip = .ok (some mac) ∧
    c'.arpTable.others ip = c.arpTable.others ip

/-- **Resolution works end to end.** The request that `a` sends for `x` from `sA` makes `b` resolve
`sA` to `a` and answer to it with one frame; the answer makes `a` resolve `x` to `b` and queue
nothing; and all parties without `x` drop the request. -/
def Resolves (configA configB : ArpConfig) (a b : ArpController) (sA x : Ip)
    (mallocRequest mallocReply : Buffer) (mallocA : Option Buffer) : Prop :=
  ∃ request, sendArpRequest a x (some sA) (some mallocRequest) = [request] ∧
    request.take 6 = List.replicate 6 0xff ∧
    ∀ frame frameSize, Carries frame frameSize request →
      (∃ reply, Resolved configB b frame frameSize (some mallocReply) sA a.mac [reply] ∧
        reply.length = 42 ∧ reply.take 6 = a.mac.val ∧
        ∀ frame frameSize, Carries frame frameSize reply →
          Resolved configA a frame frameSize mallocA x b.mac []) ∧
      ∀ config third malloc, isIpInTableForReply third x = false →
        parseFrame config third frame frameSize false malloc = .ok (third, [])

section Exchange

variable {config : ArpConfig} {c : ArpController} {frame : Buffer} {frameSize : Nat}
  {malloc : Option Buffer} {ip : Ip} {mac : Mac} {queued queued' : List (List UInt8)}

/-- A controller that learns the sender of a frame. -/
theorem resolved_iff (wellFormed : ArpTable.WellFormed config c.arpTable)
    (room : c.arpTable.recordCounter + 1 < config.arpTableSize)
    (parsed : parseFrame config c frame frameSize false malloc =
      (c.arpTable.learn config ip mac).map fun arpTable => ({ c with arpTable }, queued)) :
    Resolved config c frame frameSize malloc ip mac queued' ↔
      queued = queued' ∧ ArpTable.CanLearn config c.arpTable ip := by
  rw [← wellFormed.learn_iff mac room]
  constructor
  · rintro ⟨c', parsed', resolves, same⟩
    rw [parsed] at parsed'
    cases learned : c.arpTable.learn config ip mac with
    | error fault =>
      rw [learned] at parsed'
      cases parsed'
    | ok table =>
      rw [learned] at parsed'
      cases parsed'
      exact ⟨rfl, table, learned, resolves, same⟩
  · rintro ⟨rfl, table, learned, resolves, same⟩
    rw [learned] at parsed
    exact ⟨_, parsed, resolves, same⟩

variable {configA configB : ArpConfig} {a b : ArpController} {sA x : Ip}

theorem resolves_iff_of_wellFormed (wellFormedA : ArpTable.WellFormed configA a.arpTable)
    (wellFormedB : ArpTable.WellFormed configB b.arpTable)
    (roomA : a.arpTable.recordCounter + 1 < configA.arpTableSize)
    (roomB : b.arpTable.recordCounter + 1 < configB.arpTableSize)
    (registeredA : isIpInTableForReply a sA = true) (registeredB : isIpInTableForReply b x = true)
    (mallocRequest mallocReply : Buffer) (mallocA : Option Buffer) :
    Resolves configA configB a b sA x mallocRequest mallocReply mallocA ↔
      ArpTable.CanLearn configB b.arpTable sA ∧ ArpTable.CanLearn configA a.arpTable x := by
  let request := ArpPacket.request x a.mac sA
  let reply := request.reply b.mac
  have sent : sendArpRequest a x (some sA) (some mallocRequest) = [request.bytes] := by
    rw [sendArpRequest, createRequest_read]
  have atB : ∀ {frame frameSize queued}, Carries frame frameSize request.bytes →
      (Resolved configB b frame frameSize (some mallocReply) sA a.mac queued ↔
        [reply.bytes] = queued ∧ ArpTable.CanLearn configB b.arpTable sA) := fun carries =>
    resolved_iff wellFormedB roomB (parseFrame_request configB carries rfl registeredB mallocReply)
  have atA : ∀ {frame frameSize}, Carries frame frameSize reply.bytes →
      (Resolved configA a frame frameSize mallocA x b.mac [] ↔
        ArpTable.CanLearn configA a.arpTable x) := fun carries =>
    (resolved_iff wellFormedA roomA
      (parseFrame_reply configA mallocA carries rfl registeredA)).trans (and_iff_right rfl)
  constructor
  · rintro ⟨queued, sent', _, delivered⟩
    cases List.cons.inj (sent.symm.trans sent') |>.1
    obtain ⟨⟨queued, resolvedB, _, _, delivered'⟩, _⟩ := delivered _ _ (carries_write _)
    obtain ⟨same, learnsB⟩ := (atB (carries_write _)).mp resolvedB
    cases List.cons.inj same |>.1
    exact ⟨learnsB, (atA (carries_write _)).mp (delivered' _ _ (carries_write _))⟩
  · rintro ⟨learnsB, learnsA⟩
    refine ⟨request.bytes, sent, request.take_bytes, fun frame frameSize carries => ⟨?_, ?_⟩⟩
    · exact ⟨reply.bytes, (atB carries).mpr ⟨rfl, learnsB⟩, reply.length_bytes, reply.take_bytes,
        fun frame' frameSize' carries' => (atA carries').mpr learnsA⟩
    · exact fun config third malloc other => parseFrame_other config malloc carries other

end Exchange

/-- **Resolution between two controllers works end to end, exactly if each of them knows the other
one already or its new record does not have index 32768.** -/
theorem resolves_iff {configA configB : ArpConfig} {a₀ a b₀ b : ArpController}
    (freshA : Fresh a₀) {eventsA : List Event}
    (reachedA : (arp configA).run (.ok a₀) eventsA = .ok a)
    (roomA : a.arpTable.recordCounter + 1 < configA.arpTableSize)
    (freshB : Fresh b₀) {eventsB : List Event}
    (reachedB : (arp configB).run (.ok b₀) eventsB = .ok b)
    (roomB : b.arpTable.recordCounter + 1 < configB.arpTableSize) {sA x : Ip}
    (registeredA : isIpInTableForReply a sA = true) (registeredB : isIpInTableForReply b x = true)
    (mallocRequest mallocReply : Buffer) (mallocA : Option Buffer) :
    Resolves configA configB a b sA x mallocRequest mallocReply mallocA ↔
      ((∃ mac, b.arpTable.getMac configB sA = .ok (some mac)) ∨ b.arpTable.recordCounter < 32768) ∧
      ((∃ mac, a.arpTable.getMac configA x = .ok (some mac)) ∨ a.arpTable.recordCounter < 32768) :=
  resolves_iff_of_wellFormed (wellFormed_reached freshA (Nat.zero_lt_of_lt roomA) reachedA)
    (wellFormed_reached freshB (Nat.zero_lt_of_lt roomB) reachedB) roomA roomB registeredA
    registeredB mallocRequest mallocReply mallocA

/-! ### Two hosts -/

/-- A controller with one address, that has not received anything yet. -/
def host (mac : Mac) (ip : Ip) : ArpController where
  mac := mac
  ipTableForReply := ⟨fun _ => ip, fun _ => Bytes.zero 4, 1⟩
  arpTable := ⟨0, fun _ => ⟨Bytes.zero 4, Bytes.zero 6, 0⟩⟩

def askingHost : ArpController := host ⟨[2, 0, 0, 0, 2, 1], rfl⟩ ⟨[192, 168, 5, 1], rfl⟩

def askedHost : ArpController := host ⟨[2, 0, 0, 0, 2, 2], rfl⟩ ⟨[192, 168, 5, 2], rfl⟩

theorem askingHost_fresh : Fresh askingHost := rfl

theorem askedHost_fresh : Fresh askedHost := rfl

theorem resolves_sample : Resolves sampleConfig sampleConfig askingHost askedHost
    (askingHost.ipTableForReply.ip 0) (askedHost.ipTableForReply.ip 0) (fun _ => 0) (fun _ => 0)
    none := by
  have asking : (arp sampleConfig).run (.ok askingHost) [] = .ok askingHost := rfl
  have asked : (arp sampleConfig).run (.ok askedHost) [] = .ok askedHost := rfl
  refine (resolves_iff askingHost_fresh asking (by decide) askedHost_fresh asked (by decide) ?_ ?_
    _ _ _).mpr ⟨.inr (by decide), .inr (by decide)⟩
  · decide
  · decide

/-! ### A table of 32768 records -/

/-- A table with more lines than an `int16_t` has indices. -/
def largeConfig : ArpConfig := ⟨40000, 1, 60, 120⟩

/-- The address of one of many hosts. -/
def nthIp (k : Nat) : Ip := ⟨[10, 0, UInt8.ofNat (k / 256), UInt8.ofNat k], rfl⟩

theorem nthIp_injective {k l : Nat} (small : k < 65536) (small' : l < 65536)
    (same : nthIp k = nthIp l) : k = l := by
  have bytes := congrArg Subtype.val same
  simp only [nthIp, List.cons.injEq, and_true, true_and] at bytes
  have high := congrArg UInt8.toNat bytes.1
  have low := congrArg UInt8.toNat bytes.2
  rw [UInt8.toNat_ofNat', UInt8.toNat_ofNat'] at high low
  omega

/-- What one of many hosts replies to the asked one. -/
def nthReply (k : Nat) : ArpPacket :=
  (ArpPacket.request (nthIp k) askedHost.mac (askedHost.ipTableForReply.ip 0)).reply askingHost.mac

def nthEvent (k : Nat) : Event :=
  .parseFrame (Buffer.write (fun _ => 0) 0 (nthReply k).bytes) (nthReply k).bytes.length false none

/-- As many hosts as there are indices have replied. -/
theorem run_nthEvents {n : Nat} (fits : n ≤ 32768) :
    ∃ c, (arp largeConfig).run (.ok askedHost) ((List.range n).map nthEvent) = .ok c ∧
      c.ipTableForReply = askedHost.ipTableForReply ∧ c.arpTable.recordCounter = n ∧
      ∀ i < n, c.arpTable.ips i = nthIp i := by
  induction n with
  | zero => exact ⟨askedHost, rfl, rfl, rfl, fun i inside => absurd inside (Nat.not_lt_zero i)⟩
  | succ n ih =>
    obtain ⟨c, ran, addresses, counter, ips⟩ := ih (Nat.le_of_succ_le fits)
    have large : largeConfig.arpTableSize = 40000 := rfl
    have wellFormed := wellFormed_reached askedHost_fresh (by omega) ran
    have unknown : c.arpTable.find (nthIp n) = none := by
      refine Slots.find_eq_none_iff.mpr fun i inside same => ?_
      rw [counter] at inside
      have twice := nthIp_injective (by omega) (by omega) ((ips i inside).symm.trans same)
      omega
    have mine : isIpInTableForReply c (nthReply n).targetIp = true := by
      rw [isIpInTableForReply, addresses]
      rfl
    have parsed := parseFrame_reply largeConfig none (carries_write (nthReply n).bytes) rfl mine
    rw [show (nthReply n).senderIp = nthIp n from rfl,
      wellFormed.learn_new unknown (by omega)] at parsed
    have stepped : (arp largeConfig).next (.ok c) (nthEvent n) = .ok { c with
        arpTable := c.arpTable.recorded largeConfig (nthIp n) (nthReply n).senderMac } :=
      congrArg (Except.map Prod.fst) parsed
    refine ⟨{ c with arpTable := c.arpTable.recorded largeConfig (nthIp n) (nthReply n).senderMac },
      ?_, addresses, ?_, fun i inside => ?_⟩
    · rw [List.range_succ, List.map_append, Machine.run_append, ran]
      exact stepped
    · show (if c.arpTable.recordCounter + 1 = largeConfig.arpTableSize then 0
        else c.arpTable.recordCounter + 1) = n + 1
      rw [if_neg (by omega), counter]
    · rw [ArpTable.ips_recorded, counter]
      by_cases last : i = n
      · rw [last, Function.update_self]
      · rw [Function.update_of_ne last]
        exact ips i (by omega)

/-- A host that 32768 others have replied to does not resolve one more. -/
theorem not_resolves : ∃ (events : List Event) (b : ArpController),
    Fresh askingHost ∧ (arp largeConfig).run (.ok askingHost) [] = .ok askingHost ∧
    askingHost.arpTable.recordCounter + 1 < largeConfig.arpTableSize ∧
    Fresh askedHost ∧ (arp largeConfig).run (.ok askedHost) events = .ok b ∧
    b.arpTable.recordCounter + 1 < largeConfig.arpTableSize ∧
    isIpInTableForReply askingHost (askingHost.ipTableForReply.ip 0) = true ∧
    isIpInTableForReply b (askedHost.ipTableForReply.ip 0) = true ∧
    ¬ Resolves largeConfig largeConfig askingHost b (askingHost.ipTableForReply.ip 0)
      (askedHost.ipTableForReply.ip 0) (fun _ => 0) (fun _ => 0) none := by
  obtain ⟨b, ran, addresses, counter, ips⟩ := run_nthEvents (Nat.le_refl 32768)
  have large : largeConfig.arpTableSize = 40000 := rfl
  have asking : (arp largeConfig).run (.ok askingHost) [] = .ok askingHost := rfl
  have roomA : askingHost.arpTable.recordCounter + 1 < largeConfig.arpTableSize := by decide
  have roomB : b.arpTable.recordCounter + 1 < largeConfig.arpTableSize := by omega
  have registeredA : isIpInTableForReply askingHost (askingHost.ipTableForReply.ip 0) = true := by
    decide
  have registeredB : isIpInTableForReply b (askedHost.ipTableForReply.ip 0) = true := by
    rw [isIpInTableForReply, addresses]
    rfl
  have wellFormedA := wellFormed_reached askingHost_fresh (Nat.zero_lt_of_lt roomA) asking
  have wellFormedB := wellFormed_reached askedHost_fresh (Nat.zero_lt_of_lt roomB) ran
  have unknown : b.arpTable.find (askingHost.ipTableForReply.ip 0) = none := by
    refine Slots.find_eq_none_iff.mpr fun i inside same => ?_
    rw [ips i (counter ▸ inside)] at same
    have first : some (10 : UInt8) = some 192 := congrArg (fun ip : Ip => ip.val.head?) same
    exact absurd first (by decide)
  refine ⟨_, b, askingHost_fresh, asking, roomA, askedHost_fresh, ran, roomB, registeredA,
    registeredB, fun resolves => ?_⟩
  rcases ((resolves_iff_of_wellFormed wellFormedA wellFormedB roomA roomB registeredA registeredB
    _ _ _).mp resolves).1 with ⟨mac, known⟩ | small
  · rw [wellFormedB.getMac_eq, ArpTable.resolve, unknown] at known
    cases known
  · omega

end Jblib.Ethutilities.ArpController
