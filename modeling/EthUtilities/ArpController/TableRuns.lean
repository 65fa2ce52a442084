/-
**The ARP table over whole runs.**

* `AcceptsArp` — the frames whose sender the table learns. `parseFrame_learns`, `parseFrame_ignores`:
  what a frame does.
* `step_wellFormed`, `wellFormed_reached` — the table stays well-formed.
* **`arp_table_invariant`** — for tables of at most 32767 lines, after any frames and ticks: no line
  outside the array was used, and the two lookups agree.
* **`keeps_learned_iff`** — a sender is learned and nothing else forgotten, exactly if the sender
  was known or the record is neither the last one of the table nor the one at index 32768.
-/

import EthUtilities.ArpController.Ticks

namespace Jblib.Ethutilities.ArpController

open Library EthernetUtilities

/-! ### One event -/

/-- `parseFrame` takes the frame's sender into account: an ARP reply or request it does not drop. -/
def AcceptsArp (c : ArpController) (frame : Buffer) (frameSize : Nat) (parameter : Bool) : Prop :=
  allowArp c frame frameSize parameter = true ∧ (isReply frame = true ∨ isRequest frame = true)

section Events

variable {config : ArpConfig} {c : ArpController} {frame : Buffer} {frameSize : Nat}
  {parameter : Bool}

/-- An accepted frame records its sender. -/
theorem parseFrame_learns (malloc : Option Buffer) (config : ArpConfig)
    (accepts : AcceptsArp c frame frameSize parameter) : ∃ queued,
    parseFrame config c frame frameSize parameter malloc =
      (c.arpTable.learn config (senderIp frame) (senderMac frame)).map fun arpTable =>
        ({ c with arpTable }, queued) := by
  rcases accepts with ⟨allowed, kind⟩
  rw [parseFrame, if_pos allowed]
  by_cases reply : isReply frame = true
  · rw [if_pos reply]
    refine ⟨[], ?_⟩
    cases c.arpTable.learn config (senderIp frame) (senderMac frame) <;> rfl
  · rw [if_neg reply, if_pos (kind.resolve_left reply)]
    cases malloc with
    | none =>
      refine ⟨[], ?_⟩
      cases c.arpTable.learn config (senderIp frame) (senderMac frame) <;> rfl
    | some outputFrame =>
      refine ⟨[(createReply frame outputFrame c.mac).read 0 arpFrameSize], ?_⟩
      cases c.arpTable.learn config (senderIp frame) (senderMac frame) <;> rfl

/-- Any other frame does nothing. -/
theorem parseFrame_ignores (malloc : Option Buffer)
    (ignores : ¬ AcceptsArp c frame frameSize parameter) :
    parseFrame config c frame frameSize parameter malloc = .ok (c, []) := by
  unfold parseFrame
  by_cases allowed : allowArp c frame frameSize parameter = true
  · rw [if_pos allowed, if_neg fun reply => ignores ⟨allowed, .inl reply⟩,
      if_neg fun request => ignores ⟨allowed, .inr request⟩]
  · rw [if_neg allowed]

/-- Every event keeps a well-formed table well-formed, if it does not fault. -/
theorem step_wellFormed {event : Event} {c' : ArpController}
    (wellFormed : ArpTable.WellFormed config c.arpTable) (stepped : step config c event = .ok c') :
    ArpTable.WellFormed config c'.arpTable := by
  cases event with
  | parseFrame frame frameSize parameter malloc =>
    rw [step] at stepped
    by_cases accepts : AcceptsArp c frame frameSize parameter
    · obtain ⟨queued, learns⟩ := parseFrame_learns malloc config accepts
      rw [learns] at stepped
      cases learned : c.arpTable.learn config (senderIp frame) (senderMac frame) with
      | error fault =>
        rw [learned] at stepped
        cases stepped
      | ok table =>
        rw [learned] at stepped
        exact Except.ok.inj stepped ▸ wellFormed.learn learned
    · rw [parseFrame_ignores malloc accepts] at stepped
      exact Except.ok.inj stepped ▸ wellFormed
  | voidCallback malloc =>
    obtain ⟨table, ran, wellFormed', -⟩ := voidCallback_lines malloc wellFormed
    rw [step, ran] at stepped
    exact Except.ok.inj stepped ▸ wellFormed'
  | addIpForArpReply ip mask =>
    exact Except.ok.inj stepped ▸ wellFormed

/-- In a table of at most 32767 lines no event faults. -/
theorem step_ok (small : config.arpTableSize ≤ 32767) (event : Event)
    (wellFormed : ArpTable.WellFormed config c.arpTable) :
    ∃ c', step config c event = .ok c' ∧ ArpTable.WellFormed config c'.arpTable := by
  have runs : ∃ c', step config c event = .ok c' := by
    cases event with
    | parseFrame frame frameSize parameter malloc =>
      rw [step]
      by_cases accepts : AcceptsArp c frame frameSize parameter
      · obtain ⟨queued, learns⟩ := parseFrame_learns malloc config accepts
        rw [learns]
        cases found : c.arpTable.find (senderIp frame) with
        | some i =>
          rw [wellFormed.learn_known found]
          exact ⟨_, rfl⟩
        | none =>
          rw [wellFormed.learn_new found (by have := wellFormed.room; omega)]
          exact ⟨_, rfl⟩
      · rw [parseFrame_ignores malloc accepts]
        exact ⟨c, rfl⟩
    | voidCallback malloc =>
      obtain ⟨table, ran, -⟩ := voidCallback_lines malloc wellFormed
      rw [step, ran]
      exact ⟨_, rfl⟩
    | addIpForArpReply ip mask => exact ⟨_, rfl⟩
  obtain ⟨c', stepped⟩ := runs
  exact ⟨c', stepped, step_wellFormed wellFormed stepped⟩

theorem wellFormed_fresh (fresh : Fresh c) (positive : 0 < config.arpTableSize) :
    ArpTable.WellFormed config c.arpTable := by
  have empty : c.arpTable.recordCounter = 0 := fresh
  refine ⟨by omega, by omega, fun i inside => ?_⟩
  rw [empty] at inside
  exact absurd inside (Nat.not_lt_zero i)

/-- **The invariant over whole runs.** -/
theorem wellFormed_reached (fresh : Fresh c) (positive : 0 < config.arpTableSize)
    {events : List Event} {c' : ArpController}
    (reached : (arp config).run (.ok c) events = .ok c') :
    ArpTable.WellFormed config c'.arpTable :=
  Machine.checked_invariant (step config) (fun _ _ => True)
    (fun _ _ _ wellFormed stepped => step_wellFormed wellFormed stepped)
    (wellFormed_fresh fresh positive) reached

/-- In a table of at most 32767 lines no run faults. -/
theorem run_ok (fresh : Fresh c) (positive : 0 < config.arpTableSize)
    (small : config.arpTableSize ≤ 32767) (events : List Event) :
    ∃ c', (arp config).run (.ok c) events = .ok c' ∧ ArpTable.WellFormed config c'.arpTable := by
  have valid : ∀ state, (arp config).Valid state events := by
    induction events with
    | nil => exact fun _ => trivial
    | cons event events ih => exact fun state => ⟨fun _ _ => trivial, ih _⟩
  exact Machine.checked_run (step config) (fun _ _ => True)
    (fun c event wellFormed _ => step_ok small event wellFormed)
    (wellFormed_fresh fresh positive) (valid _)

end Events

/-! ### The representation invariant -/

/-- **The table is a bounded map whose two lookups agree**: fewer records than lines, distinct
addresses, lookups that stay inside the array, an address found for a hardware address resolves to
it, and a hardware address that an address resolves to has such an address. -/
structure Consistent (config : ArpConfig) (table : ArpTable) : Prop where
  room : table.recordCounter < config.arpTableSize
  distinct : ∀ i < table.recordCounter, ∀ j < table.recordCounter,
    (table.line i).ip = (table.line j).ip → i = j
  getMac_inside : ∀ ip, ∃ mac, table.getMac config ip = .ok mac
  getIp_inside : ∀ mac, ∃ ip, table.getIp config mac = .ok ip
  getMac_of_getIp : ∀ mac ip, table.getIp config mac = .ok (some ip) →
    table.getMac config ip = .ok (some mac)
  getIp_of_getMac : ∀ ip mac, table.getMac config ip = .ok (some mac) →
    ∃ ip', table.getIp config mac = .ok (some ip') ∧ table.getMac config ip' = .ok (some mac)

theorem ArpTable.WellFormed.consistent {config : ArpConfig} {table : ArpTable}
    (wellFormed : ArpTable.WellFormed config table) : Consistent config table := by
  have forward : ∀ mac ip, table.getIp config mac = .ok (some ip) →
      table.getMac config ip = .ok (some mac) := by
    intro mac ip found
    rw [wellFormed.getIp_eq] at found
    obtain ⟨i, first, rfl⟩ := Option.map_eq_some_iff.mp (Except.ok.inj found)
    obtain ⟨inside, holds, _⟩ := Slots.search_eq_some_iff.mp first
    rw [wellFormed.getMac_eq, wellFormed.resolve_record inside, of_decide_eq_true holds]
  refine ⟨wellFormed.room, wellFormed.distinct, fun ip => ⟨_, wellFormed.getMac_eq ip⟩,
    fun mac => ⟨_, wellFormed.getIp_eq mac⟩, forward, fun ip mac resolved => ?_⟩
  rw [wellFormed.getMac_eq] at resolved
  obtain ⟨i, found, holds⟩ := Option.map_eq_some_iff.mp (Except.ok.inj resolved)
  obtain ⟨j, first⟩ : ∃ j, Slots.search table.recordCounter
      (fun i => (table.line i).mac = mac) = some j :=
    Slots.search_isSome (ArpTable.find_lt found) (decide_eq_true holds)
  have there : table.getIp config mac = .ok (some (table.ips j)) := by
    rw [wellFormed.getIp_eq, first]
    rfl
  exact ⟨table.ips j, there, forward mac _ there⟩

/-- **The ARP table over whole runs**, for tables of 1 to 32767 lines: whatever frames and ticks the
controller gets, no line outside the array is read or written, and the table is consistent. -/
theorem arp_table_invariant {config : ArpConfig} (positive : 1 ≤ config.arpTableSize)
    (small : config.arpTableSize ≤ 32767) {c₀ : ArpController} (fresh : Fresh c₀)
    (events : List Event) :
    ∃ c, (arp config).run (.ok c₀) events = .ok c ∧ Consistent config c.arpTable := by
  obtain ⟨c, ran, wellFormed⟩ := run_ok fresh positive small events
  exact ⟨c, ran, wellFormed.consistent⟩

/-- A controller with a table of two lines. -/
def sampleConfig : ArpConfig := ⟨2, 1, 60, 120⟩

def sampleController : ArpController where
  mac := ⟨[2, 0, 0, 0, 0, 1], rfl⟩
  ipTableForReply := ⟨fun _ => Bytes.zero 4, fun _ => Bytes.zero 4, 0⟩
  arpTable := ⟨0, fun _ => ⟨Bytes.zero 4, Bytes.zero 6, 0⟩⟩

theorem sampleController_fresh : Fresh sampleController := rfl

/-- A reply of a host. -/
def sampleReply (host : UInt8) : Buffer :=
  (createReply (fun _ => 0) (fun _ => 0) ⟨[2, 0, 0, 0, 1, host], rfl⟩).write etxArpSenderIpOffset
    [10, 0, 0, host]

theorem arp_table_invariant_sample : ∃ c, (arp sampleConfig).run (.ok sampleController)
    [.parseFrame (sampleReply 2) 42 true none, .parseFrame (sampleReply 3) 42 true none,
      .voidCallback fun _ => none] = .ok c ∧ Consistent sampleConfig c.arpTable :=
  arp_table_invariant (by decide) (by decide) sampleController_fresh _

/-! ### What is learned is kept -/

/-- After the frame its sender is resolved to its hardware address, and every other address that was
resolved still is, to the same one, but for one that may be evicted from a table without a free
line. -/
def KeepsLearned (config : ArpConfig) (c : ArpController) (frame : Buffer) (frameSize : Nat)
    (parameter : Bool) (malloc : Option Buffer) : Prop :=
  ∃ c' queued, parseFrame config c frame frameSize parameter malloc = .ok (c', queued) ∧
    c'.arpTable.getMac config (senderIp frame) = .ok (some (senderMac frame)) ∧
    ∃ evicted : Option Ip, (evicted ≠ none → c.arpTable.recordCounter = config.arpTableSize) ∧
      ∀ ip mac, ip ≠ senderIp frame → evicted ≠ some ip →
        c.arpTable.getMac config ip = .ok (some mac) →
        c'.arpTable.getMac config ip = .ok (some mac)

section Learning

variable {config : ArpConfig} {c : ArpController} {frame : Buffer} {frameSize : Nat}
  {parameter : Bool} (malloc : Option Buffer)

/-- A frame whose sender changes the map at its own address only. -/
theorem keepsLearned_of_learn {table : ArpTable}
    (wellFormed : ArpTable.WellFormed config c.arpTable)
    (accepts : AcceptsArp c frame frameSize parameter)
    (learned : c.arpTable.learn config (senderIp frame) (senderMac frame) = .ok table)
    (resolves : table.resolve (senderIp frame) = some (senderMac frame))
    (others : ∀ other, other ≠ senderIp frame → table.resolve other = c.arpTable.resolve other) :
    KeepsLearned config c frame frameSize parameter malloc := by
  have wellFormed' := wellFormed.learn learned
  obtain ⟨queued, parsed⟩ := parseFrame_learns malloc config accepts
  rw [learned] at parsed
  refine ⟨_, queued, parsed, by rw [wellFormed'.getMac_eq, resolves], none,
    fun impossible => absurd rfl impossible, fun ip mac different _ before => ?_⟩
  rw [wellFormed.getMac_eq] at before
  rw [wellFormed'.getMac_eq, others ip different, before]

/-- **One frame**, exactly. -/
theorem keepsLearned_iff_of_wellFormed (wellFormed : ArpTable.WellFormed config c.arpTable)
    (accepts : AcceptsArp c frame frameSize parameter) :
    KeepsLearned config c frame frameSize parameter malloc ↔
      (∃ mac, c.arpTable.getMac config (senderIp frame) = .ok (some mac)) ∨
        (c.arpTable.recordCounter + 1 < config.arpTableSize ∧
          c.arpTable.recordCounter < 32768) := by
  have room := wellFormed.room
  have small := wellFormed.small
  cases found : c.arpTable.find (senderIp frame) with
  | some i =>
    have resolved := ArpTable.resolve_refreshed (senderMac frame) found
    refine iff_of_true (keepsLearned_of_learn malloc wellFormed accepts
      (wellFormed.learn_known found) resolved.1 resolved.2) (.inl ⟨(c.arpTable.line i).mac, ?_⟩)
    rw [wellFormed.getMac_eq, ArpTable.resolve, found]
    rfl
  | none =>
    have unresolved : ¬ ∃ mac, c.arpTable.getMac config (senderIp frame) = .ok (some mac) := by
      rintro ⟨mac, resolved⟩
      rw [wellFormed.getMac_eq, ArpTable.resolve, found] at resolved
      cases resolved
    rw [or_iff_right unresolved]
    obtain ⟨queued, parsed⟩ := parseFrame_learns malloc config accepts
    by_cases fits : c.arpTable.recordCounter < 32768
    · have learned : c.arpTable.learn config (senderIp frame) (senderMac frame) = .ok
          (c.arpTable.recorded config (senderIp frame) (senderMac frame)) :=
        wellFormed.learn_new found fits
      by_cases more : c.arpTable.recordCounter + 1 = config.arpTableSize
      · refine iff_of_false ?_ (by omega)
        rintro ⟨c', queued', parsed', resolved, _⟩
        rw [learned] at parsed
        have same := Except.ok.inj (parsed.symm.trans parsed')
        have table : c'.arpTable = c.arpTable.recorded config (senderIp frame) (senderMac frame) :=
          congrArg (fun result => result.1.arpTable) same.symm
        rw [table, (wellFormed.recorded found fits).getMac_eq, ArpTable.resolve_full more]
          at resolved
        cases resolved
      · have resolved := ArpTable.resolve_recorded (senderMac frame) found more
        exact iff_of_true (keepsLearned_of_learn malloc wellFormed accepts learned resolved.1
          resolved.2) ⟨by omega, fits⟩
    · refine iff_of_false ?_ (fun holds => fits holds.2)
      rintro ⟨c', queued', parsed', _⟩
      rw [wellFormed.learn_outside found (by omega)] at parsed
      cases parsed.symm.trans parsed'

end Learning

/-- **What the controller learns from a frame it keeps, and it forgets nothing else, exactly if the
sender was known already, or the new record is neither the one that fills the table nor outside the
range of the index.** -/
theorem keeps_learned_iff {config : ArpConfig} (size : 2 ≤ config.arpTableSize)
    {c₀ c : ArpController} (fresh : Fresh c₀) {events : List Event}
    (reached : (arp config).run (.ok c₀) events = .ok c) {frame : Buffer} {frameSize : Nat}
    {parameter : Bool} (accepts : AcceptsArp c frame frameSize parameter)
    (malloc : Option Buffer) :
    KeepsLearned config c frame frameSize parameter malloc ↔
      (∃ mac, c.arpTable.getMac config (senderIp frame) = .ok (some mac)) ∨
        (c.arpTable.recordCounter + 1 < config.arpTableSize ∧
          c.arpTable.recordCounter < 32768) :=
  keepsLearned_iff_of_wellFormed malloc (wellFormed_reached fresh (by omega) reached) accepts

/-- The controller after the reply of host 2. -/
def sampleState : ArpController :=
  { sampleController with
    arpTable := sampleController.arpTable.recorded sampleConfig (senderIp (sampleReply 2))
      (senderMac (sampleReply 2)) }

theorem sampleReply_accepted : AcceptsArp sampleController (sampleReply 2) 42 true :=
  ⟨by decide +kernel, .inl (by decide +kernel)⟩

theorem sampleReply_accepted_again : AcceptsArp sampleState (sampleReply 2) 42 true :=
  ⟨by decide +kernel, .inl (by decide +kernel)⟩

theorem sampleState_reached : (arp sampleConfig).run (.ok sampleController)
    [.parseFrame (sampleReply 2) 42 true none] = .ok sampleState := by
  obtain ⟨queued, parsed⟩ := parseFrame_learns none sampleConfig sampleReply_accepted
  have wellFormed : ArpTable.WellFormed sampleConfig sampleController.arpTable :=
    wellFormed_fresh sampleController_fresh (by decide)
  rw [wellFormed.learn_new rfl (by decide)] at parsed
  show step sampleConfig sampleController (.parseFrame (sampleReply 2) 42 true none) = _
  rw [step, parsed]
  rfl

theorem keeps_learned_sample : KeepsLearned sampleConfig sampleState (sampleReply 2) 42 true none :=
  (keeps_learned_iff (by decide) sampleController_fresh sampleState_reached
    sampleReply_accepted_again none).mpr
    (.inl ⟨senderMac (sampleReply 2), by decide +kernel⟩)

/-- The second host fills the table of two lines: the controller forgets both hosts. -/
theorem forgets_learned : 2 ≤ sampleConfig.arpTableSize ∧ Fresh sampleController ∧
    (arp sampleConfig).run (.ok sampleController) [.parseFrame (sampleReply 2) 42 true none] =
      .ok sampleState ∧
    AcceptsArp sampleState (sampleReply 3) 42 true ∧
    ¬ KeepsLearned sampleConfig sampleState (sampleReply 3) 42 true none := by
  have accepted : AcceptsArp sampleState (sampleReply 3) 42 true :=
    ⟨by decide +kernel, .inl (by decide +kernel)⟩
  have wellFormed : ArpTable.WellFormed sampleConfig sampleState.arpTable :=
    wellFormed_reached sampleController_fresh (by decide) sampleState_reached
  refine ⟨by decide, sampleController_fresh, sampleState_reached, accepted, fun keeps => ?_⟩
  rcases (keepsLearned_iff_of_wellFormed none wellFormed accepted).mp keeps with
    ⟨mac, resolved⟩ | ⟨more, _⟩
  · have unresolved : sampleState.arpTable.getMac sampleConfig (senderIp (sampleReply 3)) =
        .ok none := by decide +kernel
    rw [unresolved] at resolved
    cases resolved
  · exact absurd more (by decide)

end Jblib.Ethutilities.ArpController
