/-
**The ARP table is a bounded map from addresses to hardware addresses.**

The abstract view of the table is `resolve`: the hardware address of the first record with an
address. On a table with distinct addresses the loops of the code compute it.

* `WellFormed` — fewer records than lines, distinct addresses, and every index fits an `int16_t`.
* `getMac_eq`, `getIp_eq` — the lookups on a well-formed table do not leave the array.
* `learn_known`, `learn_new`, `learn_outside` — what a frame's sender does to the table, and
  `resolve_refreshed`, `resolve_recorded`, `resolve_full` — what it does to the map.
* `WellFormed.deleteLine`, `WellFormed.update` — what a tick does to a record keeps a table
  well-formed.
-/

import EthUtilities.ArpController.Controller

namespace Jblib.Ethutilities.ArpController

open Library EthernetUtilities

/-! ### Indices -/

theorem toInt16_of_lt {n : Nat} (small : n < 32768) : toInt16 n = n := by
  rw [toInt16, Nat.mod_eq_of_lt (by omega), if_pos small]

theorem toInt16_outside : toInt16 32768 = -32768 := by decide

namespace ArpTable

variable {config : ArpConfig} {table : ArpTable} {ip other : Ip} {mac : Mac} {i : Nat}

/-! ### Searching -/

theorem readLine_of_lt (inside : i < config.arpTableSize) :
    table.readLine config i = .ok (table.line i) := by
  rw [readLine, if_pos ⟨Int.natCast_nonneg i, Int.ofNat_lt.mpr inside⟩, Int.toNat_natCast]

theorem writeLine_of_lt (inside : i < config.arpTableSize) (line : ArpTableLine) :
    table.writeLine config i line =
      .ok { table with line := Function.update table.line i line } := by
  rw [writeLine, if_pos ⟨Int.natCast_nonneg i, Int.ofNat_lt.mpr inside⟩, Int.toNat_natCast]

/-- The loop of a search that stays inside the array. -/
theorem searchLine_range {test : ArpTableLine → Bool} {fuel : Nat}
    (inside : i + fuel ≤ config.arpTableSize) : table.searchLine config test fuel i =
      .ok ((List.range' i fuel).find? fun j => test (table.line j)) := by
  induction fuel generalizing i with
  | zero => rfl
  | succ fuel ih =>
    rw [searchLine, readLine_of_lt (by omega), List.range'_succ]
    dsimp only [bind, Except.bind]
    by_cases found : test (table.line i) = true
    · rw [if_pos found, List.find?_cons]
      rw [found]
    · rw [if_neg found, List.find?_cons]
      rw [Bool.eq_false_iff.mpr found]
      exact ih (by omega)

theorem searchLine_eq {test : ArpTableLine → Bool}
    (fits : table.recordCounter ≤ config.arpTableSize) :
    table.searchLine config test table.recordCounter 0 =
      .ok (Slots.search table.recordCounter fun j => test (table.line j)) := by
  rw [searchLine_range (by omega), Slots.search, List.range_eq_range']

/-- The addresses in the lines. -/
def ips (table : ArpTable) : Nat → Ip := fun i => (table.line i).ip

/-- The record with an address. -/
def find (table : ArpTable) (ip : Ip) : Option Nat := Slots.find table.recordCounter table.ips ip

/-- **The table as a map.** -/
def resolve (table : ArpTable) (ip : Ip) : Option Mac :=
  (table.find ip).map fun i => (table.line i).mac

/-- A table as the controller keeps it. -/
structure WellFormed (config : ArpConfig) (table : ArpTable) : Prop where
  room : table.recordCounter < config.arpTableSize
  small : table.recordCounter ≤ 32768
  distinct : Slots.Distinct table.recordCounter table.ips

theorem find_lt (found : table.find ip = some i) : i < table.recordCounter := Slots.find_lt found

theorem WellFormed.getArpTableIndex_known (wellFormed : WellFormed config table)
    (found : table.find ip = some i) : table.getArpTableIndex config ip = .ok (i : Int) := by
  have small := wellFormed.small
  have inside := find_lt found
  have searched : Slots.search table.recordCounter (fun j => (table.line j).ip = ip) = some i :=
    found
  rw [getArpTableIndex, searchLine_eq (Nat.le_of_lt wellFormed.room)]
  dsimp only [bind, Except.bind]
  rw [searched]
  dsimp only
  rw [toInt16_of_lt (by omega)]

theorem WellFormed.getArpTableIndex_unknown (wellFormed : WellFormed config table)
    (unknown : table.find ip = none) : table.getArpTableIndex config ip = .ok (-1) := by
  have searched : Slots.search table.recordCounter (fun j => (table.line j).ip = ip) = none :=
    unknown
  rw [getArpTableIndex, searchLine_eq (Nat.le_of_lt wellFormed.room)]
  dsimp only [bind, Except.bind]
  rw [searched]

/-- **`getMac`** is the map. -/
theorem WellFormed.getMac_eq (wellFormed : WellFormed config table) (ip : Ip) :
    table.getMac config ip = .ok (table.resolve ip) := by
  rw [getMac, resolve]
  cases found : table.find ip with
  | none =>
    rw [wellFormed.getArpTableIndex_unknown found]
    rfl
  | some i =>
    have inside := find_lt found
    rw [wellFormed.getArpTableIndex_known found]
    dsimp only [bind, Except.bind]
    rw [if_pos (Int.natCast_nonneg i), readLine_of_lt (by have := wellFormed.room; omega)]
    rfl

/-- **`getIp`** is the address of the first record with the hardware address. -/
theorem WellFormed.getIp_eq (wellFormed : WellFormed config table) (mac : Mac) :
    table.getIp config mac =
      .ok ((Slots.search table.recordCounter fun i => (table.line i).mac = mac).map table.ips) := by
  rw [getIp, searchLine_eq (Nat.le_of_lt wellFormed.room)]
  dsimp only [bind, Except.bind]
  cases found : Slots.search table.recordCounter fun i => (table.line i).mac = mac with
  | none => rfl
  | some i =>
    have inside := (Slots.search_eq_some_iff.mp found).1
    dsimp only
    rw [readLine_of_lt (by have := wellFormed.room; omega)]
    rfl

/-- In a table with distinct addresses a record resolves its address. -/
theorem WellFormed.resolve_record (wellFormed : WellFormed config table)
    (inside : i < table.recordCounter) : table.resolve (table.ips i) = some (table.line i).mac := by
  rw [resolve, find, wellFormed.distinct.find_iff.mpr ⟨inside, rfl⟩]
  rfl

/-! ### Learning a sender -/

/-- The table after a known sender was refreshed. -/
def refreshed (table : ArpTable) (i : Nat) (mac : Mac) : ArpTable :=
  { table with
    line := Function.update table.line i { table.line i with mac, timeAfterUpdate := 0 } }

/-- The table after a new sender was recorded. -/
def recorded (config : ArpConfig) (table : ArpTable) (ip : Ip) (mac : Mac) : ArpTable where
  recordCounter :=
    if table.recordCounter + 1 = config.arpTableSize then 0 else table.recordCounter + 1
  line := Function.update table.line table.recordCounter ⟨ip, mac, 0⟩

theorem WellFormed.learn_known (wellFormed : WellFormed config table)
    (found : table.find ip = some i) :
    table.learn config ip mac = .ok (table.refreshed i mac) := by
  have inside : i < config.arpTableSize := by
    have := find_lt found
    have := wellFormed.room
    omega
  rw [learn, wellFormed.getArpTableIndex_known found]
  dsimp only [bind, Except.bind]
  rw [if_pos (Int.natCast_nonneg i), readLine_of_lt inside]
  exact writeLine_of_lt inside _

theorem WellFormed.learn_new (wellFormed : WellFormed config table)
    (unknown : table.find ip = none) (small : table.recordCounter < 32768) :
    table.learn config ip mac = .ok (table.recorded config ip mac) := by
  rw [learn, wellFormed.getArpTableIndex_unknown unknown]
  dsimp only [bind, Except.bind]
  rw [if_neg (by decide), toInt16_of_lt small, writeLine_of_lt wellFormed.room]
  show Except.ok _ = _
  rw [Nat.mod_eq_of_lt (show table.recordCounter + 1 < 65536 by omega)]
  rfl

/-- Record number 32768 does not go into the array. -/
theorem WellFormed.learn_outside (wellFormed : WellFormed config table)
    (unknown : table.find ip = none) (outside : table.recordCounter = 32768) :
    table.learn config ip mac = .error (.lineOutside (-32768)) := by
  rw [learn, wellFormed.getArpTableIndex_unknown unknown]
  dsimp only [bind, Except.bind]
  rw [if_neg (by decide), outside, toInt16_outside, writeLine, if_neg (by omega)]

theorem ips_refreshed : (table.refreshed i mac).ips = table.ips := by
  funext j
  show (Function.update table.line i _ j).ip = (table.line j).ip
  by_cases here : j = i
  · rw [here, Function.update_self]
  · rw [Function.update_of_ne here]

theorem ips_recorded :
    (table.recorded config ip mac).ips = Function.update table.ips table.recordCounter ip := by
  funext j
  show (Function.update table.line table.recordCounter _ j).ip = _
  by_cases here : j = table.recordCounter
  · rw [here, Function.update_self, Function.update_self]
  · rw [Function.update_of_ne here, Function.update_of_ne here]
    rfl

theorem WellFormed.refreshed (wellFormed : WellFormed config table) :
    WellFormed config (table.refreshed i mac) :=
  ⟨wellFormed.room, wellFormed.small, by rw [ips_refreshed]; exact wellFormed.distinct⟩

theorem WellFormed.recorded (wellFormed : WellFormed config table)
    (unknown : table.find ip = none) (small : table.recordCounter < 32768) :
    WellFormed config (table.recorded config ip mac) := by
  have room := wellFormed.room
  have counter : (table.recorded config ip mac).recordCounter =
    if table.recordCounter + 1 = config.arpTableSize then 0 else table.recordCounter + 1 := rfl
  by_cases last : table.recordCounter + 1 = config.arpTableSize
  · rw [if_pos last] at counter
    refine ⟨by omega, by omega, fun i inside => ?_⟩
    rw [counter] at inside
    exact absurd inside (Nat.not_lt_zero i)
  · rw [if_neg last] at counter
    refine ⟨by omega, by omega, ?_⟩
    rw [counter, ips_recorded]
    exact wellFormed.distinct.append unknown

/-- **Learning a sender keeps the table well-formed**, if it does not fault. -/
theorem WellFormed.learn (wellFormed : WellFormed config table) {table' : ArpTable}
    (learned : table.learn config ip mac = .ok table') : WellFormed config table' := by
  cases found : table.find ip with
  | some i =>
    rw [wellFormed.learn_known found] at learned
    exact Except.ok.inj learned ▸ wellFormed.refreshed
  | none =>
    by_cases small : table.recordCounter < 32768
    · rw [wellFormed.learn_new found small] at learned
      exact Except.ok.inj learned ▸ wellFormed.recorded found small
    · have outside : table.recordCounter = 32768 := by
        have := wellFormed.small
        omega
      rw [wellFormed.learn_outside found outside] at learned
      cases learned

/-! ### What a sender does to the map -/

theorem resolve_refreshed (mac : Mac) (found : table.find ip = some i) :
    (table.refreshed i mac).resolve ip = some mac ∧
      ∀ other, other ≠ ip → (table.refreshed i mac).resolve other = table.resolve other := by
  have same : ∀ other, (table.refreshed i mac).find other = table.find other := fun other => by
    rw [find, ips_refreshed]
    rfl
  refine ⟨?_, fun other different => ?_⟩
  · rw [resolve, same, found]
    show some (Function.update table.line i _ i).mac = some mac
    rw [Function.update_self]
  · rw [resolve, same, resolve]
    cases found' : table.find other with
    | none => rfl
    | some j =>
      have apart : j ≠ i := by
        rintro rfl
        exact different ((Slots.slot_of_find found').symm.trans (Slots.slot_of_find found))
      show some (Function.update table.line i _ j).mac = some (table.line j).mac
      rw [Function.update_of_ne apart]

theorem resolve_recorded (mac : Mac) (unknown : table.find ip = none)
    (more : table.recordCounter + 1 ≠ config.arpTableSize) :
    (table.recorded config ip mac).resolve ip = some mac ∧
      ∀ other, other ≠ ip →
        (table.recorded config ip mac).resolve other = table.resolve other := by
  have counter : (table.recorded config ip mac).recordCounter = table.recordCounter + 1 :=
    if_neg more
  refine ⟨?_, fun other different => ?_⟩
  · rw [resolve, find, counter, ips_recorded, Slots.find_append_self unknown]
    show some (Function.update table.line table.recordCounter _ table.recordCounter).mac = some mac
    rw [Function.update_self]
  · rw [resolve, find, counter, ips_recorded, Slots.find_append_other different]
    show (table.find other).map _ = (table.find other).map _
    cases found : table.find other with
    | none => rfl
    | some j =>
      show some (Function.update table.line table.recordCounter _ j).mac = some (table.line j).mac
      rw [Function.update_of_ne (Nat.ne_of_lt (find_lt found))]

/-- The record that fills the table makes the controller forget everything, the new record
included. -/
theorem resolve_full (full : table.recordCounter + 1 = config.arpTableSize) :
    (table.recorded config ip mac).resolve other = none := by
  have counter : (table.recorded config ip mac).recordCounter = 0 := if_pos full
  rw [resolve, find, counter]
  rfl

/-! ### Ageing -/

theorem WellFormed.deleteLine (wellFormed : WellFormed config table)
    (inside : i < table.recordCounter) :
    ∃ table', table.deleteLine config i = .ok table' ∧
      table'.recordCounter = table.recordCounter - 1 ∧ WellFormed config table' := by
  have room := wellFormed.room
  have small := wellFormed.small
  rw [ArpTable.deleteLine]
  by_cases last : i = table.recordCounter - 1
  · rw [if_pos last]
    refine ⟨_, rfl, rfl, ⟨?_, ?_, fun j inside' k inside'' same => ?_⟩⟩
    · show table.recordCounter - 1 < config.arpTableSize
      omega
    · show table.recordCounter - 1 ≤ 32768
      omega
    · have fewer : table.recordCounter - 1 ≤ table.recordCounter := Nat.sub_le _ _
      exact wellFormed.distinct j (Nat.lt_of_lt_of_le inside' fewer) k
        (Nat.lt_of_lt_of_le inside'' fewer) same
  · rw [if_neg last, if_pos (Nat.le_of_lt room)]
    refine ⟨_, rfl, rfl, ⟨?_, ?_, ?_⟩⟩
    · show table.recordCounter - 1 < config.arpTableSize
      omega
    · show table.recordCounter - 1 ≤ 32768
      omega
    · have removed : ArpTable.ips ⟨table.recordCounter - 1, fun j =>
          if i ≤ j ∧ j < table.recordCounter - 1 then table.line (j + 1) else table.line j⟩ =
          Slots.remove table.recordCounter table.ips i := by
        funext j
        exact apply_ite ArpTableLine.ip _ _ _
      rw [removed]
      exact wellFormed.distinct.remove i

/-- Changing anything but the address of a line. -/
theorem WellFormed.update (wellFormed : WellFormed config table) {line : ArpTableLine}
    (same : line.ip = table.ips i) :
    WellFormed config { table with line := Function.update table.line i line } := by
  refine ⟨wellFormed.room, wellFormed.small, ?_⟩
  have unchanged : ArpTable.ips { table with line := Function.update table.line i line } =
      table.ips := by
    funext j
    show (Function.update table.line i line j).ip = (table.line j).ip
    by_cases here : j = i
    · rw [here, Function.update_self, same]
      rfl
    · rw [Function.update_of_ne here]
  rw [unchanged]
  exact wellFormed.distinct

end ArpTable

end Jblib.Ethutilities.ArpController
