/-
**One tick of the ARP table.**

* `lines` — the records of the table as a list.
* `ageLoop_turn` — one turn of the loop of `voidCallback`: the record at its index is aged, or taken
  out of the list, and `refresh` is queued for it. Nothing else of the controller changes.
* `ageLoop_lines` — the loop is the pass `skipping` over the list. It queues for the records that the
  pass has at hand.
* **`voidCallback_lines`** — a tick ends, inside the array: the table it leaves and the frames it
  queues.
-/

import EthUtilities.Library.Sweep
import EthUtilities.ArpController.Table

namespace Jblib.Ethutilities.ArpController

open Library EthernetUtilities

/-- The record is one tick older. -/
def ArpTableLine.aged (line : ArpTableLine) : ArpTableLine :=
  { line with timeAfterUpdate := line.timeAfterUpdate + 1 }

/-- The record is to be deleted. -/
def ArpTableLine.expired (config : ArpConfig) (line : ArpTableLine) : Bool :=
  line.timeAfterUpdate.toNat > config.deleteRecordTime

/-- Ageing shows, even where the age wraps. -/
theorem ArpTableLine.aged_ne (line : ArpTableLine) : line.aged ≠ line := by
  intro same
  have next : line.timeAfterUpdate + 1 = line.timeAfterUpdate :=
    congrArg ArpTableLine.timeAfterUpdate same
  simp at next

/-! ### The records as a list -/

namespace ArpTable

/-- `lines[0..recordCounter)`. -/
def lines (table : ArpTable) : List ArpTableLine :=
  (List.range table.recordCounter).map table.line

section Lines

variable {config : ArpConfig} {table : ArpTable} {i : Nat}

@[simp] theorem length_lines : table.lines.length = table.recordCounter := by simp [lines]

@[simp] theorem getElem_lines (inside : i < table.lines.length) :
    table.lines[i] = table.line i := by
  simp [lines]

/-- The table with one record aged. -/
def age (table : ArpTable) (i : Nat) : ArpTable :=
  { table with line := Function.update table.line i (table.line i).aged }

theorem lines_age : (table.age i).lines = table.lines.set i (table.line i).aged := by
  apply List.ext_getElem
  · simp [age]
  · intro j _ _
    simp only [getElem_lines, List.getElem_set, age, Function.update_apply, eq_comm]

theorem lines_deleteLine {table' : ArpTable} (inside : i < table.recordCounter)
    (deleted : table.deleteLine config i = .ok table') : table'.lines = table.lines.eraseIdx i := by
  rw [deleteLine] at deleted
  split at deleted
  case isTrue last =>
    subst last
    obtain rfl := Except.ok.inj deleted
    apply List.ext_getElem
    · rw [List.length_eraseIdx_of_lt (by simpa using inside)]
      simp
    · intro j before _
      have front : j < table.recordCounter - 1 := by simpa using before
      simp [List.getElem_eraseIdx, front]
  case isFalse inner =>
    split at deleted
    case isFalse => cases deleted
    case isTrue room =>
      obtain rfl := Except.ok.inj deleted
      apply List.ext_getElem
      · rw [List.length_eraseIdx_of_lt (by simpa using inside)]
        simp
      · intro j before _
        have front : j < table.recordCounter - 1 := by simpa using before
        rw [List.getElem_eraseIdx]
        by_cases there : j < i
        · simp [there, Nat.not_le_of_lt there]
        · simp [there, Nat.le_of_not_lt there, front]

end Lines

end ArpTable

/-- The records that a tick ages, aged. -/
def agedLines (config : ArpConfig) (table : ArpTable) : List ArpTableLine :=
  Sweep.visited ArpTableLine.aged (ArpTableLine.expired config) table.lines

/-! ### The loop -/

/-- The frames that a turn queues for the record it has aged. -/
def refresh (config : ArpConfig) (c : ArpController) (line : ArpTableLine)
    (malloc : Option Buffer) : List (List UInt8) :=
  if line.timeAfterUpdate.toNat > config.refreshRecordTime then
    sendArpRequest c line.ip none malloc
  else []

section Loop

variable {config : ArpConfig} {malloc : Nat → Option Buffer} {fuel i : Nat} {c : ArpController}
  {table : ArpTable} {line : ArpTableLine} {front rest : List ArpTableLine}
  {queued : List (List UInt8)}

theorem sendArpRequestLoop_arpTable {dstIp : Ip} (outputFrame : Buffer) :
    sendArpRequestLoop { c with arpTable := table } dstIp fuel i outputFrame =
      sendArpRequestLoop c dstIp fuel i outputFrame := by
  induction fuel generalizing i outputFrame with
  | zero => rfl
  | succ fuel ih => simp only [sendArpRequestLoop, ih]

/-- The requests do not depend on the table. -/
theorem refresh_arpTable (table : ArpTable) (outputFrame : Option Buffer) :
    refresh config { c with arpTable := table } line outputFrame =
      refresh config c line outputFrame := by
  cases outputFrame with
  | none => rfl
  | some outputFrame => simp only [refresh, sendArpRequest, sendArpRequestLoop_arpTable]

/-- **One turn of the loop.** -/
theorem ageLoop_turn (fuel : Nat) (malloc : Nat → Option Buffer) (c : ArpController)
    (queued : List (List UInt8)) (wellFormed : ArpTable.WellFormed config table)
    (inside : i < table.recordCounter) :
    ∃ table', ageLoop config malloc (fuel + 1) i { c with arpTable := table } queued =
        ageLoop config malloc fuel (i + 1) { c with arpTable := table' }
          (queued ++ refresh config c (table.line i).aged (malloc i)) ∧
      ArpTable.WellFormed config table' ∧
      table'.lines = if (table.line i).aged.expired config then table.lines.eraseIdx i
        else table.lines.set i (table.line i).aged := by
  have room := wellFormed.room
  have aged : ArpTable.WellFormed config (table.age i) := wellFormed.update rfl
  rw [ageLoop, if_pos inside, ArpTable.readLine_of_lt (by omega)]
  dsimp only [bind, Except.bind]
  rw [ArpTable.writeLine_of_lt (by omega)]
  dsimp only
  by_cases old : (table.line i).aged.expired config = true
  · have inside' : i < (table.age i).recordCounter := inside
    obtain ⟨table', deleted, -, wellFormed'⟩ := aged.deleteLine inside'
    have removed := ArpTable.lines_deleteLine inside' deleted
    rw [ArpTable.lines_age, List.eraseIdx_set_eq] at removed
    have tooOld : ((table.line i).timeAfterUpdate + 1).toNat > config.deleteRecordTime :=
      of_decide_eq_true old
    refine ⟨table', ?_, wellFormed', removed.trans (if_pos old).symm⟩
    rw [if_pos tooOld, ← refresh_arpTable (table.age i)]
    change Except.bind ((table.age i).deleteLine config i) _ = _
    rw [deleted]
    rfl
  · have young : ¬ ((table.line i).timeAfterUpdate + 1).toNat > config.deleteRecordTime :=
      fun tooOld => old (decide_eq_true tooOld)
    refine ⟨table.age i, ?_, aged, ArpTable.lines_age.trans (if_neg old).symm⟩
    rw [if_neg young, ← refresh_arpTable (table.age i)]
    rfl

/-- A turn at the index where the second part of the list starts. -/
theorem ageLoop_line (fuel : Nat) (malloc : Nat → Option Buffer) (c : ArpController)
    (queued : List (List UInt8)) (wellFormed : ArpTable.WellFormed config table)
    (split : table.lines = front ++ line :: rest) (place : front.length = i) :
    ∃ table', ageLoop config malloc (fuel + 1) i { c with arpTable := table } queued =
        ageLoop config malloc fuel (i + 1) { c with arpTable := table' }
          (queued ++ refresh config c line.aged (malloc i)) ∧
      ArpTable.WellFormed config table' ∧
      table'.lines = front ++ if line.aged.expired config then rest else line.aged :: rest := by
  subst place
  have inside : front.length < table.lines.length := by simp [split]
  have here : table.line front.length = line := by
    rw [← ArpTable.getElem_lines inside]
    simp [split]
  obtain ⟨table', turn, wellFormed', lines'⟩ :=
    ageLoop_turn fuel malloc c queued wellFormed (ArpTable.length_lines ▸ inside)
  rw [here] at turn
  refine ⟨table', turn, wellFormed', ?_⟩
  rw [lines', here, split]
  split_ifs
  · simp [List.eraseIdx_append_of_length_le]
  · simp

theorem ageLoop_done (queued : List (List UInt8)) (some : 0 < fuel)
    (done : c.arpTable.lines.length ≤ i) :
    ageLoop config malloc fuel i c queued = .ok (c, queued) := by
  obtain ⟨fuel, rfl⟩ := Nat.exists_eq_add_of_lt some
  rw [Nat.zero_add, ageLoop, if_neg (by simpa using done)]

/-- The last turn. -/
theorem ageLoop_last (malloc : Nat → Option Buffer) (c : ArpController)
    (queued : List (List UInt8)) (wellFormed : ArpTable.WellFormed config table)
    (split : table.lines = front ++ [line]) (place : front.length = i) (enough : 1 < fuel) :
    ∃ table', ageLoop config malloc fuel i { c with arpTable := table } queued =
        .ok ({ c with arpTable := table' }, queued ++ refresh config c line.aged (malloc i)) ∧
      ArpTable.WellFormed config table' ∧
      table'.lines = front ++ if line.aged.expired config then [] else [line.aged] := by
  obtain ⟨less, rfl⟩ := Nat.exists_eq_add_of_lt enough
  obtain ⟨table', turn, wellFormed', lines'⟩ :=
    ageLoop_line (1 + less) malloc c queued wellFormed split place
  refine ⟨table', turn.trans (ageLoop_done _ (Nat.add_pos_left Nat.one_pos _) ?_), wellFormed',
    lines'⟩
  show table'.lines.length ≤ i + 1
  rw [lines', List.length_append, place]
  split_ifs <;> simp

/-- The frames that the loop queues from index `i` on, for records it has aged. -/
def queuedFrom (config : ArpConfig) (malloc : Nat → Option Buffer) (c : ArpController) (i : Nat)
    (aged : List ArpTableLine) : List (List UInt8) :=
  (aged.zipIdx i).flatMap fun turn => refresh config c turn.1 (malloc turn.2)

@[simp] theorem queuedFrom_nil : queuedFrom config malloc c i [] = [] := rfl

theorem append_queuedFrom_cons (queued : List (List UInt8)) (aged : List ArpTableLine) :
    queued ++ queuedFrom config malloc c i (line :: aged) =
      queued ++ refresh config c line (malloc i) ++ queuedFrom config malloc c (i + 1) aged :=
  (List.append_assoc _ _ _).symm

/-- **The loop** skips the record behind a deleted one. -/
theorem ageLoop_lines (malloc : Nat → Option Buffer) (c : ArpController)
    (wellFormed : ArpTable.WellFormed config table) (split : table.lines = front ++ rest)
    (place : front.length = i) (enough : rest.length < fuel) :
    ∃ table', ageLoop config malloc fuel i { c with arpTable := table } queued =
        .ok ({ c with arpTable := table' }, queued ++ queuedFrom config malloc c i
          (Sweep.visited ArpTableLine.aged (ArpTableLine.expired config) rest)) ∧
      ArpTable.WellFormed config table' ∧
      table'.lines =
        front ++ Sweep.skipping ArpTableLine.aged (ArpTableLine.expired config) rest := by
  induction rest using Sweep.skipping.induct ArpTableLine.aged (ArpTableLine.expired config)
    generalizing front fuel i table queued with
  | case1 =>
    refine ⟨table, ?_, wellFormed, split⟩
    rw [ageLoop_done queued enough (by simp [split, place]), Sweep.visited, queuedFrom_nil,
      List.append_nil]
  | case2 line old =>
    rw [Sweep.visited, Sweep.skipping, append_queuedFrom_cons, queuedFrom_nil,
      List.append_nil]
    exact ageLoop_last malloc c queued wellFormed split place enough
  | case3 line young =>
    rw [Sweep.visited, Sweep.skipping, append_queuedFrom_cons, queuedFrom_nil,
      List.append_nil]
    exact ageLoop_last malloc c queued wellFormed split place enough
  | case4 line next rest old ih =>
    obtain ⟨less, rfl⟩ := Nat.exists_eq_add_of_lt enough
    obtain ⟨table', turn, wellFormed', lines'⟩ :=
      ageLoop_line ((line :: next :: rest).length + less) malloc c queued wellFormed split place
    -- the record at the next index is the one behind `next`
    have skipped : table'.lines = (front ++ [next]) ++ rest := by
      rw [lines', if_pos old, List.append_assoc]
      rfl
    have smaller : rest.length < (line :: next :: rest).length + less := by
      simp only [List.length_cons]
      omega
    have place' : (front ++ [next]).length = i + 1 := by simp [place]
    obtain ⟨table'', ran, wellFormed'', lines''⟩ := ih wellFormed' skipped place' smaller
    refine ⟨table'', ?_, wellFormed'', ?_⟩
    · rw [Sweep.visited, if_pos old, append_queuedFrom_cons]
      exact turn.trans ran
    · rw [lines'', Sweep.skipping, if_pos old, List.append_assoc]
      rfl
  | case5 line next rest young ih =>
    obtain ⟨less, rfl⟩ := Nat.exists_eq_add_of_lt enough
    obtain ⟨table', turn, wellFormed', lines'⟩ :=
      ageLoop_line ((line :: next :: rest).length + less) malloc c queued wellFormed split place
    have moved : table'.lines = (front ++ [line.aged]) ++ next :: rest := by
      rw [lines', if_neg young, List.append_assoc]
      rfl
    have smaller : (next :: rest).length < (line :: next :: rest).length + less := by
      simp only [List.length_cons]
      omega
    have place' : (front ++ [line.aged]).length = i + 1 := by simp [place]
    obtain ⟨table'', ran, wellFormed'', lines''⟩ := ih wellFormed' moved place' smaller
    refine ⟨table'', ?_, wellFormed'', ?_⟩
    · rw [Sweep.visited, if_neg young, append_queuedFrom_cons]
      exact turn.trans ran
    · rw [lines'', Sweep.skipping, if_neg young, List.append_assoc]
      rfl

/-- **A tick.** It ends, inside the array, since a turn that deletes a record also moves on. -/
theorem voidCallback_lines (malloc : Nat → Option Buffer)
    (wellFormed : ArpTable.WellFormed config c.arpTable) :
    ∃ table, voidCallback config c malloc =
        .ok ({ c with arpTable := table },
          queuedFrom config malloc c 0 (agedLines config c.arpTable)) ∧
      ArpTable.WellFormed config table ∧
      table.lines =
        Sweep.skipping ArpTableLine.aged (ArpTableLine.expired config) c.arpTable.lines :=
  ageLoop_lines malloc c wellFormed (List.nil_append _).symm rfl (by simp)

end Loop

end Jblib.Ethutilities.ArpController
