/-
**When a tick of the ARP table is exact.**

* `AgesExactly` — a tick ages every record and deletes exactly those that became too old.
* **`ageing_exact_iff`** — it does so if and only if no record but the last one becomes too old.
-/

import EthUtilities.ArpController.TableRuns

namespace Jblib.Ethutilities.ArpController

open Library EthernetUtilities

/-- **A tick is exact**: every record is one tick older, and those older than
`ARP_CONTROLLER_DELETE_RECORD_TIME` are gone. -/
def AgesExactly (config : ArpConfig) (c : ArpController) (malloc : Nat → Option Buffer) : Prop :=
  ∃ c' queued, voidCallback config c malloc = .ok (c', queued) ∧
    c'.arpTable.lines = Sweep.sweep ArpTableLine.aged (ArpTableLine.expired config) c.arpTable.lines

section Tick

variable {config : ArpConfig} {c : ArpController} (malloc : Nat → Option Buffer)

/-- All records but the last one. -/
theorem forall_mem_dropLast_lines {table : ArpTable} {P : ArpTableLine → Prop} :
    (∀ line ∈ table.lines.dropLast, P line) ↔
      ∀ i, i + 1 < table.recordCounter → P (table.line i) := by
  rw [List.forall_mem_iff_getElem]
  simp only [List.length_dropLast, List.getElem_dropLast, ArpTable.getElem_lines,
    ArpTable.length_lines]
  exact forall_congr' fun i => ⟨fun holds before => holds (by omega),
    fun holds before => holds (by omega)⟩

theorem agesExactly_iff_of_wellFormed (wellFormed : ArpTable.WellFormed config c.arpTable)
    (young : ∀ line ∈ c.arpTable.lines, line.timeAfterUpdate.toNat < 4294967295) :
    AgesExactly config c malloc ↔ ∀ i, i + 1 < c.arpTable.recordCounter →
      (c.arpTable.line i).timeAfterUpdate.toNat + 1 ≤ config.deleteRecordTime := by
  obtain ⟨table, ran, -, lines'⟩ := voidCallback_lines malloc wellFormed
  have exactly_iff : AgesExactly config c malloc ↔
      Sweep.skipping ArpTableLine.aged (ArpTableLine.expired config) c.arpTable.lines =
        Sweep.sweep ArpTableLine.aged (ArpTableLine.expired config) c.arpTable.lines := by
    constructor
    · rintro ⟨c', queued, ran', swept⟩
      obtain ⟨rfl, -⟩ := Prod.mk.inj (Except.ok.inj (ran.symm.trans ran'))
      exact lines'.symm.trans swept
    · intro same
      exact ⟨_, _, ran, lines'.trans same⟩
  have byIndex := @forall_mem_dropLast_lines c.arpTable fun line =>
    line.timeAfterUpdate.toNat + 1 ≤ config.deleteRecordTime
  rw [exactly_iff, Sweep.skipping_eq_sweep_iff fun line _ => line.aged_ne, ← byIndex]
  refine forall₂_congr fun line member => ?_
  have small := young line ((List.dropLast_sublist _).mem member)
  have next : (line.timeAfterUpdate + 1).toNat = line.timeAfterUpdate.toNat + 1 := by
    rw [UInt32.toNat_add]
    exact Nat.mod_eq_of_lt (Nat.succ_lt_succ small)
  rw [ArpTableLine.expired, ArpTableLine.aged, next]
  simp

end Tick

/-- **When a tick is exact.** -/
theorem ageing_exact_iff {config : ArpConfig} (positive : 0 < config.arpTableSize)
    {start c : ArpController} (fresh : Fresh start) {events : List Event}
    (reached : (arp config).run (.ok start) events = .ok c)
    (young : ∀ line ∈ c.arpTable.lines, line.timeAfterUpdate.toNat < 4294967295)
    (malloc : Nat → Option Buffer) :
    AgesExactly config c malloc ↔ ∀ i, i + 1 < c.arpTable.recordCounter →
      (c.arpTable.line i).timeAfterUpdate.toNat + 1 ≤ config.deleteRecordTime :=
  agesExactly_iff_of_wellFormed malloc (wellFormed_reached fresh positive reached) young

/-- Records are deleted in their third tick. -/
def ageingConfig : ArpConfig := ⟨4, 1, 1, 2⟩

/-- Two hosts that sent one frame, two ticks ago. -/
def ageingEvents : List Event :=
  [.parseFrame (sampleReply 2) 42 true none, .parseFrame (sampleReply 3) 42 true none,
    .voidCallback fun _ => none, .voidCallback fun _ => none]

/-- Where a run of the sample controller ends. -/
def reachedFrom (config : ArpConfig) (events : List Event) : ArpController :=
  ((arp config).run (.ok sampleController) events).toOption.getD sampleController

theorem reachedFrom_reached {config : ArpConfig} (positive : 1 ≤ config.arpTableSize)
    (small : config.arpTableSize ≤ 32767) (events : List Event) :
    (arp config).run (.ok sampleController) events = .ok (reachedFrom config events) := by
  obtain ⟨c, ran, -⟩ := run_ok sampleController_fresh positive small events
  rw [reachedFrom, ran]
  rfl

theorem ageing_exact_sample :
    AgesExactly ageingConfig (reachedFrom ageingConfig (ageingEvents.take 3)) fun _ => none := by
  refine (ageing_exact_iff (by decide) sampleController_fresh
    (reachedFrom_reached (by decide) (by decide) _) (by decide +kernel) _).mpr fun i before => ?_
  have two : (reachedFrom ageingConfig (ageingEvents.take 3)).arpTable.recordCounter = 2 := by
    decide +kernel
  obtain rfl : i = 0 := by omega
  decide +kernel

/-- In the third tick both records are too old. The second one is skipped. -/
theorem ageing_skips : Fresh sampleController ∧
    (arp ageingConfig).run (.ok sampleController) ageingEvents =
      .ok (reachedFrom ageingConfig ageingEvents) ∧
    (∀ line ∈ (reachedFrom ageingConfig ageingEvents).arpTable.lines,
      line.timeAfterUpdate.toNat < 4294967295) ∧
    ¬ AgesExactly ageingConfig (reachedFrom ageingConfig ageingEvents) fun _ => none := by
  have reached := reachedFrom_reached (show 1 ≤ ageingConfig.arpTableSize by decide) (by decide)
    ageingEvents
  have wellFormed := wellFormed_reached sampleController_fresh (by decide) reached
  have young : ∀ line ∈ (reachedFrom ageingConfig ageingEvents).arpTable.lines,
      line.timeAfterUpdate.toNat < 4294967295 := by decide +kernel
  refine ⟨sampleController_fresh, reached, young, fun exactly => ?_⟩
  have first := (agesExactly_iff_of_wellFormed _ wellFormed young).mp exactly 0 (by decide +kernel)
  exact absurd first (by decide +kernel)

end Jblib.Ethutilities.ArpController
