/-
**The pool that the constructor builds.**

* `skipOwn` — the `i`-th integer from the first one on, the server's own octet left out;
  `skipOwn_mem`, `exists_skipOwn`: it goes through the whole range but that octet.
* `poolLoop_plain`, `poolLoop_own` — turns of the loop that do not meet the server's address, and the
  one that does. **`poolLoop_spec`**: what the loop leaves in the entries.
* **`pool_sound_iff`** — the pool is the range that was asked for, without the server's address,
  exactly if the range ends at 255 or before: the octets are 8-bit values and wrap.
-/

import EthUtilities.DhcpServer.Leases

namespace Jblib.Ethutilities.DhcpServer

open Library

/-- The last byte of an address. -/
def lastOctet (ip : Ip) : UInt8 := ip.val.getD 3 0

/-! ### Entries -/

section Entries

variable {addr : Ip} {last : UInt8}

theorem lastOctet_poolEntry : lastOctet (poolEntry addr last).addr = last := by
  have size := addr.property
  simp [lastOctet, poolEntry, size]

theorem take_poolEntry : (poolEntry addr last).addr.val.take 3 = addr.val.take 3 := by
  show (addr.val.set 3 last).take 3 = _
  rw [List.take_set, List.set_eq_of_length_le (List.length_take_le 3 _)]

end Entries

/-! ### The loop -/

section Loop

variable {addr : Ip} {fuel i k : Nat} {startIp ipCount : UInt8} {entries : Nat → DhcpEntry}

theorem poolLoop_end (done : ipCount.toNat ≤ i) :
    poolLoop addr fuel i startIp ipCount entries = (ipCount, entries) := by
  cases fuel with
  | zero => rfl
  | succ fuel => rw [poolLoop, if_neg (Nat.not_lt.mpr done)]

/-- Turns that do not meet the server's address. -/
theorem poolLoop_plain (inside : i + k ≤ ipCount.toNat)
    (apart : ∀ j, i ≤ j → j < i + k → startIp.toNat + j ≠ (lastOctet addr).toNat) :
    poolLoop addr (fuel + k) i startIp ipCount entries =
      poolLoop addr fuel (i + k) startIp ipCount fun j =>
        if i ≤ j ∧ j < i + k then poolEntry addr (startIp + UInt8.ofNat j) else entries j := by
  induction k generalizing i entries with
  | zero =>
    have none : ∀ j, ¬ (i ≤ j ∧ j < i) := fun j => by omega
    simp [none]
  | succ k ih =>
    have different : ¬ startIp.toNat + i = (addr.val.getD 3 0).toNat :=
      apart i (Nat.le_refl i) (by omega)
    rw [← Nat.add_assoc, poolLoop, if_pos (by omega)]
    dsimp only
    rw [if_neg different, if_neg different, ih (by omega) fun j after before =>
      apart j (by omega) (by omega), Nat.add_assoc, Nat.add_comm 1 k]
    congr 1
    funext j
    by_cases here : j = i
    · rw [here, if_neg (by omega), Function.update_self, if_pos (by omega)]
    · rw [Function.update_of_ne here]
      exact if_congr (by omega) rfl rfl

/-- The loop to its end, when it does not meet the server's address any more. -/
theorem poolLoop_rest (enough : ipCount.toNat ≤ i + fuel)
    (apart : ∀ j, i ≤ j → j < ipCount.toNat → startIp.toNat + j ≠ (lastOctet addr).toNat) :
    poolLoop addr fuel i startIp ipCount entries = (ipCount, fun j =>
      if i ≤ j ∧ j < ipCount.toNat then poolEntry addr (startIp + UInt8.ofNat j)
      else entries j) := by
  rcases Nat.lt_or_ge i ipCount.toNat with more | done
  · obtain ⟨k, turns⟩ := Nat.exists_eq_add_of_le (Nat.le_of_lt more)
    obtain ⟨less, rfl⟩ : ∃ less, fuel = less + k := ⟨fuel - k, by omega⟩
    rw [poolLoop_plain (by omega) fun j after before => apart j after (by omega),
      poolLoop_end (by omega), turns]
  · have none : ∀ j, ¬ (i ≤ j ∧ j < ipCount.toNat) := fun j => by omega
    rw [poolLoop_end done]
    simp [none]

/-- The turn that meets it. -/
theorem poolLoop_own (inside : i < ipCount.toNat)
    (own : startIp.toNat + i = (lastOctet addr).toNat) :
    poolLoop addr (fuel + 1) i startIp ipCount entries =
      poolLoop addr fuel (i + 1) (startIp + 1) (ipCount - 1)
        (Function.update entries i (poolEntry addr (startIp + 1 + UInt8.ofNat i))) := by
  have own' : startIp.toNat + i = (addr.val.getD 3 0).toNat := own
  rw [poolLoop, if_pos inside]
  dsimp only
  rw [if_pos own', if_pos own']

end Loop

/-! ### The range -/

/-- The `i`-th integer from `start` on that is not `own`. -/
def skipOwn (own start i : Nat) : Nat :=
  if start ≤ own ∧ own ≤ start + i then start + i + 1 else start + i

/-- How many of the `count` integers from `start` on are not `own`. -/
def countOthers (own start count : Nat) : Nat :=
  if start ≤ own ∧ own < start + count then count - 1 else count

section Range

variable {own start count i j n : Nat}

theorem skipOwn_injective (same : skipOwn own start i = skipOwn own start j) : i = j := by
  unfold skipOwn at same
  split_ifs at same <;> omega

theorem skipOwn_ne : skipOwn own start i ≠ own := by
  unfold skipOwn
  split_ifs <;> omega

theorem skipOwn_mem (inside : i < countOthers own start count) :
    start ≤ skipOwn own start i ∧ skipOwn own start i < start + count := by
  unfold countOthers at inside
  unfold skipOwn
  split_ifs at inside ⊢ <;> omega

/-- Nothing else is left out. -/
theorem exists_skipOwn (inside : start ≤ n ∧ n < start + count) (other : n ≠ own) :
    ∃ i < countOthers own start count, skipOwn own start i = n := by
  unfold countOthers skipOwn
  by_cases skipped : start ≤ own ∧ own < n
  · refine ⟨n - start - 1, ?_, ?_⟩
    · rw [if_pos (by omega)]
      omega
    · rw [if_pos (by omega)]
      omega
  · refine ⟨n - start, ?_, ?_⟩
    · split_ifs <;> omega
    · rw [if_neg (by omega)]
      omega

end Range

section Spec

variable {addr : Ip} {startIp ipCount : UInt8} {entries : Nat → DhcpEntry}

theorem ofNat_octet (startIp : UInt8) (i : Nat) :
    startIp + UInt8.ofNat i = UInt8.ofNat (startIp.toNat + i) := by
  rw [UInt8.ofNat_add, UInt8.ofNat_toNat]

theorem ofNat_octet_succ (startIp : UInt8) (i : Nat) :
    startIp + 1 + UInt8.ofNat i = UInt8.ofNat (startIp.toNat + i + 1) := by
  rw [UInt8.ofNat_add, UInt8.ofNat_add, UInt8.ofNat_toNat, UInt8.add_assoc, UInt8.add_comm 1,
    ← UInt8.add_assoc]
  rfl

/-- **What the loop leaves.** -/
theorem poolLoop_spec (positive : 0 < ipCount.toNat) :
    (poolLoop addr ipCount.toNat 0 startIp ipCount entries).1.toNat =
        countOthers (lastOctet addr).toNat startIp.toNat ipCount.toNat ∧
      (∀ i < countOthers (lastOctet addr).toNat startIp.toNat ipCount.toNat,
        (poolLoop addr ipCount.toNat 0 startIp ipCount entries).2 i = poolEntry addr
          (UInt8.ofNat (skipOwn (lastOctet addr).toNat startIp.toNat i))) ∧
      ∀ i, ipCount.toNat ≤ i →
        (poolLoop addr ipCount.toNat 0 startIp ipCount entries).2 i = entries i := by
  have octet := (lastOctet addr).toNat_lt
  have small := ipCount.toNat_lt
  by_cases meets : startIp.toNat ≤ (lastOctet addr).toNat ∧
      (lastOctet addr).toNat < startIp.toNat + ipCount.toNat
  · obtain ⟨k, own⟩ := Nat.exists_eq_add_of_le meets.1
    obtain ⟨rest, turns⟩ : ∃ rest, ipCount.toNat = rest + 1 + k :=
      ⟨ipCount.toNat - 1 - k, by omega⟩
    have fewer : (ipCount - 1).toNat = ipCount.toNat - 1 :=
      UInt8.toNat_sub_of_le _ _ (UInt8.le_iff_toNat_le.mpr positive)
    have next : (startIp + 1).toNat = (startIp.toNat + 1) % 256 := UInt8.toNat_add _ _
    have plain : poolLoop addr (rest + 1 + k) 0 startIp ipCount entries = _ :=
      poolLoop_plain (by omega) fun j after before => by omega
    have ran := plain.trans ((poolLoop_own (by omega) (by omega)).trans
      (poolLoop_rest (by omega) fun j after before => by omega))
    rw [← turns, Nat.zero_add] at ran
    rw [ran, countOthers, if_pos meets]
    refine ⟨fewer, fun i inside => ?_, fun i outside => ?_⟩
    · dsimp only
      by_cases behind : k + 1 ≤ i
      · rw [if_pos ⟨behind, by omega⟩, ofNat_octet_succ, skipOwn, if_pos (by omega)]
      · rw [if_neg (by omega)]
        by_cases here : i = k
        · rw [here, Function.update_self, ofNat_octet_succ, skipOwn, if_pos (by omega)]
        · rw [Function.update_of_ne here, if_pos (by omega), ofNat_octet, skipOwn,
            if_neg (by omega)]
    · dsimp only
      rw [if_neg (by omega), Function.update_of_ne (by omega), if_neg (by omega)]
  · rw [poolLoop_rest (by omega) fun j after before => by omega, countOthers, if_neg meets]
    refine ⟨rfl, fun i inside => ?_, fun i outside => ?_⟩
    · dsimp only
      rw [if_pos ⟨Nat.zero_le i, inside⟩, skipOwn, if_neg (by omega), ofNat_octet]
    · dsimp only
      rw [if_neg (by omega)]

end Spec

/-! ### The pool -/

/-- **The pool is what was asked for.** `before` is the memory that the constructor got for the
entries. -/
structure PoolSound (startIp ipCount : UInt8) (before : Nat → DhcpEntry) (config : DhcpConfig) :
    Prop where
  distinct : ∀ i < config.numEntry, ∀ j < config.numEntry,
    (config.entries i).addr = (config.entries j).addr → i = j
  network : ∀ i < config.numEntry, (config.entries i).addr.val.take 3 = config.addr.val.take 3
  others : ∀ i < config.numEntry, (config.entries i).addr ≠ config.addr
  inRange : ∀ i < config.numEntry, startIp.toNat ≤ (lastOctet (config.entries i).addr).toNat ∧
    (lastOctet (config.entries i).addr).toNat < startIp.toNat + ipCount.toNat
  complete : startIp.toNat + ipCount.toNat ≤ 256 → ∀ octet : UInt8,
    startIp.toNat ≤ octet.toNat ∧ octet.toNat < startIp.toNat + ipCount.toNat ∧
        octet ≠ lastOctet config.addr ↔
      ∃ i < config.numEntry, lastOctet (config.entries i).addr = octet
  allocated : ∀ i, ipCount.toNat ≤ i → config.entries i = before i

section Pool

variable {startIp ipCount : UInt8} {before : Nat → DhcpEntry} {config : DhcpConfig}

/-- A pool with the entries that the loop leaves. -/
theorem poolSound_iff_of_spec
    (counted : config.numEntry =
      countOthers (lastOctet config.addr).toNat startIp.toNat ipCount.toNat)
    (filled : ∀ i < config.numEntry, config.entries i = poolEntry config.addr
      (UInt8.ofNat (skipOwn (lastOctet config.addr).toNat startIp.toNat i)))
    (allocated : ∀ i, ipCount.toNat ≤ i → config.entries i = before i) :
    PoolSound startIp ipCount before config ↔ startIp.toNat + ipCount.toNat ≤ 256 := by
  have own := (lastOctet config.addr).toNat_lt
  have start := startIp.toNat_lt
  have octet : ∀ i < config.numEntry, (lastOctet (config.entries i).addr).toNat =
      skipOwn (lastOctet config.addr).toNat startIp.toNat i % 256 := fun i inside => by
    rw [filled i inside, lastOctet_poolEntry, UInt8.toNat_ofNat']
  constructor
  · intro sound
    by_contra long
    -- the last entry has the last octet of the range, which wraps
    obtain ⟨i, inside, last⟩ : ∃ i < config.numEntry,
        skipOwn (lastOctet config.addr).toNat startIp.toNat i =
          startIp.toNat + ipCount.toNat - 1 :=
      counted ▸ exists_skipOwn (by omega) (by omega)
    have range := sound.inRange i inside
    rw [octet i inside, last] at range
    have small := ipCount.toNat_lt
    omega
  · intro fits
    have mem : ∀ i < config.numEntry, _ := fun i inside => skipOwn_mem (counted ▸ inside)
    have value : ∀ i < config.numEntry, (lastOctet (config.entries i).addr).toNat =
        skipOwn (lastOctet config.addr).toNat startIp.toNat i := fun i inside => by
      rw [octet i inside]
      exact Nat.mod_eq_of_lt (Nat.lt_of_lt_of_le (mem i inside).2 fits)
    exact {
      distinct := fun i inside j inside' same => by
        have octets := congrArg (UInt8.toNat ∘ lastOctet) same
        exact skipOwn_injective ((value i inside).symm.trans (octets.trans (value j inside')))
      network := fun i inside => by rw [filled i inside, take_poolEntry]
      others := fun i inside same => skipOwn_ne ((value i inside).symm.trans (by rw [same]))
      inRange := fun i inside => by
        rw [value i inside]
        exact mem i inside
      complete := fun _ octet => by
        constructor
        · rintro ⟨after, before, different⟩
          obtain ⟨i, inside, same⟩ := exists_skipOwn ⟨after, before⟩ fun same =>
            different (UInt8.toNat_inj.mp same)
          rw [← counted] at inside
          exact ⟨i, inside, UInt8.toNat_inj.mp ((value i inside).trans same)⟩
        · rintro ⟨i, inside, rfl⟩
          rw [value i inside]
          refine ⟨(mem i inside).1, (mem i inside).2, fun same => ?_⟩
          exact skipOwn_ne ((value i inside).symm.trans (congrArg UInt8.toNat same))
      allocated := allocated }

end Pool

/-- **When the constructor's pool is the range without the server's address.** -/
theorem pool_sound_iff (ipAddr : UInt32) (domain : Option Domain) (startIp : UInt8) {ipCount : UInt8}
    (positive : 1 ≤ ipCount.toNat) (entries : Nat → DhcpEntry) :
    ∃ s, construct ipAddr domain startIp ipCount (some entries) = some s ∧
      (PoolSound startIp ipCount entries s.config ↔ startIp.toNat + ipCount.toNat ≤ 256) := by
  have some : ¬ ipCount = 0 := fun zero => by
    rw [zero] at positive
    exact absurd positive (by decide)
  unfold construct
  dsimp only
  rw [if_neg some]
  refine ⟨_, rfl, ?_⟩
  obtain ⟨counted, filled, allocated⟩ := poolLoop_spec positive
  exact poolSound_iff_of_spec counted (fun i inside => filled i (counted ▸ inside)) allocated

/-- Memory as the constructor may get it. -/
def sampleMemory : Nat → DhcpEntry := fun _ => ⟨noMac, Bytes.zero 4, Bytes.zero 4, 0⟩

/-- Ten addresses from 192.168.4.250 on. The eighth one is the server's own, 192.168.4.1. -/
theorem pool_wraps : 1 ≤ (10 : UInt8).toNat ∧
    ∃ s, construct 0x0104A8C0 none 250 10 (some sampleMemory) = some s ∧
      ¬ PoolSound 250 10 sampleMemory s.config :=
  ⟨by decide, _, rfl, fun sound => sound.others 7 (by decide +kernel) (by decide +kernel)⟩

theorem pool_sound_sample : ∃ s, construct 0x0104A8C0 none 1 255 (some sampleMemory) = some s ∧
    PoolSound 1 255 sampleMemory s.config := by
  obtain ⟨s, built, sound⟩ := @pool_sound_iff 0x0104A8C0 none 1 255 (by decide) sampleMemory
  exact ⟨s, built, sound.mpr (by decide)⟩

end Jblib.Ethutilities.DhcpServer
