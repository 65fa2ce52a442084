/-
**`calculateNetworkChecksum`, byte by byte.**

* `checkedChecksum` — the code with a log of the addresses it reads. A 16-bit index or a 32-bit sum
  that wraps is a fault, and so is a loop that does not end.
* `checkedWords_returns` — the loop reads all but the last word, in order, without a fault.
* `InternetSum` — the one's-complement sum of a start value and a byte string. `InternetSum.unique`:
  there is one such 16-bit value.
* **`checksum_exact`** — the code reads every byte of the string once and no other byte, ends without
  a fault and returns the one's-complement sum; so the sum of a string cut at an even place is the sum
  of the second part started with the sum of the first.
-/

import EthUtilities.Library.Logged
import EthUtilities.EthernetUtilities.NetworkChecksum

namespace Jblib.Ethutilities

open Library OnesComplement

namespace EthernetUtilities

/-! ### The code with its reads -/

/-- What must not happen. -/
inductive SumFault
  /-- the 16-bit index wraps -/
  | index
  /-- the 32-bit sum wraps -/
  | sum
  /-- the loop does not end -/
  | diverges
  deriving DecidableEq

/-- A computation that logs the addresses it reads. -/
abbrev Reading := Logged Nat SumFault

section Code

variable (memory : Buffer) (data : Nat)

/-- A byte is read. -/
def readByte (address : Nat) : Reading UInt8 := do
  Logged.log address
  pure (memory address)

/-- `sum += word`. -/
def addTo (sum word : UInt32) : Reading UInt32 :=
  if sum.toNat + word.toNat < 4294967296 then pure (sum + word) else Logged.fault .sum

/-- `i += 2`. -/
def advance (i : UInt16) : Reading UInt16 :=
  if i.toNat + 2 < 65536 then pure (i + 2) else Logged.fault .index

/-- The loop from index `i` on. -/
def checkedWords (dataSize : UInt16) : (fuel : Nat) → (i : UInt16) → (sum : UInt32) → Reading UInt32
  | 0, _, _ => Logged.fault .diverges
  | fuel + 1, i, sum =>
    if (i.toNat : Int) < dataSize.toNat - 2 then do
      let high ← readByte memory (data + i.toNat)
      let low ← readByte memory (data + i.toNat + 1)
      let sum ← addTo sum (high.toUInt32 <<< 8 + low.toUInt32)
      let i ← advance i
      checkedWords dataSize fuel i sum
    else pure sum

/-- What is added behind the loop. -/
def checkedLast (dataSize : UInt16) : Reading UInt32 :=
  if dataSize &&& 1 ≠ 0 then do
    let high ← readByte memory (data + dataSize.toNat - 1)
    pure (high.toUInt32 <<< 8)
  else do
    let high ← readByte memory (data + dataSize.toNat - 2)
    let low ← readByte memory (data + dataSize.toNat - 1)
    pure (high.toUInt32 <<< 8 + low.toUInt32)

/-- `calculateNetworkChecksum(memory + data, dataSize, startValue)`, step by step. -/
def checkedChecksum (dataSize startValue : UInt16) : Reading UInt16 := do
  let sum ← checkedWords memory data dataSize dataSize.toNat 0 0
  let last ← checkedLast memory data dataSize
  let sum ← addTo sum last
  let sum ← addTo sum startValue.toUInt32
  let sum ← addTo (sum &&& (0xffff : UInt32)) (sum >>> 16)
  let sum ← addTo (sum &&& (0xffff : UInt32)) (sum >>> 16)
  pure sum.toUInt16

end Code

/-! ### The reads -/

section Reads

variable {memory : Buffer} {data : Nat} {dataSize startValue : UInt16}

theorem readByte_returns (address : Nat) :
    (readByte memory address).Returns [address] (memory address) := rfl

theorem addTo_returns {sum word : UInt32} (small : sum.toNat + word.toNat < 4294967296) :
    (addTo sum word).Returns [] (sum + word) := by
  rw [addTo, if_pos small]
  rfl

theorem advance_returns {i : UInt16} (small : i.toNat + 2 < 65536) :
    (advance i).Returns [] (i + 2) := by
  rw [advance, if_pos small]
  rfl

/-- **The loop** reads the bytes of its words, one after the other. -/
theorem checkedWords_returns {passes fuel fuel' : Nat} {i : UInt16} {sum : UInt32}
    (enough : passes < fuel) (enough' : passes ≤ fuel')
    (left : i.toNat + 2 * passes = loopBytes dataSize.toNat)
    (small : sum.toNat + passes * 65535 < 4294967296) :
    (checkedWords memory data dataSize fuel i sum).Returns
      ((List.range' i.toNat (2 * passes)).map (data + ·))
      (sumWords memory data dataSize fuel' i sum) := by
  have size := dataSize.toNat_lt
  unfold loopBytes at left
  induction passes generalizing fuel fuel' i sum with
  | zero =>
    obtain ⟨less, rfl⟩ : ∃ less, fuel = less + 1 := ⟨fuel - 1, by omega⟩
    have ended : ¬ (i.toNat : Int) < dataSize.toNat - 2 := by omega
    have stopped : sumWords memory data dataSize fuel' i sum = sum := by
      cases fuel' with
      | zero => rfl
      | succ fuel' => rw [sumWords, if_neg ended]
    rw [checkedWords, if_neg ended, stopped]
    rfl
  | succ passes ih =>
    obtain ⟨less, rfl⟩ : ∃ less, fuel = less + 1 := ⟨fuel - 1, by omega⟩
    obtain ⟨less', rfl⟩ : ∃ less, fuel' = less + 1 := ⟨fuel' - 1, by omega⟩
    have goes : (i.toNat : Int) < dataSize.toNat - 2 := by omega
    have fits := word_le (memory (data + i.toNat)) (memory (data + i.toNat + 1))
    have next : (i + 2).toNat = i.toNat + 2 := by
      rw [UInt16.toNat_add]
      exact Nat.mod_eq_of_lt (show i.toNat + 2 < 65536 by omega)
    have wordSize : (dataWord memory data i.toNat).toNat =
        word (memory (data + i.toNat)) (memory (data + i.toNat + 1)) := toNat_bytes _ _
    have room : sum.toNat + (dataWord memory data i.toNat).toNat < 4294967296 := by
      rw [wordSize]
      omega
    have added : (sum + dataWord memory data i.toNat).toNat =
        sum.toNat + word (memory (data + i.toNat)) (memory (data + i.toNat + 1)) := by
      rw [UInt32.toNat_add, Nat.mod_eq_of_lt room, wordSize]
    have rest := @ih less less' (i + 2) (sum + dataWord memory data i.toNat) (by omega) (by omega)
      (by omega) (by omega)
    rw [next] at rest
    rw [checkedWords, if_pos goes, sumWords, if_pos goes]
    exact (readByte_returns _).bind ((readByte_returns _).bind
      ((addTo_returns room).bind ((advance_returns (by omega)).bind rest)))

/-- Behind the loop one byte or two are left. -/
theorem checkedLast_returns (some : dataSize ≠ 0) :
    (checkedLast memory data dataSize).Returns
      ((List.range' (loopBytes dataSize.toNat) (dataSize.toNat - loopBytes dataSize.toNat)).map
        (data + ·)) (lastWord memory data dataSize) := by
  have nonzero : dataSize.toNat ≠ 0 := fun none => some (UInt16.toNat_inj.mp none)
  unfold checkedLast lastWord
  by_cases odd : dataSize &&& 1 ≠ 0
  · have single : dataSize.toNat % 2 = 1 := odd_iff.mp odd
    have one : dataSize.toNat - loopBytes dataSize.toNat = 1 := by
      unfold loopBytes
      omega
    have place : data + dataSize.toNat - 1 = data + loopBytes dataSize.toNat := by omega
    rw [if_pos odd, if_pos odd, one, place]
    exact (readByte_returns _).bind Logged.returns_pure
  · have even : dataSize.toNat % 2 ≠ 1 := fun single => odd (odd_iff.mpr single)
    have two : dataSize.toNat - loopBytes dataSize.toNat = 2 := by
      unfold loopBytes
      omega
    have place : data + dataSize.toNat - 2 = data + loopBytes dataSize.toNat := by omega
    have place' : data + dataSize.toNat - 1 = data + (loopBytes dataSize.toNat + 1) := by omega
    rw [if_neg odd, if_neg odd, two, place, place']
    exact (readByte_returns _).bind ((readByte_returns _).bind Logged.returns_pure)

/-- The two folds do not overflow. -/
theorem fold_small (sum : UInt32) :
    (sum &&& (0xffff : UInt32)).toNat + (sum >>> 16).toNat < 4294967296 := by
  have low : (sum &&& (0xffff : UInt32)).toNat ≤ 65535 := by
    rw [UInt32.toNat_and]
    exact Nat.and_le_right
  have high : (sum >>> 16).toNat < 65536 := by
    rw [UInt32.toNat_shiftRight]
    show sum.toNat >>> 16 < 65536
    rw [Nat.shiftRight_eq_div_pow]
    exact Nat.div_lt_of_lt_mul sum.toNat_lt
  omega

/-- **The code reads every byte once**, from the first to the last, and nothing else; no index and no
sum wraps, and the loop ends. -/
theorem checkedChecksum_returns (some : dataSize ≠ 0) :
    (checkedChecksum memory data dataSize startValue).Returns
      ((List.range dataSize.toNat).map (data + ·))
      (calculateNetworkChecksum memory data dataSize startValue) := by
  have nonzero : dataSize.toNat ≠ 0 := fun none => some (UInt16.toNat_inj.mp none)
  have size := dataSize.toNat_lt
  have startFits := startValue.toNat_lt
  have bound := total_summedWords_le memory data dataSize
  have all := @toNat_sumWords_lastWord memory data dataSize fun none => absurd none some
  have loop := @checkedWords_returns memory data dataSize ((dataSize.toNat - 1) / 2) dataSize.toNat
    dataSize.toNat 0 0 (by omega) (by omega) (Nat.zero_add _) (by
      show 0 + (dataSize.toNat - 1) / 2 * 65535 < 4294967296
      omega)
  have reads : (List.range dataSize.toNat).map (data + ·) =
      (List.range' 0 (loopBytes dataSize.toNat)).map (data + ·) ++
        (List.range' (loopBytes dataSize.toNat)
          (dataSize.toNat - loopBytes dataSize.toNat)).map (data + ·) := by
    have behind := @List.range'_append_1 0 (loopBytes dataSize.toNat)
      (dataSize.toNat - loopBytes dataSize.toNat)
    have split : loopBytes dataSize.toNat + (dataSize.toNat - loopBytes dataSize.toNat) =
        dataSize.toNat := by
      unfold loopBytes
      omega
    rw [Nat.zero_add, split] at behind
    rw [List.range_eq_range', ← behind, List.map_append]
  have started : (sumWords memory data dataSize dataSize.toNat 0 0 +
      lastWord memory data dataSize).toNat + startValue.toUInt32.toNat < 4294967296 := by
    rw [UInt32.toNat_add, UInt16.toNat_toUInt32]
    omega
  rw [reads]
  refine loop.bind ?_
  rw [← List.append_nil (List.map _ _)]
  refine (checkedLast_returns some).bind ?_
  refine (addTo_returns (by omega)).bind ?_
  refine (addTo_returns started).bind ?_
  refine (addTo_returns (fold_small _)).bind ?_
  exact (addTo_returns (fold_small _)).bind Logged.returns_pure

end Reads

/-! ### The result -/

/-- `v` is the one's-complement sum of a start value and the big-endian words of a byte string. -/
structure InternetSum (startValue : UInt16) (bytes : List UInt8) (v : UInt16) : Prop where
  modEq : v.toNat ≡ startValue.toNat + total (words bytes) [MOD 65535]
  zero : v = 0 ↔ startValue = 0 ∧ ∀ word ∈ words bytes, word = 0

section Sums

variable {startValue v w : UInt16} {bytes first second : List UInt8} {memory : Buffer} {data : Nat}

theorem eq_zero_iff_toNat : v = 0 ↔ v.toNat = 0 := UInt16.toNat_inj.symm

/-- Start value and words are all zero exactly if their sum is. -/
theorem all_zero_iff : (startValue = 0 ∧ ∀ word ∈ words bytes, word = 0) ↔
    startValue.toNat + total (words bytes) = 0 := by
  rw [Nat.add_eq_zero_iff, total_eq_zero_iff, eq_zero_iff_toNat]

theorem InternetSum.represents (sum : InternetSum startValue bytes v) :
    Represents 65535 v.toNat (startValue.toNat + total (words bytes)) where
  le := Nat.le_of_lt_succ v.toNat_lt
  modEq := sum.modEq
  zero none := all_zero_iff.mp (sum.zero.mp (eq_zero_iff_toNat.mpr none))

/-- **There is only one.** -/
theorem InternetSum.unique (sum : InternetSum startValue bytes v)
    (sum' : InternetSum startValue bytes w) : v = w := by
  by_cases nothing : startValue.toNat + total (words bytes) = 0
  · rw [sum.zero.mpr (all_zero_iff.mpr nothing), sum'.zero.mpr (all_zero_iff.mpr nothing)]
  · exact UInt16.toNat_inj.mp (sum.represents.unique sum'.represents nothing)

/-- The sum of a string that is cut at an even place. -/
theorem InternetSum.append (even : first.length % 2 = 0) (sum : InternetSum startValue first v)
    (rest : InternetSum v second w) : InternetSum startValue (first ++ second) w where
  modEq := by
    rw [words_append even, total_append, ← Nat.add_assoc]
    exact rest.modEq.trans (sum.modEq.add_right _)
  zero := by
    rw [rest.zero, sum.zero, words_append even, List.forall_mem_append, and_assoc]

/-- **`calculateNetworkChecksum`** computes it. -/
theorem internetSum_calculateNetworkChecksum (some : bytes ≠ []) (fits : bytes.length ≤ 65535)
    (held : memory.Holds data bytes) : InternetSum startValue bytes
      (calculateNetworkChecksum memory data (UInt16.ofNat bytes.length) startValue) where
  modEq := (represents_of_holds some fits held).modEq
  zero := by
    have size := toNat_length fits
    have nonzero : bytes.length ≠ 0 := fun none => some (List.length_eq_zero_iff.mp none)
    have zero := @calculateNetworkChecksum_eq_zero_iff memory data (UInt16.ofNat bytes.length)
      startValue fun none => by
        rw [none] at size
        exact absurd size.symm nonzero
    rwa [size, summedWords, if_neg nonzero, Buffer.holds_iff_read.mp held, ← all_zero_iff,
      ← eq_zero_iff_toNat] at zero

/-- **The Internet checksum**: every byte is read once, nothing wraps, the result is the
one's-complement sum, and it may be computed in two parts. -/
theorem checksum_exact (some : bytes ≠ []) (fits : bytes.length ≤ 65535)
    (held : memory.Holds data bytes) :
    (checkedChecksum memory data (UInt16.ofNat bytes.length) startValue).Returns
        ((List.range bytes.length).map (data + ·))
        (calculateNetworkChecksum memory data (UInt16.ofNat bytes.length) startValue) ∧
      (∀ v, InternetSum startValue bytes v ↔
        v = calculateNetworkChecksum memory data (UInt16.ofNat bytes.length) startValue) ∧
      ∀ a b, bytes = a ++ b → a.length % 2 = 0 → 2 ≤ a.length → b ≠ [] →
        ∀ memoryA dataA memoryB dataB, Buffer.Holds memoryA dataA a → Buffer.Holds memoryB dataB b →
          calculateNetworkChecksum memoryB dataB (UInt16.ofNat b.length)
              (calculateNetworkChecksum memoryA dataA (UInt16.ofNat a.length) startValue) =
            calculateNetworkChecksum memory data (UInt16.ofNat bytes.length) startValue := by
  have sum := @internetSum_calculateNetworkChecksum startValue bytes memory data some fits held
  refine ⟨?_, fun v => ⟨fun sum' => sum'.unique sum, fun same => same ▸ sum⟩, ?_⟩
  · have nonzero : UInt16.ofNat bytes.length ≠ 0 := fun none => by
      have size := toNat_length fits
      rw [none] at size
      exact some (List.length_eq_zero_iff.mp size.symm)
    have returns := @checkedChecksum_returns memory data _ startValue nonzero
    rwa [toNat_length fits] at returns
  · rintro a b rfl even two someB memoryA dataA memoryB dataB heldA heldB
    rw [List.length_append] at fits
    have sumA := @internetSum_calculateNetworkChecksum startValue a memoryA dataA
      (List.ne_nil_of_length_pos (by omega)) (by omega) heldA
    have sumB := @internetSum_calculateNetworkChecksum
      (calculateNetworkChecksum memoryA dataA (UInt16.ofNat a.length) startValue) b memoryB dataB
      someB (by omega) heldB
    exact (sumA.append even sumB).unique sum

/-- Seven bytes, of which the first four are summed on their own. -/
theorem checksum_exact_sample :
    calculateNetworkChecksum (Buffer.write (fun _ => 0) 9 [0x12, 0x34, 7]) 9 3
        (calculateNetworkChecksum (Buffer.write (fun _ => 0) 5 [0xFF, 0xFE, 0xAB, 0xCD]) 5 4 3) =
      calculateNetworkChecksum (Buffer.write (fun _ => 0) 0 [0xFF, 0xFE, 0xAB, 0xCD, 0x12, 0x34, 7])
        0 7 3 :=
  (@checksum_exact 3 [0xFF, 0xFE, 0xAB, 0xCD, 0x12, 0x34, 7]
    (Buffer.write (fun _ => 0) 0 [0xFF, 0xFE, 0xAB, 0xCD, 0x12, 0x34, 7]) 0 (by simp) (by simp)
    (Buffer.holds_iff_read.mpr Buffer.read_write_self)).2.2 [0xFF, 0xFE, 0xAB, 0xCD]
    [0x12, 0x34, 7] rfl rfl (by simp) (by simp) _ _ _ _
    (Buffer.holds_iff_read.mpr Buffer.read_write_self)
    (Buffer.holds_iff_read.mpr Buffer.read_write_self)

end Sums

end EthernetUtilities

end Jblib.Ethutilities
