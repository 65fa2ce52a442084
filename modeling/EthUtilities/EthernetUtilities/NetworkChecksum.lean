/-
**`calculateNetworkChecksum`: the one's-complement sum of a byte string.**

* `sumWords` — the loop over all words but the last, on its 16-bit index and 32-bit accumulator.
  `sumWords_eq`: neither wraps.
* `lastWord` — the last word, or the last byte of an odd length; of no bytes at all it is the word
  in front of them.
* `toNat_calculateNetworkChecksum` — the result is the sum of start value and words, folded twice;
  so it is that sum modulo 65535, and 0 only if the sum is.
-/

import EthUtilities.EthernetUtilities.Checksum

namespace Jblib.Ethutilities

open Library OnesComplement

namespace EthernetUtilities

section Code

variable (memory : Buffer) (data : Nat)

/-- `(((uint16_t)data[i]) << 8) + data[i+1]`. -/
def dataWord (i : Nat) : UInt32 :=
  (memory (data + i)).toUInt32 <<< 8 + (memory (data + i + 1)).toUInt32

/-- The loop from index `i` on. It ends by itself when `fuel` is at least half of `dataSize`. -/
def sumWords (dataSize : UInt16) : (fuel : Nat) → (i : UInt16) → (sum : UInt32) → UInt32
  | 0, _, sum => sum
  | fuel + 1, i, sum =>
    if (i.toNat : Int) < dataSize.toNat - 2 then
      sumWords dataSize fuel (i + 2) (sum + dataWord memory data i.toNat)
    else sum

/-- What is added behind the loop. -/
def lastWord (dataSize : UInt16) : UInt32 :=
  if dataSize &&& 1 ≠ 0 then (memory (data + dataSize.toNat - 1)).toUInt32 <<< 8
  else (memory (data + dataSize.toNat - 2)).toUInt32 <<< 8 +
    (memory (data + dataSize.toNat - 1)).toUInt32

/-- `calculateNetworkChecksum(memory + data, dataSize, startValue)`. -/
def calculateNetworkChecksum (dataSize startValue : UInt16) : UInt16 :=
  let sum := sumWords memory data dataSize dataSize.toNat 0 0
  let sum := sum + lastWord memory data dataSize
  let sum := sum + startValue.toUInt32
  let sum : UInt32 := (sum &&& (0xffff : UInt32)) + (sum >>> 16)
  let sum : UInt32 := (sum &&& (0xffff : UInt32)) + (sum >>> 16)
  sum.toUInt16

end Code

/-! ### Words -/

section Words

variable {memory : Buffer} {data : Nat} {dataSize startValue : UInt16}

theorem toNat_highByte (byte : UInt8) : (byte.toUInt32 <<< 8).toNat = byte.toNat * 256 := by
  have small := byte.toNat_lt
  simp only [UInt32.toNat_shiftLeft, UInt8.toNat_toUInt32, Nat.shiftLeft_eq]
  show byte.toNat * 256 % 4294967296 = _
  omega

theorem toNat_bytes (high low : UInt8) :
    (high.toUInt32 <<< 8 + low.toUInt32).toNat = word high low := by
  have fits := word_le high low
  unfold word at fits ⊢
  rw [UInt32.toNat_add, toNat_highByte, UInt8.toNat_toUInt32]
  omega

/-- The bytes that the loop reads: all but the last word. -/
def loopBytes (n : Nat) : Nat := 2 * ((n - 1) / 2)

/-- **The loop** adds up its words, and neither the index nor the accumulator wraps. -/
theorem sumWords_eq {passes fuel : Nat} {i : UInt16} {sum : UInt32} (enough : passes ≤ fuel)
    (left : i.toNat + 2 * passes = loopBytes dataSize.toNat)
    (small : sum.toNat + passes * 65535 < 4294967296) :
    (sumWords memory data dataSize fuel i sum).toNat =
      sum.toNat + total (words (memory.read (data + i.toNat) (2 * passes))) := by
  have size := dataSize.toNat_lt
  unfold loopBytes at left
  induction passes generalizing fuel i sum with
  | zero =>
    have stopped : sumWords memory data dataSize fuel i sum = sum := by
      cases fuel with
      | zero => rfl
      | succ fuel => rw [sumWords, if_neg (by omega)]
    rw [stopped]
    rfl
  | succ passes ih =>
    obtain ⟨less, rfl⟩ : ∃ less, fuel = less + 1 := ⟨fuel - 1, by omega⟩
    have fits := word_le (memory (data + i.toNat)) (memory (data + i.toNat + 1))
    have next : (i + 2).toNat = i.toNat + 2 := by
      rw [UInt16.toNat_add]
      exact Nat.mod_eq_of_lt (show i.toNat + 2 < 65536 by omega)
    have added : (sum + dataWord memory data i.toNat).toNat =
        sum.toNat + word (memory (data + i.toNat)) (memory (data + i.toNat + 1)) := by
      rw [UInt32.toNat_add, dataWord, toNat_bytes]
      exact Nat.mod_eq_of_lt (by omega)
    have first : words (memory.read (data + i.toNat) (2 * (passes + 1))) =
        word (memory (data + i.toNat)) (memory (data + i.toNat + 1)) ::
          words (memory.read (data + i.toNat + 2) (2 * passes)) := rfl
    rw [sumWords, if_pos (by omega), ih (by omega) (by omega) (by omega), next, added, first,
      total_cons, Nat.add_assoc, ← Nat.add_assoc data]

/-- The words that `calculateNetworkChecksum` adds up. -/
def summedWords (memory : Buffer) (data n : Nat) : List Nat :=
  if n = 0 then [wordAt memory (data - 2)] else words (memory.read data n)

theorem odd_iff : dataSize &&& 1 ≠ 0 ↔ dataSize.toNat % 2 = 1 := by
  rw [← UInt16.toNat_inj.ne, UInt16.toNat_and]
  show dataSize.toNat &&& 1 ≠ 0 ↔ _
  rw [Nat.and_one_is_mod]
  omega

theorem lastWord_eq (inside : dataSize = 0 → 2 ≤ data) :
    total (words (memory.read data (loopBytes dataSize.toNat))) +
        (lastWord memory data dataSize).toNat =
      total (summedWords memory data dataSize.toNat) := by
  unfold lastWord summedWords
  by_cases none : dataSize.toNat = 0
  · have zero : dataSize = 0 := UInt16.toNat_inj.mp none
    have room := inside zero
    have behind : data - 1 = data - 2 + 1 := by omega
    have front : total (words (memory.read data (loopBytes 0))) = 0 := rfl
    rw [if_neg (by rw [odd_iff]; omega), if_pos none, toNat_bytes, none, front, Nat.add_zero, behind,
      total_cons, total_nil, wordAt, Nat.zero_add]
    exact (Nat.add_zero _).symm
  rw [if_neg none]
  obtain ⟨more, size⟩ : ∃ more, dataSize.toNat = loopBytes dataSize.toNat + (more + 1) :=
    ⟨dataSize.toNat - loopBytes dataSize.toNat - 1, by unfold loopBytes; omega⟩
  have even : (memory.read data (loopBytes dataSize.toNat)).length % 2 = 0 := by
    rw [Buffer.length_read, loopBytes]
    omega
  have joined : total (words (memory.read data dataSize.toNat)) =
      total (words (memory.read data (loopBytes dataSize.toNat))) +
        total (words (memory.read (data + loopBytes dataSize.toNat) (more + 1))) := by
    rw [size, Buffer.read_append, words_append (size ▸ even), total_append, ← size]
  rw [joined]
  by_cases single : dataSize.toNat % 2 = 1
  · have one : more = 0 := by
      unfold loopBytes at size
      omega
    have place : data + dataSize.toNat - 1 = data + loopBytes dataSize.toNat := by omega
    have byte : total (words (memory.read (data + loopBytes dataSize.toNat) (0 + 1))) =
        word (memory (data + loopBytes dataSize.toNat)) 0 := Nat.add_zero _
    rw [if_pos (odd_iff.mpr single), place, toNat_highByte, one, byte, word, UInt8.toNat_zero,
      Nat.add_zero]
  · have two : more = 1 := by
      unfold loopBytes at size
      omega
    have place : data + dataSize.toNat - 2 = data + loopBytes dataSize.toNat := by omega
    have place' : data + dataSize.toNat - 1 = data + loopBytes dataSize.toNat + 1 := by omega
    have bytes : total (words (memory.read (data + loopBytes dataSize.toNat) (1 + 1))) =
        word (memory (data + loopBytes dataSize.toNat))
          (memory (data + loopBytes dataSize.toNat + 1)) := Nat.add_zero _
    rw [if_neg fun single' => single (odd_iff.mp single'), place, place', toNat_bytes, two, bytes]

end Words

/-! ### The sum -/

section Sum

variable {memory : Buffer} {data : Nat} {dataSize startValue : UInt16}

theorem total_summedWords_le (memory : Buffer) (data : Nat) (dataSize : UInt16) :
    total (summedWords memory data dataSize.toNat) ≤ 32768 * 65535 := by
  have size := dataSize.toNat_lt
  unfold summedWords
  split
  · have fits := wordAt_le memory (data - 2)
    simp only [total_cons, total_nil]
    omega
  · have bound := total_le (words_le (memory.read data dataSize.toNat))
    rw [length_words, Buffer.length_read] at bound
    refine bound.trans (Nat.mul_le_mul_right 65535 ?_)
    omega

theorem toNat_fold (sum : UInt32) (small : fold 65535 sum.toNat < 4294967296) :
    ((sum &&& (0xffff : UInt32)) + (sum >>> 16)).toNat = fold 65535 sum.toNat := by
  have low : (sum &&& (0xffff : UInt32)).toNat = sum.toNat % 65536 := by
    rw [UInt32.toNat_and]
    exact Nat.and_two_pow_sub_one_eq_mod sum.toNat 16
  have high : (sum >>> 16).toNat = sum.toNat / 65536 := by
    rw [UInt32.toNat_shiftRight]
    exact Nat.shiftRight_eq_div_pow sum.toNat 16
  rw [UInt32.toNat_add, low, high]
  exact Nat.mod_eq_of_lt small

/-- The loop over all words but the last. -/
theorem toNat_sumWords : (sumWords memory data dataSize dataSize.toNat 0 0).toNat =
    total (words (memory.read data (loopBytes dataSize.toNat))) := by
  have size := dataSize.toNat_lt
  have loop : (sumWords memory data dataSize dataSize.toNat 0 0).toNat =
      0 + total (words (memory.read (data + 0) (2 * ((dataSize.toNat - 1) / 2)))) :=
    sumWords_eq (i := 0) (by omega) (Nat.zero_add _) (by
      show 0 + (dataSize.toNat - 1) / 2 * 65535 < 4294967296
      omega)
  rwa [Nat.zero_add, Nat.add_zero] at loop

/-- **All words**, without a carry out of the 32-bit sum. -/
theorem toNat_sumWords_lastWord (inside : dataSize = 0 → 2 ≤ data) :
    (sumWords memory data dataSize dataSize.toNat 0 0).toNat +
        (lastWord memory data dataSize).toNat =
      total (summedWords memory data dataSize.toNat) := by
  rw [toNat_sumWords]
  exact lastWord_eq inside

/-- **The result of `calculateNetworkChecksum`.** -/
theorem toNat_calculateNetworkChecksum (inside : dataSize = 0 → 2 ≤ data) :
    (calculateNetworkChecksum memory data dataSize startValue).toNat = fold 65535 (fold 65535
      (startValue.toNat + total (summedWords memory data dataSize.toNat))) := by
  have startFits := startValue.toNat_lt
  have bound := total_summedWords_le memory data dataSize
  have all := @toNat_sumWords_lastWord memory data dataSize inside
  have whole : (sumWords memory data dataSize dataSize.toNat 0 0 + lastWord memory data dataSize +
      startValue.toUInt32).toNat =
      startValue.toNat + total (summedWords memory data dataSize.toNat) := by
    rw [UInt32.toNat_add, UInt32.toNat_add, UInt16.toNat_toUInt32]
    omega
  have small : startValue.toNat + total (summedWords memory data dataSize.toNat) <
      (65535 + 1) * (65535 + 1) := by omega
  generalize startValue.toNat + total (summedWords memory data dataSize.toNat) = s at whole small ⊢
  have twice : fold 65535 (fold 65535 s) ≤ 65535 := fold_fold_le small
  have once : fold 65535 s < 4294967296 := by
    unfold fold
    omega
  unfold calculateNetworkChecksum
  dsimp only
  generalize sumWords memory data dataSize dataSize.toNat 0 0 + lastWord memory data dataSize +
    startValue.toUInt32 = sum at whole ⊢
  have first := toNat_fold sum (by rw [whole]; exact once)
  have second := toNat_fold ((sum &&& (0xffff : UInt32)) + (sum >>> 16)) (by rw [first, whole]; omega)
  rw [UInt32.toNat_toUInt16, second, first, whole]
  exact Nat.mod_eq_of_lt (by omega)

/-- The checksum depends on nothing but its bytes. -/
theorem calculateNetworkChecksum_congr {memory' : Buffer} (some : dataSize ≠ 0)
    (same : memory.read data dataSize.toNat = memory'.read data dataSize.toNat) :
    calculateNetworkChecksum memory data dataSize startValue =
      calculateNetworkChecksum memory' data dataSize startValue := by
  have inside : dataSize = 0 → 2 ≤ data := fun none => absurd none some
  have nonzero : dataSize.toNat ≠ 0 := fun none => some (UInt16.toNat_inj.mp none)
  refine UInt16.toNat_inj.mp ?_
  rw [toNat_calculateNetworkChecksum inside, toNat_calculateNetworkChecksum inside, summedWords,
    summedWords, if_neg nonzero, if_neg nonzero, same]

theorem calculateNetworkChecksum_modEq (inside : dataSize = 0 → 2 ≤ data) :
    (calculateNetworkChecksum memory data dataSize startValue).toNat ≡
      startValue.toNat + total (summedWords memory data dataSize.toNat) [MOD 65535] := by
  rw [toNat_calculateNetworkChecksum inside]
  exact (fold_modEq _ _).trans (fold_modEq _ _)

theorem calculateNetworkChecksum_eq_zero_iff (inside : dataSize = 0 → 2 ≤ data) :
    (calculateNetworkChecksum memory data dataSize startValue).toNat = 0 ↔
      startValue.toNat + total (summedWords memory data dataSize.toNat) = 0 := by
  rw [toNat_calculateNetworkChecksum inside, fold_eq_zero_iff, fold_eq_zero_iff]

/-- The result represents the sum of the words. -/
theorem represents_calculateNetworkChecksum (inside : dataSize = 0 → 2 ≤ data) :
    Represents 65535 (calculateNetworkChecksum memory data dataSize startValue).toNat
      (startValue.toNat + total (summedWords memory data dataSize.toNat)) where
  le := Nat.le_of_lt_succ (UInt16.toNat_lt _)
  modEq := calculateNetworkChecksum_modEq inside
  zero := (calculateNetworkChecksum_eq_zero_iff inside).mp

theorem toNat_length {bytes : List UInt8} (fits : bytes.length ≤ 65535) :
    (UInt16.ofNat bytes.length).toNat = bytes.length :=
  UInt16.toNat_ofNat_of_lt' (Nat.lt_succ_of_le fits)

/-- The checksum of a byte string in memory represents the sum of start value and words. -/
theorem represents_of_holds {bytes : List UInt8} (some : bytes ≠ []) (fits : bytes.length ≤ 65535)
    (held : memory.Holds data bytes) :
    Represents 65535
      (calculateNetworkChecksum memory data (UInt16.ofNat bytes.length) startValue).toNat
      (startValue.toNat + total (words bytes)) := by
  have size := toNat_length fits
  have nonzero : bytes.length ≠ 0 := fun none => some (List.length_eq_zero_iff.mp none)
  have stands := @represents_calculateNetworkChecksum memory data (UInt16.ofNat bytes.length)
    startValue fun none => by
      rw [none] at size
      exact absurd size.symm nonzero
  rwa [size, summedWords, if_neg nonzero, Buffer.holds_iff_read.mp held] at stands

/-- `checksum ^ 0xffff`. -/
theorem toNat_inverted (checksum : UInt16) :
    (checksum ^^^ 0xffff).toNat = 65535 - checksum.toNat := by
  have inverted : checksum ^^^ 0xffff = ~~~checksum := UInt16.xor_neg_one
  rw [inverted, UInt16.toNat_not]
  rfl

end Sum

end EthernetUtilities

end Jblib.Ethutilities
