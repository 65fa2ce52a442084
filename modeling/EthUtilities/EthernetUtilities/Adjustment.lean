/-
**An updated checksum field is the recomputed one.**

* `int32`, `checkedAdjust` — `adjustNetworkChecksum` on an `int32_t` that may not overflow, with the
  16-bit index of its loops. `checkedAdjust_eq`: no value leaves the range and both loops end, so it
  is `adjustNetworkChecksum`.
* `adjusted_modEq` — any field moves by the difference of the words.
* **`adjust_recomputes`** — all this, and: after the update the field holds the checksum of the new
  bytes, if it held that of the old ones.
-/

import Mathlib.Data.Int.ModEq
import EthUtilities.EthernetUtilities.NetworkChecksum

namespace Jblib.Ethutilities

open Library OnesComplement

namespace EthernetUtilities

/-! ### The arithmetic of the code -/

/-- A result of `int32_t` arithmetic; on overflow there is none. -/
def int32 (x : Int) : Option Int := if -2147483648 ≤ x ∧ x ≤ 2147483647 then some x else none

/-- `ptr[0] * 256 + ptr[1]`. -/
def checkedWord (ptr : Buffer) : Option Int := do
  let high ← int32 ((ptr 0).toNat * 256)
  int32 (high + (ptr 1).toNat)

/-- `~x & 0xFFFF`. -/
def checkedComplement (x : Int) : Option Int := do
  let x ← int32 (-x - 1)
  int32 (x % 65536)

/-- A pass of the loop over the old words. -/
def checkedSubtract (x old : Int) : Option Int := do
  let old ← int32 (old % 65536)
  let x ← int32 (x - old)
  if x ≤ 0 then
    let x ← int32 (x - 1)
    int32 (x % 65536)
  else some x

/-- A pass of the loop over the new words. -/
def checkedAdd (x new : Int) : Option Int := do
  let new ← int32 (new % 65536)
  let x ← int32 (x + new)
  if x / 65536 % 2 ≠ 0 then
    let x ← int32 (x + 1)
    int32 (x % 65536)
  else some x

/-- `for(uint16_t i = 0; i < len; i = i+2)` over the words from `ptr` on; without fuel it has not
ended. -/
def checkedLoop (pass : Int → Int → Option Int) (len : UInt16) :
    (fuel : Nat) → (i : UInt16) → (ptr : Buffer) → Int → Option Int
  | 0, _, _, _ => none
  | fuel + 1, i, ptr, x =>
    if i < len then do
      let word ← checkedWord ptr
      let x ← pass x word
      checkedLoop pass len fuel (i + 2) (ptr.shift 2) x
    else some x

/-- `adjustNetworkChecksum(&frame[chksum], optr, olen, nptr, nlen)`, step by step. -/
def checkedAdjust (frame : Buffer) (chksum : Nat) (optr : Buffer) (olen : UInt16) (nptr : Buffer)
    (nlen : UInt16) : Option Buffer := do
  let x ← checkedWord (frame.shift chksum)
  let x ← checkedComplement x
  let x ← checkedLoop checkedSubtract olen olen.toNat.succ 0 optr x
  let x ← checkedLoop checkedAdd nlen nlen.toNat.succ 0 nptr x
  let x ← checkedComplement x
  let high ← int32 (x / 256)
  let low ← int32 (x % 256)
  some (frame.write chksum [UInt8.ofNat high.toNat, UInt8.ofNat low.toNat])

/-! ### No overflow -/

section Checked

variable {x word : Nat}

theorem int32_eq {x : Int} (low : -2147483648 ≤ x) (high : x ≤ 2147483647) : int32 x = some x :=
  if_pos ⟨low, high⟩

theorem checkedWord_eq (ptr : Buffer) : checkedWord ptr = some (firstWord ptr) := by
  have fits := word_le (ptr 0) (ptr 1)
  unfold OnesComplement.word at fits
  have high : int32 ((ptr 0).toNat * 256) = some ((ptr 0).toNat * 256) :=
    int32_eq (by omega) (by omega)
  unfold checkedWord
  rw [high]
  exact int32_eq (by omega) (by omega)

theorem checkedComplement_eq (fits : x ≤ 65535) :
    checkedComplement x = some (complement x) := by
  have inverted : int32 (-(x : Int) - 1) = some (-(x : Int) - 1) := int32_eq (by omega) (by omega)
  unfold checkedComplement
  rw [inverted]
  exact int32_eq (by omega) (by omega)

theorem checkedSubtract_eq (fits : x ≤ 65535) (wordFits : word ≤ 65535) :
    checkedSubtract x word = some ((sub 65535 x word : Nat) : Int) := by
  have whole : (word : Int) % 65536 = word := by omega
  have old : int32 ((word : Int) % 65536) = some (word : Int) :=
    (int32_eq (by omega) (by omega)).trans (congrArg some whole)
  have less : int32 ((x : Int) - word) = some ((x : Int) - word) := int32_eq (by omega) (by omega)
  unfold checkedSubtract OnesComplement.sub
  rw [old, Option.bind_eq_bind, Option.bind_some, less, Option.bind_some]
  split
  case isTrue borrows =>
    have borrowed : int32 ((x : Int) - word - 1) = some ((x : Int) - word - 1) :=
      int32_eq (by omega) (by omega)
    have masked : ((x : Int) - word - 1) % 65536 = (x + 65535 - word : Nat) := by omega
    rw [borrowed, Option.bind_some, if_neg (by omega), ← masked]
    exact int32_eq (by omega) (by omega)
  case isFalse positive =>
    rw [if_pos (by omega)]
    exact congrArg some (by omega)

theorem checkedAdd_eq (fits : x ≤ 65535) (wordFits : word ≤ 65535) :
    checkedAdd x word = some ((add 65535 x word : Nat) : Int) := by
  have whole : (word : Int) % 65536 = word := by omega
  have new : int32 ((word : Int) % 65536) = some (word : Int) :=
    (int32_eq (by omega) (by omega)).trans (congrArg some whole)
  have more : int32 ((x : Int) + word) = some ((x : Int) + word) := int32_eq (by omega) (by omega)
  unfold checkedAdd OnesComplement.add
  rw [new, Option.bind_eq_bind, Option.bind_some, more, Option.bind_some]
  split
  case isTrue carries =>
    have carried : int32 ((x : Int) + word + 1) = some ((x : Int) + word + 1) :=
      int32_eq (by omega) (by omega)
    have masked : ((x : Int) + word + 1) % 65536 = (x + word - 65535 : Nat) := by omega
    rw [carried, Option.bind_some, if_neg (by omega), ← masked]
    exact int32_eq (by omega) (by omega)
  case isFalse fitted =>
    rw [if_pos (by omega)]
    exact congrArg some (by omega)

/-- **A loop** over an even length ends, if its passes do what `f` does on 16-bit values. -/
theorem checkedLoop_eq {pass : Int → Int → Option Int} {f : Nat → Nat → Nat} {len : UInt16}
    (passes_eq : ∀ {x word : Nat}, x ≤ 65535 → word ≤ 65535 →
      pass x word = some ((f x word : Nat) : Int))
    (keeps : ∀ {x word : Nat}, x ≤ 65535 → word ≤ 65535 → f x word ≤ 65535)
    {passes fuel : Nat} {i : UInt16} {ptr : Buffer} (left : i.toNat + 2 * passes = len.toNat)
    (enough : passes < fuel) (fits : x ≤ 65535) :
    checkedLoop pass len fuel i ptr x =
      some (((words (ptr.read 0 (2 * passes))).foldl f x : Nat) : Int) := by
  have size := len.toNat_lt
  induction passes generalizing fuel i ptr x with
  | zero =>
    obtain ⟨less, rfl⟩ : ∃ less, fuel = less + 1 := ⟨fuel - 1, by omega⟩
    have ended : ¬ i < len := by
      rw [UInt16.lt_iff_toNat_lt]
      omega
    rw [checkedLoop, if_neg ended]
    rfl
  | succ passes ih =>
    obtain ⟨less, rfl⟩ : ∃ less, fuel = less + 1 := ⟨fuel - 1, by omega⟩
    have goes : i < len := by
      rw [UInt16.lt_iff_toNat_lt]
      omega
    -- the index does not wrap, as the length is even
    have next : (i + 2).toNat = i.toNat + 2 := by
      rw [UInt16.toNat_add]
      exact Nat.mod_eq_of_lt (show i.toNat + 2 < 65536 by omega)
    have wordFits := word_le (ptr 0) (ptr 1)
    have first : pass x (firstWord ptr) =
        some ((f x (OnesComplement.word (ptr 0) (ptr 1)) : Nat) : Int) := passes_eq fits wordFits
    rw [checkedLoop, if_pos goes, checkedWord_eq, Option.bind_eq_bind, Option.bind_some, first,
      Option.bind_some, ih (by omega) (by omega) (keeps fits wordFits), read_word, List.foldl_cons]

end Checked

/-! ### The update -/

section Update

variable {frame optr nptr : Buffer} {chksum : Nat}

/-- **No intermediate value overflows**, and both loops end. -/
theorem checkedAdjust_eq {olen nlen : UInt16} {olds news : Nat} (evenOld : olen.toNat = 2 * olds)
    (evenNew : nlen.toNat = 2 * news) :
    checkedAdjust frame chksum optr olen nptr nlen =
      some (adjustNetworkChecksum frame chksum optr olen.toNat nptr nlen.toNat) := by
  have start : firstWord (frame.shift chksum) = (wordAt frame chksum : Nat) := rfl
  have field := wordAt_le frame chksum
  have inverted : 65535 - wordAt frame chksum ≤ 65535 := Nat.sub_le _ _
  have oldFits : (words (optr.read 0 (2 * olds))).foldl (sub 65535) (65535 - wordAt frame chksum) ≤
      65535 := foldl_sub_le inverted
  have newFits := foldl_add_le (words_le (nptr.read 0 (2 * news))) oldFits
  have oldLoop := @checkedLoop_eq (65535 - wordAt frame chksum) checkedSubtract (sub 65535) olen
    checkedSubtract_eq (fun fits _ => sub_le fits) olds olen.toNat.succ 0 optr
    ((Nat.zero_add _).trans evenOld.symm) (by omega) inverted
  have newLoop := @checkedLoop_eq _ checkedAdd (add 65535) nlen checkedAdd_eq add_le news
    nlen.toNat.succ 0 nptr ((Nat.zero_add _).trans evenNew.symm) (by omega) oldFits
  have olds' : (olen.toNat + 1) / 2 = olds := by omega
  have news' : (nlen.toNat + 1) / 2 = news := by omega
  unfold checkedAdjust adjustNetworkChecksum
  dsimp only
  rw [checkedWord_eq, Option.bind_eq_bind, Option.bind_some, start, checkedComplement_eq field,
    complement_eq field, Option.bind_some, oldLoop, Option.bind_some, newLoop, Option.bind_some,
    olds', news', subtractOld_eq _ _ inverted, addNew_eq _ _ oldFits, checkedComplement_eq newFits,
    complement_eq newFits, Option.bind_some]
  generalize (words (nptr.read 0 (2 * news))).foldl (add 65535) _ = x at newFits
  rw [int32_eq (by omega) (by omega), Option.bind_some, int32_eq (by omega) (by omega),
    Option.bind_some]

section Held

variable {old new : List UInt8}

/-- A byte string of even length, as the loops read it. -/
theorem read_even {ptr : Buffer} {bytes : List UInt8} {k : Nat} (held : ptr.Holds 0 bytes)
    (even : bytes.length = 2 * k) : ptr.read 0 (2 * k) = bytes := by
  rw [← even]
  exact Buffer.holds_iff_read.mp held

/-- The updated field. -/
theorem wordAt_adjusted (frame : Buffer) (chksum : Nat) (evenOld : old.length % 2 = 0)
    (evenNew : new.length % 2 = 0) (oldHeld : optr.Holds 0 old) (newHeld : nptr.Holds 0 new) :
    wordAt (adjustNetworkChecksum frame chksum optr old.length nptr new.length) chksum =
      65535 - (words new).foldl (add 65535)
        ((words old).foldl (sub 65535) (65535 - wordAt frame chksum)) := by
  obtain ⟨olds, oldSize⟩ := Nat.dvd_of_mod_eq_zero evenOld
  obtain ⟨news, newSize⟩ := Nat.dvd_of_mod_eq_zero evenNew
  have updated := wordAt_adjustNetworkChecksum frame chksum optr nptr olds news
  rwa [read_even oldHeld oldSize, read_even newHeld newSize, ← oldSize, ← newSize] at updated

/-- Any field moves by the difference of the words. -/
theorem adjusted_modEq (frame : Buffer) (chksum : Nat) (evenOld : old.length % 2 = 0)
    (evenNew : new.length % 2 = 0) (oldHeld : optr.Holds 0 old) (newHeld : nptr.Holds 0 new) :
    (65535 - wordAt (adjustNetworkChecksum frame chksum optr old.length nptr new.length) chksum :
        Int) ≡
      65535 - wordAt frame chksum - total (words old) + total (words new) [ZMOD 65535] := by
  obtain ⟨olds, oldSize⟩ := Nat.dvd_of_mod_eq_zero evenOld
  obtain ⟨news, newSize⟩ := Nat.dvd_of_mod_eq_zero evenNew
  have moved := adjustNetworkChecksum_modEq frame chksum optr nptr olds news
  rw [read_even oldHeld oldSize, read_even newHeld newSize, ← oldSize, ← newSize] at moved
  unfold Nat.ModEq at moved
  unfold Int.ModEq
  omega

end Held

end Update

/-! ### Recomputing -/

section Recompute

variable {front old new behind : List UInt8} {frame optr nptr memory memory' : Buffer}
  {chksum data data' : Nat}

/-- The checksum of a byte string in memory represents the sum of its words. -/
theorem represents_checksum {bytes : List UInt8} (some : 1 ≤ bytes.length)
    (fits : bytes.length ≤ 65535) (held : memory.Holds data bytes) :
    Represents 65535
      (calculateNetworkChecksum memory data (UInt16.ofNat bytes.length) 0).toNat
      (total (words bytes)) := by
  have stands := @represents_of_holds memory data 0 bytes (List.ne_nil_of_length_pos some) fits held
  rwa [UInt16.toNat_zero, Nat.zero_add] at stands

/-- A part of even length may be taken out. -/
theorem total_words_middle (evenFront : front.length % 2 = 0) (evenOld : old.length % 2 = 0) :
    total (words (front ++ (old ++ behind))) =
      total (words front) + total (words behind) + total (words old) := by
  rw [words_append evenFront, words_append evenOld, total_append, total_append]
  omega

/-- **The field is the recomputed checksum**, if it was the old one and not all new bytes are
zero. -/
theorem wordAt_adjusted_eq (evenFront : front.length % 2 = 0) (evenOld : old.length % 2 = 0)
    (evenNew : new.length % 2 = 0) (oldSome : 1 ≤ (front ++ (old ++ behind)).length)
    (oldFits : (front ++ (old ++ behind)).length ≤ 65535)
    (newSome : 1 ≤ (front ++ (new ++ behind)).length)
    (newFits : (front ++ (new ++ behind)).length ≤ 65535) (oldHeld : optr.Holds 0 old)
    (newHeld : nptr.Holds 0 new) (before : memory.Holds data (front ++ (old ++ behind)))
    (after : memory'.Holds data' (front ++ (new ++ behind)))
    (nonzero : ∃ byte ∈ front ++ (new ++ behind), byte ≠ 0)
    (field : wordAt frame chksum = (calculateNetworkChecksum memory data
      (UInt16.ofNat (front ++ (old ++ behind)).length) 0 ^^^ 0xffff).toNat) :
    wordAt (adjustNetworkChecksum frame chksum optr old.length nptr new.length) chksum =
      (calculateNetworkChecksum memory' data' (UInt16.ofNat (front ++ (new ++ behind)).length) 0 ^^^
        0xffff).toNat := by
  have oldStands := represents_checksum oldSome oldFits before
  have newStands := represents_checksum newSome newFits after
  have some : total (words (front ++ (new ++ behind))) ≠ 0 := fun none => by
    obtain ⟨byte, member, other⟩ := nonzero
    exact other ((total_words_eq_zero_iff _).mp none byte member)
  rw [total_words_middle evenFront evenOld] at oldStands
  rw [total_words_middle evenFront evenNew] at newStands some
  have updated := foldl_update_eq (by decide) (words_le old) (words_le new) oldStands newStands some
  have start : 65535 - wordAt frame chksum = (calculateNetworkChecksum memory data
      (UInt16.ofNat (front ++ (old ++ behind)).length) 0).toNat := by
    rw [field, toNat_inverted]
    exact Nat.sub_sub_self oldStands.le
  rw [wordAt_adjusted frame chksum evenOld evenNew oldHeld newHeld, start, updated, toNat_inverted]

/-- **An incremental update equals recomputation.** -/
theorem adjust_recomputes (evenFront : front.length % 2 = 0) (evenOld : old.length % 2 = 0)
    (evenNew : new.length % 2 = 0) (oldSome : 1 ≤ (front ++ (old ++ behind)).length)
    (oldFits : (front ++ (old ++ behind)).length ≤ 65535)
    (newSome : 1 ≤ (front ++ (new ++ behind)).length)
    (newFits : (front ++ (new ++ behind)).length ≤ 65535) (oldHeld : optr.Holds 0 old)
    (newHeld : nptr.Holds 0 new) (before : memory.Holds data (front ++ (old ++ behind)))
    (after : memory'.Holds data' (front ++ (new ++ behind))) :
    checkedAdjust frame chksum optr (UInt16.ofNat old.length) nptr (UInt16.ofNat new.length) =
        some (adjustNetworkChecksum frame chksum optr old.length nptr new.length) ∧
      (65535 - wordAt (adjustNetworkChecksum frame chksum optr old.length nptr new.length) chksum :
          Int) ≡
        65535 - wordAt frame chksum - total (words old) + total (words new) [ZMOD 65535] ∧
      ((∃ byte ∈ front ++ (new ++ behind), byte ≠ 0) →
        wordAt frame chksum = (calculateNetworkChecksum memory data
          (UInt16.ofNat (front ++ (old ++ behind)).length) 0 ^^^ 0xffff).toNat →
        wordAt (adjustNetworkChecksum frame chksum optr old.length nptr new.length) chksum =
          (calculateNetworkChecksum memory' data'
            (UInt16.ofNat (front ++ (new ++ behind)).length) 0 ^^^ 0xffff).toNat) := by
  have oldSize : (UInt16.ofNat old.length).toNat = old.length := toNat_length (by
    rw [List.length_append, List.length_append] at oldFits
    omega)
  have newSize : (UInt16.ofNat new.length).toNat = new.length := toNat_length (by
    rw [List.length_append, List.length_append] at newFits
    omega)
  refine ⟨?_, adjusted_modEq frame chksum evenOld evenNew oldHeld newHeld, ?_⟩
  · have checked := @checkedAdjust_eq frame optr nptr chksum (UInt16.ofNat old.length)
      (UInt16.ofNat new.length) (old.length / 2) (new.length / 2) (by omega) (by omega)
    rwa [oldSize, newSize] at checked
  · exact wordAt_adjusted_eq evenFront evenOld evenNew oldSome oldFits newSome newFits oldHeld
      newHeld before after

/-- Four bytes of a checked string of seven are replaced by two others. -/
theorem adjust_recomputes_sample :
    wordAt (adjustNetworkChecksum (Buffer.write (fun _ => 0) 0 [0xDC, 0xCA]) 0
        (Buffer.write (fun _ => 0) 0 [10, 0, 0, 1]) 4 (Buffer.write (fun _ => 0) 0 [201, 99]) 2) 0 =
      (calculateNetworkChecksum (Buffer.write (fun _ => 0) 0 [0x12, 0x34, 201, 99, 7]) 0 5 0 ^^^
        0xffff).toNat :=
  (@adjust_recomputes [0x12, 0x34] [10, 0, 0, 1] [201, 99] [7] _ _ _
    (Buffer.write (fun _ => 0) 0 [0x12, 0x34, 10, 0, 0, 1, 7])
    (Buffer.write (fun _ => 0) 0 [0x12, 0x34, 201, 99, 7]) 0 0 0 rfl rfl rfl (by decide) (by decide)
    (by decide) (by decide) (Buffer.holds_iff_read.mpr Buffer.read_write_self)
    (Buffer.holds_iff_read.mpr Buffer.read_write_self)
    (Buffer.holds_iff_read.mpr Buffer.read_write_self)
    (Buffer.holds_iff_read.mpr Buffer.read_write_self)).2.2 ⟨7, by decide, by decide⟩
    (by decide +kernel)

end Recompute

end EthernetUtilities

end Jblib.Ethutilities
