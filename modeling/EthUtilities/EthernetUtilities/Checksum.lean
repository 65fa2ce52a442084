/-
**`adjustNetworkChecksum`: the incremental update of a checksum field.**

* `subtractOld`, `addNew` — the two loops, on the `int32_t` accumulator `x`.
* `subtractOld_eq`, `addNew_eq` — on 16-bit values they are one's-complement subtraction and
  addition.
* `adjustNetworkChecksum_apart` — only the two bytes of the field are written.
* `adjustNetworkChecksum_modEq` — the field moves by the old words minus the new words, modulo
  65535.
-/

import EthUtilities.Library.OnesComplement
import EthUtilities.EthernetUtilities.Frames

namespace Jblib.Ethutilities

open Library OnesComplement

namespace EthernetUtilities

/-- `ptr[0] * 256 + ptr[1]`. -/
def firstWord (ptr : Buffer) : Int := (word (ptr 0) (ptr 1) : Nat)

/-- The loop over the old words. -/
def subtractOld (optr : Buffer) : (passes : Nat) → Int → Int
  | 0, x => x
  | passes + 1, x =>
    let x := x - firstWord optr % 65536
    -- `x--; x &= 0xffff` on a value that is not positive
    let x := if x ≤ 0 then (x - 1) % 65536 else x
    subtractOld (optr.shift 2) passes x

/-- The loop over the new words. -/
def addNew (nptr : Buffer) : (passes : Nat) → Int → Int
  | 0, x => x
  | passes + 1, x =>
    let x := x + firstWord nptr % 65536
    -- `x & 0x10000`
    let x := if x / 65536 % 2 ≠ 0 then (x + 1) % 65536 else x
    addNew (nptr.shift 2) passes x

/-- `~x & 0xFFFF`. -/
def complement (x : Int) : Int := (-x - 1) % 65536

/-- `adjustNetworkChecksum(&frame[chksum], optr, olen, nptr, nlen)`. -/
def adjustNetworkChecksum (frame : Buffer) (chksum : Nat) (optr : Buffer) (olen : Nat)
    (nptr : Buffer) (nlen : Nat) : Buffer :=
  let x := complement (firstWord (frame.shift chksum))
  let x := subtractOld optr ((olen + 1) / 2) x
  let x := addNew nptr ((nlen + 1) / 2) x
  let x := complement x
  frame.write chksum [UInt8.ofNat (x / 256).toNat, UInt8.ofNat (x % 256).toNat]

/-! ### The loops as one's-complement arithmetic -/

section Loops

variable {x : Nat}

theorem complement_eq (fits : x ≤ 65535) : complement (x : Int) = (65535 - x : Nat) := by
  unfold complement
  omega

theorem read_word (ptr : Buffer) (passes : Nat) :
    words (ptr.read 0 (2 * (passes + 1))) =
      word (ptr 0) (ptr 1) :: words ((ptr.shift 2).read 0 (2 * passes)) := by
  rw [Buffer.read_shift]
  rfl

theorem subtractOld_eq (optr : Buffer) (passes : Nat) (fits : x ≤ 65535) :
    subtractOld optr passes x = ((words (optr.read 0 (2 * passes))).foldl (sub 65535) x : Nat) := by
  induction passes generalizing optr x with
  | zero => rfl
  | succ passes ih =>
    have pass : (if (x : Int) - firstWord optr % 65536 ≤ 0
        then ((x : Int) - firstWord optr % 65536 - 1) % 65536
        else (x : Int) - firstWord optr % 65536) = (sub 65535 x (word (optr 0) (optr 1)) : Nat) := by
      have wordFits := word_le (optr 0) (optr 1)
      unfold firstWord sub
      split <;> split <;> omega
    unfold subtractOld
    dsimp only
    rw [pass, ih _ (sub_le fits), read_word, List.foldl_cons]

theorem addNew_eq (nptr : Buffer) (passes : Nat) (fits : x ≤ 65535) :
    addNew nptr passes x = ((words (nptr.read 0 (2 * passes))).foldl (add 65535) x : Nat) := by
  induction passes generalizing nptr x with
  | zero => rfl
  | succ passes ih =>
    have wordFits := word_le (nptr 0) (nptr 1)
    have pass : (if ((x : Int) + firstWord nptr % 65536) / 65536 % 2 ≠ 0
        then ((x : Int) + firstWord nptr % 65536 + 1) % 65536
        else (x : Int) + firstWord nptr % 65536) = (add 65535 x (word (nptr 0) (nptr 1)) : Nat) := by
      unfold firstWord add
      split <;> split <;> omega
    unfold addNew
    dsimp only
    rw [pass, ih _ (add_le fits wordFits), read_word, List.foldl_cons]

end Loops

/-! ### What the update does -/

section Update

variable (frame : Buffer) (chksum : Nat) (optr nptr : Buffer)

/-- The word at an offset of a frame. -/
def wordAt (frame : Buffer) (offset : Nat) : Nat := word (frame offset) (frame (offset + 1))

theorem wordAt_le (offset : Nat) : wordAt frame offset ≤ 65535 := word_le _ _

theorem adjustNetworkChecksum_apart {i : Nat} (olen nlen : Nat)
    (apart : i < chksum ∨ chksum + 2 ≤ i) :
    adjustNetworkChecksum frame chksum optr olen nptr nlen i = frame i := by
  unfold adjustNetworkChecksum
  rcases apart with before | after
  · exact Buffer.write_before before
  · exact Buffer.write_after after

/-- The new value of the field. -/
theorem wordAt_adjustNetworkChecksum (olds news : Nat) :
    wordAt (adjustNetworkChecksum frame chksum optr (2 * olds) nptr (2 * news)) chksum =
      65535 - (words (nptr.read 0 (2 * news))).foldl (add 65535)
        ((words (optr.read 0 (2 * olds))).foldl (sub 65535) (65535 - wordAt frame chksum)) := by
  have start : firstWord (frame.shift chksum) = (wordAt frame chksum : Nat) := rfl
  have fits : 65535 - wordAt frame chksum ≤ 65535 := Nat.sub_le _ _
  have bound : ∀ x : Nat, ((65535 - x : Nat) : Int) / 256 = ((65535 - x) / 256 : Nat) ∧
      ((65535 - x : Nat) : Int) % 256 = ((65535 - x) % 256 : Nat) := fun x => by omega
  have olds' : (2 * olds + 1) / 2 = olds := by omega
  have news' : (2 * news + 1) / 2 = news := by omega
  unfold adjustNetworkChecksum
  dsimp only
  rw [olds', news', start, complement_eq (wordAt_le _ _), subtractOld_eq _ _ fits,
    addNew_eq _ _ (foldl_sub_le fits),
    complement_eq (foldl_add_le (words_le _) (foldl_sub_le fits)), (bound _).1, (bound _).2,
    Int.toNat_natCast, Int.toNat_natCast]
  generalize (words (nptr.read 0 (2 * news))).foldl (add 65535) _ = x
  have high : frame.write chksum
      [UInt8.ofNat ((65535 - x) / 256), UInt8.ofNat ((65535 - x) % 256)] (chksum + 0) =
        UInt8.ofNat ((65535 - x) / 256) := Buffer.write_inside (Nat.zero_lt_succ _)
  have low : frame.write chksum
      [UInt8.ofNat ((65535 - x) / 256), UInt8.ofNat ((65535 - x) % 256)] (chksum + 1) =
        UInt8.ofNat ((65535 - x) % 256) := Buffer.write_inside (Nat.lt_succ_self _)
  rw [wordAt]
  exact (congrArg₂ word high low).trans (word_ofNat (Nat.sub_le _ _))

/-- **The update modulo 65535**: the field loses the new words and gains the old ones. -/
theorem adjustNetworkChecksum_modEq (olds news : Nat) :
    wordAt (adjustNetworkChecksum frame chksum optr (2 * olds) nptr (2 * news)) chksum +
        total (words (nptr.read 0 (2 * news))) ≡
      wordAt frame chksum + total (words (optr.read 0 (2 * olds))) [MOD 65535] := by
  rw [wordAt_adjustNetworkChecksum]
  have fieldFits := wordAt_le frame chksum
  have subtracted := foldl_sub_modEq (words_le (optr.read 0 (2 * olds)))
    (65535 - wordAt frame chksum)
  have subtractedFits : (words (optr.read 0 (2 * olds))).foldl (sub 65535)
      (65535 - wordAt frame chksum) ≤ 65535 := foldl_sub_le (Nat.sub_le _ _)
  generalize (words (optr.read 0 (2 * olds))).foldl (sub 65535)
    (65535 - wordAt frame chksum) = x at subtracted subtractedFits ⊢
  have added := foldl_add_modEq (m := 65535) (words (nptr.read 0 (2 * news))) x
  have addedFits : (words (nptr.read 0 (2 * news))).foldl (add 65535) x ≤ 65535 :=
    foldl_add_le (words_le _) subtractedFits
  generalize (words (nptr.read 0 (2 * news))).foldl (add 65535) x = y at added addedFits ⊢
  unfold Nat.ModEq at *
  omega

end Update

end EthernetUtilities

end Jblib.Ethutilities
