/-
**Several changes of the addresses of one frame.**

A frame that is translated on its way gets new addresses more than once, and the answer gets the old
ones back. What a sum in one's complement leaves open is which of its two zeros a checksum field
holds.

* `Rewritten` — a frame after any number of changes; `Rewritten.eq` — it is determined by its
  addresses and by which of the fields are all ones.
* **`changeIps_concat_iff`** — only the last change counts.
* **`changeIps_restores_iff`** — the old addresses bring the old frame back.
-/

import EthUtilities.EthernetUtilities.NoChecksum

namespace Jblib.Ethutilities

open Library OnesComplement

namespace EthernetUtilities

/-- The frame after a list of changes, each to a destination and a source address. -/
def changeIps (jbLibPlatform : Nat) (frame : Buffer) (changes : List (Buffer × Buffer)) : Buffer :=
  changes.foldl (fun frame change => changeIp jbLibPlatform frame change.1 change.2) frame

/-! ### Words -/

section Words

variable {frame other : Buffer} {offset : Nat}

theorem wordAt_inj (same : wordAt frame offset = wordAt other offset) :
    frame offset = other offset ∧ frame (offset + 1) = other (offset + 1) := by
  have high := (frame offset).toNat_lt
  have low := (frame (offset + 1)).toNat_lt
  have high' := (other offset).toNat_lt
  have low' := (other (offset + 1)).toNat_lt
  simp only [wordAt, word] at same
  constructor <;> apply UInt8.toNat_inj.mp <;> omega

/-- The two zeros apart, a word is determined by its remainder. -/
theorem wordAt_eq_of_modEq (congruent : wordAt frame offset ≡ wordAt other offset [MOD 65535])
    (ones : wordAt frame offset = 65535 ↔ wordAt other offset = 65535) :
    wordAt frame offset = wordAt other offset := by
  have fits : wordAt frame offset ≤ 65535 := word_le _ _
  have fits' : wordAt other offset ≤ 65535 := word_le _ _
  unfold Nat.ModEq at congruent
  omega

end Words

/-! ### Frames with other addresses -/

/-- `other` is the frame with other addresses: the fields make up for them. -/
structure Rewritten (frame other : Buffer) : Prop where
  apart : ∀ i, (i < 24 ∨ 34 ≤ i) →
    (∀ offset, protoCsOffset frame = some offset → i < offset ∨ offset + 2 ≤ i) →
    other i = frame i
  header : wordAt other etxIpChecksumOffset ≡ wordAt frame etxIpChecksumOffset [MOD 65535]
  proto : ∀ offset, protoCsOffset frame = some offset →
    wordAt other offset + frameTotal other ≡ wordAt frame offset + frameTotal frame [MOD 65535]

section Rewritten

variable {frame other other' : Buffer} {offset : Nat}

theorem Rewritten.refl (frame : Buffer) : Rewritten frame frame :=
  ⟨fun _ _ _ => rfl, .rfl, fun _ _ => .rfl⟩

/-- The transport checksum is behind the addresses. -/
theorem le_protoCsOffset (ihl : 20 ≤ headerLength frame)
    (needed : protoCsOffset frame = some offset) : 34 ≤ offset := by
  have places := (protoCsOffset_eq_some needed).2
  unfold etxEthHeaderLen at places
  omega

/-- The checksum of the header and the addresses are in front of everything that may differ. -/
theorem Rewritten.front (rewritten : Rewritten frame other) (ihl : 20 ≤ headerLength frame) {i : Nat}
    (before : i < 24) : other i = frame i := by
  refine rewritten.apart i (.inl before) fun offset needed => .inl ?_
  have behind := le_protoCsOffset ihl needed
  omega

theorem Rewritten.headerLength_eq (rewritten : Rewritten frame other)
    (ihl : 20 ≤ headerLength frame) : headerLength other = headerLength frame := by
  rw [headerLength, rewritten.front ihl (show etxIpIhlOffset < 24 by decide), headerLength]

theorem Rewritten.protoCsOffset_eq (rewritten : Rewritten frame other)
    (ihl : 20 ≤ headerLength frame) : protoCsOffset other = protoCsOffset frame := by
  have fragment : fragmentOffset other = fragmentOffset frame := by
    rw [fragmentOffset, rewritten.front ihl (show etxIpFlagFragoffsOffset < 24 by decide),
      rewritten.front ihl (show etxIpFlagFragoffsOffset + 1 < 24 by decide), fragmentOffset]
  rw [protoCsOffset, fragment, rewritten.headerLength_eq ihl,
    rewritten.front ihl (show etxIpProtoOffset < 24 by decide), protoCsOffset]

/-- **A change of the addresses** leads to another such frame. -/
theorem Rewritten.changeIp (rewritten : Rewritten frame other) {jbLibPlatform : Nat}
    (platform : jbLibPlatform ≠ 1) (ihl : 20 ≤ headerLength frame) (newDstIp newSrcIp : Buffer) :
    Rewritten frame (changeIp jbLibPlatform other newDstIp newSrcIp) where
  apart i header proto := by
    rw [changeIp_apart jbLibPlatform header (by rwa [rewritten.protoCsOffset_eq ihl])]
    exact rewritten.apart i header proto
  header := by
    have ihl' : 20 ≤ headerLength other := by rwa [rewritten.headerLength_eq ihl]
    exact (checksum_changeIp_modEq jbLibPlatform ihl').trans rewritten.header
  proto offset needed := by
    have needed' : protoCsOffset other = some offset := by rwa [rewritten.protoCsOffset_eq ihl]
    rw [frameTotal_changeIp]
    exact (wordAt_changeIp_modEq jbLibPlatform platform needed' (le_protoCsOffset ihl needed)).trans
      (rewritten.proto offset needed)

/-- **Uniqueness.** The addresses, and which fields are all ones, determine the frame. -/
theorem Rewritten.eq (rewritten : Rewritten frame other) (rewritten' : Rewritten frame other')
    (addresses : other.read etxIpSIpOffset 8 = other'.read etxIpSIpOffset 8)
    (header : wordAt other etxIpChecksumOffset = 65535 ↔ wordAt other' etxIpChecksumOffset = 65535)
    (proto : ∀ offset, protoCsOffset frame = some offset →
      (wordAt other offset = 65535 ↔ wordAt other' offset = 65535)) : other = other' := by
  have totals : frameTotal other = frameTotal other' := by rw [frameTotal, addresses, frameTotal]
  funext i
  by_cases inHeader : i < 24 ∨ 34 ≤ i
  · by_cases outside : ∀ offset, protoCsOffset frame = some offset → i < offset ∨ offset + 2 ≤ i
    · rw [rewritten.apart i inHeader outside, rewritten'.apart i inHeader outside]
    · push Not at outside
      obtain ⟨offset, needed, after, before⟩ := outside
      have congruent : wordAt other offset ≡ wordAt other' offset [MOD 65535] := by
        have both := (rewritten.proto offset needed).trans (rewritten'.proto offset needed).symm
        rw [totals] at both
        exact Nat.ModEq.add_right_cancel' _ both
      obtain ⟨high, low⟩ := wordAt_inj (wordAt_eq_of_modEq congruent (proto offset needed))
      obtain rfl | rfl : i = offset ∨ i = offset + 1 := by omega
      · exact high
      · exact low
  · have inside : 24 ≤ i ∧ i < 34 := by omega
    by_cases checksum : i < 26
    · have congruent := rewritten.header.trans rewritten'.header.symm
      obtain ⟨high, low⟩ := wordAt_inj (wordAt_eq_of_modEq congruent header)
      obtain rfl | rfl : i = 24 ∨ i = 25 := by omega
      · exact high
      · exact low
    · obtain ⟨k, rfl⟩ := Nat.exists_eq_add_of_le (Nat.le_of_not_lt checksum)
      exact Buffer.read_eq_iff.mp addresses k (by omega)

end Rewritten

/-! ### Sequences of changes -/

section Changes

variable {jbLibPlatform : Nat} {frame newDstIp newSrcIp : Buffer} {offset : Nat}

/-- The fields that are all ones, and the addresses, which the change takes from all ones to all
zeros. -/
def OnesToZeros (frame newDstIp newSrcIp : Buffer) : Prop :=
  frameTotal frame = 4 * 65535 ∧ addressTotal newDstIp newSrcIp = 0 ∧
    ∃ offset, protoCsOffset frame = some offset ∧ wordAt frame offset = 65535

/-- A change never leaves all ones in the header, -/
theorem header_changeIp_ne (frame newDstIp newSrcIp : Buffer) :
    wordAt (changeIp jbLibPlatform frame newDstIp newSrcIp) etxIpChecksumOffset ≠ 65535 := by
  intro ones
  obtain ⟨-, all, zeros⟩ :=
    (wordAt_adjustForAddresses_eq_ones_iff (.inl (Nat.le_refl 26))).mp ones
  rw [frameTotal, read_copyAddresses, total_addresses, zeros] at all
  exact absurd all (by decide)

/-- and in the transport checksum only if all ones become all zeros. -/
theorem proto_changeIp_eq_ones_iff (platform : jbLibPlatform ≠ 1) (ihl : 20 ≤ headerLength frame)
    (needed : protoCsOffset frame = some offset) :
    wordAt (changeIp jbLibPlatform frame newDstIp newSrcIp) offset = 65535 ↔
      wordAt frame offset = 65535 ∧ frameTotal frame = 4 * 65535 ∧
        addressTotal newDstIp newSrcIp = 0 := by
  have behind := le_protoCsOffset ihl needed
  rw [wordAt_changeIp jbLibPlatform platform needed behind,
    wordAt_adjustForAddresses_eq_ones_iff (.inr behind)]

theorem rewritten_changeIps (platform : jbLibPlatform ≠ 1) (ihl : 20 ≤ headerLength frame)
    {other : Buffer} (rewritten : Rewritten frame other) (changes : List (Buffer × Buffer)) :
    Rewritten frame (changeIps jbLibPlatform other changes) := by
  induction changes generalizing other with
  | nil => exact rewritten
  | cons change changes ih =>
    exact ih (rewritten.changeIp platform ihl change.1 change.2)

theorem changeIps_concat (jbLibPlatform : Nat) (frame : Buffer) (changes : List (Buffer × Buffer))
    (newDstIp newSrcIp : Buffer) :
    changeIps jbLibPlatform frame (changes ++ [(newDstIp, newSrcIp)]) =
      changeIp jbLibPlatform (changeIps jbLibPlatform frame changes) newDstIp newSrcIp := by
  rw [changeIps, List.foldl_append]
  rfl

/-- After two changes the transport checksum is not all ones. -/
theorem proto_changeIp_changeIp_ne (platform : jbLibPlatform ≠ 1) {other : Buffer}
    (rewritten : Rewritten frame other) (ihl : 20 ≤ headerLength frame)
    (needed : protoCsOffset frame = some offset) (dstIp srcIp newDstIp newSrcIp : Buffer) :
    wordAt (changeIp jbLibPlatform (changeIp jbLibPlatform other dstIp srcIp) newDstIp newSrcIp)
      offset ≠ 65535 := by
  intro ones
  have once := rewritten.changeIp platform ihl dstIp srcIp
  have needed' : protoCsOffset other = some offset := by rwa [rewritten.protoCsOffset_eq ihl]
  have needed'' : protoCsOffset (changeIp jbLibPlatform other dstIp srcIp) = some offset := by
    rwa [once.protoCsOffset_eq ihl]
  have ihl' : 20 ≤ headerLength other := by rwa [rewritten.headerLength_eq ihl]
  have ihl'' : 20 ≤ headerLength (changeIp jbLibPlatform other dstIp srcIp) := by
    rwa [once.headerLength_eq ihl]
  obtain ⟨ones', all, -⟩ := (proto_changeIp_eq_ones_iff platform ihl'' needed'').mp ones
  obtain ⟨-, -, zeros⟩ := (proto_changeIp_eq_ones_iff platform ihl' needed').mp ones'
  rw [frameTotal_changeIp, zeros] at all
  exact absurd all (by decide)

/-- **Only the last change counts**, unless there are others and it alone takes all ones to all
zeros. -/
theorem changeIps_concat_iff (platform : jbLibPlatform ≠ 1) (ihl : 20 ≤ headerLength frame)
    (changes : List (Buffer × Buffer)) (newDstIp newSrcIp : Buffer) :
    changeIps jbLibPlatform frame (changes ++ [(newDstIp, newSrcIp)]) =
        changeIp jbLibPlatform frame newDstIp newSrcIp ↔
      changes = [] ∨ ¬ OnesToZeros frame newDstIp newSrcIp := by
  rcases List.eq_nil_or_concat changes with rfl | ⟨earlier, ⟨dstIp, srcIp⟩, rfl⟩
  · exact iff_of_true rfl (.inl rfl)
  rw [or_iff_right (by simp), List.concat_eq_append, changeIps_concat, changeIps_concat]
  have before := rewritten_changeIps platform ihl (.refl frame) earlier
  have twice := fun offset needed => @proto_changeIp_changeIp_ne jbLibPlatform frame offset platform
    _ before ihl needed dstIp srcIp newDstIp newSrcIp
  constructor
  · rintro same ⟨all, zeros, offset, needed, ones⟩
    have still := (proto_changeIp_eq_ones_iff platform ihl needed).mpr ⟨ones, all, zeros⟩
    rw [← same] at still
    exact twice offset needed still
  · intro different
    refine ((before.changeIp platform ihl dstIp srcIp).changeIp platform ihl _ _).eq
      ((Rewritten.refl frame).changeIp platform ihl _ _) ?_ ?_ fun offset needed => ?_
    · rw [changeIp_addresses, changeIp_addresses]
    · exact iff_of_false (header_changeIp_ne _ _ _) (header_changeIp_ne _ _ _)
    · refine iff_of_false (twice offset needed) fun ones => different ?_
      obtain ⟨ones, all, zeros⟩ := (proto_changeIp_eq_ones_iff platform ihl needed).mp ones
      exact ⟨all, zeros, offset, needed, ones⟩

theorem changeIps_concat_sample :
    changeIps 0 sampleDatagram [(fun _ => 3, fun _ => 4), (fun _ => 1, fun _ => 2)] =
      changeIp 0 sampleDatagram (fun _ => 1) (fun _ => 2) :=
  (changeIps_concat_iff (by decide) (by decide +kernel) [(fun _ => 3, fun _ => 4)] _ _).mpr
    (.inr fun ones => absurd ones.2.1 (by decide +kernel))

/-- **The old addresses bring the old frame back**, exactly if none of its checksum fields is all
ones, which a change never leaves there. -/
theorem changeIps_restores_iff (platform : jbLibPlatform ≠ 1) (ihl : 20 ≤ headerLength frame)
    (changes : List (Buffer × Buffer)) :
    changeIps jbLibPlatform frame
        (changes ++ [(frame.shift etxIpDIpOffset, frame.shift etxIpSIpOffset)]) = frame ↔
      wordAt frame etxIpChecksumOffset ≠ 65535 ∧
        ∀ offset, protoCsOffset frame = some offset → wordAt frame offset ≠ 65535 := by
  have own : addressTotal (frame.shift etxIpDIpOffset) (frame.shift etxIpSIpOffset) =
      frameTotal frame := by
    rw [addressTotal, Buffer.read_shift, Buffer.read_shift]
    exact (total_read_append rfl).symm
  have never : ¬ OnesToZeros frame (frame.shift etxIpDIpOffset) (frame.shift etxIpSIpOffset) := by
    rintro ⟨all, zeros, -⟩
    rw [← own, zeros] at all
    exact absurd all (by decide)
  rw [(changeIps_concat_iff platform ihl changes _ _).mpr (.inr never)]
  have proto : ∀ offset, protoCsOffset frame = some offset →
      wordAt (changeIp jbLibPlatform frame (frame.shift etxIpDIpOffset)
        (frame.shift etxIpSIpOffset)) offset ≠ 65535 := fun offset needed ones => by
    obtain ⟨ones, all, zeros⟩ := (proto_changeIp_eq_ones_iff platform ihl needed).mp ones
    exact never ⟨all, zeros, offset, needed, ones⟩
  constructor
  · intro restored
    refine ⟨fun ones => ?_, fun offset needed ones => ?_⟩
    · rw [← restored] at ones
      exact header_changeIp_ne _ _ _ ones
    · exact proto offset needed (by rwa [restored])
  · rintro ⟨header, transport⟩
    refine ((Rewritten.refl frame).changeIp platform ihl _ _).eq (.refl frame) ?_
      (iff_of_false (header_changeIp_ne _ _ _) header)
      fun offset needed => iff_of_false (proto offset needed) (transport offset needed)
    rw [changeIp_addresses, Buffer.read_shift, Buffer.read_shift]
    exact (Buffer.read_append 4).symm

theorem changeIps_restores_sample :
    changeIps 0 sampleDatagram [(fun _ => 3, fun _ => 4),
      (sampleDatagram.shift etxIpDIpOffset, sampleDatagram.shift etxIpSIpOffset)] =
        sampleDatagram := by
  refine (changeIps_restores_iff (by decide) (by decide +kernel) [(fun _ => 3, fun _ => 4)]).mpr
    ⟨by decide +kernel, fun offset needed => ?_⟩
  have place : protoCsOffset sampleDatagram = some 40 := by decide +kernel
  obtain rfl : 40 = offset := Option.some.inj (place.symm.trans needed)
  decide +kernel

end Changes

end EthernetUtilities

end Jblib.Ethutilities
