/-
**The value 0 of the UDP checksum field, which says that there is no checksum.**

* `wordAt_adjustForAddresses_eq_zero_iff` — when the pair of updates leaves 0: the new sum is a
  multiple of 65535, and the field is not all ones throughout.
* `udpChecksum_changeIp_iff` — `changeIp` keeps the meaning of the field exactly if no datagram
  without checksum gets addresses of another sum, and none with a checksum gets the sum that makes
  it 0.
* `udpChecksum_built_iff` — the builders write a checksum other than 0 exactly if the words that it
  is computed from do not add up to a multiple of 65535.
-/

import EthUtilities.EthernetUtilities.UdpFrame

namespace Jblib.Ethutilities

open Library OnesComplement

namespace EthernetUtilities

/-! ### The updates -/

section Update

variable {frame newDstIp newSrcIp : Buffer} {chksum : Nat}

/-- All ones stay all ones only where all ones are replaced by zeros. -/
theorem wordAt_adjustNetworkChecksum_eq_ones_iff (frame : Buffer) (chksum : Nat)
    (optr nptr : Buffer) (olds news : Nat) :
    wordAt (adjustNetworkChecksum frame chksum optr (2 * olds) nptr (2 * news)) chksum = 65535 ↔
      wordAt frame chksum = 65535 ∧ (∀ w ∈ words (optr.read 0 (2 * olds)), w = 65535) ∧
        total (words (nptr.read 0 (2 * news))) = 0 := by
  have inverted : ∀ x, x ≤ 65535 → (65535 - x = 65535 ↔ x = 0) := fun x fits => by omega
  have start : 65535 - wordAt frame chksum = 0 ↔ wordAt frame chksum = 65535 := by
    have fits := wordAt_le frame chksum
    omega
  rw [wordAt_adjustNetworkChecksum,
    inverted _ (foldl_add_le (words_le _) (foldl_sub_le (Nat.sub_le _ _))), foldl_add_eq_zero_iff,
    foldl_sub_eq_zero_iff (words_le _), start, and_assoc]

/-- The two words of an address. -/
theorem length_words_address (ip : Buffer) (offset : Nat) :
    (words (ip.read offset 4)).length = 2 := rfl

theorem wordAt_adjustForAddresses_eq_ones_iff (apart : chksum + 2 ≤ 26 ∨ 34 ≤ chksum) :
    wordAt (adjustForAddresses frame chksum newDstIp newSrcIp) chksum = 65535 ↔
      wordAt frame chksum = 65535 ∧ frameTotal frame = 4 * 65535 ∧
        addressTotal newDstIp newSrcIp = 0 := by
  have first := wordAt_adjustNetworkChecksum_eq_ones_iff frame chksum (frame.shift etxIpSIpOffset)
    newSrcIp 2 2
  have second := wordAt_adjustNetworkChecksum_eq_ones_iff
    (adjustNetworkChecksum frame chksum (frame.shift etxIpSIpOffset) 4 newSrcIp 4) chksum
    ((adjustNetworkChecksum frame chksum (frame.shift etxIpSIpOffset) 4 newSrcIp 4).shift
      etxIpDIpOffset) newDstIp 2 2
  have source : (frame.shift etxIpSIpOffset).read 0 (2 * 2) = frame.read 26 4 := Buffer.read_shift
  have destination : ((adjustNetworkChecksum frame chksum (frame.shift etxIpSIpOffset) 4 newSrcIp
      4).shift etxIpDIpOffset).read 0 (2 * 2) = frame.read 30 4 := by
    rw [Buffer.read_shift]
    refine Buffer.read_congr fun i after before => adjustNetworkChecksum_apart _ _ _ _ _ _ ?_
    change 30 ≤ i at after
    change i < 34 at before
    omega
  have both : frameTotal frame =
      total (words (frame.read 26 4)) + total (words (frame.read 30 4)) :=
    total_read_append (k := 4) (n := 4) rfl
  have sourceOnes := total_eq_iff (words_le (frame.read 26 4))
  have destinationOnes := total_eq_iff (words_le (frame.read 30 4))
  have sourceLe := total_le (words_le (frame.read 26 4))
  have destinationLe := total_le (words_le (frame.read 30 4))
  rw [length_words_address] at sourceOnes destinationOnes sourceLe destinationLe
  rw [source, ← sourceOnes] at first
  rw [destination, ← destinationOnes] at second
  have updated : wordAt (adjustForAddresses frame chksum newDstIp newSrcIp) chksum = 65535 ↔ _ :=
    second
  have halfway : wordAt (adjustNetworkChecksum frame chksum (frame.shift etxIpSIpOffset) 4 newSrcIp
      4) chksum = 65535 ↔ _ := first
  rw [updated, halfway, both, addressTotal]
  change _ ↔ _ ∧ _ ∧ total (words (newSrcIp.read 0 (2 * 2))) + total (words
    (newDstIp.read 0 (2 * 2))) = 0
  omega

/-- **When the updates leave 0.** -/
theorem wordAt_adjustForAddresses_eq_zero_iff (apart : chksum + 2 ≤ 26 ∨ 34 ≤ chksum) :
    wordAt (adjustForAddresses frame chksum newDstIp newSrcIp) chksum = 0 ↔
      wordAt frame chksum + frameTotal frame ≡ addressTotal newDstIp newSrcIp [MOD 65535] ∧
        ¬ (wordAt frame chksum = 65535 ∧ frameTotal frame = 4 * 65535 ∧
          addressTotal newDstIp newSrcIp = 0) := by
  rw [← wordAt_adjustForAddresses_eq_ones_iff apart]
  have moved := adjustForAddresses_modEq frame newDstIp newSrcIp chksum apart
  have fits := wordAt_le (adjustForAddresses frame chksum newDstIp newSrcIp) chksum
  unfold Nat.ModEq at *
  omega

end Update

/-! ### Changing the addresses of a datagram -/

section ChangeIp

variable (jbLibPlatform : Nat) {frame newDstIp newSrcIp : Buffer}

/-- The offset of the UDP checksum. -/
def udpChecksumOffset (frame : Buffer) : Nat := etxEthHeaderLen + headerLength frame + 6

/-- The field says that there is no checksum exactly if it did before. -/
def KeepsNoChecksum (frame newDstIp newSrcIp : Buffer) : Prop :=
  wordAt (changeIp jbLibPlatform frame newDstIp newSrcIp) (udpChecksumOffset frame) = 0 ↔
    wordAt frame (udpChecksumOffset frame) = 0

instance (frame newDstIp newSrcIp : Buffer) :
    Decidable (KeepsNoChecksum jbLibPlatform frame newDstIp newSrcIp) :=
  inferInstanceAs (Decidable (_ ↔ _))

/-- **What `changeIp` makes of the value 0.** A field of 0 stays 0 exactly if the addresses keep
their sum; another one does not become 0 exactly if the sum of field and old addresses is not that
of the new ones, but for all ones that are replaced by zeros. -/
theorem udpChecksum_changeIp_iff (platform : jbLibPlatform ≠ 1) (ihl : 20 ≤ headerLength frame)
    (first : fragmentOffset frame = 0) (udp : frame etxIpProtoOffset = 17) :
    KeepsNoChecksum jbLibPlatform frame newDstIp newSrcIp ↔
      if wordAt frame (udpChecksumOffset frame) = 0 then
        frameTotal frame ≡ addressTotal newDstIp newSrcIp [MOD 65535]
      else
        ¬ wordAt frame (udpChecksumOffset frame) + frameTotal frame ≡
            addressTotal newDstIp newSrcIp [MOD 65535] ∨
          (wordAt frame (udpChecksumOffset frame) = 65535 ∧ frameTotal frame = 4 * 65535 ∧
            addressTotal newDstIp newSrcIp = 0) := by
  have needed : protoCsOffset frame = some (udpChecksumOffset frame) := by
    rw [protoCsOffset, if_pos first, if_pos udp, udpChecksumOffset]
  have behind : 34 ≤ udpChecksumOffset frame := by
    unfold udpChecksumOffset etxEthHeaderLen
    omega
  rw [KeepsNoChecksum, wordAt_changeIp jbLibPlatform platform needed behind,
    wordAt_adjustForAddresses_eq_zero_iff (Or.inr behind)]
  by_cases none : wordAt frame (udpChecksumOffset frame) = 0
  · rw [if_pos none, none, Nat.zero_add]
    exact ⟨fun keeps => (keeps.mpr rfl).1, fun same =>
      iff_of_true ⟨same, fun ones => absurd ones.1 (by decide)⟩ rfl⟩
  · rw [if_neg none, iff_false_right none, not_and_or, not_not]

/-- A datagram without checksum. -/
def sampleUnchecked : Buffer := sampleDatagram.write 40 [0, 0]

/-- Another source address, and the datagram has a checksum, a wrong one. -/
theorem udpChecksum_changeIp_fails :
    20 ≤ headerLength sampleUnchecked ∧ fragmentOffset sampleUnchecked = 0 ∧
      sampleUnchecked etxIpProtoOffset = 17 ∧
      ¬ KeepsNoChecksum 0 sampleUnchecked (fun _ => 0) (fun _ => 1) := by
  decide +kernel

theorem udpChecksum_changeIp_iff_sample :
    KeepsNoChecksum 0 sampleDatagram (fun _ => 1) (fun _ => 2) :=
  (udpChecksum_changeIp_iff 0 (by decide) (by decide +kernel) (by decide +kernel)
    (by decide +kernel)).mpr (by decide +kernel)

end ChangeIp

/-! ### Building a datagram -/

section Built

variable (jbLibPlatform : Nat) (emacEthMaxFlen : UInt32) {frame udpData : Buffer}
  {ends : Endpoints} {dataSize : UInt32} {ipId : UInt16}

theorem udpTotal_pos (ends : Endpoints) (dataSize : UInt32) (data : List UInt8) :
    0 < udpTotal ends dataSize data := by
  have proto : total (words [0, etxIphProtoUdp]) = 17 := by decide
  rw [udpTotal, pseudoheaderBytes, words_append (by rw [ends.srcIp.property]),
    words_append (by rw [ends.dstIp.property]), words_append (by rfl)]
  simp only [total_append, proto]
  omega

/-- The complement of a checksum is 0 exactly for a sum of 65535. -/
theorem Sums.complement_eq_zero_iff {checksum : UInt16} {words : Nat} (sums : Sums checksum words)
    (positive : 0 < words) : 65535 - checksum.toNat = 0 ↔ words ≡ 0 [MOD 65535] := by
  have small := checksum.toNat_lt
  have same := sums.modEq
  have zero := sums.zero_iff
  unfold Nat.ModEq at *
  omega

/-- What a builder returned has a checksum. -/
def Checksummed (built : Built) : Prop := wordAt built.frame etxUdpChecksumOffset ≠ 0

instance (built : Built) : Decidable (Checksummed built) := inferInstanceAs (Decidable (_ ≠ _))

theorem checksummed_createUdpFrame_iff (platform : jbLibPlatform ≠ 1)
    (fits : ¬ dataSize > emacEthMaxFlen - 42) :
    Checksummed (createUdpFrame jbLibPlatform emacEthMaxFlen frame ends udpData dataSize ipId) ↔
      ¬ udpTotal ends dataSize (udpData.read 0 dataSize.toNat) ≡ 0 [MOD 65535] := by
  obtain ⟨ipSum, udpSum, -, udpSums, built⟩ :=
    createUdpFrame_eq jbLibPlatform emacEthMaxFlen frame udpData ends ipId platform fits
  have field : wordAt (frame.write 0 (udpFrameBytes ends dataSize ipId
      (hiLo (ipSum ^^^ 0xffff).toUInt32) (hiLo (udpSum ^^^ 0xffff).toUInt32)
      (udpData.read 0 dataSize.toNat))) etxUdpChecksumOffset = 65535 - udpSum.toNat := by
    rw [wordAt_of_read (holdsUdp_write frame rfl rfl).udpChecksum, ← total_hiLo, total_complement]
  rw [Checksummed, built, field, Ne,
    udpSums.complement_eq_zero_iff (udpTotal_pos ends dataSize (udpData.read 0 dataSize.toNat))]

/-- A builder that returns `true` did not find the payload too long. -/
theorem fits_of_createUdpFrame (success :
      (createUdpFrame jbLibPlatform emacEthMaxFlen frame ends udpData dataSize ipId).result = true) :
    ¬ dataSize > emacEthMaxFlen - 42 := by
  intro long
  rw [createUdpFrame, if_pos long] at success
  exact absurd success (by simp)

theorem fits_of_createUdpHeader (success :
      (createUdpHeader jbLibPlatform emacEthMaxFlen frame ends dataSize ipId).result = true) :
    ¬ dataSize > emacEthMaxFlen - 42 := by
  intro long
  rw [createUdpHeader, if_pos long] at success
  exact absurd success (by simp)

/-- **When the builders write a checksum.** -/
theorem udpChecksum_built_iff (platform : jbLibPlatform ≠ 1) :
    ((createUdpFrame jbLibPlatform emacEthMaxFlen frame ends udpData dataSize ipId).result = true →
      (Checksummed (createUdpFrame jbLibPlatform emacEthMaxFlen frame ends udpData dataSize ipId) ↔
        ¬ udpTotal ends dataSize (udpData.read 0 dataSize.toNat) ≡ 0 [MOD 65535])) ∧
    ((createUdpHeader jbLibPlatform emacEthMaxFlen frame ends dataSize ipId).result = true →
      (Checksummed (createUdpHeader jbLibPlatform emacEthMaxFlen frame ends dataSize ipId) ↔
        ¬ udpTotal ends dataSize (frame.read etxUdpDataOffset dataSize.toNat) ≡ 0 [MOD 65535])) := by
  constructor
  · intro success
    exact checksummed_createUdpFrame_iff jbLibPlatform emacEthMaxFlen platform
      (fits_of_createUdpFrame jbLibPlatform emacEthMaxFlen success)
  · intro success
    have fits := fits_of_createUdpHeader jbLibPlatform emacEthMaxFlen success
    have there : (frame.shift etxUdpDataOffset).read 0 dataSize.toNat =
        frame.read etxUdpDataOffset dataSize.toNat := Buffer.read_shift
    rw [Checksummed, createUdpHeader_frame jbLibPlatform emacEthMaxFlen fits, ← there]
    exact checksummed_createUdpFrame_iff jbLibPlatform emacEthMaxFlen platform fits

/-- With this port an empty datagram has the sum 65535. -/
def sampleUnlucky : Endpoints := { sampleEnds with srcPort := 42870 }

theorem udpChecksum_built_zero :
    ((createUdpFrame 0 1518 (fun _ => 0) sampleUnlucky (fun _ => 0) 0 0).result = true ∧
      ¬ Checksummed (createUdpFrame 0 1518 (fun _ => 0) sampleUnlucky (fun _ => 0) 0 0)) ∧
    ((createUdpHeader 0 1518 (fun _ => 0) sampleUnlucky 0 0).result = true ∧
      ¬ Checksummed (createUdpHeader 0 1518 (fun _ => 0) sampleUnlucky 0 0)) := by
  decide +kernel

theorem udpChecksum_built_iff_sample :
    Checksummed (createUdpFrame 0 1518 (fun _ => 0) sampleEnds (fun _ => 7) 3 0) ∧
      Checksummed (createUdpHeader 0 1518 (fun _ => 0) sampleEnds 3 0) := by
  have built := @udpChecksum_built_iff 0 1518 (fun _ => 0) (fun _ => 7) sampleEnds 3 0 (by decide)
  exact ⟨(built.1 (by decide +kernel)).mpr (by decide +kernel),
    (built.2 (by decide +kernel)).mpr (by decide +kernel)⟩

end Built

end EthernetUtilities

end Jblib.Ethutilities
