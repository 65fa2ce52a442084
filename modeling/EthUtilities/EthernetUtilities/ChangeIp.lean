/-
**`changeIp`: new addresses in an IPv4 frame, and what becomes of its checksums.**

* `changeIp` — the transport checksum is adjusted from the old addresses, then the addresses are
  overwritten, then the header checksum is adjusted (from the addresses already overwritten).
* `changeIp_apart`, `changeIp_addresses` — which bytes may differ, and the addresses afterwards.
* `headerVerifies_changeIp_iff` — the header still verifies exactly if the old and the new addresses
  have the same sum modulo 65535.
* `changeIp_transport` — the transport checksum stays valid, whatever the addresses.
-/

import EthUtilities.EthernetUtilities.Checksum

namespace Jblib.Ethutilities

open Library OnesComplement

namespace EthernetUtilities

/-- `(frame[ETX_IP_IHL_OFFSET] & 0x0f) * 4`. -/
def headerLength (frame : Buffer) : Nat := (frame etxIpIhlOffset &&& 0x0f).toNat * 4

def fragmentOffset (frame : Buffer) : UInt16 :=
  ((frame etxIpFlagFragoffsOffset).toUInt16 <<< 8 |||
    (frame (etxIpFlagFragoffsOffset + 1)).toUInt16) &&& 0x1fff

def ipIsMoreFragments (frame : Buffer) : UInt8 := (frame etxIpFlagFragoffsOffset &&& 0x20) >>> 5

/-- `offset`, if `needProtoCsCalculation`. -/
def protoCsOffset (frame : Buffer) : Option Nat :=
  if fragmentOffset frame = 0 then
    if frame etxIpProtoOffset = 17 then some (etxEthHeaderLen + headerLength frame + 6)
    else if frame etxIpProtoOffset = 6 then some (etxEthHeaderLen + headerLength frame + 16)
    else none
  else none

/-- The pair of updates of the checksum at `chksum`, for the source and the destination address. -/
def adjustForAddresses (frame : Buffer) (chksum : Nat) (newDstIp newSrcIp : Buffer) : Buffer :=
  let frame := adjustNetworkChecksum frame chksum (frame.shift etxIpSIpOffset) 4 newSrcIp 4
  adjustNetworkChecksum frame chksum (frame.shift etxIpDIpOffset) 4 newDstIp 4

/-- The `#if JB_LIB_PLATFORM == 1` part and its `#else`. -/
def adjustProtoCs (jbLibPlatform : Nat) (frame : Buffer) (offset : Nat)
    (newDstIp newSrcIp : Buffer) : Buffer :=
  if jbLibPlatform = 1 ∧ ipIsMoreFragments frame = 0 then frame.write offset [0, 0]
  else adjustForAddresses frame offset newDstIp newSrcIp

/-- Both `memcpy` calls. -/
def copyAddresses (frame newDstIp newSrcIp : Buffer) : Buffer :=
  (frame.write etxIpDIpOffset (newDstIp.read 0 4)).write etxIpSIpOffset (newSrcIp.read 0 4)

def changeIp (jbLibPlatform : Nat) (frame newDstIp newSrcIp : Buffer) : Buffer :=
  let frame := (protoCsOffset frame).elim frame fun offset =>
    adjustProtoCs jbLibPlatform frame offset newDstIp newSrcIp
  let frame := copyAddresses frame newDstIp newSrcIp
  adjustForAddresses frame etxIpChecksumOffset newDstIp newSrcIp

/-! ### Valid checksums -/

/-- The one's-complement sum of the IPv4 header is all ones. -/
def HeaderVerifies (frame : Buffer) : Prop :=
  sum 65535 (words (frame.read etxIpHeaderOffset (headerLength frame))) = 65535

instance (frame : Buffer) : Decidable (HeaderVerifies frame) :=
  inferInstanceAs (Decidable (_ = _))

/-- The length of the segment that the IPv4 packet carries. -/
def segmentLength (frame : Buffer) : Nat := wordAt frame etxIpTotalLenOffset - headerLength frame

/-- The pseudo-header behind the addresses. -/
def pseudoTail (frame : Buffer) : List UInt8 :=
  [0, frame etxIpProtoOffset, UInt8.ofNat (segmentLength frame / 256),
    UInt8.ofNat (segmentLength frame % 256)]

def pseudoHeader (frame : Buffer) : List UInt8 :=
  frame.read etxIpSIpOffset 8 ++ pseudoTail frame

/-- The one's-complement sum of pseudo-header and segment is all ones. -/
def TransportVerifies (frame : Buffer) : Prop :=
  sum 65535 (words (pseudoHeader frame ++
    frame.read (etxEthHeaderLen + headerLength frame) (segmentLength frame))) = 65535

instance (frame : Buffer) : Decidable (TransportVerifies frame) :=
  inferInstanceAs (Decidable (_ = _))

/-- A segment with room for its transport header: TCP, or UDP with a checksum. -/
def CarriesSegment (frame : Buffer) : Prop :=
  frame etxIpProtoOffset = 6 ∧ 20 ≤ segmentLength frame ∨
    frame etxIpProtoOffset = 17 ∧ 8 ≤ segmentLength frame ∧
      wordAt frame (etxEthHeaderLen + headerLength frame + 6) ≠ 0

/-- What the words of the two addresses add up to. -/
def addressTotal (dstIp srcIp : Buffer) : Nat :=
  total (words (srcIp.read 0 4)) + total (words (dstIp.read 0 4))

/-- The addresses that the frame carries. -/
def frameTotal (frame : Buffer) : Nat := total (words (frame.read etxIpSIpOffset 8))

/-! ### Bytes written -/

section Bytes

variable {frame newDstIp newSrcIp : Buffer} {i chksum : Nat}

theorem adjustForAddresses_apart (apart : i < chksum ∨ chksum + 2 ≤ i) :
    adjustForAddresses frame chksum newDstIp newSrcIp i = frame i := by
  unfold adjustForAddresses
  rw [adjustNetworkChecksum_apart _ _ _ _ _ _ apart, adjustNetworkChecksum_apart _ _ _ _ _ _ apart]

theorem adjustProtoCs_apart (jbLibPlatform : Nat) (apart : i < chksum ∨ chksum + 2 ≤ i) :
    adjustProtoCs jbLibPlatform frame chksum newDstIp newSrcIp i = frame i := by
  unfold adjustProtoCs
  split
  · rcases apart with before | after
    · exact Buffer.write_before before
    · exact Buffer.write_after after
  · exact adjustForAddresses_apart apart

theorem copyAddresses_apart (apart : i < 26 ∨ 34 ≤ i) :
    copyAddresses frame newDstIp newSrcIp i = frame i := by
  unfold copyAddresses
  rcases apart with before | after
  · rw [Buffer.write_before (show i < etxIpSIpOffset from before),
      Buffer.write_before (show i < etxIpDIpOffset from Nat.lt_of_lt_of_le before (by decide))]
  · have destination : etxIpDIpOffset + (newDstIp.read 0 4).length ≤ i := after
    have source : etxIpSIpOffset + (newSrcIp.read 0 4).length ≤ i :=
      Nat.le_trans (show 30 ≤ 34 by decide) after
    rw [Buffer.write_after source, Buffer.write_after destination]

theorem read_copyAddresses (frame newDstIp newSrcIp : Buffer) :
    (copyAddresses frame newDstIp newSrcIp).read etxIpSIpOffset 8 =
      newSrcIp.read 0 4 ++ newDstIp.read 0 4 := by
  have source : (copyAddresses frame newDstIp newSrcIp).read 26 4 = newSrcIp.read 0 4 :=
    Buffer.read_write_array (newSrcIp.field 0 4)
  have destination : (copyAddresses frame newDstIp newSrcIp).read 30 4 = newDstIp.read 0 4 := by
    have behind : etxIpSIpOffset + (newSrcIp.read 0 4).length ≤ etxIpDIpOffset := Nat.le_refl 30
    exact (Buffer.read_write_apart (Or.inr behind)).trans
      (Buffer.read_write_array (newDstIp.field 0 4))
  calc (copyAddresses frame newDstIp newSrcIp).read 26 (4 + 4)
      = (copyAddresses frame newDstIp newSrcIp).read 26 4 ++
        (copyAddresses frame newDstIp newSrcIp).read (26 + 4) 4 := Buffer.read_append 4
    _ = newSrcIp.read 0 4 ++ newDstIp.read 0 4 := by rw [source, destination]

/-- Where the transport checksum is: behind the addresses, at one of two places of the segment. -/
theorem protoCsOffset_eq_some {offset : Nat} (needed : protoCsOffset frame = some offset) :
    fragmentOffset frame = 0 ∧ (frame etxIpProtoOffset = 17 ∧
        offset = etxEthHeaderLen + headerLength frame + 6 ∨
      frame etxIpProtoOffset = 6 ∧ offset = etxEthHeaderLen + headerLength frame + 16) := by
  unfold protoCsOffset at needed
  split at needed
  case isFalse => exact nomatch needed
  case isTrue first =>
    refine ⟨first, ?_⟩
    split at needed
    case isTrue udp => exact Or.inl ⟨udp, (Option.some.inj needed).symm⟩
    case isFalse =>
      split at needed
      case isTrue tcp => exact Or.inr ⟨tcp, (Option.some.inj needed).symm⟩
      case isFalse => exact nomatch needed

variable (jbLibPlatform : Nat)

/-- **Frame condition.** -/
theorem changeIp_apart (header : i < 24 ∨ 34 ≤ i)
    (proto : ∀ offset, protoCsOffset frame = some offset → i < offset ∨ offset + 2 ≤ i) :
    changeIp jbLibPlatform frame newDstIp newSrcIp i = frame i := by
  unfold changeIp
  have checksum : i < etxIpChecksumOffset ∨ etxIpChecksumOffset + 2 ≤ i :=
    header.imp_right (Nat.le_trans (show 26 ≤ 34 by decide))
  rw [adjustForAddresses_apart checksum, copyAddresses_apart (by omega)]
  cases needed : protoCsOffset frame with
  | none => rfl
  | some offset => exact adjustProtoCs_apart jbLibPlatform (proto offset needed)

/-- Afterwards the frame carries the new addresses. -/
theorem changeIp_addresses :
    (changeIp jbLibPlatform frame newDstIp newSrcIp).read etxIpSIpOffset 8 =
      newSrcIp.read 0 4 ++ newDstIp.read 0 4 := by
  rw [← read_copyAddresses ((protoCsOffset frame).elim frame fun offset =>
    adjustProtoCs jbLibPlatform frame offset newDstIp newSrcIp)]
  exact Buffer.read_congr fun i after _ => adjustForAddresses_apart (Or.inr after)

variable (ihl : 20 ≤ headerLength frame)
include ihl

/-- The part of the header in front of its checksum stays. -/
theorem changeIp_before (before : i < 24) :
    changeIp jbLibPlatform frame newDstIp newSrcIp i = frame i := by
  refine changeIp_apart jbLibPlatform (Or.inl before) fun offset needed => Or.inl ?_
  have places := (protoCsOffset_eq_some needed).2
  unfold etxEthHeaderLen at places
  omega

theorem headerLength_changeIp :
    headerLength (changeIp jbLibPlatform frame newDstIp newSrcIp) = headerLength frame := by
  unfold headerLength
  rw [changeIp_before jbLibPlatform ihl (show etxIpIhlOffset < 24 by decide)]

theorem segmentLength_changeIp :
    segmentLength (changeIp jbLibPlatform frame newDstIp newSrcIp) = segmentLength frame := by
  unfold segmentLength wordAt
  rw [headerLength_changeIp jbLibPlatform ihl,
    changeIp_before jbLibPlatform ihl (show etxIpTotalLenOffset < 24 by decide),
    changeIp_before jbLibPlatform ihl (show etxIpTotalLenOffset + 1 < 24 by decide)]

theorem pseudoTail_changeIp :
    pseudoTail (changeIp jbLibPlatform frame newDstIp newSrcIp) = pseudoTail frame := by
  unfold pseudoTail
  rw [segmentLength_changeIp jbLibPlatform ihl,
    changeIp_before jbLibPlatform ihl (show etxIpProtoOffset < 24 by decide)]

end Bytes

/-! ### Sums -/

section Sums

variable {frame newDstIp newSrcIp : Buffer} {start k n : Nat}

theorem total_read_append (even : k % 2 = 0) :
    total (words (frame.read start (k + n))) =
      total (words (frame.read start k)) + total (words (frame.read (start + k) n)) := by
  rw [Buffer.read_append, words_append (by rw [Buffer.length_read]; exact even), total_append]

/-- The word at `start + k` in a sum of words. -/
theorem total_read_word (even : k % 2 = 0) :
    total (words (frame.read start (k + 2 + n))) =
      total (words (frame.read start k)) + wordAt frame (start + k) +
        total (words (frame.read (start + k + 2) n)) := by
  have here : total (words (frame.read (start + k) 2)) = wordAt frame (start + k) :=
    Nat.add_zero _
  rw [total_read_append (by omega), total_read_append even, here, Nat.add_assoc start]

theorem total_addresses :
    total (words (newSrcIp.read 0 4 ++ newDstIp.read 0 4)) = addressTotal newDstIp newSrcIp := by
  rw [words_append (by rw [Buffer.length_read]), total_append, addressTotal]

theorem frameTotal_changeIp (jbLibPlatform : Nat) :
    frameTotal (changeIp jbLibPlatform frame newDstIp newSrcIp) =
      addressTotal newDstIp newSrcIp := by
  rw [frameTotal, changeIp_addresses, total_addresses]

/-- The pair of updates: the checksum loses the new addresses and gains those of the frame. -/
theorem adjustForAddresses_modEq (frame newDstIp newSrcIp : Buffer) (chksum : Nat)
    (apart : chksum + 2 ≤ 26 ∨ 34 ≤ chksum) :
    wordAt (adjustForAddresses frame chksum newDstIp newSrcIp) chksum +
        addressTotal newDstIp newSrcIp ≡
      wordAt frame chksum + frameTotal frame [MOD 65535] := by
  have first : wordAt (adjustNetworkChecksum frame chksum (frame.shift etxIpSIpOffset) 4 newSrcIp 4)
      chksum + total (words (newSrcIp.read 0 4)) ≡
      wordAt frame chksum + total (words ((frame.shift etxIpSIpOffset).read 0 4)) [MOD 65535] :=
    adjustNetworkChecksum_modEq frame chksum (frame.shift etxIpSIpOffset) newSrcIp 2 2
  have source : (frame.shift etxIpSIpOffset).read 0 4 = frame.read 26 4 := Buffer.read_shift
  rw [source] at first
  unfold adjustForAddresses
  dsimp only
  have same : (adjustNetworkChecksum frame chksum (frame.shift etxIpSIpOffset) 4 newSrcIp 4).read
      30 4 = frame.read 30 4 :=
    Buffer.read_congr fun i after before =>
      adjustNetworkChecksum_apart _ _ _ _ _ _ (by omega)
  generalize adjustNetworkChecksum frame chksum (frame.shift etxIpSIpOffset) 4 newSrcIp 4 = middle
    at first same ⊢
  have second : wordAt (adjustNetworkChecksum middle chksum (middle.shift etxIpDIpOffset) 4 newDstIp
      4) chksum + total (words (newDstIp.read 0 4)) ≡
      wordAt middle chksum + total (words ((middle.shift etxIpDIpOffset).read 0 4)) [MOD 65535] :=
    adjustNetworkChecksum_modEq middle chksum (middle.shift etxIpDIpOffset) newDstIp 2 2
  have destination : (middle.shift etxIpDIpOffset).read 0 4 = frame.read 30 4 :=
    Buffer.read_shift.trans same
  rw [destination] at second
  have both : frameTotal frame =
      total (words (frame.read 26 4)) + total (words (frame.read 30 4)) :=
    total_read_append (k := 4) (n := 4) rfl
  rw [both, addressTotal]
  unfold Nat.ModEq at *
  omega

end Sums

/-! ### The header checksum -/

section Header

variable (jbLibPlatform : Nat) {frame newDstIp newSrcIp : Buffer} (ihl : 20 ≤ headerLength frame)

/-- Both updates come after the addresses are overwritten, so they cancel. -/
theorem checksum_changeIp_modEq (ihl : 20 ≤ headerLength frame) :
    wordAt (changeIp jbLibPlatform frame newDstIp newSrcIp) etxIpChecksumOffset ≡
      wordAt frame etxIpChecksumOffset [MOD 65535] := by
  have same : ∀ i, i < 26 → copyAddresses ((protoCsOffset frame).elim frame fun offset =>
      adjustProtoCs jbLibPlatform frame offset newDstIp newSrcIp) newDstIp newSrcIp i = frame i := by
    intro i before
    rw [copyAddresses_apart (Or.inl before)]
    cases needed : protoCsOffset frame with
    | none => rfl
    | some offset =>
      have places := (protoCsOffset_eq_some needed).2
      unfold etxEthHeaderLen at places
      exact adjustProtoCs_apart jbLibPlatform (Or.inl (by omega))
  have carried := read_copyAddresses ((protoCsOffset frame).elim frame fun offset =>
    adjustProtoCs jbLibPlatform frame offset newDstIp newSrcIp) newDstIp newSrcIp
  unfold changeIp
  dsimp only
  generalize copyAddresses ((protoCsOffset frame).elim frame fun offset =>
    adjustProtoCs jbLibPlatform frame offset newDstIp newSrcIp) newDstIp newSrcIp = middle
    at same carried ⊢
  have update := adjustForAddresses_modEq middle newDstIp newSrcIp etxIpChecksumOffset
    (Or.inl (Nat.le_refl 26))
  have cancels : frameTotal middle = addressTotal newDstIp newSrcIp := by
    rw [frameTotal, carried, total_addresses]
  have kept : wordAt middle etxIpChecksumOffset = wordAt frame etxIpChecksumOffset := by
    have high : etxIpChecksumOffset < 26 := by decide
    have low : etxIpChecksumOffset + 1 < 26 := by decide
    rw [wordAt, wordAt, same _ high, same _ low]
  rw [cancels, kept] at update
  exact Nat.ModEq.add_right_cancel' _ update

/-- The header's words around its checksum and its addresses. -/
theorem headerTotal_eq (ihl : 20 ≤ headerLength frame) :
    total (words (frame.read etxIpHeaderOffset (headerLength frame))) =
      total (words (frame.read etxIpHeaderOffset 10)) + wordAt frame etxIpChecksumOffset +
        (frameTotal frame + total (words (frame.read 34 (headerLength frame - 20)))) := by
  obtain ⟨options, split⟩ := Nat.exists_eq_add_of_le ihl
  have arranged : 20 + options = 10 + 2 + (8 + options) := by omega
  have addresses : total (words (frame.read (etxIpHeaderOffset + 10 + 2) (8 + options))) =
      frameTotal frame + total (words (frame.read 34 options)) := total_read_append rfl
  rw [split, Nat.add_sub_cancel_left, arranged, total_read_word (by rfl), addresses]
  rfl

theorem headerVerifies_iff (ihl : 20 ≤ headerLength frame) :
    HeaderVerifies frame ↔
      total (words (frame.read etxIpHeaderOffset (headerLength frame))) ≡ 0 [MOD 65535] := by
  refine (sum_eq_ones_iff (by decide) (words_le _)).trans (and_iff_right ?_)
  -- the byte with the header length is not zero
  have version : frame etxIpIhlOffset ≠ 0 := by
    intro zero
    rw [headerLength, zero] at ihl
    exact absurd ihl (by decide)
  have nonzero : 0 < (frame etxIpIhlOffset).toNat :=
    Nat.pos_of_ne_zero fun none => version (UInt8.toNat_inj.mp none)
  rw [headerTotal_eq ihl]
  show 0 < word (frame etxIpIhlOffset) (frame (etxIpIhlOffset + 1)) + _ + _ + _
  unfold word
  omega

/-- **The header checksum after `changeIp`**: valid exactly if the new addresses have the sum of the
old ones. -/
theorem headerVerifies_changeIp_iff (ihl : 20 ≤ headerLength frame) (valid : HeaderVerifies frame) :
    HeaderVerifies (changeIp jbLibPlatform frame newDstIp newSrcIp) ↔
      frameTotal frame ≡ addressTotal newDstIp newSrcIp [MOD 65535] := by
  have length : headerLength (changeIp jbLibPlatform frame newDstIp newSrcIp) =
      headerLength frame := headerLength_changeIp jbLibPlatform ihl
  have ihl' := ihl
  rw [← length] at ihl'
  have checksum : wordAt (changeIp jbLibPlatform frame newDstIp newSrcIp) etxIpChecksumOffset ≡
      wordAt frame etxIpChecksumOffset [MOD 65535] := checksum_changeIp_modEq jbLibPlatform ihl
  rw [headerVerifies_iff ihl, headerTotal_eq ihl] at valid
  rw [headerVerifies_iff ihl', headerTotal_eq ihl', length]
  have front : (changeIp jbLibPlatform frame newDstIp newSrcIp).read etxIpHeaderOffset 10 =
      frame.read etxIpHeaderOffset 10 :=
    Buffer.read_congr fun i _ before => changeIp_before jbLibPlatform ihl before
  have options : (changeIp jbLibPlatform frame newDstIp newSrcIp).read 34
      (headerLength frame - 20) = frame.read 34 (headerLength frame - 20) :=
    Buffer.read_congr fun i after before =>
      changeIp_apart jbLibPlatform (Or.inr after) fun offset needed => by
        have places := (protoCsOffset_eq_some needed).2
        unfold etxEthHeaderLen at places
        omega
  rw [front, options, frameTotal_changeIp]
  unfold Nat.ModEq at *
  omega

/-- A header-only packet with valid checksum. -/
def sampleFrame : Buffer :=
  Buffer.write (Buffer.write (fun _ => 0) etxIpIhlOffset [0x45]) etxIpChecksumOffset [0xBA, 0xFF]

/-- A new source address alone breaks the header checksum. -/
theorem headerVerifies_changeIp_fails :
    20 ≤ headerLength sampleFrame ∧ HeaderVerifies sampleFrame ∧
      ¬ HeaderVerifies (changeIp 0 sampleFrame (fun _ => 0) (fun _ => 1)) := by
  decide +kernel

/-- Addresses whose words add up to what the old ones do keep it. -/
theorem headerVerifies_changeIp_iff_sample :
    HeaderVerifies (changeIp 0 sampleFrame (Buffer.write (fun _ => 0) 0 [255, 255, 0, 0])
      (Buffer.write (fun _ => 0) 0 [255, 254, 0, 1])) :=
  (headerVerifies_changeIp_iff 0 (by decide +kernel) (by decide +kernel)).mpr (by decide +kernel)

end Header

/-! ### The transport checksum -/

section Transport

variable (jbLibPlatform : Nat) {frame newDstIp newSrcIp : Buffer}

/-- The field at `offset` is what both updates leave there. -/
theorem wordAt_changeIp {offset : Nat} (platform : jbLibPlatform ≠ 1)
    (needed : protoCsOffset frame = some offset) (behind : 34 ≤ offset) :
    wordAt (changeIp jbLibPlatform frame newDstIp newSrcIp) offset =
      wordAt (adjustForAddresses frame offset newDstIp newSrcIp) offset := by
  have kept : ∀ i, 34 ≤ i → changeIp jbLibPlatform frame newDstIp newSrcIp i =
      adjustForAddresses frame offset newDstIp newSrcIp i := by
    intro i after
    have checksum : etxIpChecksumOffset + 2 ≤ i := Nat.le_trans (show 26 ≤ 34 by decide) after
    unfold changeIp
    rw [adjustForAddresses_apart (Or.inr checksum), copyAddresses_apart (Or.inr after), needed]
    show adjustProtoCs jbLibPlatform frame offset newDstIp newSrcIp i = _
    rw [adjustProtoCs, if_neg fun zynq => platform zynq.1]
  rw [wordAt, kept offset behind, kept (offset + 1) (Nat.le_succ_of_le behind), wordAt]

/-- The field at `offset` moves by the old and the new addresses. -/
theorem wordAt_changeIp_modEq {offset : Nat} (platform : jbLibPlatform ≠ 1)
    (needed : protoCsOffset frame = some offset) (behind : 34 ≤ offset) :
    wordAt (changeIp jbLibPlatform frame newDstIp newSrcIp) offset +
        addressTotal newDstIp newSrcIp ≡
      wordAt frame offset + frameTotal frame [MOD 65535] := by
  rw [wordAt_changeIp jbLibPlatform platform needed behind]
  exact adjustForAddresses_modEq _ _ _ _ (Or.inr behind)

theorem transportVerifies_iff (frame : Buffer) :
    TransportVerifies frame ↔
      0 < frameTotal frame + total (words (pseudoTail frame)) + total (words
        (frame.read (etxEthHeaderLen + headerLength frame) (segmentLength frame))) ∧
      frameTotal frame + total (words (pseudoTail frame)) + total (words
        (frame.read (etxEthHeaderLen + headerLength frame) (segmentLength frame))) ≡
        0 [MOD 65535] := by
  have length : (pseudoHeader frame).length = 12 := by
    rw [pseudoHeader, List.length_append, Buffer.length_read]
    rfl
  have pseudo : total (words (pseudoHeader frame)) =
      frameTotal frame + total (words (pseudoTail frame)) := by
    rw [pseudoHeader, words_append (by rw [Buffer.length_read]), total_append, frameTotal]
  unfold TransportVerifies
  rw [sum_eq_ones_iff (by decide) (words_le _), words_append (by rw [length]), total_append, pseudo]

/-- A segment with its checksum field `k` bytes in keeps a valid sum. -/
theorem transportVerifies_changeIp {k : Nat} (platform : jbLibPlatform ≠ 1)
    (ihl : 20 ≤ headerLength frame)
    (needed : protoCsOffset frame = some (etxEthHeaderLen + headerLength frame + k))
    (even : k % 2 = 0) (room : k + 2 ≤ segmentLength frame) (valid : TransportVerifies frame) :
    TransportVerifies (changeIp jbLibPlatform frame newDstIp newSrcIp) := by
  have behind : 34 ≤ etxEthHeaderLen + headerLength frame + k := by
    unfold etxEthHeaderLen
    omega
  have moved : wordAt (changeIp jbLibPlatform frame newDstIp newSrcIp)
        (etxEthHeaderLen + headerLength frame + k) + addressTotal newDstIp newSrcIp ≡
      wordAt frame (etxEthHeaderLen + headerLength frame + k) + frameTotal frame [MOD 65535] :=
    wordAt_changeIp_modEq jbLibPlatform platform needed behind
  have proto : 0 < (frame etxIpProtoOffset).toNat := by
    rcases (protoCsOffset_eq_some needed).2 with ⟨udp, _⟩ | ⟨tcp, _⟩
    · rw [udp]; decide
    · rw [tcp]; decide
  have same : ∀ i, etxEthHeaderLen + headerLength frame ≤ i →
      i < etxEthHeaderLen + headerLength frame + k ∨
        etxEthHeaderLen + headerLength frame + k + 2 ≤ i →
      changeIp jbLibPlatform frame newDstIp newSrcIp i = frame i := by
    intro i inSegment apart
    refine changeIp_apart jbLibPlatform (Or.inr ?_) fun offset here => ?_
    · unfold etxEthHeaderLen at inSegment
      omega
    · rw [needed] at here
      rw [← Option.some.inj here]
      exact apart
  have positive : 0 < total (words (pseudoTail frame)) := by
    show 0 < 0 * 256 + (frame etxIpProtoOffset).toNat + _
    omega
  have front : (changeIp jbLibPlatform frame newDstIp newSrcIp).read
      (etxEthHeaderLen + headerLength frame) k =
        frame.read (etxEthHeaderLen + headerLength frame) k :=
    Buffer.read_congr fun i after before => same i after (Or.inl before)
  obtain ⟨rest, split⟩ := Nat.exists_eq_add_of_le room
  have back : (changeIp jbLibPlatform frame newDstIp newSrcIp).read
      (etxEthHeaderLen + headerLength frame + k + 2) rest =
        frame.read (etxEthHeaderLen + headerLength frame + k + 2) rest :=
    Buffer.read_congr fun i after before => same i (by omega) (Or.inr after)
  rw [transportVerifies_iff] at valid ⊢
  rw [pseudoTail_changeIp jbLibPlatform ihl, segmentLength_changeIp jbLibPlatform ihl,
    headerLength_changeIp jbLibPlatform ihl, frameTotal_changeIp, split, total_read_word even,
    front, back]
  rw [split, total_read_word even] at valid
  unfold Nat.ModEq at *
  omega

/-- **The transport checksum after `changeIp`**, and the bytes that may differ. -/
theorem changeIp_transport (platform : jbLibPlatform ≠ 1) (ihl : 20 ≤ headerLength frame) :
    (fragmentOffset frame = 0 → CarriesSegment frame → TransportVerifies frame →
        TransportVerifies (changeIp jbLibPlatform frame newDstIp newSrcIp)) ∧
      (changeIp jbLibPlatform frame newDstIp newSrcIp).read etxIpSIpOffset 4 = newSrcIp.read 0 4 ∧
      (changeIp jbLibPlatform frame newDstIp newSrcIp).read etxIpDIpOffset 4 = newDstIp.read 0 4 ∧
      ∀ i, changeIp jbLibPlatform frame newDstIp newSrcIp i ≠ frame i →
        etxIpChecksumOffset ≤ i ∧ i < etxIpChecksumOffset + 2 ∨
        etxIpSIpOffset ≤ i ∧ i < etxIpSIpOffset + 4 ∨
        etxIpDIpOffset ≤ i ∧ i < etxIpDIpOffset + 4 ∨
        fragmentOffset frame = 0 ∧ ∃ checksum,
          (frame etxIpProtoOffset = 17 ∧
              checksum = etxEthHeaderLen + headerLength frame + 6 ∨
            frame etxIpProtoOffset = 6 ∧
              checksum = etxEthHeaderLen + headerLength frame + 16) ∧
          checksum ≤ i ∧ i < checksum + 2 := by
  have addresses : (changeIp jbLibPlatform frame newDstIp newSrcIp).read etxIpSIpOffset 8 =
      newSrcIp.read 0 4 ++ newDstIp.read 0 4 := changeIp_addresses jbLibPlatform
  refine ⟨fun first carries valid => ?_, ?_, ?_, fun i differs => ?_⟩
  · rcases carries with ⟨tcp, room⟩ | ⟨udp, room, _⟩
    · have needed : protoCsOffset frame = some (etxEthHeaderLen + headerLength frame + 16) := by
        rw [protoCsOffset, if_pos first, if_neg (by rw [tcp]; decide), if_pos tcp]
      exact transportVerifies_changeIp jbLibPlatform platform ihl needed rfl (by omega) valid
    · have needed : protoCsOffset frame = some (etxEthHeaderLen + headerLength frame + 6) := by
        rw [protoCsOffset, if_pos first, if_pos udp]
      exact transportVerifies_changeIp jbLibPlatform platform ihl needed rfl (by omega) valid
  · have source := congrArg (List.take 4) addresses
    rw [List.take_left' Buffer.length_read] at source
    exact source
  · have destination := congrArg (List.drop 4) addresses
    rw [List.drop_left' Buffer.length_read] at destination
    exact destination
  · by_contra outside
    rw [not_or, not_or, not_or] at outside
    obtain ⟨notChecksum, notSource, notDestination, notProto⟩ := outside
    refine differs (changeIp_apart jbLibPlatform ?_ fun offset needed => ?_)
    · change ¬ (24 ≤ i ∧ i < 26) at notChecksum
      change ¬ (26 ≤ i ∧ i < 30) at notSource
      change ¬ (30 ≤ i ∧ i < 34) at notDestination
      omega
    · obtain ⟨first, places⟩ := protoCsOffset_eq_some needed
      by_contra inside
      exact notProto ⟨first, offset, places, by omega, by omega⟩

/-- A UDP datagram without data, with valid checksum. -/
def sampleDatagram : Buffer :=
  Buffer.write (Buffer.write (Buffer.write sampleFrame etxIpTotalLenOffset [0, 28])
    etxIpProtoOffset [17]) 38 [0, 8, 0xFF, 0xDE]

theorem changeIp_transport_sample :
    TransportVerifies (changeIp 0 sampleDatagram (fun _ => 1) (fun _ => 2)) :=
  (changeIp_transport 0 (by decide) (by decide +kernel)).1 (by decide +kernel)
    (Or.inr (by decide +kernel)) (by decide +kernel)

end Transport

end EthernetUtilities

end Jblib.Ethutilities
