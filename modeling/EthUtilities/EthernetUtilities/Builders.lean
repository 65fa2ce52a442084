/-
**The three header builders agree.**

* `agreeBelow_writeIpHeader`, `agreeBelow_writeIpChecksum`, `agreeBelow_writeUdpChecksum` — what a
  builder writes depends on its arguments only: no checksum is computed from a byte of the buffer
  that the builder has not written, but for the payload.
* `BuildAlike` — the bytes the builders have in common, and those they leave alone.
* **`builders_agree`** — `createUdpHeader` on a buffer with the payload, `createUdpFrame` with the
  payload and `createIpHeader` for a UDP packet, each on a buffer of its own.
-/

import EthUtilities.EthernetUtilities.UdpFrame

namespace Jblib.Ethutilities

open Library OnesComplement Buffer

namespace EthernetUtilities

/-! ### What the headers depend on -/

section Headers

variable {frame other : Buffer} {ends : Endpoints} {dataSize : UInt32} {ipId : UInt16} {n : Nat}

theorem agreeBelow_writeIpHeader (frame other : Buffer) (ends : Endpoints) (totalLen : UInt32)
    (ipId : UInt16) :
    AgreeBelow etxUdpHeaderOffset
      (writeIpHeader frame ends.dstIp ends.srcIp totalLen ends.srcMac ends.dstMac etxIphProtoUdp
        ipId)
      (writeIpHeader other ends.dstIp ends.srcIp totalLen ends.srcMac ends.dstMac etxIphProtoUdp
        ipId) := by
  rw [writeIpHeader_eq, writeIpHeader_eq, ← length_ipHeaderBytes totalLen]
  exact agreeBelow_write frame other _

/-- The header checksum is computed from bytes of the header. -/
theorem agreeBelow_writeIpChecksum (agree : AgreeBelow n frame other)
    (whole : etxUdpHeaderOffset ≤ n) :
    AgreeBelow n (writeIpChecksum frame) (writeIpChecksum other) := by
  have header : frame.read etxIpHeaderOffset etxIpHeaderLen.toUInt16.toNat =
      other.read etxIpHeaderOffset etxIpHeaderLen.toUInt16.toNat := agree.read whole
  have nonzero : etxIpHeaderLen.toUInt16 ≠ 0 := by decide
  unfold writeIpChecksum
  rw [calculateNetworkChecksum_congr nonzero header]
  exact agree.write _ _

/-- The UDP checksum is computed from the pseudo-header and from bytes up to the last of the
payload. -/
theorem agreeBelow_writeUdpChecksum (jbLibPlatform : Nat) (small : dataSize.toNat ≤ 65507)
    (agree : AgreeBelow (etxUdpDataOffset + dataSize.toNat) frame other) :
    AgreeBelow (etxUdpDataOffset + dataSize.toNat)
      (writeUdpChecksum jbLibPlatform frame ends dataSize)
      (writeUdpChecksum jbLibPlatform other ends dataSize) := by
  have whole : etxUdpHeaderOffset + (dataSize + 8).toUInt16.toNat ≤
      etxUdpDataOffset + dataSize.toNat := by
    rw [toNat_udpSize small, Nat.add_comm dataSize.toNat 8]
    exact Nat.le_of_eq (Nat.add_assoc etxUdpHeaderOffset 8 dataSize.toNat).symm
  unfold writeUdpChecksum
  split
  · exact agree.write _ _
  · dsimp only
    rw [calculateNetworkChecksum_congr (udpSize_ne_zero small) (agree.read whole)]
    exact agree.write _ _

/-! What they leave alone. -/

theorem writeIpChecksum_behind {i : Nat} (behind : etxUdpHeaderOffset ≤ i) :
    writeIpChecksum frame i = frame i := by
  have field : etxIpChecksumOffset + 2 ≤ etxUdpHeaderOffset := by decide
  exact write_after (Nat.le_trans field behind)

theorem writeUdpChecksum_apart {i : Nat} (jbLibPlatform : Nat)
    (apart : i < etxUdpHeaderOffset ∨ etxUdpDataOffset ≤ i) :
    writeUdpChecksum jbLibPlatform frame ends dataSize i = frame i := by
  have kept : ∀ {bytes : List UInt8}, bytes.length = 2 →
      frame.write etxUdpChecksumOffset bytes i = frame i := fun two => by
    rcases apart with before | behind
    · exact write_before (Nat.lt_of_lt_of_le before (by decide))
    · exact write_after (Nat.le_trans (by rw [two]; decide) behind)
  unfold writeUdpChecksum
  split
  · exact kept rfl
  · exact kept (length_hiLo _)

end Headers

/-! ### The builders -/

section Builders

variable (jbLibPlatform : Nat) (emacEthMaxFlen : UInt32) (ends : Endpoints) (ipId : UInt16)
  {frame other udpData : Buffer} {dataSize : UInt32}

/-- **A frame depends on the payload only**, not on what the buffer held. -/
theorem agreeBelow_createUdpFrame (frame other : Buffer) {udpData' : Buffer}
    (inside : ¬ dataSize > emacEthMaxFlen - 42) (small : dataSize.toNat ≤ 65507)
    (same : udpData.read 0 dataSize.toNat = udpData'.read 0 dataSize.toNat) :
    AgreeBelow (etxUdpDataOffset + dataSize.toNat)
      (createUdpFrame jbLibPlatform emacEthMaxFlen frame ends udpData dataSize ipId).frame
      (createUdpFrame jbLibPlatform emacEthMaxFlen other ends udpData' dataSize ipId).frame := by
  have written := agreeBelow_write frame other
    (udpFrameBytes ends dataSize ipId [0, 0] [0, 0] (udpData'.read 0 dataSize.toNat))
  rw [length_udpFrameBytes, length_read] at written
  rw [createUdpFrame_of_fits _ _ _ _ _ _ inside, createUdpFrame_of_fits _ _ _ _ _ _ inside, same]
  exact agreeBelow_writeIpChecksum (agreeBelow_writeUdpChecksum jbLibPlatform small written)
    (Nat.le_trans (by decide) (Nat.le_add_right etxUdpDataOffset dataSize.toNat))

theorem createUdpFrame_behind {i : Nat} (inside : ¬ dataSize > emacEthMaxFlen - 42)
    (behind : etxUdpDataOffset + dataSize.toNat ≤ i) :
    (createUdpFrame jbLibPlatform emacEthMaxFlen frame ends udpData dataSize ipId).frame i =
      frame i := by
  have data : etxUdpDataOffset ≤ i := Nat.le_trans (Nat.le_add_right _ _) behind
  rw [createUdpFrame_of_fits _ _ _ _ _ _ inside]
  refine (writeIpChecksum_behind (Nat.le_trans (by decide) data)).trans ?_
  rw [writeUdpChecksum_apart _ (.inr data)]
  refine write_after ?_
  rw [length_udpFrameBytes, length_read, Nat.zero_add]
  exact behind

/-- The headers up to that of UDP are those of `createIpHeader`. -/
theorem agreeBelow_createIpHeader (frame other udpData : Buffer)
    (inside : ¬ dataSize > emacEthMaxFlen - 42) :
    AgreeBelow etxUdpHeaderOffset
      (createIpHeader frame ends.dstIp ends.srcIp (dataSize + 8) ends.srcMac ends.dstMac
        etxIphProtoUdp ipId).1
      (createUdpFrame jbLibPlatform emacEthMaxFlen other ends udpData dataSize ipId).frame := by
  have length : 20 + (dataSize + 8) = 20 + 8 + dataSize := by
    rw [UInt32.add_comm dataSize, UInt32.add_assoc]
  have behind : ∀ {b : Buffer} {offset : Nat} {bytes : List UInt8}, etxUdpHeaderOffset ≤ offset →
      AgreeBelow etxUdpHeaderOffset b (b.write offset bytes) := fun after =>
    (agreeBelow_write_behind after).symm
  have header := agreeBelow_writeIpHeader frame other ends (20 + 8 + dataSize) ipId
  rw [createIpHeader, createUdpFrame, if_neg inside, length]
  refine agreeBelow_writeIpChecksum (header.trans ?_) (Nat.le_refl _)
  intro i before
  rw [writeUdpChecksum_apart _ (.inl before)]
  refine (AgreeBelow.trans ?_ (behind (by decide))) i before
  exact (behind (Nat.le_refl _)).trans ((behind (by decide)).trans ((behind (by decide)).trans
    (behind (by decide))))

/-- **What the three builders have in common**: the result, the bytes of the frame, and the next
`ipId_`; behind their bytes each leaves its buffer as it was. -/
structure BuildAlike (frame other third : Buffer) (header built : Built) (ip : Buffer × UInt16)
    (dataSize : UInt32) (ipId : UInt16) : Prop where
  headerResult : header.result = true
  builtResult : built.result = true
  bytes : AgreeBelow (42 + dataSize.toNat) header.frame built.frame
  ipBytes : AgreeBelow 34 ip.1 built.frame
  headerBehind : ∀ i, 42 + dataSize.toNat ≤ i → header.frame i = frame i
  builtBehind : ∀ i, 42 + dataSize.toNat ≤ i → built.frame i = other i
  ipBehind : ∀ i, 34 ≤ i → ip.1 i = third i
  headerId : header.ipId = ipId + 1
  builtId : built.ipId = ipId + 1
  ipId : ip.2 = ipId + 1

/-- **The three header builders agree.** -/
theorem builders_agree (frame other third udpData : Buffer) (atLeast : 42 ≤ emacEthMaxFlen.toNat)
    (atMost : emacEthMaxFlen.toNat ≤ 65535) (fits : dataSize.toNat ≤ emacEthMaxFlen.toNat - 42)
    (held : frame.read etxUdpDataOffset dataSize.toNat = udpData.read 0 dataSize.toNat) :
    BuildAlike frame other third
      (createUdpHeader jbLibPlatform emacEthMaxFlen frame ends dataSize ipId)
      (createUdpFrame jbLibPlatform emacEthMaxFlen other ends udpData dataSize ipId)
      (createIpHeader third ends.dstIp ends.srcIp (dataSize + 8) ends.srcMac ends.dstMac 17 ipId)
      dataSize ipId := by
  have inside := not_gt_of_fits atLeast fits
  have small : dataSize.toNat ≤ 65507 := by omega
  have payload : (frame.shift etxUdpDataOffset).read 0 dataSize.toNat =
      udpData.read 0 dataSize.toNat := read_shift.trans held
  have header := @createUdpHeader_eq jbLibPlatform emacEthMaxFlen frame ends dataSize ipId inside
  have built := createUdpFrame_of_fits jbLibPlatform emacEthMaxFlen other udpData ends ipId inside
  have built' := createUdpFrame_of_fits jbLibPlatform emacEthMaxFlen frame
    (frame.shift etxUdpDataOffset) ends ipId inside
  exact {
    headerResult := by rw [header, built']
    builtResult := by rw [built]
    bytes := by
      rw [header]
      exact agreeBelow_createUdpFrame _ _ _ _ _ _ inside small payload
    ipBytes := agreeBelow_createIpHeader _ _ _ _ _ _ _ inside
    headerBehind := fun i behind => by
      rw [header]
      exact createUdpFrame_behind _ _ _ _ inside behind
    builtBehind := fun i behind => createUdpFrame_behind _ _ _ _ inside behind
    ipBehind := fun i behind => by
      have bytes : writeIpHeader third ends.dstIp ends.srcIp (20 + (dataSize + 8)) ends.srcMac
          ends.dstMac etxIphProtoUdp ipId i = third i := by
        rw [writeIpHeader_eq]
        refine write_after ?_
        rw [length_ipHeaderBytes]
        exact behind
      exact (writeIpChecksum_behind behind).trans bytes
    headerId := by rw [header, built']
    builtId := by rw [built]
    ipId := rfl }

/-- The endpoints of a datagram that a server announces itself with. -/
def announcedEnds : Endpoints :=
  ⟨⟨[239, 255, 255, 250], rfl⟩, 1900, ⟨[10, 9, 8, 7], rfl⟩, 4321, ⟨[2, 0, 0, 0, 6, 1], rfl⟩,
    ⟨[1, 0, 94, 127, 255, 250], rfl⟩⟩

/-- Two bytes, which the Zynq sends without a UDP checksum, and the last `ipId_`. -/
theorem builders_agree_sample :
    BuildAlike (fun _ => 5) (fun _ => 0) (fun _ => 9)
      (createUdpHeader 1 44 (fun _ => 5) announcedEnds 2 0xFFFF)
      (createUdpFrame 1 44 (fun _ => 0) announcedEnds (fun _ => 5) 2 0xFFFF)
      (createIpHeader (fun _ => 9) announcedEnds.dstIp announcedEnds.srcIp (2 + 8)
        announcedEnds.srcMac announcedEnds.dstMac 17 0xFFFF) 2 0xFFFF :=
  builders_agree 1 44 announcedEnds 0xFFFF _ _ _ _ (by decide) (by decide) (by decide) rfl

end Builders

end EthernetUtilities

end Jblib.Ethutilities
