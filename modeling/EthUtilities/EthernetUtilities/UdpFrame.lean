/-
**The IP and UDP headers that `EthernetUtilities` builds, and what a receiver makes of them.**

* `createIpHeader`, `createUdpHeader`, `createUdpFrame` — the three builders, on their frame and the
  counter `ipId_`. `getUdpData` — where the payload of a received frame is.
* `udpFrameBytes` — the frame of a datagram. `createUdpFrame_frame`: it is what `createUdpFrame`
  writes; `createUdpHeader_frame`: so does `createUdpHeader`, for the payload that is in the buffer
  already.
* **`createUdpFrame_decodes`** — a built frame reads back as what was encoded, and both of its
  checksums verify.
-/

import EthUtilities.EthernetUtilities.ChangeIp
import EthUtilities.EthernetUtilities.NetworkChecksum

namespace Jblib.Ethutilities

open Library OnesComplement

namespace EthernetUtilities

/-! ### Fields -/

/-- `_HI(x)`. -/
def hi (x : UInt32) : UInt8 := (x >>> 8 &&& (0xff : UInt32)).toUInt8

/-- `_LO(x)`. -/
def lo (x : UInt32) : UInt8 := (x &&& (0xff : UInt32)).toUInt8

/-- A 16-bit field, as it is written byte by byte. -/
def hiLo (x : UInt32) : List UInt8 := [hi x, lo x]

def etxIphIhlDefVal : UInt8 := 0x45

def etxIphTosDefVal : UInt8 := 0x00

def etxIphFlagFragoffsDefVal : UInt8 := 0x00

def etxIphTtlDefVal : UInt8 := 128

def etxIphProtoUdp : UInt8 := 0x11

/-- The addresses and ports that a caller passes. -/
structure Endpoints where
  dstIp : Ip
  dstPort : UInt16
  srcIp : Ip
  srcPort : UInt16
  srcMac : Mac
  dstMac : Mac

/-! ### Builders -/

/-- The Ethernet and IP headers as all builders write them first, with a checksum of 0. -/
def writeIpHeader (frame : Buffer) (dstIp srcIp : Ip) (totalLen : UInt32) (srcMac dstMac : Mac)
    (protocol : UInt8) (ipId : UInt16) : Buffer :=
  let frame := frame.write etxEthDMacOffset dstMac.val
  let frame := frame.write etxEthSMacOffset srcMac.val
  let frame := frame.write etxEthEtherTypeOffset [0x08, 0x00]
  let frame := frame.write etxIpIhlOffset [etxIphIhlDefVal]
  let frame := frame.write etxIpTosOffset [etxIphTosDefVal]
  let frame := frame.write etxIpTotalLenOffset (hiLo totalLen)
  let frame := frame.write etxIpIdOffset (hiLo ipId.toUInt32)
  let frame := frame.write etxIpFlagFragoffsOffset
    [etxIphFlagFragoffsDefVal, etxIphFlagFragoffsDefVal]
  let frame := frame.write etxIpTtlOffset [etxIphTtlDefVal]
  let frame := frame.write etxIpProtoOffset [protocol]
  let frame := frame.write etxIpChecksumOffset [0, 0]
  let frame := frame.write etxIpSIpOffset srcIp.val
  frame.write etxIpDIpOffset dstIp.val

/-- The header checksum, which all builders write last. -/
def writeIpChecksum (frame : Buffer) : Buffer :=
  let checksum := calculateNetworkChecksum frame etxIpHeaderOffset etxIpHeaderLen.toUInt16 0
  frame.write etxIpChecksumOffset (hiLo (checksum ^^^ 0xffff).toUInt32)

def writeUdpHeader (frame : Buffer) (ends : Endpoints) (dataSize : UInt32) : Buffer :=
  let frame := frame.write etxUdpSportOffset (hiLo ends.srcPort.toUInt32)
  let frame := frame.write etxUdpDportOffset (hiLo ends.dstPort.toUInt32)
  let frame := frame.write etxUdpLenOffset (hiLo (dataSize + 8))
  frame.write etxUdpChecksumOffset [0, 0]

/-- The bytes of the array `pseudoheader`. -/
def pseudoheaderBytes (ends : Endpoints) (dataSize : UInt32) : List UInt8 :=
  ends.srcIp.val ++ (ends.dstIp.val ++ ([0, etxIphProtoUdp] ++ hiLo (dataSize + 8)))

/-- The UDP checksum, with the `#if JB_LIB_PLATFORM == 1` part. -/
def writeUdpChecksum (jbLibPlatform : Nat) (frame : Buffer) (ends : Endpoints)
    (dataSize : UInt32) : Buffer :=
  if jbLibPlatform = 1 ∧ dataSize ≤ 2 then frame.write etxUdpChecksumOffset [0, 0]
  else
    let pseudoheader := Buffer.write (fun _ => 0) 0 (pseudoheaderBytes ends dataSize)
    let checksum := calculateNetworkChecksum frame etxUdpHeaderOffset (dataSize + 8).toUInt16
      (calculateNetworkChecksum pseudoheader 0 12 0)
    frame.write etxUdpChecksumOffset (hiLo (checksum ^^^ 0xffff).toUInt32)

/-- `createIpHeader`, with the value of `ipId_` afterwards. -/
def createIpHeader (frame : Buffer) (dstIp srcIp : Ip) (dataSize : UInt32) (srcMac dstMac : Mac)
    (protocol : UInt8) (ipId : UInt16) : Buffer × UInt16 :=
  (writeIpChecksum (writeIpHeader frame dstIp srcIp (20 + dataSize) srcMac dstMac protocol ipId),
    ipId + 1)

/-- What a builder of UDP headers returns, and leaves in `*frameSize`, in the frame and in
`ipId_`. -/
structure Built where
  result : Bool
  frameSize : UInt16
  frame : Buffer
  ipId : UInt16

section Udp

variable (jbLibPlatform : Nat) (emacEthMaxFlen : UInt32)

def createUdpHeader (frame : Buffer) (ends : Endpoints) (dataSize : UInt32) (ipId : UInt16) :
    Built :=
  if dataSize > emacEthMaxFlen - 42 then ⟨false, 42, frame, ipId⟩
  else
    let frame := writeIpHeader frame ends.dstIp ends.srcIp (20 + 8 + dataSize) ends.srcMac
      ends.dstMac etxIphProtoUdp ipId
    let frame := writeUdpHeader frame ends dataSize
    let frame := writeUdpChecksum jbLibPlatform frame ends dataSize
    ⟨true, 42, writeIpChecksum frame, ipId + 1⟩

def createUdpFrame (frame : Buffer) (ends : Endpoints) (udpData : Buffer) (dataSize : UInt32)
    (ipId : UInt16) : Built :=
  if dataSize > emacEthMaxFlen - 42 then ⟨false, (42 + dataSize).toUInt16, frame, ipId⟩
  else
    let frame := writeIpHeader frame ends.dstIp ends.srcIp (20 + 8 + dataSize) ends.srcMac
      ends.dstMac etxIphProtoUdp ipId
    let frame := writeUdpHeader frame ends dataSize
    let frame := frame.write etxUdpDataOffset (udpData.read 0 dataSize.toNat)
    let frame := writeUdpChecksum jbLibPlatform frame ends dataSize
    ⟨true, (42 + dataSize).toUInt16, writeIpChecksum frame, ipId + 1⟩

end Udp

/-- `getUdpData`: the offset of the payload in the frame, and its size. -/
def getUdpData (frame : Buffer) : Nat × UInt16 :=
  let tempOffset := (frame etxIpIhlOffset &&& 0x0f).toNat * 4 + etxEthHeaderLen
  (tempOffset + etxUdpHeaderLen,
    (frame (tempOffset + 4)).toUInt16 <<< 8 + (frame (tempOffset + 5)).toUInt16 - 8)

/-! ### The bytes of a frame -/

/-- The part of the IP header in front of its checksum. -/
def ipFront (totalLen : UInt32) (protocol : UInt8) (ipId : UInt16) : List UInt8 :=
  [etxIphIhlDefVal, etxIphTosDefVal] ++ (hiLo totalLen ++ (hiLo ipId.toUInt32 ++
    [etxIphFlagFragoffsDefVal, etxIphFlagFragoffsDefVal, etxIphTtlDefVal, protocol]))

/-- The part of the UDP header in front of its checksum. -/
def udpFront (ends : Endpoints) (dataSize : UInt32) : List UInt8 :=
  hiLo ends.srcPort.toUInt32 ++ (hiLo ends.dstPort.toUInt32 ++ hiLo (dataSize + 8))

/-- **The frame of a datagram**, with its two checksums. -/
def udpFrameBytes (ends : Endpoints) (dataSize : UInt32) (ipId : UInt16)
    (ipChecksum udpChecksum data : List UInt8) : List UInt8 :=
  (ends.dstMac.val ++ (ends.srcMac.val ++ ([0x08, 0x00] ++
    ipFront (20 + 8 + dataSize) etxIphProtoUdp ipId))) ++ (ipChecksum ++
    ((ends.srcIp.val ++ (ends.dstIp.val ++ udpFront ends dataSize)) ++ (udpChecksum ++ data)))

/-! ### Fields as numbers -/

theorem word_hiLo (x : UInt32) : word (hi x) (lo x) = x.toNat % 65536 := by
  have high : (hi x).toNat = x.toNat / 256 % 256 := by
    rw [hi, UInt32.toNat_toUInt8, UInt32.toNat_and, UInt32.toNat_shiftRight]
    show (x.toNat >>> 8 &&& 255) % 256 = _
    rw [Nat.and_two_pow_sub_one_eq_mod _ 8, Nat.shiftRight_eq_div_pow]
    exact Nat.mod_mod _ _
  have low : (lo x).toNat = x.toNat % 256 := by
    rw [lo, UInt32.toNat_toUInt8, UInt32.toNat_and]
    show (x.toNat &&& 255) % 256 = _
    rw [Nat.and_two_pow_sub_one_eq_mod _ 8]
    exact Nat.mod_mod _ _
  rw [word, high, low]
  omega

@[simp] theorem length_hiLo (x : UInt32) : (hiLo x).length = 2 := rfl

theorem total_hiLo (x : UInt32) : total (words (hiLo x)) = x.toNat % 65536 :=
  (Nat.add_zero _).trans (word_hiLo x)

/-- A checksum field holds the complement. -/
theorem total_complement (checksum : UInt16) :
    total (words (hiLo (checksum ^^^ 0xffff).toUInt32)) = 65535 - checksum.toNat := by
  rw [total_hiLo, UInt16.toNat_toUInt32, toNat_inverted]
  exact Nat.mod_eq_of_lt (Nat.lt_succ_of_le (Nat.sub_le _ _))

/-- The size of a UDP packet that fits an `uint16_t`. -/
theorem toNat_udpSize {dataSize : UInt32} (small : dataSize.toNat ≤ 65507) :
    (dataSize + 8).toUInt16.toNat = dataSize.toNat + 8 := by
  rw [UInt32.toNat_toUInt16, UInt32.toNat_add]
  show (dataSize.toNat + 8) % 4294967296 % 65536 = _
  omega

theorem udpSize_ne_zero {dataSize : UInt32} (small : dataSize.toNat ≤ 65507) :
    (dataSize + 8).toUInt16 ≠ 0 := fun none => by
  have size := toNat_udpSize small
  rw [none] at size
  exact absurd size (Nat.succ_ne_zero _).symm

/-- A payload that the builders take. -/
theorem not_gt_of_fits {emacEthMaxFlen dataSize : UInt32} (atLeast : 42 ≤ emacEthMaxFlen.toNat)
    (fits : dataSize.toNat ≤ emacEthMaxFlen.toNat - 42) : ¬ dataSize > emacEthMaxFlen - 42 := by
  have room : (emacEthMaxFlen - 42).toNat = emacEthMaxFlen.toNat - 42 :=
    UInt32.toNat_sub_of_le _ _ (UInt32.le_iff_toNat_le.mpr atLeast)
  rw [gt_iff_lt, UInt32.lt_iff_toNat_lt, room]
  exact Nat.not_lt.mpr fits

/-! ### What the builders write -/

section Bytes

variable {ends : Endpoints} {dataSize : UInt32} {ipId : UInt16}
  {ipChecksum udpChecksum new data : List UInt8} {frame : Buffer}

theorem length_ipFront (totalLen : UInt32) (protocol : UInt8) (ipId : UInt16) :
    (ipFront totalLen protocol ipId).length = 10 := rfl

theorem length_udpFront : (udpFront ends dataSize).length = 6 := rfl

/-- The Ethernet and IP headers, with a checksum of 0. -/
def ipHeaderBytes (ends : Endpoints) (totalLen : UInt32) (ipId : UInt16) : List UInt8 :=
  ends.dstMac.val ++ (ends.srcMac.val ++ ([0x08, 0x00] ++
    (ipFront totalLen etxIphProtoUdp ipId ++ ([0, 0] ++ (ends.srcIp.val ++ ends.dstIp.val)))))

theorem length_ipHeaderBytes (totalLen : UInt32) :
    (ipHeaderBytes ends totalLen ipId).length = etxUdpHeaderOffset := by
  simp [ipHeaderBytes, ends.dstMac.property, ends.srcMac.property, ends.srcIp.property,
    ends.dstIp.property, length_ipFront, etxUdpHeaderOffset, etxEthHeaderLen, etxIpHeaderLen]

theorem writeIpHeader_eq (totalLen : UInt32) :
    writeIpHeader frame ends.dstIp ends.srcIp totalLen ends.srcMac ends.dstMac etxIphProtoUdp ipId =
      frame.write 0 (ipHeaderBytes ends totalLen ipId) := by
  simp [writeIpHeader, Buffer.write_next, ipHeaderBytes, ipFront, ends.dstMac.property,
    ends.srcMac.property, ends.srcIp.property, etxEthDMacOffset, etxEthSMacOffset,
    etxEthEtherTypeOffset, etxIpIhlOffset, etxIpTosOffset, etxIpTotalLenOffset, etxIpIdOffset,
    etxIpFlagFragoffsOffset, etxIpTtlOffset, etxIpProtoOffset, etxIpChecksumOffset, etxIpSIpOffset,
    etxIpDIpOffset, etxIpHeaderOffset, etxEthHeaderLen]

/-- The UDP header goes behind that of IP. -/
theorem writeUdpHeader_write {header : List UInt8} (length : header.length = etxUdpHeaderOffset) :
    writeUdpHeader (frame.write 0 header) ends dataSize =
      frame.write 0 (header ++ (udpFront ends dataSize ++ [0, 0])) := by
  simp [writeUdpHeader, Buffer.write_next, length, udpFront, etxUdpSportOffset, etxUdpDportOffset,
    etxUdpLenOffset, etxUdpChecksumOffset]

/-- Both headers, without their checksums. -/
theorem writeUdpHeader_eq : writeUdpHeader (writeIpHeader frame ends.dstIp ends.srcIp
      (20 + 8 + dataSize) ends.srcMac ends.dstMac etxIphProtoUdp ipId) ends dataSize =
    frame.write 0 (udpFrameBytes ends dataSize ipId [0, 0] [0, 0] []) := by
  rw [writeIpHeader_eq, writeUdpHeader_write (length_ipHeaderBytes _)]
  simp [ipHeaderBytes, udpFrameBytes]

theorem length_udpFrameBytes (ends : Endpoints) (dataSize : UInt32) (ipId : UInt16)
    (data : List UInt8) : (udpFrameBytes ends dataSize ipId [0, 0] [0, 0] data).length =
      etxUdpDataOffset + data.length := by
  simp [udpFrameBytes, ends.dstMac.property, ends.srcMac.property, ends.srcIp.property,
    ends.dstIp.property, length_ipFront, length_udpFront, etxUdpDataOffset, etxUdpHeaderOffset,
    etxEthHeaderLen, etxIpHeaderLen, etxUdpHeaderLen]
  omega

theorem length_headers :
    0 + (udpFrameBytes ends dataSize ipId [0, 0] [0, 0] []).length = etxUdpDataOffset :=
  (Nat.zero_add _).trans (length_udpFrameBytes ends dataSize ipId [])

theorem write_udpData : (frame.write 0 (udpFrameBytes ends dataSize ipId [0, 0] [0, 0] [])).write
      etxUdpDataOffset data =
    frame.write 0 (udpFrameBytes ends dataSize ipId [0, 0] [0, 0] data) := by
  rw [Buffer.write_next length_headers]
  simp [udpFrameBytes]

theorem write_udpChecksum (ipSize : ipChecksum.length = 2) (size : udpChecksum.length = 2)
    (newSize : new.length = 2) :
    (frame.write 0 (udpFrameBytes ends dataSize ipId ipChecksum udpChecksum data)).write
        etxUdpChecksumOffset new =
      frame.write 0 (udpFrameBytes ends dataSize ipId ipChecksum new data) := by
  have assoc : ∀ udpChecksum : List UInt8,
      udpFrameBytes ends dataSize ipId ipChecksum udpChecksum data =
        ((ends.dstMac.val ++ (ends.srcMac.val ++ ([0x08, 0x00] ++
          ipFront (20 + 8 + dataSize) etxIphProtoUdp ipId))) ++ (ipChecksum ++
          (ends.srcIp.val ++ (ends.dstIp.val ++ udpFront ends dataSize)))) ++
        (udpChecksum ++ data) := fun udpChecksum => by
    simp only [udpFrameBytes, List.append_assoc]
  rw [assoc, assoc]
  refine Buffer.write_within ?_ (newSize.trans size.symm)
  simp [ends.dstMac.property, ends.srcMac.property, ends.srcIp.property, ends.dstIp.property,
    length_ipFront, length_udpFront, ipSize, etxUdpChecksumOffset, etxUdpHeaderOffset,
    etxEthHeaderLen, etxIpHeaderLen]

theorem write_ipChecksum (size : ipChecksum.length = 2) (newSize : new.length = 2) :
    (frame.write 0 (udpFrameBytes ends dataSize ipId ipChecksum udpChecksum data)).write
        etxIpChecksumOffset new =
      frame.write 0 (udpFrameBytes ends dataSize ipId new udpChecksum data) :=
  Buffer.write_within (by simp [ends.dstMac.property, ends.srcMac.property, length_ipFront,
    etxIpChecksumOffset, etxIpHeaderOffset, etxEthHeaderLen]) (newSize.trans size.symm)

/-- What is where in the frame of a datagram. -/
structure HoldsUdp (frame : Buffer) (ends : Endpoints) (dataSize : UInt32) (ipId : UInt16)
    (ipChecksum udpChecksum data : List UInt8) : Prop where
  dstMac : frame.read etxEthDMacOffset 6 = ends.dstMac.val
  srcMac : frame.read etxEthSMacOffset 6 = ends.srcMac.val
  etherType : frame.read etxEthEtherTypeOffset 2 = [0x08, 0x00]
  ipFront : frame.read etxIpHeaderOffset 10 = ipFront (20 + 8 + dataSize) etxIphProtoUdp ipId
  ipChecksum : frame.read etxIpChecksumOffset 2 = ipChecksum
  srcIp : frame.read etxIpSIpOffset 4 = ends.srcIp.val
  dstIp : frame.read etxIpDIpOffset 4 = ends.dstIp.val
  udpFront : frame.read etxUdpHeaderOffset 6 = udpFront ends dataSize
  udpChecksum : frame.read etxUdpChecksumOffset 2 = udpChecksum
  data : frame.read etxUdpDataOffset data.length = data

theorem holdsUdp_write (frame : Buffer) (ipSize : ipChecksum.length = 2)
    (size : udpChecksum.length = 2) :
    HoldsUdp (frame.write 0 (udpFrameBytes ends dataSize ipId ipChecksum udpChecksum data)) ends
      dataSize ipId ipChecksum udpChecksum data := by
  have holds : (frame.write 0
      (udpFrameBytes ends dataSize ipId ipChecksum udpChecksum data)).Holds 0
        (udpFrameBytes ends dataSize ipId ipChecksum udpChecksum data) :=
    Buffer.holds_iff_read.mpr Buffer.read_write_self
  generalize frame.write 0 (udpFrameBytes ends dataSize ipId ipChecksum udpChecksum data) = written
    at holds ⊢
  simp only [udpFrameBytes, Buffer.holds_append, List.length_append, List.length_cons,
    List.length_nil, ends.dstMac.property, ends.srcMac.property, ends.srcIp.property,
    ends.dstIp.property, length_ipFront, length_udpFront, ipSize, size, Nat.zero_add,
    Nat.reduceAdd] at holds
  simp only [Buffer.holds_iff_read, List.length_cons, List.length_nil, ends.dstMac.property,
    ends.srcMac.property, ends.srcIp.property, ends.dstIp.property, length_ipFront,
    length_udpFront, ipSize, size, Nat.zero_add, Nat.reduceAdd] at holds
  obtain ⟨⟨dstMac, srcMac, etherType, ipFront⟩, checksum, ⟨srcIp, dstIp, udpFront⟩, udpChecksum,
    data⟩ := holds
  exact ⟨dstMac, srcMac, etherType, ipFront, checksum, srcIp, dstIp, udpFront, udpChecksum, data⟩

end Bytes

/-! ### The sums -/

/-- A checksum of words with this total. -/
structure Sums (checksum : UInt16) (words : Nat) : Prop where
  modEq : checksum.toNat ≡ words [MOD 65535]
  zero_iff : checksum.toNat = 0 ↔ words = 0

theorem sums_calculateNetworkChecksum {memory : Buffer} {data : Nat} {dataSize startValue : UInt16}
    (inside : dataSize = 0 → 2 ≤ data) :
    Sums (calculateNetworkChecksum memory data dataSize startValue)
      (startValue.toNat + total (summedWords memory data dataSize.toNat)) :=
  ⟨calculateNetworkChecksum_modEq inside, calculateNetworkChecksum_eq_zero_iff inside⟩

/-- The words of the IP header but for its checksum. -/
def ipTotal (ends : Endpoints) (dataSize : UInt32) (ipId : UInt16) : Nat :=
  total (words (ipFront (20 + 8 + dataSize) etxIphProtoUdp ipId)) +
    (total (words ends.srcIp.val) + total (words ends.dstIp.val))

/-- The bytes behind the pseudo-header that the UDP checksum is computed from. The size is an
`uint16_t` there; for the size 0 they are the two in front of the UDP header. -/
def coveredBytes (ends : Endpoints) (dataSize : UInt32) (data : List UInt8) : List UInt8 :=
  if (dataSize + 8).toUInt16 = 0 then ends.dstIp.val.drop 2
  else (udpFront ends dataSize ++ ([0, 0] ++ data)).take (dataSize + 8).toUInt16.toNat

/-- The words that the UDP checksum is computed from. -/
def udpTotal (ends : Endpoints) (dataSize : UInt32) (data : List UInt8) : Nat :=
  total (words (pseudoheaderBytes ends dataSize)) + total (words (coveredBytes ends dataSize data))

section Sums

variable {ends : Endpoints} {dataSize : UInt32} {ipId : UInt16} {data : List UInt8}
  {frame : Buffer} {ipChecksum udpChecksum : List UInt8}

theorem total_zeros : total (words [0, 0]) = 0 := by decide

theorem total_ipHeader (holds : HoldsUdp frame ends dataSize ipId ipChecksum udpChecksum data) :
    total (words (frame.read etxIpHeaderOffset etxIpHeaderLen)) =
      ipTotal ends dataSize ipId + total (words ipChecksum) := by
  have parts : total (words (frame.read etxIpHeaderOffset (10 + (2 + (4 + 4))))) =
      total (words (frame.read etxIpHeaderOffset 10)) +
        (total (words (frame.read etxIpChecksumOffset 2)) +
          (total (words (frame.read etxIpSIpOffset 4)) +
            total (words (frame.read etxIpDIpOffset 4)))) := by
    rw [total_read_append (by rfl), total_read_append (by rfl), total_read_append (by rfl)]
    rfl
  rw [holds.ipFront, holds.ipChecksum, holds.srcIp, holds.dstIp] at parts
  have whole : etxIpHeaderLen = 10 + (2 + (4 + 4)) := rfl
  rw [whole, parts, ipTotal]
  omega

theorem sums_ipHeader (holds : HoldsUdp frame ends dataSize ipId [0, 0] udpChecksum data) :
    Sums (calculateNetworkChecksum frame etxIpHeaderOffset etxIpHeaderLen.toUInt16 0)
      (ipTotal ends dataSize ipId) := by
  have sums : Sums (calculateNetworkChecksum frame etxIpHeaderOffset etxIpHeaderLen.toUInt16 0)
      (0 + total (words (frame.read etxIpHeaderOffset etxIpHeaderLen))) :=
    sums_calculateNetworkChecksum fun zero => absurd zero (by decide)
  rw [total_ipHeader holds, total_zeros, Nat.zero_add, Nat.add_zero] at sums
  exact sums

theorem length_pseudoheaderBytes : (pseudoheaderBytes ends dataSize).length = 12 := by
  simp [pseudoheaderBytes, ends.srcIp.property, ends.dstIp.property]

theorem sums_pseudoheader : Sums (calculateNetworkChecksum
      (Buffer.write (fun _ => 0) 0 (pseudoheaderBytes ends dataSize)) 0 12 0)
    (total (words (pseudoheaderBytes ends dataSize))) := by
  have sums : Sums (calculateNetworkChecksum
      (Buffer.write (fun _ => 0) 0 (pseudoheaderBytes ends dataSize)) 0 12 0)
      (0 + total (words (Buffer.read
        (Buffer.write (fun _ => 0) 0 (pseudoheaderBytes ends dataSize)) 0 12))) :=
    sums_calculateNetworkChecksum fun zero => absurd zero (by decide)
  rw [← length_pseudoheaderBytes, Buffer.read_write_self, Nat.zero_add] at sums
  exact sums

theorem toNat_udpSize_le (dataSize : UInt32) :
    (dataSize + 8).toUInt16.toNat ≤ 6 + (2 + dataSize.toNat) := by
  rw [UInt32.toNat_toUInt16, UInt32.toNat_add]
  refine (Nat.mod_le _ _).trans ((Nat.mod_le _ _).trans ?_)
  show dataSize.toNat + 8 ≤ _
  omega

theorem total_coveredBytes (holds : HoldsUdp frame ends dataSize ipId ipChecksum [0, 0] data)
    (size : data.length = dataSize.toNat) :
    total (summedWords frame etxUdpHeaderOffset (dataSize + 8).toUInt16.toNat) =
      total (words (coveredBytes ends dataSize data)) := by
  unfold summedWords coveredBytes
  by_cases none : (dataSize + 8).toUInt16 = 0
  · have last : frame.read 32 2 = ends.dstIp.val.drop 2 := by
      rw [← holds.dstIp]
      rfl
    have zero : (dataSize + 8).toUInt16.toNat = 0 := congrArg UInt16.toNat none
    rw [if_pos zero, if_pos none, ← last]
    rfl
  · have segment : frame.read etxUdpHeaderOffset (6 + (2 + data.length)) =
        udpFront ends dataSize ++ ([0, 0] ++ data) := by
      rw [Buffer.read_append, Buffer.read_append, holds.udpFront]
      change _ ++ (frame.read etxUdpChecksumOffset 2 ++ frame.read etxUdpDataOffset data.length) = _
      rw [holds.udpChecksum, holds.data]
    have front : ((frame.read etxUdpHeaderOffset (6 + (2 + data.length))).drop 0).take
        (dataSize + 8).toUInt16.toNat =
        frame.read etxUdpHeaderOffset (dataSize + 8).toUInt16.toNat := by
      refine Buffer.drop_take_read ?_
      rw [Nat.zero_add, size]
      exact toNat_udpSize_le dataSize
    rw [List.drop_zero, segment] at front
    have some : (dataSize + 8).toUInt16.toNat ≠ 0 := fun zero => none (UInt16.toNat_inj.mp zero)
    rw [if_neg some, if_neg none, front]

theorem sums_udp (holds : HoldsUdp frame ends dataSize ipId ipChecksum [0, 0] data)
    (size : data.length = dataSize.toNat) :
    Sums (calculateNetworkChecksum frame etxUdpHeaderOffset (dataSize + 8).toUInt16
      (calculateNetworkChecksum (Buffer.write (fun _ => 0) 0 (pseudoheaderBytes ends dataSize)) 0
        12 0)) (udpTotal ends dataSize data) := by
  have pseudo : Sums _ (total (words (pseudoheaderBytes ends dataSize))) := sums_pseudoheader
  have sums : Sums (calculateNetworkChecksum frame etxUdpHeaderOffset (dataSize + 8).toUInt16
      (calculateNetworkChecksum (Buffer.write (fun _ => 0) 0 (pseudoheaderBytes ends dataSize)) 0
        12 0)) (_ + total (summedWords frame etxUdpHeaderOffset (dataSize + 8).toUInt16.toNat)) :=
    sums_calculateNetworkChecksum fun _ => by decide
  rw [total_coveredBytes holds size] at sums
  refine ⟨sums.modEq.trans (pseudo.modEq.add_right _), sums.zero_iff.trans ?_⟩
  rw [Nat.add_eq_zero_iff, pseudo.zero_iff, ← Nat.add_eq_zero_iff, udpTotal]

end Sums

/-! ### The frame -/

section Frame

variable (jbLibPlatform : Nat) (emacEthMaxFlen : UInt32) {frame udpData : Buffer}
  {ends : Endpoints} {dataSize : UInt32} {ipId : UInt16}

/-- `createUdpFrame`, with headers and payload in one write. -/
theorem createUdpFrame_of_fits (frame udpData : Buffer) (ends : Endpoints) (ipId : UInt16)
    (fits : ¬ dataSize > emacEthMaxFlen - 42) :
    createUdpFrame jbLibPlatform emacEthMaxFlen frame ends udpData dataSize ipId =
      ⟨true, (42 + dataSize).toUInt16, writeIpChecksum (writeUdpChecksum jbLibPlatform
        (frame.write 0 (udpFrameBytes ends dataSize ipId [0, 0] [0, 0]
          (udpData.read 0 dataSize.toNat))) ends dataSize), ipId + 1⟩ := by
  rw [createUdpFrame, if_neg fits]
  dsimp only
  rw [writeUdpHeader_eq, write_udpData]

/-- **What `createUdpFrame` builds.** -/
theorem createUdpFrame_eq (frame udpData : Buffer) (ends : Endpoints) (ipId : UInt16)
    (platform : jbLibPlatform ≠ 1) (fits : ¬ dataSize > emacEthMaxFlen - 42) :
    ∃ ipSum udpSum : UInt16, Sums ipSum (ipTotal ends dataSize ipId) ∧
      Sums udpSum (udpTotal ends dataSize (udpData.read 0 dataSize.toNat)) ∧
      createUdpFrame jbLibPlatform emacEthMaxFlen frame ends udpData dataSize ipId =
        ⟨true, (42 + dataSize).toUInt16, frame.write 0 (udpFrameBytes ends dataSize ipId
          (hiLo (ipSum ^^^ 0xffff).toUInt32) (hiLo (udpSum ^^^ 0xffff).toUInt32)
          (udpData.read 0 dataSize.toNat)), ipId + 1⟩ := by
  have unsummed : HoldsUdp (frame.write 0 (udpFrameBytes ends dataSize ipId [0, 0] [0, 0]
      (udpData.read 0 dataSize.toNat))) ends dataSize ipId [0, 0] [0, 0]
      (udpData.read 0 dataSize.toNat) := holdsUdp_write frame rfl rfl
  have udp := sums_udp unsummed Buffer.length_read
  have built := createUdpFrame_of_fits jbLibPlatform emacEthMaxFlen frame udpData ends ipId fits
  rw [writeUdpChecksum, if_neg fun zynq => platform zynq.1] at built
  dsimp only at built
  rw [write_udpChecksum rfl rfl rfl, writeIpChecksum] at built
  rw [write_ipChecksum rfl rfl] at built
  exact ⟨_, _, sums_ipHeader (holdsUdp_write frame rfl rfl), udp, built⟩

/-- `createUdpHeader` builds the frame of the payload that is in the buffer already. -/
theorem createUdpHeader_eq (fits : ¬ dataSize > emacEthMaxFlen - 42) :
    createUdpHeader jbLibPlatform emacEthMaxFlen frame ends dataSize ipId =
      { createUdpFrame jbLibPlatform emacEthMaxFlen frame ends (frame.shift etxUdpDataOffset)
        dataSize ipId with frameSize := 42 } := by
  have there : (frame.write 0 (udpFrameBytes ends dataSize ipId [0, 0] [0, 0] [])).write
      etxUdpDataOffset ((frame.shift etxUdpDataOffset).read 0 dataSize.toNat) =
      frame.write 0 (udpFrameBytes ends dataSize ipId [0, 0] [0, 0] []) := by
    rw [Buffer.read_shift, Nat.add_zero, Buffer.write_next length_headers,
      Buffer.write_read_self length_headers]
  rw [createUdpHeader, createUdpFrame, if_neg fits, if_neg fits]
  dsimp only
  rw [writeUdpHeader_eq, there]

theorem createUdpHeader_frame (fits : ¬ dataSize > emacEthMaxFlen - 42) :
    (createUdpHeader jbLibPlatform emacEthMaxFlen frame ends dataSize ipId).frame =
      (createUdpFrame jbLibPlatform emacEthMaxFlen frame ends (frame.shift etxUdpDataOffset)
        dataSize ipId).frame := by
  rw [createUdpHeader_eq jbLibPlatform emacEthMaxFlen fits]

end Frame

/-! ### Receiving a frame -/

/-- **A receiver accepts the frame and decodes what was sent.** -/
structure DecodesUdp (frame : Buffer) (ends : Endpoints) (data : List UInt8) : Prop where
  frameType : getFrameType frame = etxEtherTypeIp
  headerLength : headerLength frame = etxIpHeaderLen
  totalLength : wordAt frame etxIpTotalLenOffset = 28 + data.length
  udpLength : wordAt frame etxUdpLenOffset = 8 + data.length
  header : HeaderVerifies frame
  transport : TransportVerifies frame
  srcMac : frame.read etxEthSMacOffset 6 = ends.srcMac.val
  dstMac : frame.read etxEthDMacOffset 6 = ends.dstMac.val
  srcIp : frame.read etxIpSIpOffset 4 = ends.srcIp.val
  dstIp : frame.read etxIpDIpOffset 4 = ends.dstIp.val
  srcPort : wordAt frame etxUdpSportOffset = ends.srcPort.toNat
  dstPort : wordAt frame etxUdpDportOffset = ends.dstPort.toNat
  dataOffset : (getUdpData frame).1 = 42
  dataSize : (getUdpData frame).2.toNat = data.length
  payload : frame.read (getUdpData frame).1 (getUdpData frame).2.toNat = data

section Receive

variable {frame : Buffer} {ends : Endpoints} {dataSize : UInt32} {ipId : UInt16}
  {ipChecksum udpChecksum data : List UInt8}

theorem wordAt_of_read {offset : Nat} {x : UInt32} (read : frame.read offset 2 = hiLo x) :
    wordAt frame offset = x.toNat % 65536 := by
  obtain ⟨high, rest⟩ := List.cons.inj read
  rw [wordAt, high, (List.cons.inj rest).1, word_hiLo]

protected theorem HoldsUdp.ihl
    (holds : HoldsUdp frame ends dataSize ipId ipChecksum udpChecksum data) :
    frame etxIpIhlOffset = etxIphIhlDefVal := (List.cons.inj holds.ipFront).1

protected theorem HoldsUdp.headerLength
    (holds : HoldsUdp frame ends dataSize ipId ipChecksum udpChecksum data) :
    headerLength frame = etxIpHeaderLen := by
  rw [headerLength, holds.ihl]
  rfl

protected theorem HoldsUdp.proto
    (holds : HoldsUdp frame ends dataSize ipId ipChecksum udpChecksum data) :
    frame etxIpProtoOffset = etxIphProtoUdp :=
  (List.cons.inj (congrArg (List.drop 9) holds.ipFront)).1

protected theorem HoldsUdp.udpLength
    (holds : HoldsUdp frame ends dataSize ipId ipChecksum udpChecksum data)
    (small : dataSize.toNat ≤ 65507) : wordAt frame etxUdpLenOffset = 8 + dataSize.toNat := by
  have field : frame.read etxUdpLenOffset 2 = hiLo (dataSize + 8) :=
    congrArg (List.drop 4) holds.udpFront
  rw [wordAt_of_read field, UInt32.toNat_add]
  show (dataSize.toNat + 8) % 4294967296 % 65536 = _
  omega

protected theorem HoldsUdp.totalLength
    (holds : HoldsUdp frame ends dataSize ipId ipChecksum udpChecksum data)
    (small : dataSize.toNat ≤ 65507) :
    wordAt frame etxIpTotalLenOffset = 28 + dataSize.toNat := by
  have field : frame.read etxIpTotalLenOffset 2 = hiLo (20 + 8 + dataSize) :=
    congrArg (fun bytes => (bytes.drop 2).take 2) holds.ipFront
  rw [wordAt_of_read field, UInt32.toNat_add]
  show (28 + dataSize.toNat) % 4294967296 % 65536 = _
  omega

protected theorem HoldsUdp.segmentLength
    (holds : HoldsUdp frame ends dataSize ipId ipChecksum udpChecksum data)
    (small : dataSize.toNat ≤ 65507) : segmentLength frame = 8 + dataSize.toNat := by
  rw [segmentLength, holds.totalLength small, holds.headerLength, etxIpHeaderLen]
  omega

protected theorem HoldsUdp.getUdpData
    (holds : HoldsUdp frame ends dataSize ipId ipChecksum udpChecksum data)
    (small : dataSize.toNat ≤ 65507) :
    (getUdpData frame).1 = 42 ∧ (getUdpData frame).2.toNat = dataSize.toNat := by
  have size := holds.udpLength small
  have offset : (frame etxIpIhlOffset &&& 0x0f).toNat * 4 + etxEthHeaderLen =
      etxUdpHeaderOffset := by
    rw [holds.ihl]
    rfl
  unfold getUdpData
  dsimp only
  rw [offset]
  refine ⟨rfl, ?_⟩
  have high : ((frame (etxUdpHeaderOffset + 4)).toUInt16 <<< 8).toNat =
      (frame (etxUdpHeaderOffset + 4)).toNat * 256 := by
    have fits := (frame (etxUdpHeaderOffset + 4)).toNat_lt
    rw [UInt16.toNat_shiftLeft, UInt8.toNat_toUInt16]
    show (frame (etxUdpHeaderOffset + 4)).toNat <<< 8 % 65536 = _
    rw [Nat.shiftLeft_eq]
    omega
  change (frame (etxUdpHeaderOffset + 4)).toNat * 256 + (frame (etxUdpHeaderOffset + 5)).toNat =
    8 + dataSize.toNat at size
  rw [UInt16.toNat_sub, UInt16.toNat_add, high, UInt8.toNat_toUInt16]
  show (65536 - 8 + ((frame (etxUdpHeaderOffset + 4)).toNat * 256 +
    (frame (etxUdpHeaderOffset + 5)).toNat) % 65536) % 65536 = _
  omega

/-- A checksum and its complement. -/
theorem Sums.complement {checksum : UInt16} {words : Nat} (sums : Sums checksum words) :
    words + (65535 - checksum.toNat) ≡ 0 [MOD 65535] := by
  have small := checksum.toNat_lt
  have same := sums.modEq
  unfold Nat.ModEq at *
  omega

theorem HoldsUdp.headerVerifies {ipSum : UInt16} (holds : HoldsUdp frame ends dataSize ipId
      (hiLo (ipSum ^^^ 0xffff).toUInt32) udpChecksum data)
    (sums : Sums ipSum (ipTotal ends dataSize ipId)) : HeaderVerifies frame := by
  have ihl : 20 ≤ headerLength frame := Nat.le_of_eq holds.headerLength.symm
  rw [headerVerifies_iff ihl, holds.headerLength, total_ipHeader holds, total_complement]
  exact sums.complement

/-- The words that the UDP checksum is computed from, when its length field does not wrap. -/
theorem udpTotal_eq (small : dataSize.toNat ≤ 65507) (size : data.length = dataSize.toNat) :
    udpTotal ends dataSize data =
      total (words ends.srcIp.val) + total (words ends.dstIp.val) + (17 + (8 + dataSize.toNat)) +
        (total (words (udpFront ends dataSize)) + total (words data)) := by
  have length : (dataSize + 8).toNat = dataSize.toNat + 8 := by
    rw [UInt32.toNat_add]
    exact Nat.mod_eq_of_lt (show dataSize.toNat + 8 < 4294967296 by omega)
  have whole : coveredBytes ends dataSize data = udpFront ends dataSize ++ ([0, 0] ++ data) := by
    rw [coveredBytes, if_neg (udpSize_ne_zero small), toNat_udpSize small]
    refine List.take_of_length_le ?_
    simp only [List.length_append, length_udpFront, List.length_cons, List.length_nil, size]
    omega
  have proto : total (words [0, etxIphProtoUdp]) = 17 := by decide
  rw [udpTotal, whole, pseudoheaderBytes, words_append (by rw [ends.srcIp.property]),
    words_append (by rw [ends.dstIp.property]), words_append (by rfl),
    words_append (by rw [length_udpFront]), words_append (by rfl)]
  simp only [total_append, proto, total_zeros, total_hiLo, length]
  omega

theorem HoldsUdp.transportVerifies {udpSum : UInt16} (holds : HoldsUdp frame ends dataSize ipId
      ipChecksum (hiLo (udpSum ^^^ 0xffff).toUInt32) data)
    (small : dataSize.toNat ≤ 65507) (size : data.length = dataSize.toNat)
    (sums : Sums udpSum (udpTotal ends dataSize data)) : TransportVerifies frame := by
  have addresses : frameTotal frame =
      total (words ends.srcIp.val) + total (words ends.dstIp.val) := by
    rw [← holds.srcIp, ← holds.dstIp]
    exact total_read_append (k := 4) (n := 4) rfl
  have tail : total (words (pseudoTail frame)) = 17 + (8 + dataSize.toNat) := by
    have fits : 8 + dataSize.toNat ≤ 65535 := by omega
    rw [pseudoTail, holds.proto, holds.segmentLength small]
    show word 0 etxIphProtoUdp + (word (UInt8.ofNat ((8 + dataSize.toNat) / 256))
      (UInt8.ofNat ((8 + dataSize.toNat) % 256)) + 0) = _
    rw [word_ofNat fits]
    rfl
  have segment : total (words (frame.read (etxEthHeaderLen + headerLength frame)
      (segmentLength frame))) = total (words (EthernetUtilities.udpFront ends dataSize)) +
        (65535 - udpSum.toNat + total (words data)) := by
    have parts : 8 + dataSize.toNat = 6 + (2 + data.length) := by omega
    rw [holds.headerLength, holds.segmentLength small, parts, total_read_append (by rfl),
      total_read_append (by rfl), ← total_complement, ← holds.udpChecksum]
    change total (words (frame.read etxUdpHeaderOffset 6)) +
      (_ + total (words (frame.read etxUdpDataOffset data.length))) = _
    rw [holds.udpFront, holds.data]
    rfl
  have complement := sums.complement
  rw [udpTotal_eq small size] at complement
  rw [transportVerifies_iff, addresses, tail, segment]
  refine ⟨by omega, ?_⟩
  unfold Nat.ModEq at *
  omega

/-- **The receiver's side**: a frame with the two checksums of a datagram decodes to it. -/
theorem HoldsUdp.decodes {ipSum udpSum : UInt16} (holds : HoldsUdp frame ends dataSize ipId
      (hiLo (ipSum ^^^ 0xffff).toUInt32) (hiLo (udpSum ^^^ 0xffff).toUInt32) data)
    (small : dataSize.toNat ≤ 65507) (size : data.length = dataSize.toNat)
    (ipSums : Sums ipSum (ipTotal ends dataSize ipId))
    (udpSums : Sums udpSum (udpTotal ends dataSize data)) : DecodesUdp frame ends data := by
  have port : ∀ {offset : Nat} {p : UInt16}, frame.read offset 2 = hiLo p.toUInt32 →
      wordAt frame offset = p.toNat := fun {offset} {p} read => by
    rw [wordAt_of_read read, UInt16.toNat_toUInt32, Nat.mod_eq_of_lt p.toNat_lt]
  have etherType : getFrameType frame = etxEtherTypeIp := by
    obtain ⟨high, rest⟩ := List.cons.inj holds.etherType
    rw [getFrameType, high, (List.cons.inj rest).1]
    rfl
  obtain ⟨offset, length⟩ := holds.getUdpData small
  exact {
    frameType := etherType
    headerLength := holds.headerLength
    totalLength := (holds.totalLength small).trans (by rw [size])
    udpLength := (holds.udpLength small).trans (by rw [size])
    header := holds.headerVerifies ipSums
    transport := holds.transportVerifies small size udpSums
    srcMac := holds.srcMac
    dstMac := holds.dstMac
    srcIp := holds.srcIp
    dstIp := holds.dstIp
    srcPort := port (congrArg (List.take 2) holds.udpFront)
    dstPort := port (congrArg (fun bytes => (bytes.drop 2).take 2) holds.udpFront)
    dataOffset := offset
    dataSize := length.trans size.symm
    payload := by
      rw [offset, length, ← size]
      exact holds.data }

end Receive

section Decodes

variable {jbLibPlatform : Nat} {emacEthMaxFlen : UInt32} {frame udpData : Buffer}
  {ends : Endpoints} {dataSize : UInt32} {ipId : UInt16}

/-- **A built frame is accepted and decodes to what was encoded.** -/
theorem createUdpFrame_decodes (platform : jbLibPlatform ≠ 1)
    (atLeast : 42 ≤ emacEthMaxFlen.toNat) (atMost : emacEthMaxFlen.toNat ≤ 65535)
    (fits : dataSize.toNat ≤ emacEthMaxFlen.toNat - 42) :
    (createUdpFrame jbLibPlatform emacEthMaxFlen frame ends udpData dataSize ipId).result = true ∧
      (createUdpFrame jbLibPlatform emacEthMaxFlen frame ends udpData dataSize
        ipId).frameSize.toNat = 42 + dataSize.toNat ∧
      DecodesUdp (createUdpFrame jbLibPlatform emacEthMaxFlen frame ends udpData dataSize
        ipId).frame ends (udpData.read 0 dataSize.toNat) := by
  have small : dataSize.toNat ≤ 65507 := by omega
  obtain ⟨ipSum, udpSum, ipSums, udpSums, built⟩ :=
    createUdpFrame_eq jbLibPlatform emacEthMaxFlen frame udpData ends ipId platform
      (not_gt_of_fits atLeast fits)
  rw [built]
  refine ⟨rfl, ?_, (holdsUdp_write frame rfl rfl).decodes small Buffer.length_read ipSums udpSums⟩
  rw [UInt32.toNat_toUInt16, UInt32.toNat_add]
  show (42 + dataSize.toNat) % 4294967296 % 65536 = _
  omega

/-- Endpoints of a datagram between two hosts. -/
def sampleEnds : Endpoints :=
  ⟨⟨[172, 16, 0, 2], rfl⟩, 68, ⟨[172, 16, 0, 1], rfl⟩, 67, ⟨[2, 0, 0, 0, 4, 1], rfl⟩,
    ⟨[2, 0, 0, 0, 4, 2], rfl⟩⟩

/-- Three bytes, in the largest frame they fit. -/
theorem createUdpFrame_decodes_sample :
    (createUdpFrame 0 45 (fun _ => 0) sampleEnds (fun _ => 7) 3 0xFFFF).result = true ∧
      (createUdpFrame 0 45 (fun _ => 0) sampleEnds (fun _ => 7) 3 0xFFFF).frameSize.toNat = 42 + 3 ∧
      DecodesUdp (createUdpFrame 0 45 (fun _ => 0) sampleEnds (fun _ => 7) 3 0xFFFF).frame sampleEnds
        (Buffer.read (fun _ => 7) 0 3) :=
  @createUdpFrame_decodes 0 45 _ _ _ 3 _ (by decide) (by decide) (by decide) (by decide)

end Decodes

end EthernetUtilities

end Jblib.Ethutilities
