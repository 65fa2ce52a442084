/-
**Ethernet, ARP and IP frames: the offsets of their fields, and the helpers of `EthernetUtilities`
that look at them.**
-/

import EthUtilities.Library.Buffer

namespace Jblib.Ethutilities

open Library

namespace EthernetUtilities

/-- `ETX_HW_SIZE` bytes. -/
abbrev Mac := Bytes 6

/-- `ETX_PROTO_SIZE` bytes. -/
abbrev Ip := Bytes 4

def etxEtherTypeIp : UInt16 := 0x0800

def etxEtherTypeArp : UInt16 := 0x0806

/-! ### Offsets -/

def etxEthHeaderLen : Nat := 14

def etxEthDMacOffset : Nat := 0

def etxEthSMacOffset : Nat := 6

def etxEthEtherTypeOffset : Nat := 12

def etxArpBodyLen : Nat := 28

def etxArpHwTypeOffset : Nat := etxEthHeaderLen

def etxArpProtoTypeOffset : Nat := etxEthHeaderLen + 2

def etxArpHwSizeOffset : Nat := etxEthHeaderLen + 4

def etxArpProtoSizeOffset : Nat := etxEthHeaderLen + 5

def etxArpOpcodeOffset : Nat := etxEthHeaderLen + 6

def etxArpSenderMacOffset : Nat := etxEthHeaderLen + 8

def etxArpSenderIpOffset : Nat := etxEthHeaderLen + 14

def etxArpTargetMacOffset : Nat := etxEthHeaderLen + 18

def etxArpTargetIpOffset : Nat := etxEthHeaderLen + 24

def etxIpHeaderLen : Nat := 20

def etxIpHeaderOffset : Nat := etxEthHeaderLen

def etxIpIhlOffset : Nat := etxIpHeaderOffset

def etxIpTosOffset : Nat := etxIpHeaderOffset + 1

def etxIpTotalLenOffset : Nat := etxIpHeaderOffset + 2

def etxIpIdOffset : Nat := etxIpHeaderOffset + 4

def etxIpFlagFragoffsOffset : Nat := etxIpHeaderOffset + 6

def etxIpTtlOffset : Nat := etxIpHeaderOffset + 8

def etxIpProtoOffset : Nat := etxIpHeaderOffset + 9

def etxIpChecksumOffset : Nat := etxIpHeaderOffset + 10

def etxIpSIpOffset : Nat := etxIpHeaderOffset + 12

def etxIpDIpOffset : Nat := etxIpHeaderOffset + 16

def etxUdpHeaderLen : Nat := 8

def etxUdpHeaderOffset : Nat := etxEthHeaderLen + etxIpHeaderLen

def etxUdpSportOffset : Nat := etxUdpHeaderOffset

def etxUdpDportOffset : Nat := etxUdpHeaderOffset + 2

def etxUdpLenOffset : Nat := etxUdpHeaderOffset + 4

def etxUdpChecksumOffset : Nat := etxUdpHeaderOffset + 6

def etxUdpDataOffset : Nat := etxUdpHeaderOffset + etxUdpHeaderLen

/-! ### Helpers -/

def getFrameType (frame : Buffer) : UInt16 :=
  (frame etxEthEtherTypeOffset).toUInt16 <<< 8 ||| (frame (etxEthEtherTypeOffset + 1)).toUInt16

def maskIp (ip mask : Ip) : Ip :=
  ⟨List.zipWith (· &&& ·) ip.val mask.val, by
    rw [List.length_zipWith, ip.property, mask.property]; rfl⟩

/-- `compareIp(ip1, ip2, mask) == 0`. -/
def compareIp (ip1 ip2 mask : Ip) : Bool := maskIp ip1 mask = maskIp ip2 mask

end EthernetUtilities

end Jblib.Ethutilities
