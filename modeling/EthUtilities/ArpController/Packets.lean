/-
**The ARP frames the controller builds, and what it reads from them.**

An ARP frame for IP over Ethernet is 42 bytes. `ArpPacket` is its content, `ArpPacket.bytes` the
frame.

* `createRequest_read`, `createReply_read` — both functions that build frames write all of its
  bytes, whatever was in the buffer.
* `ArpPacket.in_of_holds` — a buffer that holds the frame, whatever follows it, shows the packet to
  every function that looks at a field. So the offsets of the two sides agree.
-/

import EthUtilities.ArpController.Controller

namespace Jblib.Ethutilities.ArpController

open Library EthernetUtilities

/-- An ARP packet for IP over Ethernet, in its frame. -/
structure ArpPacket where
  dstMac : Mac
  srcMac : Mac
  opcode : UInt8
  senderMac : Mac
  senderIp : Ip
  targetMac : Mac
  targetIp : Ip

namespace ArpPacket

/-- Ether type, hardware type, protocol type, the lengths of the addresses, and the opcode. -/
def typeBytes (opcode : UInt8) : List UInt8 :=
  [0x08, 0x06, 0x00, 0x01, 0x08, 0x00, 0x06, 0x04, 0x00, opcode]

/-- **The frame.** -/
def bytes (p : ArpPacket) : List UInt8 :=
  p.dstMac.val ++ (p.srcMac.val ++ (typeBytes p.opcode ++ (p.senderMac.val ++ (p.senderIp.val ++
    (p.targetMac.val ++ p.targetIp.val)))))

/-- A question for the hardware address of `dstIp`, to all. -/
def request (dstIp : Ip) (srcMac : Mac) (srcIp : Ip) : ArpPacket where
  dstMac := ⟨List.replicate 6 0xff, List.length_replicate⟩
  srcMac := srcMac
  opcode := 0x01
  senderMac := srcMac
  senderIp := srcIp
  targetMac := Bytes.zero 6
  targetIp := dstIp

/-- The answer to a question. -/
def reply (p : ArpPacket) (srcMac : Mac) : ArpPacket where
  dstMac := p.senderMac
  srcMac := srcMac
  opcode := 0x02
  senderMac := srcMac
  senderIp := p.targetIp
  targetMac := p.senderMac
  targetIp := p.senderIp

@[simp] theorem length_bytes (p : ArpPacket) : p.bytes.length = arpFrameSize := by
  simp [bytes, typeBytes, p.dstMac.property, p.srcMac.property, p.senderMac.property,
    p.senderIp.property, p.targetMac.property, p.targetIp.property, arpFrameSize, etxEthHeaderLen,
    etxArpBodyLen]

theorem take_bytes (p : ArpPacket) : p.bytes.take 6 = p.dstMac.val :=
  List.take_left' p.dstMac.property

/-! ### Reading a frame -/

/-- What the functions of the controller see of the packet in a buffer. -/
structure In (p : ArpPacket) (frame : Buffer) : Prop where
  frameType : getFrameType frame = etxEtherTypeArp
  opcodeHigh : frame etxArpOpcodeOffset = 0x00
  opcodeLow : frame (etxArpOpcodeOffset + 1) = p.opcode
  senderMac : frame.field etxArpSenderMacOffset 6 = p.senderMac
  senderIp : frame.field etxArpSenderIpOffset 4 = p.senderIp
  targetIp : frame.field etxArpTargetIpOffset 4 = p.targetIp

/-- **A buffer that holds the frame holds the packet.** -/
theorem in_of_holds {p : ArpPacket} {frame : Buffer} (holds : frame.Holds 0 p.bytes) :
    p.In frame := by
  have array : ∀ {n : Nat} (offset : Nat) (value : Bytes n), frame.Holds offset value.val →
      frame.field offset n = value := fun offset value here => by
    obtain ⟨_, rfl⟩ := value
    exact Subtype.ext (Buffer.holds_iff_read.mp here)
  simp only [bytes, Buffer.holds_append, p.dstMac.property, p.srcMac.property,
    p.senderMac.property, p.senderIp.property, p.targetMac.property] at holds
  obtain ⟨_, _, types, senderMac, senderIp, _, targetIp⟩ := holds
  obtain ⟨typeHigh, typeLow, _, _, _, _, _, _, opcodeHigh, opcodeLow, _⟩ := types
  refine ⟨?_, opcodeHigh, opcodeLow, array _ _ senderMac, array _ _ senderIp, array _ _ targetIp⟩
  rw [getFrameType, show frame etxEthEtherTypeOffset = 0x08 from typeHigh,
    show frame (etxEthEtherTypeOffset + 1) = 0x06 from typeLow]
  decide

end ArpPacket

/-! ### Building a frame -/

/-- The middle of a frame is written without gaps. -/
theorem writeArpHeader_eq (frame : Buffer) (srcMac : Mac) (opcode : UInt8) :
    writeArpHeader frame srcMac opcode = frame.write etxEthSMacOffset
      (srcMac.val ++ (ArpPacket.typeBytes opcode ++ srcMac.val)) := by
  have size := srcMac.property
  simp [writeArpHeader, Buffer.write_next, ArpPacket.typeBytes, size, etxEthSMacOffset,
    etxEthEtherTypeOffset, etxArpHwTypeOffset, etxArpProtoTypeOffset, etxArpHwSizeOffset,
    etxArpProtoSizeOffset, etxArpOpcodeOffset, etxArpSenderMacOffset, etxEthHeaderLen]

/-- **`createRequest`** fills the frame of a request. -/
theorem createRequest_read (dstIp : Ip) (srcMac : Mac) (srcIp : Ip) (frame : Buffer) :
    (createRequest dstIp srcMac srcIp frame).read 0 arpFrameSize =
      (ArpPacket.request dstIp srcMac srcIp).bytes := by
  have filled : createRequest dstIp srcMac srcIp frame =
      frame.write 0 (ArpPacket.request dstIp srcMac srcIp).bytes := by
    simp [createRequest, writeArpHeader_eq, Buffer.write_next, ArpPacket.bytes, ArpPacket.request,
      ArpPacket.typeBytes, Bytes.zero, srcMac.property, srcIp.property, etxEthDMacOffset,
      etxEthSMacOffset, etxArpSenderIpOffset, etxArpTargetMacOffset, etxArpTargetIpOffset,
      etxEthHeaderLen]
  rw [filled, ← ArpPacket.length_bytes (ArpPacket.request dstIp srcMac srcIp),
    Buffer.read_write_self]

/-- **`createReply`** fills the frame of the reply to the packet it is given. -/
theorem createReply_read {p : ArpPacket} {request : Buffer} (asked : p.In request) (reply : Buffer)
    (srcMac : Mac) : (createReply request reply srcMac).read 0 arpFrameSize =
      (p.reply srcMac).bytes := by
  have senderMac : request.read etxArpSenderMacOffset 6 = p.senderMac.val :=
    congrArg Subtype.val asked.senderMac
  have senderIp : request.read etxArpSenderIpOffset 4 = p.senderIp.val :=
    congrArg Subtype.val asked.senderIp
  have targetIp : request.read etxArpTargetIpOffset 4 = p.targetIp.val :=
    congrArg Subtype.val asked.targetIp
  have filled : createReply request reply srcMac = reply.write 0 (p.reply srcMac).bytes := by
    rw [createReply, senderMac, senderIp, targetIp]
    simp [writeArpHeader_eq, Buffer.write_next, ArpPacket.bytes, ArpPacket.reply,
      ArpPacket.typeBytes, srcMac.property, p.senderMac.property, p.targetIp.property,
      etxEthDMacOffset, etxEthSMacOffset, etxArpSenderIpOffset, etxArpTargetMacOffset,
      etxArpTargetIpOffset, etxEthHeaderLen]
  rw [filled, ← ArpPacket.length_bytes (p.reply srcMac), Buffer.read_write_self]

end Jblib.Ethutilities.ArpController
