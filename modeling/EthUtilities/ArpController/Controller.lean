/-
**The ARP controller: its tables, the frames it builds and what it does with the frames it gets.**

The functions are those of the class `ArpController`. A line of the table that is read or written is
checked against the size of the array; an access outside of it is a fault. Indices of lines are
`int16_t` in the code where they are kept, and converted here as there.

* `parseFrame` — one received frame. `voidCallback` — one tick of the ageing timer. Both return the
  frames they put into the transmit queue; the results of `malloc_s` are inputs.
* `arp` — the controller as a machine.
-/

import EthUtilities.Library.Machine
import EthUtilities.Library.Slots
import EthUtilities.EthernetUtilities.Frames

namespace Jblib.Ethutilities

open Library EthernetUtilities

namespace ArpController

/-! ### Data -/

/-- The build-time constants `ARP_CONTROLLER_ARP_TABLE_SIZE`,
`ARP_CONTROLLER_MAX_NUM_IP_FOR_REPLY`, `ARP_CONTROLLER_REFRESH_RECORD_TIME` and
`ARP_CONTROLLER_DELETE_RECORD_TIME`. -/
structure ArpConfig where
  arpTableSize : Nat
  maxNumIpForReply : Nat
  refreshRecordTime : Nat
  deleteRecordTime : Nat

/-- `IpTableForReply_t`. -/
structure IpTableForReply where
  ip : Nat → Ip
  mask : Nat → Ip
  ipCount : Nat

/-- `ArpTableLine_t`. -/
structure ArpTableLine where
  ip : Ip
  mac : Mac
  timeAfterUpdate : UInt32

/-- `ArpTable_t`. -/
structure ArpTable where
  recordCounter : Nat
  line : Nat → ArpTableLine

/-- What must not happen. -/
inductive Fault
  /-- a line outside the array is read or written -/
  | lineOutside (index : Int)
  /-- a loop that does not end -/
  | diverges
  deriving DecidableEq

end ArpController

open ArpController

/-- The controller. -/
structure ArpController where
  mac : Mac
  ipTableForReply : IpTableForReply
  arpTable : ArpTable

namespace ArpController

/-! ### Lines -/

/-- The value of a number in an `int16_t`. -/
def toInt16 (n : Nat) : Int :=
  if n % 65536 < 32768 then (n % 65536 : Nat) else (n % 65536 : Nat) - 65536

namespace ArpTable

variable (config : ArpConfig) (table : ArpTable)

def readLine (index : Int) : Except Fault ArpTableLine :=
  if 0 ≤ index ∧ index < config.arpTableSize then .ok (table.line index.toNat)
  else .error (.lineOutside index)

def writeLine (index : Int) (line : ArpTableLine) : Except Fault ArpTable :=
  if 0 ≤ index ∧ index < config.arpTableSize then
    .ok { table with line := Function.update table.line index.toNat line }
  else .error (.lineOutside index)

/-- The loops of `getArpTableIndex` and `getIp`: the first line with a property among `fuel` lines
from `index` on. -/
def searchLine (test : ArpTableLine → Bool) : Nat → Nat → Except Fault (Option Nat)
  | 0, _ => .ok none
  | fuel + 1, index => do
    let line ← table.readLine config index
    if test line then .ok (some index) else searchLine test fuel (index + 1)

/-- `getArpTableIndex`. -/
def getArpTableIndex (ip : Ip) : Except Fault Int := do
  match ← table.searchLine config (fun line => line.ip = ip) table.recordCounter 0 with
  | some index => .ok (toInt16 index)
  | none => .ok (-1)

/-- `getMac`. -/
def getMac (ip : Ip) : Except Fault (Option Mac) := do
  let index ← table.getArpTableIndex config ip
  if index ≥ 0 then
    let line ← table.readLine config index
    .ok (some line.mac)
  else .ok none

/-- `getIp`. -/
def getIp (mac : Mac) : Except Fault (Option Ip) := do
  match ← table.searchLine config (fun line => line.mac = mac) table.recordCounter 0 with
  | some index =>
    let line ← table.readLine config index
    .ok (some line.ip)
  | none => .ok none

/-- What `parseFrame` does to the table with the sender of a frame, in its branch for replies and in
the one for requests. -/
def learn (ip : Ip) (mac : Mac) : Except Fault ArpTable := do
  let index ← table.getArpTableIndex config ip
  if index ≥ 0 then
    let line ← table.readLine config index
    table.writeLine config index { line with mac, timeAfterUpdate := 0 }
  else
    let table ← table.writeLine config (toInt16 table.recordCounter) ⟨ip, mac, 0⟩
    let recordCounter := (table.recordCounter + 1) % 65536
    .ok { table with
      recordCounter := if recordCounter = config.arpTableSize then 0 else recordCounter }

/-- `memmove` of the lines behind line `i` to the front by one, and one record less. -/
def deleteLine (i : Nat) : Except Fault ArpTable :=
  if i = table.recordCounter - 1 then
    .ok { table with recordCounter := table.recordCounter - 1 }
  else if table.recordCounter ≤ config.arpTableSize then
    .ok ⟨table.recordCounter - 1, fun j =>
      if i ≤ j ∧ j < table.recordCounter - 1 then table.line (j + 1) else table.line j⟩
  else .error (.lineOutside (table.recordCounter - 1))

end ArpTable

/-! ### Addresses for replies -/

/-- `isIpInTableForReply`. -/
def isIpInTableForReply (c : ArpController) (ip : Ip) : Bool :=
  (List.range c.ipTableForReply.ipCount).any fun i => c.ipTableForReply.ip i = ip

/-- `addIpForArpReply` with a mask. -/
def addIpForArpReply (config : ArpConfig) (c : ArpController) (ip mask : Ip) : ArpController :=
  let table := c.ipTableForReply
  let ipCount := (table.ipCount + 1) % 65536
  { c with ipTableForReply := ⟨Function.update table.ip table.ipCount ip,
    Function.update table.mask table.ipCount mask,
    if ipCount = config.maxNumIpForReply then 0 else ipCount⟩ }

/-! ### Frames -/

/-- The fields all ARP frames of the controller share, with an opcode. -/
def writeArpHeader (frame : Buffer) (srcMac : Mac) (opcode : UInt8) : Buffer :=
  let frame := frame.write etxEthSMacOffset srcMac.val
  let frame := frame.write etxEthEtherTypeOffset [0x08, 0x06]
  let frame := frame.write etxArpHwTypeOffset [0x00, 0x01]
  let frame := frame.write etxArpProtoTypeOffset [0x08, 0x00]
  let frame := frame.write etxArpHwSizeOffset [0x06]
  let frame := frame.write etxArpProtoSizeOffset [0x04]
  let frame := frame.write etxArpOpcodeOffset [0x00, opcode]
  frame.write etxArpSenderMacOffset srcMac.val

def arpFrameSize : Nat := etxEthHeaderLen + etxArpBodyLen

/-- `createReply` to a request, in the buffer `reply`. -/
def createReply (request reply : Buffer) (srcMac : Mac) : Buffer :=
  let reply := reply.write etxEthDMacOffset (request.read etxArpSenderMacOffset 6)
  let reply := writeArpHeader reply srcMac 0x02
  let reply := reply.write etxArpSenderIpOffset (request.read etxArpTargetIpOffset 4)
  let reply := reply.write etxArpTargetMacOffset (request.read etxArpSenderMacOffset 6)
  reply.write etxArpTargetIpOffset (request.read etxArpSenderIpOffset 4)

/-- `createRequest`, in the buffer `request`. -/
def createRequest (dstIp : Ip) (srcMac : Mac) (srcIp : Ip) (request : Buffer) : Buffer :=
  let request := request.write etxEthDMacOffset (List.replicate 6 0xff)
  let request := writeArpHeader request srcMac 0x01
  let request := request.write etxArpSenderIpOffset srcIp.val
  let request := request.write etxArpTargetMacOffset (List.replicate 6 0)
  request.write etxArpTargetIpOffset dstIp.val

/-- The loop of `sendArpRequest` over the addresses for replies, in one buffer, from address `i`
on. -/
def sendArpRequestLoop (c : ArpController) (dstIp : Ip) : Nat → Nat → Buffer → List (List UInt8)
  | 0, _, _ => []
  | fuel + 1, i, outputFrame =>
    if compareIp dstIp (c.ipTableForReply.ip i) (c.ipTableForReply.mask i) then
      let outputFrame := createRequest dstIp c.mac (c.ipTableForReply.ip i) outputFrame
      outputFrame.read 0 arpFrameSize :: sendArpRequestLoop c dstIp fuel (i + 1) outputFrame
    else sendArpRequestLoop c dstIp fuel (i + 1) outputFrame

/-- `sendArpRequest`, with the frames it queues. -/
def sendArpRequest (c : ArpController) (dstIp : Ip) (srcIp : Option Ip) (malloc : Option Buffer) :
    List (List UInt8) :=
  match malloc, srcIp with
  | none, _ => []
  | some outputFrame, none =>
    sendArpRequestLoop c dstIp c.ipTableForReply.ipCount 0 outputFrame
  | some outputFrame, some srcIp =>
    [(createRequest dstIp c.mac srcIp outputFrame).read 0 arpFrameSize]

/-! ### Received frames -/

/-- The frame is an ARP frame that `parseFrame` does not drop. `parameter`: whether its parameter is
not `NULL`. -/
def allowArp (c : ArpController) (frame : Buffer) (frameSize : Nat) (parameter : Bool) : Bool :=
  frameSize ≠ 0 ∧ getFrameType frame = etxEtherTypeArp ∧
    (parameter = true ∨ isIpInTableForReply c (frame.field etxArpTargetIpOffset 4) = true)

def senderIp (frame : Buffer) : Ip := frame.field etxArpSenderIpOffset 4

def senderMac (frame : Buffer) : Mac := frame.field etxArpSenderMacOffset 6

def isReply (frame : Buffer) : Bool :=
  frame etxArpOpcodeOffset = 0x00 ∧ frame (etxArpOpcodeOffset + 1) = 0x02

def isRequest (frame : Buffer) : Bool :=
  frame etxArpOpcodeOffset = 0x00 ∧ frame (etxArpOpcodeOffset + 1) = 0x01

/-- `parseFrame`, with the frames it queues. -/
def parseFrame (config : ArpConfig) (c : ArpController) (frame : Buffer) (frameSize : Nat)
    (parameter : Bool) (malloc : Option Buffer) :
    Except Fault (ArpController × List (List UInt8)) :=
  if allowArp c frame frameSize parameter then
    if isReply frame then do
      let arpTable ← c.arpTable.learn config (senderIp frame) (senderMac frame)
      .ok ({ c with arpTable }, [])
    else if isRequest frame then do
      let arpTable ← c.arpTable.learn config (senderIp frame) (senderMac frame)
      match malloc with
      | some outputFrame =>
        .ok ({ c with arpTable }, [(createReply frame outputFrame c.mac).read 0 arpFrameSize])
      | none => .ok ({ c with arpTable }, [])
    else .ok (c, [])
  else .ok (c, [])

/-! ### Ageing -/

/-- The loop of `voidCallback` from line `i` on. `malloc`: the results of `malloc_s` by turn. -/
def ageLoop (config : ArpConfig) (malloc : Nat → Option Buffer) :
    Nat → Nat → ArpController → List (List UInt8) →
      Except Fault (ArpController × List (List UInt8))
  | 0, _, _, _ => .error .diverges
  | fuel + 1, i, c, queued =>
    if i < c.arpTable.recordCounter then do
      let line ← c.arpTable.readLine config i
      let line := { line with timeAfterUpdate := line.timeAfterUpdate + 1 }
      let arpTable ← c.arpTable.writeLine config i line
      let c := { c with arpTable }
      let requests := if line.timeAfterUpdate.toNat > config.refreshRecordTime then
        sendArpRequest c line.ip none (malloc i) else []
      if line.timeAfterUpdate.toNat > config.deleteRecordTime then do
        let arpTable ← c.arpTable.deleteLine config i
        ageLoop config malloc fuel (i + 1) { c with arpTable } (queued ++ requests)
      else ageLoop config malloc fuel (i + 1) c (queued ++ requests)
    else .ok (c, queued)

/-- `voidCallback`, with the frames it queues. -/
def voidCallback (config : ArpConfig) (c : ArpController) (malloc : Nat → Option Buffer) :
    Except Fault (ArpController × List (List UInt8)) :=
  ageLoop config malloc (c.arpTable.recordCounter + 1) 0 c []

/-! ### The controller as a machine -/

inductive Event
  | parseFrame (frame : Buffer) (frameSize : Nat) (parameter : Bool) (malloc : Option Buffer)
  | voidCallback (malloc : Nat → Option Buffer)
  | addIpForArpReply (ip mask : Ip)

def step (config : ArpConfig) (c : ArpController) : Event → Except Fault ArpController
  | .parseFrame frame frameSize parameter malloc =>
    (ArpController.parseFrame config c frame frameSize parameter malloc).map Prod.fst
  | .voidCallback malloc => (ArpController.voidCallback config c malloc).map Prod.fst
  | .addIpForArpReply ip mask => .ok (ArpController.addIpForArpReply config c ip mask)

/-- Every event is enabled at any time. -/
def arp (config : ArpConfig) : Machine (Except Fault ArpController) Event :=
  Machine.checked (step config) fun _ _ => True

/-- A controller that has not received anything yet. -/
def Fresh (c : ArpController) : Prop := c.arpTable.recordCounter = 0

end ArpController

end Jblib.Ethutilities
