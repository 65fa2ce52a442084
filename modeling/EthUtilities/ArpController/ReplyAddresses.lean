/-
**The addresses a controller answers for.**

* `AddCall` — the two overloads of `addIpForArpReply`. `sendGratiousArp` — the announcement of all
  addresses, or of one.
* `registered_addIpForArpReply` — the addresses are a list that the last free place empties.
* `served_iff` — the controller answers for and announces exactly the addresses in the list.
* **`stays_registered_iff`** — what was added stays, exactly if the last call did not empty the list
  and no address was lost before.
-/

import EthUtilities.Library.Ring
import EthUtilities.ArpController.Resolution

namespace Jblib.Ethutilities.ArpController

open Library EthernetUtilities

/-! ### Adding addresses -/

/-- The mask of `addIpForArpReply` without one. -/
def defaultMask : Ip := ⟨List.replicate 3 255 ++ [0], rfl⟩

/-- A call of `addIpForArpReply`, with or without a mask. -/
inductive AddCall
  | withMask (ip mask : Ip)
  | plain (ip : Ip)

def AddCall.ip : AddCall → Ip
  | .withMask ip _ => ip
  | .plain ip => ip

def AddCall.run (config : ArpConfig) (c : ArpController) : AddCall → ArpController
  | .withMask ip mask => addIpForArpReply config c ip mask
  | .plain ip => addIpForArpReply config c ip defaultMask

/-- The controller after calls. -/
def addAll (config : ArpConfig) (c : ArpController) (calls : List AddCall) : ArpController :=
  calls.foldl (AddCall.run config) c

/-! ### Announcing addresses -/

/-- `createReply` with addresses of its own, which are broadcast where they are `NULL`. -/
def createReplyTo (dstMac : Option Mac) (dstIp : Option Ip) (srcMac : Mac) (srcIp : Ip)
    (reply : Buffer) : Buffer :=
  let reply := reply.write etxEthDMacOffset ((dstMac.map Subtype.val).getD (List.replicate 6 0xff))
  let reply := writeArpHeader reply srcMac 0x02
  let reply := reply.write etxArpSenderIpOffset srcIp.val
  let reply := reply.write etxArpTargetMacOffset
    ((dstMac.map Subtype.val).getD (List.replicate 6 0xff))
  reply.write etxArpTargetIpOffset ((dstIp.map Subtype.val).getD (List.replicate 4 0xff))

/-- The loop of `sendGratiousArp` over the addresses for replies, in one buffer, from address `i`
on. -/
def sendGratiousArpLoop (c : ArpController) : Nat → Nat → Buffer → List (List UInt8)
  | 0, _, _ => []
  | fuel + 1, i, outputFrame =>
    let ip := c.ipTableForReply.ip i
    let outputFrame := createReplyTo none (some ip) c.mac ip outputFrame
    outputFrame.read 0 arpFrameSize :: sendGratiousArpLoop c fuel (i + 1) outputFrame

/-- `sendGratiousArp`, with the frames it queues. -/
def sendGratiousArp (c : ArpController) (srcIp : Option Ip) (malloc : Option Buffer) :
    List (List UInt8) :=
  match malloc, srcIp with
  | none, _ => []
  | some outputFrame, none => sendGratiousArpLoop c c.ipTableForReply.ipCount 0 outputFrame
  | some outputFrame, some srcIp =>
    [(createReplyTo none (some srcIp) c.mac srcIp outputFrame).read 0 arpFrameSize]

/-- An address told to all, unasked. -/
def ArpPacket.announcement (srcMac : Mac) (ip : Ip) : ArpPacket where
  dstMac := (request ip srcMac ip).dstMac
  srcMac := srcMac
  opcode := 0x02
  senderMac := srcMac
  senderIp := ip
  targetMac := (request ip srcMac ip).dstMac
  targetIp := ip

section Announcing

variable {c : ArpController}

/-- **`createReply` for an announcement** fills its frame. -/
theorem createReplyTo_read (srcMac : Mac) (ip : Ip) (frame : Buffer) :
    (createReplyTo none (some ip) srcMac ip frame).read 0 arpFrameSize =
      (ArpPacket.announcement srcMac ip).bytes := by
  have filled : createReplyTo none (some ip) srcMac ip frame =
      frame.write 0 (ArpPacket.announcement srcMac ip).bytes := by
    simp [createReplyTo, writeArpHeader_eq, Buffer.write_next, ArpPacket.bytes,
      ArpPacket.announcement, ArpPacket.request, ArpPacket.typeBytes, srcMac.property, ip.property,
      etxEthDMacOffset, etxEthSMacOffset, etxArpSenderIpOffset, etxArpTargetMacOffset,
      etxArpTargetIpOffset, etxEthHeaderLen]
  rw [filled, ← ArpPacket.length_bytes (ArpPacket.announcement srcMac ip), Buffer.read_write_self]

/-- The addresses for replies. -/
def registered (c : ArpController) : List Ip :=
  (List.range c.ipTableForReply.ipCount).map c.ipTableForReply.ip

theorem length_registered : (registered c).length = c.ipTableForReply.ipCount := by
  simp [registered]

theorem isIpInTableForReply_iff {ip : Ip} :
    isIpInTableForReply c ip = true ↔ ip ∈ registered c := by
  simp [isIpInTableForReply, registered]

theorem sendGratiousArpLoop_eq (fuel i : Nat) (outputFrame : Buffer) :
    sendGratiousArpLoop c fuel i outputFrame = (List.range' i fuel).map fun j =>
      (ArpPacket.announcement c.mac (c.ipTableForReply.ip j)).bytes := by
  induction fuel generalizing i outputFrame with
  | zero => rfl
  | succ fuel ih =>
    rw [sendGratiousArpLoop, createReplyTo_read, ih, List.range'_succ]
    rfl

/-- **`sendGratiousArp`** announces the addresses in their order. -/
theorem sendGratiousArp_eq (outputFrame : Buffer) :
    sendGratiousArp c none (some outputFrame) =
      (registered c).map fun ip => (ArpPacket.announcement c.mac ip).bytes := by
  rw [sendGratiousArp, sendGratiousArpLoop_eq, registered, List.map_map, List.range_eq_range']
  rfl

end Announcing

/-! ### The list -/

section Registered

variable {config : ArpConfig} {c : ArpController}

/-- The number of addresses at which the list is emptied. `ipCount` is an `uint16_t`. -/
def replyCapacity (config : ArpConfig) : Nat := min config.maxNumIpForReply 65536

theorem registered_addIpForArpReply (fits : c.ipTableForReply.ipCount < replyCapacity config)
    (ip mask : Ip) : registered (addIpForArpReply config c ip mask) =
      Ring.enter (replyCapacity config) (registered c) ip := by
  unfold replyCapacity at fits
  have counter : (addIpForArpReply config c ip mask).ipTableForReply.ipCount =
      if (c.ipTableForReply.ipCount + 1) % 65536 = config.maxNumIpForReply then 0
      else (c.ipTableForReply.ipCount + 1) % 65536 := rfl
  have cells : (addIpForArpReply config c ip mask).ipTableForReply.ip =
      Function.update c.ipTableForReply.ip c.ipTableForReply.ipCount ip := rfl
  rw [Ring.enter, length_registered, replyCapacity]
  by_cases full : c.ipTableForReply.ipCount + 1 = min config.maxNumIpForReply 65536
  · have empty : (addIpForArpReply config c ip mask).ipTableForReply.ipCount = 0 := by
      rw [counter]
      split <;> omega
    rw [if_pos full, registered, empty]
    rfl
  · have more : (addIpForArpReply config c ip mask).ipTableForReply.ipCount =
        c.ipTableForReply.ipCount + 1 := by
      rw [counter, if_neg (by omega)]
      omega
    have kept : (List.range c.ipTableForReply.ipCount).map
        (Function.update c.ipTableForReply.ip c.ipTableForReply.ipCount ip) =
        (List.range c.ipTableForReply.ipCount).map c.ipTableForReply.ip := by
      refine List.map_congr_left fun i member => ?_
      rw [Function.update_of_ne (Nat.ne_of_lt (List.mem_range.mp member))]
    rw [if_neg full, registered, more, cells, List.range_succ, List.map_append, kept]
    simp [registered]

/-- **What calls leave**: the addresses since the list was emptied last. -/
theorem registered_addAll (positive : 0 < config.maxNumIpForReply)
    (none : c.ipTableForReply.ipCount = 0) (calls : List AddCall) :
    registered (addAll config c calls) = (calls.map AddCall.ip).drop
      (replyCapacity config * (calls.length / replyCapacity config)) := by
  have some : 0 < replyCapacity config := by
    unfold replyCapacity
    omega
  have entered : ∀ (calls : List AddCall) (c : ArpController),
      c.ipTableForReply.ipCount < replyCapacity config →
      registered (addAll config c calls) =
        (calls.map AddCall.ip).foldl (Ring.enter (replyCapacity config)) (registered c) := by
    intro calls
    induction calls with
    | nil => exact fun _ _ => rfl
    | cons call calls ih =>
      intro c fits
      have entry : registered (call.run config c) =
          Ring.enter (replyCapacity config) (registered c) call.ip := by
        cases call with
        | withMask ip mask => exact registered_addIpForArpReply fits ip mask
        | plain ip => exact registered_addIpForArpReply fits ip defaultMask
      have fits' : (call.run config c).ipTableForReply.ipCount < replyCapacity config := by
        rw [← length_registered, entry]
        exact Ring.length_enter_lt some (by rwa [length_registered]) call.ip
      rw [List.map_cons, List.foldl_cons, ← entry]
      exact ih _ fits'
  have empty : registered c = [] := by simp [registered, none]
  have room : ([] : List Ip).length < replyCapacity config := some
  rw [entered calls c (by omega), empty, Ring.foldl_enter some room, List.nil_append,
    List.length_map]

theorem addAll_arpTable (calls : List AddCall) :
    (addAll config c calls).arpTable = c.arpTable := by
  induction calls generalizing c with
  | nil => rfl
  | cons call calls ih =>
    show (addAll config (call.run config c) calls).arpTable = _
    rw [ih]
    cases call <;> rfl

end Registered

/-! ### What the list is for -/

/-- **The controller serves an address**: it has it in its table, answers requests for it, and
announces it. -/
structure Served (config : ArpConfig) (c : ArpController) (ip : Ip) : Prop where
  registered : isIpInTableForReply c ip = true
  answers : ∀ (p : ArpPacket) (frame : Buffer) (frameSize : Nat) (outputFrame : Buffer),
    p.opcode = 0x01 → p.targetIp = ip → Carries frame frameSize p.bytes →
    ∃ c', parseFrame config c frame frameSize false (some outputFrame) =
      .ok (c', [(p.reply c.mac).bytes])
  announces : ∀ outputFrame,
    (ArpPacket.announcement c.mac ip).bytes ∈ sendGratiousArp c none (some outputFrame)

/-- A controller without records serves the addresses in its list. -/
theorem served_iff {config : ArpConfig} {c : ArpController} (fresh : Fresh c)
    (positive : 0 < config.arpTableSize) {ip : Ip} : Served config c ip ↔ ip ∈ registered c := by
  refine ⟨fun served => isIpInTableForReply_iff.mp served.registered, fun member => ?_⟩
  have mine := isIpInTableForReply_iff.mpr member
  refine ⟨mine, ?_, fun outputFrame => ?_⟩
  · rintro p frame frameSize outputFrame asks rfl carries
    have empty : c.arpTable.recordCounter = 0 := fresh
    have unknown : c.arpTable.find p.senderIp = none := by
      rw [ArpTable.find, empty]
      rfl
    rw [parseFrame_request config carries asks mine outputFrame,
      (wellFormed_fresh fresh positive).learn_new unknown (by omega)]
    exact ⟨_, rfl⟩
  · rw [sendGratiousArp_eq]
    exact List.mem_map_of_mem member

/-- **What was added stays**: after calls that fit the table all addresses are served, and after
more calls the last one is in the table. -/
def StaysRegistered (config : ArpConfig) (c : ArpController) (calls : List AddCall) : Prop :=
  (calls.length ≤ config.maxNumIpForReply →
    ∀ call ∈ calls, Served config (addAll config c calls) call.ip) ∧
  (config.maxNumIpForReply < calls.length →
    ∀ call ∈ calls.getLast?, isIpInTableForReply (addAll config c calls) call.ip = true)

/-- **When addresses stay**: the last call, if there was one, did not empty the list, and of calls
that fit the table none had an address that the list lost. -/
theorem stays_registered_iff {config : ArpConfig} (positive : 1 ≤ config.maxNumIpForReply)
    (size : 1 ≤ config.arpTableSize) {c : ArpController} (fresh : Fresh c)
    (none : c.ipTableForReply.ipCount = 0) (calls : List AddCall) :
    StaysRegistered config c calls ↔
      calls = [] ∨ ¬ min config.maxNumIpForReply 65536 ∣ calls.length ∧
        (calls.length ≤ config.maxNumIpForReply →
          ∀ ip ∈ (calls.map AddCall.ip).take (min config.maxNumIpForReply 65536 *
              (calls.length / min config.maxNumIpForReply 65536)),
            ip ∈ (calls.map AddCall.ip).drop (min config.maxNumIpForReply 65536 *
              (calls.length / min config.maxNumIpForReply 65536))) := by
  have left := registered_addAll positive none calls
  have empties := @Ring.drop_rounds_eq_nil_iff (replyCapacity config) _ (calls.map AddCall.ip)
  rw [List.length_map, ← left] at empties
  have servedIff : ∀ ip, Served config (addAll config c calls) ip ↔
      ip ∈ registered (addAll config c calls) := fun ip =>
    served_iff (show (addAll config c calls).arpTable.recordCounter = 0 by
      rw [addAll_arpTable]
      exact fresh) size
  change _ ↔ calls = [] ∨ ¬ replyCapacity config ∣ calls.length ∧ (_ →
    ∀ ip ∈ (calls.map AddCall.ip).take (replyCapacity config *
      (calls.length / replyCapacity config)), ip ∈ (calls.map AddCall.ip).drop
        (replyCapacity config * (calls.length / replyCapacity config)))
  rw [← left, ← empties]
  have parts : ∀ call ∈ calls, call.ip ∈ (calls.map AddCall.ip).take (replyCapacity config *
      (calls.length / replyCapacity config)) ∨ call.ip ∈ registered (addAll config c calls) := by
    intro call member
    rw [left, ← List.mem_append, List.take_append_drop]
    exact List.mem_map_of_mem member
  have last : registered (addAll config c calls) ≠ [] → ∀ call ∈ calls.getLast?,
      call.ip ∈ registered (addAll config c calls) := by
    intro some call final
    rw [left] at some ⊢
    refine List.mem_of_getLast? ?_
    rw [List.getLast?_drop, if_neg (mt List.drop_eq_nil_of_le some), List.getLast?_map,
      Option.mem_def.mp final]
    rfl
  constructor
  · rintro ⟨all, latest⟩
    refine or_iff_not_imp_left.mpr fun calls' => ⟨fun empty => ?_, fun fits ip lost => ?_⟩
    · rcases Nat.lt_or_ge config.maxNumIpForReply calls.length with more | fits
      · have final := latest more _ (List.getLast?_eq_some_getLast calls')
        rw [isIpInTableForReply_iff, empty] at final
        exact nomatch final
      · have final := (servedIff _).mp (all fits _ (List.getLast_mem calls'))
        rw [empty] at final
        exact nomatch final
    · obtain ⟨call, member, rfl⟩ := List.mem_map.mp (List.mem_of_mem_take lost)
      exact (servedIff call.ip).mp (all fits call member)
  · rintro (rfl | ⟨some, again⟩)
    · exact ⟨fun _ _ member => (nomatch member), fun _ _ member => (nomatch member)⟩
    · refine ⟨fun fits call member => (servedIff call.ip).mpr ?_, fun _ call final =>
        isIpInTableForReply_iff.mpr (last some call final)⟩
      exact (parts call member).elim (again fits call.ip) id

/-- A table for two addresses, and two calls. -/
def replyConfig : ArpConfig := ⟨2, 2, 60, 120⟩

def replyCalls : List AddCall := [.plain ⟨[172, 16, 1, 1], rfl⟩, .plain ⟨[172, 16, 1, 2], rfl⟩]

/-- The call that fills the table empties it. -/
theorem stays_registered_fails : 1 ≤ replyConfig.maxNumIpForReply ∧ 1 ≤ replyConfig.arpTableSize ∧
    Fresh sampleController ∧ sampleController.ipTableForReply.ipCount = 0 ∧
    ¬ StaysRegistered replyConfig sampleController replyCalls := by
  refine ⟨by decide, by decide, sampleController_fresh, rfl, fun stays => ?_⟩
  have served := stays.1 (by decide) _ List.mem_cons_self
  exact absurd served.registered (by decide)

theorem stays_registered_sample :
    StaysRegistered replyConfig sampleController (replyCalls.take 1) :=
  (stays_registered_iff (by decide) (by decide) sampleController_fresh rfl _).mpr
    (.inr ⟨by decide, fun _ => by decide⟩)

end Jblib.Ethutilities.ArpController
