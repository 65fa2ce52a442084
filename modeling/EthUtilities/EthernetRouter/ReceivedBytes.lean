/-
**Whether the bytes behind a frame matter.**

All interfaces are read into one buffer, `inputFrame_`, and neither the router nor the ARP
controller compares the offsets it reads with the size of the frame.

* `lwip_mem_routeFrames` — which frames lwIP is given in a whole pass of `routeFrames`.
* `routes_iff`, `parses_iff` — the dispatch, and what a controller makes of a frame, do not depend
  on what is behind it exactly if the frame is empty or as long as an ARP frame (or the controller
  has no address to reply for).
* **`received_bytes_iff`** — both.
-/

import EthUtilities.ArpController.Resolution
import EthUtilities.ArpController.ReplyAddresses
import EthUtilities.EthernetRouter.Listeners

namespace Jblib.Ethutilities

open Library EthernetUtilities ArpController

/-- The frame is empty, or has all the bytes of an ARP frame. -/
def Whole (frameSize : Nat) : Prop := frameSize = 0 ∨ ArpController.arpFrameSize ≤ frameSize

/-! ### Two frames that differ late -/

theorem getFrameType_congr {frame frame' : Buffer} (agree : Buffer.AgreeBelow 14 frame frame') :
    getFrameType frame = getFrameType frame' := by
  rw [getFrameType, getFrameType, agree etxEthEtherTypeOffset (by decide),
    agree (etxEthEtherTypeOffset + 1) (by decide)]

namespace ArpController

/-- A buffer with the frame of a packet. -/
def shownFrame (p : ArpPacket) : Buffer := Buffer.write (fun _ => 0) 0 p.bytes

theorem in_shownFrame (p : ArpPacket) : p.In (shownFrame p) :=
  ArpPacket.in_of_holds (Buffer.holds_iff_read.mpr Buffer.read_write_self)

/-- The frame with another byte at the end of its target. -/
def otherTarget (frame : Buffer) : Buffer :=
  Function.update frame (etxArpTargetIpOffset + 3) (frame (etxArpTargetIpOffset + 3) + 1)

variable {frame : Buffer}

theorem agree_otherTarget (frame : Buffer) :
    Buffer.AgreeBelow (etxArpTargetIpOffset + 3) frame (otherTarget frame) :=
  Buffer.agreeBelow_update (Nat.le_refl _) _

theorem target_otherTarget_ne (frame : Buffer) :
    (otherTarget frame).field etxArpTargetIpOffset 4 ≠ frame.field etxArpTargetIpOffset 4 := by
  have other : frame (etxArpTargetIpOffset + 3) + 1 ≠ frame (etxArpTargetIpOffset + 3) := by
    rw [ne_eq, UInt8.add_eq_left]
    decide
  exact fun same => Buffer.read_update_ne (by decide) other (congrArg Subtype.val same)

/-- It shows the same packet but for the target. -/
theorem in_otherTarget {p : ArpPacket} (shown : p.In frame) :
    ArpPacket.In { p with targetIp := (otherTarget frame).field etxArpTargetIpOffset 4 }
      (otherTarget frame) := by
  have agree := agree_otherTarget frame
  refine ⟨?_, ?_, ?_, ?_, ?_, rfl⟩
  · rw [← shown.frameType, getFrameType_congr (agree.mono (by decide))]
  · rw [← agree _ (by decide), shown.opcodeHigh]
  · rw [← agree _ (by decide), shown.opcodeLow]
  · rw [← agree.field (by decide), shown.senderMac]
  · rw [← agree.field (by decide), shown.senderIp]

end ArpController

namespace EthernetRouter

/-! ### What lwIP is given -/

section Lwip

variable {router : EthernetRouter} {i k : IfacePtr} {reception : Reception}

/-- lwIP is given the frame. -/
def IsForLwip (routerIface : EthernetRouterIface) (reception : Reception) : Prop :=
  reception.inputFrameSize ≠ 0 ∧
    if getFrameType reception.frame = etxEtherTypeArp then
      isForIp reception.frame etxArpTargetIpOffset routerIface.ip
    else reception.frame.read etxEthDMacOffset 6 = routerIface.mac.val ∧
      isForIp reception.frame etxIpDIpOffset routerIface.ip

theorem lwip_notMem_operations (issued : List Operation) :
    Action.lwip k ∉ issued.map Action.operation := by
  simp

theorem lwip_mem_pushIfForIp (offset : Nat) :
    Action.lwip k ∈ (pushIfForIp router i offset reception).2 ↔
      k = i ∧ isForIp reception.frame offset (router.iface i).ip := by
  unfold pushIfForIp pushFrameToLwip
  split
  case isTrue here => simp [here]
  case isFalse other => simp [other]

theorem lwip_notMem_callListeners (listeners : List Listener) (answers : List (List Operation))
    (router : EthernetRouter) :
    Action.lwip k ∉ (callListeners i listeners answers router).2 := by
  induction listeners generalizing answers router with
  | nil => exact List.not_mem_nil
  | cons listener listeners ih =>
    intro member
    rcases List.mem_cons.mp member with same | member
    · cases same
    · rcases List.mem_append.mp member with member | member
      · exact lwip_notMem_operations _ member
      · exact ih _ _ member

theorem lwip_mem_routeFrame :
    Action.lwip k ∈ (routeFrame router i reception).2 ↔
      k = i ∧ IsForLwip (router.iface i) reception := by
  unfold routeFrame IsForLwip
  by_cases empty : reception.inputFrameSize = 0
  · simp [empty]
  by_cases arp : getFrameType reception.frame = etxEtherTypeArp
  · rw [if_neg empty, if_pos arp, if_pos arp]
    show _ ∈ Action.arp i :: _ ↔ _
    rw [List.mem_cons, or_iff_right (fun same => nomatch same), lwip_mem_pushIfForIp]
    simp [empty]
  by_cases mac : reception.frame.read etxEthDMacOffset 6 = (router.iface i).mac.val
  · rw [if_neg empty, if_neg arp, if_neg arp, if_pos mac]
    show _ ∈ _ ++ _ ↔ _
    rw [List.mem_append, or_iff_left (lwip_notMem_callListeners _ _ _), lwip_mem_pushIfForIp]
    simp [empty, mac]
  · rw [if_neg empty, if_neg arp, if_neg arp, if_neg mac]
    simp [mac]

/-! ### Addresses stay -/

/-- The interfaces have the same addresses. -/
def SameAddresses (router router' : EthernetRouter) : Prop :=
  ∀ k, (router'.iface k).ip = (router.iface k).ip ∧ (router'.iface k).mac = (router.iface k).mac

theorem SameAddresses.trans {router router' router'' : EthernetRouter}
    (first : SameAddresses router router') (second : SameAddresses router' router'') :
    SameAddresses router router'' :=
  fun k => ⟨(second k).1.trans (first k).1, (second k).2.trans (first k).2⟩

theorem sameAddresses_update {routerIface : EthernetRouterIface}
    (ip : routerIface.ip = (router.iface i).ip) (mac : routerIface.mac = (router.iface i).mac) :
    SameAddresses router { router with iface := Function.update router.iface i routerIface } := by
  intro k
  show (Function.update router.iface i routerIface k).ip = _ ∧
    (Function.update router.iface i routerIface k).mac = _
  by_cases here : k = i
  · rw [here, Function.update_self]
    exact ⟨ip, mac⟩
  · rw [Function.update_of_ne here]
    exact ⟨rfl, rfl⟩

theorem sameAddresses_operations (router : EthernetRouter) (issued : List Operation) :
    SameAddresses router (operations router issued) := by
  induction issued generalizing router with
  | nil => exact fun _ => ⟨rfl, rfl⟩
  | cons operation issued ih =>
    have operated : SameAddresses router (operate router operation) := by
      cases operation with
      | add _ _ => exact sameAddresses_update rfl rfl
      | delete _ _ => exact sameAddresses_update rfl rfl
    exact operated.trans (ih _)

theorem sameAddresses_routeFrame (router : EthernetRouter) (i : IfacePtr) (reception : Reception) :
    SameAddresses router (routeFrame router i reception).1 := by
  obtain ⟨operationsOf, addressed, otherwise, _⟩ := routeFrame_eq router i reception
  have operated := sameAddresses_operations router operationsOf
  by_cases here : IsAddressed (router.iface i) reception
  · rw [(addressed here).2]
    refine operated.trans ?_
    unfold deleteListeners
    dsimp only
    split
    · exact fun _ => ⟨rfl, rfl⟩
    · exact sameAddresses_update rfl rfl
  · rw [otherwise here]
    exact operated

theorem lwip_mem_routeInterfaces (receptions : IfacePtr → Reception) (list : List IfacePtr)
    (router : EthernetRouter) :
    Action.lwip k ∈ (routeInterfaces receptions list router).2 ↔
      k ∈ list ∧ IsForLwip (router.iface k) (receptions k) := by
  induction list generalizing router with
  | nil => simp [routeInterfaces]
  | cons it list ih =>
    obtain ⟨ip, mac⟩ := sameAddresses_routeFrame router it (receptions it) k
    have kept : IsForLwip ((routeFrame router it (receptions it)).1.iface k) (receptions k) ↔
        IsForLwip (router.iface k) (receptions k) := by
      unfold IsForLwip
      rw [ip, mac]
    show Action.lwip k ∈ _ ++ _ ↔ _
    rw [List.mem_append, lwip_mem_routeFrame, ih, kept, List.mem_cons, or_and_right]
    exact or_congr ⟨fun ⟨same, here⟩ => ⟨same, same ▸ here⟩,
      fun ⟨same, here⟩ => ⟨same, same ▸ here⟩⟩
      Iff.rfl

/-- **The frames lwIP is given** in a pass over the interfaces. -/
theorem lwip_mem_routeFrames (receptions : IfacePtr → Reception) (timeouts : List Operation) :
    Action.lwip k ∈ (routeFrames router receptions timeouts).2 ↔
      k ∈ router.interfacesList ∧ IsForLwip (router.iface k) (receptions k) := by
  unfold routeFrames
  by_cases none : router.interfacesList = []
  · simp [none]
  · rw [if_neg none]
    show _ ∈ _ ++ _ ↔ _
    rw [List.mem_append, or_iff_left (lwip_notMem_operations timeouts), lwip_mem_routeInterfaces]

end Lwip

/-! ### Dispatch -/

section Dispatch

variable {router : EthernetRouter} {i : IfacePtr} {size : UInt16}

/-- Two receptions of a frame of `size` bytes, with different bytes behind it. -/
structure Alike (size : UInt16) (reception reception' : Reception) : Prop where
  sameSize : reception.inputFrameSize = size
  sameSize' : reception'.inputFrameSize = size
  lwip : reception.lwip = reception'.lwip
  listeners : reception.listeners = reception'.listeners
  agree : Buffer.AgreeBelow size.toNat reception.frame reception'.frame

/-- What is behind the frames has no effect on where they go. -/
def RoutesBytes (router : EthernetRouter) (sizes : IfacePtr → UInt16) : Prop :=
  ∀ (receptions receptions' : IfacePtr → Reception) (timeouts : List Operation),
    (∀ it, Alike (sizes it) (receptions it) (receptions' it)) →
    routeFrames router receptions timeouts = routeFrames router receptions' timeouts

theorem routeFrame_congr {reception reception' : Reception} (alike : Alike size reception reception')
    (whole : Whole size.toNat) :
    routeFrame router i reception = routeFrame router i reception' := by
  unfold routeFrame
  rw [alike.sameSize, alike.sameSize']
  by_cases empty : size = 0
  · rw [if_pos empty, if_pos empty]
  have long : ArpController.arpFrameSize ≤ size.toNat :=
    whole.resolve_left fun zero => empty (UInt16.toNat_inj.mp zero)
  have agree := alike.agree.mono long
  have isForIp_congr : ∀ offset ip, offset + 4 ≤ ArpController.arpFrameSize →
      (isForIp reception.frame offset ip ↔ isForIp reception'.frame offset ip) :=
    fun offset ip inside => by rw [isForIp, isForIp, agree.read inside]
  have pushed : ∀ offset, offset + 4 ≤ ArpController.arpFrameSize →
      pushIfForIp router i offset reception = pushIfForIp router i offset reception' :=
    fun offset inside => by
      rw [pushIfForIp, pushIfForIp, pushFrameToLwip, pushFrameToLwip, alike.lwip]
      simp only [isForIp_congr offset _ inside]
  rw [getFrameType_congr (agree.mono (by decide)), agree.read (show etxEthDMacOffset + 6 ≤ _ by decide),
    pushed etxArpTargetIpOffset (by decide), pushed etxIpDIpOffset (by decide), alike.listeners]

theorem routeInterfaces_congr {receptions receptions' : IfacePtr → Reception}
    {sizes : IfacePtr → UInt16} (alike : ∀ it, Alike (sizes it) (receptions it) (receptions' it))
    (list : List IfacePtr) (whole : ∀ it ∈ list, Whole (sizes it).toNat) (router : EthernetRouter) :
    routeInterfaces receptions list router = routeInterfaces receptions' list router := by
  induction list generalizing router with
  | nil => rfl
  | cons it list ih =>
    unfold routeInterfaces
    rw [routeFrame_congr (alike it) (whole it List.mem_cons_self)]
    dsimp only
    rw [ih fun other member => whole other (List.mem_cons_of_mem _ member)]

/-- The router gives lwIP the ARP frames for the address of the interface. -/
theorem isForLwip_iff {p : ArpPacket} {routerIface : EthernetRouterIface} {reception : Reception}
    (shown : p.In reception.frame) (some : reception.inputFrameSize ≠ 0) :
    IsForLwip routerIface reception ↔ p.targetIp = routerIface.ip := by
  unfold IsForLwip isForIp
  rw [if_pos shown.frameType, and_iff_right some, ← shown.targetIp]
  exact ⟨fun same => Subtype.ext same, congrArg Subtype.val⟩

/-- The interface gets a frame, the others get none; `frame` may differ from it late. -/
theorem alike_update (receptions : IfacePtr → Reception) (sizes : IfacePtr → UInt16)
    (sized : ∀ k, (receptions k).inputFrameSize = sizes k) (it : IfacePtr) {frame : Buffer}
    (agree : Buffer.AgreeBelow (sizes it).toNat (receptions it).frame frame) (k : IfacePtr) :
    Alike (sizes k) (receptions k)
      (Function.update receptions it { receptions it with frame } k) := by
  by_cases here : k = it
  · rw [here, Function.update_self]
    exact ⟨sized it, sized it, rfl, rfl, agree⟩
  · rw [Function.update_of_ne here]
    exact ⟨sized k, sized k, rfl, rfl, fun _ _ => rfl⟩

/-- **The dispatch** depends on the frames only exactly if all of them are whole. -/
theorem routes_iff (router : EthernetRouter) (sizes : IfacePtr → UInt16) :
    RoutesBytes router sizes ↔ ∀ it ∈ router.interfacesList, Whole (sizes it).toNat := by
  constructor
  · intro independent it member
    by_contra short
    obtain ⟨some, few⟩ := not_or.mp short
    -- an ARP frame for the interface, and one that differs in the last byte of the address
    let packet := ArpPacket.request (router.iface it).ip (Bytes.zero 6) (Bytes.zero 4)
    let receptions : IfacePtr → Reception := fun k => ⟨shownFrame packet, sizes k, [], []⟩
    have alike := alike_update receptions sizes (fun _ => rfl) it
      ((agree_otherTarget (shownFrame packet)).mono (Nat.le_of_lt_succ (Nat.lt_of_not_le few)))
    have shown := in_shownFrame packet
    have positive : sizes it ≠ 0 := fun zero => some (zero ▸ rfl)
    have given : IsForLwip (router.iface it) (receptions it) :=
      (isForLwip_iff shown positive).mpr rfl
    have same := congrArg Prod.snd (independent _ _ [] alike)
    have mentioned := (lwip_mem_routeFrames receptions []).mpr ⟨member, given⟩
    rw [same, lwip_mem_routeFrames, Function.update_self] at mentioned
    have target := (isForLwip_iff (in_otherTarget shown) positive).mp mentioned.2
    exact target_otherTarget_ne _ (target.trans shown.targetIp.symm)
  · intro whole receptions receptions' timeouts alike
    unfold routeFrames
    rw [routeInterfaces_congr alike _ whole]

end Dispatch

end EthernetRouter

/-! ### Reading -/

namespace ArpController

section Parsing

variable {config : ArpConfig} {c : ArpController} {frame frame' : Buffer} {frameSize : Nat}
  {parameter : Bool}

/-- What is behind the frame has no effect on what the controller makes of it. -/
def ParsesBytes (config : ArpConfig) (c : ArpController) (frameSize : Nat) (parameter : Bool) :
    Prop :=
  ∀ frame frame' malloc, Buffer.AgreeBelow frameSize frame frame' →
    parseFrame config c frame frameSize parameter malloc =
      parseFrame config c frame' frameSize parameter malloc

theorem parseFrame_congr (malloc : Option Buffer)
    (agree : Buffer.AgreeBelow arpFrameSize frame frame') :
    parseFrame config c frame frameSize parameter malloc =
      parseFrame config c frame' frameSize parameter malloc := by
  have high := agree etxArpOpcodeOffset (by decide)
  have low := agree (etxArpOpcodeOffset + 1) (by decide)
  have target : frame.field etxArpTargetIpOffset 4 = frame'.field etxArpTargetIpOffset 4 :=
    agree.field (by decide)
  have ip : senderIp frame = senderIp frame' := agree.field (by decide)
  have mac : senderMac frame = senderMac frame' := agree.field (by decide)
  have replied : ∀ outputFrame, createReply frame outputFrame c.mac =
      createReply frame' outputFrame c.mac := fun outputFrame => by
    unfold createReply
    rw [agree.read (show etxArpSenderMacOffset + 6 ≤ _ by decide),
      agree.read (show etxArpTargetIpOffset + 4 ≤ _ by decide),
      agree.read (show etxArpSenderIpOffset + 4 ≤ _ by decide)]
  unfold parseFrame allowArp isReply isRequest
  rw [getFrameType_congr (agree.mono (by decide)), target, high, low, ip, mac]
  cases malloc with
  | none => rfl
  | some outputFrame => simp only [replied]

/-- A controller without addresses to reply for takes no frame from the router. -/
theorem allowArp_of_no_ip (none : c.ipTableForReply.ipCount = 0) :
    allowArp c frame frameSize false = false := by
  simp [allowArp, isIpInTableForReply, none]

theorem allowArp_iff {p : ArpPacket} (shown : p.In frame) (some : frameSize ≠ 0) :
    allowArp c frame frameSize parameter = true ↔
      parameter = true ∨ isIpInTableForReply c p.targetIp = true := by
  simp [allowArp, some, shown.frameType, shown.targetIp]

/-- A well-formed table has a sender to learn. -/
theorem exists_learn (wellFormed : ArpTable.WellFormed config c.arpTable) :
    ∃ ip mac table, c.arpTable.learn config ip mac = .ok table := by
  by_cases empty : c.arpTable.recordCounter = 0
  · have unknown : c.arpTable.find (Bytes.zero 4) = none := by
      rw [ArpTable.find, empty]
      rfl
    exact ⟨_, Bytes.zero 6, _, wellFormed.learn_new unknown (by omega)⟩
  · have known : c.arpTable.find (c.arpTable.ips 0) = some 0 :=
      wellFormed.distinct.find_iff.mpr ⟨Nat.pos_of_ne_zero empty, rfl⟩
    exact ⟨_, Bytes.zero 6, _, wellFormed.learn_known known⟩

/-- The packets of two replies are different if the requests were for different addresses. -/
theorem reply_bytes_ne {p : ArpPacket} {ip : Ip} (other : ip ≠ p.targetIp) (srcMac : Mac) :
    ({ p with targetIp := ip }.reply srcMac).bytes ≠ (p.reply srcMac).bytes := by
  intro same
  simp only [ArpPacket.bytes, ArpPacket.reply, List.append_cancel_left_eq] at same
  exact other (Subtype.ext (List.append_cancel_right same))

/-- A request that is answered, and the same with another target, are told apart. -/
theorem parseFrame_otherTarget_ne {p : ArpPacket} (shown : p.In frame) (request : p.opcode = 0x01)
    (allowed : allowArp c frame frameSize parameter = true) {table : ArpTable}
    (learns : c.arpTable.learn config p.senderIp p.senderMac = .ok table) (outputFrame : Buffer) :
    parseFrame config c frame frameSize parameter (some outputFrame) ≠
      parseFrame config c (otherTarget frame) frameSize parameter (some outputFrame) := by
  intro same
  rw [parseFrame_of_request config shown request allowed outputFrame, learns] at same
  by_cases allowed' : allowArp c (otherTarget frame) frameSize parameter = true
  · -- both frames are answered, to different addresses
    rw [parseFrame_of_request config (in_otherTarget shown) request allowed' outputFrame,
      learns] at same
    have replies := (List.cons.inj (Prod.mk.inj (Except.ok.inj same)).2).1
    refine reply_bytes_ne ?_ c.mac replies.symm
    rw [← shown.targetIp]
    exact target_otherTarget_ne _
  · -- one frame is not answered
    rw [parseFrame, if_neg allowed'] at same
    cases (Prod.mk.inj (Except.ok.inj same)).2

/-- A controller takes frames for some target, unless it has none and comes behind the router. -/
theorem exists_target (takes : ¬ (parameter = false ∧ c.ipTableForReply.ipCount = 0)) :
    ∃ targetIp, parameter = true ∨ isIpInTableForReply c targetIp = true := by
  by_cases any : parameter = true
  · exact ⟨Bytes.zero 4, .inl any⟩
  · refine ⟨c.ipTableForReply.ip 0, .inr (isIpInTableForReply_iff.mpr ?_)⟩
    have registers : c.ipTableForReply.ipCount ≠ 0 := fun none =>
      takes ⟨Bool.eq_false_iff.mpr any, none⟩
    exact List.mem_map.mpr ⟨0, List.mem_range.mpr (Nat.pos_of_ne_zero registers), rfl⟩

/-- **What a controller makes of a frame** depends on the frame only exactly if the frame is whole,
or the controller takes none. -/
theorem parses_iff (wellFormed : ArpTable.WellFormed config c.arpTable) :
    ParsesBytes config c frameSize parameter ↔
      Whole frameSize ∨ (parameter = false ∧ c.ipTableForReply.ipCount = 0) := by
  constructor
  · intro independent
    by_contra short
    obtain ⟨notWhole, takes⟩ := not_or.mp short
    obtain ⟨some, few⟩ := not_or.mp notWhole
    obtain ⟨ip, mac, table, learns⟩ := exists_learn wellFormed
    obtain ⟨targetIp, allowed⟩ := exists_target takes
    let packet : ArpPacket := ⟨Bytes.zero 6, Bytes.zero 6, 0x01, mac, ip, Bytes.zero 6, targetIp⟩
    have shown := in_shownFrame packet
    exact parseFrame_otherTarget_ne shown rfl ((allowArp_iff shown some).mpr allowed) learns
      (fun _ => 0) (independent _ _ _
        ((agree_otherTarget (shownFrame packet)).mono (Nat.le_of_lt_succ (Nat.lt_of_not_le few))))
  · rintro (whole | ⟨rfl, none⟩) frame frame' malloc agree
    · rcases whole with rfl | long
      · rfl
      · exact parseFrame_congr malloc (agree.mono long)
    · unfold parseFrame
      rw [allowArp_of_no_ip none, allowArp_of_no_ip none]
      rfl

end Parsing

end ArpController

/-! ### Both -/

section Both

open EthernetRouter

/-- **Whether the bytes behind a frame matter**: for the dispatch of a pass over the interfaces, and
for a controller in any state it reaches. -/
theorem received_bytes_iff {config : ArpConfig} (positive : 0 < config.arpTableSize) :
    (∀ (router : EthernetRouter) (sizes : IfacePtr → UInt16),
      RoutesBytes router sizes ↔ ∀ it ∈ router.interfacesList, Whole (sizes it).toNat) ∧
    ∀ (start c : ArpController) (events : List ArpController.Event), Fresh start →
      (arp config).run (.ok start) events = .ok c →
      ∀ frameSize parameter, ParsesBytes config c frameSize parameter ↔
        Whole frameSize ∨ (parameter = false ∧ c.ipTableForReply.ipCount = 0) :=
  ⟨routes_iff, fun _ _ _ fresh reached _ _ =>
    parses_iff (wellFormed_reached fresh positive reached)⟩

/-- A controller that replies for 0.0.0.0. -/
def zeroController : ArpController :=
  addIpForArpReply replyConfig sampleController (Bytes.zero 4) (Bytes.zero 4)

theorem received_bytes_iff_sample : ParsesBytes replyConfig zeroController 60 false ↔
    Whole 60 ∨ (false = false ∧ zeroController.ipTableForReply.ipCount = 0) :=
  (received_bytes_iff (by decide)).2 sampleController zeroController
    [.addIpForArpReply (Bytes.zero 4) (Bytes.zero 4)] sampleController_fresh rfl 60 false

/-- The first 20 bytes of a reply: what was behind them decides whether a record is made, and the
router does not drop them either. -/
theorem runt_recorded :
    (arp replyConfig).run (.ok sampleController)
      [.addIpForArpReply (Bytes.zero 4) (Bytes.zero 4)] = .ok zeroController ∧
    Buffer.AgreeBelow 20 (sampleReply 2) (Function.update (sampleReply 2) 21 0) ∧
    (parseFrame replyConfig zeroController (sampleReply 2) 20 false none).map
      (fun parsed => parsed.1.arpTable.recordCounter) = .ok 1 ∧
    (parseFrame replyConfig zeroController (Function.update (sampleReply 2) 21 0) 20 false
      none).map (fun parsed => parsed.1.arpTable.recordCounter) = .ok 0 ∧
    ¬ RoutesBytes sampleRouter fun _ => 20 := by
  refine ⟨rfl, Buffer.agreeBelow_update (by decide) 0, by decide +kernel, by decide +kernel, ?_⟩
  rw [routes_iff]
  intro whole
  rcases whole 0 List.mem_cons_self with empty | long
  · cases empty
  · exact absurd long (by decide)

end Both

end Jblib.Ethutilities
