/-
**What an earlier packet leaves in `dhcp_data_`.**

A packet is copied over the bytes of the one before it or of the reply to it, and nothing clears
them: behind a short packet they are still there, and the server does not know where it ends.

* `LeftOver` — the contents that packets and replies can leave. `Independent` — they do not matter
  to a packet.
* `handle_agree` — in two memories that agree on `DHCP_TYPE` a packet has the same effect and the
  same reply.
* `last_reply` — the last byte of `DHCP_TYPE` is never written, and sent.
* **`independent_iff`** — what was left does not matter exactly if the packet covers all of it, or
  is not answered whatever was left.
-/

import EthUtilities.DhcpServer.OptionGrammar

namespace Jblib.Ethutilities.DhcpServer

open Library

/-! ### Left-over contents -/

/-- What packets and replies can leave in `dhcp_data_` of a server. -/
def LeftOver (data : Buffer) : Prop :=
  ∃ ipAddr domain startIp ipCount memory s packets,
    construct ipAddr domain startIp ipCount memory = some s ∧
      (dhcp.run s packets).dhcpData = data

/-- The leases and the reply are the same. -/
def SameResult (result result' : DhcpServer × Option Reply) : Prop :=
  result.1.config = result'.1.config ∧ result.2 = result'.2

/-- **The packet alone decides** what becomes of the leases and which reply is sent. -/
def Independent (payload : List UInt8) : Prop :=
  ∀ s s' : DhcpServer, s.config = s'.config → LeftOver s.dhcpData → LeftOver s'.dhcpData →
    ∀ port pbufAlloc, SameResult (udpRecvProc s ⟨payload, port, pbufAlloc⟩)
      (udpRecvProc s' ⟨payload, port, pbufAlloc⟩)

theorem leftOver_run (packets : List Packet) : LeftOver (dhcp.run sampleServer packets).dhcpData :=
  ⟨_, _, _, _, _, sampleServer, packets, (Option.some_get _).symm, rfl⟩

/-- A packet that the server ignores can leave anything. -/
theorem leftOver_of_ignored {data : Buffer} (ignored : branchOf (messageType data) = none)
    (inside : ∀ i, dhcpTypeSize ≤ i → data i = 0) : LeftOver data := by
  have copied : received sampleServer ⟨data.read 0 dhcpTypeSize, 68, true⟩ = data := by
    funext i
    show Buffer.write _ 0 ((data.read 0 dhcpTypeSize).take _) i = _
    rw [Buffer.length_read, Nat.min_self, List.take_of_length_le (Nat.le_of_eq Buffer.length_read)]
    by_cases here : i < dhcpTypeSize
    · exact Buffer.write_read_eq here
    · rw [inside i (Nat.le_of_not_lt here), Buffer.write_after]
      · rfl
      · rw [Buffer.length_read]
        omega
  have left := leftOver_run [⟨data.read 0 dhcpTypeSize, 68, true⟩]
  rw [Machine.run_cons, Machine.run_nil, dhcp] at left
  dsimp only at left
  rw [udpRecvProc_eq, branch, copied, ignored] at left
  exact left

/-! ### What the server looks at -/

section Agreement

variable {data data' : Buffer}

theorem messageType_agree (agree : Buffer.AgreeBelow dhcpTypeSize data data') :
    messageType data = messageType data' :=
  agree (dpOptions + 2) (by decide)

theorem hardwareAddress_agree (agree : Buffer.AgreeBelow dhcpTypeSize data data') :
    hardwareAddress data = hardwareAddress data' :=
  agree.field (by decide)

theorem buildReply_agree (agree : Buffer.AgreeBelow dhcpTypeSize data data') (config : DhcpConfig)
    (msgType : UInt8) (entry : DhcpEntry) (yiaddr : Ip) :
    Buffer.AgreeBelow dhcpTypeSize (buildReply data config msgType entry yiaddr)
      (buildReply data' config msgType entry yiaddr) := by
  unfold buildReply
  dsimp only
  rw [fillOptions_eq, fillOptions_eq]
  exact ((((((agree.write _ _).write _ _).write _ _).write _ _).write _ _).write _ _).write _ _

theorem sendReply_agree (agree : Buffer.AgreeBelow dhcpTypeSize data data') (p : Packet) :
    sendReply data p = sendReply data' p :=
  congrArg (Reply.mk · p.port) (agree.read (Nat.le_refl _))

/-- The requested address is among the options. -/
theorem requestedAddress_agree (agree : Buffer.AgreeBelow dhcpTypeSize data data') :
    requestedAddress data = requestedAddress data' := by
  have fits : dpOptions + dpOptionsSize ≤ dhcpTypeSize := by decide
  have same : ∀ i < dpOptionsSize, (data.shift dpOptions) i = (data'.shift dpOptions) i :=
    fun i inside => agree (dpOptions + i) (by omega)
  unfold requestedAddress
  rw [← findDhcpOption_congr same]
  cases place : findDhcpOption (data.shift dpOptions) dpOptionsSize dhcpIpaddress with
  | none => rfl
  | some ptr =>
    have inside := findDhcpOption_inside place
    dsimp only
    rw [← same (ptr + 1) (by omega)]
    by_cases four : (data.shift dpOptions) (ptr + 1) = 4
    · have size : (4 : UInt8).toNat = 4 := rfl
      rw [four, size] at inside
      rw [if_neg (not_not.mpr four), if_neg (not_not.mpr four)]
      refine congrArg some (Subtype.ext (Buffer.read_eq_iff.mpr fun i before => ?_))
      exact same (ptr + 2 + i) (by omega)
    · rw [if_pos four, if_pos four]

end Agreement

/-! ### The same result -/

section SameResult

variable {data data' : Buffer} {config : DhcpConfig} {p : Packet}

theorem discover_agree (agree : Buffer.AgreeBelow dhcpTypeSize data data') :
    SameResult (discover ⟨data, config⟩ p) (discover ⟨data', config⟩ p) := by
  unfold discover
  dsimp only
  rw [hardwareAddress_agree agree]
  cases config.entryByMac (hardwareAddress data') <|> config.vacantAddress with
  | none => exact ⟨rfl, rfl⟩
  | some i =>
    dsimp only
    rw [sendReply_agree
      (buildReply_agree agree config dhcpOffer (config.entries i) (config.entries i).addr) p]
    exact ⟨rfl, rfl⟩

theorem acknowledge_agree (agree : Buffer.AgreeBelow dhcpTypeSize data data') (ip : Ip)
    (clearCiaddr : Bool) :
    SameResult (acknowledge ⟨data, config⟩ p ip clearCiaddr)
      (acknowledge ⟨data', config⟩ p ip clearCiaddr) := by
  unfold acknowledge
  dsimp only
  rw [hardwareAddress_agree agree]
  cases (config.freeRegistered (hardwareAddress data')).entryByIp ip with
  | none => exact ⟨rfl, rfl⟩
  | some i =>
    dsimp only
    have built := buildReply_agree agree (config.freeRegistered (hardwareAddress data')) dhcpAck
      ((config.freeRegistered (hardwareAddress data')).entries i) ip
    have cleared := built.write dpCiaddr [0, 0, 0, 0]
    by_cases vacant : (config.freeRegistered (hardwareAddress data')).isVacant i = true
    · rw [if_pos vacant, if_pos vacant]
      by_cases memory : p.pbufAlloc = true
      · rw [if_pos memory, if_pos memory]
        cases clearCiaddr with
        | true => exact ⟨rfl, congrArg some (sendReply_agree cleared p)⟩
        | false => exact ⟨rfl, congrArg some (sendReply_agree built p)⟩
      · rw [if_neg memory, if_neg memory]
        exact ⟨rfl, rfl⟩
    · rw [if_neg vacant, if_neg vacant]
      exact ⟨rfl, rfl⟩

/-- **What the server does** it does with the bytes of `DHCP_TYPE`. -/
theorem handle_agree (agree : Buffer.AgreeBelow dhcpTypeSize data data') (branch : Option Branch) :
    SameResult (handle ⟨data, config⟩ p branch) (handle ⟨data', config⟩ p branch) := by
  match branch with
  | none => exact ⟨rfl, rfl⟩
  | some .discover => exact discover_agree agree
  | some .inform =>
    show SameResult (acknowledge _ p (data.field dpCiaddr 4) true)
      (acknowledge _ p (data'.field dpCiaddr 4) true)
    rw [agree.field (by decide)]
    exact acknowledge_agree agree _ true
  | some .request =>
    show SameResult (request _ p) (request _ p)
    unfold request
    dsimp only
    rw [requestedAddress_agree agree]
    cases requestedAddress data' with
    | none => exact ⟨rfl, rfl⟩
    | some ip => exact acknowledge_agree agree ip false

end SameResult

/-! ### The last byte -/

section Last

variable {data : Buffer} {config : DhcpConfig} {msgType : UInt8} {entry : DhcpEntry} {yiaddr : Ip}

theorem last_buildReply : buildReply data config msgType entry yiaddr 515 = data 515 := by
  have inside := @length_replyOptions config msgType entry
  have whole : dpOptions + dpOptionsSize = 515 := rfl
  rw [buildReply, fillOptions_eq, Buffer.write_after (by omega),
    Buffer.write_after (by rw [List.length_replicate]; decide), Buffer.write_after (by decide),
    Buffer.write_after (by rw [yiaddr.property]; decide), Buffer.write_after (by decide),
    Buffer.write_after (by decide), Buffer.write_after (by decide)]

/-- **The last byte of a reply** is what was there before. -/
theorem last_reply {s : DhcpServer} {p : Packet} {reply : Reply} (branch : Option Branch)
    (replied : (handle s p branch).2 = some reply) : reply.payload.getD 515 0 = s.dhcpData 515 := by
  have sent : ∀ data : Buffer, (sendReply data p).payload.getD 515 0 = data 515 := fun data => by
    have inside : 515 < (data.read 0 dhcpTypeSize).length := by
      rw [Buffer.length_read]
      decide
    show (data.read 0 dhcpTypeSize).getD 515 0 = _
    rw [List.getD_eq_getElem?_getD, List.getElem?_eq_getElem inside, Buffer.getElem_read,
      Nat.zero_add]
    rfl
  have acknowledged : ∀ ip clearCiaddr, (acknowledge s p ip clearCiaddr).2 = some reply →
      reply.payload.getD 515 0 = s.dhcpData 515 := fun ip clearCiaddr acked => by
    unfold acknowledge at acked
    dsimp only at acked
    cases found : (s.config.freeRegistered (hardwareAddress s.dhcpData)).entryByIp ip with
    | none =>
      rw [found] at acked
      cases acked
    | some i =>
      rw [found] at acked
      dsimp only at acked
      split_ifs at acked
      · obtain rfl := Option.some.inj acked
        rw [sent, Buffer.write_after (by decide), last_buildReply]
      · obtain rfl := Option.some.inj acked
        rw [sent, last_buildReply]
  match branch with
  | none => cases replied
  | some .discover =>
    change (discover s p).2 = some reply at replied
    unfold discover at replied
    cases found : (s.config.entryByMac (hardwareAddress s.dhcpData) <|> s.config.vacantAddress) with
    | none =>
      rw [found] at replied
      cases replied
    | some i =>
      rw [found] at replied
      dsimp only at replied
      split_ifs at replied
      obtain rfl := Option.some.inj replied
      rw [sent, last_buildReply]
  | some .inform => exact acknowledged _ _ replied
  | some .request =>
    change (request s p).2 = some reply at replied
    unfold request at replied
    cases wants : requestedAddress s.dhcpData with
    | none =>
      rw [wants] at replied
      cases replied
    | some ip =>
      rw [wants] at replied
      exact acknowledged _ _ replied

end Last

/-! ### Answers -/

/-- A pool of one vacant address. -/
def openConfig (ip : Ip) : DhcpConfig :=
  ⟨Bytes.zero 4, 67, Bytes.zero 4, none, 1, fun _ => ⟨noMac, ip, Bytes.zero 4, 0⟩⟩

/-- The message can be answered with this address. -/
def Asks (data : Buffer) (ip : Ip) : Branch → Prop
  | .discover => True
  | .request => requestedAddress data = some ip
  | .inform => data.field dpCiaddr 4 = ip

theorem Asks.congr {data data' : Buffer} {ip : Ip} {branch : Branch}
    (agree : Buffer.AgreeBelow dhcpTypeSize data data') (asks : Asks data ip branch) : Asks data' ip branch := by
  cases branch with
  | discover => trivial
  | request =>
    have same : requestedAddress data = requestedAddress data' := requestedAddress_agree agree
    exact same.symm.trans asks
  | inform => exact (agree.field (by decide)).symm.trans asks

theorem openConfig_answers {data : Buffer} {p : Packet} {ip : Ip} {branch : Branch}
    (memory : p.pbufAlloc = true) (asks : Asks data ip branch) :
    ∃ reply, (handle ⟨data, openConfig ip⟩ p (some branch)).2 = some reply := by
  have inPool : (openConfig ip).entryByIp ip = some 0 :=
    Slots.search_eq_some_iff.mpr ⟨Nat.zero_lt_one, decide_eq_true rfl, by simp⟩
  have grants : Grants (openConfig ip) p (hardwareAddress data) ip 0 := ⟨memory, inPool, .inl rfl⟩
  have acked : ∀ clearCiaddr, ∃ reply,
      (acknowledge ⟨data, openConfig ip⟩ p ip clearCiaddr).2 = some reply := fun clearCiaddr => by
    obtain ⟨reply, -, result⟩ := acknowledge_granted (s := ⟨data, openConfig ip⟩) clearCiaddr grants
    exact ⟨_, congrArg Prod.snd result⟩
  cases branch with
  | discover =>
    have vacant : (openConfig ip).vacantAddress = some 0 := rfl
    show ∃ reply, (discover _ p).2 = some reply
    unfold discover
    dsimp only
    rw [vacant]
    cases (openConfig ip).entryByMac (hardwareAddress data) <;> exact ⟨_, if_pos memory⟩
  | request =>
    show ∃ reply, (request _ p).2 = some reply
    unfold request
    rw [asks]
    exact acked false
  | inform =>
    show ∃ reply, (acknowledge _ p (data.field dpCiaddr 4) true).2 = some reply
    rw [asks]
    exact acked true

/-! ### The packet alone -/

/-- **When the packet alone decides**: it covers all of `dhcp_data_`; or it has a message type that
the server ignores, or is a `DHCP_REQUEST` in which no address is found whatever is behind it. -/
def Determined (payload : List UInt8) : Prop :=
  dhcpTypeSize ≤ payload.length ∨ dpOptions + 2 < payload.length ∧
    match branchOf (payload.getD (dpOptions + 2) 0) with
    | none => True
    | some .request => ∀ data : Buffer, data.Holds 0 payload → requestedAddress data = none
    | some _ => False

section Independence

variable {payload : List UInt8} {left left' : Buffer} {config : DhcpConfig} {port : UInt16}
  {pbufAlloc : Bool}

theorem received_of_le (inside : payload.length ≤ dhcpTypeSize) (s : DhcpServer) :
    received s ⟨payload, port, pbufAlloc⟩ = s.dhcpData.write 0 payload := by
  rw [received, Nat.min_eq_left inside, List.take_length]

/-- A packet that is answered sends the last byte of what was left. -/
theorem last_alike (independent : Independent payload) (short : payload.length < dhcpTypeSize)
    (leftOver : LeftOver left) (leftOver' : LeftOver left') {ip : Ip} {type : Branch}
    (dispatched : branchOf (messageType (left.write 0 payload)) = some type)
    (asks : Asks (left.write 0 payload) ip type) : left 515 = left' 515 := by
  have copied : ∀ s : DhcpServer, received s ⟨payload, 68, true⟩ = s.dhcpData.write 0 payload :=
    received_of_le (Nat.le_of_lt short)
  have last : ∀ data : Buffer, data.write 0 payload 515 = data 515 := fun data =>
    Buffer.write_after (by
      rw [Nat.zero_add]
      exact Nat.le_of_lt_succ short)
  have same := (independent ⟨left, openConfig ip⟩ ⟨left', openConfig ip⟩ rfl leftOver leftOver' 68
    true).2
  rw [udpRecvProc_eq, udpRecvProc_eq, branch, copied, copied, dispatched] at same
  obtain ⟨reply, replied⟩ := @openConfig_answers _ ⟨payload, 68, true⟩ ip type rfl asks
  have byte := last_reply _ replied
  have byte' := last_reply _ (same.symm.trans replied)
  dsimp only at byte byte'
  rw [last] at byte byte'
  exact byte.symm.trans byte'

/-- Anything but a message type, and inside of `DHCP_TYPE`. -/
def untyped (data : Buffer) : Buffer := fun i =>
  if i < dhcpTypeSize ∧ i ≠ dpOptions + 2 then data i else 0

theorem leftOver_untyped (data : Buffer) : LeftOver (untyped data) :=
  leftOver_of_ignored (by rw [messageType, untyped, if_neg (by simp)]; rfl)
    fun i behind => if_neg fun inside => Nat.not_lt.mpr behind inside.1

theorem messageType_of_long (long : dpOptions + 2 < payload.length) (s : DhcpServer) :
    messageType (received s ⟨payload, port, pbufAlloc⟩) = payload.getD (dpOptions + 2) 0 := by
  rw [messageType_received]
  dsimp only
  rw [List.getD_eq_getElem?_getD, List.getD_eq_getElem?_getD, List.getElem?_drop,
    List.getElem?_eq_getElem long]
  rfl

/-- A packet that has its message type, but not all of `DHCP_TYPE`, asks for nothing if it alone
decides. -/
theorem not_asks (independent : Independent payload) (short : payload.length < dhcpTypeSize)
    (long : dpOptions + 2 < payload.length) {data : Buffer} (held : data.Holds 0 payload) {ip : Ip}
    {type : Branch} (dispatched : branchOf (payload.getD (dpOptions + 2) 0) = some type) :
    ¬ Asks data ip type := by
  intro asks
  have agree : Buffer.AgreeBelow dhcpTypeSize data ((untyped data).write 0 payload) := by
    intro i inside
    by_cases covered : i < payload.length
    · rw [← Buffer.holds_iff_read.mp held, Buffer.write_read_eq covered]
    · rw [Buffer.write_after (by omega)]
      exact (if_pos ⟨inside, by omega⟩).symm
  have type' : messageType data = payload.getD (dpOptions + 2) 0 := by
    rw [← @messageType_of_long payload 68 true long ⟨untyped data, openConfig ip⟩,
      received_of_le (Nat.le_of_lt short), messageType_agree agree]
  have same : untyped data 515 = untyped (fun i => data i + 1) 515 := by
    refine last_alike independent short (leftOver_untyped data) (leftOver_untyped _) ?_
      (asks.congr agree)
    rw [← messageType_agree agree, type', dispatched]
  have byte : ∀ data, untyped data 515 = data 515 := fun data => if_pos (by decide)
  rw [byte, byte] at same
  exact absurd same (by simp)

theorem received_agree (full : dhcpTypeSize ≤ payload.length) (s s' : DhcpServer) :
    Buffer.AgreeBelow dhcpTypeSize (received s ⟨payload, port, pbufAlloc⟩)
      (received s' ⟨payload, port, pbufAlloc⟩) :=
  (Buffer.agreeBelow_write _ _ _).mono (by
    rw [List.length_take, Nat.min_eq_right full]
    exact Nat.le_min.mpr ⟨Nat.le_refl _, full⟩)

/-- **Which packets alone decide.** -/
theorem independent_iff (payload : List UInt8) : Independent payload ↔ Determined payload := by
  constructor
  · intro independent
    by_contra undetermined
    rw [Determined, not_or, Nat.not_le] at undetermined
    obtain ⟨short, rest⟩ := undetermined
    by_cases long : dpOptions + 2 < payload.length
    · rw [and_iff_right long] at rest
      have nothing : ∀ {data : Buffer} {ip : Ip} {type : Branch}, data.Holds 0 payload →
          branchOf (payload.getD (dpOptions + 2) 0) = some type → ¬ Asks data ip type :=
        fun held => not_asks independent short long held
      cases dispatched : branchOf (payload.getD (dpOptions + 2) 0) with
      | none => exact rest (by rw [dispatched]; trivial)
      | some type =>
        rw [dispatched] at rest
        have alone := holds_areaMemory payload
        cases type with
        | discover => exact @nothing _ (Bytes.zero 4) _ alone dispatched trivial
        | inform => exact nothing alone dispatched rfl
        | request =>
          refine rest fun data held => Option.eq_none_iff_forall_ne_some.mpr fun ip asks => ?_
          exact nothing held dispatched asks
    · have byte := @last_alike _ _ _ independent short
        (leftOver_run [informPacket (Bytes.zero 4) noMac]) (leftOver_untyped fun _ => 1) _ .inform
        ?_ rfl
      · exact absurd byte (by decide +kernel)
      · rw [messageType, Buffer.write_after (by omega)]
        decide +kernel
  · rintro determined ⟨left, config⟩ ⟨left', config'⟩ same - - port pbufAlloc
    obtain rfl : config = config' := same
    rw [udpRecvProc_eq, udpRecvProc_eq, branch, branch]
    by_cases full : dhcpTypeSize ≤ payload.length
    · have agree := @received_agree payload port pbufAlloc full ⟨left, config⟩ ⟨left', config⟩
      rw [messageType_agree agree]
      exact handle_agree agree _
    · obtain ⟨long, rest⟩ := determined.resolve_left full
      have held : ∀ s : DhcpServer, (received s ⟨payload, port, pbufAlloc⟩).Holds 0 payload :=
        fun s => by
          rw [received_of_le (Nat.le_of_not_le full)]
          exact Buffer.holds_iff_read.mpr Buffer.read_write_self
      rw [messageType_of_long long, messageType_of_long long]
      cases type : branchOf (payload.getD (dpOptions + 2) 0) with
      | none => exact ⟨rfl, rfl⟩
      | some type' =>
        rw [type] at rest
        cases type' with
        | discover => exact rest.elim
        | inform => exact rest.elim
        | request =>
          have unanswered : ∀ s : DhcpServer,
              request { s with dhcpData := received s ⟨payload, port, pbufAlloc⟩ }
                ⟨payload, port, pbufAlloc⟩ =
              ({ s with dhcpData := received s ⟨payload, port, pbufAlloc⟩ }, none) := fun s => by
            rw [request]
            dsimp only
            rw [rest _ (held s)]
          show SameResult (request _ _) (request _ _)
          rw [unanswered, unanswered]
          exact ⟨rfl, rfl⟩

end Independence

theorem config_of_ignored {s : DhcpServer} {p : Packet} (ignored : branch s p = none) :
    (dhcp.run s [p]).config = s.config := by
  show (udpRecvProc s p).1.config = s.config
  rw [udpRecvProc_eq, ignored]
  rfl

/-- A `DHCP_DECLINE` (4), which the server ignores. -/
def declinePacket (ip : Ip) : Packet :=
  clientPacket (Bytes.zero 4) (sampleMac 1)
    ([dhcpMessagetype, 1, 4] ++ (dhcpIpaddress :: 4 :: ip.val) ++ [dhcpEnd])

/-- A `DHCP_REQUEST` of 243 bytes, without an address. Behind the first client's packet it is for
the address that was declined, and acknowledged. -/
theorem earlier_packet_matters :
    let s := dhcp.run sampleServer [declinePacket (sampleIp 2)]
    let s' := dhcp.run sampleServer [declinePacket (sampleIp 9)]
    let p : Packet :=
      ⟨(clientMessage (Bytes.zero 4) (sampleMac 3) [dhcpMessagetype, 1, dhcpRequest]).read 0 243,
        68, true⟩
    s.config = s'.config ∧ LeftOver s.dhcpData ∧ LeftOver s'.dhcpData ∧
      (udpRecvProc s p).2 ≠ (udpRecvProc s' p).2 := by
  have ignored : branch sampleServer (declinePacket (sampleIp 2)) = none := by decide +kernel
  have ignored' : branch sampleServer (declinePacket (sampleIp 9)) = none := by decide +kernel
  refine ⟨?_, leftOver_run _, leftOver_run _, by decide +kernel⟩
  exact (config_of_ignored ignored).trans (config_of_ignored ignored').symm

end Jblib.Ethutilities.DhcpServer
