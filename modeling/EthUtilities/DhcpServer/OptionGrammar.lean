/-
**The options area as clients write it, and as the server reads it.**

* `OptionItem` — a pad byte, or an option of a proper type; `encodeItems` — the area in front of
  `DHCP_END`. `firstOption` — where the first option of a type is.
* **`findDhcpOption_grammar_iff`** — `find_dhcp_option` agrees with the grammar exactly if the bytes
  that it takes for options bring it to the same place: it gives pads and `DHCP_END` a length too.
* `branch` — the message type that `udp_recv_proc` acts on; `udpRecvProc_eq`.
* **`dispatched_iff`** — it is the one of option 53 exactly if the third byte of the options stands
  for the same one.
-/

import EthUtilities.DhcpServer.Leases

namespace Jblib.Ethutilities.DhcpServer

open Library

/-! ### The grammar -/

def dhcpPad : UInt8 := 0

/-- What stands in front of `DHCP_END`. -/
inductive OptionItem
  | pad
  | option (record : DhcpOption) (proper : record.code ≠ dhcpPad ∧ record.code ≠ dhcpEnd)

namespace OptionItem

def encode : OptionItem → List UInt8
  | .pad => [dhcpPad]
  | .option record _ => record.encode

/-- The option has this type. -/
def hasType (attr : UInt8) : OptionItem → Bool
  | .pad => false
  | .option record _ => record.code = attr

end OptionItem

def encodeItems (items : List OptionItem) : List UInt8 := items.flatMap OptionItem.encode

/-- The area up to its end, with anything behind `DHCP_END`. -/
def optionsArea (items : List OptionItem) (trailing : List UInt8) : List UInt8 :=
  encodeItems items ++ (dhcpEnd :: trailing)

/-- The position of the first option of a type. -/
def firstOption (attr : UInt8) : List OptionItem → Option Nat
  | [] => none
  | item :: items =>
    if item.hasType attr then some 0 else (firstOption attr items).map (item.encode.length + ·)

section Grammar

variable {attr : UInt8} {items : List OptionItem}

theorem encodeItems_cons (item : OptionItem) (items : List OptionItem) :
    encodeItems (item :: items) = item.encode ++ encodeItems items := rfl

/-- At the position of the first option of its type there is an option of this type. -/
theorem firstOption_eq_some {position : Nat} (first : firstOption attr items = some position) :
    ∃ option : DhcpOption, option.code = attr ∧ position ≤ (encodeItems items).length ∧
      option.encode <+: (encodeItems items).drop position := by
  induction items generalizing position with
  | nil => cases first
  | cons item items ih =>
    rw [firstOption] at first
    split_ifs at first with here
    · obtain rfl := Option.some.inj first
      cases item with
      | pad => cases here
      | option option proper =>
        exact ⟨option, of_decide_eq_true here, Nat.zero_le _, List.prefix_append _ _⟩
    · obtain ⟨rest, first', rfl⟩ := Option.map_eq_some_iff.mp first
      obtain ⟨option, type, inside, leads⟩ := ih first'
      refine ⟨option, type, ?_, ?_⟩
      · rw [encodeItems_cons, List.length_append]
        omega
      · rw [encodeItems_cons, ← List.drop_drop, List.drop_left]
        exact leads

end Grammar

/-! ### The scan -/

/-- The scan gets to a position: the bytes in front of it are options of other types, whatever they
are meant to be. -/
def ScansTo (attr : UInt8) (front : List UInt8) : Prop :=
  ∃ options, front = encodeOptions options ∧ ∀ option ∈ options, option.code ≠ attr

/-- **When the scan and the grammar agree**: the scan gets to the first option of the type, or, if
there is none, nowhere to anything of the type. -/
def ScanAligned (attr : UInt8) (items : List OptionItem) (trailing : List UInt8) : Prop :=
  match firstOption attr items with
  | some position => ScansTo attr ((encodeItems items).take position)
  | none => ∀ front option, ScansTo attr front → option.code = attr →
      ¬ front ++ DhcpOption.encode option <+: optionsArea items trailing

section Scan

variable {attrs : Buffer} {attr : UInt8} {items : List OptionItem} {trailing : List UInt8}

theorem findDhcpOption_eq_some_iff_scansTo {area : List UInt8} (held : attrs.Holds 0 area)
    {position : Nat} : findDhcpOption attrs area.length attr = some position ↔
      ∃ front option, ScansTo attr front ∧ option.code = attr ∧ front.length = position ∧
        front ++ DhcpOption.encode option <+: area := by
  rw [findDhcpOption_eq_some_iff held]
  constructor
  · rintro ⟨options, option, leads, others, type, rfl⟩
    exact ⟨_, option, ⟨options, rfl, others⟩, type, rfl, encodeOptions_concat options option ▸ leads⟩
  · rintro ⟨_, option, ⟨options, rfl, others⟩, type, rfl, leads⟩
    exact ⟨options, option, (encodeOptions_concat options option).symm ▸ leads, others, type, rfl⟩

/-- **`find_dhcp_option` and the grammar of options.** -/
theorem findDhcpOption_grammar_iff (held : attrs.Holds 0 (optionsArea items trailing)) :
    findDhcpOption attrs (optionsArea items trailing).length attr = firstOption attr items ↔
      ScanAligned attr items trailing := by
  unfold ScanAligned
  cases first : firstOption attr items with
  | none =>
    rw [Option.eq_none_iff_forall_ne_some]
    constructor
    · intro missing front option scans type leads
      exact missing front.length ((findDhcpOption_eq_some_iff_scansTo held).mpr
        ⟨front, option, scans, type, rfl, leads⟩)
    · intro nowhere position found
      obtain ⟨front, option, scans, type, -, leads⟩ :=
        (findDhcpOption_eq_some_iff_scansTo held).mp found
      exact nowhere front option scans type leads
  | some position =>
    obtain ⟨option, type, inside, there⟩ := firstOption_eq_some first
    have front : (optionsArea items trailing).take position =
        (encodeItems items).take position := by
      rw [optionsArea, List.take_append_of_le_length inside]
    rw [findDhcpOption_eq_some_iff_scansTo held]
    dsimp only
    constructor
    · rintro ⟨front', option', scans, -, rfl, leads⟩
      have same : (optionsArea items trailing).take front'.length = front' :=
        (List.prefix_iff_eq_take.mp ((List.prefix_append _ _).trans leads)).symm
      rw [← front, same]
      exact scans
    · intro scans
      refine ⟨_, option, scans, type, List.length_take_of_le inside, ?_⟩
      have behind : option.encode <+: (optionsArea items trailing).drop position := by
        rw [optionsArea, List.drop_append_of_le_length inside]
        exact there.trans (List.prefix_append _ _)
      rw [← front]
      obtain ⟨rest, whole⟩ := behind
      refine ⟨rest, ?_⟩
      rw [List.append_assoc, whole, List.take_append_drop]

/-- The option with the message type. -/
def typeItem (msgType : UInt8) : OptionItem :=
  .option (messageTypeOption msgType)
    ⟨show dhcpMessagetype ≠ dhcpPad by decide, show dhcpMessagetype ≠ dhcpEnd by decide⟩

/-- The memory of an area. -/
def areaMemory (area : List UInt8) : Buffer := Buffer.write (fun _ => 0) 0 area

theorem holds_areaMemory (area : List UInt8) : (areaMemory area).Holds 0 area :=
  Buffer.holds_iff_read.mpr Buffer.read_write_self

/-- A pad byte hides the option behind it; and an option behind `DHCP_END` is found. -/
theorem findDhcpOption_grammar_fails :
    (areaMemory (optionsArea [.pad, typeItem dhcpRequest] (List.replicate 270 0))).Holds 0
        (optionsArea [.pad, typeItem dhcpRequest] (List.replicate 270 0)) ∧
      findDhcpOption (areaMemory (optionsArea [.pad, typeItem dhcpRequest] (List.replicate 270 0)))
          275 dhcpMessagetype ≠ firstOption dhcpMessagetype [.pad, typeItem dhcpRequest] ∧
    (areaMemory (optionsArea [] (0 :: 53 :: 1 :: 1 :: List.replicate 270 0))).Holds 0
        (optionsArea [] (0 :: 53 :: 1 :: 1 :: List.replicate 270 0)) ∧
      findDhcpOption (areaMemory (optionsArea [] (0 :: 53 :: 1 :: 1 :: List.replicate 270 0)))
          275 dhcpMessagetype ≠ firstOption dhcpMessagetype [] :=
  ⟨holds_areaMemory _, by decide +kernel, holds_areaMemory _, by decide +kernel⟩

/-- Two pad bytes are taken for one empty option. -/
theorem findDhcpOption_grammar_sample :
    findDhcpOption (areaMemory (optionsArea [.pad, .pad, typeItem dhcpRequest] []))
        (optionsArea [.pad, .pad, typeItem dhcpRequest] []).length dhcpMessagetype =
      firstOption dhcpMessagetype [.pad, .pad, typeItem dhcpRequest] :=
  (findDhcpOption_grammar_iff (holds_areaMemory _)).mpr
    ⟨[⟨dhcpPad, [], show 0 < 256 by decide⟩], rfl, by simp; decide⟩

end Scan

/-! ### The message type -/

/-- The message types the server acts on. -/
inductive Branch
  | discover
  | request
  | inform
  deriving DecidableEq

/-- The `switch` over the message type. -/
def branchOf (msgType : UInt8) : Option Branch :=
  if msgType = dhcpDiscover then some .discover
  else if msgType = dhcpRequest then some .request
  else if msgType = dhcpInform then some .inform
  else none

/-- What stands in the branches. -/
def handle (s : DhcpServer) (p : Packet) : Option Branch → DhcpServer × Option Reply
  | some .discover => discover s p
  | some .request => request s p
  | some .inform => inform s p
  | none => (s, none)

/-- The branch that `udp_recv_proc` takes. -/
def branch (s : DhcpServer) (p : Packet) : Option Branch := branchOf (messageType (received s p))

theorem udpRecvProc_eq (s : DhcpServer) (p : Packet) :
    udpRecvProc s p = handle { s with dhcpData := received s p } p (branch s p) := by
  unfold udpRecvProc branch branchOf
  dsimp only
  split_ifs <;> rfl

/-- The packet has these options, up to `DHCP_END` and inside the options area. -/
structure Message (p : Packet) (items : List OptionItem) : Prop where
  options : encodeItems items ++ [dhcpEnd] <+: p.payload.drop dpOptions
  inside : (encodeItems items ++ [dhcpEnd]).length ≤ dpOptionsSize

/-- The values of the options 53. -/
def messageTypes (items : List OptionItem) : List (List UInt8) :=
  items.flatMap fun item => match item with
    | .pad => []
    | .option record _ => if record.code = dhcpMessagetype then [record.value] else []

section Dispatch

variable {s : DhcpServer} {p : Packet} {items : List OptionItem}

/-- The byte the server looks at: of the packet, or what a packet too short for it leaves. -/
theorem messageType_received (s : DhcpServer) (p : Packet) : messageType (received s p) =
    (p.payload.drop dpOptions).getD 2 (s.dhcpData (dpOptions + 2)) := by
  rw [messageType, received, Buffer.write, if_pos (Nat.zero_le _), Nat.sub_zero]
  rw [List.getD_eq_getElem?_getD, List.getD_eq_getElem?_getD, List.getElem?_take,
    List.getElem?_drop]
  show (if 242 < min p.payload.length 516 then p.payload[242]? else none).getD _ =
    p.payload[242]?.getD _
  by_cases inside : 242 < p.payload.length
  · rw [if_pos (by omega)]
  · rw [if_neg (by omega), List.getElem?_eq_none (Nat.le_of_not_lt inside)]

theorem messageType_of_message (message : Message p items) {byte : UInt8}
    (third : (encodeItems items)[2]? = some byte) : messageType (received s p) = byte := by
  obtain ⟨rest, whole⟩ := message.options
  have inside : 2 < (encodeItems items).length := (List.getElem?_eq_some_iff.mp third).1
  rw [messageType_received, ← whole, List.append_assoc, List.getD_eq_getElem?_getD,
    List.getElem?_append_left inside, third]
  rfl

/-- An option 53 of length 1 makes the options at least 3 bytes long. -/
theorem length_of_messageTypes {v : UInt8} (types : [v] ∈ messageTypes items) :
    3 ≤ (encodeItems items).length := by
  obtain ⟨item, member, here⟩ := List.mem_flatMap.mp types
  obtain ⟨front, behind, rfl⟩ := List.append_of_mem member
  have size : item.encode.length = 3 := by
    cases item with
    | pad => cases here
    | option record proper =>
      dsimp only at here
      split_ifs at here with type
      · have value := List.mem_singleton.mp here
        show record.encode.length = 3
        rw [DhcpOption.length_encode, ← value]
        rfl
      · cases here
  rw [encodeItems, List.flatMap_append, List.flatMap_cons, List.length_append, List.length_append,
    size]
  omega

/-- **When the message type decides.** -/
theorem dispatched_iff (message : Message p items) :
    (∀ v, messageTypes items = [[v]] →
      (branch s p = branchOf v ↔ branchOf ((encodeItems items).getD 2 0) = branchOf v)) ∧
    (messageTypes items = [] → (branch s p = none ↔
      branchOf ((p.payload.drop dpOptions).getD 2 (s.dhcpData (dpOptions + 2))) = none)) := by
  constructor
  · intro v types
    have inside : 2 < (encodeItems items).length :=
      @length_of_messageTypes items v (types ▸ List.mem_singleton_self _)
    have third : (encodeItems items)[2]? = some ((encodeItems items).getD 2 0) := by
      rw [List.getD_eq_getElem?_getD, List.getElem?_eq_getElem inside]
      rfl
    rw [branch, messageType_of_message message third]
  · intro _
    rw [branch, messageType_received]

end Dispatch

/-- A parameter request list, for the subnet mask and the router. -/
def parameterItem : OptionItem :=
  .option ⟨55, [dhcpSubnetmask, dhcpRouter], show 2 < 256 by decide⟩ (by decide)

def messagePacket (items : List OptionItem) : Packet :=
  clientPacket (Bytes.zero 4) noMac (encodeItems items ++ [dhcpEnd])

/-- The parameter list in front makes a `DHCP_REQUEST`, and a message without a type, a
`DHCP_DISCOVER`. -/
theorem dispatched_wrongly :
    (Message (messagePacket [parameterItem, typeItem dhcpRequest])
        [parameterItem, typeItem dhcpRequest] ∧
      messageTypes [parameterItem, typeItem dhcpRequest] = [[dhcpRequest]] ∧
      branch sampleServer (messagePacket [parameterItem, typeItem dhcpRequest]) ≠
        branchOf dhcpRequest) ∧
    (Message (messagePacket [parameterItem]) [parameterItem] ∧ messageTypes [parameterItem] = [] ∧
      branch sampleServer (messagePacket [parameterItem]) ≠ none) :=
  ⟨⟨⟨by decide +kernel, by decide⟩, by decide, by decide +kernel⟩,
    ⟨⟨by decide +kernel, by decide⟩, by decide, by decide +kernel⟩⟩

theorem dispatched_sample :
    branch sampleServer (messagePacket [typeItem dhcpRequest, parameterItem]) =
        branchOf dhcpRequest ∧
      branch sampleServer (messagePacket [.pad, .pad]) = none :=
  ⟨((@dispatched_iff sampleServer _ [typeItem dhcpRequest, parameterItem]
      ⟨by decide +kernel, by decide⟩).1 dhcpRequest (by decide)).mpr (by decide),
    ((@dispatched_iff sampleServer _ [.pad, .pad] ⟨by decide +kernel, by decide⟩).2 rfl).mpr
      (by decide +kernel)⟩

end Jblib.Ethutilities.DhcpServer
