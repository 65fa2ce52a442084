/-
**What a DHCP reply contains.**

* `replyOptions` — the options of a reply; **`fillOptions_eq`**: `fill_options` writes their
  encoding and `DHCP_END` at the start of the options area, `length_fillOptions`: inside it.
* `IsReply` — message type, offered address and client hardware address of a block of reply bytes;
  `isReply_buildReply` and `IsReply.clearCiaddr` for the two ways the server builds one.
-/

import EthUtilities.DhcpServer.Server

namespace Jblib.Ethutilities.DhcpServer

open Library

/-! ### Options -/

/-- An option whose value is an array of 4 bytes. -/
def optionOf (code : UInt8) (value : Bytes 4) : DhcpOption :=
  ⟨code, value.val, by rw [value.property]; decide⟩

def messageTypeOption (msgType : UInt8) : DhcpOption :=
  ⟨dhcpMessagetype, [msgType], show 1 < 256 by decide⟩

def domainOption (domain : Domain) : DhcpOption :=
  ⟨dhcpDnsdomain, domain.val, Nat.lt_of_le_of_lt domain.property (by decide)⟩

def leaseBytes (lease : UInt32) : Bytes 4 :=
  ⟨[(lease >>> 24).toUInt8, (lease >>> 16).toUInt8, (lease >>> 8).toUInt8, lease.toUInt8], rfl⟩

/-- The options of a reply, in order. -/
def replyOptions (config : DhcpConfig) (msgType : UInt8) (entry : DhcpEntry) : List DhcpOption :=
  [messageTypeOption msgType, optionOf dhcpServerid config.addr,
    optionOf dhcpLeasetime (leaseBytes entry.lease), optionOf dhcpSubnetmask entry.subnet] ++
  (if config.addr ≠ Bytes.zero 4 then [optionOf dhcpRouter config.addr] else []) ++
  (match config.domain with
    | some domain => [domainOption domain]
    | none => []) ++
  (if config.dns ≠ Bytes.zero 4 then [optionOf dhcpDnsserver config.dns] else [])

theorem encode_optionOf (code : UInt8) (value : Bytes 4) :
    (optionOf code value).encode = code :: 4 :: value.val := by
  show code :: UInt8.ofNat value.val.length :: value.val = _
  rw [value.property]
  rfl

section Options

variable {data : Buffer} {config : DhcpConfig} {msgType : UInt8} {entry : DhcpEntry}

/-- `fill_options` has put these options and its pointer stands behind them. -/
def Filled (data : Buffer) (options : List DhcpOption) (ptr : Buffer × Nat) : Prop :=
  ptr = (data.write dpOptions (encodeOptions options), dpOptions + (encodeOptions options).length)

theorem Filled.start (data : Buffer) : Filled data [] (data, dpOptions) := by
  rw [Filled, encodeOptions, List.flatMap_nil, Buffer.write_nil]
  rfl

variable {options : List DhcpOption} {ptr : Buffer × Nat}

theorem put_put (first second : List UInt8) :
    put (put ptr first) second = put ptr (first ++ second) := by
  show (_, _) = (_, _)
  dsimp only [put]
  rw [Buffer.write_write, List.length_append, Nat.add_assoc]

theorem Filled.option (filled : Filled data options ptr) (option : DhcpOption) :
    Filled data (options ++ [option]) (put ptr option.encode) := by
  obtain rfl := filled
  show (_, _) = (_, _)
  dsimp only
  rw [Buffer.write_write, encodeOptions_concat, List.length_append, Nat.add_assoc]

/-- Type and length first, then the value. -/
theorem Filled.array (filled : Filled data options ptr) (code : UInt8) (value : Bytes 4) :
    Filled data (options ++ [optionOf code value]) (put (put ptr [code, 4]) value.val) := by
  rw [put_put]
  have filled' := filled.option (optionOf code value)
  rw [encode_optionOf] at filled'
  exact filled'

/-- An option that is only there under a condition. -/
theorem Filled.arrayIf (filled : Filled data options ptr) (code : UInt8) (value : Bytes 4)
    (condition : Prop) [Decidable condition] :
    Filled data (options ++ if condition then [optionOf code value] else [])
      (if condition then put (put ptr [code, 4]) value.val else ptr) := by
  by_cases holds : condition
  · rw [if_pos holds, if_pos holds]
    exact filled.array code value
  · rw [if_neg holds, if_neg holds, List.append_nil]
    exact filled

theorem Filled.domain (filled : Filled data options ptr) (domain : Option Domain) :
    Filled data (options ++ match domain with
        | some domain => [domainOption domain]
        | none => [])
      (match domain with
        | some domain => put (put ptr [dhcpDnsdomain, UInt8.ofNat domain.val.length]) domain.val
        | none => ptr) := by
  cases domain with
  | none =>
    rw [List.append_nil]
    exact filled
  | some domain =>
    dsimp only
    rw [put_put]
    exact filled.option (domainOption domain)

theorem Filled.finish (filled : Filled data options ptr) :
    (put ptr [dhcpEnd]).1 = data.write dpOptions (encodeOptions options ++ [dhcpEnd]) := by
  obtain rfl := filled
  exact Buffer.write_write

/-- **`fill_options`** writes the encoded options and `DHCP_END`. -/
theorem fillOptions_eq : fillOptions data config msgType entry =
    data.write dpOptions (encodeOptions (replyOptions config msgType entry) ++ [dhcpEnd]) := by
  have server := ((Filled.start data).option (messageTypeOption msgType)).array dhcpServerid
    config.addr
  have fixed := (server.option (optionOf dhcpLeasetime (leaseBytes entry.lease))).array
    dhcpSubnetmask entry.subnet
  have router := fixed.arrayIf dhcpRouter config.addr (config.addr ≠ Bytes.zero 4)
  have filled := (router.domain config.domain).arrayIf dhcpDnsserver config.dns
    (config.dns ≠ Bytes.zero 4)
  exact filled.finish

theorem length_arrayIf (code : UInt8) (value : Bytes 4) (condition : Prop)
    [Decidable condition] :
    (encodeOptions (if condition then [optionOf code value] else [])).length ≤ 6 := by
  by_cases holds : condition
  · rw [if_pos holds]
    show ((optionOf code value).encode ++ []).length ≤ 6
    refine Nat.le_of_eq ?_
    rw [List.append_nil, encode_optionOf, List.length_cons, List.length_cons, value.property]
  · rw [if_neg holds]
    exact Nat.zero_le _

/-- They end inside the options area. -/
theorem length_replyOptions :
    (encodeOptions (replyOptions config msgType entry) ++ [dhcpEnd]).length ≤ dpOptionsSize := by
  have domain : (encodeOptions (match config.domain with
      | some domain => [domainOption domain]
      | none => [])).length ≤ 241 := by
    cases config.domain with
    | none => exact Nat.zero_le _
    | some domain =>
      show ((domainOption domain).encode ++ []).length ≤ 241
      rw [List.append_nil, DhcpOption.length_encode]
      exact Nat.add_le_add_right domain.property 2
  have router := length_arrayIf dhcpRouter config.addr (config.addr ≠ Bytes.zero 4)
  have dns := length_arrayIf dhcpDnsserver config.dns (config.dns ≠ Bytes.zero 4)
  have fixed : (encodeOptions [messageTypeOption msgType, optionOf dhcpServerid config.addr,
      optionOf dhcpLeasetime (leaseBytes entry.lease),
      optionOf dhcpSubnetmask entry.subnet]).length = 21 := by
    rw [encodeOptions_cons, encodeOptions_cons, encodeOptions_cons, encodeOptions_cons,
      encode_optionOf, encode_optionOf, encode_optionOf]
    simp only [List.length_append, List.length_cons, config.addr.property, entry.subnet.property,
      (leaseBytes entry.lease).property, DhcpOption.length_encode, messageTypeOption,
      encodeOptions, List.flatMap_nil, List.length_nil]
  rw [List.length_append, replyOptions, encodeOptions_append, encodeOptions_append,
    encodeOptions_append, List.length_append, List.length_append, List.length_append, fixed,
    List.length_singleton]
  show 21 + _ + _ + _ + 1 ≤ 275
  omega

end Options

/-! ### Reply bytes -/

/-- The block of bytes is a reply of this type that offers or acknowledges `yiaddr` to `mac`. -/
structure IsReply (data : Buffer) (msgType : UInt8) (yiaddr : Ip) (mac : Mac) : Prop where
  msgType : data.read (dpOptions + 2) 1 = [msgType]
  yiaddr : data.read dpYiaddr 4 = yiaddr.val
  chaddr : data.read dpChaddr 6 = mac.val

section Replies

variable {data : Buffer} {config : DhcpConfig} {msgType : UInt8} {entry : DhcpEntry} {yiaddr : Ip}
  {mac : Mac}

theorem isReply_buildReply : IsReply (buildReply data config msgType entry yiaddr) msgType yiaddr
    (hardwareAddress data) where
  msgType := by
    rw [buildReply, fillOptions_eq, Buffer.read_write_inside (k := 2)]
    · rfl
    · show 2 + 1 ≤ _
      rw [replyOptions, List.length_append, List.append_assoc, List.append_assoc,
        encodeOptions_append, encodeOptions_cons, List.length_append, List.length_append,
        DhcpOption.length_encode]
      show 3 ≤ 1 + 2 + _ + _ + 1
      omega
  yiaddr := by
    rw [buildReply, fillOptions_eq, Buffer.read_write_apart (.inl (by decide)),
      Buffer.read_write_apart (.inl (by decide)), Buffer.read_write_apart (.inl (by decide)),
      Buffer.read_write_array]
  chaddr := by
    rw [buildReply, fillOptions_eq, Buffer.read_write_apart (.inl (by decide)),
      Buffer.read_write_apart (.inl (by decide)), Buffer.read_write_apart (.inl (by decide)),
      Buffer.read_write_apart (.inr (by rw [yiaddr.property]; decide)),
      Buffer.read_write_apart (.inr (by decide)), Buffer.read_write_apart (.inr (by decide)),
      Buffer.read_write_apart (.inr (by decide))]
    rfl

theorem IsReply.clearCiaddr (reply : IsReply data msgType yiaddr mac) :
    IsReply (data.write dpCiaddr [0, 0, 0, 0]) msgType yiaddr mac where
  msgType := by rw [Buffer.read_write_apart (.inr (by decide)), reply.msgType]
  yiaddr := by rw [Buffer.read_write_apart (.inr (by decide)), reply.yiaddr]
  chaddr := by rw [Buffer.read_write_apart (.inr (by decide)), reply.chaddr]

/-- What is sent is what was built. -/
theorem IsReply.sendReply (reply : IsReply data msgType yiaddr mac) (p : Packet) :
    (sendReply data p).msgType = [msgType] ∧ (DhcpServer.sendReply data p).yiaddr = yiaddr.val ∧
      (DhcpServer.sendReply data p).chaddr = mac.val := by
  have part : ∀ {k m : Nat}, k + m ≤ dhcpTypeSize →
      ((data.read 0 dhcpTypeSize).drop k).take m = data.read k m := fun {k m} inside => by
    rw [Buffer.drop_take_read inside, Nat.zero_add]
  refine ⟨?_, ?_, ?_⟩
  · rw [← reply.msgType]
    exact part (by decide)
  · rw [← reply.yiaddr]
    exact part (by decide)
  · rw [← reply.chaddr]
    exact part (by decide)

end Replies

end Jblib.Ethutilities.DhcpServer
