/-
**What `fill_options` encodes, `find_dhcp_option` finds.**

* `optionValue` — the value of an option in `dp_options`, as a receiver with the server's own scanner
  takes it.
* `optionValue_fillOptions` — behind the options there is `DHCP_END` and zeros, which the scanner
  takes for empty options: it finds exactly the options of a reply.
* **`fillOptions_roundTrip`** — bounds, format and values, for every configuration.
-/

import EthUtilities.DhcpServer.OptionGrammar

namespace Jblib.Ethutilities.DhcpServer

open Library

/-- The value of the first option of a type. -/
def optionValue (data : Buffer) (attr : UInt8) : Option (List UInt8) :=
  (findDhcpOption (data.shift dpOptions) dpOptionsSize attr).map fun ptr =>
    (recordAt (data.shift dpOptions) ptr).value

/-- A number in network byte order. -/
def bigEndian (bytes : List UInt8) : Nat := bytes.foldl (fun n byte => n * 256 + byte.toNat) 0

theorem bigEndian_leaseBytes (lease : UInt32) : bigEndian (leaseBytes lease).val = lease.toNat := by
  have small := lease.toNat_lt
  have byte : ∀ k : UInt32, k.toNat < 32 →
      (lease >>> k).toUInt8.toNat = lease.toNat / 2 ^ k.toNat % 256 := fun k inside => by
    rw [UInt32.toNat_toUInt8, UInt32.toNat_shiftRight, Nat.mod_eq_of_lt inside,
      Nat.shiftRight_eq_div_pow]
  have first := byte 24 (by decide)
  have second := byte 16 (by decide)
  have third := byte 8 (by decide)
  have last : lease.toUInt8.toNat = lease.toNat % 256 := UInt32.toNat_toUInt8 lease
  show (((0 * 256 + (lease >>> 24).toUInt8.toNat) * 256 + (lease >>> 16).toUInt8.toNat) * 256 +
    (lease >>> 8).toUInt8.toNat) * 256 + lease.toUInt8.toNat = _
  rw [first, second, third, last]
  show (((0 * 256 + lease.toNat / 16777216 % 256) * 256 + lease.toNat / 65536 % 256) * 256 +
    lease.toNat / 256 % 256) * 256 + lease.toNat % 256 = _
  omega

/-! ### An area with zeros behind its end -/

section Area

variable {attrs : Buffer} {attr : UInt8} {options : List DhcpOption} {zeros : Nat}

/-- The scanner takes pairs of zeros for empty options. -/
def emptyOptions (code : UInt8) (n : Nat) : List DhcpOption :=
  ⟨code, [], by decide⟩ :: List.replicate n ⟨dhcpPad, [], by decide⟩

theorem encode_emptyOptions (code : UInt8) (n : Nat) :
    encodeOptions (emptyOptions code n) = code :: 0 :: List.replicate (2 * n) 0 := by
  induction n generalizing code with
  | zero => rfl
  | succ n ih => exact congrArg (code :: 0 :: ·) (ih dhcpPad)

theorem findDhcpOption_filled (noPad : attr ≠ dhcpPad) (noEnd : attr ≠ dhcpEnd)
    (held : attrs.Holds 0 (encodeOptions options ++ (dhcpEnd :: List.replicate zeros 0))) :
    (findDhcpOption attrs ((encodeOptions options).length + (zeros + 1)) attr).map
        (fun ptr => (recordAt attrs ptr).value) =
      (options.find? (·.code = attr)).map DhcpOption.value := by
  cases first : options.find? (·.code = attr) with
  | some option =>
    obtain ⟨position, found, here, -⟩ := findDhcpOption_encoded
      (Buffer.holds_append.mp held).1 (Nat.le_add_right _ (zeros + 1)) first
    rw [found]
    exact congrArg some (value_recordAt here)
  | none =>
    have others : ∀ option ∈ options, option.code ≠ attr := by simpa using first
    cases zeros with
    | zero =>
      rw [findDhcpOption_skip (Buffer.holds_append.mp held).1 (Nat.le_add_right _ _) (Nat.le_refl _)
        others]
      rfl
    | succ n =>
      have skipped : encodeOptions (options ++ emptyOptions dhcpEnd (n / 2)) =
          encodeOptions options ++ (dhcpEnd :: 0 :: List.replicate (2 * (n / 2)) 0) := by
        rw [encodeOptions_append, encode_emptyOptions]
      have odd : List.replicate n (0 : UInt8) =
          List.replicate (2 * (n / 2)) 0 ++ List.replicate (n % 2) 0 := by
        rw [List.replicate_append_replicate, Nat.div_add_mod]
      have front : attrs.Holds 0 (encodeOptions (options ++ emptyOptions dhcpEnd (n / 2))) := by
        rw [List.replicate_succ, odd, ← List.cons_append, ← List.cons_append, ← List.append_assoc,
          ← skipped] at held
        exact (Buffer.holds_append.mp held).1
      have none : findDhcpOption attrs ((encodeOptions options).length + (n + 1 + 1)) attr =
          none := by
        have size : (encodeOptions (options ++ emptyOptions dhcpEnd (n / 2))).length =
            (encodeOptions options).length + (2 * (n / 2) + 2) := by
          rw [skipped]
          simp
        refine findDhcpOption_skip front (by omega) (by omega) ?_
        simp only [emptyOptions, List.forall_mem_append, List.forall_mem_cons,
          List.forall_mem_replicate]
        exact ⟨others, noEnd.symm, .inr noPad.symm⟩
      rw [none]
      rfl

end Area

/-! ### The round trip -/

/-- **Encoder and decoder agree** about a reply: `filled` is `data` with the options filled in. -/
structure RoundTrips (data : Buffer) (config : DhcpConfig) (msgType : UInt8) (entry : DhcpEntry)
    (filled : Buffer) : Prop where
  apart : ∀ i, i < dpOptions ∨ dpOptions + dpOptionsSize ≤ i → filled i = data i
  wellFormed : ∃ options, filled = data.write dpOptions (encodeOptions options ++ [dhcpEnd]) ∧
    (encodeOptions options ++ [dhcpEnd]).length ≤ dpOptionsSize ∧
    ∀ option ∈ options, option.code ≠ dhcpPad ∧ option.code ≠ dhcpEnd
  msgType : optionValue filled dhcpMessagetype = some [msgType]
  serverId : optionValue filled dhcpServerid = some config.addr.val
  lease : ∃ bytes, optionValue filled dhcpLeasetime = some bytes ∧ bytes.length = 4 ∧
    bigEndian bytes = entry.lease.toNat
  subnet : optionValue filled dhcpSubnetmask = some entry.subnet.val
  router : optionValue filled dhcpRouter =
    if config.addr ≠ Bytes.zero 4 then some config.addr.val else none
  domain : optionValue filled dhcpDnsdomain = config.domain.map Subtype.val
  dns : optionValue filled dhcpDnsserver =
    if config.dns ≠ Bytes.zero 4 then some config.dns.val else none

section RoundTrip

variable {data : Buffer} {attr : UInt8}

/-- **The options of a reply are found in it**, and nothing else. -/
theorem optionValue_fillOptions (zeroed : data.read dpOptions dpOptionsSize =
      List.replicate dpOptionsSize 0) (config : DhcpConfig) (msgType : UInt8) (entry : DhcpEntry)
    (noPad : attr ≠ dhcpPad) (noEnd : attr ≠ dhcpEnd) :
    optionValue (fillOptions data config msgType entry) attr =
      ((replyOptions config msgType entry).find? (·.code = attr)).map DhcpOption.value := by
  rw [fillOptions_eq]
  have fits := @length_replyOptions config msgType entry
  generalize replyOptions config msgType entry = options at fits ⊢
  obtain ⟨zeros, size⟩ := Nat.exists_eq_add_of_le fits
  have behind : data.read (dpOptions + (encodeOptions options ++ [dhcpEnd]).length) zeros =
      List.replicate zeros 0 := by
    rw [size, Buffer.read_append, ← List.replicate_append_replicate] at zeroed
    exact (List.append_inj zeroed (by rw [Buffer.length_read, List.length_replicate])).2
  have area : (data.write dpOptions (encodeOptions options ++ [dhcpEnd])).read dpOptions
      ((encodeOptions options ++ [dhcpEnd]).length + zeros) =
      encodeOptions options ++ (dhcpEnd :: List.replicate zeros 0) := by
    rw [Buffer.read_append, Buffer.read_write_self,
      Buffer.read_write_apart (.inr (Nat.le_refl _)), behind, List.append_assoc]
    rfl
  have whole : dpOptionsSize = (encodeOptions options).length + (zeros + 1) := by
    rw [size, List.length_append, List.length_singleton]
    omega
  have held : ((data.write dpOptions (encodeOptions options ++ [dhcpEnd])).shift dpOptions).Holds 0
      (encodeOptions options ++ (dhcpEnd :: List.replicate zeros 0)) := by
    rw [Buffer.holds_shift, Nat.add_zero, ← area]
    exact Buffer.holds_read
  rw [optionValue, whole]
  exact findDhcpOption_filled noPad noEnd held

theorem find_cons (option : DhcpOption) (options : List DhcpOption) (attr : UInt8) :
    (option :: options).find? (·.code = attr) =
      if option.code = attr then some option else options.find? (·.code = attr) := by
  by_cases here : option.code = attr
  · rw [if_pos here, List.find?_cons_of_pos (by simpa using here)]
  · rw [if_neg here, List.find?_cons_of_neg (by simpa using here)]

/-- An option that is only there under a condition. -/
theorem find_if (condition : Prop) [Decidable condition] (option : DhcpOption)
    (options : List DhcpOption) (attr : UInt8) :
    ((if condition then [option] else []) ++ options).find? (·.code = attr) =
      if option.code = attr ∧ condition then some option else options.find? (·.code = attr) := by
  by_cases holds : condition
  · rw [if_pos holds, List.singleton_append, find_cons]
    simp [holds]
  · simp [holds]

/-- The parts of a reply are searched one after the other. -/
theorem find_replyOptions (config : DhcpConfig) (msgType : UInt8) (entry : DhcpEntry)
    (attr : UInt8) : (replyOptions config msgType entry).find? (·.code = attr) =
      if dhcpMessagetype = attr then some (messageTypeOption msgType)
      else if dhcpServerid = attr then some (optionOf dhcpServerid config.addr)
      else if dhcpLeasetime = attr then some (optionOf dhcpLeasetime (leaseBytes entry.lease))
      else if dhcpSubnetmask = attr then some (optionOf dhcpSubnetmask entry.subnet)
      else if dhcpRouter = attr ∧ config.addr ≠ Bytes.zero 4 then
        some (optionOf dhcpRouter config.addr)
      else if dhcpDnsdomain = attr ∧ config.domain.isSome then config.domain.map domainOption
      else if dhcpDnsserver = attr ∧ config.dns ≠ Bytes.zero 4 then
        some (optionOf dhcpDnsserver config.dns)
      else none := by
  have dns := find_if (config.dns ≠ Bytes.zero 4) (optionOf dhcpDnsserver config.dns) [] attr
  rw [List.append_nil] at dns
  rw [replyOptions, List.append_assoc, List.append_assoc, List.cons_append, List.cons_append,
    List.cons_append, List.cons_append, List.nil_append, find_cons, find_cons, find_cons, find_cons,
    find_if]
  cases config.domain with
  | none =>
    rw [List.nil_append, dns]
    simp only [Option.isSome_none, Bool.false_eq_true, and_false, if_false]
    rfl
  | some domain =>
    rw [List.singleton_append, find_cons, dns]
    simp only [Option.isSome_some, and_true]
    rfl

theorem proper_replyOptions {config : DhcpConfig} {msgType : UInt8} {entry : DhcpEntry} :
    ∀ option ∈ replyOptions config msgType entry,
      option.code ≠ dhcpPad ∧ option.code ≠ dhcpEnd := by
  have fixed : ∀ attr ∈ [dhcpMessagetype, dhcpServerid, dhcpLeasetime, dhcpSubnetmask, dhcpRouter,
      dhcpDnsdomain, dhcpDnsserver], attr ≠ dhcpPad ∧ attr ≠ dhcpEnd := by
    simp [dhcpMessagetype, dhcpServerid, dhcpLeasetime, dhcpSubnetmask, dhcpRouter, dhcpDnsdomain,
      dhcpDnsserver, dhcpPad, dhcpEnd]
  refine fun option member => fixed _ ?_
  unfold replyOptions at member
  rw [List.mem_append, List.mem_append, List.mem_append] at member
  rcases member with ((always | router) | domain) | dns
  · simp only [List.mem_cons, List.not_mem_nil, or_false] at always
    rcases always with rfl | rfl | rfl | rfl <;> simp [messageTypeOption, optionOf]
  · split_ifs at router
    · rw [List.mem_singleton.mp router]
      simp [optionOf]
    · cases router
  · cases named : config.domain with
    | none =>
      rw [named] at domain
      cases domain
    | some name =>
      rw [named] at domain
      rw [List.mem_singleton.mp domain]
      simp [domainOption]
  · split_ifs at dns
    · rw [List.mem_singleton.mp dns]
      simp [optionOf]
    · cases dns

/-- **`fill_options` and `find_dhcp_option` agree.** -/
theorem fillOptions_roundTrip (zeroed : data.read dpOptions dpOptionsSize =
      List.replicate dpOptionsSize 0) (config : DhcpConfig) (msgType : UInt8)
    (entry : DhcpEntry) :
    RoundTrips data config msgType entry (fillOptions data config msgType entry) := by
  have value : ∀ {attr : UInt8}, attr ≠ dhcpPad → attr ≠ dhcpEnd →
      optionValue (fillOptions data config msgType entry) attr = _ := fun noPad noEnd =>
    (optionValue_fillOptions zeroed config msgType entry noPad noEnd).trans
      (congrArg _ (find_replyOptions config msgType entry _))
  have fits := @length_replyOptions config msgType entry
  refine ⟨fun i outside => ?_, ⟨_, fillOptions_eq, fits, proper_replyOptions⟩, ?_, ?_, ?_, ?_, ?_,
    ?_, ?_⟩
  · rw [fillOptions_eq]
    rcases outside with before | behind
    · exact Buffer.write_before before
    · exact Buffer.write_after (by omega)
  · exact value (by decide) (by decide)
  · exact value (by decide) (by decide)
  · exact ⟨_, value (by decide) (by decide), (leaseBytes entry.lease).property,
      bigEndian_leaseBytes entry.lease⟩
  · exact value (by decide) (by decide)
  · refine (value (by decide) (by decide)).trans ?_
    by_cases zero : config.addr = Bytes.zero 4 <;> simp +decide [zero, optionOf]
  · refine (value (by decide) (by decide)).trans ?_
    cases config.domain <;> simp +decide [domainOption]
  · refine (value (by decide) (by decide)).trans ?_
    by_cases zero : config.dns = Bytes.zero 4 <;> simp +decide [zero, optionOf]

/-- A server with a domain name that fills the area to its last byte. -/
def fullConfig : DhcpConfig :=
  { sampleServer.config with
    domain := some ⟨List.replicate 239 97, Nat.le_of_eq List.length_replicate⟩ }

theorem fillOptions_roundTrip_full : RoundTrips (fun _ => 0) fullConfig dhcpAck
    (fullConfig.entries 1) (fillOptions (fun _ => 0) fullConfig dhcpAck (fullConfig.entries 1)) :=
  fillOptions_roundTrip (by decide +kernel) _ _ _

end RoundTrip

end Jblib.Ethutilities.DhcpServer
