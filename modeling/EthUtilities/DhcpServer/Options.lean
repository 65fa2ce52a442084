/-
**DHCP options: the area, the encoder's format and the scanner `find_dhcp_option`.**

* `findDhcpOption` — the code's scan over an options area. `findDhcpOptionLoop_enough`: the loop
  ends before its fuel does.
* `DhcpOption` — a type-length-value option and its encoding.
* **`findDhcpOption_encoded`** — in an area that starts with encoded options, the scan finds the
  first one of the type it looks for.
* `recordAt` — the scan takes any bytes for an option. **`findDhcpOption_eq_some_iff`**: what it
  finds is an option of its type behind complete options of other types.
-/

import EthUtilities.Library.Buffer

namespace Jblib.Ethutilities.DhcpServer

open Library

/-! ### Option types -/

def dhcpSubnetmask : UInt8 := 1

def dhcpRouter : UInt8 := 3

def dhcpDnsserver : UInt8 := 6

def dhcpDnsdomain : UInt8 := 15

def dhcpIpaddress : UInt8 := 50

def dhcpLeasetime : UInt8 := 51

def dhcpMessagetype : UInt8 := 53

def dhcpServerid : UInt8 := 54

def dhcpEnd : UInt8 := 255

/-! ### The scanner -/

/-- The loop of `find_dhcp_option`, from position `i` on. -/
def findDhcpOptionLoop (attrs : Buffer) (size : Nat) (attr : UInt8) : Nat → Nat → Option Nat
  | 0, _ => none
  | fuel + 1, i =>
    if i + 1 < size then
      let next := i + (attrs (i + 1)).toNat + 2
      if next > size then none
      else if attrs i = attr then some i
      else findDhcpOptionLoop attrs size attr fuel next
    else none

/-- The position of the option, `none` for `NULL`. -/
def findDhcpOption (attrs : Buffer) (size : Nat) (attr : UInt8) : Option Nat :=
  findDhcpOptionLoop attrs size attr (size + 1) 0

variable {attrs : Buffer} {size : Nat} {attr : UInt8}

/-- Every turn moves on, so the scan ends by itself: more fuel changes nothing. -/
theorem findDhcpOptionLoop_enough {fuel more i : Nat} (enough : size < i + fuel)
    (enough' : size < i + more) :
    findDhcpOptionLoop attrs size attr fuel i = findDhcpOptionLoop attrs size attr more i := by
  induction fuel generalizing more i with
  | zero =>
    cases more with
    | zero => rfl
    | succ more => rw [findDhcpOptionLoop, findDhcpOptionLoop, if_neg (by omega)]
  | succ fuel ih =>
    cases more with
    | zero => rw [findDhcpOptionLoop, findDhcpOptionLoop, if_neg (by omega)]
    | succ more =>
      rw [findDhcpOptionLoop, findDhcpOptionLoop]
      dsimp only
      rw [@ih more _ (by omega) (by omega)]

/-! ### Encoded options -/

/-- A type-length-value option. Its length is sent in one byte. -/
structure DhcpOption where
  code : UInt8
  value : List UInt8
  short : value.length < 256

def DhcpOption.encode (option : DhcpOption) : List UInt8 :=
  option.code :: UInt8.ofNat option.value.length :: option.value

def encodeOptions (options : List DhcpOption) : List UInt8 := options.flatMap DhcpOption.encode

theorem DhcpOption.length_encode (option : DhcpOption) :
    option.encode.length = option.value.length + 2 := rfl

theorem DhcpOption.toNat_length (option : DhcpOption) :
    (UInt8.ofNat option.value.length).toNat = option.value.length :=
  UInt8.toNat_ofNat_of_lt option.short

theorem encodeOptions_cons (option : DhcpOption) (options : List DhcpOption) :
    encodeOptions (option :: options) = option.encode ++ encodeOptions options := rfl

/-- One turn of the loop at an encoded option. -/
theorem findDhcpOptionLoop_option {fuel i : Nat} {option : DhcpOption}
    (held : attrs.Holds i option.encode) (inside : i + option.encode.length ≤ size) :
    findDhcpOptionLoop attrs size attr (fuel + 1) i =
      if option.code = attr then some i
      else findDhcpOptionLoop attrs size attr fuel (i + option.encode.length) := by
  obtain ⟨code, length, _⟩ := held
  rw [option.length_encode] at inside ⊢
  rw [findDhcpOptionLoop, if_pos (by omega)]
  dsimp only
  rw [length, option.toNat_length, if_neg (by omega), code, Nat.add_assoc]

/-- **The scan over encoded options.** -/
theorem findDhcpOptionLoop_encoded {fuel i : Nat} {options : List DhcpOption} {option : DhcpOption}
    (held : attrs.Holds i (encodeOptions options))
    (inside : i + (encodeOptions options).length ≤ size)
    (first : options.find? (·.code = attr) = some option) (enough : size < i + fuel) :
    ∃ position, findDhcpOptionLoop attrs size attr fuel i = some position ∧
      attrs.Holds position option.encode ∧ position + option.encode.length ≤ size := by
  induction options generalizing fuel i with
  | nil => cases first
  | cons other options ih =>
    obtain ⟨less, rfl⟩ : ∃ less, fuel = less + 1 := ⟨fuel - 1, by omega⟩
    rw [encodeOptions_cons, Buffer.holds_append] at held
    rw [encodeOptions_cons, List.length_append] at inside
    rw [findDhcpOptionLoop_option held.1 (by omega)]
    by_cases here : other.code = attr
    · rw [List.find?_cons_of_pos (by simpa using here)] at first
      obtain rfl := Option.some.inj first
      rw [if_pos here]
      exact ⟨i, rfl, held.1, by omega⟩
    · rw [List.find?_cons_of_neg (by simpa using here)] at first
      rw [if_neg here]
      have size := other.length_encode
      exact ih held.2 (by omega) first (by omega)

/-- **`find_dhcp_option`** finds the first option of its type, wherever it is among the options the
area starts with. -/
theorem findDhcpOption_encoded {options : List DhcpOption} {option : DhcpOption}
    (held : attrs.Holds 0 (encodeOptions options)) (inside : (encodeOptions options).length ≤ size)
    (first : options.find? (·.code = attr) = some option) :
    ∃ position, findDhcpOption attrs size attr = some position ∧
      attrs.Holds position option.encode ∧ position + option.encode.length ≤ size :=
  findDhcpOptionLoop_encoded held (by omega) first (by omega)

theorem encodeOptions_append (options more : List DhcpOption) :
    encodeOptions (options ++ more) = encodeOptions options ++ encodeOptions more :=
  List.flatMap_append

theorem encodeOptions_concat (options : List DhcpOption) (option : DhcpOption) :
    encodeOptions (options ++ [option]) = encodeOptions options ++ option.encode := by
  rw [encodeOptions_append]
  exact congrArg (encodeOptions options ++ ·) (List.append_nil _)

/-! ### What the scanner reads -/

section Records

variable {fuel i : Nat} {options : List DhcpOption}

/-- What the scan takes the bytes at a position for. -/
def recordAt (attrs : Buffer) (i : Nat) : DhcpOption :=
  ⟨attrs i, attrs.read (i + 2) (attrs (i + 1)).toNat, by simpa using (attrs (i + 1)).toNat_lt⟩

theorem length_recordAt : (recordAt attrs i).encode.length = (attrs (i + 1)).toNat + 2 := by
  simp [DhcpOption.length_encode, recordAt]

theorem holds_recordAt : attrs.Holds i (recordAt attrs i).encode := by
  refine ⟨rfl, ?_, Buffer.holds_read⟩
  simp [recordAt]

/-- Behind the last option there is nothing. -/
theorem findDhcpOptionLoop_end (beyond : size ≤ i + 1) :
    findDhcpOptionLoop attrs size attr fuel i = none := by
  cases fuel with
  | zero => rfl
  | succ fuel => rw [findDhcpOptionLoop, if_neg (Nat.not_lt.mpr beyond)]

/-- Options of other types are skipped. -/
theorem findDhcpOptionLoop_skip (held : attrs.Holds i (encodeOptions options))
    (inside : i + (encodeOptions options).length ≤ size)
    (others : ∀ option ∈ options, option.code ≠ attr) :
    findDhcpOptionLoop attrs size attr (fuel + options.length) i =
      findDhcpOptionLoop attrs size attr fuel (i + (encodeOptions options).length) := by
  induction options generalizing i with
  | nil => rfl
  | cons option options ih =>
    rw [encodeOptions_cons, Buffer.holds_append] at held
    rw [encodeOptions_cons, List.length_append] at inside ⊢
    rw [List.length_cons, ← Nat.add_assoc, findDhcpOptionLoop_option held.1 (by omega),
      if_neg (others option List.mem_cons_self),
      ih held.2 (by omega) fun other member => others other (List.mem_cons_of_mem _ member),
      Nat.add_assoc]

/-- **What the scan found.** -/
theorem findDhcpOptionLoop_found {position : Nat}
    (found : findDhcpOptionLoop attrs size attr fuel i = some position) :
    ∃ options option, attrs.Holds i (encodeOptions (options ++ [option])) ∧
      i + (encodeOptions (options ++ [option])).length ≤ size ∧
      (∀ other ∈ options, other.code ≠ attr) ∧ option.code = attr ∧
      position = i + (encodeOptions options).length := by
  induction fuel generalizing i with
  | zero => cases found
  | succ fuel ih =>
    have size := @length_recordAt attrs i
    rw [findDhcpOptionLoop] at found
    dsimp only at found
    split_ifs at found with more long here
    · obtain rfl := Option.some.inj found
      refine ⟨[], recordAt attrs i, ?_, ?_, by simp, here, rfl⟩
      · rw [encodeOptions_concat]
        exact holds_recordAt
      · rw [encodeOptions_concat, List.length_append, size]
        show i + (0 + _) ≤ _
        omega
    · obtain ⟨options, option, held, inside, others, type, rfl⟩ := ih found
      have next : i + (attrs (i + 1)).toNat + 2 = i + (recordAt attrs i).encode.length := by omega
      rw [next] at held inside
      refine ⟨recordAt attrs i :: options, option, ?_, ?_, ?_, type, ?_⟩
      · rw [List.cons_append, encodeOptions_cons, Buffer.holds_append]
        exact ⟨holds_recordAt, held⟩
      · rw [List.cons_append, encodeOptions_cons, List.length_append]
        omega
      · exact List.forall_mem_cons.mpr ⟨here, others⟩
      · rw [encodeOptions_cons, List.length_append]
        omega

/-- **The scan exactly**, on an area of bytes. -/
theorem findDhcpOption_eq_some_iff {area : List UInt8} (held : attrs.Holds 0 area)
    {position : Nat} : findDhcpOption attrs area.length attr = some position ↔
      ∃ options option, encodeOptions (options ++ [option]) <+: area ∧
        (∀ other ∈ options, other.code ≠ attr) ∧ option.code = attr ∧
        position = (encodeOptions options).length := by
  constructor
  · intro found
    obtain ⟨options, option, here, inside, others, type, place⟩ := findDhcpOptionLoop_found found
    rw [Nat.zero_add] at inside place
    exact ⟨options, option, (Buffer.holds_iff_prefix held inside).mp here, others, type, place⟩
  · rintro ⟨options, option, leads, others, type, rfl⟩
    have here := (Buffer.holds_iff_prefix held leads.length_le).mpr leads
    have inside := leads.length_le
    rw [encodeOptions_concat] at here inside
    rw [Buffer.holds_append] at here
    rw [List.length_append] at inside
    -- enough fuel for the skipped options and one turn
    have skipped : options.length ≤ (encodeOptions options).length := by
      clear * -
      induction options with
      | nil => exact Nat.zero_le _
      | cons option options ih =>
        rw [encodeOptions_cons, List.length_append, List.length_cons, DhcpOption.length_encode]
        omega
    have whole : findDhcpOption attrs area.length attr =
        findDhcpOptionLoop attrs area.length attr (area.length + 1 + options.length) 0 :=
      findDhcpOptionLoop_enough (by omega) (by omega)
    rw [whole, findDhcpOptionLoop_skip here.1 (by omega) others,
      findDhcpOptionLoop_option here.2 (by omega), if_pos type, Nat.zero_add]

/-- Options of other types to the end of the area, where a single byte is no option. -/
theorem findDhcpOption_skip (held : attrs.Holds 0 (encodeOptions options))
    (inside : (encodeOptions options).length ≤ size)
    (all : size ≤ (encodeOptions options).length + 1)
    (others : ∀ option ∈ options, option.code ≠ attr) : findDhcpOption attrs size attr = none := by
  have whole : findDhcpOption attrs size attr =
      findDhcpOptionLoop attrs size attr (size + 1 + options.length) 0 :=
    findDhcpOptionLoop_enough (by omega) (by omega)
  rw [whole, findDhcpOptionLoop_skip held (by omega) others, findDhcpOptionLoop_end (by omega)]

/-- The scan looks at the area only. -/
theorem findDhcpOption_congr {attrs' : Buffer} (same : ∀ i < size, attrs i = attrs' i) :
    findDhcpOption attrs size attr = findDhcpOption attrs' size attr := by
  have turns : ∀ fuel i, findDhcpOptionLoop attrs size attr fuel i =
      findDhcpOptionLoop attrs' size attr fuel i := fun fuel => by
    induction fuel with
    | zero => exact fun _ => rfl
    | succ fuel ih =>
      intro i
      rw [findDhcpOptionLoop, findDhcpOptionLoop]
      dsimp only
      by_cases more : i + 1 < size
      · rw [if_pos more, if_pos more, same i (by omega), same (i + 1) more, ih]
      · rw [if_neg more, if_neg more]
  exact turns _ _

/-- What is found lies inside the area. -/
theorem findDhcpOption_inside {position : Nat}
    (found : findDhcpOption attrs size attr = some position) :
    position + (attrs (position + 1)).toNat + 2 ≤ size := by
  obtain ⟨options, option, held, inside, -, -, rfl⟩ := findDhcpOptionLoop_found found
  rw [encodeOptions_concat, List.length_append, DhcpOption.length_encode] at inside
  rw [encodeOptions_concat, Buffer.holds_append] at held
  obtain ⟨-, length, -⟩ := held.2
  rw [length, option.toNat_length]
  omega

/-- The value of an option, as a receiver takes it from where it was found. -/
theorem value_recordAt {option : DhcpOption} (held : attrs.Holds i option.encode) :
    (recordAt attrs i).value = option.value := by
  obtain ⟨-, length, value⟩ := held
  show attrs.read (i + 2) (attrs (i + 1)).toNat = _
  rw [length, option.toNat_length]
  exact Buffer.holds_iff_read.mp value

end Records

end Jblib.Ethutilities.DhcpServer
