/-
**`find_dhcp_option` on any bytes.**

* `checkedFind` — the code on an array of its length and with `int`s, with a log of the indices it
  reads. A read behind the array and a value beyond `INT_MAX` are faults.
* `position` — the positions the scan goes through. `checkedScan_returns_iff`: one turn.
* `ScansSafely` — what is promised of the scan. **`scansSafely_iff`**: it is kept exactly if no
  position that is visited takes an `int` beyond `INT_MAX`; so it is for every size up to
  `INT_MAX - 255`. `not_scansSafely_largeArea`: an area for which it is not.
* `found_eq` — what the checked scan returns is what the server finds (`findDhcpOption`).
* **`find_safe`** — the scan on any bytes, and on those of a packet, with the four bytes that
  `udp_recv_proc` takes for an address.
-/

import EthUtilities.Library.Logged
import EthUtilities.DhcpServer.Server
import Mathlib.Order.Monotone.Basic

namespace Jblib.Ethutilities.DhcpServer

open Library

/-! ### The code with its reads -/

/-- What must not happen. -/
inductive ScanFault
  /-- a read behind the array -/
  | outOfBounds (index : Nat)
  /-- an `int` beyond `INT_MAX` -/
  | overflow
  /-- the loop does not end -/
  | diverges
  deriving DecidableEq

/-- A computation that logs the indices it reads. -/
abbrev Scanning := Logged Nat ScanFault

/-- `INT_MAX`. -/
def intMax : Nat := 2147483647

/-- A result of `int` arithmetic; nothing here is negative. -/
def int (x : Nat) : Scanning Nat := if x ≤ intMax then pure x else Logged.fault .overflow

/-- `attrs[i]`. -/
def readAttr (attrs : List UInt8) (i : Nat) : Scanning UInt8 :=
  match attrs[i]? with
  | some byte => do
    Logged.log i
    pure byte
  | none => Logged.fault (.outOfBounds i)

/-- The loop of `find_dhcp_option`, from position `i` on. -/
def checkedScan (attrs : List UInt8) (size : Nat) (attr : UInt8) : Nat → Nat → Scanning (Option Nat)
  | 0, _ => Logged.fault .diverges
  | fuel + 1, i => do
    let behind ← int (i + 1)
    if behind < size then do
      let length ← readAttr attrs behind
      let next ← int (i + length.toNat)
      let next ← int (next + 2)
      if next > size then pure none
      else do
        let type ← readAttr attrs i
        if type = attr then pure (some i) else checkedScan attrs size attr fuel next
    else pure none

/-- `find_dhcp_option(attrs, size, attr)`, step by step. -/
def checkedFind (attrs : List UInt8) (size : Nat) (attr : UInt8) : Scanning (Option Nat) :=
  checkedScan attrs size attr (size + 1) 0

/-! ### Positions -/

/-- The position behind the option at `i`. -/
def behindOption (attrs : List UInt8) (i : Nat) : Nat := i + 2 + (attrs.getD (i + 1) 0).toNat

/-- The positions one gets to, option by option. -/
def position (attrs : List UInt8) : Nat → Nat
  | 0 => 0
  | k + 1 => behindOption attrs (position attrs k)

/-- The scan gets to position `k`: no option in front of it is of the type, and it is inside. -/
def Visited (attrs : List UInt8) (size : Nat) (attr : UInt8) (k : Nat) : Prop :=
  position attrs k ≤ size ∧ ∀ j < k, attrs[position attrs j]? ≠ some attr

/-- No visited position takes an `int` beyond `INT_MAX`. -/
def InRange (attrs : List UInt8) (size : Nat) (attr : UInt8) : Prop :=
  ∀ k, Visited attrs size attr k → position attrs k + 1 ≤ intMax ∧
    (position attrs k + 1 < size → position attrs (k + 1) ≤ intMax)

/-- `i` is the first position with an option of the type, and the option is inside. -/
def FirstOfType (attrs : List UInt8) (size : Nat) (attr : UInt8) (i : Nat) : Prop :=
  ∃ k, i = position attrs k ∧ (∀ j < k, attrs[position attrs j]? ≠ some attr) ∧
    attrs[i]? = some attr ∧ ∃ length, attrs[i + 1]? = some length ∧ i + 2 + length.toNat ≤ size

/-- **What is promised**: the scan ends, it reads inside `size` only, and what it returns is the first
option of the type, with its value inside `size`. -/
def ScansSafely (attrs : List UInt8) (size : Nat) (attr : UInt8) : Prop :=
  ∃ log found, (checkedFind attrs size attr).Returns log found ∧ (∀ i ∈ log, i < size) ∧
    ∀ i, found = some i → FirstOfType attrs size attr i

section Scan

variable {attrs : List UInt8} {size fuel i k : Nat} {attr : UInt8} {log : List Nat}
  {found : Option Nat}

theorem lt_behindOption : i < behindOption attrs i := by
  unfold behindOption
  omega

theorem position_strictMono (attrs : List UInt8) : StrictMono (position attrs) :=
  strictMono_nat_of_lt_succ fun _ => lt_behindOption

/-- Going on after `int` arithmetic. -/
theorem int_bind_returns_iff {x : Nat} {next : Nat → Scanning (Option Nat)} :
    (int x >>= next).Returns log found ↔ x ≤ intMax ∧ (next x).Returns log found := by
  unfold int
  rw [Logged.returns_bind_iff]
  split
  case isTrue fits => simp [fits]
  case isFalse large => simp [large]

/-- Going on after a read. -/
theorem readAttr_bind_returns_iff {next : UInt8 → Scanning (Option Nat)}
    (inside : i < attrs.length) : (readAttr attrs i >>= next).Returns log found ↔
      ∃ rest, (next (attrs.getD i 0)).Returns rest found ∧ log = i :: rest := by
  unfold readAttr
  rw [List.getD_eq_getElem?_getD, List.getElem?_eq_getElem inside]
  simp [Logged.returns_bind_iff]

/-- **One turn of the scan.** -/
theorem checkedScan_returns_iff (inside : size ≤ attrs.length) :
    (checkedScan attrs size attr (fuel + 1) i).Returns log found ↔ i + 1 ≤ intMax ∧
      if i + 1 < size then behindOption attrs i ≤ intMax ∧
        if size < behindOption attrs i then log = [i + 1] ∧ found = none
        else if attrs[i]? = some attr then log = [i + 1, i] ∧ found = some i
        else ∃ rest, (checkedScan attrs size attr fuel (behindOption attrs i)).Returns rest found ∧
          log = (i + 1) :: i :: rest
      else log = [] ∧ found = none := by
  have behind : i + (attrs.getD (i + 1) 0).toNat + 2 = behindOption attrs i := by
    unfold behindOption
    omega
  rw [checkedScan, int_bind_returns_iff, Logged.returns_ite_iff]
  refine and_congr_right fun _ => ?_
  by_cases more : i + 1 < size
  · have here : i < attrs.length := by omega
    have type : attrs[i]? = some attr ↔ attrs.getD i 0 = attr := by
      rw [List.getD_eq_getElem?_getD, List.getElem?_eq_getElem here]
      simp
    rw [if_pos more, if_pos more, readAttr_bind_returns_iff (Nat.lt_of_lt_of_le more inside)]
    simp only [int_bind_returns_iff, Logged.returns_ite_iff, Logged.returns_pure_iff,
      readAttr_bind_returns_iff here, behind, type]
    generalize attrs.getD i 0 = own
    generalize (attrs.getD (i + 1) 0).toNat = length at behind
    generalize behindOption attrs i = next at behind
    by_cases fits : next ≤ intMax
    · have sum : i + length ≤ intMax := by omega
      by_cases long : size < next
      · simp [fits, sum, long, and_comm, @eq_comm _ none]
      · by_cases found : own = attr
        · simp [fits, sum, long, found, and_comm, @eq_comm _ (some i)]
        · simp [fits, sum, long, found, and_comm]
    · simp [fits]
  · rw [if_neg more, if_neg more, Logged.returns_pure_iff, @eq_comm _ none]

theorem Visited.lt_succ (visited : Visited attrs size attr (k + 1)) :
    position attrs k + 1 < size := by
  have next : position attrs (k + 1) = position attrs k + 2 +
    (attrs.getD (position attrs k + 1) 0).toNat := rfl
  have inside := visited.1
  omega

theorem Visited.before (visited : Visited attrs size attr (k + 1)) : Visited attrs size attr k :=
  ⟨Nat.le_of_lt (Nat.lt_of_succ_lt visited.lt_succ), fun j before =>
    visited.2 j (Nat.lt_succ_of_lt before)⟩

/-- From a visited position on, as long as the `int`s suffice. -/
theorem checkedScan_of_inRange (inside : size ≤ attrs.length) (range : InRange attrs size attr)
    (visited : Visited attrs size attr k) (enough : size < position attrs k + fuel) :
    ∃ log found, (checkedScan attrs size attr fuel (position attrs k)).Returns log found ∧
      (∀ i ∈ log, i < size) ∧ ∀ i, found = some i → FirstOfType attrs size attr i := by
  induction fuel generalizing k with
  | zero => exact absurd visited.1 (Nat.not_le_of_lt enough)
  | succ fuel ih =>
    obtain ⟨small, fits⟩ := range k visited
    simp only [checkedScan_returns_iff inside]
    by_cases more : position attrs k + 1 < size
    case neg => exact ⟨[], none, by simp [small, more], by simp, by simp⟩
    have next : behindOption attrs (position attrs k) ≤ intMax := fits more
    by_cases long : size < behindOption attrs (position attrs k)
    case pos =>
      exact ⟨[position attrs k + 1], none, by simp [small, more, next, long], by simpa using more,
        by simp⟩
    by_cases own : attrs[position attrs k]? = some attr
    case pos =>
      refine ⟨[position attrs k + 1, position attrs k], some (position attrs k),
        by simp [small, more, next, long, own], ?_, ?_⟩
      · simp only [List.mem_cons, List.not_mem_nil, or_false]
        omega
      · rintro _ ⟨⟩
        have length : attrs[position attrs k + 1]? =
            some (attrs.getD (position attrs k + 1) 0) := by
          rw [List.getD_eq_getElem?_getD, List.getElem?_eq_getElem (Nat.lt_of_lt_of_le more inside)]
          rfl
        exact ⟨k, rfl, visited.2, own, _, length, Nat.le_of_not_lt long⟩
    -- the option is of another type, and the scan goes on behind it
    have visited' : Visited attrs size attr (k + 1) := by
      refine ⟨Nat.le_of_not_lt long, fun j before => ?_⟩
      rcases Nat.lt_succ_iff_lt_or_eq.mp before with earlier | rfl
      · exact visited.2 j earlier
      · exact own
    have further : position attrs k < position attrs (k + 1) :=
      position_strictMono attrs (Nat.lt_succ_self k)
    obtain ⟨rest, found, ran, reads, first⟩ := ih visited' (by omega)
    refine ⟨(position attrs k + 1) :: position attrs k :: rest, found, ?_, ?_, first⟩
    · rw [if_pos more, if_neg long, if_neg own]
      exact ⟨small, next, rest, ran, rfl⟩
    · refine List.forall_mem_cons.mpr ⟨more, List.forall_mem_cons.mpr ⟨?_, reads⟩⟩
      exact Nat.lt_of_succ_lt more

/-- A scan that ends came through every visited position. -/
theorem returns_of_visited (inside : size ≤ attrs.length)
    (ran : (checkedFind attrs size attr).Returns log found) (visited : Visited attrs size attr k) :
    ∃ fuel rest, (checkedScan attrs size attr (fuel + 1) (position attrs k)).Returns rest found := by
  induction k with
  | zero => exact ⟨size, log, ran⟩
  | succ k ih =>
    obtain ⟨fuel, rest, returns⟩ := ih visited.before
    obtain ⟨-, turn⟩ := (checkedScan_returns_iff inside).mp returns
    have here : ¬ size < behindOption attrs (position attrs k) := Nat.not_lt_of_le visited.1
    rw [if_pos visited.lt_succ, if_neg here, if_neg (visited.2 k (Nat.lt_succ_self k))] at turn
    obtain ⟨-, rest, returns, -⟩ := turn
    cases fuel with
    | zero => exact absurd returns Logged.not_returns_fault
    | succ fuel => exact ⟨fuel, rest, returns⟩

/-- **When the scan is safe.** -/
theorem scansSafely_iff (inside : size ≤ attrs.length) :
    ScansSafely attrs size attr ↔ InRange attrs size attr := by
  constructor
  · rintro ⟨log, found, ran, -, -⟩ k visited
    obtain ⟨fuel, rest, returns⟩ := returns_of_visited inside ran visited
    obtain ⟨small, turn⟩ := (checkedScan_returns_iff inside).mp returns
    refine ⟨small, fun more => ?_⟩
    rw [if_pos more] at turn
    exact turn.1
  · intro range
    have start : Visited attrs size attr 0 := ⟨Nat.zero_le _, fun j before =>
      absurd before (Nat.not_lt_zero j)⟩
    exact checkedScan_of_inRange inside range start (by
      show size < 0 + (size + 1)
      omega)

/-- No size but the last ones below `INT_MAX` is too large. -/
theorem inRange_of_size (small : size + 255 ≤ intMax) : InRange attrs size attr := by
  intro k visited
  have inside := visited.1
  have byte := (attrs.getD (position attrs k + 1) 0).toNat_lt
  have next : position attrs (k + 1) = position attrs k + 2 +
    (attrs.getD (position attrs k + 1) 0).toNat := rfl
  refine ⟨by omega, fun more => ?_⟩
  omega

/-- The rest of the scan, without its checks. -/
theorem checkedScan_found {memory : Buffer} (held : memory.Holds 0 attrs)
    (inside : size ≤ attrs.length)
    (ran : (checkedScan attrs size attr fuel i).Returns log found) :
    found = findDhcpOptionLoop memory size attr fuel i := by
  have byte : ∀ j, j < size → attrs[j]? = some (memory j) := fun j before => by
    rw [held.getElem? (Nat.lt_of_lt_of_le before inside), Nat.zero_add]
  induction fuel generalizing i log with
  | zero => exact absurd ran Logged.not_returns_fault
  | succ fuel ih =>
    obtain ⟨-, turn⟩ := (checkedScan_returns_iff inside).mp ran
    rw [findDhcpOptionLoop]
    dsimp only
    by_cases more : i + 1 < size
    case neg =>
      rw [if_neg more] at turn ⊢
      exact turn.2
    have next : behindOption attrs i = i + (memory (i + 1)).toNat + 2 := by
      rw [behindOption, List.getD_eq_getElem?_getD, byte (i + 1) more, Option.getD_some]
      omega
    rw [if_pos more, next, byte i (Nat.lt_of_succ_lt more)] at turn
    simp only [Option.some.injEq] at turn
    rw [if_pos more]
    obtain ⟨-, turn⟩ := turn
    by_cases long : size < i + (memory (i + 1)).toNat + 2
    case pos =>
      rw [if_pos long] at turn ⊢
      exact turn.2
    rw [if_neg long] at turn ⊢
    by_cases own : memory i = attr
    · rw [if_pos own] at turn ⊢
      exact turn.2
    · rw [if_neg own] at turn ⊢
      obtain ⟨rest, ran, -⟩ := turn
      exact ih ran

/-- **Without its checks** the scan is that of the server. -/
theorem found_eq {memory : Buffer} (held : memory.Holds 0 attrs) (inside : size ≤ attrs.length)
    (ran : (checkedFind attrs size attr).Returns log found) :
    found = findDhcpOption memory size attr := checkedScan_found held inside ran

end Scan

/-! ### An area that is too large -/

/-- Empty options of type 0, but the last one has 255 bytes. -/
def largeArea (n : Nat) : List UInt8 := List.replicate (2 * n + 1) 0 ++ [255]

section LargeArea

variable {n i k : Nat} {attr : UInt8}

theorem length_largeArea : (largeArea n).length = 2 * n + 2 := by
  rw [largeArea, List.length_append, List.length_replicate]
  rfl

theorem getElem?_largeArea (before : i < 2 * n + 1) : (largeArea n)[i]? = some 0 := by
  rw [largeArea, List.getElem?_append_left (by simpa using before)]
  simpa [List.getElem?_replicate] using before

theorem position_largeArea (inside : k ≤ n) : position (largeArea n) k = 2 * k := by
  induction k with
  | zero => rfl
  | succ k ih =>
    have empty : (largeArea n)[2 * k + 1]? = some 0 := getElem?_largeArea (by omega)
    rw [position, ih (Nat.le_of_succ_le inside), behindOption, List.getD_eq_getElem?_getD, empty]
    rfl

/-- Its end is found beyond `INT_MAX`. -/
theorem not_scansSafely_largeArea (other : attr ≠ 0) (large : intMax < 2 * n + 257) :
    ¬ ScansSafely (largeArea n) (2 * n + 2) attr := by
  rw [scansSafely_iff (Nat.le_of_eq length_largeArea.symm)]
  intro range
  have last := position_largeArea (Nat.le_refl n)
  have visited : Visited (largeArea n) (2 * n + 2) attr n := by
    refine ⟨by omega, fun j before => ?_⟩
    rw [position_largeArea (Nat.le_of_lt before), getElem?_largeArea (by omega)]
    exact fun same => other (Option.some.inj same).symm
  have long : (largeArea n)[2 * n + 1]? = some 255 := by
    rw [largeArea, List.getElem?_append_right (by simp)]
    simp
  obtain ⟨-, fits⟩ := range n visited
  rw [position, last, behindOption, List.getD_eq_getElem?_getD, long] at fits
  exact absurd (fits (by omega)) (Nat.not_le_of_lt large)

end LargeArea

/-! ### The options of a packet -/

/-- `dp_options` of a received packet. -/
def receivedOptions (s : DhcpServer) (p : Packet) : List UInt8 :=
  (received s p).read dpOptions dpOptionsSize

section Received

variable {s : DhcpServer} {p : Packet} {attrs : List UInt8} {size ptr : Nat} {attr : UInt8}

theorem length_receivedOptions : (receivedOptions s p).length = dpOptionsSize :=
  Buffer.length_read

theorem receivedOptions_eq : receivedOptions s p =
    ((received s p).shift dpOptions).read 0 dpOptionsSize :=
  (@Buffer.read_shift (received s p) 0 dpOptionsSize dpOptions).symm

theorem holds_receivedOptions :
    ((received s p).shift dpOptions).Holds 0 (receivedOptions s p) := by
  rw [receivedOptions_eq]
  exact Buffer.holds_read

/-- What is behind `ptr` once its length is checked. -/
theorem requestedAddress_inside
    (found : findDhcpOption ((received s p).shift dpOptions) dpOptionsSize dhcpIpaddress = some ptr)
    (four : (receivedOptions s p)[ptr + 1]? = some 4) : ptr + 2 + 4 ≤ dpOptionsSize ∧
      (requestedAddress (received s p)).map Subtype.val =
        some (((receivedOptions s p).drop (ptr + 2)).take 4) := by
  have inside := findDhcpOption_inside found
  have length : (received s p).shift dpOptions (ptr + 1) = 4 := by
    obtain ⟨before, -⟩ := List.getElem?_eq_some_iff.mp four
    rw [holds_receivedOptions.getElem? before, Nat.zero_add] at four
    exact Option.some.inj four
  rw [length] at inside
  have room : ptr + 2 + 4 ≤ dpOptionsSize := by
    have bytes : (4 : UInt8).toNat = 4 := rfl
    omega
  refine ⟨room, ?_⟩
  rw [requestedAddress, found, receivedOptions_eq, Buffer.drop_take_read room, Nat.zero_add]
  dsimp only
  rw [if_neg (not_not_intro length)]
  rfl

/-- **The scan on any bytes**: it ends, reads inside its size and finds the first option of the
type, exactly as long as its `int`s do not overflow. On the options of a packet they do not, and the
address that `udp_recv_proc` takes from there lies inside of them. -/
theorem find_safe (inside : size ≤ attrs.length) :
    (ScansSafely attrs size attr ↔ InRange attrs size attr) ∧
      (size + 255 ≤ intMax → ScansSafely attrs size attr) ∧
      ∀ s p, ScansSafely (receivedOptions s p) dpOptionsSize dhcpIpaddress ∧
        ∀ log ptr,
          (checkedFind (receivedOptions s p) dpOptionsSize dhcpIpaddress).Returns log (some ptr) →
          (receivedOptions s p)[ptr + 1]? = some 4 → ptr + 2 + 4 ≤ dpOptionsSize ∧
            (requestedAddress (received s p)).map Subtype.val =
              some (((receivedOptions s p).drop (ptr + 2)).take 4) := by
  refine ⟨scansSafely_iff inside, fun small => (scansSafely_iff inside).mpr (inRange_of_size small),
    fun s p => ?_⟩
  have whole : dpOptionsSize ≤ (receivedOptions s p).length :=
    Nat.le_of_eq length_receivedOptions.symm
  refine ⟨(scansSafely_iff whole).mpr (inRange_of_size (by decide)), fun log ptr ran four => ?_⟩
  exact requestedAddress_inside (found_eq holds_receivedOptions whole ran).symm four

/-- A host name, the address, and an option that is cut off. -/
theorem find_safe_sample :
    (ScansSafely [12, 1, 65, 50, 4, 10, 0, 0, 7, 51, 4] 11 dhcpIpaddress ↔
        InRange [12, 1, 65, 50, 4, 10, 0, 0, 7, 51, 4] 11 dhcpIpaddress) ∧
      ScansSafely [12, 1, 65, 50, 4, 10, 0, 0, 7, 51, 4] 11 dhcpIpaddress :=
  have safe := @find_safe [12, 1, 65, 50, 4, 10, 0, 0, 7, 51, 4] 11 dhcpIpaddress (by decide)
  ⟨safe.1, safe.2.1 (by decide)⟩

/-- The `int`s do not suffice for every area. -/
theorem find_safe_overflow :
    (largeArea 1073741822).length = 2147483646 ∧ 2147483646 ≤ intMax ∧
      ¬ ScansSafely (largeArea 1073741822) 2147483646 dhcpIpaddress := by
  refine ⟨length_largeArea, by decide, ?_⟩
  exact not_scansSafely_largeArea (by decide) (by decide)

end Received

end Jblib.Ethutilities.DhcpServer
