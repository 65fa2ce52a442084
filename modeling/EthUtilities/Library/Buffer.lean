/-
**Byte memory: reads and writes of byte strings at offsets.**

* `Bytes n` — byte strings of a fixed length, the values of a C array `uint8_t[n]`; `memcmp` on two
  such arrays is equality here.
* `Buffer` — the bytes from an address on. `read`, `write` (`memcpy` into the buffer), `field`.
* `read_write_inside`, `read_write_apart` — what a read sees of a write to the same place or to a
  disjoint one. `write_write` — two writes one behind the other are one write.
* `Holds` — the buffer holds a byte string at an offset; `holds_append` takes it apart.
-/

import Mathlib.Data.List.Basic

namespace Library

/-- A byte string of length `n`. -/
abbrev Bytes (n : Nat) := { bytes : List UInt8 // bytes.length = n }

/-- `n` zero bytes. -/
def Bytes.zero (n : Nat) : Bytes n := ⟨List.replicate n 0, List.length_replicate⟩

/-- The bytes from an address on. -/
abbrev Buffer := Nat → UInt8

namespace Buffer

def read (b : Buffer) (offset : Nat) : Nat → List UInt8
  | 0 => []
  | n + 1 => b offset :: read b (offset + 1) n

/-- `memcpy(b + offset, bytes, …)`. -/
def write (b : Buffer) (offset : Nat) (bytes : List UInt8) : Buffer := fun i =>
  if offset ≤ i then bytes.getD (i - offset) (b i) else b i

/-- `b + offset`. -/
def shift (b : Buffer) (offset : Nat) : Buffer := fun i => b (offset + i)

/-- The buffer holds `bytes` at `offset`. -/
def Holds (b : Buffer) : Nat → List UInt8 → Prop
  | _, [] => True
  | offset, byte :: bytes => b offset = byte ∧ Holds b (offset + 1) bytes

variable {b : Buffer} {offset n : Nat} {bytes : List UInt8}

@[simp] theorem length_read : (b.read offset n).length = n := by
  induction n generalizing offset with
  | zero => rfl
  | succ n ih => exact congrArg (· + 1) ih

/-- The array of `n` bytes at `offset`. -/
def field (b : Buffer) (offset n : Nat) : Bytes n := ⟨b.read offset n, length_read⟩

/-! ### Reads -/

theorem read_append (k : Nat) : b.read offset (k + n) = b.read offset k ++ b.read (offset + k) n := by
  induction k generalizing offset with
  | zero => rw [Nat.zero_add]; rfl
  | succ k ih =>
    rw [Nat.succ_add]
    show b offset :: b.read (offset + 1) (k + n) = _
    rw [ih, Nat.add_assoc, Nat.add_comm 1 k]
    rfl

/-- A part of what was read. -/
theorem drop_take_read {k m : Nat} (inside : k + m ≤ n) :
    ((b.read offset n).drop k).take m = b.read (offset + k) m := by
  obtain ⟨rest, rfl⟩ := Nat.exists_eq_add_of_le inside
  rw [Nat.add_assoc, read_append k, List.drop_left' length_read, read_append m,
    List.take_left' length_read]

/-- The front of what was read. -/
theorem read_prefix {front behind : List UInt8} (whole : b.read offset n = front ++ behind) :
    b.read offset front.length = front := by
  have size : n = front.length + behind.length := by
    rw [← List.length_append, ← whole, length_read]
  rw [size, read_append] at whole
  exact (List.append_inj whole length_read).1

theorem read_congr {b' : Buffer} (same : ∀ i, offset ≤ i → i < offset + n → b' i = b i) :
    b'.read offset n = b.read offset n := by
  induction n generalizing offset with
  | zero => rfl
  | succ n ih =>
    show b' offset :: b'.read (offset + 1) n = b offset :: b.read (offset + 1) n
    rw [same offset (Nat.le_refl _) (by omega), ih fun i after before =>
      same i (by omega) (by omega)]

theorem getElem_read {i : Nat} (inside : i < (b.read offset n).length) :
    (b.read offset n)[i] = b (offset + i) := by
  induction n generalizing offset i with
  | zero => exact absurd inside (Nat.not_lt_zero i)
  | succ n ih =>
    cases i with
    | zero => rfl
    | succ i =>
      have later := @ih (offset + 1) i (Nat.lt_of_succ_lt_succ inside)
      rw [Nat.add_assoc, Nat.add_comm 1 i] at later
      exact later

theorem read_eq_iff {b' : Buffer} :
    b.read offset n = b'.read offset n ↔ ∀ i < n, b (offset + i) = b' (offset + i) := by
  induction n generalizing offset with
  | zero => exact iff_of_true rfl fun i before => absurd before (Nat.not_lt_zero i)
  | succ n ih =>
    show b offset :: b.read (offset + 1) n = b' offset :: b'.read (offset + 1) n ↔ _
    rw [List.cons.injEq, ih]
    constructor
    · rintro ⟨first, rest⟩ (_ | i) before
      · exact first
      · have later := rest i (Nat.lt_of_succ_lt_succ before)
        rwa [Nat.add_assoc, Nat.add_comm 1 i] at later
    · intro same
      refine ⟨same 0 (Nat.zero_lt_succ n), fun i before => ?_⟩
      have later := same (i + 1) (Nat.succ_lt_succ before)
      rwa [Nat.add_comm i 1, ← Nat.add_assoc] at later

theorem read_shift {base : Nat} : (b.shift base).read offset n = b.read (base + offset) n := by
  induction n generalizing offset with
  | zero => rfl
  | succ n ih => exact congrArg (b (base + offset) :: ·) (@ih (offset + 1))

/-! ### Writes -/

theorem write_before {i : Nat} (before : i < offset) : b.write offset bytes i = b i :=
  if_neg (Nat.not_le_of_lt before)

theorem write_after {i : Nat} (after : offset + bytes.length ≤ i) :
    b.write offset bytes i = b i := by
  rw [write, if_pos (by omega), List.getD_eq_getElem?_getD, List.getElem?_eq_none (by omega)]
  rfl

theorem write_inside {k : Nat} (inside : k < bytes.length) :
    b.write offset bytes (offset + k) = bytes[k] := by
  rw [write, if_pos (Nat.le_add_right _ _), Nat.add_sub_cancel_left, List.getD_eq_getElem?_getD,
    List.getElem?_eq_getElem inside]
  rfl

/-- A write to memories that agree at a place. -/
theorem write_congr {b' : Buffer} {i : Nat} (same : b i = b' i) :
    b.write offset bytes i = b'.write offset bytes i := by
  rw [write, write, same]

/-- A byte that was copied. -/
theorem write_read_eq {source : Buffer} {i : Nat} (inside : i < n) :
    b.write 0 (source.read 0 n) i = source i := by
  have copied : i < (source.read 0 n).length := by
    rw [length_read]
    exact inside
  have byte : b.write 0 (source.read 0 n) (0 + i) = (source.read 0 n)[i] := write_inside copied
  rwa [Nat.zero_add, getElem_read, Nat.zero_add] at byte

/-- When a copied byte is the one that was there. -/
theorem write_eq_iff {source : Buffer} {i : Nat} :
    b i = b.write offset (source.read 0 n) i ↔ ∀ k < n, i = offset + k → source k = b i := by
  by_cases inside : offset ≤ i ∧ i < offset + n
  · obtain ⟨k, rfl⟩ := Nat.exists_eq_add_of_le inside.1
    have before : k < n := Nat.lt_of_add_lt_add_left inside.2
    have copied : k < (source.read 0 n).length := by
      rw [length_read]
      exact before
    rw [write_inside copied, getElem_read, Nat.zero_add]
    constructor
    · intro same j _ here
      rw [← Nat.add_left_cancel here]
      exact same.symm
    · intro always
      exact (always k before rfl).symm
  · refine iff_of_true ?_ fun k before here => absurd ⟨?_, ?_⟩ inside
    · rcases Nat.lt_or_ge i offset with before | behind
      · exact (write_before before).symm
      · refine (write_after ?_).symm
        rw [length_read]
        exact Nat.le_of_not_lt fun before => inside ⟨behind, before⟩
    · exact here ▸ Nat.le_add_right _ _
    · exact here ▸ Nat.add_lt_add_left before offset

@[simp] theorem write_nil : b.write offset [] = b := by
  funext i
  rw [write, List.getD_nil, ite_self]

/-- A write and then one right behind it. -/
theorem write_write {more : List UInt8} :
    (b.write offset bytes).write (offset + bytes.length) more =
      b.write offset (bytes ++ more) := by
  funext i
  by_cases before : i < offset
  · rw [write_before (by omega), write_before before, write_before before]
  by_cases inFirst : i < offset + bytes.length
  · obtain ⟨k, rfl⟩ := Nat.exists_eq_add_of_le (Nat.le_of_not_lt before)
    have inside : k < bytes.length := by omega
    rw [write_before inFirst, write_inside inside,
      write_inside (by rw [List.length_append]; omega), List.getElem_append_left inside]
  by_cases inSecond : i < offset + bytes.length + more.length
  · obtain ⟨k, rfl⟩ := Nat.exists_eq_add_of_le (Nat.le_of_not_lt inFirst)
    have inside : k < more.length := by omega
    rw [write_inside inside, Nat.add_assoc, write_inside (by rw [List.length_append]; omega),
      List.getElem_append_right (Nat.le_add_right _ _)]
    congr 1
    omega
  · rw [write_after (by omega), write_after (by omega),
      write_after (by rw [List.length_append]; omega)]

theorem write_next {next : Nat} {more : List UInt8} (behind : offset + bytes.length = next) :
    (b.write offset bytes).write next more = b.write offset (bytes ++ more) :=
  behind ▸ write_write

/-- A write inside of what was written before. -/
theorem write_within {front middle behind : List UInt8} {k : Nat}
    (place : offset + front.length = k) (size : bytes.length = middle.length) :
    (b.write offset (front ++ (middle ++ behind))).write k bytes =
      b.write offset (front ++ (bytes ++ behind)) := by
  subst place
  funext i
  have arranged : b.write offset (front ++ (bytes ++ behind)) =
      ((b.write offset front).write (offset + front.length) bytes).write
        (offset + front.length + middle.length) behind := by
    rw [← write_write, ← write_write, size]
  rw [arranged, ← write_write, ← write_write]
  by_cases before : i < offset + front.length
  · have kept : ∀ {m : Buffer} {k : Nat} {more : List UInt8}, offset + front.length ≤ k →
        m.write k more i = m i := fun later => write_before (Nat.lt_of_lt_of_le before later)
    rw [kept (Nat.le_refl _), kept (Nat.le_add_right _ _), kept (Nat.le_refl _),
      kept (Nat.le_add_right _ middle.length), kept (Nat.le_refl _)]
  by_cases inside : i < offset + front.length + bytes.length
  · obtain ⟨j, rfl⟩ := Nat.exists_eq_add_of_le (Nat.le_of_not_lt before)
    have written : j < bytes.length := Nat.lt_of_add_lt_add_left inside
    rw [write_inside written, write_before (by omega), write_inside written]
  · have behindBoth : ∀ {m : Buffer} {more : List UInt8}, more.length = middle.length →
        m.write (offset + front.length) more i = m i := fun same => write_after (by omega)
    rw [behindBoth size]
    refine write_congr ?_
    rw [behindBoth rfl, behindBoth size]

/-- Writing what is there already. -/
theorem write_read_self {k : Nat} (place : offset + bytes.length = k) :
    b.write offset (bytes ++ b.read k n) = b.write offset bytes := by
  subst place
  rw [← write_write]
  funext i
  by_cases inside : offset + bytes.length ≤ i ∧ i < offset + bytes.length + n
  · obtain ⟨j, rfl⟩ := Nat.exists_eq_add_of_le inside.1
    have there : j < (b.read (offset + bytes.length) n).length := by
      rw [length_read]
      omega
    rw [write_inside there, getElem_read, write_after (Nat.le_add_right _ _)]
  · rcases Nat.lt_or_ge i (offset + bytes.length) with before | after
    · exact write_before before
    · refine write_after ?_
      rw [length_read]
      omega

/-- Reading apart from where was written. -/
theorem read_write_apart {start : Nat}
    (apart : start + n ≤ offset ∨ offset + bytes.length ≤ start) :
    (b.write offset bytes).read start n = b.read start n := by
  refine read_congr fun i after before => ?_
  rcases apart with front | behind
  · exact write_before (by omega)
  · exact write_after (by omega)

/-- Reading within what was written. -/
theorem read_write_inside {k : Nat} (inside : k + n ≤ bytes.length) :
    (b.write offset bytes).read (offset + k) n = (bytes.drop k).take n := by
  induction n generalizing k with
  | zero => rfl
  | succ n ih =>
    show b.write offset bytes (offset + k) ::
      (b.write offset bytes).read (offset + (k + 1)) n = _
    have here : k < bytes.length := by omega
    rw [ih (show k + 1 + n ≤ bytes.length by omega), write_inside here,
      List.drop_eq_getElem_cons here, List.take_succ_cons]

/-- Reading back what was written. -/
theorem read_write_self : (b.write offset bytes).read offset bytes.length = bytes := by
  have whole : (b.write offset bytes).read (offset + 0) bytes.length =
    (bytes.drop 0).take bytes.length := read_write_inside (by omega)
  rw [Nat.add_zero, List.drop_zero, List.take_length] at whole
  exact whole

theorem read_write_array (value : Bytes n) :
    (b.write offset value.val).read offset n = value.val := by
  obtain ⟨bytes, rfl⟩ := value
  exact read_write_self

/-! ### The same bytes -/

/-- The first `n` bytes of two buffers are the same. -/
def AgreeBelow (n : Nat) (b b' : Buffer) : Prop := ∀ i < n, b i = b' i

section AgreeBelow

variable {b' : Buffer} {k m : Nat}

theorem AgreeBelow.read (agree : AgreeBelow n b b') (inside : k + m ≤ n) :
    b.read k m = b'.read k m :=
  read_eq_iff.mpr fun i before => agree (k + i) (by omega)

theorem AgreeBelow.field (agree : AgreeBelow n b b') (inside : k + m ≤ n) :
    b.field k m = b'.field k m :=
  Subtype.ext (agree.read inside)

theorem AgreeBelow.mono (agree : AgreeBelow n b b') (fewer : m ≤ n) : AgreeBelow m b b' :=
  fun i before => agree i (Nat.lt_of_lt_of_le before fewer)

theorem AgreeBelow.symm (agree : AgreeBelow n b b') : AgreeBelow n b' b :=
  fun i before => (agree i before).symm

theorem AgreeBelow.trans {b'' : Buffer} (first : AgreeBelow n b b') (second : AgreeBelow n b' b'') :
    AgreeBelow n b b'' :=
  fun i before => (first i before).trans (second i before)

/-- The same write to both. -/
theorem AgreeBelow.write (agree : AgreeBelow n b b') (offset : Nat) (bytes : List UInt8) :
    AgreeBelow n (b.write offset bytes) (b'.write offset bytes) :=
  fun i before => write_congr (agree i before)

/-- What was written does not depend on what was there. -/
theorem agreeBelow_write (b b' : Buffer) (bytes : List UInt8) :
    AgreeBelow bytes.length (b.write 0 bytes) (b'.write 0 bytes) := by
  intro i before
  have here : ∀ c : Buffer, c.write 0 bytes (0 + i) = bytes[i] := fun c => write_inside before
  rw [Nat.zero_add] at here
  exact (here b).trans (here b').symm

/-- A write behind the bytes. -/
theorem agreeBelow_write_behind (outside : n ≤ offset) : AgreeBelow n (b.write offset bytes) b :=
  fun _ before => write_before (Nat.lt_of_lt_of_le before outside)

theorem agreeBelow_update (outside : n ≤ k) (byte : UInt8) :
    AgreeBelow n b (Function.update b k byte) := fun i before => by
  rw [Function.update_of_ne (by omega)]

/-- A byte that is read matters. -/
theorem read_update_ne {byte : UInt8} (inside : k < m) (other : byte ≠ b (offset + k)) :
    read (Function.update b (offset + k) byte) offset m ≠ b.read offset m := by
  intro same
  have here := read_eq_iff.mp same k inside
  rw [Function.update_self] at here
  exact other here

end AgreeBelow

/-! ### Contents -/

theorem holds_iff_read : b.Holds offset bytes ↔ b.read offset bytes.length = bytes := by
  induction bytes generalizing offset with
  | nil => exact iff_of_true trivial rfl
  | cons byte bytes ih =>
    show (b offset = byte ∧ b.Holds (offset + 1) bytes) ↔
      b offset :: b.read (offset + 1) bytes.length = byte :: bytes
    rw [ih, List.cons.injEq]

theorem Holds.getElem? {i : Nat} (held : b.Holds offset bytes) (inside : i < bytes.length) :
    bytes[i]? = some (b (offset + i)) := by
  induction bytes generalizing offset i with
  | nil => exact absurd inside (Nat.not_lt_zero i)
  | cons byte bytes ih =>
    obtain ⟨first, rest⟩ := held
    cases i with
    | zero => exact congrArg some first.symm
    | succ i =>
      have later := ih rest (Nat.lt_of_succ_lt_succ inside)
      rw [Nat.add_assoc, Nat.add_comm 1 i] at later
      exact later

theorem holds_append {more : List UInt8} :
    b.Holds offset (bytes ++ more) ↔
      b.Holds offset bytes ∧ b.Holds (offset + bytes.length) more := by
  induction bytes generalizing offset with
  | nil => exact (true_and _).symm.to_iff
  | cons byte bytes ih =>
    show (b offset = byte ∧ b.Holds (offset + 1) (bytes ++ more)) ↔
      (b offset = byte ∧ b.Holds (offset + 1) bytes) ∧ _
    rw [ih, and_assoc, List.length_cons, Nat.add_assoc, Nat.add_comm 1]

theorem holds_shift {base : Nat} :
    (b.shift base).Holds offset bytes ↔ b.Holds (base + offset) bytes := by
  induction bytes generalizing offset with
  | nil => exact Iff.rfl
  | cons byte bytes ih =>
    show (b (base + offset) = byte ∧ (b.shift base).Holds (offset + 1) bytes) ↔
      (b (base + offset) = byte ∧ _)
    rw [ih, Nat.add_assoc]

/-- What lies in front of a part of the contents. -/
theorem holds_iff_prefix {front : List UInt8} (held : b.Holds offset bytes)
    (inside : front.length ≤ bytes.length) : b.Holds offset front ↔ front <+: bytes := by
  obtain ⟨rest, size⟩ := Nat.exists_eq_add_of_le inside
  have whole := holds_iff_read.mp held
  rw [size, read_append] at whole
  constructor
  · intro here
    rw [holds_iff_read.mp here] at whole
    exact ⟨_, whole⟩
  · rintro ⟨behind, rfl⟩
    exact (holds_append.mp held).1

theorem holds_read : b.Holds offset (b.read offset n) := by
  rw [holds_iff_read, length_read]

end Buffer

end Library
