/-
**One's-complement sums.**

Arithmetic with end-around carry on the residues `0 … m`, where `m` is all ones and `0` and `m` both
stand for zero.

* `add`, `sub` — the two operations; `add_modEq`, `sub_modEq`: modulo `m` they are `+` and `-`.
* `sum` — the sum of a list of words, `total` the sum without the end-around carry.
* `fold` — the carries of a plain sum added to its lower digits, as checksum code does at the end.
* `Represents` — which residues stand for a sum of words; `foldl_update_eq`: taking words out of a
  sum and adding others gives the sum of the others.
* `sum_eq_ones_iff` — a list of words verifies (its sum is all ones) exactly if its total is a
  positive multiple of `m`.
* `words` — a byte string as big-endian 16-bit words, the last one padded; `words_append`.
-/

import Mathlib.Data.Nat.ModEq

namespace Library.OnesComplement

/-! ### End-around carry -/

section Operations

variable (m : Nat)

def add (x word : Nat) : Nat := if x + word ≤ m then x + word else x + word - m

def sub (x word : Nat) : Nat := if word < x then x - word else x + m - word

variable {m} {x word : Nat}

theorem add_le (xFits : x ≤ m) (wordFits : word ≤ m) : add m x word ≤ m := by
  unfold add
  split <;> omega

theorem sub_le (xFits : x ≤ m) : sub m x word ≤ m := by
  unfold sub
  split <;> omega

theorem add_modEq : add m x word ≡ x + word [MOD m] := by
  unfold add
  split
  · rfl
  case isFalse carries =>
    have carried : x + word - m + m = x + word := Nat.sub_add_cancel (by omega)
    calc x + word - m ≡ x + word - m + m [MOD m] := by rw [Nat.ModEq, Nat.add_mod_right]
      _ = x + word := carried

theorem sub_modEq (wordFits : word ≤ m) : sub m x word + word ≡ x [MOD m] := by
  unfold sub
  split
  case isTrue below => rw [Nat.sub_add_cancel (Nat.le_of_lt below)]
  case isFalse carries =>
    rw [Nat.sub_add_cancel (Nat.le_trans wordFits (Nat.le_add_left m x)), Nat.ModEq,
      Nat.add_mod_right]

theorem add_eq_zero_iff : add m x word = 0 ↔ x = 0 ∧ word = 0 := by
  unfold add
  split <;> omega

theorem sub_eq_zero_iff (wordFits : word ≤ m) : sub m x word = 0 ↔ x = 0 ∧ word = m := by
  unfold sub
  split <;> omega

end Operations

/-! ### Sums -/

section Sums

variable (m : Nat)

/-- The one's-complement sum. -/
def sum (ws : List Nat) : Nat := ws.foldl (add m) 0

/-- The sum without end-around carry. -/
def total : List Nat → Nat
  | [] => 0
  | word :: ws => word + total ws

variable {m}

@[simp] theorem total_nil : total [] = 0 := rfl

@[simp] theorem total_cons (word : Nat) (ws : List Nat) : total (word :: ws) = word + total ws := rfl

@[simp] theorem total_append (first second : List Nat) :
    total (first ++ second) = total first + total second := by
  induction first with
  | nil => rw [List.nil_append, total_nil, Nat.zero_add]
  | cons word ws ih => rw [List.cons_append, total_cons, total_cons, ih, Nat.add_assoc]

theorem total_eq_zero_iff {ws : List Nat} : total ws = 0 ↔ ∀ word ∈ ws, word = 0 := by
  induction ws with
  | nil => simp
  | cons word ws ih => rw [total_cons, Nat.add_eq_zero_iff, ih, List.forall_mem_cons]

theorem total_le {ws : List Nat} (fits : ∀ word ∈ ws, word ≤ m) : total ws ≤ ws.length * m := by
  induction ws with
  | nil => simp
  | cons word ws ih =>
    have first := fits word List.mem_cons_self
    have rest := ih fun word member => fits word (List.mem_cons_of_mem _ member)
    rw [total_cons, List.length_cons, Nat.succ_mul]
    omega

/-- The largest total is that of all ones. -/
theorem total_eq_iff {ws : List Nat} (fits : ∀ word ∈ ws, word ≤ m) :
    total ws = ws.length * m ↔ ∀ word ∈ ws, word = m := by
  induction ws with
  | nil => simp
  | cons word ws ih =>
    have fitsRest := fun word member => fits word (List.mem_cons_of_mem _ member)
    have first := fits word List.mem_cons_self
    have rest := total_le fitsRest
    rw [List.forall_mem_cons, ← ih fitsRest, total_cons, List.length_cons, Nat.succ_mul]
    omega

/-- What a running sum makes of a list. -/
theorem foldl_add_modEq (ws : List Nat) (x : Nat) : ws.foldl (add m) x ≡ x + total ws [MOD m] := by
  induction ws generalizing x with
  | nil => rfl
  | cons word ws ih =>
    calc ws.foldl (add m) (add m x word) ≡ add m x word + total ws [MOD m] := ih _
      _ ≡ x + word + total ws [MOD m] := add_modEq.add_right _
      _ = x + total (word :: ws) := by rw [total_cons, Nat.add_assoc]

theorem foldl_add_le {ws : List Nat} (fits : ∀ word ∈ ws, word ≤ m) {x : Nat} (xFits : x ≤ m) :
    ws.foldl (add m) x ≤ m := by
  induction ws generalizing x with
  | nil => exact xFits
  | cons word ws ih =>
    exact ih (fun word member => fits word (List.mem_cons_of_mem _ member))
      (add_le xFits (fits word List.mem_cons_self))

theorem foldl_sub_le {ws : List Nat} {x : Nat} (xFits : x ≤ m) : ws.foldl (sub m) x ≤ m := by
  induction ws generalizing x with
  | nil => exact xFits
  | cons word ws ih => exact ih (sub_le xFits)

theorem foldl_sub_modEq {ws : List Nat} (fits : ∀ word ∈ ws, word ≤ m) (x : Nat) :
    ws.foldl (sub m) x + total ws ≡ x [MOD m] := by
  induction ws generalizing x with
  | nil => rfl
  | cons word ws ih =>
    have rest := ih (fun word member => fits word (List.mem_cons_of_mem _ member)) (sub m x word)
    calc ws.foldl (sub m) (sub m x word) + total (word :: ws)
        = ws.foldl (sub m) (sub m x word) + total ws + word := by
          rw [total_cons, Nat.add_assoc, Nat.add_comm word]
      _ ≡ sub m x word + word [MOD m] := rest.add_right word
      _ ≡ x [MOD m] := sub_modEq (fits word List.mem_cons_self)

/-- Only all ones, taken from zero, leave zero. -/
theorem foldl_sub_eq_zero_iff {ws : List Nat} (fits : ∀ word ∈ ws, word ≤ m) (x : Nat) :
    ws.foldl (sub m) x = 0 ↔ x = 0 ∧ ∀ word ∈ ws, word = m := by
  induction ws generalizing x with
  | nil => simp
  | cons word ws ih =>
    show ws.foldl (sub m) (sub m x word) = 0 ↔ _
    rw [ih (fun word member => fits word (List.mem_cons_of_mem _ member)),
      sub_eq_zero_iff (fits word List.mem_cons_self), and_assoc, List.forall_mem_cons]

theorem foldl_add_eq_zero_iff (ws : List Nat) (x : Nat) :
    ws.foldl (add m) x = 0 ↔ x = 0 ∧ total ws = 0 := by
  induction ws generalizing x with
  | nil => exact (and_iff_left rfl).symm
  | cons word ws ih =>
    show ws.foldl (add m) (add m x word) = 0 ↔ _
    rw [ih, add_eq_zero_iff, and_assoc, total_cons, Nat.add_eq_zero_iff]

/-- **When words verify**: their sum is all ones exactly if their total is a positive multiple. -/
theorem sum_eq_ones_iff (positive : 0 < m) {ws : List Nat} (fits : ∀ word ∈ ws, word ≤ m) :
    sum m ws = m ↔ 0 < total ws ∧ total ws ≡ 0 [MOD m] := by
  have residue : sum m ws ≡ total ws [MOD m] := by
    have run := foldl_add_modEq (m := m) ws 0
    rwa [Nat.zero_add] at run
  have zero : sum m ws = 0 ↔ total ws = 0 :=
    (foldl_add_eq_zero_iff ws 0).trans (and_iff_right rfl)
  constructor
  · intro ones
    refine ⟨Nat.pos_of_ne_zero fun none => ?_, ?_⟩
    · rw [zero.mpr none] at ones
      exact absurd ones (Nat.ne_of_lt positive)
    · rw [ones] at residue
      exact residue.symm.trans (Nat.mod_self m)
  · rintro ⟨some, multiple⟩
    have divides : m ∣ sum m ws := Nat.modEq_zero_iff_dvd.mp (residue.trans multiple)
    have nonzero : 0 < sum m ws :=
      Nat.pos_of_ne_zero fun none => Nat.ne_of_gt some (zero.mp none)
    exact Nat.le_antisymm (foldl_add_le fits (Nat.zero_le m)) (Nat.le_of_dvd nonzero divides)

end Sums

/-! ### Folding a sum -/

/-- The carries of a sum are added to its lower digits. -/
def fold (m x : Nat) : Nat := x % (m + 1) + x / (m + 1)

theorem fold_modEq (m x : Nat) : fold m x ≡ x [MOD m] := by
  have split : m * (x / (m + 1)) + fold m x = x := by
    have whole := Nat.div_add_mod x (m + 1)
    rw [Nat.succ_mul] at whole
    unfold fold
    omega
  calc fold m x ≡ m * (x / (m + 1)) + fold m x [MOD m] := by
        rw [Nat.ModEq, Nat.mul_add_mod]
    _ = x := split

theorem fold_eq_zero_iff (m x : Nat) : fold m x = 0 ↔ x = 0 := by
  constructor
  · intro zero
    have whole := Nat.div_add_mod x (m + 1)
    obtain ⟨low, high⟩ := Nat.add_eq_zero_iff.mp zero
    rw [low, high] at whole
    exact whole.symm
  · rintro rfl
    simp [fold]

/-- Folding twice is enough for a sum of less than two digits. -/
theorem fold_fold_le {m x : Nat} (small : x < (m + 1) * (m + 1)) : fold m (fold m x) ≤ m := by
  have high : x / (m + 1) ≤ m := Nat.le_of_lt_succ (Nat.div_lt_of_lt_mul small)
  have low : x % (m + 1) ≤ m := Nat.le_of_lt_succ (Nat.mod_lt x (Nat.zero_lt_succ m))
  have once : fold m x ≤ m + m := Nat.add_le_add low high
  by_cases fits : fold m x ≤ m
  · rw [fold, Nat.mod_eq_of_lt (by omega), Nat.div_eq_of_lt (by omega)]
    exact fits
  · have carry : fold m x / (m + 1) = 1 := Nat.div_eq_of_lt_le (by omega) (by omega)
    have rest := Nat.div_add_mod (fold m x) (m + 1)
    rw [carry] at rest
    rw [fold, carry]
    omega

/-! ### What a residue stands for -/

/-- `x` represents a sum of words: a sum other than zero by the residue in `1 … m`, zero by `0` or
by all ones. -/
structure Represents (m x t : Nat) : Prop where
  le : x ≤ m
  modEq : x ≡ t [MOD m]
  zero : x = 0 → t = 0

section Represents

variable {m x t word : Nat}

theorem Represents.add (stands : Represents m x t) (fits : word ≤ m) :
    Represents m (add m x word) (t + word) where
  le := add_le stands.le fits
  modEq := add_modEq.trans (stands.modEq.add_right word)
  zero none := by
    obtain ⟨start, nothing⟩ := add_eq_zero_iff.mp none
    rw [stands.zero start, nothing]

/-- A difference is never `0`: if nothing is left it is all ones. -/
theorem Represents.sub (positive : 0 < m) (stands : Represents m x (t + word)) (fits : word ≤ m) :
    Represents m (sub m x word) t where
  le := sub_le stands.le
  modEq := Nat.ModEq.add_right_cancel' word ((sub_modEq fits).trans stands.modEq)
  zero none := by
    obtain ⟨start, ones⟩ := (sub_eq_zero_iff fits).mp none
    have nothing := stands.zero start
    omega

theorem Represents.foldl_add {ws : List Nat} (fits : ∀ word ∈ ws, word ≤ m)
    (stands : Represents m x t) : Represents m (ws.foldl (OnesComplement.add m) x) (t + total ws) := by
  induction ws generalizing x t with
  | nil => exact stands
  | cons word ws ih =>
    have first := stands.add (fits word List.mem_cons_self)
    have rest := ih (fun word member => fits word (List.mem_cons_of_mem _ member)) first
    rw [Nat.add_assoc] at rest
    exact rest

theorem Represents.foldl_sub (positive : 0 < m) {ws : List Nat} (fits : ∀ word ∈ ws, word ≤ m)
    (stands : Represents m x (t + total ws)) :
    Represents m (ws.foldl (OnesComplement.sub m) x) t := by
  induction ws generalizing x with
  | nil => exact stands
  | cons word ws ih =>
    have start : Represents m x (t + total ws + word) := by
      rw [Nat.add_assoc, Nat.add_comm (total ws)]
      exact stands
    exact ih (fun word member => fits word (List.mem_cons_of_mem _ member))
      (start.sub positive (fits word List.mem_cons_self))

/-- Only zero has two residues. -/
theorem Represents.unique {y : Nat} (stands : Represents m x t) (stands' : Represents m y t)
    (some : t ≠ 0) : x = y := by
  have xPos : x ≠ 0 := fun none => some (stands.zero none)
  have yPos : y ≠ 0 := fun none => some (stands'.zero none)
  have xLe := stands.le
  have yLe := stands'.le
  have same : x ≡ y [MOD m] := stands.modEq.trans stands'.modEq.symm
  rcases Nat.le_total x y with below | above
  · have divides := (Nat.modEq_iff_dvd' below).mp same
    have none := Nat.eq_zero_of_dvd_of_lt divides (by omega)
    omega
  · have divides := (Nat.modEq_iff_dvd' above).mp same.symm
    have none := Nat.eq_zero_of_dvd_of_lt divides (by omega)
    omega

/-- **An incremental update is the sum of the new words**, unless they are all zero. -/
theorem foldl_update_eq {y rest : Nat} {olds news : List Nat} (positive : 0 < m)
    (oldFits : ∀ word ∈ olds, word ≤ m) (newFits : ∀ word ∈ news, word ≤ m)
    (before : Represents m x (rest + total olds)) (after : Represents m y (rest + total news))
    (some : rest + total news ≠ 0) :
    news.foldl (OnesComplement.add m) (olds.foldl (OnesComplement.sub m) x) = y :=
  ((before.foldl_sub positive oldFits).foldl_add newFits).unique after some

end Represents

/-! ### Byte strings as words -/

/-- Two bytes as a big-endian word. -/
def word (high low : UInt8) : Nat := high.toNat * 256 + low.toNat

theorem word_le (high low : UInt8) : word high low ≤ 65535 := by
  have := high.toNat_lt
  have := low.toNat_lt
  unfold word
  omega

/-- The big-endian 16-bit words of a byte string, a last single byte padded with zero. -/
def words : List UInt8 → List Nat
  | [] => []
  | [high] => [word high 0]
  | high :: low :: bytes => word high low :: words bytes

theorem words_le (bytes : List UInt8) : ∀ w ∈ words bytes, w ≤ 65535 := by
  fun_induction words bytes with
  | case1 => exact fun _ member => nomatch member
  | case2 high =>
    intro w member
    rw [List.mem_singleton.mp member]
    exact word_le high 0
  | case3 high low bytes ih =>
    intro w member
    rcases List.mem_cons.mp member with rfl | member
    · exact word_le high low
    · exact ih w member

theorem length_words (bytes : List UInt8) : (words bytes).length = (bytes.length + 1) / 2 := by
  fun_induction words bytes with
  | case1 => simp
  | case2 high => simp
  | case3 high low bytes ih =>
    simp only [List.length_cons, ih]
    omega

theorem total_words_eq_zero_iff (bytes : List UInt8) :
    total (words bytes) = 0 ↔ ∀ byte ∈ bytes, byte = 0 := by
  have both : ∀ high low : UInt8, word high low = 0 ↔ high = 0 ∧ low = 0 := fun high low => by
    rw [word, ← UInt8.toNat_inj, ← UInt8.toNat_inj, UInt8.toNat_zero]
    omega
  fun_induction words bytes with
  | case1 => simp
  | case2 high => simp [both]
  | case3 high low bytes ih =>
    have rest : total (words bytes) = 0 ↔ ∀ byte ∈ bytes, byte = 0 := ih
    rw [total_cons, Nat.add_eq_zero_iff, rest, both, List.forall_mem_cons, List.forall_mem_cons,
      and_assoc]

/-- A word taken apart into its bytes. -/
theorem word_ofNat {value : Nat} (fits : value ≤ 65535) :
    word (UInt8.ofNat (value / 256)) (UInt8.ofNat (value % 256)) = value := by
  have high : (UInt8.ofNat (value / 256)).toNat = value / 256 := by
    rw [UInt8.toNat_ofNat', Nat.mod_eq_of_lt (by omega)]
  have low : (UInt8.ofNat (value % 256)).toNat = value % 256 := by
    rw [UInt8.toNat_ofNat', Nat.mod_eq_of_lt (by omega)]
  rw [word, high, low]
  omega

theorem words_append {first : List UInt8} (even : first.length % 2 = 0) (second : List UInt8) :
    words (first ++ second) = words first ++ words second := by
  fun_induction words first with
  | case1 => rfl
  | case2 high => exact nomatch even
  | case3 high low bytes ih =>
    have evenRest : bytes.length % 2 = 0 := by
      rw [List.length_cons, List.length_cons, Nat.add_assoc, Nat.add_mod_right] at even
      exact even
    show word high low :: words (bytes ++ second) = word high low :: (words bytes ++ words second)
    rw [ih evenRest]

end Library.OnesComplement
