/-
**DNS messages on the wire.**

* `Name`, `Question`, `Record`, `Message` — what a message says; a name is a list of labels, which
  may go on at an offset of the message.
* `decodeMessage` — reads the counts of the header, then exactly so many questions and records, and
  accepts only if nothing is left over. (The limit of 255 bytes for a whole name is not checked.)
* `encodeLabels`, `decodeName_encode`, `forall_lt_of_decodeName` — a name without a pointer is read
  back exactly if its labels have at most 63 bytes.
* `labelsOf` — the labels of a name whose length bytes are taken as they are.
-/

import EthUtilities.Library.OnesComplement

namespace Library.DnsMessage

open OnesComplement (word)

structure Name where
  labels : List (List UInt8)
  /-- the offset at which the name goes on -/
  pointer : Option Nat
  deriving DecidableEq

structure Question where
  name : Name
  type : Nat
  Class : Nat
  deriving DecidableEq

structure Record where
  name : Name
  type : Nat
  Class : Nat
  ttl : Nat
  data : List UInt8
  deriving DecidableEq

structure Message where
  id : Nat
  flags : Nat
  questions : List Question
  answers : List Record
  authority : List Record
  additional : List Record
  deriving DecidableEq

/-! ### Decoding -/

def takeWord : List UInt8 → Option (Nat × List UInt8)
  | high :: low :: bytes => some (word high low, bytes)
  | _ => none

/-- A name; `fuel` bounds the number of its labels. -/
def decodeName : (fuel : Nat) → List UInt8 → Option (Name × List UInt8)
  | 0, _ => none
  | _ + 1, [] => none
  | fuel + 1, length :: bytes =>
    if length = 0 then some (⟨[], none⟩, bytes)
    else if length.toNat < 64 then
      if bytes.length < length.toNat then none
      else (decodeName fuel (bytes.drop length.toNat)).map fun decoded =>
        (⟨bytes.take length.toNat :: decoded.1.labels, decoded.1.pointer⟩, decoded.2)
    else if 192 ≤ length.toNat then
      bytes.head?.map fun low => (⟨[], some (word (length - 192) low)⟩, bytes.tail)
    else none

def decodeQuestion (bytes : List UInt8) : Option (Question × List UInt8) := do
  let (name, bytes) ← decodeName bytes.length bytes
  let (type, bytes) ← takeWord bytes
  let (Class, bytes) ← takeWord bytes
  some (⟨name, type, Class⟩, bytes)

def decodeRecord (bytes : List UInt8) : Option (Record × List UInt8) := do
  let (name, bytes) ← decodeName bytes.length bytes
  let (type, bytes) ← takeWord bytes
  let (Class, bytes) ← takeWord bytes
  let (ttlHigh, bytes) ← takeWord bytes
  let (ttlLow, bytes) ← takeWord bytes
  let (length, bytes) ← takeWord bytes
  if bytes.length < length then none
  else some (⟨name, type, Class, ttlHigh * 65536 + ttlLow, bytes.take length⟩, bytes.drop length)

/-- A given number of things, one after the other. -/
def decodeMany {α : Type*} (decode : List UInt8 → Option (α × List UInt8)) :
    Nat → List UInt8 → Option (List α × List UInt8)
  | 0, bytes => some ([], bytes)
  | n + 1, bytes => do
    let (first, bytes) ← decode bytes
    let (rest, bytes) ← decodeMany decode n bytes
    some (first :: rest, bytes)

/-- The sections behind the header. -/
def decodeSections (id flags questions answers authority additional : Nat) (bytes : List UInt8) :
    Option Message := do
  let (questions, bytes) ← decodeMany decodeQuestion questions bytes
  let (answers, bytes) ← decodeMany decodeRecord answers bytes
  let (authority, bytes) ← decodeMany decodeRecord authority bytes
  let (additional, bytes) ← decodeMany decodeRecord additional bytes
  if bytes = [] then some ⟨id, flags, questions, answers, authority, additional⟩ else none

def decodeMessage (bytes : List UInt8) : Option Message := do
  let (id, bytes) ← takeWord bytes
  let (flags, bytes) ← takeWord bytes
  let (questions, bytes) ← takeWord bytes
  let (answers, bytes) ← takeWord bytes
  let (authority, bytes) ← takeWord bytes
  let (additional, bytes) ← takeWord bytes
  decodeSections id flags questions answers authority additional bytes

/-! ### Sections -/

section Many

variable {α : Type*} {decode : List UInt8 → Option (α × List UInt8)} {n : Nat}
  {bytes rest : List UInt8} {items : List α}

/-- As many things are read as the count says. -/
theorem length_of_decodeMany (decoded : decodeMany decode n bytes = some (items, rest)) :
    items.length = n := by
  induction n generalizing bytes items rest with
  | zero => exact (Prod.mk.inj (Option.some.inj decoded)).1 ▸ rfl
  | succ n ih =>
    unfold decodeMany at decoded
    obtain ⟨⟨first, middle⟩, _, decoded⟩ := Option.bind_eq_some_iff.mp decoded
    obtain ⟨⟨others, last⟩, more, decoded⟩ := Option.bind_eq_some_iff.mp decoded
    rw [← (Prod.mk.inj (Option.some.inj decoded)).1, List.length_cons, ih more]

theorem decodeMany_one {item : α} (decoded : decode bytes = some (item, rest)) :
    decodeMany decode 1 bytes = some ([item], rest) := by
  unfold decodeMany decodeMany
  rw [decoded]
  rfl

theorem of_decodeMany_one {item : α} (decoded : decodeMany decode 1 bytes = some ([item], rest)) :
    decode bytes = some (item, rest) := by
  unfold decodeMany decodeMany at decoded
  obtain ⟨⟨first, middle⟩, here, decoded⟩ := Option.bind_eq_some_iff.mp decoded
  obtain ⟨same, last⟩ := Prod.mk.inj (Option.some.inj decoded)
  rw [here, (List.cons.inj same).1, ← last]

end Many

/-- What a decoded message says about its sections. -/
theorem of_decodeSections {id flags questions answers authority additional : Nat}
    {bytes : List UInt8} {message : Message}
    (decoded : decodeSections id flags questions answers authority additional bytes =
      some message) :
    (∃ rest, decodeMany decodeQuestion questions bytes = some (message.questions, rest)) ∧
      message.authority.length = authority ∧ message.additional.length = additional := by
  unfold decodeSections at decoded
  obtain ⟨⟨first, bytes₁⟩, here, decoded⟩ := Option.bind_eq_some_iff.mp decoded
  obtain ⟨⟨second, bytes₂⟩, _, decoded⟩ := Option.bind_eq_some_iff.mp decoded
  obtain ⟨⟨third, bytes₃⟩, thirdHere, decoded⟩ := Option.bind_eq_some_iff.mp decoded
  obtain ⟨⟨fourth, bytes₄⟩, fourthHere, decoded⟩ := Option.bind_eq_some_iff.mp decoded
  dsimp only at decoded
  split at decoded
  · cases decoded
    exact ⟨⟨bytes₁, here⟩, length_of_decodeMany thirdHere, length_of_decodeMany fourthHere⟩
  · cases decoded

/-! ### Names without pointers -/

/-- Labels as they are written: each behind its length. -/
def encodeLabels (labels : List (List UInt8)) : List UInt8 :=
  labels.flatMap fun label => UInt8.ofNat label.length :: label

/-- The labels in front of an empty one; `fuel` bounds their number. -/
def labelsOf : (fuel : Nat) → List UInt8 → List (List UInt8)
  | 0, _ => []
  | _ + 1, [] => []
  | fuel + 1, length :: bytes =>
    if length = 0 then []
    else bytes.take length.toNat :: labelsOf fuel (bytes.drop length.toNat)

section Names

variable {labels : List (List UInt8)} {rest : List UInt8} {fuel : Nat}

/-- Labels that have a length byte, and not the one that ends a name. -/
def Encodable (labels : List (List UInt8)) : Prop :=
  ∀ label ∈ labels, 0 < label.length ∧ label.length < 256

theorem Encodable.head {label : List UInt8} (encodable : Encodable (label :: labels)) :
    (UInt8.ofNat label.length).toNat = label.length ∧ UInt8.ofNat label.length ≠ 0 := by
  obtain ⟨positive, fits⟩ := encodable label List.mem_cons_self
  have same : (UInt8.ofNat label.length).toNat = label.length := by
    rw [UInt8.toNat_ofNat', Nat.mod_eq_of_lt fits]
  refine ⟨same, fun zero => Nat.ne_of_gt positive ?_⟩
  rw [← same, zero]
  rfl

theorem Encodable.tail {label : List UInt8} (encodable : Encodable (label :: labels)) :
    Encodable labels :=
  fun other member => encodable other (List.mem_cons_of_mem _ member)

theorem encodeLabels_cons (label : List UInt8) :
    encodeLabels (label :: labels) ++ rest =
      UInt8.ofNat label.length :: (label ++ (encodeLabels labels ++ rest)) := by
  show (UInt8.ofNat label.length :: label) ++ encodeLabels labels ++ rest = _
  rw [List.append_assoc]
  rfl

theorem length_encodeLabels (labels : List (List UInt8)) :
    (encodeLabels labels).length = (labels.map List.length).sum + labels.length := by
  induction labels with
  | nil => rfl
  | cons label labels ih =>
    have unfolded : encodeLabels (label :: labels) ++ [] =
        UInt8.ofNat label.length :: (label ++ (encodeLabels labels ++ [])) := encodeLabels_cons label
    rw [List.append_nil, List.append_nil] at unfolded
    rw [unfolded, List.length_cons, List.length_append, ih, List.map_cons, List.sum_cons,
      List.length_cons]
    omega

theorem length_le_encodeLabels (labels : List (List UInt8)) :
    labels.length ≤ (encodeLabels labels).length := by
  rw [length_encodeLabels]
  exact Nat.le_add_left _ _

theorem labelsOf_encode (encodable : Encodable labels) (bounded : labels.length < fuel) :
    labelsOf fuel (encodeLabels labels ++ 0 :: rest) = labels := by
  induction labels generalizing fuel with
  | nil =>
    cases fuel with
    | zero => exact absurd bounded (Nat.not_lt_zero 0)
    | succ fuel => exact if_pos rfl
  | cons label labels ih =>
    cases fuel with
    | zero => exact absurd bounded (Nat.not_lt_zero _)
    | succ fuel =>
      obtain ⟨same, nonzero⟩ := encodable.head
      rw [encodeLabels_cons, labelsOf, if_neg nonzero, same, List.take_left, List.drop_left,
        ih encodable.tail (Nat.lt_of_succ_lt_succ bounded)]

/-- **Round trip** of a name whose labels have at most 63 bytes. -/
theorem decodeName_encode (encodable : Encodable labels)
    (short : ∀ label ∈ labels, label.length ≤ 63) (bounded : labels.length < fuel) :
    decodeName fuel (encodeLabels labels ++ 0 :: rest) = some (⟨labels, none⟩, rest) := by
  induction labels generalizing fuel with
  | nil =>
    cases fuel with
    | zero => exact absurd bounded (Nat.not_lt_zero 0)
    | succ fuel => exact if_pos rfl
  | cons label labels ih =>
    cases fuel with
    | zero => exact absurd bounded (Nat.not_lt_zero _)
    | succ fuel =>
      obtain ⟨same, nonzero⟩ := encodable.head
      have here : label.length < 64 := Nat.lt_succ_of_le (short label List.mem_cons_self)
      have room : ¬ (label ++ (encodeLabels labels ++ 0 :: rest)).length < label.length := by
        rw [List.length_append]
        exact Nat.not_lt_of_le (Nat.le_add_right _ _)
      rw [encodeLabels_cons, decodeName, if_neg nonzero, same, if_pos here, if_neg room,
        List.take_left, List.drop_left, ih encodable.tail
          (fun other member => short other (List.mem_cons_of_mem _ member))
          (Nat.lt_of_succ_lt_succ bounded)]
      rfl

/-- A longer label is not read as one. -/
theorem forall_le_of_decodeName (encodable : Encodable labels) {name : Name}
    {last : List UInt8} (plain : name.pointer = none)
    (decoded : decodeName fuel (encodeLabels labels ++ 0 :: rest) = some (name, last)) :
    ∀ label ∈ labels, label.length ≤ 63 := by
  induction labels generalizing fuel name last with
  | nil => exact fun _ member => nomatch member
  | cons label labels ih =>
    cases fuel with
    | zero => exact nomatch decoded
    | succ fuel =>
      obtain ⟨same, nonzero⟩ := encodable.head
      rw [encodeLabels_cons, decodeName, if_neg nonzero, same] at decoded
      by_cases here : label.length < 64
      · rw [if_pos here] at decoded
        split at decoded
        · exact nomatch decoded
        · rw [List.drop_left] at decoded
          obtain ⟨⟨others, bytes⟩, more, decoded⟩ := Option.map_eq_some_iff.mp decoded
          have plainRest : others.pointer = none := by
            rw [← (Prod.mk.inj decoded).1] at plain
            exact plain
          intro other member
          rcases List.mem_cons.mp member with rfl | member
          · exact Nat.le_of_lt_succ here
          · exact ih encodable.tail plainRest more other member
      · rw [if_neg here] at decoded
        split at decoded
        · obtain ⟨low, _, decoded⟩ := Option.map_eq_some_iff.mp decoded
          rw [← (Prod.mk.inj decoded).1] at plain
          exact nomatch plain
        · exact nomatch decoded

end Names

/-! ### Joined and split -/

section Joined

variable {α : Type*} [DecidableEq α] {sep : α} {s part : List α} {parts : List (List α)}

/-- The parts do not contain what is split at. -/
theorem not_mem_of_mem_splitOn (member : part ∈ s.splitOn sep) : sep ∉ part := by
  induction s generalizing part with
  | nil =>
    rw [List.splitOn_nil, List.mem_singleton] at member
    rw [member]
    exact List.not_mem_nil
  | cons first s ih =>
    rw [List.splitOn_cons_eq_if_modifyHead] at member
    split at member
    case isTrue =>
      rcases List.mem_cons.mp member with rfl | member
      · exact List.not_mem_nil
      · exact ih member
    case isFalse other =>
      obtain ⟨head, tail, split⟩ := List.exists_cons_of_ne_nil (List.splitOn_ne_nil sep s)
      rw [split] at ih member
      rcases List.mem_cons.mp member with rfl | member
      · intro found
        rcases List.mem_cons.mp found with rfl | found
        · exact other (beq_self_eq_true _)
        · exact ih List.mem_cons_self found
      · exact ih (List.mem_cons_of_mem _ member)

/-- **Splitting** gives the parts that joined make it up and do not contain the separator. -/
theorem eq_splitOn_iff :
    parts = s.splitOn sep ↔
      parts ≠ [] ∧ (∀ part ∈ parts, sep ∉ part) ∧ [sep].intercalate parts = s := by
  constructor
  · rintro rfl
    exact ⟨List.splitOn_ne_nil sep s, fun _ => not_mem_of_mem_splitOn,
      List.intercalate_splitOn sep⟩
  · rintro ⟨some, apart, rfl⟩
    exact (List.splitOn_intercalate sep apart some).symm

end Joined

end Library.DnsMessage
