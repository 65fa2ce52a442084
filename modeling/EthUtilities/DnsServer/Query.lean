/-
**DNS queries as both servers read them, and the answer they write.**

The two servers share, up to the console, the code from the header checks to the parsed question and
the code that turns the query into the response.

* `parseQuery` — `parse_next_query` and `parseNextQuery`. A read outside of the data, a write outside
  of `query->name` and a loop that does not end are faults.
* `parseQuery_ok` — there are none. `parseQuery_parsed` — what an accepted question looks like.
* `receiveQuestion` — the header checks and the question. `writeAnswer` — the patched header and the
  answer behind the question.
-/

import EthUtilities.Library.Buffer
import EthUtilities.Library.DnsMessage

namespace Jblib.Ethutilities

open Library DnsMessage OnesComplement

namespace DnsServer

/-- What must not happen. -/
inductive Fault
  | readOutside
  | writeOutside
  | diverges
  deriving DecidableEq

/-- `dns_query_t`: the name in front of its terminator, and the two fields as they were copied. -/
structure DnsQuery where
  name : List UInt8
  type : Bytes 2
  Class : Bytes 2
  deriving DecidableEq

/-- What `parse_next_query` returns: an error code, or the length and the query. -/
inductive ParseResult
  | rejected (code : Int)
  | parsed (len : Nat) (query : DnsQuery)
  deriving DecidableEq

/-- The size of the array `name` of a `dns_query_t`. -/
abbrev NameSize := { n : Nat // 0 < n }

/-! ### The parser -/

def readByte (data : List UInt8) (ptr : Nat) : Except Fault UInt8 :=
  if inside : ptr < data.length then .ok data[ptr] else .error .readOutside

def readBytes (data : List UInt8) (ptr n : Nat) : Except Fault (Bytes n) :=
  if inside : ptr + n ≤ data.length then
    .ok ⟨(data.drop ptr).take n, by rw [List.length_take, List.length_drop]; omega⟩
  else .error .readOutside

/-- Writing behind what has been written of `query->name`. -/
def writeName (max : NameSize) (name bytes : List UInt8) : Except Fault (List UInt8) :=
  if name.length + bytes.length ≤ max.val then .ok (name ++ bytes) else .error .writeOutside

/-- The dot in front of every label but the first. -/
def writeDot (max : NameSize) (name : List UInt8) (lables : Nat) : Except Fault (List UInt8) :=
  if 0 < lables then writeName max name [46] else .ok name

/-- Behind the labels: the terminator of the name, type and class. -/
def finishQuery (max : NameSize) (data : List UInt8) (ptr size : Nat) (name : List UInt8) :
    Except Fault ParseResult :=
  if size < 4 then .ok (.rejected (-1))
  else do
    let _ ← writeName max name [0]
    let type ← readBytes data ptr 2
    let Class ← readBytes data (ptr + 2) 2
    .ok (.parsed (ptr + 4) ⟨name, type, Class⟩)

/-- The loop over the labels. -/
def parseLabels (max : NameSize) (data : List UInt8) :
    (fuel ptr size : Nat) → (name : List UInt8) → (lables : Nat) → Except Fault ParseResult
  | 0, _, _, _, _ => .error .diverges
  | fuel + 1, ptr, size, name, lables =>
    if size = 0 then .ok (.rejected (-1))
    else do
      let lableLen ← readByte data ptr
      let ptr := ptr + 1
      let size := size - 1
      if lableLen = 0 then finishQuery max data ptr size name
      else if 0 < lables ∧ name.length = max.val then .ok (.rejected (-2))
      else do
        let name ← writeDot max name lables
        if size < lableLen.toNat then .ok (.rejected (-1))
        else if max.val ≤ name.length + lableLen.toNat then .ok (.rejected (-2))
        else do
          let lable ← readBytes data ptr lableLen.toNat
          let name ← writeName max name lable.val
          parseLabels max data fuel (ptr + lableLen.toNat) (size - lableLen.toNat) name (lables + 1)

/-- `parse_next_query(data, size, query)`, `data` having `size` bytes. -/
def parseQuery (max : NameSize) (data : List UInt8) : Except Fault ParseResult :=
  parseLabels max data (data.length + 1) 0 data.length [] 0

/-! ### What the parser does -/

section Reads

variable {data : List UInt8} {ptr n : Nat}

theorem readByte_ok (inside : ptr < data.length) : readByte data ptr = .ok data[ptr] :=
  dif_pos inside

theorem readBytes_ok (data : List UInt8) (ptr n : Nat) (inside : ptr + n ≤ data.length) :
    ∃ bytes : Bytes n, readBytes data ptr n = .ok bytes ∧ bytes.val = (data.drop ptr).take n :=
  ⟨_, dif_pos inside, rfl⟩

/-- The data from a position on, cut at what is read there. -/
theorem take_append_drop_add (data : List UInt8) (ptr n : Nat) :
    (data.drop ptr).take n ++ data.drop (ptr + n) = data.drop ptr := by
  rw [← List.drop_drop, List.take_append_drop]

theorem writeName_ok {max : NameSize} {name : List UInt8} (bytes : List UInt8)
    (fits : name.length + bytes.length ≤ max.val) : writeName max name bytes = .ok (name ++ bytes) :=
  if_pos fits

end Reads

/-- A name as it is compared: its labels with dots between. -/
def dotted : List (List UInt8) → List UInt8
  | [] => []
  | label :: labels => label ++ labels.flatMap (46 :: ·)

/-- The name, when `lables` labels are there before the rest. -/
def continueName (name : List UInt8) (lables : Nat) (labels : List (List UInt8)) : List UInt8 :=
  name ++ if 0 < lables then labels.flatMap (46 :: ·) else dotted labels

/-- What is parsed from a position on: labels, and behind them type and class. -/
def Parses (data : List UInt8) (ptr : Nat) (name : List UInt8) (lables : Nat) (len : Nat)
    (query : DnsQuery) : Prop :=
  ∃ labels tail, data.drop ptr =
      encodeLabels labels ++ 0 :: (query.type.val ++ query.Class.val ++ tail) ∧
    Encodable labels ∧ query.name = continueName name lables labels ∧
    len = ptr + (encodeLabels labels).length + 5

section Parser

variable {max : NameSize} {data name : List UInt8} {fuel ptr size lables : Nat}

/-- The end of the question. -/
theorem finishQuery_spec (data : List UInt8) (ptr size : Nat) (whole : ptr + size = data.length)
    (fits : name.length < max.val) :
    finishQuery max data ptr size name = .ok (.rejected (-1)) ∨
      ∃ query tail, finishQuery max data ptr size name = .ok (.parsed (ptr + 4) query) ∧
        query.name = name ∧ data.drop ptr = query.type.val ++ query.Class.val ++ tail := by
  unfold finishQuery
  by_cases short : size < 4
  · exact Or.inl (if_pos short)
  obtain ⟨type, typeRead, typeEq⟩ := readBytes_ok data ptr 2 (by omega)
  obtain ⟨Class, classRead, classEq⟩ :=
    readBytes_ok data (ptr + 2) 2 (by omega)
  refine Or.inr ⟨⟨name, type, Class⟩, data.drop (ptr + 2 + 2), ?_, rfl, ?_⟩
  · rw [if_neg short, writeName_ok [0] fits, typeRead, classRead]
    rfl
  · show data.drop ptr = type.val ++ Class.val ++ _
    rw [typeEq, classEq, List.append_assoc, take_append_drop_add, take_append_drop_add]

/-- The name written so far, with the dot that comes before the next label. -/
theorem writeDot_ok (lables : Nat) (fits : name.length < max.val) :
    ∃ name', writeDot max name lables = .ok name' ∧
      name' = name ++ (if 0 < lables then [46] else []) := by
  unfold writeDot
  split
  · exact ⟨_, writeName_ok [46] fits, rfl⟩
  · exact ⟨name, rfl, (List.append_nil name).symm⟩

/-- One label more in front of the rest of a name. -/
theorem continueName_cons (label : List UInt8) (labels : List (List UInt8)) :
    continueName (name ++ (if 0 < lables then [46] else []) ++ label) (lables + 1) labels =
      continueName name lables (label :: labels) := by
  unfold continueName
  rw [if_pos (Nat.zero_lt_succ lables), List.append_assoc, List.append_assoc]
  split
  · rfl
  · rfl

/-- The name ends. -/
theorem parses_nil {query : DnsQuery} {tail : List UInt8}
    (split : data.drop ptr = 0 :: data.drop (ptr + 1)) (named : query.name = name)
    (behind : data.drop (ptr + 1) = query.type.val ++ query.Class.val ++ tail) :
    Parses data ptr name lables (ptr + 1 + 4) query := by
  refine ⟨[], tail, ?_, fun _ member => (nomatch member), ?_, rfl⟩
  · rw [split, behind]
    rfl
  · rw [named, continueName]
    split <;> exact (List.append_nil name).symm

/-- One label more in front of what is parsed. -/
theorem parses_cons {lableLen : UInt8} (label : Bytes lableLen.toNat) {len : Nat}
    {query : DnsQuery} (split : data.drop ptr = lableLen :: data.drop (ptr + 1))
    (read : label.val = (data.drop (ptr + 1)).take lableLen.toNat) (notLast : lableLen ≠ 0)
    (rest : Parses data (ptr + 1 + lableLen.toNat)
      (name ++ (if 0 < lables then [46] else []) ++ label.val) (lables + 1) len query) :
    Parses data ptr name lables len query := by
  obtain ⟨labels, tail, behind, encodable, named, length⟩ := rest
  have positive : 0 < label.val.length := by
    rw [label.property]
    exact Nat.pos_of_ne_zero fun zero => notLast (UInt8.toNat_inj.mp zero)
  have byte : UInt8.ofNat label.val.length = lableLen := by
    rw [label.property, UInt8.ofNat_toNat]
  have encoded : ∀ rest, encodeLabels (label.val :: labels) ++ rest =
      lableLen :: (label.val ++ (encodeLabels labels ++ rest)) := fun rest => by
    rw [encodeLabels_cons, byte]
  refine ⟨label.val :: labels, tail, ?_, ?_, ?_, ?_⟩
  · rw [encoded, split, ← behind, read, take_append_drop_add]
  · intro other member
    rcases List.mem_cons.mp member with rfl | member
    · exact ⟨positive, by rw [label.property]; exact lableLen.toNat_lt⟩
    · exact encodable other member
  · rw [named, continueName_cons]
  · have counted := congrArg List.length (encoded [])
    rw [List.append_nil, List.append_nil, List.length_cons, List.length_append,
      label.property] at counted
    rw [length, counted]
    omega

/-- A label is in front of the data, and it fits. -/
structure LabelAt (max : NameSize) (data : List UInt8) (ptr size : Nat) (name : List UInt8)
    (lables : Nat) (lableLen : UInt8) (label : Bytes lableLen.toNat) : Prop where
  notLast : lableLen ≠ 0
  split : data.drop ptr = lableLen :: data.drop (ptr + 1)
  read : label.val = (data.drop (ptr + 1)).take lableLen.toNat
  further : ptr + 1 + lableLen.toNat + (size - 1 - lableLen.toNat) = data.length
  fewer : size - 1 - lableLen.toNat < size
  fits : (name ++ (if 0 < lables then [46] else []) ++ label.val).length < max.val

/-- **One turn of the loop** rejects, or ends with the name, or goes on behind a label. -/
theorem parseLabels_turn (fuel lables : Nat) (whole : ptr + size = data.length)
    (fits : name.length < max.val) :
    (∃ code < 0, parseLabels max data (fuel + 1) ptr size name lables = .ok (.rejected code)) ∨
    (∃ query tail, parseLabels max data (fuel + 1) ptr size name lables =
        .ok (.parsed (ptr + 1 + 4) query) ∧ query.name = name ∧
      data.drop ptr = 0 :: data.drop (ptr + 1) ∧
      data.drop (ptr + 1) = query.type.val ++ query.Class.val ++ tail) ∨
    ∃ lableLen label, LabelAt max data ptr size name lables lableLen label ∧
      parseLabels max data (fuel + 1) ptr size name lables =
        parseLabels max data fuel (ptr + 1 + lableLen.toNat) (size - 1 - lableLen.toNat)
          (name ++ (if 0 < lables then [46] else []) ++ label.val) (lables + 1) := by
  rw [parseLabels]
  by_cases empty : size = 0
  · exact .inl ⟨-1, by decide, if_pos empty⟩
  have inside : ptr < data.length := by omega
  have split : data.drop ptr = data[ptr] :: data.drop (ptr + 1) :=
    List.drop_eq_getElem_cons inside
  rw [if_neg empty, readByte_ok inside]
  dsimp only [bind, Except.bind]
  generalize data[ptr] = lableLen at split
  by_cases last : lableLen = 0
  · rw [if_pos last]
    rcases finishQuery_spec data (ptr + 1) (size - 1) (by omega) fits with
      finished | ⟨query, tail, finished, named, behind⟩
    · exact .inl ⟨-1, by decide, finished⟩
    · exact .inr (.inl ⟨query, tail, finished, named, last ▸ split, behind⟩)
  rw [if_neg last, if_neg fun full => Nat.ne_of_lt fits full.2]
  obtain ⟨_, written, rfl⟩ := writeDot_ok lables fits
  rw [written]
  dsimp only
  by_cases tooLong : size - 1 < lableLen.toNat
  · rw [if_pos tooLong]
    exact .inl ⟨_, by decide, rfl⟩
  rw [if_neg tooLong]
  by_cases tooBig : max.val ≤
      (name ++ if 0 < lables then [46] else []).length + lableLen.toNat
  · rw [if_pos tooBig]
    exact .inl ⟨_, by decide, rfl⟩
  obtain ⟨label, labelRead, labelEq⟩ := readBytes_ok data (ptr + 1) lableLen.toNat (by omega)
  have labelFits : (name ++ (if 0 < lables then [46] else []) ++ label.val).length < max.val := by
    rw [List.length_append, label.property]
    exact Nat.lt_of_not_le tooBig
  have room : (name ++ if 0 < lables then [46] else []).length + label.val.length ≤ max.val := by
    rw [← List.length_append]
    exact Nat.le_of_lt labelFits
  rw [if_neg tooBig, labelRead]
  dsimp only
  rw [writeName_ok _ room]
  exact .inr (.inr ⟨lableLen, label, ⟨last, split, labelEq, by omega, by omega, labelFits⟩, rfl⟩)

/-- **The rule for the loop**: it neither faults nor runs out, and what holds where it rejects and
where the name ends, and is carried back over a label, holds of what it returns. -/
theorem parseLabels_rule (holds : (ptr : Nat) → (name : List UInt8) → (lables : Nat) →
      ParseResult → Prop)
    (rejects : ∀ ptr name lables code, code < 0 → holds ptr name lables (.rejected code))
    (ends : ∀ ptr name lables query tail, name.length < max.val → query.name = name →
      data.drop ptr = 0 :: data.drop (ptr + 1) →
      data.drop (ptr + 1) = query.type.val ++ query.Class.val ++ tail →
      holds ptr name lables (.parsed (ptr + 1 + 4) query))
    (continues : ∀ ptr name lables (lableLen : UInt8) (label : Bytes lableLen.toNat) result,
      lableLen ≠ 0 → data.drop ptr = lableLen :: data.drop (ptr + 1) →
      label.val = (data.drop (ptr + 1)).take lableLen.toNat →
      holds (ptr + 1 + lableLen.toNat) (name ++ (if 0 < lables then [46] else []) ++ label.val)
        (lables + 1) result →
      holds ptr name lables result)
    (whole : ptr + size = data.length) (fits : name.length < max.val) (enough : size < fuel) :
    ∃ result, parseLabels max data fuel ptr size name lables = .ok result ∧
      holds ptr name lables result := by
  induction fuel generalizing ptr size name lables with
  | zero => exact absurd enough (Nat.not_lt_zero size)
  | succ fuel ih =>
    rcases parseLabels_turn fuel lables whole fits with
      ⟨code, negative, rejected⟩ | ⟨query, tail, parsed, named, split, behind⟩ |
      ⟨lableLen, label, there, goes⟩
    · exact ⟨_, rejected, rejects _ _ _ code negative⟩
    · exact ⟨_, parsed, ends _ _ _ query tail fits named split behind⟩
    · have fewer := there.fewer
      obtain ⟨result, parsed, rest⟩ := @ih _ _ _ (lables + 1) there.further there.fits (by omega)
      exact ⟨result, goes.trans parsed, continues _ _ _ lableLen label result there.notLast
        there.split there.read rest⟩

/-- **The loop**: it neither faults nor runs out, and what it accepts is parsed. -/
theorem parseLabels_spec (whole : ptr + size = data.length) (fits : name.length < max.val)
    (enough : size < fuel) :
    ∃ result, parseLabels max data fuel ptr size name lables = .ok result ∧
      ∀ len query, result = .parsed len query → Parses data ptr name lables len query := by
  refine parseLabels_rule (fun ptr name lables result => ∀ len query,
    result = .parsed len query → Parses data ptr name lables len query) ?_ ?_ ?_ whole fits enough
  · intro ptr name lables code _ len query different
    cases different
  · intro ptr name lables query tail _ named split behind len query' same
    obtain ⟨rfl, rfl⟩ := ParseResult.parsed.inj same
    exact parses_nil split named behind
  · intro ptr name lables lableLen label result notLast split read rest len query same
    exact parses_cons label split read notLast (rest len query same)

/-- The parser always returns. -/
theorem parseQuery_ok (max : NameSize) (data : List UInt8) :
    ∃ result, parseQuery max data = .ok result ∧
      ∀ len query, result = .parsed len query → Parses data 0 [] 0 len query :=
  parseLabels_spec (Nat.zero_add _) max.property (Nat.lt_succ_self _)

/-- **An accepted question**: labels, type and class, and then whatever follows. -/
theorem parseQuery_parsed {len : Nat} {query : DnsQuery}
    (accepted : parseQuery max data = .ok (.parsed len query)) :
    ∃ labels tail, data = encodeLabels labels ++ 0 :: (query.type.val ++ query.Class.val ++ tail) ∧
      Encodable labels ∧ query.name = dotted labels ∧ len = (encodeLabels labels).length + 5 := by
  obtain ⟨result, parsed, spec⟩ := parseQuery_ok max data
  rw [accepted] at parsed
  obtain ⟨labels, tail, whole, encodable, named, length⟩ :=
    spec len query (Except.ok.inj parsed).symm
  rw [Nat.zero_add] at length
  exact ⟨labels, tail, whole, encodable, named, length⟩

end Parser

/-! ### Header and answer -/

section Header

variable (b : Buffer)

/-- `header->flags.qr`. -/
def qr : UInt8 := (b 2 &&& 0x80) >>> 7

/-- `ntohs(header->n_record[i])`. -/
def nRecord (i : Nat) : Nat := word (b (4 + 2 * i)) (b (5 + 2 * i))

/-- `sizeof(dns_header_t)`. -/
def headerLen : Nat := 12

/-- The checks of a packet of `n` bytes and its question: the length of header and question, and the
question. -/
def receiveQuestion (max : NameSize) (n : Nat) : Except Fault (Option (Nat × DnsQuery)) :=
  if n ≤ headerLen then .ok none
  else if qr b ≠ 0 then .ok none
  else if nRecord b 0 ≠ 1 then .ok none
  else do
    match ← parseQuery max (b.read headerLen (n - headerLen)) with
    | .rejected _ => .ok none
    | .parsed len query => .ok (some (len + headerLen, query))

/-- `dns_answer_t` with the values both servers give it. -/
def dnsAnswer (addr : Bytes 4) : List UInt8 :=
  [0xC0, 0x0C, 0, 1, 0, 1, 0, 0, 0, 32, 0, 4] ++ addr.val

/-- The header patched and the answer written at `len`. -/
def writeAnswer (len : Nat) (addr : Bytes 4) : Buffer :=
  ((b.write 2 [b 2 ||| 0x80]).write 6 [0, 1]).write len (dnsAnswer addr)

end Header

end DnsServer

end Jblib.Ethutilities
