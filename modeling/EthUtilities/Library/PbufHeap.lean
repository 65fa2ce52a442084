/-
**Reference-counted buffer chains, as lwIP documents its `pbuf`s.**

A heap of cells, each with a payload, the next cell of its chain and a reference count. An address
is never used twice, so a stale pointer is always noticed: every access to a cell that is not
allocated is a fault.

* `alloc` (`pbuf_alloc` with `PBUF_RAM`: one contiguous cell, count `1`), `memcpy` into a payload,
  `addRef` (`pbuf_ref`), `chain` (`pbuf_chain`: the tail cell is appended after the last cell of the
  head's chain and takes one more reference), `free` (`pbuf_free`: the count drops; at zero the cell
  goes and the same happens to the next one; the number of deallocated cells is returned in a byte).
* `Linked heap p links` — from `p` the chain runs through exactly `links`. `Linked.frame`: it only
  depends on the cells of `links`.
* `Linked.chain`, `free_shared`, `free_last`, `free_first`, **`free_chain`** — what the operations do
  to a chain. `Heap.receive` — a new chain that was received; `linked_receive`.
* `bytes` — the payloads of a chain in order; `Linked.bytes_eq` computes it.
* `OnChain` — the buffers one gets to from a pointer; `Linked.onChain_iff`: those of the chain.
* `Replaces heap heap' old new` — the footprint of an operation on a chain: whatever is not on the
  chain stays. `Replaces.trans`; `Replaces.erase`, `Replaces.alloc`, `Replaces.touch` for single
  operations.
-/

import Mathlib.Data.List.Basic
import Mathlib.Data.List.Nodup
import Mathlib.Data.Finset.Card
import Mathlib.Data.Finset.Range

namespace Library.PbufHeap

/-- A buffer: `payload` (of length `len`), `next` and `ref`. -/
structure Pbuf where
  payload : List UInt8
  next : Option Nat
  ref : Nat
  deriving DecidableEq

/-- What must not happen. -/
inductive Fault
  /-- an access to a buffer that is not allocated -/
  | unallocated (address : Nat)
  /-- a write beyond the end of a payload -/
  | overflow (address : Nat)
  /-- a reference count that drops below zero -/
  | underflow (address : Nat)
  /-- a loop that does not end -/
  | diverges
  deriving DecidableEq

/-- The cells by address; `none` once deallocated. -/
structure Heap where
  cells : List (Option Pbuf)

namespace Heap

def empty : Heap := ⟨[]⟩

/-- The number of addresses ever used. -/
def size (heap : Heap) : Nat := heap.cells.length

def get (heap : Heap) (p : Nat) : Option Pbuf := heap.cells[p]?.join

def set (heap : Heap) (p : Nat) (cell : Option Pbuf) : Heap := ⟨heap.cells.set p cell⟩

def read (heap : Heap) (p : Nat) : Except Fault Pbuf :=
  match heap.get p with
  | some buf => .ok buf
  | none => .error (.unallocated p)

/-- `pbuf_alloc`: a new buffer of the given length with one reference. -/
def alloc (heap : Heap) (length : Nat) : Heap × Nat :=
  (⟨heap.cells ++ [some ⟨List.replicate length 0, none, 1⟩]⟩, heap.size)

/-- `memcpy(p->payload, data, …)`. -/
def memcpy (heap : Heap) (p : Nat) (data : List UInt8) : Except Fault Heap := do
  let buf ← heap.read p
  if data.length ≤ buf.payload.length then
    .ok (heap.set p (some { buf with payload := data ++ buf.payload.drop data.length }))
  else .error (.overflow p)

/-- `pbuf_ref`. -/
def addRef (heap : Heap) (p : Nat) : Except Fault Heap := do
  let buf ← heap.read p
  .ok (heap.set p (some { buf with ref := buf.ref + 1 }))

/-- The last buffer of the chain from `p`. -/
def last (heap : Heap) : Nat → Nat → Except Fault Nat
  | 0, _ => .error .diverges
  | fuel + 1, p => do
    let buf ← heap.read p
    match buf.next with
    | none => .ok p
    | some next => heap.last fuel next

/-- `pbuf_chain`: `pbuf_cat` and one more reference to the appended buffer. -/
def chain (heap : Heap) (head tail : Nat) : Except Fault Heap := do
  let p ← heap.last (heap.size + 1) head
  let buf ← heap.read p
  (heap.set p (some { buf with next := some tail })).addRef tail

/-- The loop of `pbuf_free`. -/
def freeLoop : Nat → Heap → Option Nat → Nat → Except Fault (Heap × Nat)
  | 0, _, _, _ => .error .diverges
  | _ + 1, heap, none, count => .ok (heap, count)
  | fuel + 1, heap, some p, count => do
    let buf ← heap.read p
    match buf.ref with
    | 0 => .error (.underflow p)
    | 1 => freeLoop fuel (heap.set p none) buf.next ((count + 1) % 256)
    | ref + 2 => .ok (heap.set p (some { buf with ref := ref + 1 }), count)

/-- `pbuf_free`, with the number of buffers it deallocated. -/
def free (heap : Heap) (p : Nat) : Except Fault (Heap × Nat) := freeLoop (heap.size + 1) heap p 0

/-- The payloads of the chain from `p`, in order, over at most the given number of buffers. -/
def bytesFrom (heap : Heap) : Nat → Option Nat → List UInt8
  | 0, _ => []
  | _ + 1, none => []
  | fuel + 1, some p =>
    match heap.get p with
    | none => []
    | some buf => buf.payload ++ heap.bytesFrom fuel buf.next

/-- The bytes of the chain from `p`. -/
def bytes (heap : Heap) (p : Option Nat) : List UInt8 := heap.bytesFrom (heap.size + 1) p

/-! ### Cells -/

variable {heap : Heap} {p q : Nat} {buf : Pbuf} {cell : Option Pbuf}

theorem lt_size_of_get (found : heap.get p = some buf) : p < heap.size := by
  by_contra outside
  rw [get, List.getElem?_eq_none (Nat.le_of_not_lt outside)] at found
  cases found

theorem read_of_get (found : heap.get p = some buf) : heap.read p = .ok buf := by
  rw [read, found]

@[simp] theorem size_set : (heap.set p cell).size = heap.size := List.length_set

theorem get_set_self (found : heap.get p = some buf) : (heap.set p cell).get p = cell := by
  rw [get, set, List.getElem?_set_self (lt_size_of_get found)]
  rfl

theorem get_set_of_ne (different : q ≠ p) : (heap.set p cell).get q = heap.get q := by
  rw [get, set, List.getElem?_set_ne different.symm]
  rfl

theorem get_alloc_self (length : Nat) :
    (heap.alloc length).1.get heap.size = some ⟨List.replicate length 0, none, 1⟩ := by
  rw [get, alloc, size, List.getElem?_append_right (Nat.le_refl _), Nat.sub_self]
  rfl

theorem get_alloc_of_lt (length : Nat) (old : p < heap.size) :
    (heap.alloc length).1.get p = heap.get p := by
  rw [get, alloc, List.getElem?_append_left old]
  rfl

end Heap

/-- A new buffer with its contents copied in; older buffers are as before. -/
theorem memcpy_alloc (heap : Heap) (bytes : List UInt8) :
    ∃ heap', (heap.alloc bytes.length).1.memcpy heap.size bytes = .ok heap' ∧
      heap'.size = heap.size + 1 ∧ heap'.get heap.size = some ⟨bytes, none, 1⟩ ∧
      ∀ q, q < heap.size → heap'.get q = heap.get q := by
  have cell := heap.get_alloc_self bytes.length
  refine ⟨(heap.alloc bytes.length).1.set heap.size (some ⟨bytes, none, 1⟩), ?_,
    Heap.size_set.trans List.length_append, Heap.get_set_self cell, fun q old => ?_⟩
  · rw [Heap.memcpy, Heap.read_of_get cell]
    dsimp only [bind, Except.bind]
    rw [List.length_replicate, if_pos (Nat.le_refl _),
      List.drop_eq_nil_of_le (by rw [List.length_replicate]), List.append_nil]
  · rw [Heap.get_set_of_ne (Nat.ne_of_lt old), Heap.get_alloc_of_lt _ old]

/-! ### Chains -/

/-- A buffer on a chain. -/
structure Link where
  address : Nat
  data : List UInt8
  ref : Nat

/-- From `p` the chain runs through exactly `links`. -/
def Linked (heap : Heap) : Option Nat → List Link → Prop
  | p, [] => p = none
  | p, link :: links => p = some link.address ∧ ∃ next,
      heap.get link.address = some ⟨link.data, next, link.ref⟩ ∧ Linked heap next links

section Chains

variable {heap heap' : Heap} {p : Option Nat} {link : Link} {links : List Link}

/-- **The frame rule**: a chain only depends on its own buffers. -/
theorem Linked.frame (linked : Linked heap p links)
    (same : ∀ link ∈ links, heap'.get link.address = heap.get link.address) :
    Linked heap' p links := by
  induction links generalizing p with
  | nil => exact linked
  | cons link links ih =>
    obtain ⟨here, next, found, rest⟩ := linked
    refine ⟨here, next, ?_, ih rest fun other inside => same other (List.mem_cons_of_mem _ inside)⟩
    rw [same link List.mem_cons_self, found]

theorem Linked.get (linked : Linked heap p links) (inside : link ∈ links) :
    ∃ next, heap.get link.address = some ⟨link.data, next, link.ref⟩ := by
  induction links generalizing p with
  | nil => exact absurd inside List.not_mem_nil
  | cons first links ih =>
    obtain ⟨_, next, found, rest⟩ := linked
    rcases List.mem_cons.mp inside with rfl | later
    · exact ⟨next, found⟩
    · exact ih rest later

/-- A chain runs through no other buffers. -/
theorem Linked.unique {others : List Link} (linked : Linked heap p links)
    (again : Linked heap p others) : links = others := by
  induction links generalizing p others with
  | nil =>
    obtain rfl : p = none := linked
    cases others with
    | nil => rfl
    | cons other others => cases again.1
  | cons link links ih =>
    obtain ⟨rfl, next, found, rest⟩ := linked
    cases others with
    | nil => cases again
    | cons other others =>
      obtain ⟨here, next', found', rest'⟩ := again
      obtain ⟨address, data, ref⟩ := link
      obtain ⟨address', data', ref'⟩ := other
      obtain rfl : address = address' := Option.some.inj here
      obtain ⟨rfl, rfl, rfl⟩ := Pbuf.mk.inj (Option.some.inj (found.symm.trans found'))
      rw [ih rest rest']

theorem Linked.lt_size (linked : Linked heap p links) (inside : link ∈ links) :
    link.address < heap.size := by
  obtain ⟨_, found⟩ := linked.get inside
  exact Heap.lt_size_of_get found

/-- A chain without repetitions is no longer than the heap. -/
theorem Linked.length_le (linked : Linked heap p links)
    (nodup : (links.map Link.address).Nodup) : links.length ≤ heap.size := by
  have inside : (links.map Link.address).toFinset ⊆ Finset.range heap.size := by
    intro address member
    obtain ⟨link, on, rfl⟩ := List.mem_map.mp (List.mem_toFinset.mp member)
    exact Finset.mem_range.mpr (linked.lt_size on)
  have count := Finset.card_le_card inside
  rw [List.toFinset_card_of_nodup nodup, List.length_map, Finset.card_range] at count
  exact count

theorem Linked.bytesFrom_eq (linked : Linked heap p links) {fuel : Nat}
    (enough : links.length < fuel) : heap.bytesFrom fuel p = links.flatMap Link.data := by
  induction links generalizing p fuel with
  | nil =>
    obtain ⟨rest, rfl⟩ : ∃ rest, fuel = rest + 1 := ⟨fuel - 1, by simp at enough; omega⟩
    rw [show p = none from linked]
    rfl
  | cons link links ih =>
    obtain ⟨rfl, next, found, rest⟩ := linked
    rw [List.length_cons] at enough
    obtain ⟨less, rfl⟩ : ∃ less, fuel = less + 1 := ⟨fuel - 1, by omega⟩
    rw [Heap.bytesFrom, found]
    show link.data ++ heap.bytesFrom less next = _
    rw [ih rest (by omega)]
    rfl

/-- **The bytes of a chain.** -/
theorem Linked.bytes_eq (linked : Linked heap p links) (nodup : (links.map Link.address).Nodup) :
    heap.bytes p = links.flatMap Link.data :=
  linked.bytesFrom_eq (Nat.lt_succ_of_le (linked.length_le nodup))

/-! ### Appending a buffer -/

theorem Linked.last_eq {front : List Link} (linked : Linked heap p (front ++ [link]))
    {start fuel : Nat} (head : p = some start) (enough : front.length < fuel) :
    heap.last fuel start = .ok link.address := by
  induction front generalizing p start fuel with
  | nil =>
    obtain ⟨less, rfl⟩ : ∃ less, fuel = less + 1 := ⟨fuel - 1, by simp at enough; omega⟩
    obtain ⟨rfl, next, found, rfl⟩ := linked
    obtain rfl := Option.some.inj head
    rw [Heap.last, Heap.read_of_get found]
    rfl
  | cons first front ih =>
    rw [List.length_cons] at enough
    obtain ⟨less, rfl⟩ : ∃ less, fuel = less + 1 := ⟨fuel - 1, by omega⟩
    obtain ⟨rfl, next, found, rest⟩ := linked
    obtain rfl := Option.some.inj head
    have further : ∃ second, next = some second := by
      cases front with
      | nil => exact ⟨_, rest.1⟩
      | cons _ _ => exact ⟨_, rest.1⟩
    obtain ⟨second, rfl⟩ := further
    rw [Heap.last, Heap.read_of_get found]
    exact ih rest rfl (by omega)

/-- Writing the link of the last buffer extends the chain. -/
theorem Linked.extend {front : List Link} {tail : Nat} {data : List UInt8} {count : Nat}
    (linked : Linked heap p (front ++ [link]))
    (nodup : ((front ++ [link]).map Link.address).Nodup)
    (same : ∀ other ∈ front, heap'.get other.address = heap.get other.address)
    (joined : heap'.get link.address = some ⟨link.data, some tail, link.ref⟩)
    (appended : heap'.get tail = some ⟨data, none, count⟩) :
    Linked heap' p (front ++ [link] ++ [⟨tail, data, count⟩]) := by
  induction front generalizing p with
  | nil =>
    obtain ⟨rfl, _⟩ := linked
    exact ⟨rfl, some tail, joined, rfl, none, appended, rfl⟩
  | cons first front ih =>
    obtain ⟨rfl, next, found, rest⟩ := linked
    refine ⟨rfl, next, by rw [same first List.mem_cons_self, found], ?_⟩
    exact ih rest (List.nodup_cons.mp nodup).2 fun other inside =>
      same other (List.mem_cons_of_mem _ inside)

/-- **`pbuf_chain`** of a fresh buffer to a chain: it becomes the last one, with a second
reference, and no other buffer's data or count changes; buffers off the chain do not change. -/
theorem Linked.chain {start tail : Nat} {data : List UInt8} {count : Nat}
    (linked : Linked heap (some start) links) (nodup : (links.map Link.address).Nodup)
    (apart : ∀ link ∈ links, link.address ≠ tail)
    (single : heap.get tail = some ⟨data, none, count⟩) :
    ∃ heap', heap.chain start tail = .ok heap' ∧
      Linked heap' (some start) (links ++ [⟨tail, data, count + 1⟩]) ∧
      heap'.size = heap.size ∧
      ∀ q, q ∉ links.map Link.address → q ≠ tail → heap'.get q = heap.get q := by
  have notEmpty : links ≠ [] := by
    rintro rfl
    cases linked
  obtain ⟨front, link, rfl⟩ := (List.eq_nil_or_concat' links).resolve_left notEmpty
  have onChain : link ∈ front ++ [link] := List.mem_append_right _ (List.mem_singleton_self link)
  obtain ⟨next, found⟩ := linked.get onChain
  have size := linked.length_le nodup
  rw [List.length_append, List.length_singleton] at size
  have reached : heap.last (heap.size + 1) start = .ok link.address :=
    linked.last_eq rfl (by omega)
  have different : tail ≠ link.address := (apart link onChain).symm
  have between : ∀ other ∈ front, other.address ≠ link.address := by
    rw [List.map_append] at nodup
    intro other inside
    exact (List.nodup_append.mp nodup).2.2 _ (List.mem_map_of_mem inside) _
      (List.mem_singleton_self _)
  let joined := heap.set link.address (some ⟨link.data, some tail, link.ref⟩)
  have tailCell : joined.get tail = some ⟨data, none, count⟩ := by
    rw [Heap.get_set_of_ne different, single]
  refine ⟨joined.set tail (some ⟨data, none, count + 1⟩), ?_, ?_, ?_, fun q off notTail => ?_⟩
  · rw [Heap.chain, reached]
    show (heap.read link.address).bind _ = _
    rw [Heap.read_of_get found]
    show joined.addRef tail = _
    rw [Heap.addRef, Heap.read_of_get tailCell]
    rfl
  · refine linked.extend nodup (fun other inside => ?_) ?_ (Heap.get_set_self tailCell)
    · rw [Heap.get_set_of_ne (apart other (List.mem_append_left _ inside)),
        Heap.get_set_of_ne (between other inside)]
    · rw [Heap.get_set_of_ne different.symm, Heap.get_set_self found]
  · rw [Heap.size_set, Heap.size_set]
  · have notLast : q ≠ link.address := by
      rintro rfl
      exact off (List.mem_map_of_mem onChain)
    rw [Heap.get_set_of_ne notTail, Heap.get_set_of_ne notLast]

/-! ### Releasing references -/

section Free

variable {address : Nat} {data : List UInt8} {next : Option Nat}

/-- A buffer with several references stays. -/
theorem free_shared {ref : Nat} (found : heap.get address = some ⟨data, next, ref + 2⟩) :
    heap.free address = .ok (heap.set address (some ⟨data, next, ref + 1⟩), 0) := by
  rw [Heap.free, Heap.freeLoop, Heap.read_of_get found]
  rfl

/-- The only buffer of a chain is deallocated with its last reference. -/
theorem free_last (found : heap.get address = some ⟨data, none, 1⟩) :
    heap.free address = .ok (heap.set address none, 1) := by
  obtain ⟨less, count⟩ : ∃ less, heap.size = less + 1 :=
    ⟨heap.size - 1, by have := Heap.lt_size_of_get found; omega⟩
  rw [Heap.free, count, Heap.freeLoop, Heap.read_of_get found]
  rfl

/-- The first buffer of a chain is deallocated with its last reference; the next one loses the
reference the first one held, and stays. -/
theorem free_first {second ref : Nat} {data' : List UInt8} {next' : Option Nat}
    (found : heap.get address = some ⟨data, some second, 1⟩) (different : second ≠ address)
    (foundNext : heap.get second = some ⟨data', next', ref + 2⟩) :
    heap.free address =
      .ok ((heap.set address none).set second (some ⟨data', next', ref + 1⟩), 1) := by
  obtain ⟨less, count⟩ : ∃ less, heap.size = less + 1 :=
    ⟨heap.size - 1, by have := Heap.lt_size_of_get found; omega⟩
  have still : (heap.set address none).get second = some ⟨data', next', ref + 2⟩ := by
    rw [Heap.get_set_of_ne different, foundNext]
  rw [Heap.free, count, Heap.freeLoop, Heap.read_of_get found]
  show Heap.freeLoop (less + 1) (heap.set address none) (some second) 1 = _
  rw [Heap.freeLoop, Heap.read_of_get still]
  rfl

/-- The loop of `pbuf_free`, over a chain without other references. -/
theorem freeLoop_chain {fuel count : Nat} (linked : Linked heap p links)
    (nodup : (links.map Link.address).Nodup) (single : ∀ link ∈ links, link.ref = 1)
    (enough : links.length < fuel) :
    ∃ heap' count', Heap.freeLoop fuel heap p count = .ok (heap', count') ∧
      heap'.size = heap.size ∧ (∀ q ∈ links.map Link.address, heap'.get q = none) ∧
      ∀ q, q ∉ links.map Link.address → heap'.get q = heap.get q := by
  induction links generalizing heap p fuel count with
  | nil =>
    obtain rfl : p = none := linked
    obtain ⟨less, rfl⟩ := Nat.exists_eq_add_of_lt enough
    exact ⟨heap, count, rfl, rfl, nofun, fun _ _ => rfl⟩
  | cons link links ih =>
    obtain ⟨rfl, next, found, rest⟩ := linked
    obtain ⟨less, rfl⟩ := Nat.exists_eq_add_of_lt enough
    rw [single link List.mem_cons_self] at found
    obtain ⟨apart, nodup⟩ := List.nodup_cons.mp nodup
    have still : Linked (heap.set link.address none) next links := rest.frame fun other inside => by
      refine Heap.get_set_of_ne fun same => apart ?_
      rw [← same]
      exact List.mem_map_of_mem inside
    have fewer : links.length < (link :: links).length + less := by
      simp only [List.length_cons]
      omega
    obtain ⟨heap', count', freed, size, gone, others⟩ := @ih (heap.set link.address none) next
      ((link :: links).length + less) ((count + 1) % 256) still nodup
      (fun other inside => single other (List.mem_cons_of_mem _ inside)) fewer
    refine ⟨heap', count', ?_, size.trans Heap.size_set, fun q member => ?_, fun q off => ?_⟩
    · rw [Heap.freeLoop, Heap.read_of_get found]
      exact freed
    · by_cases later : q ∈ links.map Link.address
      · exact gone q later
      · obtain rfl : q = link.address := (List.mem_cons.mp member).resolve_right later
        rw [others link.address apart, Heap.get_set_self found]
    · rw [others q (List.not_mem_of_not_mem_cons off),
        Heap.get_set_of_ne (List.ne_of_not_mem_cons off)]

/-- **A chain without other references is deallocated whole.** -/
theorem free_chain {start : Nat} (linked : Linked heap (some start) links)
    (nodup : (links.map Link.address).Nodup) (single : ∀ link ∈ links, link.ref = 1) :
    ∃ heap' count, heap.free start = .ok (heap', count) ∧ heap'.size = heap.size ∧
      (∀ q ∈ links.map Link.address, heap'.get q = none) ∧
      ∀ q, q ∉ links.map Link.address → heap'.get q = heap.get q :=
  freeLoop_chain linked nodup single (Nat.lt_succ_of_le (linked.length_le nodup))

end Free

/-! ### Received chains -/

/-- The cells of a new chain from an address on, one for each of the segments. -/
def chainCells (start : Nat) : List (List UInt8) → List (Option Pbuf)
  | [] => []
  | data :: rest =>
    some ⟨data, if rest = [] then none else some (start + 1), 1⟩ :: chainCells (start + 1) rest

def chainLinks (start : Nat) : List (List UInt8) → List Link
  | [] => []
  | data :: rest => ⟨start, data, 1⟩ :: chainLinks (start + 1) rest

/-- The heap with a chain that was received; it starts at the first new address. -/
def Heap.receive (heap : Heap) (segments : List (List UInt8)) : Heap :=
  ⟨heap.cells ++ chainCells heap.size segments⟩

section Received

variable {segments : List (List UInt8)} {start q : Nat}

theorem length_chainCells : (chainCells start segments).length = segments.length := by
  induction segments generalizing start with
  | nil => rfl
  | cons data rest ih => exact congrArg Nat.succ ih

theorem size_receive : (heap.receive segments).size = heap.size + segments.length := by
  rw [Heap.size, Heap.receive, List.length_append, length_chainCells]
  rfl

theorem get_receive_of_lt (old : q < heap.size) : (heap.receive segments).get q = heap.get q := by
  rw [Heap.get, Heap.receive, List.getElem?_append_left old]
  rfl

theorem linked_receive (heap : Heap) (segments : List (List UInt8)) :
    Linked (heap.receive segments) (if segments = [] then none else some heap.size)
      (chainLinks heap.size segments) := by
  induction segments generalizing heap with
  | nil => rfl
  | cons data rest ih =>
    let first : Option Pbuf := some ⟨data, if rest = [] then none else some (heap.size + 1), 1⟩
    have grown : (⟨heap.cells ++ [first]⟩ : Heap).size = heap.size + 1 := List.length_append
    have split : heap.receive (data :: rest) = (⟨heap.cells ++ [first]⟩ : Heap).receive rest := by
      rw [Heap.receive, Heap.receive, grown, chainCells, List.append_assoc]
      rfl
    refine ⟨rfl, if rest = [] then none else some (heap.size + 1), ?_, ?_⟩
    · have here : (heap.cells ++ [first])[heap.cells.length]? = some first := by simp
      rw [split, get_receive_of_lt (by rw [grown]; exact Nat.lt_succ_self _)]
      exact congrArg Option.join here
    · have further := ih ⟨heap.cells ++ [first]⟩
      rw [grown, ← split] at further
      exact further

theorem mem_chainLinks : q ∈ (chainLinks start segments).map Link.address ↔
    start ≤ q ∧ q < start + segments.length := by
  induction segments generalizing start with
  | nil =>
    rw [List.length_nil]
    exact iff_of_false List.not_mem_nil fun inside => by omega
  | cons data rest ih =>
    rw [chainLinks, List.map_cons, List.mem_cons, ih, List.length_cons]
    show q = start ∨ _ ↔ _
    omega

theorem nodup_chainLinks : ((chainLinks start segments).map Link.address).Nodup := by
  induction segments generalizing start with
  | nil => exact List.nodup_nil
  | cons data rest ih =>
    refine List.nodup_cons.mpr ⟨fun again => ?_, ih⟩
    exact Nat.not_succ_le_self start (mem_chainLinks.mp again).1

theorem single_chainLinks : ∀ link ∈ chainLinks start segments, link.ref = 1 := by
  induction segments generalizing start with
  | nil => exact nofun
  | cons data rest ih => exact List.forall_mem_cons.mpr ⟨rfl, ih⟩

theorem map_data_chainLinks : (chainLinks start segments).map Link.data = segments := by
  induction segments generalizing start with
  | nil => rfl
  | cons data rest ih => exact congrArg (data :: ·) ih

end Received

end Chains

/-! ### Buffers one gets to -/

/-- The pointer leads to the buffer, over the buffers it points at. -/
inductive OnChain (heap : Heap) : Option Nat → Nat → Prop
  | head {p : Nat} : OnChain heap (some p) p
  | next {p q : Nat} {buf : Pbuf} (found : heap.get p = some buf) (later : OnChain heap buf.next q) :
      OnChain heap (some p) q

/-- **From the start of a chain one gets to its buffers.** -/
theorem Linked.onChain_iff {heap : Heap} {p : Option Nat} {links : List Link}
    (linked : Linked heap p links) {q : Nat} : OnChain heap p q ↔ q ∈ links.map Link.address := by
  induction links generalizing p with
  | nil =>
    obtain rfl : p = none := linked
    refine iff_of_false ?_ List.not_mem_nil
    rintro ⟨⟩
  | cons link links ih =>
    obtain ⟨rfl, next, found, rest⟩ := linked
    rw [List.map_cons, List.mem_cons, ← ih rest]
    constructor
    · intro reaches
      cases reaches with
      | head => exact .inl rfl
      | next found' later =>
        obtain rfl := Option.some.inj (found.symm.trans found')
        exact .inr later
    · rintro (rfl | later)
      · exact .head
      · exact .next found later

/-! ### Footprints -/

/-- One buffer is deallocated, and nothing else changes. -/
structure Erases (heap heap' : Heap) (p : Nat) : Prop where
  size : heap'.size = heap.size
  erased : heap'.get p = none
  others : ∀ q, q ≠ p → heap'.get q = heap.get q

/-- **The footprint of an operation** that turns the buffers `old` into the buffers `new`: all other
buffers stay, the new ones are from `old` or have addresses that were never used, and those of `old`
that are not in `new` are deallocated. -/
structure Replaces (heap heap' : Heap) (old new : List Nat) : Prop where
  size : heap.size ≤ heap'.size
  kept : ∀ q < heap.size, q ∉ old → heap'.get q = heap.get q
  fresh : ∀ q ∈ new, q ∈ old ∨ heap.size ≤ q
  allocated : ∀ q, heap'.get q ≠ none → q ∈ new ∨ (q < heap.size ∧ q ∉ old)

section Footprints

variable {heap heap' heap'' : Heap} {old mid new : List Nat}

theorem Heap.lt_size_of_allocated {q : Nat} (allocated : heap.get q ≠ none) : q < heap.size := by
  obtain ⟨buf, found⟩ := Option.ne_none_iff_exists'.mp allocated
  exact lt_size_of_get found

/-- An operation that only changes contents. -/
theorem Replaces.touch (size : heap'.size = heap.size)
    (others : ∀ q, q ∉ old → heap'.get q = heap.get q) : Replaces heap heap' old old where
  size := size.ge
  kept q _ off := others q off
  fresh q inside := .inl inside
  allocated q allocated := by
    rw [← size]
    by_cases inside : q ∈ old
    · exact .inl inside
    · exact .inr ⟨Heap.lt_size_of_allocated allocated, inside⟩

theorem Replaces.refl (heap : Heap) (old : List Nat) : Replaces heap heap old old :=
  .touch rfl fun _ _ => rfl

theorem Replaces.trans (first : Replaces heap heap' old mid)
    (second : Replaces heap' heap'' mid new) : Replaces heap heap'' old new := by
  have off : ∀ q < heap.size, q ∉ old → q ∉ mid := fun q inside outside onMid =>
    (first.fresh q onMid).elim outside (Nat.not_le_of_lt inside)
  refine ⟨first.size.trans second.size, fun q inside outside => ?_, fun q onNew => ?_,
    fun q allocated => ?_⟩
  · rw [second.kept q (Nat.lt_of_lt_of_le inside first.size) (off q inside outside),
      first.kept q inside outside]
  · rcases second.fresh q onNew with onMid | unused
    · exact first.fresh q onMid
    · exact .inr (first.size.trans unused)
  · rcases second.allocated q allocated with onNew | ⟨inside, outside⟩
    · exact .inl onNew
    · rw [second.kept q inside outside] at allocated
      exact .inr ((first.allocated q allocated).resolve_left outside)

/-- The first buffer is deallocated. -/
theorem Replaces.erase {p : Nat} (erases : Erases heap heap' p) :
    Replaces heap heap' (p :: new) new where
  size := erases.size.ge
  kept q _ off := erases.others q (List.ne_of_not_mem_cons off)
  fresh q inside := .inl (List.mem_cons_of_mem p inside)
  allocated q allocated := by
    have different : q ≠ p := by
      rintro rfl
      exact allocated erases.erased
    rw [erases.others q different] at allocated
    by_cases inside : q ∈ new
    · exact .inl inside
    · exact .inr ⟨Heap.lt_size_of_allocated allocated,
        List.not_mem_cons_of_ne_of_not_mem different inside⟩

/-- A new buffer. -/
theorem Replaces.alloc (size : heap'.size = heap.size + 1)
    (older : ∀ q < heap.size, heap'.get q = heap.get q) :
    Replaces heap heap' old (old ++ [heap.size]) where
  size := by omega
  kept q inside _ := older q inside
  fresh q inside := by
    rcases List.mem_append.mp inside with earlier | last
    · exact .inl earlier
    · exact .inr (List.mem_singleton.mp last).ge
  allocated q allocated := by
    have inside := Heap.lt_size_of_allocated allocated
    rw [size] at inside
    by_cases here : q ∈ old
    · exact .inl (List.mem_append_left _ here)
    rcases Nat.lt_succ_iff_lt_or_eq.mp inside with before | rfl
    · exact .inr ⟨before, here⟩
    · exact .inl (List.mem_append_right _ (List.mem_singleton_self _))

end Footprints

end Library.PbufHeap
