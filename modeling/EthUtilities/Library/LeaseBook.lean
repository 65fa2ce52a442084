/-
**Books of leases.**

Which address is leased to which client: a partial bijection, so that no address has two clients and
no client two addresses.

* `release`, `lease` — a client gives its address back, or gets one for the one it had.
* `offer` — the client's own address, or else the first one of the pool that nobody has.
* `Request`, `Answer`, `step` — what a client asks for and what it is answered. A client without an
  identification is answered like the others, and gets no lease.
-/

import Mathlib.Data.PEquiv
import Mathlib.Data.List.Basic

namespace Library

/-- Who has which address. -/
abbrev LeaseBook (Address Client : Type*) := PEquiv Address Client

namespace LeaseBook

variable {Address Client Tag : Type*} [DecidableEq Address] [DecidableEq Client]

/-- The client gives its address back. -/
def release (book : LeaseBook Address Client) (client : Client) : LeaseBook Address Client where
  toFun address := if book address = some client then none else book address
  invFun other := if other = client then none else book.symm other
  inv address other := by
    by_cases same : other = client
    · rw [if_pos same, same]
      refine iff_of_false nofun fun leased => ?_
      split at leased
      · cases leased
      · contradiction
    · rw [if_neg same, book.eq_some_iff]
      by_cases own : book address = some client
      · rw [if_pos own, own]
        exact iff_of_false (fun other => same (Option.some.inj other).symm) nofun
      · rw [if_neg own]

omit [DecidableEq Address] in
theorem release_eq_some_iff {book : LeaseBook Address Client} {address : Address}
    {client other : Client} :
    book.release client address = some other ↔ other ≠ client ∧ book address = some other := by
  rw [← (book.release client).eq_some_iff, ← book.eq_some_iff]
  change (if other = client then none else book.symm other) = _ ↔ _
  by_cases same : other = client <;> simp [same]

/-- The client gets the address, and nobody else has it. -/
def lease (book : LeaseBook Address Client) (address : Address) (client : Client) :
    LeaseBook Address Client where
  toFun place := if place = address then some client else book.release client place
  invFun other := if other = client then some address
    else if book.symm other = some address then none else book.symm other
  inv place other := by
    by_cases here : place = address
    · subst here
      by_cases same : other = client
      · simp [same]
      · rw [if_neg same, if_pos rfl]
        refine iff_of_false (fun found => ?_) fun found => same (Option.some.inj found).symm
        split at found
        · cases found
        · contradiction
    · rw [if_neg here, release_eq_some_iff, ← book.eq_some_iff]
      by_cases same : other = client
      · simp [same, Ne.symm here]
      · rw [if_neg same, and_iff_right same]
        split
        · next found =>
          refine iff_of_false nofun fun there => here ?_
          exact Option.some.inj (there.symm.trans found)
        · exact Iff.rfl

/-- The address for a client that asks for any. -/
def offer (pool : List Address) (book : LeaseBook Address Client) (client : Option Client) :
    Option Address :=
  client.bind book.symm <|> pool.find? fun address => (book address).isNone

/-- What a client asks for. -/
inductive Ask (Address : Type*)
  | discover
  | take (address : Address)
  | nothing

/-- A request; `tag` is for the answer to find its way, `memory`: there is some for the answer. -/
structure Request (Address Client Tag : Type*) where
  client : Option Client
  ask : Ask Address
  tag : Tag
  memory : Bool

inductive Answer (Address : Type*)
  | offer (address : Address)
  | acknowledge (address : Address)

/-- The book without the leases of a client. -/
def without (book : LeaseBook Address Client) : Option Client → LeaseBook Address Client
  | none => book
  | some client => book.release client

/-- The book after a client was acknowledged an address. -/
def acknowledged (book : LeaseBook Address Client) (address : Address) :
    Option Client → LeaseBook Address Client
  | none => book
  | some client => book.lease address client

/-- **One request.** A client that asks for an address gives its own one back, and gets the other one
if that is in the pool and nobody has it. -/
def step (pool : List Address) (book : LeaseBook Address Client)
    (request : Request Address Client Tag) :
    LeaseBook Address Client × Option (Tag × Answer Address) :=
  match request.ask with
  | .nothing => (book, none)
  | .discover => (book, if request.memory then
      (offer pool book request.client).map fun address => (request.tag, .offer address) else none)
  | .take address =>
    if address ∈ pool ∧ book.without request.client address = none ∧ request.memory then
      (book.acknowledged address request.client, some (request.tag, .acknowledge address))
    else (book.without request.client, none)

section Lookup

variable {book : LeaseBook Address Client} {address other : Address} {client : Client}

omit [DecidableEq Address] in
theorem release_apply : book.release client address =
    if book address = some client then none else book address := rfl

theorem lease_self : book.lease address client address = some client := if_pos rfl

theorem lease_of_ne (different : other ≠ address) :
    book.lease address client other = book.release client other := if_neg different

end Lookup

end LeaseBook

end Library
