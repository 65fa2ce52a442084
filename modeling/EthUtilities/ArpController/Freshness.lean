/-
**What the ARP table says about the network.**

Beside the table, a run remembers its contacts: from which hardware address it heard of an address
last, and how many ticks ago.

* `contactsAfter` — the contacts along a run. The record that fills the table forgets all of them.
* `Tracks` — the records are contacts, and what is missing is an old contact.
* `Tracks.learn`, `Tracks.tick` — one frame, one tick. A record that a tick passes over moves one line
  to the front; so its age falls behind the contact by no more than the lines in front of it.
* **`contacts_resolve`** — an address resolves to the hardware address it was heard from last, at most
  `ARP_CONTROLLER_DELETE_RECORD_TIME` ticks and two less than the lines of the table ago; and if it
  was heard of within `ARP_CONTROLLER_DELETE_RECORD_TIME` ticks, it does resolve.
-/

import EthUtilities.Library.History
import EthUtilities.ArpController.Announcements

namespace Jblib.Ethutilities.ArpController

open Library EthernetUtilities

/-! ### Contacts -/

/-- The hardware address that an address was heard from last, and the ticks since. -/
structure Contact where
  mac : Mac
  ticks : Nat

abbrev Contacts := Ip → Option Contact

/-- The sender gets the last line of the table. -/
def FillsTable (config : ArpConfig) (table : ArpTable) (ip : Ip) : Prop :=
  table.find ip = none ∧ table.recordCounter + 1 = config.arpTableSize

instance (config : ArpConfig) (table : ArpTable) (ip : Ip) :
    Decidable (FillsTable config table ip) :=
  inferInstanceAs (Decidable (_ ∧ _))

instance (c : ArpController) (frame : Buffer) (frameSize : Nat) (parameter : Bool) :
    Decidable (AcceptsArp c frame frameSize parameter) :=
  inferInstanceAs (Decidable (_ ∧ _))

/-- The contacts after a sender was heard. -/
def hear (config : ArpConfig) (table : ArpTable) (ip : Ip) (mac : Mac) (contacts : Contacts) :
    Contacts :=
  if FillsTable config table ip then fun _ => none
  else Function.update contacts ip (some ⟨mac, 0⟩)

/-- The contacts after a tick. -/
def tickContacts (contacts : Contacts) : Contacts :=
  fun ip => (contacts ip).map fun contact => { contact with ticks := contact.ticks + 1 }

/-- The contacts after an event. -/
def contactsAfter (config : ArpConfig) (c : ArpController) (event : Event) (contacts : Contacts) :
    Contacts :=
  match event with
  | .parseFrame frame frameSize parameter _ =>
    if AcceptsArp c frame frameSize parameter then
      hear config c.arpTable (senderIp frame) (senderMac frame) contacts
    else contacts
  | .voidCallback _ => tickContacts contacts
  | .addIpForArpReply _ _ => contacts

/-- The contacts of a run. -/
def contactsOf (config : ArpConfig) (c : ArpController) (events : List Event) : Contacts :=
  Machine.history (step config) (contactsAfter config) c events fun _ => none

/-! ### Records -/

namespace ArpTable

variable {config : ArpConfig} {table : ArpTable} {ip : Ip} {mac : Mac}

theorem lines_recorded (more : table.recordCounter + 1 ≠ config.arpTableSize) :
    (table.recorded config ip mac).lines = table.lines ++ [⟨ip, mac, 0⟩] := by
  have counter : (table.recorded config ip mac).recordCounter = table.recordCounter + 1 :=
    if_neg more
  unfold lines
  rw [counter, List.range_succ, List.map_append]
  congr 1
  · refine List.map_congr_left fun j member => ?_
    exact Function.update_of_ne (Nat.ne_of_lt (List.mem_range.mp member)) _ _
  · exact congrArg (fun line => [line]) (Function.update_self table.recordCounter _ _)

theorem mem_lines {line : ArpTableLine} :
    line ∈ table.lines ↔ ∃ i < table.recordCounter, table.line i = line := by
  simp [lines]

/-- The map of a well-formed table, by its records. -/
theorem WellFormed.resolve_iff (wellFormed : WellFormed config table) :
    table.resolve ip = some mac ↔ ∃ line ∈ table.lines, line.ip = ip ∧ line.mac = mac := by
  constructor
  · intro resolved
    obtain ⟨i, found, same⟩ := Option.map_eq_some_iff.mp resolved
    exact ⟨table.line i, mem_lines.mpr ⟨i, find_lt found, rfl⟩, Slots.slot_of_find found, same⟩
  · rintro ⟨line, member, rfl, rfl⟩
    obtain ⟨i, inside, rfl⟩ := mem_lines.mp member
    exact wellFormed.resolve_record inside

end ArpTable

/-! ### Records against contacts -/

/-- A record in line `i` is a contact. Its age is at most what has gone by since, and less than that
by no more than the lines between `i` and the last one but one. -/
structure Tracked (config : ArpConfig) (i : Nat) (line : ArpTableLine) (contact : Contact) : Prop where
  mac : line.mac = contact.mac
  young : line.timeAfterUpdate.toNat ≤ config.deleteRecordTime
  late : line.timeAfterUpdate.toNat ≤ contact.ticks
  near : contact.ticks + i + 2 ≤ line.timeAfterUpdate.toNat + config.arpTableSize

/-- The table has the contacts that are not too old, and nothing else. -/
structure Tracks (config : ArpConfig) (table : ArpTable) (contacts : Contacts) : Prop where
  wellFormed : ArpTable.WellFormed config table
  tracked : ∀ i line, table.lines[i]? = some line →
    ∃ contact, contacts line.ip = some contact ∧ Tracked config i line contact
  kept : ∀ ip contact, contacts ip = some contact → contact.ticks ≤ config.deleteRecordTime →
    ∃ line ∈ table.lines, line.ip = ip

section Steps

variable {config : ArpConfig} {table table' : ArpTable} {contacts : Contacts} {ip : Ip} {mac : Mac}
  {i : Nat} {line : ArpTableLine} {contact : Contact}

/-- A record of a sender that is heard right now. -/
theorem tracked_new (room : i + 1 < config.arpTableSize) :
    Tracked config i ⟨ip, mac, 0⟩ ⟨mac, 0⟩ :=
  ⟨rfl, Nat.zero_le _, Nat.le_refl _, by simp only [UInt32.toNat_zero]; omega⟩

theorem lt_of_getElem?_lines (there : table.lines[i]? = some line) : i < table.recordCounter := by
  obtain ⟨inside, -⟩ := List.getElem?_eq_some_iff.mp there
  rwa [ArpTable.length_lines] at inside

theorem Tracks.refreshed (tracks : Tracks config table contacts) (found : table.find ip = some i) :
    Tracks config (table.refreshed i mac) (Function.update contacts ip (some ⟨mac, 0⟩)) := by
  have lines : (table.refreshed i mac).lines = _ := tracks.wellFormed.lines_refreshed found
  have room := tracks.wellFormed.room
  refine ⟨tracks.wellFormed.refreshed, fun j line there => ?_, fun other contact heard young => ?_⟩
  · rw [lines, List.getElem?_map] at there
    obtain ⟨before, place, rfl⟩ := Option.map_eq_some_iff.mp there
    have inside := lt_of_getElem?_lines place
    unfold refreshLine
    by_cases here : before.ip = ip
    · rw [if_pos here]
      exact ⟨⟨mac, 0⟩, Function.update_self _ _ _, tracked_new (by omega)⟩
    · rw [if_neg here, Function.update_of_ne here]
      exact tracks.tracked j before place
  · rw [lines]
    by_cases here : other = ip
    · subst here
      have inside := ArpTable.find_lt found
      refine ⟨_, List.mem_map_of_mem (ArpTable.mem_lines.mpr ⟨i, inside, rfl⟩), ?_⟩
      have same : (table.line i).ip = other := Slots.slot_of_find found
      rw [refreshLine, if_pos same]
    · rw [Function.update_of_ne here] at heard
      obtain ⟨line, member, same⟩ := tracks.kept other contact heard young
      have differs : line.ip ≠ ip := same ▸ here
      refine ⟨_, List.mem_map_of_mem member, ?_⟩
      rw [refreshLine, if_neg differs, same]

theorem Tracks.recorded (tracks : Tracks config table contacts) (unknown : table.find ip = none)
    (small : table.recordCounter < 32768) (more : table.recordCounter + 1 ≠ config.arpTableSize) :
    Tracks config (table.recorded config ip mac)
      (Function.update contacts ip (some ⟨mac, 0⟩)) := by
  have lines : (table.recorded config ip mac).lines = _ := ArpTable.lines_recorded more
  have room := tracks.wellFormed.room
  refine ⟨tracks.wellFormed.recorded unknown small, fun j line there => ?_,
    fun other contact heard young => ?_⟩
  · rw [lines, List.getElem?_append, ArpTable.length_lines] at there
    split at there
    case isTrue before =>
      have different : line.ip ≠ ip := by
        obtain ⟨inside, rfl⟩ := List.getElem?_eq_some_iff.mp there
        rw [ArpTable.getElem_lines]
        exact Slots.find_eq_none_iff.mp unknown j before
      rw [Function.update_of_ne different]
      exact tracks.tracked j line there
    case isFalse behind =>
      obtain ⟨last, rfl⟩ : j - table.recordCounter = 0 ∧ (⟨ip, mac, 0⟩ : ArpTableLine) = line := by
        simpa [List.getElem?_singleton] using there
      exact ⟨⟨mac, 0⟩, Function.update_self _ _ _, tracked_new (by omega)⟩
  · rw [lines]
    by_cases here : other = ip
    · exact ⟨⟨ip, mac, 0⟩, List.mem_append_right _ List.mem_cons_self, here.symm⟩
    · rw [Function.update_of_ne here] at heard
      obtain ⟨line, member, same⟩ := tracks.kept other contact heard young
      exact ⟨line, List.mem_append_left _ member, same⟩

/-- **One sender.** -/
theorem Tracks.learn (tracks : Tracks config table contacts)
    (learned : table.learn config ip mac = .ok table') :
    Tracks config table' (hear config table ip mac contacts) := by
  have wellFormed := tracks.wellFormed
  cases found : table.find ip with
  | some i =>
    rw [wellFormed.learn_known found] at learned
    obtain rfl := Except.ok.inj learned
    have known : ¬ FillsTable config table ip := by
      rintro ⟨unknown, -⟩
      rw [found] at unknown
      cases unknown
    rw [hear, if_neg known]
    exact tracks.refreshed found
  | none =>
    have small : table.recordCounter < 32768 := by
      by_contra large
      rw [wellFormed.learn_outside found (by have := wellFormed.small; omega)] at learned
      cases learned
    rw [wellFormed.learn_new found small] at learned
    obtain rfl := Except.ok.inj learned
    rw [hear]
    by_cases full : table.recordCounter + 1 = config.arpTableSize
    · have counter : (table.recorded config ip mac).recordCounter = 0 := if_pos full
      have empty : (table.recorded config ip mac).lines = [] := by
        rw [ArpTable.lines, counter]
        rfl
      rw [if_pos ⟨found, full⟩]
      refine ⟨wellFormed.recorded found small, fun j line there => ?_, fun _ _ heard _ => ?_⟩
      · rw [empty] at there
        cases there
      · cases heard
    · rw [if_neg fun fills => full fills.2]
      exact tracks.recorded found small full

/-- **One tick.** -/
theorem Tracks.tick (small : config.deleteRecordTime < 4294967295)
    (tracks : Tracks config table contacts) (wellFormed : ArpTable.WellFormed config table')
    (lines : table'.lines =
      Sweep.skipping ArpTableLine.aged (ArpTableLine.expired config) table.lines) :
    Tracks config table' (tickContacts contacts) := by
  have next : ∀ {line : ArpTableLine}, line.timeAfterUpdate.toNat ≤ config.deleteRecordTime →
      line.aged.timeAfterUpdate.toNat = line.timeAfterUpdate.toNat + 1 := fun young => by
    rw [ArpTableLine.aged, UInt32.toNat_add]
    exact Nat.mod_eq_of_lt (Nat.lt_of_le_of_lt (Nat.succ_le_succ young) (Nat.succ_lt_succ small))
  refine ⟨wellFormed, fun i line there => ?_, fun ip contact heard young => ?_⟩
  · rw [lines] at there
    obtain ⟨j, before, place, moved⟩ := Sweep.origin_of_skipping there
    obtain ⟨contact, heard, tracked⟩ := tracks.tracked j before place
    have age := next tracked.young
    have late := tracked.late
    have near := tracked.near
    refine ⟨{ contact with ticks := contact.ticks + 1 }, ?_, ?_⟩
    · have same : line.ip = before.ip := by
        rcases moved with ⟨_, rfl, _⟩ | ⟨_, rfl⟩ <;> rfl
      rw [tickContacts, same, heard]
      rfl
    · rcases moved with ⟨behind, rfl, keeps⟩ | ⟨behind, rfl⟩
      · refine ⟨tracked.mac, ?_, ?_, ?_⟩
        · simpa [ArpTableLine.expired] using keeps
        · rw [age]
          exact Nat.succ_le_succ late
        · rw [age]
          dsimp only
          omega
      -- the record was passed over: one tick more, one line less
      · exact ⟨tracked.mac, tracked.young, Nat.le_succ_of_le late, by dsimp only; omega⟩
  · obtain ⟨earlier, heardEarlier, rfl⟩ := Option.map_eq_some_iff.mp heard
    obtain ⟨line, member, same⟩ :=
      tracks.kept ip earlier heardEarlier (Nat.le_of_succ_le young)
    obtain ⟨i, place⟩ := List.mem_iff_getElem?.mp member
    obtain ⟨contact, heard', tracked⟩ := tracks.tracked i line place
    rw [same, heardEarlier] at heard'
    obtain rfl := Option.some.inj heard'
    have keeps : line.aged.expired config = false := by
      have late := tracked.late
      rw [ArpTableLine.expired, next tracked.young]
      simp only [gt_iff_lt, decide_eq_false_iff_not, Nat.not_lt]
      exact Nat.le_trans (Nat.succ_le_succ late) young
    rw [lines]
    rcases Sweep.kept_of_skipping member keeps with stays | stays
    · exact ⟨line.aged, stays, same⟩
    · exact ⟨line, stays, same⟩

variable {c c' : ArpController} {event : Event}

/-- **One event.** -/
theorem Tracks.step (small : config.deleteRecordTime < 4294967295)
    (tracks : Tracks config c.arpTable contacts) (stepped : step config c event = .ok c') :
    Tracks config c'.arpTable (contactsAfter config c event contacts) := by
  cases event with
  | parseFrame frame frameSize parameter malloc =>
    rw [ArpController.step] at stepped
    rw [contactsAfter]
    by_cases accepts : AcceptsArp c frame frameSize parameter
    · obtain ⟨queued, learns⟩ := parseFrame_learns malloc config accepts
      rw [if_pos accepts]
      rw [learns] at stepped
      cases learned : c.arpTable.learn config (senderIp frame) (senderMac frame) with
      | error fault =>
        rw [learned] at stepped
        cases stepped
      | ok table =>
        rw [learned] at stepped
        exact Except.ok.inj stepped ▸ tracks.learn learned
    · rw [parseFrame_ignores malloc accepts] at stepped
      rw [if_neg accepts]
      exact Except.ok.inj stepped ▸ tracks
  | voidCallback malloc =>
    obtain ⟨table, ran, wellFormed, lines⟩ := voidCallback_lines malloc tracks.wellFormed
    rw [ArpController.step, ran] at stepped
    obtain rfl := Except.ok.inj stepped
    exact tracks.tick small wellFormed lines
  | addIpForArpReply ip mask => exact Except.ok.inj stepped ▸ tracks

end Steps

/-! ### Runs -/

/-- An address stands for a hardware address it was heard from in time. -/
def HeardInTime (config : ArpConfig) (contacts : Contacts) (ip : Ip) (mac : Mac) : Prop :=
  ∃ contact, contacts ip = some contact ∧ contact.mac = mac ∧
    contact.ticks + 2 ≤ config.deleteRecordTime + config.arpTableSize

theorem Tracks.heardInTime {config : ArpConfig} {table : ArpTable} {contacts : Contacts} {ip : Ip}
    {mac : Mac} (tracks : Tracks config table contacts)
    (resolved : table.getMac config ip = .ok (some mac)) : HeardInTime config contacts ip mac := by
  rw [tracks.wellFormed.getMac_eq] at resolved
  obtain ⟨line, member, rfl, rfl⟩ := tracks.wellFormed.resolve_iff.mp (Except.ok.inj resolved)
  obtain ⟨i, place⟩ := List.mem_iff_getElem?.mp member
  obtain ⟨contact, heard, tracked⟩ := tracks.tracked i line place
  refine ⟨contact, heard, tracked.mac.symm, ?_⟩
  have young := tracked.young
  have near := tracked.near
  omega

/-- **The table against the contacts of the run**: both lookups say what was heard last and in time,
and what was heard within `ARP_CONTROLLER_DELETE_RECORD_TIME` ticks is there. -/
theorem contacts_resolve {config : ArpConfig} (positive : 0 < config.arpTableSize)
    (small : config.deleteRecordTime < 4294967295) {c₀ c : ArpController} (fresh : Fresh c₀)
    {events : List Event} (reached : (arp config).run (.ok c₀) events = .ok c) :
    (∀ ip mac, c.arpTable.getMac config ip = .ok (some mac) →
      HeardInTime config (contactsOf config c₀ events) ip mac) ∧
    (∀ mac ip, c.arpTable.getIp config mac = .ok (some ip) →
      HeardInTime config (contactsOf config c₀ events) ip mac) ∧
    ∀ ip contact, contactsOf config c₀ events ip = some contact →
      contact.ticks ≤ config.deleteRecordTime →
      c.arpTable.getMac config ip = .ok (some contact.mac) := by
  have start : Tracks config c₀.arpTable fun _ => none := by
    have wellFormed := wellFormed_fresh fresh positive
    refine ⟨wellFormed, fun i line there => ?_, fun _ _ heard _ => nomatch heard⟩
    have inside := lt_of_getElem?_lines there
    rw [show c₀.arpTable.recordCounter = 0 from fresh] at inside
    exact absurd inside (Nat.not_lt_zero i)
  have tracks : Tracks config c.arpTable (contactsOf config c₀ events) :=
    Machine.invariant_with_history (P := fun c contacts => Tracks config c.arpTable contacts)
      (fun _ _ _ _ tracks stepped => tracks.step small stepped) start reached
  refine ⟨fun ip mac => tracks.heardInTime, fun mac ip found => ?_, fun ip contact heard young => ?_⟩
  · exact tracks.heardInTime (tracks.wellFormed.consistent.getMac_of_getIp mac ip found)
  · obtain ⟨line, member, same⟩ := tracks.kept ip contact heard young
    obtain ⟨i, place⟩ := List.mem_iff_getElem?.mp member
    obtain ⟨contact', heard', tracked⟩ := tracks.tracked i line place
    rw [same, heard] at heard'
    obtain rfl := Option.some.inj heard'
    rw [tracks.wellFormed.getMac_eq,
      tracks.wellFormed.resolve_iff.mpr ⟨line, member, same, tracked.mac⟩]

/-- Two hosts were heard, and a tick has passed. -/
theorem contacts_resolve_sample : HeardInTime ageingConfig
    (contactsOf ageingConfig sampleController (ageingEvents.take 3)) (senderIp (sampleReply 3))
    (senderMac (sampleReply 3)) :=
  (contacts_resolve (by decide) (by decide) sampleController_fresh
    (reachedFrom_reached (by decide) (by decide) (ageingEvents.take 3))).1 _ _ (by decide +kernel)

end Jblib.Ethutilities.ArpController
