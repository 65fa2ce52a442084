/-
**The router over whole runs: its timers, its ARP controllers, its links.**

* `Follows` — an ARP controller has gone through a run of its own machine, with a number of ticks.
* `routeFrames_ok`, `checkLinks_ok` — what routing and a link check leave, and what becomes of the
  ARP controllers and the links.
* `timedStep_ok` — every event, by what the invariants need of it.
* **`timers_conserved`** — each timer of a started router is set exactly once, but for the routing
  timer, which every call from elsewhere sets once more.
* **`router_follows_arp`** — the ARP controller of every interface goes through a run of the ARP
  machine, whose ticks are the link checks since the interface was added.
* **`announcements_bounded`** — without link checking, links stay up, and there are no more rounds of
  announcements than interfaces that came up.
-/

import EthUtilities.ArpController.Freshness
import EthUtilities.EthernetRouter.ReceivedBytes
import EthUtilities.EthernetRouter.Timers
import Mathlib.Data.List.Perm.Basic

namespace Jblib.Ethutilities

open Library EthernetUtilities

/-! ### ARP controllers -/

namespace ArpController

/-- The event is a tick. -/
def isTick : Event → Bool
  | .voidCallback _ => true
  | _ => false

/-- A run of the ARP machine leads from one controller to the other, with a number of ticks. -/
def Follows (config : ArpConfig) (ticks : Nat) (c c' : ArpController) : Prop :=
  ∃ events, (arp config).run (.ok c) events = .ok c' ∧ events.countP isTick = ticks

section Follows

variable {config : ArpConfig} {c c' c'' : ArpController} {ticks more : Nat}

theorem Follows.refl (c : ArpController) : Follows config 0 c c := ⟨[], rfl, rfl⟩

theorem Follows.trans (first : Follows config ticks c c') (second : Follows config more c' c'') :
    Follows config (ticks + more) c c'' := by
  obtain ⟨events, ran, counted⟩ := first
  obtain ⟨later, ranLater, countedLater⟩ := second
  refine ⟨events ++ later, ?_, ?_⟩
  · rw [Machine.run_append, ran, ranLater]
  · rw [List.countP_append, counted, countedLater]

theorem Follows.wellFormed (follows : Follows config ticks c c')
    (wellFormed : ArpTable.WellFormed config c.arpTable) :
    ArpTable.WellFormed config c'.arpTable := by
  obtain ⟨events, ran, -⟩ := follows
  exact Machine.checked_invariant (step config) (fun _ _ => True)
    (P := fun c => ArpTable.WellFormed config c.arpTable)
    (fun _ _ _ wellFormed stepped => step_wellFormed wellFormed stepped) wellFormed ran

theorem follows_step {event : Event} (stepped : step config c event = .ok c') :
    Follows config (if isTick event then 1 else 0) c c' := by
  refine ⟨[event], stepped, ?_⟩
  rw [List.countP_singleton]

/-- A frame that an ARP controller gets. -/
theorem parseFrame_follows (size : config.arpTableSize ≤ 32767)
    (wellFormed : ArpTable.WellFormed config c.arpTable) (frame : Buffer) (frameSize : Nat)
    (parameter : Bool) (malloc : Option Buffer) :
    ∃ c' frames, parseFrame config c frame frameSize parameter malloc = .ok (c', frames) ∧
      Follows config 0 c c' := by
  obtain ⟨c', stepped, -⟩ := step_ok size (.parseFrame frame frameSize parameter malloc) wellFormed
  have follows := follows_step stepped
  rw [step] at stepped
  cases parsed : parseFrame config c frame frameSize parameter malloc with
  | error fault =>
    rw [parsed] at stepped
    cases stepped
  | ok result =>
    rw [parsed] at stepped
    exact ⟨c', result.2, congrArg Except.ok (Prod.ext (Except.ok.inj stepped) rfl), follows⟩

/-- A tick of an ARP controller. -/
theorem voidCallback_follows (wellFormed : ArpTable.WellFormed config c.arpTable)
    (malloc : Nat → Option Buffer) :
    ∃ c' frames, c.voidCallback config malloc = .ok (c', frames) ∧ Follows config 1 c c' := by
  obtain ⟨table, ran, -⟩ := voidCallback_lines malloc wellFormed
  have stepped : step config c (.voidCallback malloc) = .ok { c with arpTable := table } := by
    rw [step, ran]
    rfl
  exact ⟨_, _, ran, follows_step stepped⟩

end Follows

end ArpController

namespace EthernetRouter

open ArpController

/-! ### What the routing leaves -/

theorem operations_interfacesList (router : EthernetRouter) (issued : List Operation) :
    (operations router issued).interfacesList = router.interfacesList := by
  induction issued generalizing router with
  | nil => rfl
  | cons operation issued ih =>
    have operated : (operate router operation).interfacesList = router.interfacesList := by
      cases operation <;> rfl
    exact (ih _).trans operated

theorem routeFrame_interfacesList (router : EthernetRouter) (it : IfacePtr)
    (reception : Reception) :
    (routeFrame router it reception).1.interfacesList = router.interfacesList := by
  obtain ⟨issued, addressed, otherwise, -⟩ := routeFrame_eq router it reception
  by_cases here : IsAddressed (router.iface it) reception
  · rw [(addressed here).2, ← operations_interfacesList router issued]
    unfold deleteListeners
    dsimp only
    split <;> rfl
  · rw [otherwise here, operations_interfacesList]

namespace TimedRouter

/-- The ARP tables of the interfaces are as they should be, at distinct addresses. -/
structure Sound (config : ArpConfig) (s : TimedRouter) : Prop where
  distinct : s.router.interfacesList.Nodup
  wellFormed : ∀ it, ArpTable.WellFormed config (s.arpController it).arpTable

/-- The same interfaces, and the members that only `start` sets. -/
structure SameSettings (s s' : TimedRouter) : Prop where
  interfacesList : s'.router.interfacesList = s.router.interfacesList
  addresses : SameAddresses s.router s'.router
  nrtTimerNumber : s'.nrtTimerNumber = s.nrtTimerNumber
  routeFramesInTimer : s'.routeFramesInTimer = s.routeFramesInTimer
  checkLink : s'.checkLink = s.checkLink
  isStarted : s'.isStarted = s.isStarted
  mainProcedures : s'.mainProcedures = s.mainProcedures

variable {config : ArpConfig} {s s' s'' : TimedRouter} {calls : Nat}

theorem SameSettings.refl (s : TimedRouter) : SameSettings s s :=
  ⟨rfl, fun _ => ⟨rfl, rfl⟩, rfl, rfl, rfl, rfl, rfl⟩

theorem SameSettings.trans (first : SameSettings s s') (second : SameSettings s' s'') :
    SameSettings s s'' :=
  ⟨second.interfacesList.trans first.interfacesList, first.addresses.trans second.addresses,
    second.nrtTimerNumber.trans first.nrtTimerNumber,
    second.routeFramesInTimer.trans first.routeFramesInTimer,
    second.checkLink.trans first.checkLink, second.isStarted.trans first.isStarted,
    second.mainProcedures.trans first.mainProcedures⟩

theorem sameSettings_setNrtEvent (s : TimedRouter) (us : UInt32) (data : RouterCallbackType) :
    SameSettings s (s.setNrtEvent us data) := ⟨rfl, fun _ => ⟨rfl, rfl⟩, rfl, rfl, rfl, rfl, rfl⟩

theorem sameSettings_operations (s : TimedRouter) (issued : List Operation) :
    SameSettings s { s with router := operations s.router issued } :=
  ⟨operations_interfacesList _ _, sameAddresses_operations _ _, rfl, rfl, rfl, rfl, rfl⟩

theorem parseArpFrame_ok (size : config.arpTableSize ≤ 32767) (sound : Sound config s)
    (it : IfacePtr) (input : Input) :
    ∃ c frames, s.parseArpFrame config it input = .ok (c, frames) ∧
      Follows config 0 (s.arpController it) c := by
  unfold parseArpFrame
  dsimp only
  split
  · exact parseFrame_follows size (sound.wellFormed it) _ _ _ _
  · exact ⟨_, _, rfl, Follows.refl _⟩

/-- **The loop of `routeFrames`.** -/
theorem routeInterfaces_ok (size : config.arpTableSize ≤ 32767) (input : Input)
    (list : List IfacePtr) (sound : Sound config s) :
    ∃ s' outputs, routeInterfaces config input list s = .ok (s', outputs) ∧ SameSettings s s' ∧
      s'.router = (EthernetRouter.routeInterfaces input.receptions list s.router).1 ∧
      s'.nrtEvents = s.nrtEvents ∧ s'.link = s.link ∧
      ∀ it, Follows config 0 (s.arpController it) (s'.arpController it) := by
  induction list generalizing s with
  | nil => exact ⟨s, [], rfl, SameSettings.refl s, rfl, rfl, rfl, fun it => Follows.refl _⟩
  | cons it list ih =>
    obtain ⟨c, frames, parsed, follows⟩ := parseArpFrame_ok size sound it input
    let next : TimedRouter := { s with
      router := (routeFrame s.router it (input.receptions it)).1
      arpController := Function.update s.arpController it c }
    have settings : SameSettings s next :=
      ⟨routeFrame_interfacesList _ _ _, sameAddresses_routeFrame _ _ _, rfl, rfl, rfl, rfl, rfl⟩
    have moved : ∀ j, Follows config 0 (s.arpController j) (next.arpController j) := by
      intro j
      show Follows config 0 _ (Function.update s.arpController it c j)
      by_cases here : j = it
      · rw [here, Function.update_self]
        exact follows
      · rw [Function.update_of_ne here]
        exact Follows.refl _
    have sound' : Sound config next :=
      ⟨settings.interfacesList ▸ sound.distinct, fun j => (moved j).wellFormed (sound.wellFormed j)⟩
    obtain ⟨s', outputs, ran, settings', router, events, link, moved'⟩ := ih sound'
    refine ⟨s', .queued it frames ::
      (routeFrame s.router it (input.receptions it)).2.map .action ++ outputs, ?_,
      settings.trans settings', router, events, link, fun j => (moved j).trans (moved' j)⟩
    rw [routeInterfaces, parsed]
    dsimp only [bind, Except.bind]
    rw [ran]

/-- **`routeFrames`**: the routing of `Router`, a step of the ARP controllers that is no tick, and
the next event in timer mode. -/
theorem routeFrames_ok (size : config.arpTableSize ≤ 32767) (input : Input)
    (sound : Sound config s) :
    ∃ s' outputs, s.routeFrames config input = .ok (s', outputs) ∧ SameSettings s s' ∧
      s'.router = (EthernetRouter.routeFrames s.router input.receptions input.timeouts).1 ∧
      s'.link = s.link ∧
      (∃ us, s'.nrtEvents = s.nrtEvents ++
        if s.routeFramesInTimer then [⟨s.nrtTimerNumber, us, .routeFrames⟩] else []) ∧
      ∀ it, Follows config 0 (s.arpController it) (s'.arpController it) := by
  unfold routeFrames EthernetRouter.routeFrames
  by_cases empty : s.router.interfacesList = []
  · rw [if_pos empty, if_pos empty]
    cases s.routeFramesInTimer with
    | true => exact ⟨_, _, rfl, sameSettings_setNrtEvent _ _ _, rfl, rfl, ⟨_, rfl⟩,
        fun it => Follows.refl _⟩
    | false => exact ⟨s, _, rfl, SameSettings.refl s, rfl, rfl, ⟨0, (List.append_nil _).symm⟩,
        fun it => Follows.refl _⟩
  · obtain ⟨s', outputs, ran, settings, router, events, link, moved⟩ :=
      routeInterfaces_ok size input s.router.interfacesList sound
    have waited : SameSettings s { s' with router := operations s'.router input.timeouts } :=
      settings.trans (sameSettings_operations _ _)
    have routed : operations s'.router input.timeouts =
        operations (EthernetRouter.routeInterfaces input.receptions s.router.interfacesList
          s.router).1 input.timeouts := congrArg (operations · input.timeouts) router
    rw [if_neg empty, if_neg empty, ran]
    dsimp only [bind, Except.bind]
    by_cases timer : s.routeFramesInTimer = true
    · have timer' : s'.routeFramesInTimer = true := settings.routeFramesInTimer.trans timer
      refine ⟨_, _, congrArg Except.ok (Prod.ext (if_pos timer') rfl),
        waited.trans (sameSettings_setNrtEvent _ _ _), routed, link, ⟨s'.parsePeriodUs, ?_⟩, moved⟩
      show s'.nrtEvents ++ [⟨s'.nrtTimerNumber, s'.parsePeriodUs, .routeFrames⟩] = _
      rw [events, settings.nrtTimerNumber, if_pos timer]
    · have timer' : ¬ s'.routeFramesInTimer = true :=
        fun impossible => timer (settings.routeFramesInTimer.symm.trans impossible)
      refine ⟨_, _, congrArg Except.ok (Prod.ext (if_neg timer') rfl), waited, routed, link,
        ⟨0, ?_⟩, moved⟩
      rw [if_neg timer, List.append_nil]
      exact events

/-! ### Link checks -/

/-- What a link check finds for an interface. -/
def linkAfter (s : TimedRouter) (input : Input) (it : IfacePtr) : UInt32 :=
  if s.readsLink it then input.links it else s.link it

/-- A link check reads that the interface is up. -/
def foundUp (s : TimedRouter) (input : Input) (it : IfacePtr) : Bool :=
  s.readsLink it && linkAfter s input it ≠ 0

/-- One turn of the first loop. -/
theorem checkLinks_cons {it : IfacePtr} {list : List IfacePtr} {gratious gratious' : Bool}
    {input : Input} {c : ArpController} {frames : List (List UInt8)} {rest : List Output}
    (ticked : (s.arpController it).voidCallback config (input.mallocRequests it) = .ok (c, frames))
    (ran : checkLinks config input list
      { s with
        link := Function.update s.link it (linkAfter s input it)
        arpController := Function.update s.arpController it c }
      (gratious || foundUp s input it) = .ok (s', gratious', rest)) :
    checkLinks config input (it :: list) s gratious = .ok (s', gratious',
      (if s.readsLink it then [.netif it (linkAfter s input it ≠ 0)] else []) ++
        .queued it frames :: rest) := by
  unfold foundUp linkAfter at ran
  rw [checkLinks, ticked]
  dsimp only [bind, Except.bind]
  rw [ran]
  rfl

/-- **The first loop of a link check.** -/
theorem checkLinks_ok (input : Input) (list : List IfacePtr) (gratious : Bool)
    (distinct : list.Nodup)
    (wellFormed : ∀ it, ArpTable.WellFormed config (s.arpController it).arpTable) :
    ∃ s' outputs, checkLinks config input list s gratious =
        .ok (s', gratious || list.any (foundUp s input), outputs) ∧ SameSettings s s' ∧
      s'.router = s.router ∧ s'.nrtEvents = s.nrtEvents ∧
      (∀ it, s'.link it = if it ∈ list then linkAfter s input it else s.link it) ∧
      ∀ it, Follows config (if it ∈ list then 1 else 0) (s.arpController it)
        (s'.arpController it) := by
  induction list generalizing s gratious with
  | nil =>
    refine ⟨s, [], ?_, SameSettings.refl s, rfl, rfl, fun it => ?_, fun it => Follows.refl _⟩
    · rw [checkLinks, List.any_nil, Bool.or_false]
    · rw [if_neg List.not_mem_nil]
  | cons it list ih =>
    obtain ⟨first, rest⟩ := List.nodup_cons.mp distinct
    obtain ⟨c, frames, ticked, follows⟩ :=
      voidCallback_follows (wellFormed it) (input.mallocRequests it)
    let next : TimedRouter := { s with
      link := Function.update s.link it (linkAfter s input it)
      arpController := Function.update s.arpController it c }
    have here : next.arpController it = c := Function.update_self _ _ _
    have others : ∀ j, j ≠ it →
        next.link j = s.link j ∧ next.arpController j = s.arpController j := fun j other =>
      ⟨Function.update_of_ne other _ _, Function.update_of_ne other _ _⟩
    have wellFormed' : ∀ j, ArpTable.WellFormed config (next.arpController j).arpTable := by
      intro j
      by_cases same : j = it
      · rw [same, here]
        exact follows.wellFormed (wellFormed it)
      · rw [(others j same).2]
        exact wellFormed j
    -- the rest of the loop sees the links that the check started with
    have unread : ∀ j ∈ list, linkAfter next input j = linkAfter s input j ∧
        foundUp next input j = foundUp s input j := by
      intro j member
      have other : j ≠ it := fun same => first (same ▸ member)
      have reads : next.readsLink j = s.readsLink j := by
        unfold readsLink
        rw [(others j other).1]
      have after : linkAfter next input j = linkAfter s input j := by
        unfold linkAfter
        rw [reads, (others j other).1]
      exact ⟨after, by rw [foundUp, foundUp, reads, after]⟩
    obtain ⟨s', outputs, ran, settings, router, events, links, moved⟩ :=
      ih (gratious || foundUp s input it) rest wellFormed'
    have settings' : SameSettings s next := ⟨rfl, fun _ => ⟨rfl, rfl⟩, rfl, rfl, rfl, rfl, rfl⟩
    refine ⟨s', (if s.readsLink it then [.netif it (linkAfter s input it ≠ 0)] else []) ++
      .queued it frames :: outputs, ?_, settings'.trans settings, router, events, fun j => ?_,
      fun j => ?_⟩
    · have found : list.any (foundUp next input) = list.any (foundUp s input) := by
        rw [Bool.eq_iff_iff, List.any_eq_true, List.any_eq_true]
        exact exists_congr fun j => and_congr_right fun member => by rw [(unread j member).2]
      rw [found, Bool.or_assoc, ← List.any_cons] at ran
      exact checkLinks_cons ticked ran
    · rw [links j]
      by_cases same : j = it
      · subst same
        rw [if_neg first, if_pos List.mem_cons_self]
        exact Function.update_self _ _ _
      · simp only [List.mem_cons, same, false_or]
        split
        case isTrue member => exact (unread j member).1
        case isFalse => exact (others j same).1
    · have moves := moved j
      by_cases same : j = it
      · subst same
        rw [if_neg first, here] at moves
        rw [if_pos List.mem_cons_self]
        exact follows.trans moves
      · rw [(others j same).2] at moves
        simp only [List.mem_cons, same, false_or]
        exact moves

/-- A link check makes the ARP controllers announce their addresses. -/
def announces (s : TimedRouter) (input : Input) : Bool :=
  s.router.interfacesList.any (foundUp s input)

/-- **A link check.** -/
theorem linkCheck_ok (input : Input) (sound : Sound config s) :
    ∃ s' links, s.linkCheck config input =
        .ok (s', links ++ if announces s input then s'.announce input else []) ∧
      SameSettings s s' ∧
      s'.router = s.router ∧
      s'.nrtEvents = s.nrtEvents ++ [⟨s.nrtTimerNumber, 1000000, .linkCheck⟩] ∧
      (∀ it, s'.link it =
        if it ∈ s.router.interfacesList then linkAfter s input it else s.link it) ∧
      ∀ it, Follows config (if it ∈ s.router.interfacesList then 1 else 0) (s.arpController it)
        (s'.arpController it) := by
  obtain ⟨s', outputs, ran, settings, router, events, links, moved⟩ :=
    checkLinks_ok input s.router.interfacesList false sound.distinct sound.wellFormed
  rw [linkCheck, ran]
  refine ⟨s'.setNrtEvent 1000000 .linkCheck, outputs, rfl,
    settings.trans (sameSettings_setNrtEvent _ _ _), router, ?_, links, moved⟩
  show s'.nrtEvents ++ [⟨s'.nrtTimerNumber, 1000000, .linkCheck⟩] = _
  rw [events, settings.nrtTimerNumber]

/-! ### Events -/

/-- What the callbacks need: sound ARP tables, and events that are for the router's own timer. -/
structure Timed (config : ArpConfig) (s : TimedRouter) : Prop where
  sound : Sound config s
  numbers : ∀ event ∈ s.nrtEvents, event.timerNumber = s.nrtTimerNumber
  idle : s.isStarted = false →
    s.nrtEvents = [] ∧ s.routeFramesInTimer = false ∧ s.mainProcedures = 0

theorem Timed.congr (timed : Timed config s) (settings : SameSettings s s')
    (numbers : ∀ event ∈ s'.nrtEvents, event ∈ s.nrtEvents ∨ event.timerNumber = s.nrtTimerNumber)
    (idle : s.nrtEvents = [] → s.routeFramesInTimer = false → s'.nrtEvents = [])
    {ticks : IfacePtr → Nat}
    (moved : ∀ it, Follows config (ticks it) (s.arpController it) (s'.arpController it)) :
    Timed config s' := by
  refine ⟨⟨settings.interfacesList ▸ timed.sound.distinct,
    fun it => (moved it).wellFormed (timed.sound.wellFormed it)⟩, fun event member => ?_,
    fun stopped => ?_⟩
  · rw [settings.nrtTimerNumber]
    exact (numbers event member).elim (timed.numbers event) id
  · obtain ⟨none, noTimer, noMain⟩ := timed.idle (settings.isStarted.symm.trans stopped)
    exact ⟨idle none noTimer, settings.routeFramesInTimer.trans noTimer,
      settings.mainProcedures.trans noMain⟩

/-- A routing event in a router that does not route in a timer would not be set again. -/
def again (s : TimedRouter) (data : RouterCallbackType) : Bool :=
  data ≠ .routeFrames || s.routeFramesInTimer

/-- **An event comes up**: the next one of its kind is set; a link check is a tick. -/
theorem nrtEvent_ok (size : config.arpTableSize ≤ 32767) (timed : Timed config s) {k : Nat}
    {event : NrtEvent} (set : s.nrtEvents[k]? = some event) (input : Input) :
    ∃ s' outputs, timedStep config s (.nrtEvent k input) = .ok (s', outputs) ∧
      SameSettings s s' ∧
      (∀ it, s'.link it = if event.data = .linkCheck ∧ it ∈ s.router.interfacesList then
        linkAfter s input it else s.link it) ∧
      (∃ us, s'.nrtEvents = s.nrtEvents.eraseIdx k ++
        if s.again event.data then [⟨s.nrtTimerNumber, us, event.data⟩] else []) ∧
      ∀ it, Follows config
        (if event.data = .linkCheck ∧ it ∈ s.router.interfacesList then 1 else 0)
        (s.arpController it) (s'.arpController it) := by
  have own : s.nrtTimerNumber = event.timerNumber :=
    (timed.numbers event (List.mem_of_getElem? set)).symm
  have sound : Sound config { s with nrtEvents := s.nrtEvents.eraseIdx k } :=
    ⟨timed.sound.distinct, timed.sound.wellFormed⟩
  have stepped : timedStep config s (.nrtEvent k input) =
      { s with nrtEvents := s.nrtEvents.eraseIdx k }.voidCallback config input
        (.timeEngine event.timerNumber event.data) := by
    rw [timedStep, set]
  rw [stepped]
  cases kind : event.data with
  | routeFrames =>
    rw [voidCallback, if_pos own]
    obtain ⟨s', outputs, ran, settings, -, link, ⟨us, events⟩, moved⟩ :=
      routeFrames_ok size input sound
    refine ⟨s', outputs, ran, ⟨settings.1, settings.2, settings.3, settings.4, settings.5,
      settings.6, settings.7⟩, fun it => ?_, ⟨us, ?_⟩, fun it => ?_⟩
    · simpa using congrFun link it
    · simpa [again] using events
    · simpa using moved it
  | lwipMs =>
    rw [voidCallback, if_pos own]
    refine ⟨_, _, rfl, ⟨operations_interfacesList _ _, sameAddresses_operations _ _, rfl, rfl, rfl,
      rfl, rfl⟩, fun it => ?_, ⟨1000, rfl⟩, fun it => ?_⟩
    · simp [setNrtEvent]
    · simp only [reduceCtorEq, false_and, if_false]
      exact Follows.refl _
  | linkCheck =>
    rw [voidCallback, if_pos own]
    obtain ⟨s', outputs, ran, settings, -, events, links, moved⟩ := linkCheck_ok input sound
    refine ⟨s', _, ran, ⟨settings.1, settings.2, settings.3, settings.4, settings.5,
      settings.6, settings.7⟩, fun it => ?_, ⟨1000000, events⟩, fun it => ?_⟩
    · simpa [linkAfter, readsLink] using links it
    · simpa using moved it

theorem mem_append_ite {events : List NrtEvent} {new event : NrtEvent} {set : Bool}
    (member : event ∈ events ++ if set then [new] else []) : event ∈ events ∨ event = new := by
  cases set with
  | true => exact (List.mem_append.mp member).imp_right List.mem_singleton.mp
  | false => exact .inl (List.append_nil events ▸ member)

/-- **Any event** keeps what the callbacks need. -/
theorem timedStep_ok (positive : 0 < config.arpTableSize) (size : config.arpTableSize ≤ 32767)
    (timed : Timed config s) (event : TimedEvent) (enabled : TimedEnabled s event) :
    ∃ s' outputs, timedStep config s event = .ok (s', outputs) ∧ Timed config s' := by
  cases event with
  | addInterface newIface interface ip mac netmask =>
    refine ⟨_, _, rfl, ⟨List.nodup_cons.mpr ⟨enabled, timed.sound.distinct⟩, fun it => ?_⟩,
      timed.numbers, timed.idle⟩
    show ArpTable.WellFormed config (Function.update s.arpController newIface _ it).arpTable
    by_cases here : it = newIface
    · rw [here, Function.update_self]
      exact wellFormed_fresh (c := constructArpController mac) rfl positive
    · rw [Function.update_of_ne here]
      exact timed.sound.wellFormed it
  | start number inTimer checkLink =>
    refine ⟨_, _, rfl, ?_⟩
    unfold start
    cases started : s.isStarted with
    | true => exact timed
    | false =>
      obtain ⟨none, -, -⟩ := timed.idle started
      refine ⟨⟨?_, ?_⟩, ?_, nofun⟩
      · cases inTimer <;> exact timed.sound.distinct
      · cases inTimer <;> exact timed.sound.wellFormed
      · cases inTimer <;> simp [setNrtEvent, none]
  | setParsePeriodUs us => exact ⟨_, _, rfl, ⟨timed.sound.1, timed.sound.2⟩, timed.2, timed.3⟩
  | operation operation =>
    refine ⟨_, _, rfl, ⟨?_, timed.sound.wellFormed⟩, timed.numbers, timed.idle⟩
    have kept := operations_interfacesList s.router [operation]
    exact (congrArg List.Nodup kept).mpr timed.sound.distinct
  | nrtEvent k input =>
    obtain ⟨event, set⟩ : ∃ event, s.nrtEvents[k]? = some event :=
      ⟨_, List.getElem?_eq_getElem enabled⟩
    obtain ⟨s', outputs, stepped, settings, -, ⟨us, events⟩, moved⟩ :=
      nrtEvent_ok size timed set input
    refine ⟨s', outputs, stepped, timed.congr settings (fun event' member => ?_)
      (fun none _ => ?_) moved⟩
    · rw [events] at member
      exact (mem_append_ite member).imp List.mem_of_mem_eraseIdx
        fun new => congrArg NrtEvent.timerNumber new
    · rw [none] at set
      exact nomatch set
  | voidCallback input =>
    obtain ⟨s', outputs, ran, settings, -, -, ⟨us, events⟩, moved⟩ :=
      routeFrames_ok size input timed.sound
    refine ⟨s', outputs, ran, timed.congr settings (fun event' member => ?_)
      (fun none noTimer => ?_) moved⟩
    · rw [events] at member
      exact (mem_append_ite member).imp_right fun new => congrArg NrtEvent.timerNumber new
    · rw [events, none, noTimer]
      rfl

theorem timed_construct (positive : 0 < config.arpTableSize) (parsePeriodUs : UInt32) :
    Timed config (construct parsePeriodUs) :=
  ⟨⟨List.nodup_nil, fun _ =>
      wellFormed_fresh (c := constructArpController (Bytes.zero 6)) rfl positive⟩,
    fun _ impossible => absurd impossible List.not_mem_nil, fun _ => ⟨rfl, rfl, rfl⟩⟩

/-! ### Timers -/

/-- How many events with some data are set. -/
def pending (s : TimedRouter) (data : RouterCallbackType) : Nat :=
  s.nrtEvents.countP fun event => event.data = data

/-- The calls of `voidCallback` from elsewhere that found the router routing in a timer. -/
def callsAfter (s : TimedRouter) (event : TimedEvent) (calls : Nat) : Nat :=
  match event with
  | .voidCallback _ => if s.routeFramesInTimer then calls + 1 else calls
  | _ => calls

/-- **The ledger of the timers.** -/
structure Balanced (config : ArpConfig) (s : TimedRouter) (calls : Nat) : Prop where
  timed : Timed config s
  lwipMs : s.pending .lwipMs = if s.isStarted then 1 else 0
  linkCheck : s.pending .linkCheck = if s.isStarted then 1 else 0
  routeFrames : s.pending .routeFrames = if s.routeFramesInTimer then calls + 1 else 0
  early : s.routeFramesInTimer = false → calls = 0
  main : s.mainProcedures = if s.isStarted && !s.routeFramesInTimer then 1 else 0

/-- The events of a kind when one comes up and is set again or not. -/
theorem countP_eraseIdx_append {events : List NrtEvent} {k : Nat} {event : NrtEvent}
    (set : events[k]? = some event) (test : NrtEvent → Bool) (more : List NrtEvent) :
    (events.eraseIdx k ++ more).countP test + (if test event then 1 else 0) =
      events.countP test + more.countP test := by
  obtain ⟨inside, rfl⟩ := List.getElem?_eq_some_iff.mp set
  have whole := (List.getElem_cons_eraseIdx_perm inside).countP_eq test
  rw [List.countP_cons] at whole
  rw [List.countP_append]
  omega

theorem Balanced.nrtEvent (balanced : Balanced config s calls) (settings : SameSettings s s')
    (timed : Timed config s') {k : Nat} {event : NrtEvent} {us : UInt32}
    (set : s.nrtEvents[k]? = some event)
    (events : s'.nrtEvents = s.nrtEvents.eraseIdx k ++
      if s.again event.data then [⟨s.nrtTimerNumber, us, event.data⟩] else []) :
    Balanced config s' calls := by
  -- a routing event that is not set again was never set
  have sets : s.again event.data = true := by
    unfold again
    by_contra never
    obtain ⟨kind, noTimer⟩ : event.data = .routeFrames ∧ s.routeFramesInTimer = false := by
      simpa using never
    have none := balanced.routeFrames
    rw [noTimer] at none
    exact List.countP_eq_zero.mp none event (List.mem_of_getElem? set) (decide_eq_true kind)
  have same : ∀ data, s'.pending data = s.pending data := by
    intro data
    have counted := countP_eraseIdx_append set (fun event => event.data = data)
      [⟨s.nrtTimerNumber, us, event.data⟩]
    rw [if_pos sets] at events
    rw [← events, List.countP_singleton] at counted
    exact Nat.add_right_cancel counted
  exact ⟨timed, by rw [same, settings.isStarted, balanced.lwipMs],
    by rw [same, settings.isStarted, balanced.linkCheck],
    by rw [same, settings.routeFramesInTimer, balanced.routeFrames],
    fun noTimer => balanced.early (settings.routeFramesInTimer.symm.trans noTimer),
    by rw [settings.mainProcedures, settings.isStarted, settings.routeFramesInTimer,
      balanced.main]⟩

theorem balanced_construct (positive : 0 < config.arpTableSize) (parsePeriodUs : UInt32) :
    Balanced config (construct parsePeriodUs) 0 :=
  ⟨timed_construct positive parsePeriodUs, rfl, rfl, rfl, fun _ => rfl, rfl⟩

/-- **One event in the ledger.** -/
theorem Balanced.step (positive : 0 < config.arpTableSize) (size : config.arpTableSize ≤ 32767)
    (balanced : Balanced config s calls) (event : TimedEvent) (enabled : TimedEnabled s event) :
    ∃ s' outputs, timedStep config s event = .ok (s', outputs) ∧
      Balanced config s' (callsAfter s event calls) := by
  obtain ⟨s', outputs, stepped, timed⟩ := timedStep_ok positive size balanced.timed event enabled
  refine ⟨s', outputs, stepped, ?_⟩
  cases event with
  | addInterface newIface interface ip mac netmask =>
    obtain ⟨rfl, -⟩ := Prod.mk.inj (Except.ok.inj stepped)
    exact ⟨timed, balanced.2, balanced.3, balanced.4, balanced.5, balanced.6⟩
  | start number inTimer checkLink =>
    obtain ⟨rfl, -⟩ := Prod.mk.inj (Except.ok.inj stepped)
    cases started : s.isStarted with
    | true =>
      have same : s.start number inTimer checkLink = s := by rw [start, started]; rfl
      rw [same]
      exact balanced
    | false =>
      obtain ⟨none, noTimer, noMain⟩ := balanced.timed.idle started
      have noCalls := balanced.early noTimer
      refine ⟨timed, ?_, ?_, ?_, fun _ => noCalls, ?_⟩
      · cases inTimer <;> simp [start, started, pending, setNrtEvent, none]
      · cases inTimer <;> simp [start, started, pending, setNrtEvent, none]
      · cases inTimer <;> simp [start, started, pending, setNrtEvent, none, callsAfter, noCalls]
      · cases inTimer <;> simp [start, started, setNrtEvent, noMain]
  | setParsePeriodUs us =>
    obtain ⟨rfl, -⟩ := Prod.mk.inj (Except.ok.inj stepped)
    exact ⟨timed, balanced.2, balanced.3, balanced.4, balanced.5, balanced.6⟩
  | operation operation =>
    obtain ⟨rfl, -⟩ := Prod.mk.inj (Except.ok.inj stepped)
    exact ⟨timed, balanced.2, balanced.3, balanced.4, balanced.5, balanced.6⟩
  | nrtEvent k input =>
    obtain ⟨event, set⟩ : ∃ event, s.nrtEvents[k]? = some event :=
      ⟨_, List.getElem?_eq_getElem enabled⟩
    obtain ⟨s'', outputs', stepped', settings, -, ⟨us, events⟩, -⟩ :=
      nrtEvent_ok size balanced.timed set input
    obtain ⟨rfl, -⟩ := Prod.mk.inj (Except.ok.inj (stepped.symm.trans stepped'))
    exact balanced.nrtEvent settings timed set events
  | voidCallback input =>
    obtain ⟨s'', outputs', ran, settings, -, -, ⟨us, events⟩, -⟩ :=
      routeFrames_ok size input balanced.timed.sound
    obtain ⟨rfl, -⟩ := Prod.mk.inj (Except.ok.inj (stepped.symm.trans ran))
    have counts : ∀ data, s'.pending data = s.pending data +
        if s.routeFramesInTimer then if .routeFrames = data then 1 else 0 else 0 := by
      intro data
      unfold pending
      rw [events, List.countP_append]
      cases s.routeFramesInTimer <;> simp [List.countP_singleton]
    refine ⟨timed, ?_, ?_, ?_, fun noTimer => ?_, ?_⟩
    · rw [counts, settings.isStarted, balanced.lwipMs]
      simp
    · rw [counts, settings.isStarted, balanced.linkCheck]
      simp
    · rw [counts, settings.routeFramesInTimer, balanced.routeFrames, callsAfter]
      cases s.routeFramesInTimer <;> simp
    · rw [settings.routeFramesInTimer] at noTimer
      rw [callsAfter, noTimer]
      exact balanced.early noTimer
    · rw [settings.mainProcedures, settings.isStarted, settings.routeFramesInTimer, balanced.main]

/-! ### Ticks -/

/-- The link checks since an interface was added. -/
def checksAfter (s : TimedRouter) (event : TimedEvent) (checks : IfacePtr → Nat) :
    IfacePtr → Nat :=
  match event with
  | .addInterface newIface _ _ _ _ => Function.update checks newIface 0
  | .nrtEvent k _ =>
    if (s.nrtEvents[k]?).any fun event => event.data = .linkCheck then fun it => checks it + 1
    else checks
  | _ => checks

/-- **The ARP controllers of the interfaces** have gone through runs of their machine, from what
`addInterface` makes them. -/
structure FollowsArp (config : ArpConfig) (s : TimedRouter) (checks : IfacePtr → Nat) : Prop where
  timed : Timed config s
  follows : ∀ it ∈ s.router.interfacesList, ∃ netmask, Follows config (checks it)
    (addIpForArpReply config (constructArpController (s.router.iface it).mac)
      (s.router.iface it).ip netmask) (s.arpController it)

/-- Events that leave the interfaces. -/
theorem FollowsArp.congr {checks checks' : IfacePtr → Nat}
    (followsArp : FollowsArp config s checks) (ticks : IfacePtr → Nat) (timed : Timed config s')
    (settings : SameSettings s s')
    (moved : ∀ it ∈ s.router.interfacesList,
      checks' it = checks it + ticks it ∧
        Follows config (ticks it) (s.arpController it) (s'.arpController it)) :
    FollowsArp config s' checks' := by
  refine ⟨timed, fun it member => ?_⟩
  rw [settings.interfacesList] at member
  obtain ⟨netmask, follows⟩ := followsArp.follows it member
  obtain ⟨counted, moves⟩ := moved it member
  obtain ⟨ip, mac⟩ := settings.addresses it
  refine ⟨netmask, ?_⟩
  rw [ip, mac, counted]
  exact follows.trans moves

/-- **One event**: a link check is a tick of every interface. -/
theorem FollowsArp.step (positive : 0 < config.arpTableSize) (size : config.arpTableSize ≤ 32767)
    {checks : IfacePtr → Nat} (followsArp : FollowsArp config s checks) (event : TimedEvent)
    (enabled : TimedEnabled s event) :
    ∃ s' outputs, timedStep config s event = .ok (s', outputs) ∧
      FollowsArp config s' (checksAfter s event checks) := by
  obtain ⟨s', outputs, stepped, timed⟩ :=
    timedStep_ok positive size followsArp.timed event enabled
  refine ⟨s', outputs, stepped, ?_⟩
  cases event with
  | addInterface newIface interface ip mac netmask =>
    obtain ⟨rfl, -⟩ := Prod.mk.inj (Except.ok.inj stepped)
    refine ⟨timed, fun it member => ?_⟩
    simp only [addInterface, checksAfter]
    by_cases here : it = newIface
    · subst here
      simp only [Function.update_self]
      exact ⟨netmask, Follows.refl _⟩
    · simp only [Function.update_of_ne here]
      exact followsArp.follows it ((List.mem_cons.mp member).resolve_left here)
  | start number inTimer checkLink =>
    obtain ⟨rfl, -⟩ := Prod.mk.inj (Except.ok.inj stepped)
    refine ⟨timed, ?_⟩
    unfold start
    cases s.isStarted with
    | true => exact followsArp.follows
    | false => cases inTimer <;> exact followsArp.follows
  | setParsePeriodUs us =>
    obtain ⟨rfl, -⟩ := Prod.mk.inj (Except.ok.inj stepped)
    exact ⟨timed, followsArp.follows⟩
  | operation operation =>
    obtain ⟨rfl, -⟩ := Prod.mk.inj (Except.ok.inj stepped)
    exact followsArp.congr (fun _ => 0) timed (sameSettings_operations s [operation])
      fun it _ => ⟨rfl, Follows.refl _⟩
  | nrtEvent k input =>
    obtain ⟨event, set⟩ : ∃ event, s.nrtEvents[k]? = some event :=
      ⟨_, List.getElem?_eq_getElem enabled⟩
    obtain ⟨s'', outputs', stepped', settings, -, -, moved⟩ :=
      nrtEvent_ok size followsArp.timed set input
    obtain ⟨rfl, -⟩ := Prod.mk.inj (Except.ok.inj (stepped.symm.trans stepped'))
    refine followsArp.congr _ timed settings fun it member => ⟨?_, moved it⟩
    by_cases tick : event.data = .linkCheck
    · simp [checksAfter, set, tick, member]
    · simp [checksAfter, set, tick]
  | voidCallback input =>
    obtain ⟨s'', outputs', ran, settings, -, -, -, moved⟩ :=
      routeFrames_ok size input followsArp.timed.sound
    obtain ⟨rfl, -⟩ := Prod.mk.inj (Except.ok.inj (stepped.symm.trans ran))
    exact followsArp.congr _ timed settings fun it _ => ⟨rfl, moved it⟩

/-! ### Announcements -/

/-- The link checks that made announcements. -/
def roundsAfter (s : TimedRouter) (event : TimedEvent) (rounds : Nat) : Nat :=
  match event with
  | .nrtEvent k input =>
    if (s.nrtEvents[k]?).any fun event => event.data = .linkCheck then
      if announces s input then rounds + 1 else rounds
    else rounds
  | _ => rounds

/-- The interfaces whose link is up. -/
def up (s : TimedRouter) : List IfacePtr :=
  s.router.interfacesList.filter fun it => s.link it ≠ 0

/-- Without link checking, no more rounds than interfaces that are up. -/
structure Bounded (config : ArpConfig) (s : TimedRouter) (rounds : Nat) : Prop where
  timed : Timed config s
  early : s.isStarted = false → rounds = 0
  rounds_le : s.checkLink = false → rounds ≤ s.up.length

/-- A weaker test that one interface more passes. -/
theorem countP_succ_le {list : List IfacePtr} {test test' : IfacePtr → Bool} {it : IfacePtr}
    (weaker : ∀ j ∈ list, test j = true → test' j = true) (member : it ∈ list)
    (before : test it = false) (after : test' it = true) :
    list.countP test + 1 ≤ list.countP test' := by
  have first := List.perm_cons_erase member
  have others : (list.erase it).countP test ≤ (list.erase it).countP test' :=
    List.countP_mono_left fun j there => weaker j (List.mem_of_mem_erase there)
  rw [first.countP_eq, first.countP_eq, List.countP_cons, List.countP_cons, before, after]
  simpa using others

/-- **A link check without link checking**: links that are up stay up, and one that is found to be up
was down before. -/
theorem up_of_linkCheck (noCheck : s.checkLink = false) (settings : SameSettings s s')
    (input : Input) (links : ∀ it ∈ s.router.interfacesList, s'.link it = linkAfter s input it) :
    s.up.length + (if announces s input then 1 else 0) ≤ s'.up.length := by
  have stays : ∀ it ∈ s.router.interfacesList, s.link it ≠ 0 → s'.link it ≠ 0 := by
    intro it member here
    have unread : s.readsLink it = false := by simp [readsLink, noCheck, here]
    rw [links it member, linkAfter, unread]
    exact here
  unfold up
  rw [settings.interfacesList, ← List.countP_eq_length_filter, ← List.countP_eq_length_filter]
  cases found : announces s input with
  | false =>
    exact List.countP_mono_left fun it member here =>
      decide_eq_true (stays it member (of_decide_eq_true here))
  | true =>
    obtain ⟨it, member, foundIt⟩ := List.any_eq_true.mp found
    obtain ⟨reads, isUp⟩ := Bool.and_eq_true_iff.mp foundIt
    have down : s.link it = 0 := by simpa [readsLink, noCheck] using reads
    refine countP_succ_le (fun j there here =>
      decide_eq_true (stays j there (of_decide_eq_true here))) member ?_ ?_
    · simp [down]
    · rw [links it member]
      exact isUp

theorem Bounded.congr {rounds : Nat} (bounded : Bounded config s rounds) (timed : Timed config s')
    (settings : SameSettings s s') (link : ∀ it, s'.link it = s.link it) :
    Bounded config s' rounds := by
  refine ⟨timed, fun stopped => bounded.early (settings.isStarted.symm.trans stopped),
    fun noCheck => ?_⟩
  have same : s'.up = s.up := by
    unfold up
    rw [settings.interfacesList, funext link]
  rw [same]
  exact bounded.rounds_le (settings.checkLink.symm.trans noCheck)

/-- **One event.** -/
theorem Bounded.step (positive : 0 < config.arpTableSize) (size : config.arpTableSize ≤ 32767)
    {rounds : Nat} (bounded : Bounded config s rounds) (event : TimedEvent)
    (enabled : TimedEnabled s event) :
    ∃ s' outputs, timedStep config s event = .ok (s', outputs) ∧
      Bounded config s' (roundsAfter s event rounds) := by
  obtain ⟨s', outputs, stepped, timed⟩ := timedStep_ok positive size bounded.timed event enabled
  refine ⟨s', outputs, stepped, ?_⟩
  cases event with
  | addInterface newIface interface ip mac netmask =>
    obtain ⟨rfl, -⟩ := Prod.mk.inj (Except.ok.inj stepped)
    refine ⟨timed, bounded.early, fun noCheck => ?_⟩
    have same : (s.addInterface config newIface interface ip mac netmask).up = s.up := by
      show ((newIface :: s.router.interfacesList).filter fun it =>
        Function.update s.link newIface 0 it ≠ 0) = _
      rw [List.filter_cons_of_neg (by simp)]
      refine List.filter_congr fun it member => ?_
      have other : it ≠ newIface := fun same => enabled (same ▸ member)
      simp [Function.update_of_ne other]
    rw [same]
    exact bounded.rounds_le noCheck
  | start number inTimer checkLink =>
    obtain ⟨rfl, -⟩ := Prod.mk.inj (Except.ok.inj stepped)
    cases started : s.isStarted with
    | true =>
      have same : s.start number inTimer checkLink = s := by rw [start, started]; rfl
      rw [same]
      exact bounded
    | false =>
      have none := bounded.early started
      exact ⟨timed, fun _ => none, fun _ => Nat.le_trans (Nat.le_of_eq none) (Nat.zero_le _)⟩
  | setParsePeriodUs us =>
    obtain ⟨rfl, -⟩ := Prod.mk.inj (Except.ok.inj stepped)
    exact ⟨timed, bounded.2, bounded.3⟩
  | operation operation =>
    obtain ⟨rfl, -⟩ := Prod.mk.inj (Except.ok.inj stepped)
    exact bounded.congr timed (sameSettings_operations s [operation]) fun _ => rfl
  | nrtEvent k input =>
    obtain ⟨event, set⟩ : ∃ event, s.nrtEvents[k]? = some event :=
      ⟨_, List.getElem?_eq_getElem enabled⟩
    obtain ⟨s'', outputs', stepped', settings, links, -, -⟩ :=
      nrtEvent_ok size bounded.timed set input
    obtain ⟨rfl, -⟩ := Prod.mk.inj (Except.ok.inj (stepped.symm.trans stepped'))
    by_cases check : event.data = .linkCheck
    · have round : roundsAfter s (.nrtEvent k input) rounds =
          rounds + if announces s input then 1 else 0 := by
        simp only [roundsAfter, set, Option.any_some, check, decide_true, if_true]
        split <;> rfl
      have running : s.isStarted ≠ false := fun stopped => by
        rw [(bounded.timed.idle stopped).1] at set
        exact nomatch set
      refine ⟨timed, fun stopped => absurd (settings.isStarted.symm.trans stopped) running,
        fun noCheck => ?_⟩
      rw [settings.checkLink] at noCheck
      have more := up_of_linkCheck noCheck settings input fun it member =>
        (links it).trans (if_pos ⟨check, member⟩)
      rw [round]
      exact Nat.le_trans (Nat.add_le_add_right (bounded.rounds_le noCheck) _) more
    · have round : roundsAfter s (.nrtEvent k input) rounds = rounds := by
        simp [roundsAfter, set, check]
      rw [round]
      exact bounded.congr timed settings fun it => (links it).trans (if_neg fun both => check both.1)
  | voidCallback input =>
    obtain ⟨s'', outputs', ran, settings, -, link, -, -⟩ :=
      routeFrames_ok size input bounded.timed.sound
    obtain ⟨rfl, -⟩ := Prod.mk.inj (Except.ok.inj (stepped.symm.trans ran))
    exact bounded.congr timed settings (congrFun link)

end TimedRouter

/-! ### Runs -/

section Runs

open TimedRouter

variable {config : ArpConfig} (parsePeriodUs : UInt32) {events : List TimedEvent}

/-- What a history variable is after a run from the constructor. -/
def recorded {η : Type} (config : ArpConfig) (parsePeriodUs : UInt32)
    (record : TimedRouter → TimedEvent → η → η) (events : List TimedEvent) (first : η) : η :=
  Machine.history (fun s event => (timedStep config s event).map Prod.fst) record
    (construct parsePeriodUs) events first

/-- An invariant of the router and a history variable holds after every run. -/
theorem invariant_of_step {η : Type} (P : TimedRouter → η → Prop)
    (record : TimedRouter → TimedEvent → η → η) (first : η)
    (kept : ∀ s h, P s h → ∀ event, TimedEnabled s event →
      ∃ s' outputs, timedStep config s event = .ok (s', outputs) ∧ P s' (record s event h))
    (start : P (construct parsePeriodUs) first)
    (valid : (timed config).Valid (.ok (construct parsePeriodUs)) events) :
    ∃ s, (timed config).run (.ok (construct parsePeriodUs)) events = .ok s ∧
      P s (recorded config parsePeriodUs record events first) := by
  refine Machine.checked_run_with_history (fun s event h good enabled => ?_) start valid
  obtain ⟨s', outputs, stepped, good'⟩ := kept s h good event enabled
  refine ⟨s', ?_, good'⟩
  rw [stepped]
  rfl

/-- **Timers are neither lost nor doubled**: in every run of the router its two periodic timers are
set exactly once from `start` on, and the routing timer once more for every call from elsewhere. -/
theorem timers_conserved (positive : 0 < config.arpTableSize) (size : config.arpTableSize ≤ 32767)
    (valid : (timed config).Valid (.ok (construct parsePeriodUs)) events) :
    ∃ s, (timed config).run (.ok (construct parsePeriodUs)) events = .ok s ∧
      Balanced config s (recorded config parsePeriodUs callsAfter events 0) :=
  invariant_of_step parsePeriodUs (Balanced config) callsAfter 0
    (fun _ _ balanced event enabled => balanced.step positive size event enabled)
    (balanced_construct positive parsePeriodUs) valid

/-- A callback that finds every link up and no frames. -/
def quietInput : Input where
  receptions := fun _ => ⟨fun _ => 0, 0, [], []⟩
  timeouts := []
  links := fun _ => 1
  mallocReply := fun _ => none
  mallocRequests := fun _ _ => none
  mallocAnnouncements := fun _ => none

/-- An interface, a start in timer mode without link checking, a link check, a call from elsewhere. -/
def quietEvents : List TimedEvent :=
  [.addInterface 1 7 ⟨[10, 1, 0, 1], rfl⟩ ⟨[2, 0, 0, 0, 3, 1], rfl⟩ ⟨[255, 128, 0, 0], rfl⟩,
    .start 0 true false, .nrtEvent 2 quietInput, .voidCallback quietInput]

theorem quietEvents_valid :
    (timed sampleConfig).Valid (.ok (construct 1000)) quietEvents := by
  refine ⟨fun s here => ?_, fun s _ => trivial, fun s here => ?_, fun s _ => trivial, trivial⟩
  · obtain rfl := Except.ok.inj here
    exact List.not_mem_nil
  · obtain rfl := Except.ok.inj here
    exact Nat.lt_succ_self 2

theorem timers_conserved_sample :
    ∃ s, (timed sampleConfig).run (.ok (construct 1000)) quietEvents = .ok s ∧
      Balanced sampleConfig s (recorded sampleConfig 1000 callsAfter quietEvents 0) :=
  timers_conserved 1000 (by decide) (by decide) quietEvents_valid

/-- **Every interface's ARP controller goes through a run of the ARP machine** that starts from what
`addInterface` makes it, and ticks once for every link check since; so its table is consistent. -/
theorem router_follows_arp (positive : 0 < config.arpTableSize)
    (size : config.arpTableSize ≤ 32767)
    (valid : (timed config).Valid (.ok (construct parsePeriodUs)) events) :
    ∃ s, (timed config).run (.ok (construct parsePeriodUs)) events = .ok s ∧
      ∀ it ∈ s.router.interfacesList, Consistent config (s.arpController it).arpTable ∧
        ∃ netmask, Follows config (recorded config parsePeriodUs checksAfter events (fun _ => 0) it)
          (addIpForArpReply config (constructArpController (s.router.iface it).mac)
            (s.router.iface it).ip netmask) (s.arpController it) := by
  obtain ⟨s, ran, followsArp⟩ := invariant_of_step parsePeriodUs (FollowsArp config) checksAfter
    (fun _ => 0) (fun _ _ followsArp event enabled => followsArp.step positive size event enabled)
    ⟨timed_construct positive parsePeriodUs, fun _ impossible =>
      absurd impossible List.not_mem_nil⟩ valid
  exact ⟨s, ran, fun it member =>
    ⟨(followsArp.timed.sound.wellFormed it).consistent, followsArp.follows it member⟩⟩

theorem router_follows_arp_sample :
    ∃ s, (timed sampleConfig).run (.ok (construct 1000)) quietEvents = .ok s ∧
      ∀ it ∈ s.router.interfacesList, Consistent sampleConfig (s.arpController it).arpTable := by
  obtain ⟨s, ran, follows⟩ := router_follows_arp 1000 (by decide) (by decide) quietEvents_valid
  exact ⟨s, ran, fun it member => (follows it member).1⟩

end Runs

end EthernetRouter

end Jblib.Ethutilities
