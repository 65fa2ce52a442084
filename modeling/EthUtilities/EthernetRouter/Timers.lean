/-
**The router with its timers, its links and its ARP controllers.**

Around the routing of `Router` stand the callbacks of the time engine. Every event at the time engine
comes up once; the router sets the next one when it comes up.

* `TimedRouter` — the members of the class that the callbacks use, and the events that are set.
* `start`, `addInterface`, `routeFrames`, `linkCheck`, `voidCallback` — the functions of the class. A
  frame for an ARP controller is given to it before lwIP gets it.
* `timed` — the router as a machine. What the network, lwIP and the listeners do is an input.
-/

import EthUtilities.ArpController.ReplyAddresses
import EthUtilities.EthernetRouter.Router
import Mathlib.Data.List.Find

namespace Jblib.Ethutilities.EthernetRouter

open Library EthernetUtilities ArpController

/-! ### Data -/

/-- `RouterCallbackType_t`. -/
inductive RouterCallbackType
  | lwipMs
  | linkCheck
  | routeFrames
  deriving DecidableEq

/-- An event that was set at the time engine for the router: timer, microseconds, data. -/
structure NrtEvent where
  timerNumber : UInt8
  us : UInt32
  data : RouterCallbackType
  deriving DecidableEq

/-- Who calls `voidCallback`. -/
inductive Source
  | timeEngine (timerNumber : UInt8) (data : RouterCallbackType)
  | other

structure TimedRouter where
  router : EthernetRouter
  /-- `routerIface->arpController` -/
  arpController : IfacePtr → ArpController
  /-- `routerIface->link` -/
  link : IfacePtr → UInt32
  nrtTimerNumber : UInt8
  routeFramesInTimer : Bool
  checkLink : Bool
  parsePeriodUs : UInt32
  /-- the `static` flag of `start` -/
  isStarted : Bool
  /-- the events that are set and did not come up yet -/
  nrtEvents : List NrtEvent
  /-- how often the router is a main procedure of the `JbController` -/
  mainProcedures : Nat

/-- What the router does to others. -/
inductive Output
  | action (action : Action)
  /-- `netif_set_link_up`, `netif_set_link_down` -/
  | netif (routerInterface : IfacePtr) (up : Bool)
  /-- `addToTxQueue` by the ARP controller of an interface -/
  | queued (routerInterface : IfacePtr) (frames : List (List UInt8))

/-- What a callback meets. -/
structure Input where
  receptions : IfacePtr → Reception
  /-- what the callbacks of lwIP do with the router -/
  timeouts : List Operation
  /-- `PARAMETER_LINK` -/
  links : IfacePtr → UInt32
  /-- the results of `malloc_s` in the ARP controllers: for a reply, for requests, for announcements -/
  mallocReply : IfacePtr → Option Buffer
  mallocRequests : IfacePtr → Nat → Option Buffer
  mallocAnnouncements : IfacePtr → Option Buffer

/-! ### Starting -/

/-- The constructor of `ArpController`. -/
def constructArpController (mac : Mac) : ArpController where
  mac := mac
  ipTableForReply := ⟨fun _ => Bytes.zero 4, fun _ => Bytes.zero 4, 0⟩
  arpTable := ⟨0, fun _ => ⟨Bytes.zero 4, Bytes.zero 6, 0⟩⟩

/-- The router as its constructor leaves it. `parsePeriodUs`: the build-time constant
`ETHERNET_ROUTER_DEFAULT_PARSE_PERIOD_US`. -/
def TimedRouter.construct (parsePeriodUs : UInt32) : TimedRouter where
  router := ⟨[], fun _ => ⟨0, [], [], Bytes.zero 4, Bytes.zero 6⟩⟩
  arpController := fun _ => constructArpController (Bytes.zero 6)
  link := fun _ => 0
  nrtTimerNumber := 0
  routeFramesInTimer := false
  checkLink := true
  parsePeriodUs := parsePeriodUs
  isStarted := false
  nrtEvents := []
  mainProcedures := 0

namespace TimedRouter

variable (config : ArpConfig) (s : TimedRouter)

/-- `setNrtEvent(this->nrtTimerNumber_, us, this, data)`. -/
def setNrtEvent (us : UInt32) (data : RouterCallbackType) : TimedRouter :=
  { s with nrtEvents := s.nrtEvents ++ [⟨s.nrtTimerNumber, us, data⟩] }

/-- `start` with its three parameters. -/
def start (nrtTimerNumber : UInt8) (routeFramesInTimer checkLink : Bool) : TimedRouter :=
  if s.isStarted then s
  else
    let s := { s with nrtTimerNumber, routeFramesInTimer, checkLink }
    let s := if routeFramesInTimer then s.setNrtEvent 1000 .routeFrames
      else { s with mainProcedures := s.mainProcedures + 1 }
    let s := s.setNrtEvent 1000 .lwipMs
    let s := s.setNrtEvent 1000000 .linkCheck
    { s with isStarted := true }

/-- `addInterface`: a new interface with a new ARP controller, in front of the others. -/
def addInterface (newIface : IfacePtr) (interface : Nat) (ip : Ip) (mac : Mac) (netmask : Ip) :
    TimedRouter :=
  { s with
    router :=
      { interfacesList := newIface :: s.router.interfacesList
        iface := Function.update s.router.iface newIface ⟨interface, [], [], ip, mac⟩ }
    arpController := Function.update s.arpController newIface
      (addIpForArpReply config (constructArpController mac) ip netmask)
    link := Function.update s.link newIface 0 }

/-- `getEthRouterInterface`. -/
def getEthRouterInterface (interface : Nat) : Option IfacePtr :=
  s.router.interfacesList.find? fun it => (s.router.iface it).interface = interface

/-- The newest interface of a device is the one that is found; the ones of other devices stay. -/
theorem getEthRouterInterface_addInterface {newIface : IfacePtr} {interface : Nat} {ip : Ip}
    {mac : Mac} {netmask : Ip} (new : newIface ∉ s.router.interfacesList) (device : Nat) :
    (s.addInterface config newIface interface ip mac netmask).getEthRouterInterface device =
      if interface = device then some newIface else s.getEthRouterInterface device := by
  have here : (Function.update s.router.iface newIface
      (⟨interface, [], [], ip, mac⟩ : EthernetRouterIface) newIface).interface = interface := by
    rw [Function.update_self]
  have others : (s.router.interfacesList.find? fun it =>
      (Function.update s.router.iface newIface ⟨interface, [], [], ip, mac⟩ it).interface = device) =
      s.router.interfacesList.find? fun it => (s.router.iface it).interface = device := by
    refine List.find?_congr fun it member => ?_
    have other : it ≠ newIface := fun same => new (same ▸ member)
    rw [Function.update_of_ne other]
  unfold getEthRouterInterface addInterface
  dsimp only
  rw [List.find?_cons, here, others]
  by_cases same : interface = device <;> simp [same]

/-! ### Routing -/

/-- The ARP controller of an interface gets an ARP frame. -/
def parseArpFrame (it : IfacePtr) (input : Input) :
    Except ArpController.Fault (ArpController × List (List UInt8)) :=
  let reception := input.receptions it
  if reception.inputFrameSize ≠ 0 ∧ getFrameType reception.frame = etxEtherTypeArp then
    (s.arpController it).parseFrame config reception.frame reception.inputFrameSize.toNat false
      (input.mallocReply it)
  else .ok (s.arpController it, [])

/-- The loop of `routeFrames`. -/
def routeInterfaces (input : Input) :
    List IfacePtr → TimedRouter → Except ArpController.Fault (TimedRouter × List Output)
  | [], s => .ok (s, [])
  | it :: list, s => do
    let (arpController, frames) ← s.parseArpFrame config it input
    let routed := routeFrame s.router it (input.receptions it)
    let s := { s with
      router := routed.1
      arpController := Function.update s.arpController it arpController }
    let (s, rest) ← routeInterfaces input list s
    .ok (s, .queued it frames :: routed.2.map .action ++ rest)

/-- `routeFrames`. -/
def routeFrames (input : Input) : Except ArpController.Fault (TimedRouter × List Output) :=
  if s.router.interfacesList = [] then
    .ok (if s.routeFramesInTimer then s.setNrtEvent 100000 .routeFrames else s, [])
  else do
    let (s, outputs) ← routeInterfaces config input s.router.interfacesList s
    -- `sys_check_timeouts`
    let s := { s with router := operations s.router input.timeouts }
    .ok (if s.routeFramesInTimer then s.setNrtEvent s.parsePeriodUs .routeFrames else s,
      outputs ++ input.timeouts.map fun operation => .action (.operation operation))

/-! ### Links -/

/-- The link of an interface is read. -/
def readsLink (it : IfacePtr) : Bool := s.checkLink || s.link it = 0

/-- The first loop of a link check. `gratious`: whether a link was found to be up. -/
def checkLinks (input : Input) : List IfacePtr → TimedRouter → (gratious : Bool) →
    Except ArpController.Fault (TimedRouter × Bool × List Output)
  | [], s, gratious => .ok (s, gratious, [])
  | it :: list, s, gratious => do
    let link := if s.readsLink it then input.links it else s.link it
    let (arpController, frames) ←
      (s.arpController it).voidCallback config (input.mallocRequests it)
    let (s', gratious', rest) ← checkLinks input list
      { s with
        link := Function.update s.link it link
        arpController := Function.update s.arpController it arpController }
      (gratious || (s.readsLink it && link ≠ 0))
    .ok (s', gratious',
      (if s.readsLink it then [.netif it (link ≠ 0)] else []) ++ .queued it frames :: rest)

/-- The second loop. -/
def announce (input : Input) : List Output :=
  s.router.interfacesList.map fun it =>
    .queued it ((s.arpController it).sendGratiousArp none (input.mallocAnnouncements it))

/-- `CALLBACK_TYPE_LINK_CHECK`. -/
def linkCheck (input : Input) : Except ArpController.Fault (TimedRouter × List Output) := do
  let (s, gratious, outputs) ← checkLinks config input s.router.interfacesList s false
  .ok (s.setNrtEvent 1000000 .linkCheck, outputs ++ if gratious then s.announce input else [])

/-- `voidCallback`. -/
def voidCallback (input : Input) :
    Source → Except ArpController.Fault (TimedRouter × List Output)
  | .timeEngine timerNumber data =>
    if s.nrtTimerNumber = timerNumber then
      match data with
      | .routeFrames => s.routeFrames config input
      | .lwipMs =>
        -- `lwipTimerHandler`
        let s := { s with router := operations s.router input.timeouts }
        .ok (s.setNrtEvent 1000 .lwipMs,
          input.timeouts.map fun operation => .action (.operation operation))
      | .linkCheck => s.linkCheck config input
    else .ok (s, [])
  | .other => s.routeFrames config input

end TimedRouter

/-! ### The machine -/

inductive TimedEvent
  | addInterface (newIface : IfacePtr) (interface : Nat) (ip : Ip) (mac : Mac) (netmask : Ip)
  | start (nrtTimerNumber : UInt8) (routeFramesInTimer checkLink : Bool)
  | setParsePeriodUs (parsePeriodUs : UInt32)
  | operation (operation : Operation)
  /-- an event that was set comes up -/
  | nrtEvent (k : Nat) (input : Input)
  /-- `voidCallback` is called, and not by the time engine -/
  | voidCallback (input : Input)

/-- One event, with what the router does to others. -/
def timedStep (config : ArpConfig) (s : TimedRouter) :
    TimedEvent → Except ArpController.Fault (TimedRouter × List Output)
  | .addInterface newIface interface ip mac netmask =>
    .ok (s.addInterface config newIface interface ip mac netmask, [])
  | .start nrtTimerNumber routeFramesInTimer checkLink =>
    .ok (s.start nrtTimerNumber routeFramesInTimer checkLink, [])
  | .setParsePeriodUs parsePeriodUs => .ok ({ s with parsePeriodUs }, [])
  | .operation operation => .ok ({ s with router := operate s.router operation }, [])
  | .nrtEvent k input =>
    match s.nrtEvents[k]? with
    | some event =>
      { s with nrtEvents := s.nrtEvents.eraseIdx k }.voidCallback config input
        (.timeEngine event.timerNumber event.data)
    | none => .ok (s, [])
  | .voidCallback input => s.voidCallback config input .other

/-- A new interface is at an address of its own. -/
def TimedEnabled (s : TimedRouter) : TimedEvent → Prop
  | .addInterface newIface _ _ _ _ => newIface ∉ s.router.interfacesList
  | .nrtEvent k _ => k < s.nrtEvents.length
  | _ => True

/-- The router as a machine. -/
def timed (config : ArpConfig) : Machine (Except ArpController.Fault TimedRouter) TimedEvent :=
  Machine.checked (fun s event => (timedStep config s event).map Prod.fst) TimedEnabled

end Jblib.Ethutilities.EthernetRouter
