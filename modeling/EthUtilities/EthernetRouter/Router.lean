/-
**`EthernetRouter`: who is given the received frames, and the lists of listeners.**

The router calls other components: the ARP controller, lwIP and the listeners. A step returns these
calls, in their order, beside the router (`Action`). What lwIP and the listeners do with the router
while they run — they may add and delete listeners — is an input.

* `routeFrame` — the loop body of `routeFrames` for one interface. `routeFrames` is the loop.
* `router` — the router as a machine: operations from outside, and frames. It keeps the history of
  the actions.
* `routeFrames_eq_run` — `routeFrames` is a run of it.
-/

import EthUtilities.Library.Machine
import EthUtilities.EthernetUtilities.Frames
import Mathlib.Logic.Function.Basic

namespace Jblib.Ethutilities

open Library EthernetUtilities

namespace EthernetRouter

/-- An `IEthernetListener*`. -/
abbrev Listener := Nat

/-- An `EthernetRouterIface_t*` that is not `NULL`. -/
abbrev IfacePtr := Nat

/-- `EthernetRouterIface_t`. -/
structure EthernetRouterIface where
  /-- the `IVoidEthernet*` -/
  interface : Nat
  listenersList : List Listener
  listenersDeleteList : List Listener
  ip : Ip
  mac : Mac

end EthernetRouter

open EthernetRouter

/-- The router, and what is at the addresses of its interfaces. -/
structure EthernetRouter where
  interfacesList : List IfacePtr
  iface : IfacePtr → EthernetRouterIface

namespace EthernetRouter

/-! ### Listeners -/

/-- `addListener(listener, routerInterface)`; `none` is `NULL`. -/
def addListener (router : EthernetRouter) (listener : Listener) :
    (routerInterface : Option IfacePtr) → EthernetRouter
  | none => router
  | some routerInterface =>
    { router with
      iface := Function.update router.iface routerInterface
        { router.iface routerInterface with
          listenersList := listener :: (router.iface routerInterface).listenersList } }

/-- `deleteListener(listener, routerInterface)`, which does not check its pointer. -/
def deleteListener (router : EthernetRouter) (listener : Listener) (routerInterface : IfacePtr) :
    EthernetRouter :=
  { router with
    iface := Function.update router.iface routerInterface
      { router.iface routerInterface with
        listenersDeleteList := listener :: (router.iface routerInterface).listenersDeleteList } }

/-- An addition or a deletion at one interface. -/
inductive Operation
  | add (listener : Listener) (routerInterface : IfacePtr)
  | delete (listener : Listener) (routerInterface : IfacePtr)
  deriving DecidableEq

def Operation.listener : Operation → Listener
  | .add listener _ => listener
  | .delete listener _ => listener

def Operation.routerInterface : Operation → IfacePtr
  | .add _ routerInterface => routerInterface
  | .delete _ routerInterface => routerInterface

def operate (router : EthernetRouter) : Operation → EthernetRouter
  | .add listener routerInterface => addListener router listener (some routerInterface)
  | .delete listener routerInterface => deleteListener router listener routerInterface

def operations (router : EthernetRouter) (issued : List Operation) : EthernetRouter :=
  issued.foldl operate router

/-- The overloads for all interfaces of a device: one operation after the other. -/
def addListenerToInterface (router : EthernetRouter) (listener : Listener) (interface : Nat) :
    EthernetRouter :=
  operations router ((router.interfacesList.filter fun it =>
    (router.iface it).interface = interface).map (.add listener))

def deleteListenerFromInterface (router : EthernetRouter) (listener : Listener)
    (interface : Nat) : EthernetRouter :=
  operations router ((router.interfacesList.filter fun it =>
    (router.iface it).interface = interface).map (.delete listener))

/-- The overloads for all interfaces. -/
def addListenerToAll (router : EthernetRouter) (listener : Listener) : EthernetRouter :=
  operations router (router.interfacesList.map (.add listener))

def deleteListenerFromAll (router : EthernetRouter) (listener : Listener) : EthernetRouter :=
  operations router (router.interfacesList.map (.delete listener))

/-! ### Frames -/

/-- What the router does to others, or they to it. -/
inductive Action
  /-- `arpController->parseFrame` -/
  | arp (routerInterface : IfacePtr)
  /-- `pushFrameToLwip` -/
  | lwip (routerInterface : IfacePtr)
  /-- `listener->parseFrame` -/
  | call (listener : Listener) (routerInterface : IfacePtr)
  | operation (operation : Operation)
  deriving DecidableEq

/-- What `pullOutRxFrame` yields for one interface, and what is done with the router meanwhile: by
the callbacks of lwIP if the frame is pushed to it, and by the listeners, call for call. -/
structure Reception where
  frame : Buffer
  inputFrameSize : UInt16
  lwip : List Operation
  listeners : List (List Operation)

/-- The comparison of the four bytes at an offset with an address. -/
def isForIp (frame : Buffer) (offset : Nat) (ip : Ip) : Prop := frame.read offset 4 = ip.val

instance (frame : Buffer) (offset : Nat) (ip : Ip) : Decidable (isForIp frame offset ip) :=
  inferInstanceAs (Decidable (_ = _))

def pushFrameToLwip (router : EthernetRouter) (routerInterface : IfacePtr)
    (reception : Reception) : EthernetRouter × List Action :=
  (operations router reception.lwip, .lwip routerInterface :: reception.lwip.map .operation)

/-- The frame goes to lwIP if the address at an offset is the one of the interface. -/
def pushIfForIp (router : EthernetRouter) (routerInterface : IfacePtr) (offset : Nat)
    (reception : Reception) : EthernetRouter × List Action :=
  if isForIp reception.frame offset (router.iface routerInterface).ip then
    pushFrameToLwip router routerInterface reception
  else (router, [])

/-- The loop over the listeners: over the list as it was when the loop began, since additions go to
its front and nothing is removed meanwhile. -/
def callListeners (routerInterface : IfacePtr) :
    List Listener → (answers : List (List Operation)) → EthernetRouter →
      EthernetRouter × List Action
  | [], _, router => (router, [])
  | listener :: listeners, answers, router =>
    let issued := answers.headD []
    let rest := callListeners routerInterface listeners answers.tail (operations router issued)
    (rest.1, .call listener routerInterface :: (issued.map .operation ++ rest.2))

/-- The removal of the listeners in `listenersDeleteList`. -/
def deleteListeners (router : EthernetRouter) (routerInterface : IfacePtr) : EthernetRouter :=
  let routerIface := router.iface routerInterface
  if routerIface.listenersDeleteList = [] then router
  else
    { router with
      iface := Function.update router.iface routerInterface
        { routerIface with
          listenersList := routerIface.listenersDeleteList.foldl
            (fun list listener => list.filter fun current => current ≠ listener)
            routerIface.listenersList
          listenersDeleteList := [] } }

/-- A frame that goes to the listeners: for the MAC of the interface, and not ARP. -/
def IsAddressed (routerIface : EthernetRouterIface) (reception : Reception) : Prop :=
  reception.inputFrameSize ≠ 0 ∧ getFrameType reception.frame ≠ etxEtherTypeArp ∧
    reception.frame.read etxEthDMacOffset 6 = routerIface.mac.val

instance (routerIface : EthernetRouterIface) (reception : Reception) :
    Decidable (IsAddressed routerIface reception) :=
  inferInstanceAs (Decidable (_ ∧ _ ∧ _))

/-- `routeFrames` for one interface. -/
def routeFrame (router : EthernetRouter) (routerInterface : IfacePtr) (reception : Reception) :
    EthernetRouter × List Action :=
  if reception.inputFrameSize = 0 then (router, [])
  else if getFrameType reception.frame = etxEtherTypeArp then
    let pushed := pushIfForIp router routerInterface etxArpTargetIpOffset reception
    (pushed.1, .arp routerInterface :: pushed.2)
  else if reception.frame.read etxEthDMacOffset 6 = (router.iface routerInterface).mac.val then
    let pushed := pushIfForIp router routerInterface etxIpDIpOffset reception
    let called := callListeners routerInterface (pushed.1.iface routerInterface).listenersList
      reception.listeners pushed.1
    (deleteListeners called.1 routerInterface, pushed.2 ++ called.2)
  else (router, [])

/-- The loop over a list of interfaces. -/
def routeInterfaces (receptions : IfacePtr → Reception) :
    List IfacePtr → EthernetRouter → EthernetRouter × List Action
  | [], router => (router, [])
  | it :: list, router =>
    let routed := routeFrame router it (receptions it)
    let rest := routeInterfaces receptions list routed.1
    (rest.1, routed.2 ++ rest.2)

/-- `routeFrames`; `timeouts` are the operations of the callbacks that `sys_check_timeouts` runs. -/
def routeFrames (router : EthernetRouter) (receptions : IfacePtr → Reception)
    (timeouts : List Operation) : EthernetRouter × List Action :=
  if router.interfacesList = [] then (router, [])
  else
    let routed := routeInterfaces receptions router.interfacesList router
    (operations routed.1 timeouts, routed.2 ++ timeouts.map .operation)

/-! ### The machine -/

/-- The router and what has happened, oldest first. -/
structure Traced where
  router : EthernetRouter
  history : List Action

inductive Event
  /-- an operation, from wherever it comes -/
  | operation (operation : Operation)
  /-- the loop body of `routeFrames` for one interface -/
  | frame (routerInterface : IfacePtr) (reception : Reception)

def step (s : Traced) : Event → Traced
  | .operation operation => ⟨operate s.router operation, s.history ++ [.operation operation]⟩
  | .frame routerInterface reception =>
    let routed := routeFrame s.router routerInterface reception
    ⟨routed.1, s.history ++ routed.2⟩

/-- The router as a machine. -/
def router : Machine Traced Event where
  enabled _ _ := True
  next := step

theorem router_valid (s : Traced) (events : List Event) : router.Valid s events := by
  induction events generalizing s with
  | nil => trivial
  | cons event events ih => exact ⟨trivial, ih _⟩

section Runs

theorem run_operations (s : Traced) (issued : List Operation) :
    router.run s (issued.map .operation) =
      ⟨operations s.router issued, s.history ++ issued.map .operation⟩ := by
  induction issued generalizing s with
  | nil => rw [List.map_nil, List.map_nil, List.append_nil]; rfl
  | cons operation issued ih =>
    rw [List.map_cons, Machine.run_cons, ih, List.map_cons]
    show Traced.mk _ ((s.history ++ [.operation operation]) ++ _) = _
    rw [List.append_assoc]
    rfl

theorem run_interfaces (s : Traced) (receptions : IfacePtr → Reception) (list : List IfacePtr) :
    router.run s (list.map fun it => .frame it (receptions it)) =
      ⟨(routeInterfaces receptions list s.router).1,
        s.history ++ (routeInterfaces receptions list s.router).2⟩ := by
  induction list generalizing s with
  | nil =>
    show s = Traced.mk s.router (s.history ++ [])
    rw [List.append_nil]
  | cons it list ih =>
    rw [List.map_cons, Machine.run_cons, ih]
    show Traced.mk _ ((s.history ++ _) ++ _) = _
    rw [List.append_assoc]
    rfl

/-- **`routeFrames` is a run** over the interfaces, and then of the operations of the timeouts. -/
theorem routeFrames_eq_run (s : Traced) (receptions : IfacePtr → Reception)
    (timeouts : List Operation) (some : s.router.interfacesList ≠ []) :
    router.run s (s.router.interfacesList.map (fun it => .frame it (receptions it)) ++
        timeouts.map .operation) =
      ⟨(routeFrames s.router receptions timeouts).1,
        s.history ++ (routeFrames s.router receptions timeouts).2⟩ := by
  rw [Machine.run_append, run_interfaces, run_operations, routeFrames, if_neg some,
    List.append_assoc]

end Runs

end EthernetRouter

end Jblib.Ethutilities
