/-
**Listeners of the router: registration and calls.**

* `lastAdded` — whether the last operation issued for a listener at an interface was an addition.
* `issued` — the operations that are issued while one frame is routed; `routeFrame_iface` — what
  routing it does to the lists of an interface.
* **`registered_iff`** — the registrations are those of the operations, in every state without
  pending deletions, exactly in the runs that never apply the deletion of a listener added again.
* **`called_iff`** — no deleted listener is called, exactly in the runs where none comes up while it
  awaits its deletion.
-/

import EthUtilities.EthernetRouter.Router

namespace Jblib.Ethutilities

open Library EthernetUtilities

namespace EthernetRouter

/-! ### The last operation -/

section Last

variable (listener : Listener) (i : IfacePtr)

/-- What an action makes of the last operation for a listener at an interface. -/
def effect (last : Option Bool) : Action → Option Bool
  | .operation (.add other j) => if other = listener ∧ j = i then some true else last
  | .operation (.delete other j) => if other = listener ∧ j = i then some false else last
  | _ => last

/-- Whether the last operation for the listener was an addition, if there was one. -/
def lastAdded (history : List Action) : Option Bool := history.foldl (effect listener i) none

variable {listener i} {history : List Action}

theorem lastAdded_append (more : List Action) :
    lastAdded listener i (history ++ more) =
      more.foldl (effect listener i) (lastAdded listener i history) := List.foldl_append

theorem lastAdded_add :
    lastAdded listener i (history ++ [.operation (.add listener i)]) = some true := by
  rw [lastAdded_append]
  exact if_pos ⟨rfl, rfl⟩

theorem lastAdded_delete :
    lastAdded listener i (history ++ [.operation (.delete listener i)]) = some false := by
  rw [lastAdded_append]
  exact if_pos ⟨rfl, rfl⟩

/-- An operation for another listener, or at another interface. -/
theorem lastAdded_operation_ne {operation : Operation}
    (other : ¬ (operation.listener = listener ∧ operation.routerInterface = i)) :
    lastAdded listener i (history ++ [.operation operation]) = lastAdded listener i history := by
  rw [lastAdded_append]
  cases operation with
  | add _ _ => exact if_neg other
  | delete _ _ => exact if_neg other

/-- A call is no operation. -/
theorem lastAdded_call (other : Listener) (j : IfacePtr) (more : List Action) :
    lastAdded listener i (history ++ .call other j :: more) =
      lastAdded listener i (history ++ more) := by
  rw [lastAdded_append, lastAdded_append]
  rfl

theorem lastAdded_lwip (j : IfacePtr) (more : List Action) :
    lastAdded listener i (history ++ .lwip j :: more) = lastAdded listener i (history ++ more) := by
  rw [lastAdded_append, lastAdded_append]
  rfl

theorem lastAdded_arp (j : IfacePtr) (more : List Action) :
    lastAdded listener i (history ++ .arp j :: more) = lastAdded listener i (history ++ more) := by
  rw [lastAdded_append, lastAdded_append]
  rfl

end Last

/-! ### What an operation does -/

section Operations

variable {router : EthernetRouter} {i : IfacePtr}

theorem iface_add (listener : Listener) :
    (operate router (.add listener i)).iface i =
      { router.iface i with listenersList := listener :: (router.iface i).listenersList } :=
  Function.update_self _ _ _

theorem iface_delete (listener : Listener) :
    (operate router (.delete listener i)).iface i =
      { router.iface i with
        listenersDeleteList := listener :: (router.iface i).listenersDeleteList } :=
  Function.update_self _ _ _

theorem operate_iface_ne {operation : Operation} (other : i ≠ operation.routerInterface) :
    (operate router operation).iface i = router.iface i := by
  cases operation with
  | add _ _ => exact Function.update_of_ne other _ _
  | delete _ _ => exact Function.update_of_ne other _ _

end Operations

/-! ### What routing a frame does -/

section Routing

variable (router : EthernetRouter) (i : IfacePtr) (reception : Reception)

/-- The operations of lwIP's callbacks for a frame whose address is at `offset`. -/
def lwipIssued (offset : Nat) : List Operation :=
  if isForIp reception.frame offset (router.iface i).ip then reception.lwip else []

/-- The router when the listeners are about to be called. -/
def atCalls : EthernetRouter := operations router (lwipIssued router i reception etxIpDIpOffset)

/-- The operations of lwIP and of the first `calls` listeners for an addressed frame. -/
def issued (calls : Nat) : List Operation :=
  lwipIssued router i reception etxIpDIpOffset ++ (reception.listeners.take calls).flatten

/-- The operations that come before the pending deletions are applied. -/
def issuedBefore : List Operation :=
  issued router i reception ((atCalls router i reception).iface i).listenersList.length

variable {router i reception}

theorem operations_append (first second : List Operation) :
    operations router (first ++ second) = operations (operations router first) second :=
  List.foldl_append

theorem pushIfForIp_eq (router : EthernetRouter) (i : IfacePtr) (reception : Reception)
    (offset : Nat) :
    (pushIfForIp router i offset reception).1 =
        operations router (lwipIssued router i reception offset) ∧
      ∀ history listener j,
        lastAdded listener j (history ++ (pushIfForIp router i offset reception).2) =
          lastAdded listener j
            (history ++ (lwipIssued router i reception offset).map .operation) := by
  unfold pushIfForIp lwipIssued
  split
  · exact ⟨rfl, fun history listener j => lastAdded_lwip i _⟩
  · exact ⟨rfl, fun _ _ _ => rfl⟩

/-- The answers of one call more. -/
theorem flatten_take_succ (answers : List (List Operation)) (calls : Nat) :
    (answers.take (calls + 1)).flatten = answers.headD [] ++ (answers.tail.take calls).flatten := by
  cases answers with
  | nil => rw [List.take_nil, List.tail_nil, List.take_nil]; rfl
  | cons answer answers => rfl

/-- The loop over the listeners: the operations of as many answers as there are calls. -/
theorem callListeners_eq (router : EthernetRouter) (i : IfacePtr) (listeners : List Listener)
    (answers : List (List Operation)) :
    (callListeners i listeners answers router).1 =
        operations router (answers.take listeners.length).flatten ∧
      ∀ history listener j,
        lastAdded listener j (history ++ (callListeners i listeners answers router).2) =
          lastAdded listener j
            (history ++ ((answers.take listeners.length).flatten).map .operation) := by
  induction listeners generalizing answers router with
  | nil =>
    rw [List.length_nil, List.take_zero]
    exact ⟨rfl, fun _ _ _ => rfl⟩
  | cons first listeners ih =>
    obtain ⟨routed, last⟩ := ih (operations router (answers.headD [])) answers.tail
    rw [List.length_cons, flatten_take_succ, operations_append, List.map_append]
    refine ⟨routed, fun history listener j => ?_⟩
    show lastAdded listener j (history ++ .call first i :: (_ ++ _)) = _
    rw [lastAdded_call, ← List.append_assoc, last, List.append_assoc]

/-- **Routing a frame**, by the operations that it causes: an addressed frame is followed by the
removal of the listeners to delete. -/
theorem routeFrame_eq (router : EthernetRouter) (i : IfacePtr) (reception : Reception) :
    ∃ operationsOf : List Operation,
      (IsAddressed (router.iface i) reception → operationsOf = issuedBefore router i reception ∧
        (routeFrame router i reception).1 =
          deleteListeners (operations router operationsOf) i) ∧
      (¬ IsAddressed (router.iface i) reception →
        (routeFrame router i reception).1 = operations router operationsOf) ∧
      ∀ history listener j, lastAdded listener j (history ++ (routeFrame router i reception).2) =
        lastAdded listener j (history ++ operationsOf.map .operation) := by
  unfold routeFrame
  by_cases empty : reception.inputFrameSize = 0
  · rw [if_pos empty]
    exact ⟨[], fun addressed => absurd empty addressed.1, fun _ => rfl, fun _ _ _ => rfl⟩
  by_cases arp : getFrameType reception.frame = etxEtherTypeArp
  · rw [if_neg empty, if_pos arp]
    obtain ⟨pushed, last⟩ := pushIfForIp_eq router i reception etxArpTargetIpOffset
    refine ⟨lwipIssued router i reception etxArpTargetIpOffset,
      fun addressed => absurd arp addressed.2.1, fun _ => pushed, fun history listener j => ?_⟩
    exact (lastAdded_arp i _).trans (last history listener j)
  by_cases mac : reception.frame.read etxEthDMacOffset 6 = (router.iface i).mac.val
  · rw [if_neg empty, if_neg arp, if_pos mac]
    obtain ⟨pushed, last⟩ := pushIfForIp_eq router i reception etxIpDIpOffset
    obtain ⟨called, lastCalls⟩ := callListeners_eq (atCalls router i reception) i
      ((atCalls router i reception).iface i).listenersList reception.listeners
    have before : operations router (issuedBefore router i reception) =
        operations (atCalls router i reception) _ := operations_append _ _
    refine ⟨issuedBefore router i reception, fun _ => ⟨rfl, ?_⟩,
      fun notAddressed => absurd ⟨empty, arp, mac⟩ notAddressed, fun history listener j => ?_⟩
    · dsimp only
      rw [pushed, before]
      exact congrArg (deleteListeners · i) called
    · dsimp only
      rw [pushed, ← List.append_assoc]
      refine (lastCalls _ listener j).trans ?_
      unfold issuedBefore issued
      rw [List.map_append, ← List.append_assoc, lastAdded_append, last, ← lastAdded_append]
  · rw [if_neg empty, if_neg arp, if_neg mac]
    exact ⟨[], fun addressed => absurd addressed.2.2 mac, fun _ => rfl, fun _ _ _ => rfl⟩

/-- The removal leaves the other interfaces. -/
theorem deleteListeners_iface_ne {j : IfacePtr} (other : j ≠ i) :
    (deleteListeners router i).iface j = router.iface j := by
  unfold deleteListeners
  dsimp only
  split
  · rfl
  · exact Function.update_of_ne other _ _

/-- Afterwards no deletion is pending. -/
theorem deleteListeners_nil : ((deleteListeners router i).iface i).listenersDeleteList = [] := by
  unfold deleteListeners
  dsimp only
  split
  case isTrue none => exact none
  case isFalse =>
    show (Function.update router.iface i _ i).listenersDeleteList = []
    rw [Function.update_self]

theorem mem_foldl_filter (deleted : List Listener) (list : List Listener) (listener : Listener) :
    listener ∈ deleted.foldl (fun list listener => list.filter fun current => current ≠ listener)
        list ↔
      listener ∈ list ∧ listener ∉ deleted := by
  induction deleted generalizing list with
  | nil => exact (and_iff_left (List.not_mem_nil)).symm
  | cons first deleted ih =>
    rw [List.foldl_cons, ih, List.mem_filter, decide_eq_true_iff, List.mem_cons, not_or, and_assoc]

/-- Exactly the listeners to delete are removed. -/
theorem mem_deleteListeners {listener : Listener} :
    listener ∈ ((deleteListeners router i).iface i).listenersList ↔
      listener ∈ (router.iface i).listenersList ∧
        listener ∉ (router.iface i).listenersDeleteList := by
  unfold deleteListeners
  dsimp only
  split
  case isTrue none =>
    rw [none]
    exact (and_iff_left (List.not_mem_nil)).symm
  case isFalse =>
    show listener ∈ (Function.update router.iface i _ i).listenersList ↔ _
    rw [Function.update_self]
    exact mem_foldl_filter _ _ _

end Routing

/-! ### Registration -/

section Registration

variable {i : IfacePtr}

/-- The lists of an interface hold what the operations say: a listener whose last operation is an
addition is listed, and a listed one whose last operation is not awaits its deletion. -/
def Tracks (i : IfacePtr) (s : Traced) : Prop :=
  ∀ listener,
    (lastAdded listener i s.history = some true →
      listener ∈ (s.router.iface i).listenersList) ∧
    (listener ∈ (s.router.iface i).listenersList →
      lastAdded listener i s.history = some true ∨
        listener ∈ (s.router.iface i).listenersDeleteList)

/-- Without pending deletions, the listed are those whose last operation is an addition. -/
def Registered (i : IfacePtr) (s : Traced) : Prop :=
  (s.router.iface i).listenersDeleteList = [] →
    ∀ listener, listener ∈ (s.router.iface i).listenersList ↔
      lastAdded listener i s.history = some true

/-- When pending deletions are applied, none of the listeners to delete has been added again. -/
def NoneAddedAgain (i : IfacePtr) (s : Traced) : Event → Prop
  | .operation _ => True
  | .frame j reception =>
    j = i → IsAddressed (s.router.iface i) reception →
      ∀ listener ∈
        ((operations s.router (issuedBefore s.router i reception)).iface i).listenersDeleteList,
        lastAdded listener i
          (s.history ++ (issuedBefore s.router i reception).map .operation) ≠ some true

theorem Tracks.registered {s : Traced} (tracks : Tracks i s) : Registered i s := by
  intro none listener
  refine ⟨fun listed => ?_, (tracks listener).1⟩
  rcases (tracks listener).2 listed with added | pending
  · exact added
  · rw [none] at pending
    exact absurd pending List.not_mem_nil

/-- One operation: the cases are the listener it names, another one, and another interface. -/
theorem tracks_operate {router : EthernetRouter} {history : List Action} (operation : Operation)
    (tracks : Tracks i ⟨router, history⟩) :
    Tracks i ⟨operate router operation, history ++ [.operation operation]⟩ := by
  intro listener
  obtain ⟨listed, tracked⟩ := tracks listener
  show (lastAdded listener i (history ++ [.operation operation]) = some true →
      listener ∈ ((operate router operation).iface i).listenersList) ∧
    (listener ∈ ((operate router operation).iface i).listenersList →
      lastAdded listener i (history ++ [.operation operation]) = some true ∨
        listener ∈ ((operate router operation).iface i).listenersDeleteList)
  by_cases here : operation.routerInterface = i
  case neg =>
    rw [operate_iface_ne (Ne.symm here), lastAdded_operation_ne fun both => here both.2]
    exact ⟨listed, tracked⟩
  by_cases same : operation.listener = listener
  · cases operation with
    | add other j =>
      obtain rfl : j = i := here
      obtain rfl : other = listener := same
      rw [lastAdded_add, iface_add]
      exact ⟨fun _ => List.mem_cons_self, fun _ => Or.inl rfl⟩
    | delete other j =>
      obtain rfl : j = i := here
      obtain rfl : other = listener := same
      rw [lastAdded_delete, iface_delete]
      exact ⟨fun impossible => (nomatch impossible), fun _ => Or.inr List.mem_cons_self⟩
  · rw [lastAdded_operation_ne fun both => same both.1]
    cases operation with
    | add other j =>
      obtain rfl : j = i := here
      rw [iface_add]
      refine ⟨fun added => List.mem_cons_of_mem _ (listed added), fun member => ?_⟩
      rcases List.mem_cons.mp member with rfl | member
      · exact absurd rfl same
      · exact tracked member
    | delete other j =>
      obtain rfl : j = i := here
      rw [iface_delete]
      exact ⟨listed, fun member => (tracked member).imp_right (List.mem_cons_of_mem _)⟩

theorem tracks_operations {router : EthernetRouter} {history : List Action}
    (operationsOf : List Operation) (tracks : Tracks i ⟨router, history⟩) :
    Tracks i ⟨operations router operationsOf, history ++ operationsOf.map .operation⟩ := by
  induction operationsOf generalizing router history with
  | nil =>
    rw [List.map_nil, List.append_nil]
    exact tracks
  | cons operation operationsOf ih =>
    have rest := ih (tracks_operate operation tracks)
    rw [List.append_assoc] at rest
    exact rest

/-- It is a matter of the lists and of the last operations. -/
theorem tracks_congr {s s' : Traced} (tracks : Tracks i s)
    (lists : s'.router.iface i = s.router.iface i)
    (last : ∀ listener, lastAdded listener i s'.history = lastAdded listener i s.history) :
    Tracks i s' := by
  intro listener
  rw [lists, last]
  exact tracks listener

/-- Applying the deletions: good exactly if none of the listeners was added again. -/
theorem tracks_deleteListeners {router : EthernetRouter} {history : List Action}
    (tracks : Tracks i ⟨router, history⟩)
    (none : ∀ listener ∈ (router.iface i).listenersDeleteList,
      lastAdded listener i history ≠ some true) :
    Tracks i ⟨deleteListeners router i, history⟩ := by
  intro listener
  show (_ → listener ∈ ((deleteListeners router i).iface i).listenersList) ∧
    (listener ∈ ((deleteListeners router i).iface i).listenersList → _)
  rw [mem_deleteListeners]
  refine ⟨fun added => ⟨(tracks listener).1 added, fun pending => none listener pending added⟩, ?_⟩
  rintro ⟨listed, notPending⟩
  exact ((tracks listener).2 listed).imp_right fun pending => absurd pending notPending

/-- **One step.** -/
theorem tracks_step {s : Traced} {event : Event} (tracks : Tracks i s)
    (none : NoneAddedAgain i s event) : Tracks i (step s event) := by
  cases event with
  | operation operation => exact tracks_operate operation tracks
  | frame j reception =>
    obtain ⟨operationsOf, addressed, notAddressed, last⟩ :=
      routeFrame_eq s.router j reception
    have issuedTracks := tracks_operations operationsOf tracks
    by_cases goes : IsAddressed (s.router.iface j) reception
    · obtain ⟨rfl, routed⟩ := addressed goes
      by_cases here : j = i
      · subst here
        exact tracks_congr (tracks_deleteListeners issuedTracks (none rfl goes))
          (congrArg (·.iface j) routed) fun listener => last s.history listener j
      · refine tracks_congr issuedTracks ?_ fun listener => last s.history listener i
        show (routeFrame s.router j reception).1.iface i = _
        rw [routed, deleteListeners_iface_ne (Ne.symm here)]
    · exact tracks_congr issuedTracks (congrArg (·.iface i) (notAddressed goes))
        fun listener => last s.history listener i

/-- A step that applies the deletion of a listener added again loses its registration. -/
theorem noneAddedAgain_of_registered {s : Traced} {event : Event}
    (registered : Registered i (step s event)) : NoneAddedAgain i s event := by
  cases event with
  | operation operation => trivial
  | frame j reception =>
    rintro rfl goes listener pending added
    obtain ⟨operationsOf, addressed, _, last⟩ :=
      routeFrame_eq s.router j reception
    obtain ⟨rfl, routed⟩ := addressed goes
    have lists : ((step s (.frame j reception)).router.iface j) =
        (deleteListeners (operations s.router (issuedBefore s.router j reception)) j).iface j :=
      congrArg (·.iface j) routed
    have none : ((step s (.frame j reception)).router.iface j).listenersDeleteList = [] := by
      rw [lists]
      exact deleteListeners_nil
    have listed := (registered none listener).mpr ((last s.history listener j).trans added)
    rw [lists, mem_deleteListeners] at listed
    exact listed.2 pending

/-- **Registration is sequentially consistent** exactly in the runs that never apply the deletion of
a listener that was added again after it. -/
theorem registered_iff (i : IfacePtr) (start : EthernetRouter)
    (none : (start.iface i).listenersList = []) (events : List Event) :
    router.States (Registered i) ⟨start, []⟩ events ↔
      router.Steps (NoneAddedAgain i) ⟨start, []⟩ events := by
  refine router.states_iff_steps_of_stronger (G := Tracks i) (fun s => Tracks.registered)
    (fun s event tracks _ => tracks_step tracks)
    (fun s event _ _ => noneAddedAgain_of_registered) ?_ (router_valid _ _)
  intro listener
  show (_ → listener ∈ (start.iface i).listenersList) ∧
    (listener ∈ (start.iface i).listenersList → _)
  rw [none]
  exact ⟨fun impossible => (nomatch impossible), fun listed => absurd listed List.not_mem_nil⟩

/-- A router with one interface, for which every frame of zeros is addressed. -/
def sampleRouter : EthernetRouter :=
  { interfacesList := [0]
    iface := fun _ => ⟨0, [], [], ⟨[10, 0, 0, 1], rfl⟩, ⟨[0, 0, 0, 0, 0, 0], rfl⟩⟩ }

/-- A frame of zeros, during which the listeners do something. -/
def sampleReception (listeners : List (List Operation)) : Reception :=
  ⟨fun _ => 0, 60, [], listeners⟩

theorem registered_iff_sample :
    router.States (Registered 0) ⟨sampleRouter, []⟩
        [.operation (.add 7 0), .operation (.delete 7 0), .frame 0 (sampleReception [])] ↔
      router.Steps (NoneAddedAgain 0) ⟨sampleRouter, []⟩
        [.operation (.add 7 0), .operation (.delete 7 0), .frame 0 (sampleReception [])] :=
  registered_iff 0 sampleRouter rfl _

/-- A listener that is deleted and added again is removed by the next frame. -/
theorem registered_fails :
    ¬ router.States (Registered 0) ⟨sampleRouter, []⟩
      [.operation (.add 7 0), .operation (.delete 7 0), .operation (.add 7 0),
        .frame 0 (sampleReception [])] := by
  intro states
  have listed := (states.last rfl 7).mpr rfl
  exact absurd listed List.not_mem_nil

end Registration

/-! ### Calls -/

section Calls

variable {i : IfacePtr} {history : List Action}

/-- No call among the actions after a history meets a listener whose last operation is a
deletion. -/
def CallsAfter (i : IfacePtr) (history actions : List Action) : Prop :=
  ∀ before listener behind, actions = before ++ .call listener i :: behind →
    lastAdded listener i (history ++ before) ≠ some false

/-- No deleted listener has been called. -/
def NoDeletedCalled (i : IfacePtr) (s : Traced) : Prop := CallsAfter i [] s.history

/-- When the listeners are called for a frame, none has a deletion as its last operation, counting
the operations of lwIP and of the listeners in front of it. -/
def NoneDeletedComesUp (i : IfacePtr) (s : Traced) : Event → Prop
  | .operation _ => True
  | .frame j reception =>
    j = i → IsAddressed (s.router.iface i) reception →
      ∀ before listener behind,
        ((atCalls s.router i reception).iface i).listenersList = before ++ listener :: behind →
        lastAdded listener i
          (s.history ++ (issued s.router i reception before.length).map .operation) ≠ some false

theorem callsAfter_append (first second : List Action) :
    CallsAfter i history (first ++ second) ↔
      CallsAfter i history first ∧ CallsAfter i (history ++ first) second := by
  constructor
  · intro calls
    refine ⟨fun before listener behind split => ?_, fun before listener behind split => ?_⟩
    · refine calls before listener (behind ++ second) ?_
      rw [split, List.append_assoc, List.cons_append]
    · rw [List.append_assoc]
      refine calls (first ++ before) listener behind ?_
      rw [split, List.append_assoc]
  · rintro ⟨inFirst, inSecond⟩ before listener behind split
    rcases List.append_eq_append_iff.mp split with ⟨middle, rfl, later⟩ | ⟨middle, rfl, rest⟩
    · have call := inSecond middle listener behind later
      rwa [List.append_assoc] at call
    · cases middle with
      | nil =>
        have call := inSecond [] listener behind rest.symm
        rwa [List.append_nil, List.append_nil] at call
      | cons action middle =>
        obtain ⟨rfl, _⟩ := List.cons.inj rest
        exact inFirst before listener middle rfl

theorem callsAfter_of_no_call {actions : List Action}
    (none : ∀ listener, .call listener i ∉ actions) : CallsAfter i history actions := by
  rintro before listener behind rfl
  exact absurd (List.mem_append_right _ List.mem_cons_self) (none listener)

theorem callsAfter_operations (operationsOf : List Operation) :
    CallsAfter i history (operationsOf.map .operation) := by
  refine callsAfter_of_no_call fun listener member => ?_
  obtain ⟨_, _, impossible⟩ := List.mem_map.mp member
  exact nomatch impossible

theorem callsAfter_push {router : EthernetRouter} {j : IfacePtr} (offset : Nat)
    (reception : Reception) : CallsAfter i history (pushIfForIp router j offset reception).2 := by
  unfold pushIfForIp
  split
  · refine (callsAfter_append [.lwip j] _).mpr ⟨?_, callsAfter_operations _⟩
    exact callsAfter_of_no_call fun listener member => nomatch List.mem_singleton.mp member
  · exact callsAfter_of_no_call fun listener => List.not_mem_nil

theorem callsAfter_call {j : IfacePtr} (listener : Listener) :
    CallsAfter i history [.call listener j] ↔
      (j = i → lastAdded listener i history ≠ some false) := by
  constructor
  · rintro calls rfl
    have call := calls [] listener [] rfl
    rwa [List.append_nil] at call
  · intro good before other behind split
    cases before with
    | nil =>
      cases split
      rw [List.append_nil]
      exact good rfl
    | cons action before =>
      have impossible := (List.cons.inj split).2
      exact absurd impossible.symm (List.append_ne_nil_of_right_ne_nil _ (List.cons_ne_nil _ _))

/-- **The loop over the listeners**: when each of them comes up. -/
theorem callsAfter_callListeners {router : EthernetRouter} {j : IfacePtr}
    (listeners : List Listener) (answers : List (List Operation)) :
    CallsAfter i history (callListeners j listeners answers router).2 ↔
      (j = i → ∀ before listener behind, listeners = before ++ listener :: behind →
        lastAdded listener i
          (history ++ ((answers.take before.length).flatten).map .operation) ≠ some false) := by
  induction listeners generalizing history answers router with
  | nil =>
    refine iff_of_true (callsAfter_of_no_call fun listener => List.not_mem_nil) ?_
    intro _ before listener behind split
    exact absurd split.symm (List.append_ne_nil_of_right_ne_nil _ (List.cons_ne_nil _ _))
  | cons first listeners ih =>
    show CallsAfter i history ([.call first j] ++ ((answers.headD []).map .operation ++
      (callListeners j listeners answers.tail (operations router (answers.headD []))).2)) ↔ _
    rw [callsAfter_append, callsAfter_call, callsAfter_append, and_iff_right
      (callsAfter_operations _), ih]
    have later : ∀ listener (more : List Action), lastAdded listener i
        (history ++ [.call first j] ++ (answers.headD []).map .operation ++ more) =
          lastAdded listener i (history ++ ((answers.headD []).map .operation ++ more)) := by
      intro listener more
      rw [List.append_assoc, List.append_assoc]
      exact lastAdded_call first j _
    constructor
    · rintro ⟨here, rest⟩ same before listener behind split
      cases before with
      | nil =>
        obtain ⟨rfl, _⟩ := List.cons.inj split
        rw [List.length_nil, List.take_zero]
        exact (List.append_nil history).symm ▸ here same
      | cons _ before =>
        have call := rest same before listener behind (List.cons.inj split).2
        rw [later, ← List.map_append] at call
        rw [List.length_cons, flatten_take_succ]
        exact call
    · intro all
      refine ⟨fun same => ?_, fun same before listener behind split => ?_⟩
      · have call := all same [] first listeners rfl
        rw [List.length_nil, List.take_zero] at call
        exact (List.append_nil history) ▸ call
      · have call := all same (first :: before) listener behind (congrArg (first :: ·) split)
        rw [List.length_cons, flatten_take_succ] at call
        rw [later, ← List.map_append]
        exact call

/-- The calls of one frame. -/
theorem callsAfter_routeFrame {router : EthernetRouter} {j : IfacePtr} {reception : Reception} :
    CallsAfter i history (routeFrame router j reception).2 ↔
      (j = i → IsAddressed (router.iface j) reception →
        ∀ before listener behind,
          ((atCalls router j reception).iface j).listenersList = before ++ listener :: behind →
          lastAdded listener i
            (history ++ (issued router j reception before.length).map .operation) ≠ some false) := by
  have silent : ∀ {actions : List Action}, CallsAfter i history actions →
      ¬ IsAddressed (router.iface j) reception →
      (CallsAfter i history actions ↔ (j = i → IsAddressed (router.iface j) reception →
        ∀ before listener behind,
          ((atCalls router j reception).iface j).listenersList = before ++ listener :: behind →
          lastAdded listener i (history ++
            (issued router j reception before.length).map .operation) ≠ some false)) :=
    fun calls notAddressed => iff_of_true calls fun _ addressed => absurd addressed notAddressed
  unfold routeFrame
  by_cases empty : reception.inputFrameSize = 0
  · rw [if_pos empty]
    exact silent (callsAfter_of_no_call fun _ => List.not_mem_nil) fun goes => goes.1 empty
  by_cases arp : getFrameType reception.frame = etxEtherTypeArp
  · rw [if_neg empty, if_pos arp]
    refine silent ((callsAfter_append [.arp j] _).mpr ⟨?_, callsAfter_push _ _⟩)
      fun goes => goes.2.1 arp
    exact callsAfter_of_no_call fun listener member => nomatch List.mem_singleton.mp member
  by_cases mac : reception.frame.read etxEthDMacOffset 6 = (router.iface j).mac.val
  case neg =>
    rw [if_neg empty, if_neg arp, if_neg mac]
    exact silent (callsAfter_of_no_call fun _ => List.not_mem_nil) fun goes => mac goes.2.2
  rw [if_neg empty, if_neg arp, if_pos mac]
  obtain ⟨pushed, last⟩ := pushIfForIp_eq router j reception etxIpDIpOffset
  dsimp only
  rw [callsAfter_append, and_iff_right (callsAfter_push _ _), callsAfter_callListeners, pushed]
  refine forall_congr' fun same => ?_
  rw [imp_iff_right (show IsAddressed (router.iface j) reception from ⟨empty, arp, mac⟩)]
  refine forall_congr' fun before => forall₂_congr fun listener behind => forall_congr' fun _ => ?_
  rw [lastAdded_append, last, ← lastAdded_append, List.append_assoc, ← List.map_append]
  rfl

/-- **No deleted listener is called** exactly in the runs where none comes up for a frame while its
last operation is a deletion. -/
theorem called_iff (i : IfacePtr) (start : EthernetRouter) (events : List Event) :
    router.States (NoDeletedCalled i) ⟨start, []⟩ events ↔
      router.Steps (NoneDeletedComesUp i) ⟨start, []⟩ events := by
  refine router.states_iff_steps (fun s event good _ => ?_)
    (callsAfter_of_no_call fun listener => List.not_mem_nil) (router_valid _ _)
  cases event with
  | operation operation =>
    refine iff_of_true ?_ trivial
    exact (callsAfter_append _ _).mpr ⟨good, callsAfter_operations [operation]⟩
  | frame j reception =>
    show CallsAfter i [] (s.history ++ (routeFrame s.router j reception).2) ↔ _
    rw [callsAfter_append, and_iff_right (show CallsAfter i [] s.history from good),
      List.nil_append, callsAfter_routeFrame]
    refine forall_congr' fun same => ?_
    rw [same]

/-- A listener deleted before a frame is called for it. -/
theorem deleted_called :
    ¬ router.States (NoDeletedCalled 0) ⟨sampleRouter, []⟩
      [.operation (.add 7 0), .operation (.delete 7 0), .frame 0 (sampleReception [])] := by
  intro states
  have called := states.last [.operation (.add 7 0), .operation (.delete 7 0)] 7 [] rfl
  exact called rfl

end Calls

end EthernetRouter

end Jblib.Ethutilities
