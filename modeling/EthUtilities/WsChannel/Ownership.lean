/-
**A connection belongs to the channel it was opened on.**

* `owns` — whose connection is on a `tcp_pcb` now. `Right` — what the channels call for data on a
  connection, and for a broadcast, is what the owners demand.
* `Lists` — the invariant behind it: a `tcp_pcb` that is established is in the list of the channel
  that owns it, once, and in no other list. What is in the lists and not established does not matter
  as long as it stays so. `behaves_iff_lists`: the channels behave rightly exactly in these states.
* `lists_step` — which steps keep it: all but a new connection on a `tcp_pcb` that some channel
  still lists.
* **`connections_belong_iff`** — a run behaves rightly in every state exactly as long as no `tcp_pcb`
  is reused while it is listed (`connection_of_two_channels`).
-/

import EthUtilities.WsChannel.Channel
import Mathlib.Data.List.Count

namespace Jblib.Ethutilities.WsChannel

open Library

/-! ### What the channels have to do -/

/-- The connection was opened on the channel: with its URI, when the channel existed. With `early`,
a connection that was opened before the channel was created counts as well. -/
def Connection.on (connection : Connection) (early : Bool) (uri : Uri) : Bool :=
  connection.uri = some uri ∧ (connection.channelExisted = true ∨ early = true)

/-- **The channel owns what is on the `tcp_pcb` now**: a connection that is established and was
opened on the channel. -/
def WebSockets.owns (s : WebSockets) (early : Bool) (uri : Uri) (pcb : Address) : Bool :=
  s.state pcb = .established ∧ (s.connection pcb).any fun connection => connection.on early uri

/-- Data on a connection invokes the callback of the channel it was opened on, once, if the channel
existed and has a callback, and no other channel's. -/
def Delivered (s : WebSockets) (connection : Connection) (pcb : Address) (data : List UInt8)
    (mode : UInt8) (outputs : List Output) : Prop :=
  (∀ channel callback, getWsChannel s.wsChannelsList connection.uri = some channel →
    connection.channelExisted = true → channel.callback = some callback →
      outputs = [.channelCallback callback data channel.uri ⟨pcb, mode⟩]) ∧
  ∀ output ∈ outputs, ∃ callback uri, connection.uri = some uri ∧
    output = .channelCallback callback data uri ⟨pcb, mode⟩

/-- A broadcast calls `websocket_write` once for each connection the channel owns, and nothing
else. -/
def Broadcast (wsBinMode : UInt8) (early : Bool) (s : WebSockets) (uri : Uri) (data : List UInt8)
    (outputs : List Output) : Prop :=
  (∀ output ∈ outputs, ∃ pcb, output = .websocketWrite pcb data wsBinMode) ∧
    ∀ pcb, outputs.count (.websocketWrite pcb data wsBinMode) = (s.owns early uri pcb).toNat

/-- **What an event calls is what it has to call.** -/
def Right (wsBinMode : UInt8) (early : Bool) (s : WebSockets) (event : Event) : Prop :=
  let outputs := (step wsBinMode s event).2
  match event with
  | .websocketCallback pcb data mode => ∀ connection, s.connection pcb = some connection →
    Delivered s connection pcb data mode outputs
  | .tx uri (some data) none => Broadcast wsBinMode early s uri data outputs
  | _ => True

/-- Whatever comes next, the channels do what they have to. -/
def Behaves (wsBinMode : UInt8) (early : Bool) (s : WebSockets) : Prop :=
  ∀ event, enabled s event → Right wsBinMode early s event

/-- No channel lists the `tcp_pcb` that gets a new connection. With `early`, also no connection was
opened yet on the URI of a channel that is created. -/
def Keeps (early : Bool) (s : WebSockets) : Event → Prop
  | .establish pcb => ∀ channel ∈ s.wsChannelsList, pcb ∉ channel.pcbsList
  | .createWsChannel (some uri) => early = true →
    getWsChannel s.wsChannelsList (some uri) = none → ∀ pcb, s.owns true uri pcb = false
  | _ => True

instance : ∀ s event, Decidable (Keeps false s event)
  | s, .establish pcb =>
    inferInstanceAs (Decidable (∀ channel ∈ s.wsChannelsList, pcb ∉ channel.pcbsList))
  | _, .createWsChannel (some _) => .isTrue fun impossible => nomatch impossible
  | _, .createWsChannel none | _, .initializeChannel .. | _, .deinitializeChannel _ | _, .tx ..
  | _, .leave .. | _, .websocketOpenCallback .. | _, .websocketCallback .. => .isTrue trivial

/-! ### The invariants -/

/-- Channels have distinct URIs, and a connection that found its channel can find it again. -/
structure Tidy (s : WebSockets) : Prop where
  distinct : Keyed.Distinct WsChannel.uri s.wsChannelsList
  existed : ∀ pcb connection, s.connection pcb = some connection →
    connection.channelExisted = true →
      ∃ uri ∈ s.wsChannelsList.map WsChannel.uri, connection.uri = some uri

/-- **Among the established `tcp_pcb`s a channel lists those it owns, once.** -/
def Lists (early : Bool) (s : WebSockets) : Prop :=
  ∀ channel ∈ s.wsChannelsList, ∀ pcb, s.state pcb = .established →
    channel.pcbsList.count pcb = (s.owns early channel.uri pcb).toNat

section Lookup

variable {s : WebSockets} {early : Bool} {uri : Uri} {channel : WsChannel} {pcb : Address}

theorem getWsChannel_isSome {channels : List WsChannel} {uri : Option Uri} :
    (getWsChannel channels uri).isSome = true ↔
      ∃ name ∈ channels.map WsChannel.uri, uri = some name := by
  cases uri with
  | none =>
    refine iff_of_false (by simp [getWsChannel]) ?_
    rintro ⟨_, _, impossible⟩
    cases impossible
  | some name =>
    show (Keyed.find WsChannel.uri channels name).isSome = true ↔ _
    constructor
    · intro found
      obtain ⟨channel, found⟩ := Option.isSome_iff_exists.mp found
      have member := Keyed.mem_of_find found
      exact ⟨name, List.mem_map.mpr ⟨channel, member, Keyed.key_of_find found⟩, rfl⟩
    · rintro ⟨_, inside, same⟩
      obtain rfl := Option.some.inj same
      obtain ⟨channel, member, named⟩ := List.mem_map.mp inside
      refine Option.isSome_iff_ne_none.mpr fun absent => ?_
      exact Keyed.find_eq_none_iff.mp absent channel member named

theorem Connection.on_iff {connection : Connection} : connection.on early uri = true ↔
    connection.uri = some uri ∧ (connection.channelExisted = true ∨ early = true) := by
  unfold Connection.on
  rw [decide_eq_true_iff]

theorem owns_announced {connection : Connection} (established : s.state pcb = .established)
    (announced : s.connection pcb = some connection) :
    s.owns early uri pcb = connection.on early uri := by
  unfold WebSockets.owns
  simp only [established, announced, Option.any_some, true_and, Bool.decide_eq_true]

theorem owns_silent (silent : s.connection pcb = none) : s.owns early uri pcb = false := by
  unfold WebSockets.owns
  simp only [silent, Option.any_none, Bool.false_eq_true, and_false, decide_false]

theorem owns_iff : s.owns early uri pcb = true ↔ s.state pcb = .established ∧
    ∃ connection, s.connection pcb = some connection ∧ connection.on early uri = true := by
  unfold WebSockets.owns
  rw [decide_eq_true_iff, Option.any_eq_true]

/-- An established `tcp_pcb` is listed only by a channel that owns it. -/
theorem Lists.owns_of_mem (lists : Lists early s) (member : channel ∈ s.wsChannelsList)
    (established : s.state pcb = .established) (listed : pcb ∈ channel.pcbsList) :
    s.owns early channel.uri pcb = true := by
  have count := lists channel member pcb established
  cases owned : s.owns early channel.uri pcb with
  | true => rfl
  | false =>
    rw [owned] at count
    exact absurd listed (List.count_eq_zero.mp count)

theorem exists_uri_of_getWsChannel {channels : List WsChannel} {uri : Option Uri}
    (found : getWsChannel channels uri = some channel) :
    uri = some channel.uri ∧ Keyed.find WsChannel.uri channels channel.uri = some channel := by
  cases uri with
  | none => cases found
  | some name =>
    have found : Keyed.find WsChannel.uri channels name = some channel := found
    obtain rfl := Keyed.key_of_find found
    exact ⟨rfl, found⟩

theorem createWsChannel_found (found : getWsChannel s.wsChannelsList (some uri) = some channel) :
    createWsChannel s (some uri) = ({ s with isCallbacksRegistered := true }, some channel) := by
  unfold createWsChannel
  dsimp only
  rw [found]

theorem createWsChannel_new (absent : getWsChannel s.wsChannelsList (some uri) = none) :
    createWsChannel s (some uri) = ({ s with
      isCallbacksRegistered := true
      wsChannelsList := construct uri :: s.wsChannelsList }, some (construct uri)) := by
  unfold createWsChannel
  dsimp only
  rw [absent]

theorem websocketOpenCallback_found {uri : Option Uri}
    (found : getWsChannel s.wsChannelsList uri = some channel) : websocketOpenCallback s pcb uri =
      s.withChannel channel.uri fun channel => channel.enlist s.state pcb := by
  unfold websocketOpenCallback
  rw [found]

theorem websocketOpenCallback_absent {uri : Option Uri}
    (absent : getWsChannel s.wsChannelsList uri = none) : websocketOpenCallback s pcb uri = s := by
  unfold websocketOpenCallback
  rw [absent]

theorem count_checkPcbs (channel : WsChannel) {state : Address → TcpState}
    (established : state pcb = .established) :
    (channel.checkPcbs state).pcbsList.count pcb = channel.pcbsList.count pcb :=
  List.count_filter (decide_eq_true established)

theorem count_enlist_self (channel : WsChannel) {state : Address → TcpState}
    (established : state pcb = .established) :
    (channel.enlist state pcb).pcbsList.count pcb = channel.pcbsList.count pcb + 1 := by
  unfold enlist
  rw [List.count_cons_self, count_checkPcbs channel established]

theorem count_enlist_of_ne (channel : WsChannel) {state : Address → TcpState} {other : Address}
    (established : state other = .established) (different : other ≠ pcb) :
    (channel.enlist state pcb).pcbsList.count other = channel.pcbsList.count other := by
  unfold enlist
  rw [List.count_cons_of_ne different.symm, count_checkPcbs channel established]

end Lookup

/-! ### Behaving is listing -/

section Behaviour

variable {s : WebSockets} {early : Bool} {wsBinMode mode : UInt8} {data : List UInt8}
  {channel : WsChannel} {pcb : Address}

theorem tx_fst {state : Address → TcpState} {buffer : Option (List UInt8)}
    {parameter : Option WsConnectInfo} :
    (tx wsBinMode channel state buffer parameter).1 = channel.checkPcbs state := by
  unfold tx
  cases buffer <;> cases parameter <;> rfl

theorem tx_uri {state : Address → TcpState} {buffer : Option (List UInt8)}
    {parameter : Option WsConnectInfo} :
    (tx wsBinMode channel state buffer parameter).1.uri = channel.uri := by
  rw [tx_fst]
  rfl

/-- How often a broadcast writes to a `tcp_pcb`. -/
theorem count_broadcast : (tx wsBinMode channel s.state (some data) none).2.count
    (.websocketWrite pcb data wsBinMode) =
      if s.state pcb = .established then channel.pcbsList.count pcb else 0 := by
  have injective : Function.Injective fun pcb => Output.websocketWrite pcb data wsBinMode :=
    fun _ _ same => (Output.websocketWrite.inj same).1
  show (List.map _ _).count _ = _
  rw [List.count_map_of_injective _ _ injective]
  by_cases established : s.state pcb = .established
  · rw [if_pos established]
    exact count_checkPcbs channel established
  · rw [if_neg established]
    refine List.count_eq_zero.mpr fun listed => established ?_
    exact of_decide_eq_true (List.mem_filter.mp listed).2

/-- A broadcast does right by a `tcp_pcb` exactly if the channel lists it right. -/
theorem broadcast_iff : (tx wsBinMode channel s.state (some data) none).2.count
    (.websocketWrite pcb data wsBinMode) = (s.owns early channel.uri pcb).toNat ↔
      (s.state pcb = .established →
        channel.pcbsList.count pcb = (s.owns early channel.uri pcb).toNat) := by
  rw [count_broadcast]
  by_cases established : s.state pcb = .established
  · rw [if_pos established, forall_prop_of_true established]
  · have foreign : s.owns early channel.uri pcb = false :=
      Bool.eq_false_iff.mpr fun owned => established (owns_iff.mp owned).1
    rw [if_neg established, foreign]
    exact iff_of_true rfl fun impossible => absurd impossible established

theorem channelCallbacks_eq : channel.channelCallbacks pcb data mode =
    (List.replicate (channel.pcbsList.count pcb) (channel.callback.toList.map fun callback =>
      Output.channelCallback callback data channel.uri ⟨pcb, mode⟩)).flatten := by
  unfold channelCallbacks
  induction channel.pcbsList with
  | nil => rfl
  | cons listed rest ih =>
    rw [List.flatMap_cons, ih]
    by_cases here : listed = pcb
    · rw [if_pos here, here, List.count_cons_self, List.replicate_succ, List.flatten_cons]
      cases channel.callback <;> rfl
    · rw [if_neg here, List.count_cons_of_ne here, List.nil_append]

/-- A channel that does not list the `tcp_pcb` does not answer. -/
theorem channelCallbacks_silent (absent : pcb ∉ channel.pcbsList) :
    channel.channelCallbacks pcb data mode = [] := by
  rw [channelCallbacks_eq, List.count_eq_zero.mpr absent]
  rfl

/-- A channel that lists the `tcp_pcb` once calls its callback once. -/
theorem channelCallbacks_once {callback : Address} (once : channel.pcbsList.count pcb = 1)
    (present : channel.callback = some callback) : channel.channelCallbacks pcb data mode =
      [.channelCallback callback data channel.uri ⟨pcb, mode⟩] := by
  rw [channelCallbacks_eq, once, present]
  rfl

theorem mem_channelCallbacks {output : Output}
    (called : output ∈ channel.channelCallbacks pcb data mode) : pcb ∈ channel.pcbsList ∧
      ∃ callback, output = .channelCallback callback data channel.uri ⟨pcb, mode⟩ := by
  obtain ⟨listed, member, inside⟩ := List.mem_flatMap.mp called
  by_cases here : listed = pcb
  · rw [if_pos here] at inside
    refine ⟨here ▸ member, ?_⟩
    cases present : channel.callback with
    | none =>
      rw [present] at inside
      cases inside
    | some callback =>
      rw [present] at inside
      exact ⟨callback, List.mem_singleton.mp inside⟩
  · rw [if_neg here] at inside
    cases inside

/-- **Data reaches the owner and nobody else**, if the channels list what they own. -/
theorem Lists.delivers (tidy : Tidy s) (lists : Lists early s)
    (established : s.state pcb = .established) :
    Right wsBinMode early s (.websocketCallback pcb data mode) := by
  intro connection announced
  have owner : ∀ channel ∈ s.wsChannelsList, pcb ∈ channel.pcbsList →
      connection.uri = some channel.uri := by
    intro channel member listed
    have owned := lists.owns_of_mem member established listed
    rw [owns_announced established announced] at owned
    exact (Connection.on_iff.mp owned).1
  refine ⟨fun channel callback found existed present => ?_, fun output called => ?_⟩
  · obtain ⟨named, found⟩ := exists_uri_of_getWsChannel found
    have member := Keyed.mem_of_find found
    have once : channel.pcbsList.count pcb = 1 := by
      rw [lists channel member pcb established, owns_announced established announced,
        Connection.on_iff.mpr ⟨named, .inl existed⟩]
      rfl
    rw [← channelCallbacks_once once present]
    refine Keyed.flatMap_found tidy.distinct found fun other inside different => ?_
    refine channelCallbacks_silent fun listed => different ?_
    have same := (owner other inside listed).symm.trans named
    exact Option.some.inj same
  · obtain ⟨channel, member, inside⟩ := List.mem_flatMap.mp called
    obtain ⟨listed, callback, rfl⟩ := mem_channelCallbacks inside
    exact ⟨callback, channel.uri, owner channel member listed, rfl⟩

/-- What a broadcast on a channel calls. -/
theorem step_broadcast {uri : Uri}
    (found : Keyed.find WsChannel.uri s.wsChannelsList uri = some channel) :
    (step wsBinMode s (.tx uri (some data) none)).2 =
      (tx wsBinMode channel s.state (some data) none).2 := by
  show (Keyed.find WsChannel.uri s.wsChannelsList uri).elim _ _ = _
  rw [found]
  rfl

/-- **The channels behave exactly if they list what they own.** -/
theorem behaves_iff_lists (tidy : Tidy s) : Behaves wsBinMode early s ↔ Lists early s := by
  constructor
  · intro behaves channel member pcb
    have found := tidy.distinct.find_eq_some_iff.mpr ⟨member, rfl⟩
    have right := (behaves (.tx channel.uri (some []) none)
      (Option.isSome_iff_exists.mpr ⟨channel, found⟩)).2 pcb
    rw [step_broadcast found] at right
    exact broadcast_iff.mp right
  · intro lists event possible
    cases event with
    | websocketCallback pcb data mode => exact lists.delivers tidy possible.1
    | tx uri buffer parameter =>
      cases buffer with
      | none => trivial
      | some data =>
        cases parameter with
        | some wsConnectInfo => trivial
        | none =>
          obtain ⟨channel, found⟩ := Option.isSome_iff_exists.mp possible
          have found : Keyed.find WsChannel.uri s.wsChannelsList uri = some channel := found
          obtain rfl := Keyed.key_of_find found
          show Broadcast _ _ _ _ _ (step wsBinMode s (.tx channel.uri (some data) none)).2
          rw [step_broadcast found]
          refine ⟨fun output written => ?_, fun pcb => ?_⟩
          · obtain ⟨pcb, _, rfl⟩ := List.mem_map.mp written
            exact ⟨pcb, rfl⟩
          · exact broadcast_iff.mpr (lists channel (Keyed.mem_of_find found) pcb)
    | createWsChannel | initializeChannel | deinitializeChannel | establish | leave
    | websocketOpenCallback => trivial

end Behaviour

/-! ### What one step does to the lists -/

section Steps

variable {s : WebSockets} {early : Bool} {pcb : Address} {uri : Uri}
  {method : WsChannel → WsChannel}

/-- A method that keeps the URI of its channel keeps the URIs of all channels. -/
theorem Tidy.withChannel (tidy : Tidy s) (keeps : ∀ channel, (method channel).uri = channel.uri) :
    Tidy (s.withChannel uri method) where
  distinct := tidy.distinct.update keeps
  existed pcb connection announced existed := by
    show ∃ name ∈ (Keyed.update _ _ _ _).map WsChannel.uri, _
    rw [Keyed.map_update keeps]
    exact tidy.existed pcb connection announced existed

/-- A method that keeps what a channel lists of the established `tcp_pcb`s. -/
theorem Lists.withChannel (lists : Lists early s)
    (keeps : ∀ channel, (method channel).uri = channel.uri)
    (keepsCount : ∀ channel, ∀ pcb, s.state pcb = .established →
      (method channel).pcbsList.count pcb = channel.pcbsList.count pcb) :
    Lists early (s.withChannel uri method) := by
  intro channel member pcb established
  obtain ⟨old, inside, rfl⟩ := Keyed.mem_update.mp member
  by_cases named : old.uri = uri
  · rw [if_pos named, keepsCount old pcb established, keeps]
    exact lists old inside pcb established
  · rw [if_neg named]
    exact lists old inside pcb established

theorem owns_congr {s' : WebSockets} (state : s'.state pcb = s.state pcb)
    (connection : s'.connection pcb = s.connection pcb) :
    s'.owns early uri pcb = s.owns early uri pcb := by
  unfold WebSockets.owns
  simp only [state, connection]

/-- Nobody owns a connection that was not announced. -/
theorem owns_setState (state : TcpState) :
    (s.setState pcb state).owns early uri pcb = false := by
  apply owns_silent
  exact Function.update_self pcb none s.connection

/-- The other `tcp_pcb`s are listed as before. -/
theorem Lists.setState_other (lists : Lists early s) {state : TcpState} {channel : WsChannel}
    (member : channel ∈ s.wsChannelsList) {other : Address} (different : other ≠ pcb)
    (established : (s.setState pcb state).state other = .established) :
    channel.pcbsList.count other =
      ((s.setState pcb state).owns early channel.uri other).toNat := by
  have same : (s.setState pcb state).state other = s.state other :=
    Function.update_of_ne different _ _
  rw [owns_congr same (Function.update_of_ne different _ _)]
  exact lists channel member other (same ▸ established)

/-- **A new connection on a `tcp_pcb`**: no channel owns it, so none may list it. -/
theorem Lists.establish_iff (lists : Lists early s) :
    Lists early (s.setState pcb .established) ↔
      ∀ channel ∈ s.wsChannelsList, pcb ∉ channel.pcbsList := by
  constructor
  · intro lists' channel member listed
    have owned := lists'.owns_of_mem member (Function.update_self pcb _ _) listed
    rw [owns_setState] at owned
    cases owned
  · intro absent channel member other established
    by_cases here : other = pcb
    · rw [here, owns_setState, List.count_eq_zero.mpr (absent channel member)]
      rfl
    · exact lists.setState_other member here established

/-- The end of a connection takes a `tcp_pcb` out of consideration. -/
theorem Lists.leave (lists : Lists early s) {state : TcpState} (left : state ≠ .established) :
    Lists early (s.setState pcb state) := by
  intro channel member other established
  by_cases here : other = pcb
  · have after : Function.update s.state pcb state other = .established := established
    rw [here, Function.update_self] at after
    exact absurd after left
  · exact lists.setState_other member here established

/-- What the channels list after a connection was announced, if it is listed by the channel it was
opened on alone. -/
theorem Lists.announce {t : WebSockets} {connection : Connection} (state : t.state = s.state)
    (same : t.connection = s.connection)
    (mine : ∀ channel ∈ t.wsChannelsList,
      channel.pcbsList.count pcb = (connection.on early channel.uri).toNat)
    (others : ∀ channel ∈ t.wsChannelsList, ∀ other ≠ pcb, s.state other = .established →
      channel.pcbsList.count other = (s.owns early channel.uri other).toNat) :
    Lists early (t.announce pcb connection) := by
  intro channel member other established'
  by_cases here : other = pcb
  · have announced : (t.announce pcb connection).connection pcb = some connection :=
      Function.update_self pcb _ _
    rw [here] at established' ⊢
    rw [mine channel member, owns_announced established' announced]
  · have connection' : (t.announce pcb connection).connection other = s.connection other := by
      rw [← same]
      exact Function.update_of_ne here _ _
    have state' : (t.announce pcb connection).state other = s.state other := congrFun state other
    rw [owns_congr state' connection']
    exact others channel member other here (state' ▸ established')

/-- **A connection is announced**: the channel it is opened on lists it, if there is one. -/
theorem Lists.open (lists : Lists early s) {uri : Option Uri}
    (established : s.state pcb = .established) (new : s.connection pcb = none) :
    Lists early ((websocketOpenCallback s pcb uri).announce pcb
      ⟨uri, (getWsChannel s.wsChannelsList uri).isSome⟩) := by
  have unlisted : ∀ channel ∈ s.wsChannelsList, channel.pcbsList.count pcb = 0 := by
    intro channel member
    rw [lists channel member pcb established, owns_silent new]
    rfl
  cases found : getWsChannel s.wsChannelsList uri with
  | none =>
    rw [websocketOpenCallback_absent found]
    refine Lists.announce rfl rfl (fun channel member => ?_)
      fun channel member other _ before => lists channel member other before
    have foreign : Connection.on ⟨uri, false⟩ early channel.uri = false := by
      refine Bool.eq_false_iff.mpr fun opened => ?_
      obtain rfl := (Connection.on_iff.mp opened).1
      exact Keyed.find_eq_none_iff.mp found channel member rfl
    exact (unlisted channel member).trans (congrArg Bool.toNat foreign.symm)
  | some target =>
    rw [websocketOpenCallback_found found]
    obtain ⟨rfl, _⟩ := exists_uri_of_getWsChannel found
    refine Lists.announce rfl rfl (fun channel member => ?_)
      fun channel member other different before => ?_
    · obtain ⟨old, inside, rfl⟩ := Keyed.mem_update.mp member
      by_cases here : old.uri = target.uri
      · have mine : Connection.on ⟨some target.uri, true⟩ early old.uri = true :=
          Connection.on_iff.mpr ⟨congrArg some here.symm, .inl rfl⟩
        rw [if_pos here, count_enlist_self old established, unlisted old inside]
        exact congrArg Bool.toNat mine.symm
      · have foreign : Connection.on ⟨some target.uri, true⟩ early old.uri = false :=
          Bool.eq_false_iff.mpr fun opened =>
            here (Option.some.inj (Connection.on_iff.mp opened).1).symm
        rw [if_neg here, unlisted old inside]
        exact congrArg Bool.toNat foreign.symm
    · obtain ⟨old, inside, rfl⟩ := Keyed.mem_update.mp member
      have before : s.state other = .established := before
      by_cases here : old.uri = target.uri
      · rw [if_pos here, count_enlist_of_ne old before different]
        exact lists old inside other before
      · rw [if_neg here]
        exact lists old inside other before

/-- **A channel is created**: it lists nothing, so it may own nothing. -/
theorem Lists.create_iff (lists : Lists early s)
    (absent : getWsChannel s.wsChannelsList (some uri) = none) :
    Lists early (createWsChannel s (some uri)).1 ↔ ∀ pcb, s.owns early uri pcb = false := by
  rw [createWsChannel_new absent]
  constructor
  · intro lists' pcb
    refine Bool.eq_false_iff.mpr fun owned => ?_
    have count : 0 = (s.owns early uri pcb).toNat :=
      lists' (construct uri) List.mem_cons_self pcb (owns_iff.mp owned).1
    rw [owned] at count
    cases count
  · intro foreign channel member pcb established
    rcases List.mem_cons.mp member with rfl | inside
    · show 0 = (s.owns early uri pcb).toNat
      rw [foreign]
      rfl
    · exact lists channel inside pcb established

end Steps

/-! ### Whole runs -/

section Runs

variable {wsBinMode : UInt8} {early : Bool} {s : WebSockets}

theorem Tidy.create (tidy : Tidy s) (uri : Option Uri) : Tidy (createWsChannel s uri).1 := by
  cases uri with
  | none => exact ⟨tidy.distinct, tidy.existed⟩
  | some uri =>
    cases found : getWsChannel s.wsChannelsList (some uri) with
    | some channel =>
      rw [createWsChannel_found found]
      exact ⟨tidy.distinct, tidy.existed⟩
    | none =>
      rw [createWsChannel_new found]
      refine ⟨tidy.distinct.cons found, fun pcb connection announced existed => ?_⟩
      obtain ⟨name, inside, named⟩ := tidy.existed pcb connection announced existed
      exact ⟨name, List.mem_cons_of_mem _ inside, named⟩

theorem Tidy.setState (tidy : Tidy s) (pcb : Address) (state : TcpState) :
    Tidy (s.setState pcb state) := by
  refine ⟨tidy.distinct, fun other connection announced existed => ?_⟩
  have announced : Function.update s.connection pcb none other = some connection := announced
  by_cases here : other = pcb
  · rw [here, Function.update_self] at announced
    cases announced
  · rw [Function.update_of_ne here] at announced
    exact tidy.existed other connection announced existed

theorem Tidy.open (tidy : Tidy s) (pcb : Address) (uri : Option Uri) :
    Tidy ((websocketOpenCallback s pcb uri).announce pcb
      ⟨uri, (getWsChannel s.wsChannelsList uri).isSome⟩) := by
  have same : (websocketOpenCallback s pcb uri).wsChannelsList.map WsChannel.uri =
      s.wsChannelsList.map WsChannel.uri ∧
      (websocketOpenCallback s pcb uri).connection = s.connection := by
    cases found : getWsChannel s.wsChannelsList uri with
    | none =>
      rw [websocketOpenCallback_absent found]
      exact ⟨rfl, rfl⟩
    | some channel =>
      rw [websocketOpenCallback_found found]
      exact ⟨Keyed.map_update fun _ => rfl, rfl⟩
  refine ⟨?_, fun other connection announced existed => ?_⟩
  · show ((websocketOpenCallback s pcb uri).wsChannelsList.map WsChannel.uri).Nodup
    rw [same.1]
    exact tidy.distinct
  · show ∃ name ∈ (websocketOpenCallback s pcb uri).wsChannelsList.map WsChannel.uri, _
    rw [same.1]
    have announced : Function.update (websocketOpenCallback s pcb uri).connection pcb _ other =
      some connection := announced
    rw [same.2] at announced
    by_cases here : other = pcb
    · rw [here, Function.update_self] at announced
      obtain rfl := Option.some.inj announced
      exact getWsChannel_isSome.mp existed
    · rw [Function.update_of_ne here] at announced
      exact tidy.existed other connection announced existed

theorem tidy_step (tidy : Tidy s) (event : Event) : Tidy (step wsBinMode s event).1 := by
  cases event with
  | createWsChannel uri => exact tidy.create uri
  | initializeChannel uri callback => exact tidy.withChannel fun _ => rfl
  | deinitializeChannel uri => exact tidy.withChannel fun _ => rfl
  | tx uri buffer parameter => exact tidy.withChannel fun _ => tx_uri
  | establish pcb => exact tidy.setState pcb _
  | leave pcb state => exact tidy.setState pcb state
  | websocketOpenCallback pcb uri => exact tidy.open pcb uri
  | websocketCallback pcb data mode => exact tidy

/-- A channel that does not exist owns nothing. -/
theorem Tidy.owns_absent (tidy : Tidy s) {uri : Uri}
    (absent : getWsChannel s.wsChannelsList (some uri) = none) (pcb : Address) :
    s.owns false uri pcb = false := by
  refine Bool.eq_false_iff.mpr fun owned => ?_
  obtain ⟨_, connection, announced, opened⟩ := owns_iff.mp owned
  obtain ⟨named, existed⟩ := Connection.on_iff.mp opened
  obtain ⟨name, inside, named'⟩ := tidy.existed pcb connection announced
    (existed.resolve_right Bool.false_ne_true)
  obtain rfl := Option.some.inj (named.symm.trans named')
  obtain ⟨channel, member, same⟩ := List.mem_map.mp inside
  exact Keyed.find_eq_none_iff.mp absent channel member same

/-- **What one step preserves, and when.** -/
theorem lists_step (tidy : Tidy s) (lists : Lists early s) (event : Event)
    (possible : enabled s event) :
    Lists early (step wsBinMode s event).1 ↔ Keeps early s event := by
  cases event with
  | createWsChannel uri =>
    cases uri with
    | none => exact iff_of_true lists trivial
    | some uri =>
      cases found : getWsChannel s.wsChannelsList (some uri) with
      | some channel =>
        refine iff_of_true ?_ fun _ absent => ?_
        · show Lists early (createWsChannel s (some uri)).1
          rw [createWsChannel_found found]
          exact lists
        · rw [found] at absent
          cases absent
      | none =>
        refine (lists.create_iff found).trans ?_
        cases early with
        | true => exact ⟨fun foreign _ _ => foreign, fun keeps => keeps rfl found⟩
        | false =>
          exact iff_of_true (tidy.owns_absent found) fun impossible => nomatch impossible
  | initializeChannel uri callback =>
    exact iff_of_true (lists.withChannel (fun _ => rfl) fun _ _ _ => rfl) trivial
  | deinitializeChannel uri =>
    exact iff_of_true (lists.withChannel (fun _ => rfl) fun _ _ _ => rfl) trivial
  | tx uri buffer parameter =>
    refine iff_of_true (lists.withChannel (fun _ => tx_uri)
      fun channel pcb established => ?_) trivial
    rw [tx_fst]
    exact count_checkPcbs channel established
  | establish pcb => exact lists.establish_iff
  | leave pcb state => exact iff_of_true (lists.leave possible) trivial
  | websocketOpenCallback pcb uri =>
    exact iff_of_true (lists.open possible.2.1 possible.2.2) trivial
  | websocketCallback pcb data mode => exact iff_of_true lists trivial

end Runs

/-- **Connections belong to the channel they were opened on exactly as long as no `tcp_pcb` is
reused while a channel lists it.** -/
theorem connections_belong_iff (wsBinMode : UInt8) (early : Bool) {s₀ : WebSockets}
    (fresh : Fresh s₀) {events : List Event} (valid : (webSockets wsBinMode).Valid s₀ events) :
    (webSockets wsBinMode).States (Behaves wsBinMode early) s₀ events ↔
      (webSockets wsBinMode).Steps (Keeps early) s₀ events := by
  have tidy : Tidy s₀ := by
    refine ⟨?_, fun pcb connection announced => ?_⟩
    · unfold Keyed.Distinct
      rw [fresh.channels]
      exact List.nodup_nil
    · rw [fresh.connection] at announced
      cases announced
  have lists : Lists early s₀ := by
    intro channel member
    rw [fresh.channels] at member
    cases member
  refine (webSockets wsBinMode).states_iff_steps_of_invariant (I := Tidy)
    (fun s event tidy _ => tidy_step tidy event) (fun s event tidy behaves possible => ?_) tidy
    ((behaves_iff_lists tidy).mpr lists) valid
  exact (behaves_iff_lists (tidy_step tidy event)).trans
    (lists_step tidy ((behaves_iff_lists tidy).mp behaves) event possible)

/-! ### A reused connection -/

def sampleWebSockets : WebSockets := ⟨false, [], fun _ => .closed, fun _ => none⟩

theorem sampleWebSockets_fresh : Fresh sampleWebSockets := ⟨rfl, rfl, fun _ => rfl⟩

/-- Two channels, a connection on the first one. -/
def sampleEvents : List Event :=
  [.createWsChannel (some [1]), .initializeChannel [1] (some 11), .createWsChannel (some [2]),
    .initializeChannel [2] (some 12), .establish 7, .websocketOpenCallback 7 (some [1])]

/-- The connection ends and, after a broadcast on its channel, its `tcp_pcb` is reused for the
second channel. -/
theorem connections_belong_sample :
    (webSockets 2).States (Behaves 2 false) sampleWebSockets
      (sampleEvents ++ [.leave 7 .closeWait, .tx [1] (some [5]) none, .establish 7,
        .websocketOpenCallback 7 (some [2])]) :=
  (connections_belong_iff 2 false sampleWebSockets_fresh (by decide)).mpr (by decide)

/-- Without the broadcast, both channels get what arrives on the `tcp_pcb`, and a broadcast on the
first one writes to the connection of the second. -/
theorem connection_of_two_channels :
    let events := sampleEvents ++ [.leave 7 .closeWait, .establish 7,
      .websocketOpenCallback 7 (some [2])]
    let s := (webSockets 2).run sampleWebSockets events
    Fresh sampleWebSockets ∧ (webSockets 2).Valid sampleWebSockets events ∧
      s.connection 7 = some ⟨some [2], true⟩ ∧
      (step 2 s (.websocketCallback 7 [9] 1)).2 =
        [.channelCallback 12 [9] [2] ⟨7, 1⟩, .channelCallback 11 [9] [1] ⟨7, 1⟩] ∧
      (step 2 s (.tx [1] (some [5]) none)).2 = [.websocketWrite 7 [5] 2] ∧
      ∀ early, s.owns early [1] 7 = false ∧ ¬ Behaves 2 early s := by
  intro events s
  refine ⟨sampleWebSockets_fresh, by decide, by decide, by decide, by decide,
    fun early => ⟨?_, fun behaves => ?_⟩⟩
  · cases early <;> decide
  · have right := (behaves (.tx [1] (some [5]) none) rfl).2 7
    cases early <;> exact absurd right (by decide)

end Jblib.Ethutilities.WsChannel
