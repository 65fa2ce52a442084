/-
**The WebSocket channels: creating them, opening connections on them, sending and receiving.**

The functions are those of the class `WsChannel`. A channel object is named by its URI, since
`createWsChannel` makes no second one with the same; a `tcp_pcb` by its address. What the code calls
(`websocket_write` of the web server and the callback of a channel) is returned as outputs.

* `tx`, `websocketOpenCallback`, `websocketCallback` — the three places where the lists of
  connections are used. The lists are only ever cleaned by `checkPcbs`.
* `webSockets` — the channels and the connections as a machine. It also knows, as the code does not,
  which connection is on a `tcp_pcb` now.
-/

import EthUtilities.Library.Machine
import EthUtilities.Library.Keyed
import Mathlib.Logic.Function.Basic

namespace Jblib.Ethutilities

open Library

namespace WsChannel

/-! ### Data -/

/-- The address of a `tcp_pcb`, and of a callback object. -/
abbrev Address := Nat

/-- The bytes of a URI before its terminating zero. -/
abbrev Uri := List UInt8

/-- `tcp_state`. -/
inductive TcpState
  | closed
  | listen
  | synSent
  | synRcvd
  | established
  | finWait1
  | finWait2
  | closeWait
  | closing
  | lastAck
  | timeWait
  deriving DecidableEq

/-- `WsConnectInfo_t`. -/
structure WsConnectInfo where
  pcb : Address
  mode : UInt8
  deriving DecidableEq

/-- What the channels call. -/
inductive Output
  | websocketWrite (pcb : Address) (data : List UInt8) (mode : UInt8)
  | channelCallback (callback : Address) (data : List UInt8) (channel : Uri)
      (connectInfo : WsConnectInfo)
  deriving DecidableEq

end WsChannel

open WsChannel

/-- A channel. `callback`: `none` for `NULL`. -/
structure WsChannel where
  uri : Uri
  pcbsList : List Address
  callback : Option Address
  deriving DecidableEq

namespace WsChannel

/-- A connection that was announced by `websocketOpenCallback`: the URI it was opened with, and
whether a channel with this URI existed then. -/
structure Connection where
  uri : Option Uri
  channelExisted : Bool
  deriving DecidableEq

/-- The channels, the states of the `tcp_pcb`s and the announced connections on them. -/
structure WebSockets where
  isCallbacksRegistered : Bool
  wsChannelsList : List WsChannel
  state : Address → TcpState
  connection : Address → Option Connection

/-! ### One channel -/

/-- The constructor. -/
def construct (uri : Uri) : WsChannel := ⟨uri, [], none⟩

/-- `initialize`. -/
def initializeChannel (channel : WsChannel) (callback : Option Address) : WsChannel :=
  { channel with callback }

/-- `deinitialize`. -/
def deinitializeChannel (channel : WsChannel) : WsChannel := { channel with callback := none }

/-- `checkPcbs`. -/
def checkPcbs (channel : WsChannel) (state : Address → TcpState) : WsChannel :=
  { channel with pcbsList := channel.pcbsList.filter fun pcb => state pcb = .established }

/-- `tx`, with the calls of `websocket_write`. A `buffer` or a `parameter` that is `NULL` is `none`;
`wsBinMode` is `WS_BIN_MODE` of the web server. -/
def tx (wsBinMode : UInt8) (channel : WsChannel) (state : Address → TcpState)
    (buffer : Option (List UInt8)) (parameter : Option WsConnectInfo) : WsChannel × List Output :=
  let channel := channel.checkPcbs state
  match buffer, parameter with
  | none, _ => (channel, [])
  | some data, none => (channel, channel.pcbsList.map fun pcb => .websocketWrite pcb data wsBinMode)
  | some data, some wsConnectInfo =>
    (channel, [.websocketWrite wsConnectInfo.pcb data wsConnectInfo.mode])

/-! ### All channels -/

/-- `getWsChannel`. -/
def getWsChannel (wsChannelsList : List WsChannel) : Option Uri → Option WsChannel
  | none => none
  | some uri => Keyed.find WsChannel.uri wsChannelsList uri

/-- A method call on the channel with the URI. -/
def WebSockets.withChannel (s : WebSockets) (uri : Uri) (method : WsChannel → WsChannel) :
    WebSockets :=
  { s with wsChannelsList := Keyed.update WsChannel.uri s.wsChannelsList uri method }

/-- `createWsChannel`, with the channel it returns. -/
def createWsChannel (s : WebSockets) (uri : Option Uri) : WebSockets × Option WsChannel :=
  let s := { s with isCallbacksRegistered := true }
  match uri with
  | none => (s, none)
  | some uri =>
    match getWsChannel s.wsChannelsList (some uri) with
    | some ws => (s, some ws)
    | none =>
      let ws := construct uri
      ({ s with wsChannelsList := ws :: s.wsChannelsList }, some ws)

/-- What `websocketOpenCallback` does to the channel it finds. -/
def enlist (channel : WsChannel) (state : Address → TcpState) (pcb : Address) : WsChannel :=
  let channel := channel.checkPcbs state
  { channel with pcbsList := pcb :: channel.pcbsList }

/-- `websocketOpenCallback`. -/
def websocketOpenCallback (s : WebSockets) (pcb : Address) (uri : Option Uri) : WebSockets :=
  match getWsChannel s.wsChannelsList uri with
  | some channel => s.withChannel channel.uri fun channel => channel.enlist s.state pcb
  | none => s

/-- The calls of one channel for data on `pcb`. -/
def channelCallbacks (channel : WsChannel) (pcb : Address) (data : List UInt8) (mode : UInt8) :
    List Output :=
  channel.pcbsList.flatMap fun listed =>
    if listed = pcb then
      match channel.callback with
      | some callback => [.channelCallback callback data channel.uri ⟨pcb, mode⟩]
      | none => []
    else []

/-- `websocketCallback`, with the calls of `channelCallback`. -/
def websocketCallback (s : WebSockets) (pcb : Address) (data : List UInt8) (mode : UInt8) :
    List Output :=
  s.wsChannelsList.flatMap fun channel => channel.channelCallbacks pcb data mode

/-! ### Channels and connections as a machine -/

/-- What the application, the web server and lwIP do. -/
inductive Event
  | createWsChannel (uri : Option Uri)
  | initializeChannel (channel : Uri) (callback : Option Address)
  | deinitializeChannel (channel : Uri)
  | tx (channel : Uri) (buffer : Option (List UInt8)) (parameter : Option WsConnectInfo)
  /-- lwIP puts a new connection on a `tcp_pcb` whose last one, if any, has ended -/
  | establish (pcb : Address)
  /-- the connection on a `tcp_pcb` ends, or gets on with its end -/
  | leave (pcb : Address) (state : TcpState)
  | websocketOpenCallback (pcb : Address) (uri : Option Uri)
  | websocketCallback (pcb : Address) (data : List UInt8) (mode : UInt8)

/-- The channel exists. -/
def WebSockets.HasChannel (s : WebSockets) (uri : Uri) : Prop :=
  (getWsChannel s.wsChannelsList (some uri)).isSome = true

/-- A connection is announced once, while it is established, and to callbacks that were registered;
it receives after that. Methods are called on channels that exist. -/
def enabled (s : WebSockets) : Event → Prop
  | .createWsChannel _ => True
  | .initializeChannel channel _ | .deinitializeChannel channel | .tx channel _ _ =>
    s.HasChannel channel
  | .establish pcb => s.state pcb ≠ .established
  | .leave _ state => state ≠ .established
  | .websocketOpenCallback pcb _ =>
    s.isCallbacksRegistered = true ∧ s.state pcb = .established ∧ s.connection pcb = none
  | .websocketCallback pcb _ _ => s.state pcb = .established ∧ (s.connection pcb).isSome = true

/-- Another state of a `tcp_pcb`, without a connection that was announced. -/
def WebSockets.setState (s : WebSockets) (pcb : Address) (state : TcpState) : WebSockets :=
  { s with
    state := Function.update s.state pcb state
    connection := Function.update s.connection pcb none }

/-- A connection is announced. -/
def WebSockets.announce (s : WebSockets) (pcb : Address) (connection : Connection) : WebSockets :=
  { s with connection := Function.update s.connection pcb (some connection) }

/-- One event, with what the channels call. -/
def step (wsBinMode : UInt8) (s : WebSockets) : Event → WebSockets × List Output
  | .createWsChannel uri => ((createWsChannel s uri).1, [])
  | .initializeChannel channel callback =>
    (s.withChannel channel fun channel => channel.initializeChannel callback, [])
  | .deinitializeChannel channel => (s.withChannel channel deinitializeChannel, [])
  | .tx channel buffer parameter =>
    (s.withChannel channel fun channel => (tx wsBinMode channel s.state buffer parameter).1,
      (getWsChannel s.wsChannelsList (some channel)).elim [] fun channel =>
        (tx wsBinMode channel s.state buffer parameter).2)
  | .establish pcb => (s.setState pcb .established, [])
  | .leave pcb state => (s.setState pcb state, [])
  | .websocketOpenCallback pcb uri =>
    let existed := (getWsChannel s.wsChannelsList uri).isSome
    ((websocketOpenCallback s pcb uri).announce pcb ⟨uri, existed⟩, [])
  | .websocketCallback pcb data mode => (s, websocketCallback s pcb data mode)

def webSockets (wsBinMode : UInt8) : Machine WebSockets Event where
  enabled := enabled
  next s event := (step wsBinMode s event).1

instance (wsBinMode : UInt8) : ∀ s event, Decidable ((webSockets wsBinMode).enabled s event)
  | _, .createWsChannel _ => .isTrue trivial
  | s, .initializeChannel channel _ | s, .deinitializeChannel channel | s, .tx channel _ _ =>
    inferInstanceAs (Decidable ((getWsChannel s.wsChannelsList (some channel)).isSome = true))
  | s, .establish pcb => inferInstanceAs (Decidable (s.state pcb ≠ .established))
  | _, .leave _ state => inferInstanceAs (Decidable (state ≠ .established))
  | _, .websocketOpenCallback _ _ => inferInstanceAs (Decidable (_ ∧ _ ∧ _))
  | _, .websocketCallback _ _ _ => inferInstanceAs (Decidable (_ ∧ _))

/-- Nothing was created and no connection announced yet. -/
structure Fresh (s : WebSockets) : Prop where
  registered : s.isCallbacksRegistered = false
  channels : s.wsChannelsList = []
  connection : ∀ pcb, s.connection pcb = none

end WsChannel

end Jblib.Ethutilities
