/-
**The two DNS servers.**

* `Bare` — the server on lwIP's callbacks: it answers for two host names, in a fresh pbuf.
* `Freertos` — the server on sockets: it answers for a list of hosts or to all requests, in its
  receive buffer. What `select` and `recvfrom` report and what `gethostbyname` knows are inputs.
-/

import EthUtilities.DnsServer.Query

namespace Jblib.Ethutilities

open Library

namespace DnsServer

/-- The payload of a UDP datagram, as long as IPv4 allows. -/
structure UdpPayload where
  payload : Buffer
  len : Nat
  fits : len ≤ 65507

/-- What a string is to `strcmp`. -/
def cString (s : List UInt8) : List UInt8 := s.takeWhile (· ≠ 0)

/-- What the servers send: the bytes of the buffer up to the end of the answer. -/
def response (b : Buffer) (len : Nat) (addr : Bytes 4) : List UInt8 :=
  (writeAnswer b len addr).read 0 (len + 16)

/-! ### The server on lwIP -/

namespace Bare

structure Server where
  /-- `DNS_SERVER_HOST_NAME_MAX_SIZE` -/
  hostNameMaxSize : NameSize
  /-- `DNS_SERVER_HOST_NAME_0` -/
  hostName0 : List UInt8
  /-- `DNS_SERVER_HOST_NAME_1` -/
  hostName1 : List UInt8
  /-- `netifStruct_->ip_addr.addr` -/
  ipAddr : Bytes 4

variable (server : Server)

/-- Whether the name is one of the two. -/
def isHost (query : DnsQuery) : Prop :=
  cString query.name = cString server.hostName0 ∨ cString query.name = cString server.hostName1

instance (query : DnsQuery) : Decidable (isHost server query) :=
  inferInstanceAs (Decidable (_ ∨ _))

/-- `udp_recv_proc` on a pbuf whose payload is `p`; `out` is what `pbuf_alloc` yields. The bytes
sent, if any. -/
def udpRecvProc (p : UdpPayload) (out : Option Buffer) : Except Fault (Option (List UInt8)) := do
  match ← receiveQuestion p.payload server.hostNameMaxSize p.len with
  | none => .ok none
  | some (len, query) =>
    if isHost server query then
      match out with
      | none => .ok none
      | some out =>
        -- the length given to `pbuf_alloc` is an `u16_t`
        if len + 16 < 65536 then
          .ok (some (response (out.write 0 (p.payload.read 0 len)) len server.ipAddr))
        else .error .writeOutside
    else .ok none

end Bare

/-! ### The server on sockets -/

namespace Freertos

structure DnsHostRecord where
  name : List UInt8
  redirectRequest : Bool
  deriving DecidableEq

structure Server where
  isStarted : Bool
  socket : Int
  replyIp : Bytes 4
  hostsList : List DnsHostRecord

/-- The options `CONFIG_JBLIB_DNS_SERVER_…`. -/
structure Config where
  hostNameMaxSize : NameSize
  recieveBufferSize : Nat
  responseToAllRequests : Bool

/-- What `select` and `recvfrom` report. -/
inductive Reception
  | selectError
  | notReady
  | recvfromError
  | datagram (payload : UdpPayload)

def addHost (server : Server) (hostName : List UInt8) (redirectRequest : Bool) : Server :=
  { server with hostsList := ⟨cString hostName, redirectRequest⟩ :: server.hostsList }

def deleteHost (server : Server) (hostName : List UInt8) : Server :=
  { server with hostsList := server.hostsList.filter fun item => item.name ≠ cString hostName }

def stop (server : Server) : Server :=
  if server.isStarted then { server with socket := -1, isStarted := false } else server

section Callback

variable (config : Config) (gethostbyname : List UInt8 → Option (Bytes 4)) (server : Server)

/-- The address for the query, if it is answered. -/
def address (query : DnsQuery) : Option (Bytes 4) :=
  if config.responseToAllRequests then some server.replyIp
  else
    match server.hostsList.find? fun host => host.name = cString query.name with
    | none => none
    | some host =>
      if host.redirectRequest then gethostbyname (cString query.name) else some server.replyIp

/-- The receive buffer after `recvfrom`. -/
def received (recvBuffer : Buffer) (p : UdpPayload) : Buffer :=
  recvBuffer.write 0 (p.payload.read 0 (min p.len config.recieveBufferSize))

/-- The part of `voidCallback` behind `recvfrom`. -/
def reply (recvBuffer : Buffer) (recLen : Nat) : Except Fault (Option (List UInt8)) := do
  match ← receiveQuestion recvBuffer config.hostNameMaxSize recLen with
  | none => .ok none
  | some (len, query) =>
    match address config gethostbyname server query with
    | none => .ok none
    | some addr =>
      if len + 16 ≤ config.recieveBufferSize then .ok (some (response recvBuffer len addr))
      else .error .writeOutside

/-- `voidCallback`, `recvBuffer` being what the stack holds. The bytes sent, if any. -/
def voidCallback (recvBuffer : Buffer) :
    Reception → Except Fault (Server × Option (List UInt8))
  | .selectError => .ok (stop server, none)
  | .notReady => .ok (server, none)
  | .recvfromError => .ok (stop server, none)
  | .datagram p =>
    (reply config gethostbyname server (received config recvBuffer p)
      (min p.len config.recieveBufferSize)).map fun sent => (server, sent)

end Callback

end Freertos

end DnsServer

end Jblib.Ethutilities
