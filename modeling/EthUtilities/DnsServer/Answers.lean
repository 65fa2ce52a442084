/-
**Which questions the DNS servers answer.**

A name is compared as the string of its labels with dots between, and the parsed type and class are
read by nobody.

* `eq_splitOn_iff_of_match` — a name that matches a host has the labels of the host exactly if no
  label contains a dot or a NUL; **`answered_names_iff`** for both servers.
* **`answered_fits_iff`** — the answer fits its question exactly if the question asks for it.
-/

import EthUtilities.DnsServer.Grammar
import EthUtilities.DnsServer.Responses
import Mathlib.Data.List.TakeWhile

namespace Jblib.Ethutilities

open Library DnsMessage

namespace DnsServer

/-! ### Names as they are compared -/

section Names

variable {labels : List (List UInt8)} {x : UInt8}

theorem dotted_eq_intercalate (labels : List (List UInt8)) :
    dotted labels = [46].intercalate labels := by
  cases labels with
  | nil => rfl
  | cons label labels =>
    show label ++ labels.flatMap (46 :: ·) = _
    induction labels generalizing label with
    | nil => rw [List.intercalate_singleton, List.flatMap_nil, List.append_nil]
    | cons next labels ih =>
      rw [List.intercalate_cons_cons, ← ih, List.flatMap_cons, List.append_assoc]
      rfl

/-- But for the dots, the joined name consists of the labels. -/
theorem mem_dotted_iff (different : x ≠ 46) :
    x ∈ dotted labels ↔ ∃ label ∈ labels, x ∈ label := by
  cases labels with
  | nil => simp [dotted]
  | cons label labels => simp [dotted, List.mem_flatMap, different]

/-- A string without a NUL is all there is to compare. -/
theorem cString_eq {s : List UInt8} (noNul : 0 ∉ s) : cString s = s := by
  rw [cString, List.takeWhile_eq_self_iff]
  intro byte member
  exact decide_eq_true fun zero => noNul (zero ▸ member)

/-- Labels that the joined name, as a C string, determines. -/
def Unambiguous (labels : List (List UInt8)) : Prop :=
  labels ≠ [] ∧ ∀ label ∈ labels, 46 ∉ label ∧ 0 ∉ label

theorem unambiguous_splitOn {host : List UInt8} (noNul : 0 ∉ host) :
    Unambiguous (host.splitOn 46) := by
  obtain ⟨some, apart, joined⟩ := eq_splitOn_iff.mp (Eq.refl (host.splitOn 46))
  refine ⟨some, fun label member => ⟨apart label member, fun nul => noNul ?_⟩⟩
  rw [← joined, ← dotted_eq_intercalate, mem_dotted_iff (by decide)]
  exact ⟨label, member, nul⟩

/-- **A name that matches**: its labels are one of the hosts, split at the dots, exactly if they are
unambiguous. -/
theorem exists_splitOn_iff {hosts : List (List UInt8)} (noNul : ∀ host ∈ hosts, 0 ∉ host)
    (named : cString (dotted labels) ∈ hosts) :
    (∃ host ∈ hosts, labels = host.splitOn 46) ↔ Unambiguous labels := by
  constructor
  · rintro ⟨host, member, rfl⟩
    exact unambiguous_splitOn (noNul host member)
  · rintro ⟨some, apart⟩
    have noNulJoined : 0 ∉ dotted labels := by
      rw [mem_dotted_iff (by decide)]
      rintro ⟨label, member, nul⟩
      exact (apart label member).2 nul
    rw [cString_eq noNulJoined] at named
    refine ⟨_, named, eq_splitOn_iff.mpr ⟨some, fun label member => (apart label member).1, ?_⟩⟩
    exact (dotted_eq_intercalate labels).symm

end Names

/-! ### What is answered -/

section Answered

variable {b : Buffer} {max : NameSize} {n len : Nat} {query : DnsQuery} {p : UdpPayload}
  {sent : List UInt8}

/-- The bytes behind the header of a packet of `n` bytes. -/
def behindHeader (b : Buffer) (n : Nat) : List UInt8 := b.read headerLen (n - headerLen)

/-- A packet with a question is accepted. -/
theorem receiveQuestion_of_parsed (long : ¬ n ≤ headerLen) (flag : qr b = 0)
    (single : nRecord b 0 = 1)
    (parsed : parseQuery max (behindHeader b n) = .ok (.parsed len query)) :
    receiveQuestion b max n = .ok (some (len + headerLen, query)) := by
  rw [behindHeader] at parsed
  rw [receiveQuestion, if_neg long, if_neg (not_not.mpr flag), if_neg (not_not.mpr single), parsed]
  rfl

/-- An accepted packet has a question. -/
theorem questionOf_receiveQuestion
    (accepted : receiveQuestion b max n = .ok (some (len, query))) :
    ∃ question : QuestionOf (behindHeader b n), joinedLength question.labels ≤ max.val - 1 ∧
      len = question.nameLength + 4 + headerLen ∧ query = question.query := by
  obtain ⟨_, _, parsed, returned, rfl⟩ := of_receiveQuestion accepted
  obtain ⟨question, fits, rfl, rfl⟩ := questionOf_parsed returned
  exact ⟨question, fits, rfl, rfl⟩

/-- The names of the two hosts. -/
def Bare.Server.hosts (server : Bare.Server) : List (List UInt8) :=
  [server.hostName0, server.hostName1]

theorem Bare.mem_hosts {server : Bare.Server} (noNul : ∀ host ∈ server.hosts, 0 ∉ host)
    (isHost : Bare.isHost server query) : cString query.name ∈ server.hosts := by
  have first : 0 ∉ server.hostName0 := noNul _ List.mem_cons_self
  have second : 0 ∉ server.hostName1 := noNul _ (List.mem_cons_of_mem _ List.mem_cons_self)
  rcases isHost with same | same
  · rw [same, cString_eq first]
    exact List.mem_cons_self
  · rw [same, cString_eq second]
    exact List.mem_cons_of_mem _ List.mem_cons_self

/-- The names of the hosts in the list. -/
def Freertos.Server.hosts (server : Freertos.Server) : List (List UInt8) :=
  server.hostsList.map Freertos.DnsHostRecord.name

theorem Freertos.mem_hosts {config : Freertos.Config} {server : Freertos.Server} {addr : Bytes 4}
    {gethostbyname : List UInt8 → Option (Bytes 4)} (listed : config.responseToAllRequests = false)
    (addressed : Freertos.address config gethostbyname server query = some addr) :
    cString query.name ∈ server.hosts := by
  rw [Freertos.address, listed, if_neg Bool.false_ne_true] at addressed
  cases found : server.hostsList.find? fun host => host.name = cString query.name with
  | none => rw [found] at addressed; cases addressed
  | some host =>
    have kept := List.find?_some found
    have named : host.name = cString query.name := of_decide_eq_true kept
    rw [← named]
    exact List.mem_map_of_mem (List.mem_of_find?_eq_some found)

/-- **When an answered question is about a host**: its labels are a configured host name, split at
its dots, exactly if they are unambiguous. -/
theorem answered_names_iff (p : UdpPayload) (sent : List UInt8) :
    (∀ (server : Bare.Server) (out : Option Buffer), (∀ host ∈ server.hosts, 0 ∉ host) →
      Bare.udpRecvProc server p out = .ok (some sent) →
      ∃ question : QuestionOf (behindHeader p.payload p.len),
        (∃ host ∈ server.hosts, question.labels = host.splitOn 46) ↔
          Unambiguous question.labels) ∧
    ∀ (config : Freertos.Config) (gethostbyname : List UInt8 → Option (Bytes 4))
      (server server' : Freertos.Server) (recvBuffer : Buffer),
      config.responseToAllRequests = false → (∀ host ∈ server.hosts, 0 ∉ host) →
      Freertos.voidCallback config gethostbyname server recvBuffer (.datagram p) =
        .ok (server', some sent) →
      ∃ question : QuestionOf (behindHeader p.payload (min p.len config.recieveBufferSize)),
        (∃ host ∈ server.hosts, question.labels = host.splitOn 46) ↔
          Unambiguous question.labels := by
  refine ⟨fun server out noNul answered => ?_,
    fun config gethostbyname server server' recvBuffer listed noNul answered => ?_⟩
  · obtain ⟨len, query, received, isHost, _, _⟩ := udpRecvProc_answers answered
    obtain ⟨question, _, _, rfl⟩ := questionOf_receiveQuestion received
    exact ⟨question, exists_splitOn_iff noNul (Bare.mem_hosts noNul isHost)⟩
  · obtain ⟨len, query, addr, received, addressed, _, _⟩ := voidCallback_answers answered
    obtain ⟨question, _, _, rfl⟩ := questionOf_receiveQuestion received
    exact ⟨question, exists_splitOn_iff noNul (Freertos.mem_hosts listed addressed)⟩

end Answered

/-- A server for the host `a.b`. -/
def dottedServer : Bare.Server :=
  ⟨⟨70, by decide⟩, [97, 46, 98], [99, 99], ⟨[10, 0, 0, 4], rfl⟩⟩

/-- A question for the name of the one label `a.b`. -/
def oneLabelQuery : UdpPayload :=
  ⟨Buffer.write (fun _ => 0) 0
    [0, 0, 1, 0, 0, 1, 0, 0, 0, 0, 0, 0, 3, 97, 46, 98, 0, 0, 1, 0, 1], 21, by decide⟩

theorem dottedServer_noNul : ∀ host ∈ dottedServer.hosts, 0 ∉ host := by
  simp [Bare.Server.hosts, dottedServer]

theorem answered_names_iff_sample :
    ∃ sent, Bare.udpRecvProc dottedServer oneLabelQuery (some fun _ => 0) = .ok (some sent) ∧
      ∃ question : QuestionOf (behindHeader oneLabelQuery.payload oneLabelQuery.len),
        (∃ host ∈ dottedServer.hosts, question.labels = host.splitOn 46) ↔
          Unambiguous question.labels :=
  ⟨_, rfl, (answered_names_iff oneLabelQuery _).1 dottedServer (some fun _ => 0)
    dottedServer_noNul rfl⟩

/-- The one label is answered, as if it were the two of the host. -/
theorem oneLabel_answered :
    (∀ host ∈ dottedServer.hosts, 0 ∉ host) ∧
    (∃ sent, Bare.udpRecvProc dottedServer oneLabelQuery (some fun _ => 0) = .ok (some sent)) ∧
      ∃ question : QuestionOf (behindHeader oneLabelQuery.payload oneLabelQuery.len),
        question.labels = [[97, 46, 98]] ∧
          ¬ ∃ host ∈ dottedServer.hosts, question.labels = host.splitOn 46 := by
  refine ⟨dottedServer_noNul, ⟨_, rfl⟩,
    ⟨[[97, 46, 98]], ⟨[0, 1], rfl⟩, ⟨[0, 1], rfl⟩, [], by simp [DnsMessage.Encodable], rfl⟩, rfl,
    ?_⟩
  rintro ⟨host, member, same⟩
  have apart := (unambiguous_splitOn (dottedServer_noNul host member)).2
  rw [← same] at apart
  exact (apart [97, 46, 98] List.mem_cons_self).1 (by simp)

/-! ### Types and classes -/

section Fits

/-- The record is of the type and class that the question asks for, or it asks for any (255). -/
def Fits {data : List UInt8} (question : QuestionOf data) (record : Record) : Prop :=
  (wordOf question.type = record.type ∨ wordOf question.type = 255) ∧
    (wordOf question.Class = record.Class ∨ wordOf question.Class = 255)

/-- The record behind the question in the bytes sent fits the question. -/
def AnswerFits (data sent : List UInt8) : Prop :=
  ∃ (question : QuestionOf data) (record : Record),
    decodeRecord (sent.drop (headerLen + (question.nameLength + 4))) = some (record, []) ∧
      Fits question record

/-- The question asks for an address (1) of the internet (1), or for any. -/
def AsksForAddress (data : List UInt8) : Prop :=
  ∃ question : QuestionOf data, (wordOf question.type = 1 ∨ wordOf question.type = 255) ∧
    (wordOf question.Class = 1 ∨ wordOf question.Class = 255)

variable {b : Buffer} {max : NameSize} {n len : Nat} {query : DnsQuery} {p : UdpPayload}

/-- **One response**: what the answer says does not depend on the question. -/
theorem answerFits_response_iff (addr : Bytes 4) {data : List UInt8} (question : QuestionOf data)
    (behind : len = question.nameLength + 4 + headerLen) :
    AnswerFits data (response b len addr) ↔ AsksForAddress data := by
  subst behind
  have answer : (response b (question.nameLength + 4 + headerLen) addr).drop
      (headerLen + (question.nameLength + 4)) = dnsAnswer addr := by
    have front : (patchedHeader b ++ b.read headerLen (question.nameLength + 4)).length =
        headerLen + (question.nameLength + 4) := by
      rw [List.length_append, Buffer.length_read]
      rfl
    rw [response_eq addr (Nat.le_add_left _ _), Nat.add_sub_cancel, ← front, List.drop_left]
  constructor
  · rintro ⟨question', record, decoded, fits⟩
    cases Subsingleton.elim question' question
    rw [answer, decodeRecord_dnsAnswer] at decoded
    cases decoded
    exact ⟨question, fits⟩
  · rintro ⟨question', asks⟩
    cases Subsingleton.elim question' question
    have decoded := decodeRecord_dnsAnswer addr
    rw [← answer] at decoded
    exact ⟨question, _, decoded, asks⟩

/-- The packet is a query for a host, and a pbuf is there for the response. -/
def Bare.Answerable (server : Bare.Server) (p : UdpPayload) (out : Option Buffer) : Prop :=
  (∃ len query, receiveQuestion p.payload server.hostNameMaxSize p.len = .ok (some (len, query)) ∧
    Bare.isHost server query) ∧ out.isSome

/-- The packet is a query for a name with an address, and there is room for the answer. -/
def Freertos.Answerable (config : Freertos.Config) (gethostbyname : List UInt8 → Option (Bytes 4))
    (server : Freertos.Server) (p : UdpPayload) : Prop :=
  ∃ len query,
    receiveQuestion p.payload config.hostNameMaxSize (min p.len config.recieveBufferSize) =
      .ok (some (len, query)) ∧
    (Freertos.address config gethostbyname server query).isSome ∧
    len + 16 ≤ config.recieveBufferSize

theorem Bare.exists_answer_iff {server : Bare.Server} {out : Option Buffer} :
    (∃ sent, Bare.udpRecvProc server p out = .ok (some sent)) ↔ Bare.Answerable server p out := by
  constructor
  · rintro ⟨sent, answered⟩
    obtain ⟨len, query, received, isHost, _, _⟩ := udpRecvProc_answers answered
    refine ⟨⟨len, query, received, isHost⟩, ?_⟩
    cases out with
    | some out => rfl
    | none =>
      rw [Bare.udpRecvProc, received] at answered
      dsimp only [bind, Except.bind] at answered
      rw [if_pos isHost] at answered
      cases answered
  · rintro ⟨⟨len, query, received, isHost⟩, available⟩
    obtain ⟨out, rfl⟩ := Option.isSome_iff_exists.mp available
    have within := (len_bounds received).2
    have short := p.fits
    rw [Bare.udpRecvProc, received]
    dsimp only [bind, Except.bind]
    rw [if_pos isHost, if_pos (by omega)]
    exact ⟨_, rfl⟩

section Freertos

variable {config : Freertos.Config} {gethostbyname : List UInt8 → Option (Bytes 4)}
  {server : Freertos.Server} {recvBuffer : Buffer}

theorem Freertos.exists_answer_iff :
    (∃ server' sent, Freertos.voidCallback config gethostbyname server recvBuffer (.datagram p) =
        .ok (server', some sent)) ↔
      Freertos.Answerable config gethostbyname server p := by
  constructor
  · rintro ⟨server', sent, answered⟩
    obtain ⟨len, query, addr, received, addressed, inside, _⟩ := voidCallback_answers answered
    exact ⟨len, query, received, Option.isSome_iff_exists.mpr ⟨addr, addressed⟩, inside⟩
  · rintro ⟨len, query, received, available, inside⟩
    obtain ⟨addr, addressed⟩ := Option.isSome_iff_exists.mp available
    refine ⟨server, response (Freertos.received config recvBuffer p) len addr, ?_⟩
    show (Freertos.reply config gethostbyname server (Freertos.received config recvBuffer p)
      (min p.len config.recieveBufferSize)).map _ = _
    rw [Freertos.reply, receiveQuestion_congr fun i inside => received_eq inside, received]
    dsimp only [bind, Except.bind]
    rw [addressed]
    dsimp only
    rw [if_pos inside]
    rfl

end Freertos

/-- **When every answer fits its question**: the server on lwIP sends no other one exactly if it does
not answer the packet at all, or the packet asks for an address; likewise the server on sockets. -/
theorem answers_fit_iff (p : UdpPayload) :
    (∀ (server : Bare.Server) (out : Option Buffer),
      (∀ sent, Bare.udpRecvProc server p out = .ok (some sent) →
        AnswerFits (behindHeader p.payload p.len) sent) ↔
      (Bare.Answerable server p out → AsksForAddress (behindHeader p.payload p.len))) ∧
    ∀ (config : Freertos.Config) (gethostbyname : List UInt8 → Option (Bytes 4))
      (server : Freertos.Server) (recvBuffer : Buffer),
      (∀ server' sent,
        Freertos.voidCallback config gethostbyname server recvBuffer (.datagram p) =
          .ok (server', some sent) →
        AnswerFits (behindHeader p.payload (min p.len config.recieveBufferSize)) sent) ↔
      (Freertos.Answerable config gethostbyname server p →
        AsksForAddress (behindHeader p.payload (min p.len config.recieveBufferSize))) := by
  refine ⟨fun server out => ?_, fun config gethostbyname server recvBuffer => ?_⟩
  · have one : ∀ sent, Bare.udpRecvProc server p out = .ok (some sent) →
        (AnswerFits (behindHeader p.payload p.len) sent ↔
          AsksForAddress (behindHeader p.payload p.len)) := by
      intro sent answered
      obtain ⟨len, query, received, _, _, rfl⟩ := udpRecvProc_answers answered
      obtain ⟨question, _, behind, _⟩ := questionOf_receiveQuestion received
      exact answerFits_response_iff _ question behind
    rw [← Bare.exists_answer_iff, forall_exists_index]
    exact forall₂_congr one
  · have one : ∀ server' sent,
        Freertos.voidCallback config gethostbyname server recvBuffer (.datagram p) =
          .ok (server', some sent) →
        (AnswerFits (behindHeader p.payload (min p.len config.recieveBufferSize)) sent ↔
          AsksForAddress (behindHeader p.payload (min p.len config.recieveBufferSize))) := by
      intro server' sent answered
      obtain ⟨len, query, addr, received, _, _, rfl⟩ := voidCallback_answers answered
      obtain ⟨question, _, behind, _⟩ := questionOf_receiveQuestion received
      exact answerFits_response_iff _ question behind
    rw [← @Freertos.exists_answer_iff _ _ _ _ recvBuffer, forall_exists_index]
    simp only [forall_exists_index]
    exact forall₃_congr one

/-- A query for the address of `cc` in IPv6. -/
def addressQuery6 : UdpPayload :=
  ⟨Buffer.write (fun _ => 0) 0
    [0, 0, 1, 0, 0, 1, 0, 0, 0, 0, 0, 0, 2, 99, 99, 0, 0, 28, 0, 1], 20, by decide⟩

/-- It is answered, with an IPv4 address. -/
theorem addressQuery6_answered :
    ∃ sent, Bare.udpRecvProc dottedServer addressQuery6 (some fun _ => 0) = .ok (some sent) ∧
      ¬ AnswerFits (behindHeader addressQuery6.payload addressQuery6.len) sent := by
  have answered : ∃ sent, Bare.udpRecvProc dottedServer addressQuery6 (some fun _ => 0) =
    .ok (some sent) := ⟨_, rfl⟩
  obtain ⟨sent, answered⟩ := answered
  obtain ⟨len, query, received, _, _, rfl⟩ := udpRecvProc_answers answered
  obtain ⟨question, _, behind, _⟩ := questionOf_receiveQuestion received
  refine ⟨_, answered, ?_⟩
  rw [answerFits_response_iff _ question behind]
  rintro ⟨asked, address, _⟩
  cases Subsingleton.elim asked
    ⟨[[99, 99]], ⟨[0, 28], rfl⟩, ⟨[0, 1], rfl⟩, [], by simp [DnsMessage.Encodable], rfl⟩
  rcases address with address | address <;> cases address

end Fits

end DnsServer

end Jblib.Ethutilities
