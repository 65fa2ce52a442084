/-
**What the DNS servers send.**

* `response_eq` — the response: the patched header, the question as received, the answer.
* `wellFormed_response_iff` — it decodes as a message with the question and one answer exactly if
  the query announced no records behind its question and its labels have at most 63 bytes;
  **`responses_wellFormed_iff`** for both servers.
* **`servers_equivalent`** — the two servers send the same.
-/

import EthUtilities.DnsServer.Servers

namespace Jblib.Ethutilities

open Library DnsMessage OnesComplement

namespace DnsServer

/-! ### The bytes that matter -/

section Bytes

variable {b b' : Buffer} {n len : Nat} {max : NameSize}

/-- The header checks and the question depend on the bytes received only. -/
theorem receiveQuestion_congr (same : ∀ i < n, b' i = b i) :
    receiveQuestion b' max n = receiveQuestion b max n := by
  unfold receiveQuestion
  by_cases short : n ≤ headerLen
  · rw [if_pos short, if_pos short]
  have header : ∀ i, i ≤ 12 → b' i = b i := fun i inside =>
    same i (Nat.lt_of_le_of_lt inside (Nat.lt_of_not_le short))
  have flag : qr b' = qr b := by rw [qr, qr, header 2 (by decide)]
  have count : nRecord b' 0 = nRecord b 0 := by
    rw [nRecord, nRecord, header _ (by decide), header _ (by decide)]
  have data : b'.read headerLen (n - headerLen) = b.read headerLen (n - headerLen) :=
    Buffer.read_congr fun i _ before => same i (by omega)
  rw [flag, count, data]

/-- What an accepted packet looks like. -/
theorem of_receiveQuestion {query : DnsQuery}
    (accepted : receiveQuestion b max n = .ok (some (len, query))) :
    headerLen < n ∧ nRecord b 0 = 1 ∧ ∃ parsed,
      parseQuery max (b.read headerLen (n - headerLen)) = .ok (.parsed parsed query) ∧
        len = parsed + headerLen := by
  unfold receiveQuestion at accepted
  split at accepted
  case isTrue => cases accepted
  split at accepted
  case isTrue => cases accepted
  split at accepted
  case isTrue => cases accepted
  case isFalse long _ count =>
    refine ⟨Nat.lt_of_not_le long, not_not.mp count, ?_⟩
    cases returned : parseQuery max (b.read headerLen (n - headerLen)) with
    | error fault => rw [returned] at accepted; cases accepted
    | ok result =>
      rw [returned] at accepted
      cases result with
      | rejected code => cases accepted
      | parsed parsed query =>
        cases accepted
        exact ⟨parsed, rfl, rfl⟩

/-- The header checks and the question never fault. -/
theorem receiveQuestion_ok (b : Buffer) (max : NameSize) (n : Nat) :
    ∃ question, receiveQuestion b max n = .ok question := by
  unfold receiveQuestion
  split
  · exact ⟨_, rfl⟩
  split
  · exact ⟨_, rfl⟩
  split
  · exact ⟨_, rfl⟩
  obtain ⟨result, parsed, _⟩ := parseQuery_ok max (b.read headerLen (n - headerLen))
  rw [parsed]
  cases result with
  | rejected code => exact ⟨_, rfl⟩
  | parsed len query => exact ⟨_, rfl⟩

/-- The question lies within what was received. -/
theorem len_bounds {query : DnsQuery}
    (accepted : receiveQuestion b max n = .ok (some (len, query))) : headerLen ≤ len ∧ len ≤ n := by
  obtain ⟨long, _, parsed, returned, rfl⟩ := of_receiveQuestion accepted
  obtain ⟨labels, tail, whole, _, _, length⟩ := parseQuery_parsed returned
  have counted := congrArg List.length whole
  rw [Buffer.length_read, List.length_append, List.length_cons, List.length_append,
    List.length_append, query.type.property, query.Class.property] at counted
  exact ⟨Nat.le_add_left _ _, by omega⟩

/-- The patched header. -/
def patchedHeader (b : Buffer) : List UInt8 :=
  [b 0, b 1, b 2 ||| 0x80, b 3, b 4, b 5, 0, 1, b 8, b 9, b 10, b 11]

/-- **The response.** -/
theorem response_eq (addr : Bytes 4) (long : headerLen ≤ len) :
    response b len addr =
      patchedHeader b ++ b.read headerLen (len - headerLen) ++ dnsAnswer addr := by
  have answerLength : (dnsAnswer addr).length = 16 := by
    rw [dnsAnswer, List.length_append, addr.property]
    rfl
  obtain ⟨question, rfl⟩ := Nat.exists_eq_add_of_le long
  have patched : ((b.write 2 [b 2 ||| 0x80]).write 6 [0, 1]).read 0 headerLen = patchedHeader b :=
    rfl
  have behind : ((b.write 2 [b 2 ||| 0x80]).write 6 [0, 1]).read headerLen question =
      b.read headerLen question := by
    have flags : 2 + [b 2 ||| 0x80].length ≤ headerLen := show 3 ≤ 12 by decide
    have count : 6 + ([0, 1] : List UInt8).length ≤ headerLen := by decide
    rw [Buffer.read_write_apart (Or.inr count), Buffer.read_write_apart (Or.inr flags)]
  unfold response writeAnswer
  rw [Buffer.read_append, Nat.zero_add, Buffer.read_write_apart (Or.inl (Nat.zero_add _).le),
    Buffer.read_append, Nat.zero_add, patched, behind, Nat.add_sub_cancel_left, ← answerLength,
    Buffer.read_write_self]

theorem response_congr (addr : Bytes 4) (long : headerLen ≤ len) (same : ∀ i < len, b' i = b i) :
    response b' len addr = response b len addr := by
  have header : ∀ i, i < 12 → b' i = b i := fun i inside =>
    same i (Nat.lt_of_lt_of_le inside long)
  have patched : patchedHeader b' = patchedHeader b := by
    unfold patchedHeader
    rw [header 0 (by decide), header 1 (by decide), header 2 (by decide), header 3 (by decide),
      header 4 (by decide), header 5 (by decide), header 8 (by decide), header 9 (by decide),
      header 10 (by decide), header 11 (by decide)]
  have question : b'.read headerLen (len - headerLen) = b.read headerLen (len - headerLen) :=
    Buffer.read_congr fun i _ before => same i (by omega)
  rw [response_eq addr long, response_eq addr long, patched, question]

end Bytes

/-! ### Well-formed responses -/

/-- Two bytes as a number of the message. -/
def wordOf (value : Bytes 2) : Nat := word (value.val.getD 0 0) (value.val.getD 1 0)

/-- The bytes decode as a message with the parsed question and one answer that points at it, and
nothing else. -/
def WellFormed (query : DnsQuery) (bytes : List UInt8) : Prop :=
  ∃ message, decodeMessage bytes = some message ∧
    (∃ question, message.questions = [question] ∧ question.name.pointer = none ∧
      dotted question.name.labels = query.name ∧ question.type = wordOf query.type ∧
      question.Class = wordOf query.Class) ∧
    (∃ answer, message.answers = [answer] ∧ answer.name = ⟨[], some headerLen⟩) ∧
    message.authority = [] ∧ message.additional = []

/-- The query announces no records behind its question, whose labels have at most 63 bytes. -/
def Plain (b : Buffer) (n : Nat) : Prop :=
  nRecord b 2 = 0 ∧ nRecord b 3 = 0 ∧
    ∀ label ∈ labelsOf n (b.read headerLen (n - headerLen)), label.length ≤ 63

section WellFormed

/-- It is a property of the bytes received. -/
theorem plain_congr {b b' : Buffer} {n : Nat} (long : headerLen < n) (same : ∀ i < n, b' i = b i) :
    Plain b' n ↔ Plain b n := by
  have header : ∀ i, i ≤ 12 → b' i = b i := fun i inside =>
    same i (Nat.lt_of_le_of_lt inside long)
  have data : b'.read headerLen (n - headerLen) = b.read headerLen (n - headerLen) :=
    Buffer.read_congr fun i _ before => same i (by omega)
  unfold Plain nRecord
  rw [header _ (by decide), header _ (by decide), header _ (by decide), header _ (by decide), data]

theorem takeWord_bytes (value : Bytes 2) (rest : List UInt8) :
    takeWord (value.val ++ rest) = some (wordOf value, rest) := by
  obtain ⟨bytes, length⟩ := value
  match bytes, length with
  | [high, low], _ => rfl

/-- The answer as a record: it points behind the header. -/
theorem decodeRecord_dnsAnswer (addr : Bytes 4) :
    decodeRecord (dnsAnswer addr) = some (⟨⟨[], some headerLen⟩, 1, 1, 32, addr.val⟩, []) := by
  have name : ∀ fuel bytes, decodeName (fuel + 1) (0xC0 :: 0x0C :: bytes) =
      some (⟨[], some headerLen⟩, bytes) := fun fuel bytes => by
    rw [decodeName, if_neg (by decide), if_neg (by decide), if_pos (by decide)]
    rfl
  have written : dnsAnswer addr = 0xC0 :: 0x0C :: ([0, 1, 0, 1, 0, 0, 0, 32, 0, 4] ++ addr.val) :=
    rfl
  have whole : addr.val.take 4 = addr.val := List.take_of_length_le addr.property.le
  have nothing : addr.val.drop 4 = [] := List.drop_eq_nil_of_le addr.property.le
  unfold decodeRecord
  rw [written, List.length_cons, name]
  dsimp only [bind, Option.bind, takeWord, List.cons_append, List.nil_append]
  rw [show word 0 0 = 0 from rfl, show word 0 4 = 4 from rfl, Nat.zero_mul,
    if_neg (Nat.not_lt.mpr addr.property.ge), whole, nothing]
  rfl

variable {labels : List (List UInt8)} {query : DnsQuery} {rest : List UInt8}

/-- The question as it is written. -/
def questionBytes (labels : List (List UInt8)) (query : DnsQuery) : List UInt8 :=
  encodeLabels labels ++ 0 :: (query.type.val ++ query.Class.val)

theorem questionBytes_append :
    questionBytes labels query ++ rest =
      encodeLabels labels ++ 0 :: (query.type.val ++ (query.Class.val ++ rest)) := by
  unfold questionBytes
  rw [List.append_assoc, List.cons_append, List.append_assoc]

theorem length_questionBytes :
    (questionBytes labels query).length = (encodeLabels labels).length + 5 := by
  unfold questionBytes
  rw [List.length_append, List.length_cons, List.length_append, query.type.property,
    query.Class.property]

theorem labels_lt_length (labels : List (List UInt8)) (query : DnsQuery) (rest : List UInt8) :
    labels.length < (questionBytes labels query ++ rest).length := by
  have fewer := length_le_encodeLabels labels
  rw [List.length_append, length_questionBytes]
  omega

theorem decodeQuestion_bytes (encodable : Encodable labels)
    (short : ∀ label ∈ labels, label.length ≤ 63) :
    decodeQuestion (questionBytes labels query ++ rest) =
      some (⟨⟨labels, none⟩, wordOf query.type, wordOf query.Class⟩, rest) := by
  have bounded := labels_lt_length labels query rest
  unfold decodeQuestion
  rw [questionBytes_append] at bounded ⊢
  rw [decodeName_encode encodable short bounded]
  dsimp only [bind, Option.bind]
  rw [takeWord_bytes]
  dsimp only
  rw [takeWord_bytes]

theorem short_of_decodeQuestion (encodable : Encodable labels) {question : Question}
    {last : List UInt8} (plain : question.name.pointer = none)
    (decoded : decodeQuestion (questionBytes labels query ++ rest) = some (question, last)) :
    ∀ label ∈ labels, label.length ≤ 63 := by
  unfold decodeQuestion at decoded
  rw [questionBytes_append] at decoded
  obtain ⟨⟨name, bytes⟩, named, decoded⟩ := Option.bind_eq_some_iff.mp decoded
  obtain ⟨⟨type, bytes⟩, _, decoded⟩ := Option.bind_eq_some_iff.mp decoded
  obtain ⟨⟨Class, bytes⟩, _, decoded⟩ := Option.bind_eq_some_iff.mp decoded
  cases decoded
  exact forall_le_of_decodeName encodable plain named

/-- A message behind a patched header. -/
theorem decodeMessage_patched (b : Buffer) (bytes : List UInt8) :
    decodeMessage (patchedHeader b ++ bytes) =
      decodeSections (word (b 0) (b 1)) (word (b 2 ||| 0x80) (b 3)) (nRecord b 0) 1 (nRecord b 2)
        (nRecord b 3) bytes := rfl

variable {b : Buffer} {max : NameSize} {n len : Nat}

/-- **One response**: when it is well formed. -/
theorem wellFormed_response_iff (addr : Bytes 4)
    (accepted : receiveQuestion b max n = .ok (some (len, query))) :
    WellFormed query (response b len addr) ↔ Plain b n := by
  obtain ⟨long, single, parsed, returned, rfl⟩ := of_receiveQuestion accepted
  obtain ⟨labels, tail, whole, encodable, named, length⟩ := parseQuery_parsed returned
  have data : b.read headerLen (n - headerLen) = questionBytes labels query ++ tail := by
    rw [whole, questionBytes_append, List.append_assoc]
  have counted : parsed = (questionBytes labels query).length := by
    rw [length, length_questionBytes]
  have question : b.read headerLen parsed = questionBytes labels query := by
    rw [counted]
    exact Buffer.read_prefix data
  have shortLabels : labelsOf n (b.read headerLen (n - headerLen)) = labels := by
    rw [whole]
    refine labelsOf_encode encodable ?_
    have fewer := labels_lt_length labels query tail
    rw [← data, Buffer.length_read] at fewer
    exact Nat.lt_of_lt_of_le fewer (Nat.sub_le _ _)
  unfold Plain WellFormed
  rw [shortLabels, response_eq addr (Nat.le_add_left _ _), Nat.add_sub_cancel, question,
    List.append_assoc, decodeMessage_patched, single]
  constructor
  · rintro ⟨message, decoded, ⟨asked, one, plain, _⟩, _, noAuthority, noAdditional⟩
    obtain ⟨⟨rest, questions⟩, authority, additional⟩ := of_decodeSections decoded
    rw [noAuthority] at authority
    rw [noAdditional] at additional
    rw [one] at questions
    exact ⟨authority.symm, additional.symm,
      short_of_decodeQuestion encodable plain (of_decodeMany_one questions)⟩
  · rintro ⟨noAuthority, noAdditional, short⟩
    have questions : decodeMany decodeQuestion 1 (questionBytes labels query ++ dnsAnswer addr) =
        some ([⟨⟨labels, none⟩, wordOf query.type, wordOf query.Class⟩], dnsAnswer addr) :=
      decodeMany_one (decodeQuestion_bytes encodable short)
    have answers := decodeMany_one (decodeRecord_dnsAnswer addr)
    rw [noAuthority, noAdditional, decodeSections, questions]
    dsimp only [bind, Option.bind]
    rw [answers]
    exact ⟨_, rfl, ⟨_, rfl, rfl, named.symm, rfl, rfl⟩, ⟨_, rfl, rfl⟩, rfl, rfl⟩

end WellFormed

/-! ### Both servers -/

section Servers

variable {p : UdpPayload} {sent : List UInt8}

/-- When the server on lwIP answers, and what. -/
theorem udpRecvProc_answers {server : Bare.Server} {out : Option Buffer}
    (answered : Bare.udpRecvProc server p out = .ok (some sent)) :
    ∃ len query, receiveQuestion p.payload server.hostNameMaxSize p.len = .ok (some (len, query)) ∧
      Bare.isHost server query ∧ headerLen ≤ len ∧
        sent = response p.payload len server.ipAddr := by
  unfold Bare.udpRecvProc at answered
  cases received : receiveQuestion p.payload server.hostNameMaxSize p.len with
  | error fault => rw [received] at answered; cases answered
  | ok question =>
    rw [received] at answered
    match question with
    | none => cases answered
    | some (len, query) =>
      dsimp only [bind, Except.bind] at answered
      split at answered
      case isFalse => cases answered
      case isTrue isHost =>
        cases out with
        | none => cases answered
        | some out =>
          dsimp only at answered
          split at answered
          case isFalse => cases answered
          case isTrue =>
            obtain ⟨_, _, parsed, _, rfl⟩ := of_receiveQuestion received
            cases answered
            refine ⟨_, query, rfl, isHost, Nat.le_add_left _ _, ?_⟩
            exact response_congr _ (Nat.le_add_left _ _) fun i inside => Buffer.write_read_eq inside

/-- What the server on lwIP sends is the response to the question it received. -/
theorem of_udpRecvProc {server : Bare.Server} {out : Option Buffer}
    (answered : Bare.udpRecvProc server p out = .ok (some sent)) :
    ∃ len query, receiveQuestion p.payload server.hostNameMaxSize p.len = .ok (some (len, query)) ∧
      headerLen ≤ len ∧ sent = response p.payload len server.ipAddr := by
  obtain ⟨len, query, received, _, long, sends⟩ := udpRecvProc_answers answered
  exact ⟨len, query, received, long, sends⟩

section Freertos

variable {config : Freertos.Config} {gethostbyname : List UInt8 → Option (Bytes 4)}
  {server : Freertos.Server} {recvBuffer : Buffer}

/-- The receive buffer holds what was received. -/
theorem received_eq {i : Nat} (inside : i < min p.len config.recieveBufferSize) :
    Freertos.received config recvBuffer p i = p.payload i :=
  Buffer.write_read_eq inside

/-- When the server on sockets answers, and what. -/
theorem voidCallback_answers {server' : Freertos.Server}
    (answered : Freertos.voidCallback config gethostbyname server recvBuffer (.datagram p) =
      .ok (server', some sent)) :
    ∃ len query addr,
      receiveQuestion p.payload config.hostNameMaxSize (min p.len config.recieveBufferSize) =
        .ok (some (len, query)) ∧
      Freertos.address config gethostbyname server query = some addr ∧
      len + 16 ≤ config.recieveBufferSize ∧
      sent = response (Freertos.received config recvBuffer p) len addr := by
  change (Freertos.reply config gethostbyname server (Freertos.received config recvBuffer p)
    (min p.len config.recieveBufferSize)).map _ = _ at answered
  unfold Freertos.reply at answered
  rw [receiveQuestion_congr fun i inside => received_eq inside] at answered
  cases received : receiveQuestion p.payload config.hostNameMaxSize
      (min p.len config.recieveBufferSize) with
  | error fault => rw [received] at answered; cases answered
  | ok question =>
    rw [received] at answered
    match question with
    | none => cases answered
    | some (len, query) =>
      dsimp only [bind, Except.bind] at answered
      cases addressed : Freertos.address config gethostbyname server query with
      | none => rw [addressed] at answered; cases answered
      | some addr =>
        rw [addressed] at answered
        dsimp only at answered
        split at answered
        case isTrue inside =>
          cases answered
          exact ⟨len, query, addr, rfl, addressed, inside, rfl⟩
        case isFalse => cases answered

/-- What the server on sockets sends is the response to the question it received. -/
theorem of_voidCallback {server' : Freertos.Server}
    (answered : Freertos.voidCallback config gethostbyname server recvBuffer (.datagram p) =
      .ok (server', some sent)) :
    ∃ len query addr,
      receiveQuestion p.payload config.hostNameMaxSize (min p.len config.recieveBufferSize) =
        .ok (some (len, query)) ∧
      sent = response (Freertos.received config recvBuffer p) len addr := by
  obtain ⟨len, query, addr, received, _, _, sends⟩ := voidCallback_answers answered
  exact ⟨len, query, addr, received, sends⟩

end Freertos

/-- **When the responses are well formed**: of the server on lwIP, and of the server on sockets,
which sees as much of the payload as its receive buffer holds. -/
theorem responses_wellFormed_iff (p : UdpPayload) (sent : List UInt8) :
    (∀ (server : Bare.Server) (out : Option Buffer),
      Bare.udpRecvProc server p out = .ok (some sent) →
      ∃ len query,
        receiveQuestion p.payload server.hostNameMaxSize p.len = .ok (some (len, query)) ∧
        (WellFormed query sent ↔ Plain p.payload p.len)) ∧
    ∀ (config : Freertos.Config) (gethostbyname : List UInt8 → Option (Bytes 4))
      (server server' : Freertos.Server) (recvBuffer : Buffer),
      Freertos.voidCallback config gethostbyname server recvBuffer (.datagram p) =
        .ok (server', some sent) →
      ∃ len query,
        receiveQuestion p.payload config.hostNameMaxSize (min p.len config.recieveBufferSize) =
          .ok (some (len, query)) ∧
        (WellFormed query sent ↔ Plain p.payload (min p.len config.recieveBufferSize)) := by
  refine ⟨fun server out answered => ?_,
    fun config gethostbyname server server' recvBuffer answered => ?_⟩
  · obtain ⟨len, query, received, _, rfl⟩ := of_udpRecvProc answered
    exact ⟨len, query, received, wellFormed_response_iff _ received⟩
  · obtain ⟨len, query, addr, received, rfl⟩ := of_voidCallback answered
    refine ⟨len, query, received, ?_⟩
    have same : receiveQuestion (Freertos.received config recvBuffer p) config.hostNameMaxSize
        (min p.len config.recieveBufferSize) = receiveQuestion p.payload config.hostNameMaxSize
          (min p.len config.recieveBufferSize) :=
      receiveQuestion_congr fun i inside => received_eq inside
    have inBuffer := received
    rw [← same] at inBuffer
    rw [wellFormed_response_iff addr inBuffer]
    exact plain_congr (of_receiveQuestion received).1 fun i inside => received_eq inside

/-- A server for the hosts `a` and `b`. -/
def sampleServer : Bare.Server := ⟨⟨64, by decide⟩, [97], [98], ⟨[192, 168, 4, 1], rfl⟩⟩

/-- A question for the address of `a`, as the header announces `additional` records. -/
def sampleQuestion (additional : UInt8) (rest : List UInt8) : Buffer :=
  Buffer.write (fun _ => 0) 0
    ([0, 0, 1, 0, 0, 1, 0, 0, 0, 0, 0, additional, 1, 97, 0, 0, 1, 0, 1] ++ rest)

/-- A plain query. -/
def plainQuery : UdpPayload := ⟨sampleQuestion 0 [], 19, by decide⟩

/-- A query with an additional record behind its question, as resolvers send them. -/
def extendedQuery : UdpPayload :=
  ⟨sampleQuestion 1 [0, 0, 41, 16, 0, 0, 0, 0, 0, 0, 0], 30, by decide⟩

theorem responses_wellFormed_iff_sample :
    ∃ sent, Bare.udpRecvProc sampleServer plainQuery (some fun _ => 0) = .ok (some sent) ∧
      ∃ len query, receiveQuestion plainQuery.payload sampleServer.hostNameMaxSize plainQuery.len =
        .ok (some (len, query)) ∧
        (WellFormed query sent ↔ Plain plainQuery.payload plainQuery.len) :=
  ⟨_, rfl, (responses_wellFormed_iff plainQuery _).1 sampleServer (some fun _ => 0) rfl⟩

/-- The response to the extended query announces a record that is not there. -/
theorem response_not_wellFormed :
    ∃ sent len query,
      Bare.udpRecvProc sampleServer extendedQuery (some fun _ => 0) = .ok (some sent) ∧
      receiveQuestion extendedQuery.payload sampleServer.hostNameMaxSize extendedQuery.len =
        .ok (some (len, query)) ∧ ¬ WellFormed query sent := by
  have answered : ∃ sent, Bare.udpRecvProc sampleServer extendedQuery (some fun _ => 0) =
    .ok (some sent) := ⟨_, rfl⟩
  obtain ⟨sent, answered⟩ := answered
  obtain ⟨len, query, received, _, rfl⟩ := of_udpRecvProc answered
  refine ⟨_, len, query, answered, received, fun wellFormed => ?_⟩
  have announced := ((wellFormed_response_iff _ received).mp wellFormed).2.1
  exact absurd announced (by decide)

/-! ### The same answers -/

section Equivalence

variable {bare : Bare.Server} {config : Freertos.Config} {server : Freertos.Server}

/-- A list of two hosts without redirection answers for the two host names. -/
theorem address_eq (gethostbyname : List UInt8 → Option (Bytes 4)) (query : DnsQuery)
    (listed : config.responseToAllRequests = false)
    (hosts : ∀ name, (∃ host ∈ server.hostsList, host.name = name) ↔
      name = cString bare.hostName0 ∨ name = cString bare.hostName1)
    (direct : ∀ host ∈ server.hostsList, host.redirectRequest = false) :
    Freertos.address config gethostbyname server query =
      if Bare.isHost bare query then some server.replyIp else none := by
  unfold Freertos.address
  rw [listed, if_neg Bool.false_ne_true]
  cases found : server.hostsList.find? fun host => host.name = cString query.name with
  | none =>
    refine (if_neg fun isHost => ?_).symm
    obtain ⟨host, member, named⟩ := (hosts (cString query.name)).mpr isHost
    exact List.find?_eq_none.mp found host member (decide_eq_true named)
  | some host =>
    have member := List.mem_of_find?_eq_some found
    have kept := List.find?_some found
    have named : host.name = cString query.name := of_decide_eq_true kept
    have isHost : Bare.isHost bare query := (hosts (cString query.name)).mp ⟨host, member, named⟩
    dsimp only
    rw [direct host member, if_neg Bool.false_ne_true, if_pos isHost]

/-- **The two servers send the same**, for every payload that fits the receive buffer with room for
the answer. -/
theorem servers_equivalent (sameSize : config.hostNameMaxSize = bare.hostNameMaxSize)
    (listed : config.responseToAllRequests = false)
    (hosts : ∀ name, (∃ host ∈ server.hostsList, host.name = name) ↔
      name = cString bare.hostName0 ∨ name = cString bare.hostName1)
    (direct : ∀ host ∈ server.hostsList, host.redirectRequest = false)
    (sameAddress : server.replyIp = bare.ipAddr)
    (gethostbyname : List UInt8 → Option (Bytes 4)) (recvBuffer out : Buffer) (p : UdpPayload)
    (fits : p.len ≤ config.recieveBufferSize)
    (room : ∀ len query, receiveQuestion p.payload bare.hostNameMaxSize p.len =
      .ok (some (len, query)) → len + 16 ≤ config.recieveBufferSize) :
    ∃ sent, Bare.udpRecvProc bare p (some out) = .ok sent ∧
      Freertos.voidCallback config gethostbyname server recvBuffer (.datagram p) =
        .ok (server, sent) := by
  have recLen : min p.len config.recieveBufferSize = p.len := Nat.min_eq_left fits
  have inBuffer : ∀ i < p.len, Freertos.received config recvBuffer p i = p.payload i :=
    fun i inside => received_eq (recLen.symm ▸ inside)
  show ∃ sent, Bare.udpRecvProc bare p (some out) = .ok sent ∧
    (Freertos.reply config gethostbyname server (Freertos.received config recvBuffer p)
      (min p.len config.recieveBufferSize)).map (fun sent => (server, sent)) = .ok (server, sent)
  unfold Freertos.reply Bare.udpRecvProc
  rw [recLen, sameSize, receiveQuestion_congr inBuffer]
  obtain ⟨question, received⟩ := receiveQuestion_ok p.payload bare.hostNameMaxSize p.len
  rw [received]
  match question with
  | none => exact ⟨none, rfl, rfl⟩
  | some (len, query) =>
    dsimp only [bind, Except.bind]
    rw [address_eq gethostbyname query listed hosts direct]
    by_cases isHost : Bare.isHost bare query
    case neg =>
      rw [if_neg isHost, if_neg isHost]
      exact ⟨none, rfl, rfl⟩
    have behind := room len query received
    obtain ⟨long, below⟩ := len_bounds received
    have allocated : len + 16 < 65536 := by
      have bound := p.fits
      omega
    rw [if_pos isHost, if_pos isHost]
    dsimp only
    rw [if_pos allocated, if_pos behind]
    refine ⟨_, rfl, ?_⟩
    rw [sameAddress, response_congr (b := p.payload) _ long fun i inside =>
      inBuffer i (Nat.lt_of_lt_of_le inside below), response_congr (b := p.payload) _ long
        fun i inside => Buffer.write_read_eq inside]
    rfl

theorem servers_equivalent_sample :
    ∃ sent, Bare.udpRecvProc sampleServer plainQuery (some fun _ => 0) = .ok sent ∧
      Freertos.voidCallback ⟨⟨64, by decide⟩, 256, false⟩ (fun _ => none)
          ⟨true, 0, ⟨[192, 168, 4, 1], rfl⟩, [⟨[98], false⟩, ⟨[97], false⟩]⟩ (fun _ => 1)
          (.datagram plainQuery) =
        .ok (⟨true, 0, ⟨[192, 168, 4, 1], rfl⟩, [⟨[98], false⟩, ⟨[97], false⟩]⟩, sent) := by
  refine servers_equivalent rfl rfl (fun name => ?_) (by decide) rfl _ _ _ _ (by decide)
    fun len query received => ?_
  · constructor
    · rintro ⟨host, member, rfl⟩
      rcases List.mem_pair.mp member with rfl | rfl
      · exact Or.inr rfl
      · exact Or.inl rfl
    · rintro (rfl | rfl)
      · exact ⟨⟨[97], false⟩, by decide, rfl⟩
      · exact ⟨⟨[98], false⟩, by decide, rfl⟩
  · have below : len ≤ 19 := (len_bounds received).2
    show len + 16 ≤ 256
    omega

end Equivalence

end Servers

end DnsServer

end Jblib.Ethutilities
