/-
**Whether the answer fits into the receive buffer.**

The server on sockets writes the answer behind the question, in the buffer that the query was
received in, whose size and the size of the names are configured independently.

* `answer_end_le` — the answer ends at most 33 bytes behind the size of the names.
* `longQuery` — a query of every length from 19 bytes on, `receive_longQuery` — which is accepted.
* **`answersInside_iff`** — so the configurations whose answers are all inside of the buffer are
  those with room for 33 bytes besides a name.
-/

import EthUtilities.DnsServer.Answers

namespace Jblib.Ethutilities

open Library DnsMessage

namespace DnsServer.Freertos

/-- The options that the configuration menu admits. -/
structure Config.Admitted (config : Config) : Prop where
  hostNameMaxSize : 64 ≤ config.hostNameMaxSize.val ∧ config.hostNameMaxSize.val ≤ 1024
  recieveBufferSize : 256 ≤ config.recieveBufferSize ∧ config.recieveBufferSize ≤ 1536

section Reach

variable (config : Config) (gethostbyname : List UInt8 → Option (Bytes 4)) (server : Server)

/-- The answer to a datagram is built, at `len`. -/
def BuildsAnswer (p : UdpPayload) (len : Nat) : Prop :=
  ∃ query,
    receiveQuestion p.payload config.hostNameMaxSize (min p.len config.recieveBufferSize) =
      .ok (some (len, query)) ∧
    (address config gethostbyname server query).isSome

/-- Every answer to a datagram that fits the receive buffer lies in the receive buffer. -/
def AnswersInside : Prop :=
  ∀ gethostbyname server p len, p.len ≤ config.recieveBufferSize →
    BuildsAnswer config gethostbyname server p len → len + 16 ≤ config.recieveBufferSize

variable {config gethostbyname server} {recvBuffer : Buffer} {p : UdpPayload} {len : Nat}

/-- Otherwise the answer is written outside. -/
theorem voidCallback_writeOutside (builds : BuildsAnswer config gethostbyname server p len)
    (outside : ¬ len + 16 ≤ config.recieveBufferSize) :
    voidCallback config gethostbyname server recvBuffer (.datagram p) = .error .writeOutside := by
  obtain ⟨query, received, available⟩ := builds
  obtain ⟨addr, addressed⟩ := Option.isSome_iff_exists.mp available
  show (reply config gethostbyname server (Freertos.received config recvBuffer p)
    (min p.len config.recieveBufferSize)).map _ = _
  rw [reply, receiveQuestion_congr fun i inside => received_eq inside, received]
  dsimp only [bind, Except.bind]
  rw [addressed]
  dsimp only
  rw [if_neg outside]
  rfl

/-- **Where an answer ends.** -/
theorem answer_end_le {b : Buffer} {max : NameSize} {n : Nat} {query : DnsQuery}
    (accepted : receiveQuestion b max n = .ok (some (len, query))) :
    len + 16 ≤ max.val + 33 := by
  obtain ⟨question, fits, rfl, _⟩ := questionOf_receiveQuestion accepted
  have some := max.property
  rw [joinedLength] at fits
  rw [QuestionOf.nameLength, length_encodeLabels, headerLen]
  omega

end Reach

/-! ### A query of every length -/

section LongQuery

/-- Labels of one byte, the first one of two if the joined name is to have an even length. -/
def labelsOfLength (joined : Nat) : List (List UInt8) :=
  List.replicate (2 - joined % 2) 97 :: List.replicate ((joined - 1) / 2) [97]

theorem encodable_labelsOfLength (joined : Nat) : Encodable (labelsOfLength joined) := by
  intro label member
  rcases List.mem_cons.mp member with rfl | member
  · rw [List.length_replicate]
    omega
  · rw [List.eq_of_mem_replicate member]
    simp

theorem sum_labelsOfLength {joined : Nat} (some : 0 < joined) :
    ((labelsOfLength joined).map List.length).sum + ((labelsOfLength joined).length - 1) = joined ∧
      0 < (labelsOfLength joined).length := by
  simp [labelsOfLength]
  omega

/-- The bytes of a question for that name. -/
def longQuestion (joined : Nat) : List UInt8 :=
  encodeLabels (labelsOfLength joined) ++ 0 :: [0, 1, 0, 1]

/-- What it is parsed to. -/
def longName (joined : Nat) : DnsQuery :=
  ⟨dotted (labelsOfLength joined), ⟨[0, 1], rfl⟩, ⟨[0, 1], rfl⟩⟩

/-- A query for a name of a given length. -/
def longQuery (joined : Nat) (fits : joined + 18 ≤ 65507) : UdpPayload :=
  ⟨Buffer.write (fun _ => 0) 0 ([0, 0, 1, 0, 0, 1, 0, 0, 0, 0, 0, 0] ++ longQuestion joined),
    joined + 18, fits⟩

variable {joined : Nat} (fits : joined + 18 ≤ 65507)

theorem length_longQuestion (some : 0 < joined) : (longQuestion joined).length = joined + 6 := by
  obtain ⟨sum, labels⟩ := sum_labelsOfLength some
  rw [longQuestion, List.length_append, length_encodeLabels]
  show _ + 5 = _
  omega

theorem behindHeader_longQuery (some : 0 < joined) :
    behindHeader (longQuery joined fits).payload (joined + 18) = longQuestion joined := by
  have length := length_longQuestion some
  have written : (Buffer.write (fun _ => 0) 0
      ([0, 0, 1, 0, 0, 1, 0, 0, 0, 0, 0, 0] ++ longQuestion joined)).read (0 + 12) (joined + 6) =
        (([0, 0, 1, 0, 0, 1, 0, 0, 0, 0, 0, 0] ++ longQuestion joined).drop 12).take (joined + 6) :=
    Buffer.read_write_inside (by rw [List.length_append, length]; exact Nat.add_comm _ _ ▸ le_rfl)
  show Buffer.read _ 12 (joined + 18 - 12) = _
  rw [Nat.zero_add] at written
  rw [show joined + 18 - 12 = joined + 6 by omega]
  exact written.trans (List.take_of_length_le (Nat.le_of_eq length))

/-- **It is accepted**, if the name fits. -/
theorem receive_longQuery {max : NameSize} (some : 0 < joined) (room : joined ≤ max.val - 1) :
    receiveQuestion (longQuery joined fits).payload max (joined + 18) =
      .ok (.some (joined + 18, longName joined)) := by
  obtain ⟨sum, labels⟩ := sum_labelsOfLength some
  let question : QuestionOf (behindHeader (longQuery joined fits).payload (joined + 18)) :=
    ⟨labelsOfLength joined, ⟨[0, 1], rfl⟩, ⟨[0, 1], rfl⟩, [], encodable_labelsOfLength joined,
      behindHeader_longQuery fits some⟩
  have read := @parseQuery_reads max _ question (le_of_eq_of_le sum room)
  have length : question.nameLength + 4 + headerLen = joined + 18 := by
    show (encodeLabels (labelsOfLength joined)).length + 1 + 4 + 12 = _
    rw [length_encodeLabels]
    omega
  have flags : (longQuery joined fits).payload 2 = 1 := rfl
  have query : qr (longQuery joined fits).payload = 0 := by
    rw [qr, flags]
    rfl
  have high : (longQuery joined fits).payload 4 = 0 := rfl
  have low : (longQuery joined fits).payload 5 = 1 := rfl
  have single : nRecord (longQuery joined fits).payload 0 = 1 := by
    show OnesComplement.word ((longQuery joined fits).payload 4)
      ((longQuery joined fits).payload 5) = 1
    rw [high, low]
    rfl
  have long : ¬ joined + 18 ≤ headerLen := by
    rw [headerLen]
    omega
  rw [receiveQuestion_of_parsed long query single read, length]
  rfl

end LongQuery

/-! ### The configurations -/

section Configurations

variable {config : Config}

/-- A server for the name. -/
def serverOf (name : List UInt8) (replyIp : Bytes 4) : Server :=
  ⟨true, 0, replyIp, [⟨cString name, false⟩]⟩

/-- In both modes the query is answered. -/
theorem buildsAnswer_longQuery {joined : Nat} (fits : joined + 18 ≤ 65507) (some : 0 < joined)
    (room : joined ≤ config.hostNameMaxSize.val - 1)
    (received : joined + 18 ≤ config.recieveBufferSize) (replyIp : Bytes 4) :
    BuildsAnswer config (fun _ => none) (serverOf (longName joined).name replyIp)
      (longQuery joined fits) (joined + 18) := by
  refine ⟨longName joined, ?_, ?_⟩
  · show receiveQuestion _ _ (min (joined + 18) _) = _
    rw [Nat.min_eq_left received]
    exact receive_longQuery fits some room
  · rw [address]
    split
    · rfl
    · have found : (serverOf (longName joined).name replyIp).hostsList.find?
          (fun host => host.name = cString (longName joined).name) =
            .some ⟨cString (longName joined).name, false⟩ :=
        List.find?_cons_of_pos (decide_eq_true rfl)
      rw [found]
      rfl

/-- **The configurations whose answers are inside of the receive buffer.** -/
theorem answersInside_iff (admitted : config.Admitted) :
    AnswersInside config ↔ config.hostNameMaxSize.val + 33 ≤ config.recieveBufferSize := by
  obtain ⟨⟨minimum, _⟩, least, most⟩ := admitted
  constructor
  · intro inside
    -- the longest name that both the name and the buffer have room for
    let joined := min (config.hostNameMaxSize.val - 1) (config.recieveBufferSize - 18)
    have name : joined ≤ config.hostNameMaxSize.val - 1 := Nat.min_le_left _ _
    have buffer : joined ≤ config.recieveBufferSize - 18 := Nat.min_le_right _ _
    have longest : joined = config.hostNameMaxSize.val - 1 ∨
        joined = config.recieveBufferSize - 18 := min_choice _ _
    have received : joined + 18 ≤ config.recieveBufferSize := by omega
    have builds := buildsAnswer_longQuery (by omega) (by omega) name received ⟨[0, 0, 0, 0], rfl⟩
    have behind := inside _ _ _ _ received builds
    omega
  · rintro room gethostbyname server p len _ ⟨query, received, _⟩
    exact (answer_end_le received).trans room

theorem answersInside_iff_default :
    AnswersInside ⟨⟨128, by decide⟩, 1536, false⟩ ↔ 128 + 33 ≤ 1536 :=
  answersInside_iff ⟨⟨by decide, by decide⟩, by decide, by decide⟩

/-- The longest names and the shortest buffer. -/
def tightConfig : Config := ⟨⟨1024, by decide⟩, 256, false⟩

/-- An answer behind the receive buffer. -/
theorem tightConfig_writeOutside :
    tightConfig.Admitted ∧
    BuildsAnswer tightConfig (fun _ => none) (serverOf (longName 238).name ⟨[0, 0, 0, 0], rfl⟩)
      (longQuery 238 (by decide)) 256 ∧
    voidCallback tightConfig (fun _ => none) (serverOf (longName 238).name ⟨[0, 0, 0, 0], rfl⟩)
      (fun _ => 0) (.datagram (longQuery 238 (by decide))) = .error .writeOutside ∧
    ¬ AnswersInside tightConfig := by
  have builds := @buildsAnswer_longQuery tightConfig 238 (by decide) (by decide) (by decide)
    (by decide) ⟨[0, 0, 0, 0], rfl⟩
  refine ⟨⟨⟨by decide, by decide⟩, by decide, by decide⟩, builds,
    voidCallback_writeOutside builds (by decide), fun inside => ?_⟩
  exact absurd (inside _ _ _ _ (by decide) builds) (by decide)

end Configurations

end DnsServer.Freertos

end Jblib.Ethutilities
