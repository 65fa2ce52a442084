/-
**Descriptors and threads are neither lost nor used twice.**

* `Os.Becomes` — a system call changes the share of one owner; `openSocket_becomes`,
  `closesocket_becomes`, `deleteMainProcedure_becomes`.
* `Fits`, `Custody` — what the objects hold is what they have opened. The destructor of a channel
  does not close descriptor 0.
* `System.service` — what the users see of the system.
* **`serves_everyone`** — in every run of whole calls nothing is done with a descriptor that is closed
  or another's, no thread is deleted that does not run, and what is answered, sent and reported is
  what the service says. What a thread sees while another one is inside of a call is left out.
-/

import EthUtilities.DnsServer.AnswerSpace
import EthUtilities.Library.Custody
import EthUtilities.Library.Keyed
import EthUtilities.Sockets.Endpoints
import Mathlib.Order.BooleanAlgebra.Set

namespace Jblib.Ethutilities.Sockets

open DnsServer.Freertos UdpChannel UdpChannel.Freertos
open Library Library.Custody

/-! ### System calls -/

/-- What an owner has of the operating system. -/
structure Share where
  sockets : Set Int
  threads : Nat

namespace Os

def share (os : Os) (owner : Owner) : Share := ⟨holdings os.sockets owner, os.procedures owner⟩

/-- No descriptor is negative. -/
def Valid (os : Os) : Prop := ∀ fd owner, os.sockets fd = some owner → 0 ≤ fd

/-- The owner has `share` now, and the others have what they had. -/
structure Becomes (os os' : Os) (owner : Owner) (share : Share) : Prop where
  share : os'.share = Function.update os.share owner share
  valid : os.Valid → os'.Valid

section Becomes

variable {os os' os'' : Os} {owner holder : Owner} {share share' : Share} {fd : Int}

theorem Becomes.refl (os : Os) (owner : Owner) : Becomes os os owner (os.share owner) :=
  ⟨(Function.update_eq_self owner os.share).symm, id⟩

theorem Becomes.self (becomes : Becomes os os' owner share) : os'.share owner = share := by
  rw [becomes.share, Function.update_self]

theorem Becomes.frame (becomes : Becomes os os' owner share) (different : holder ≠ owner) :
    os'.share holder = os.share holder := by
  rw [becomes.share, Function.update_of_ne different]

theorem Becomes.trans (first : Becomes os os' owner share) (second : Becomes os' os'' owner share') :
    Becomes os os'' owner share' where
  share := by rw [second.share, first.share, Function.update_idem]
  valid valid := second.valid (first.valid valid)

/-- The shares are what the two tables say. -/
theorem share_eq_update {sockets : Int → Option Owner} {procedures : Owner → Nat}
    (held : holdings sockets = Function.update (holdings os.sockets) owner share.sockets)
    (run : procedures = Function.update os.procedures owner share.threads) :
    (⟨sockets, procedures⟩ : Os).share = Function.update os.share owner share := by
  funext holder
  show Share.mk (holdings sockets holder) (procedures holder) = _
  rw [held, run]
  by_cases same : holder = owner
  · subst same
    rw [Function.update_self, Function.update_self, Function.update_self]
  · rw [Function.update_of_ne same, Function.update_of_ne same, Function.update_of_ne same]
    rfl

theorem socket_becomes (fresh : os.Fresh fd) (owner : Owner) :
    Becomes os (os.socket owner fd) owner
      ⟨insert fd (os.share owner).sockets, (os.share owner).threads⟩ where
  share := share_eq_update (holdings_acquire fresh.2 owner)
    (Function.update_eq_self owner os.procedures).symm
  valid valid q holder held := by
    change Function.update os.sockets fd (some owner) q = some holder at held
    by_cases here : q = fd
    · exact here ▸ fresh.1
    · rw [Function.update_of_ne here] at held
      exact valid q holder held

theorem closesocket_becomes (held : fd ∈ (os.share owner).sockets) :
    ∃ os', os.closesocket owner fd = .ok os' ∧
      Becomes os os' owner ⟨(os.share owner).sockets \ {fd}, (os.share owner).threads⟩ := by
  refine ⟨{ os with sockets := Function.update os.sockets fd none }, if_pos held, ?_, ?_⟩
  · exact share_eq_update (holdings_release held) (Function.update_eq_self owner os.procedures).symm
  · intro valid q holder still
    change Function.update os.sockets fd none q = some holder at still
    by_cases here : q = fd
    · rw [here, Function.update_self] at still
      exact absurd still.symm (Option.some_ne_none holder)
    · rw [Function.update_of_ne here] at still
      exact valid q holder still

theorem addMainProcedure_becomes (os : Os) (owner : Owner) :
    Becomes os (os.addMainProcedure owner) owner
      ⟨(os.share owner).sockets, (os.share owner).threads + 1⟩ where
  share := share_eq_update (Function.update_eq_self owner (holdings os.sockets)).symm rfl
  valid := id

theorem deleteMainProcedure_becomes (runs : 0 < (os.share owner).threads) :
    ∃ os', os.deleteMainProcedure owner = .ok os' ∧
      Becomes os os' owner ⟨(os.share owner).sockets, (os.share owner).threads - 1⟩ :=
  ⟨{ os with procedures := Function.update os.procedures owner (os.procedures owner - 1) },
    if_pos runs, share_eq_update (Function.update_eq_self owner (holdings os.sockets)).symm rfl, id⟩

end Becomes

end Os

/-- The descriptor that is left when a socket was to be opened. -/
def Opening.descriptor : Opening → Int
  | .bound fd => fd
  | .noSocket | .notBound _ => -1

def Opening.opened (opening : Opening) (share : Share) : Share :=
  if opening.isBound then ⟨insert opening.descriptor share.sockets, share.threads⟩ else share

/-- **A socket is opened**, or closed again if it cannot be bound. -/
theorem openSocket_becomes {os : Os} {opening : Opening} (fresh : opening.Fresh os)
    (owner : Owner) :
    ∃ os', os.openSocket owner opening = .ok (os', opening.descriptor) ∧
      os.Becomes os' owner (opening.opened (os.share owner)) := by
  cases opening with
  | noSocket => exact ⟨os, rfl, .refl os owner⟩
  | bound fd => exact ⟨os.socket owner fd, rfl, os.socket_becomes fresh owner⟩
  | notBound fd =>
    have opens := os.socket_becomes fresh owner
    have held : fd ∈ ((os.socket owner fd).share owner).sockets := by
      rw [opens.self]
      exact Set.mem_insert fd _
    obtain ⟨os', closed, becomes⟩ := Os.closesocket_becomes held
    refine ⟨os', ?_, ?_⟩
    · rw [Os.openSocket, closed]
      rfl
    · have new : fd ∉ (os.share owner).sockets := fun mine =>
        absurd (fresh.2.symm.trans mine).symm (Option.some_ne_none owner)
      have whole := opens.trans becomes
      rw [opens.self] at whole
      dsimp only at whole
      rw [Set.insert_sdiff_self_of_notMem new] at whole
      exact whole

/-! ### What the objects hold -/

def serverShare (dns : Server) : Share := if dns.isStarted then ⟨{dns.socket}, 1⟩ else ⟨∅, 0⟩

/-- A channel that is not there may have left descriptor 0. -/
def Fits (share : Share) : Option SocketChannel → Prop
  | none => share.sockets ⊆ {0} ∧ share.threads = 0
  | some c =>
    (c.socket = -1 ∨ c.socket ∈ share.sockets) ∧ share.sockets ⊆ {0, c.socket} ∧
      share.threads = (if c.receiveTask then 1 else 0) ∧ (c.receiveTask → c.socket ≠ -1)

structure Custody (s : System) : Prop where
  valid : s.os.Valid
  server : s.os.share .dnsServer = serverShare s.dns
  channel : ∀ i, Fits (s.os.share (.udpChannel i)) (s.channels i)

/-- What the users see. -/
def System.service (s : System) : Service where
  replyIp := if s.dns.isStarted then some s.dns.replyIp else none
  redirect name := (Keyed.find DnsHostRecord.name s.dns.hostsList name).map
    DnsHostRecord.redirectRequest
  channels i := (s.channels i).map fun c => (decide (c.socket ≠ -1), c.channel)

/-- The system does what the service says, and keeps its custody. -/
def Serves (ran : Except Fault (System × List Output)) (expected : Service × List Output) : Prop :=
  ∃ s', ran = .ok (s', expected.2) ∧ Custody s' ∧ s'.service = expected.1

section Custody

variable {s : System} {os : Os} {dns : Server} {i : Nat} {c : Option SocketChannel} {share : Share}

/-- The server changed what it has. -/
theorem Custody.setServer (custody : Custody s) (becomes : s.os.Becomes os .dnsServer share)
    (fits : share = serverShare dns) : Custody { s with os, dns } where
  valid := becomes.valid custody.valid
  server := becomes.self.trans fits
  channel i := by
    have kept : os.share (.udpChannel i) = s.os.share (.udpChannel i) :=
      becomes.frame (by simp)
    show Fits (os.share _) _
    rw [kept]
    exact custody.channel i

/-- A channel changed what it has. -/
theorem Custody.setChannel (custody : Custody s) (becomes : s.os.Becomes os (.udpChannel i) share)
    (fits : Fits share c) : Custody ({ s with os }.setChannel i c) where
  valid := becomes.valid custody.valid
  server := (becomes.frame (by simp)).trans custody.server
  channel j := by
    show Fits (os.share _) (Function.update s.channels i c j)
    by_cases here : j = i
    · subst here
      rw [becomes.self, Function.update_self]
      exact fits
    · rw [becomes.frame (by simpa using here), Function.update_of_ne here]
      exact custody.channel j

/-- The rest of the program did something. -/
theorem Custody.setOther (custody : Custody s) (becomes : s.os.Becomes os .other share) :
    Custody { s with os } where
  valid := becomes.valid custody.valid
  server := (becomes.frame (by simp)).trans custody.server
  channel i := by
    have kept : os.share (.udpChannel i) = s.os.share (.udpChannel i) :=
      becomes.frame (by simp)
    show Fits (os.share _) _
    rw [kept]
    exact custody.channel i

/-- A channel keeps its descriptor and its thread. -/
theorem Custody.setState (custody : Custody s) {c : SocketChannel} (there : s.channels i = some c)
    (channel : Channel) : Custody (s.setChannel i (some { c with channel })) := by
  have fits := custody.channel i
  rw [there] at fits
  exact custody.setChannel (.refl s.os _) fits

theorem service_setChannel (s : System) (i : Nat) (c : Option SocketChannel) :
    (s.setChannel i c).service =
      s.service.setChannel i (c.map fun c => (decide (c.socket ≠ -1), c.channel)) := by
  rw [Service.setChannel, System.service, System.service, Service.mk.injEq]
  refine ⟨rfl, rfl, funext fun j => ?_⟩
  exact Function.apply_update
    (fun _ => Option.map fun c => (decide (c.socket ≠ -1), c.channel)) s.channels i c j

/-- The descriptor of a started server is its own. -/
theorem Custody.server_sockets (custody : Custody s) (started : s.dns.isStarted = true) :
    s.os.share .dnsServer = ⟨{s.dns.socket}, 1⟩ := by
  rw [custody.server, serverShare, if_pos started]

end Custody

/-! ### The DNS server -/

theorem descriptor_eq_iff {os : Os} {opening : Opening} (fresh : opening.Fresh os) :
    opening.descriptor = -1 ↔ opening.isBound = false := by
  cases opening with
  | noSocket => exact ⟨fun _ => rfl, fun _ => rfl⟩
  | notBound fd => exact ⟨fun _ => rfl, fun _ => rfl⟩
  | bound fd =>
    obtain ⟨positive, -⟩ : os.Fresh fd := fresh
    have proper : fd ≠ -1 := by omega
    exact ⟨fun same => absurd same proper, nofun⟩

section Server

variable {s : System} {setup : Setup}

theorem start_serves (custody : Custody s) {opening : Opening} (replyIp : Bytes 4)
    (fresh : s.dns.isStarted = false → opening.Fresh s.os) :
    Serves (exec setup s (.start opening replyIp))
      (serve setup s.service (.start opening replyIp)) := by
  rw [exec, start, serve]
  cases started : s.dns.isStarted with
  | true =>
    refine ⟨s, rfl, custody, ?_⟩
    rw [System.service, started]
    rfl
  | false =>
    have nothing : s.os.share .dnsServer = ⟨∅, 0⟩ := by
      rw [custody.server, serverShare, started]
      rfl
    obtain ⟨os, opened, becomes⟩ := openSocket_becomes (fresh started) .dnsServer
    have minus := descriptor_eq_iff (fresh started)
    rw [if_neg Bool.false_ne_true, opened]
    dsimp only [bind, Except.bind]
    rw [nothing, Opening.opened] at becomes
    cases bound : opening.isBound with
    | false =>
      rw [if_pos (minus.mpr bound)]
      rw [bound, if_neg Bool.false_ne_true] at becomes
      refine ⟨_, rfl, custody.setServer becomes ?_, ?_⟩
      · rw [serverShare, started]
        rfl
      · rw [Bool.and_false, if_neg Bool.false_ne_true, System.service, System.service, started]
        rfl
    | true =>
      have proper : ¬ opening.descriptor = -1 := fun same =>
        Bool.false_ne_true ((minus.mp same).symm.trans bound)
      rw [if_neg proper]
      rw [bound, if_pos rfl] at becomes
      have both := becomes.trans (os.addMainProcedure_becomes .dnsServer)
      rw [becomes.self] at both
      refine ⟨_, rfl, custody.setServer both ?_, ?_⟩
      · rw [serverShare, if_pos rfl, insert_empty_eq]
      · rw [System.service, System.service, started]
        rfl

/-- A started server gives back what it has. -/
theorem stop_serves (custody : Custody s) :
    Serves ((stop s).map fun s => (s, [])) ({ s.service with replyIp := none }, []) := by
  rw [stop]
  cases started : s.dns.isStarted with
  | false =>
    refine ⟨s, rfl, custody, ?_⟩
    rw [System.service, started]
    rfl
  | true =>
    have mine := custody.server_sockets started
    have runs : 0 < (s.os.share .dnsServer).threads := by
      rw [mine]
      exact Nat.one_pos
    obtain ⟨os, deleted, becomes⟩ := Os.deleteMainProcedure_becomes runs
    have held : s.dns.socket ∈ (os.share .dnsServer).sockets := by
      rw [becomes.self, mine]
      exact Set.mem_singleton _
    obtain ⟨os', closed, becomes'⟩ := Os.closesocket_becomes held
    have both := becomes.trans becomes'
    rw [becomes.self, mine] at both
    refine ⟨{ s with os := os', dns := DnsServer.Freertos.stop s.dns }, ?_,
      custody.setServer both ?_, ?_⟩
    · rw [if_pos rfl, deleted]
      dsimp only [bind, Except.bind]
      rw [closed]
      rfl
    · rw [DnsServer.Freertos.stop, if_pos started, serverShare, if_neg Bool.false_ne_true,
        Set.sdiff_self]
      rfl
    · rw [System.service, System.service, DnsServer.Freertos.stop, if_pos started]
      rfl

/-- The names, as the server finds them. -/
theorem address_service (config : Config) (gethostbyname : List UInt8 → Option (Bytes 4))
    (query : DnsServer.DnsQuery) :
    s.service.address config gethostbyname s.dns.replyIp (DnsServer.cString query.name) =
      DnsServer.Freertos.address config gethostbyname s.dns query := by
  rw [Service.address, DnsServer.Freertos.address]
  by_cases all : config.responseToAllRequests
  · rw [if_pos all, if_pos all]
  · rw [if_neg all, if_neg all]
    have names : s.service.redirect (DnsServer.cString query.name) =
        (s.dns.hostsList.find? fun host => host.name = DnsServer.cString query.name).map
          DnsHostRecord.redirectRequest := rfl
    rw [names]
    cases s.dns.hostsList.find? fun host => host.name = DnsServer.cString query.name with
    | none => rfl
    | some host =>
      dsimp only [Option.map_some]
      cases host.redirectRequest <;> rfl

/-- **The reply to a datagram**, if every answer fits into the receive buffer. -/
theorem reply_service {config : Config}
    (room : config.hostNameMaxSize.val + 33 ≤ config.recieveBufferSize)
    (started : s.dns.isStarted = true) (gethostbyname : List UInt8 → Option (Bytes 4))
    (recvBuffer : Buffer) (p : DnsServer.UdpPayload) :
    reply config gethostbyname s.dns (received config recvBuffer p)
        (min p.len config.recieveBufferSize) =
      .ok (s.service.answer config gethostbyname p) := by
  have replyIp : s.service.replyIp = some s.dns.replyIp := if_pos started
  rw [reply, Service.answer, replyIp,
    DnsServer.receiveQuestion_congr fun i inside => DnsServer.received_eq inside]
  obtain ⟨question, accepted⟩ := DnsServer.receiveQuestion_ok p.payload config.hostNameMaxSize
    (min p.len config.recieveBufferSize)
  rw [accepted]
  cases question with
  | none => rfl
  | some question =>
    obtain ⟨len, query⟩ := question
    obtain ⟨long, inside⟩ := DnsServer.len_bounds accepted
    have fits : len + 16 ≤ config.recieveBufferSize :=
      (answer_end_le accepted).trans room
    dsimp only [bind, Except.bind]
    rw [address_service]
    cases DnsServer.Freertos.address config gethostbyname s.dns query with
    | none => rfl
    | some addr =>
      dsimp only [Option.map_some]
      rw [if_pos fits, DnsServer.response_congr addr long fun i before =>
        DnsServer.received_eq (Nat.lt_of_lt_of_le before inside)]

theorem dnsCallback_serves (custody : Custody s)
    (room : setup.config.hostNameMaxSize.val + 33 ≤ setup.config.recieveBufferSize)
    (runs : 0 < s.os.procedures .dnsServer) (gethostbyname : List UInt8 → Option (Bytes 4))
    (recvBuffer : Buffer) (reception : Reception) :
    Serves (exec setup s (.dnsCallback gethostbyname recvBuffer reception))
      (serve setup s.service (.dnsCallback gethostbyname recvBuffer reception)) := by
  have started : s.dns.isStarted = true := by
    by_contra stopped
    have none : s.os.procedures .dnsServer = 0 := by
      have share := custody.server
      rw [serverShare, if_neg stopped] at share
      exact congrArg Share.threads share
    omega
  have mine : s.os.sockets s.dns.socket = some .dnsServer := by
    have share := congrArg Share.sockets (custody.server_sockets started)
    exact share.ge (Set.mem_singleton s.dns.socket)
  rw [exec]
  unfold dnsCallback
  rw [Os.access, if_pos mine]
  cases reception with
  | selectError => exact stop_serves custody
  | recvfromError => exact stop_serves custody
  | notReady => exact ⟨s, rfl, custody, rfl⟩
  | datagram p =>
    dsimp only [bind, Except.bind]
    rw [reply_service room started]
    exact ⟨s, rfl, custody, rfl⟩

/-- The names changed. -/
theorem service_setHosts (hostsList : List DnsHostRecord) {name : List UInt8}
    {record : Option DnsHostRecord}
    (hides : Keyed.find DnsHostRecord.name hostsList =
      Function.update (Keyed.find DnsHostRecord.name s.dns.hostsList) name record) :
    ({ s with dns := { s.dns with hostsList } } : System).service =
      s.service.setName name (record.map DnsHostRecord.redirectRequest) := by
  rw [Service.setName, System.service, System.service, Service.mk.injEq]
  refine ⟨rfl, funext fun other => ?_, rfl⟩
  dsimp only
  rw [hides]
  exact Function.apply_update (fun _ => Option.map DnsHostRecord.redirectRequest) _ name record other

theorem addHost_serves (custody : Custody s) (hostName : List UInt8) (redirectRequest : Bool) :
    Serves (exec setup s (.addHost hostName redirectRequest))
      (serve setup s.service (.addHost hostName redirectRequest)) :=
  ⟨_, rfl, custody.setServer (.refl s.os _) custody.server, service_setHosts _
    (@Keyed.find_cons _ _ _ DnsHostRecord.name
      ⟨DnsServer.cString hostName, redirectRequest⟩ s.dns.hostsList)⟩

theorem deleteHost_serves (custody : Custody s) (hostName : List UInt8) :
    Serves (exec setup s (.deleteHost hostName))
      (serve setup s.service (.deleteHost hostName)) :=
  ⟨_, rfl, custody.setServer (.refl s.os _) custody.server, service_setHosts _
    (Keyed.find_filter_ne s.dns.hostsList (DnsServer.cString hostName))⟩

end Server

/-! ### The channels -/

section Channel

variable {s : System} {setup : Setup} {i : Nat}

theorem service_channel {c : SocketChannel} (there : s.channels i = some c) :
    s.service.channels i = some (decide (c.socket ≠ -1), c.channel) := by
  rw [System.service]
  dsimp only
  rw [there]
  rfl

theorem construct_serves (custody : Custody s) (absent : s.channels i = none) {opening : Opening}
    (fresh : opening.Fresh s.os) (dstIp : Option Buffer) (dstPort : UInt16) (task : Bool) :
    Serves (exec setup s (.construct i opening dstIp dstPort task))
      (serve setup s.service (.construct i opening dstIp dstPort task)) := by
  have fits := custody.channel i
  rw [absent] at fits
  obtain ⟨leftOver, threads⟩ := fits
  obtain ⟨os, opened, becomes⟩ := openSocket_becomes fresh (.udpChannel i)
  have minus := descriptor_eq_iff fresh
  rw [exec, construct, opened]
  dsimp only [bind, Except.bind]
  rw [Opening.opened] at becomes
  cases bound : opening.isBound with
  | false =>
    rw [if_pos (minus.mpr bound)]
    rw [bound, if_neg Bool.false_ne_true] at becomes
    refine ⟨_, rfl, custody.setChannel becomes ⟨.inl (minus.mpr bound), ?_, threads, nofun⟩, ?_⟩
    · exact leftOver.trans (Set.singleton_subset_iff.mpr (Set.mem_insert 0 _))
    · rw [service_setChannel, serve, bound]
      simp only [Option.map_some, minus.mpr bound]
      rfl
  | true =>
    have proper : ¬ opening.descriptor = -1 := fun same =>
      Bool.false_ne_true ((minus.mp same).symm.trans bound)
    rw [if_neg proper]
    rw [bound, if_pos rfl, threads] at becomes
    have inside : insert opening.descriptor (s.os.share (.udpChannel i)).sockets ⊆
        {0, opening.descriptor} := Set.insert_subset (Set.mem_insert_of_mem _ rfl)
      (leftOver.trans (Set.singleton_subset_iff.mpr (Set.mem_insert 0 _)))
    have service : ∀ os, ({ s with os }.setChannel i (some ⟨opening.descriptor, task,
        UdpChannel.Freertos.construct true dstIp dstPort⟩)).service =
          (serve setup s.service (.construct i opening dstIp dstPort task)).1 := fun os => by
      rw [service_setChannel, serve, bound]
      simp only [Option.map_some, ne_eq, proper, not_false_eq_true, decide_true]
      rfl
    cases task with
    | false =>
      exact ⟨_, rfl, custody.setChannel becomes
        ⟨.inr (Set.mem_insert _ _), inside, rfl, fun _ => proper⟩, service _⟩
    | true =>
      have both := becomes.trans (os.addMainProcedure_becomes (.udpChannel i))
      rw [becomes.self] at both
      exact ⟨_, rfl, custody.setChannel both
        ⟨.inr (Set.mem_insert _ _), inside, rfl, fun _ => proper⟩, service _⟩

/-- The destructor closes every descriptor but 0. -/
theorem closeChannel_becomes (custody : Custody s) {c : SocketChannel}
    (there : s.channels i = some c) :
    ∃ os sockets, closeChannel i c s.os = .ok os ∧ sockets ⊆ {0} ∧
      s.os.Becomes os (.udpChannel i) ⟨sockets, if c.receiveTask then 1 else 0⟩ := by
  have fits := custody.channel i
  rw [there] at fits
  obtain ⟨held, known, threads, -⟩ := fits
  rw [closeChannel]
  by_cases positive : 0 < c.socket
  · have mine : c.socket ∈ (s.os.share (.udpChannel i)).sockets :=
      held.resolve_left (by omega)
    obtain ⟨os, closed, becomes⟩ := Os.closesocket_becomes mine
    rw [threads] at becomes
    refine ⟨os, _, (if_pos positive).trans closed, fun fd still => ?_, becomes⟩
    exact (known still.1).resolve_right still.2
  · refine ⟨s.os, (s.os.share (.udpChannel i)).sockets, if_neg positive, fun fd mine => ?_, ?_⟩
    · rcases known mine with zero | same
      · exact zero
      · have proper := custody.valid fd _ mine
        have same : fd = c.socket := same
        show fd = 0
        omega
    · rw [← threads]
      exact .refl s.os _

theorem destruct_serves (custody : Custody s) (there : s.channels i ≠ none) :
    Serves (exec setup s (.destruct i)) (serve setup s.service (.destruct i)) := by
  obtain ⟨c, there⟩ := Option.ne_none_iff_exists'.mp there
  obtain ⟨os, sockets, closed, leftOver, becomes⟩ := closeChannel_becomes custody there
  have deleted : ∃ os', deleteTask i c os = .ok os' ∧
      os.Becomes os' (.udpChannel i) ⟨sockets, 0⟩ := by
    rw [deleteTask]
    cases task : c.receiveTask with
    | false =>
      rw [task] at becomes
      refine ⟨os, rfl, ?_⟩
      have same := Os.Becomes.refl os (.udpChannel i)
      rw [becomes.self] at same
      exact same
    | true =>
      rw [task] at becomes
      have runs : 0 < (os.share (.udpChannel i)).threads := by
        rw [becomes.self]
        exact Nat.one_pos
      obtain ⟨os', deleted, becomes'⟩ := Os.deleteMainProcedure_becomes runs
      rw [becomes.self] at becomes'
      exact ⟨os', deleted, becomes'⟩
  obtain ⟨os', deleted, becomes'⟩ := deleted
  refine ⟨_, ?_, custody.setChannel (c := none) (becomes.trans becomes') ⟨leftOver, rfl⟩,
    service_setChannel _ _ _⟩
  rw [exec, destruct, there]
  dsimp only [bind, Except.bind]
  rw [closed]
  dsimp only
  rw [deleted]
  rfl

theorem call_serves (custody : Custody s) (there : s.channels i ≠ none) (called : Call) :
    Serves (exec setup s (.call i called)) (serve setup s.service (.call i called)) := by
  obtain ⟨c, there⟩ := Option.ne_none_iff_exists'.mp there
  rw [exec, call, there]
  refine ⟨_, rfl, custody.setState there _, ?_⟩
  rw [service_setChannel, serve, service_channel there]
  rfl

/-- Nobody has the descriptor of a channel but itself. -/
theorem sendto_ok (custody : Custody s) {c : SocketChannel} (there : s.channels i = some c) :
    s.os.sendto (.udpChannel i) c.socket = .ok (decide (c.socket ≠ -1)) := by
  have fits := custody.channel i
  rw [there] at fits
  rw [Os.sendto]
  rcases fits.1 with none | mine
  · have closed : s.os.sockets c.socket = .none := by
      by_contra allocated
      obtain ⟨owner, held⟩ := Option.ne_none_iff_exists'.mp allocated
      have proper := custody.valid c.socket owner held
      omega
    rw [if_pos closed, none]
    rfl
  · have mine : s.os.sockets c.socket = some (.udpChannel i) := mine
    have proper := custody.valid c.socket _ mine
    have different : c.socket ≠ -1 := by omega
    rw [if_neg (by rw [mine]; exact Option.some_ne_none _), if_pos mine,
      decide_eq_true different]

theorem tx_serves (custody : Custody s) (there : s.channels i ≠ none) (buffer : List UInt8)
    (parameter : Option UdpHost) :
    Serves (exec setup s (.tx i buffer parameter))
      (serve setup s.service (.tx i buffer parameter)) := by
  obtain ⟨c, there⟩ := Option.ne_none_iff_exists'.mp there
  refine ⟨s, ?_, custody, rfl⟩
  rw [exec, tx, there]
  dsimp only
  rw [sendto_ok custody there, serve, service_channel there]
  cases decide (c.socket ≠ -1) <;> rfl

theorem receive_serves (custody : Custody s) (runs : 0 < s.os.procedures (.udpChannel i))
    (received : Option (SockaddrIn × List UInt8)) :
    Serves (exec setup s (.receive i received)) (serve setup s.service (.receive i received)) := by
  have fits := custody.channel i
  cases there : s.channels i with
  | none =>
    rw [there] at fits
    exact absurd fits.2 (Nat.ne_of_gt runs)
  | some c =>
    rw [there] at fits
    obtain ⟨held, -, threads, task⟩ := fits
    have running : c.receiveTask = true := by
      by_contra stopped
      rw [if_neg stopped] at threads
      exact absurd threads (Nat.ne_of_gt runs)
    have mine : s.os.sockets c.socket = some (.udpChannel i) := held.resolve_left (task running)
    rw [exec, receive, there, serve, service_channel there]
    dsimp only
    rw [Os.access, if_pos mine]
    refine ⟨_, rfl, custody.setState there _, ?_⟩
    rw [service_setChannel]
    rfl

end Channel

/-! ### Runs -/

section Runs

variable {setup : Setup}

/-- **One event.** -/
theorem exec_serves
    (room : setup.config.hostNameMaxSize.val + 33 ≤ setup.config.recieveBufferSize) {s : System}
    (custody : Custody s) {event : Event} (enabled : Enabled s event) :
    Serves (exec setup s event) (serve setup s.service event) := by
  cases event with
  | start opening replyIp => exact start_serves custody replyIp enabled
  | stop => exact stop_serves custody
  | addHost hostName redirectRequest => exact addHost_serves custody hostName redirectRequest
  | deleteHost hostName => exact deleteHost_serves custody hostName
  | dnsCallback gethostbyname recvBuffer reception =>
    exact dnsCallback_serves custody room enabled gethostbyname recvBuffer reception
  | construct i opening dstIp dstPort task =>
    exact construct_serves custody enabled.1 enabled.2 dstIp dstPort task
  | destruct i => exact destruct_serves custody enabled
  | call i called => exact call_serves custody enabled called
  | tx i buffer parameter => exact tx_serves custody enabled buffer parameter
  | receive i received => exact receive_serves custody enabled received
  | otherOpens fd =>
    exact ⟨_, rfl, custody.setOther (s.os.socket_becomes enabled .other), rfl⟩
  | otherCloses fd =>
    have held : fd ∈ (s.os.share .other).sockets := enabled
    obtain ⟨os, closed, becomes⟩ := Os.closesocket_becomes held
    refine ⟨{ s with os }, ?_, custody.setOther becomes, rfl⟩
    rw [exec, closed]
    rfl

theorem custody_initial : Custody initial := by
  have nothing : ∀ owner, initial.os.share owner = ⟨∅, 0⟩ := fun owner => by
    rw [Os.share, Share.mk.injEq]
    exact ⟨Set.eq_empty_iff_forall_notMem.mpr fun fd => nofun, rfl⟩
  refine ⟨fun fd owner => nofun, nothing _, fun i => ?_⟩
  rw [nothing]
  exact ⟨Set.empty_subset _, rfl⟩

/-- **Descriptors and threads are neither lost nor used twice**, but for descriptor 0. In every run of
the DNS server, of any number of channels and of a program around them: nothing is done with a
descriptor that is closed or another's, no thread is deleted that does not run, every object holds
what it opened, and what is answered, sent and reported is what the service says. -/
theorem serves_everyone
    (room : setup.config.hostNameMaxSize.val + 33 ≤ setup.config.recieveBufferSize)
    {events : List Event} (admissible : Refinement.Admissible (exec setup) Enabled initial events) :
    ∃ s, Refinement.answers (exec setup) initial events =
        .ok ((Refinement.expected (serve setup) .initial events).1, s) ∧
      Custody s ∧ s.service = (Refinement.expected (serve setup) .initial events).2 := by
  refine Refinement.answers_of_simulation (R := fun s t => Custody s ∧ s.service = t)
    (fun s t event related enabled => ?_) ⟨custody_initial, rfl⟩ admissible
  obtain ⟨custody, rfl⟩ := related
  exact exec_serves room custody enabled

/-- The default sizes; users that do nothing. -/
def quiet : Setup := ⟨⟨⟨128, by decide⟩, 1536, false⟩, fun _ _ => []⟩

/-- The server is started, stopped and started again, and gets the descriptor that the rest of the
program has given back; a channel that could not be bound is destroyed. -/
def restart : List Event :=
  [.start (.bound 54) (Bytes.zero 4), .otherOpens 55, .stop, .otherCloses 55,
    .start (.bound 55) (Bytes.zero 4), .construct 3 (.notBound 54) none 80 true, .destruct 3]

theorem serves_everyone_sample :
    ∃ s, Refinement.answers (exec quiet) initial restart =
        .ok ((Refinement.expected (serve quiet) .initial restart).1, s) ∧
      Custody s ∧ s.service = (Refinement.expected (serve quiet) .initial restart).2 := by
  refine serves_everyone (by decide) ?_
  refine .cons (fun _ => ⟨by decide, rfl⟩) rfl (.cons ⟨by decide, rfl⟩ rfl ?_)
  refine .cons trivial rfl (.cons rfl rfl (.cons (fun _ => ⟨by decide, rfl⟩) rfl ?_))
  refine .cons ⟨rfl, by decide, rfl⟩ rfl (.cons (Option.some_ne_none _) rfl trivial)

end Runs

end Jblib.Ethutilities.Sockets
