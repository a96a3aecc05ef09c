import OpenfortivpnRs.Proxy.Isolation
import OpenfortivpnRs.Proxy.MainLoop

/-!
# Sockets in the hands of a lookup or a connection

The code that adds sockets holds them until it removes them or a session gets them.  What every call
keeps of the stack, whatever it is, is kept through a lookup and by `accept_ready_clients`
(`Custody.acceptVisits`).
-/

namespace OpenfortivpnRs.Proxy

open Lib PanicM

variable {S : Type} {tcp : Smoltcp S} {slots : SlotChoice}

/-- A statement about the stack while the sessions have their sockets and the code at work has others
in its hands, which all calls keep.  A socket may get out of its hands only when not `clean`. -/
structure Custody (tcp : Smoltcp S) (polls : ((SocketHandle → S) → SocketHandle → S) → Prop)
    (clean : Prop) (I : List ProxySession → List SocketHandle → ProxyNetStack S → Prop) : Prop where
  live : ∀ {sessions hands ns h}, I sessions hands ns → h ∈ hands → h ∈ ns.live
  use : ∀ {sessions hands ns h} (socket : S), I sessions hands ns → h ∈ hands →
    I sessions hands (ns.put h socket)
  add : ∀ {sessions hands ns h}, I sessions hands ns → h ∉ ns.live →
    I sessions (h :: hands) ⟨Function.update ns.sockets h tcp.fresh, h :: ns.live⟩
  remove : ∀ {sessions hands ns h}, I sessions (h :: hands) ns →
    I sessions hands (removeTcpSocket ns h)
  poll : ∀ {sessions hands ns change}, polls change → I sessions hands ns →
    I sessions hands { ns with sockets := change ns.sockets }
  leak : ∀ {sessions hands ns h}, ¬ clean → I sessions (h :: hands) ns → I sessions hands ns
  session : ∀ {sessions hands ns h} (client : TcpStream), I sessions (h :: hands) ns →
    I (sessions ++ [.start client h]) hands ns

/-- The tunnel can be read and written in every turn. -/
def LookupTurn.Works (turn : LookupTurn S) : Prop := turn.read = .ok () ∧ turn.drain = .ok ()

/-- The tunnel can be read and written while the servers are asked. -/
def TunnelWorks (dnsServers : List Ipv4Addr) (answers : ℕ → ServerAnswers S) : Prop :=
  ∀ i < dnsServers.length, ∀ turn ∈ (answers i).turns, turn.Works

/-- The lookups for the clients find the tunnel working. -/
def LookupsWork (dnsServers : List Ipv4Addr) (visits : List (Except IoError (Visit S))) : Prop :=
  ∀ visit, .ok visit ∈ visits → TunnelWorks dnsServers visit.servers

/-- The polls of the lookups for the clients. -/
def LookupsPoll (polls : ((SocketHandle → S) → SocketHandle → S) → Prop)
    (visits : List (Except IoError (Visit S))) : Prop :=
  ∀ visit, .ok visit ∈ visits → ∀ i, ∀ turn ∈ (visit.servers i).turns, polls turn.poll

theorem connectTcp_live {result : Except String Unit} {h : SocketHandle} {socket : S}
    {ns : ProxyNetStack S} (hlive : h ∈ ns.live) :
    NetM.connectTcp h result socket ns = .ok result (ns.put h socket) := NetM.onSocket_live hlive

theorem safe_onClient {α : Type} {P : ProxyNetStack S → Prop} (c : ClientM α) (client : ClientSocket) :
    Safe P (onClient c client) (fun _ => P) (fun _ => True) := by
  unfold onClient
  cases c client with
  | ok a client => exact .ret fun _ => id
  | error err client => exact .fail fun _ _ => trivial

namespace Custody

variable {polls : ((SocketHandle → S) → SocketHandle → S) → Prop} {clean : Prop}
  {I : List ProxySession → List SocketHandle → ProxyNetStack S → Prop}
  {sessions : List ProxySession} {hands : List SocketHandle} {h : SocketHandle}
  {E : ProxyNetStack S → Prop} (custody : Custody tcp polls clean I)

include custody

/-! ### The calls -/

section Calls

variable {α : Type} {f : ProxyNetStack S → α × ProxyNetStack S}

/-- Calls with a handle in the hands. -/
theorem call (hmem : h ∈ hands) (hput : ∀ ns, ∃ socket, (f ns).2 = ns.put h socket) :
    Safe (I sessions hands) (NetM.onSocket h f) (fun _ => I sessions hands) E := by
  intro ns hns
  rw [NetM.onSocket_live (custody.live hns hmem)]
  obtain ⟨socket, hsocket⟩ := hput ns
  show I sessions hands (f ns).2
  rw [hsocket]
  exact custody.use socket hns hmem

/-- Calls that only ask. -/
theorem ask (hmem : h ∈ hands) (hsame : ∀ ns, (f ns).2 = ns) :
    Safe (I sessions hands) (NetM.onSocket h f) (fun _ => I sessions hands) E :=
  custody.call hmem fun ns => ⟨ns.sockets h, by rw [hsame, put_self]⟩

theorem addTcpSocket (n : ℕ) :
    Safe (I sessions hands) (NetM.addTcpSocket tcp slots n) (fun h => I sessions (h :: hands)) E :=
  fun ns hns => custody.add hns (slots.slot_free ns.live n)

theorem removeTcpSocket :
    Safe (I sessions (h :: hands)) (NetM.removeTcpSocket h) (fun _ => I sessions hands) E := by
  intro ns hns
  rw [NetM.removeTcpSocket_live (custody.live hns List.mem_cons_self)]
  exact custody.remove hns

theorem pollStack {change : (SocketHandle → S) → SocketHandle → S} (hpoll : polls change) :
    Safe (I sessions hands) (NetM.poll change) (fun _ => I sessions hands) E :=
  fun _ hns => custody.poll hpoll hns

/-- An error of the tunnel stops a lookup, and its socket is in nobody's hands any more. -/
theorem tunnel {x : Result Unit} (hx : clean → x = .ok ()) :
    Safe (I sessions (h :: hands)) (ofResult x : NetM S Unit) (fun _ => I sessions (h :: hands))
      (I sessions hands) := by
  refine .ofResult (fun _ _ _ => id) fun err herr ns hns => custody.leak (fun hc => ?_) hns
  rw [hx hc] at herr
  cases herr

end Calls

/-! ### A lookup -/

section Lookup

variable {dns : DnsCodec} {table : ProxyRouteTable} {dnsServers : List Ipv4Addr}

theorem sendQuery {server : Ipv4Addr} {query : List UInt8} {sent : Bool} (hmem : h ∈ hands) :
    Safe (I sessions hands) (Proxy.sendQuery tcp server h query sent) (fun _ => I sessions hands) E := by
  unfold Proxy.sendQuery
  refine (custody.ask hmem fun _ => rfl).bind fun established => ?_
  split
  · refine (custody.call hmem fun _ => ⟨_, rfl⟩).bind fun written => ?_
    split
    · split
      · exact .ret fun _ => id
      · exact .ret fun _ => id
    · exact .ret fun _ => id
  · exact .ret fun _ => id

theorem receiveResponse {queryId : UInt16} {sent : Bool} {response : List UInt8} (hmem : h ∈ hands) :
    Safe (I sessions hands) (Proxy.receiveResponse tcp dns h queryId sent response)
      (fun _ => I sessions hands) E := by
  unfold Proxy.receiveResponse
  split
  · refine (custody.call hmem fun _ => ⟨_, rfl⟩).bind fun received => ?_
    split
    · split
      · exact .ret fun _ => id
      · split
        · split
          · exact .ret fun _ => id
          · exact .ret fun _ => id
        · exact .ret fun _ => id
    · exact .ret fun _ => id
  · exact .ret fun _ => id

/-- **One server.**  The socket is gone when addresses are returned, still in the hands when not, and
lost when the tunnel fails. -/
theorem askServer {server : Ipv4Addr} {query : List UInt8} {queryId : UInt16}
    (turns : List (LookupTurn S)) (hpolls : ∀ turn ∈ turns, polls turn.poll)
    (hworks : clean → ∀ turn ∈ turns, turn.Works) :
    ∀ (sent : Bool) (response : List UInt8) (lastError : Option OpenfortivpnError),
      Safe (I sessions (h :: hands))
        (Proxy.askServer tcp dns server h query queryId turns sent response lastError)
        (fun
          | .inl _ => I sessions hands
          | .inr _ => I sessions (h :: hands))
        (I sessions hands) := by
  have hh : h ∈ h :: hands := List.mem_cons_self
  induction turns with
  | nil => exact fun _ _ _ => .ret fun _ => id
  | cons turn turns ih =>
    intro sent response lastError
    unfold Proxy.askServer
    refine (custody.tunnel fun hc => (hworks hc turn List.mem_cons_self).1).bind fun _ => ?_
    refine (custody.pollStack (hpolls turn List.mem_cons_self)).bind fun _ => ?_
    refine (custody.sendQuery hh).bind fun queried => ?_
    rcases queried with err | sent
    · exact .ret fun _ => id
    · refine (custody.tunnel fun hc => (hworks hc turn List.mem_cons_self).2).bind fun _ => ?_
      refine (custody.receiveResponse hh).bind fun received => ?_
      rcases received with addrs | err | response
      · refine (custody.call hh fun _ => ⟨_, rfl⟩).bind fun _ => ?_
        exact custody.removeTcpSocket.bind fun _ => .ret fun _ => id
      · exact .ret fun _ => id
      · refine (custody.ask hh fun _ => rfl).bind fun active => ?_
        split
        · exact .ret fun _ => id
        · exact ih (fun turn hturn => hpolls turn (List.mem_cons_of_mem _ hturn))
            (fun hc turn hturn => hworks hc turn (List.mem_cons_of_mem _ hturn)) _ _ _

theorem askServers {domain : String} {query : List UInt8} {queryId : UInt16} :
    ∀ (answers : ℕ → ServerAnswers S) (lastError : Option OpenfortivpnError),
      (∀ i, ∀ turn ∈ (answers i).turns, polls turn.poll) →
      (clean → TunnelWorks dnsServers answers) →
      Safe (I sessions hands)
        (Proxy.askServers tcp slots dns table domain query queryId dnsServers answers lastError)
        (fun _ => I sessions hands) (I sessions hands) := by
  induction dnsServers with
  | nil => exact fun _ _ _ _ => .fail fun _ => id
  | cons server servers ih =>
    intro answers lastError hpolls hworks
    have hrest : clean → TunnelWorks servers fun i => answers (i + 1) :=
      fun hc i hi => hworks hc (i + 1) (Nat.succ_lt_succ hi)
    have hnext : ∀ lastError, Safe (I sessions hands)
        (Proxy.askServers tcp slots dns table domain query queryId servers (fun i => answers (i + 1))
          lastError)
        (fun _ => I sessions hands) (I sessions hands) :=
      fun lastError => ih _ lastError (fun i => hpolls (i + 1)) hrest
    unfold Proxy.askServers
    refine (custody.addTcpSocket _).bind fun handle => ?_
    have hh : handle ∈ handle :: hands := List.mem_cons_self
    refine (custody.call hh fun _ => ⟨_, rfl⟩).bind fun connected => ?_
    rcases connected with err | _
    · exact custody.removeTcpSocket.bind fun _ => hnext _
    · refine (custody.askServer _ (hpolls 0) (fun hc => hworks hc 0 (Nat.succ_pos _)) _ _ _).bind
        fun asked => ?_
      rcases asked with addrs | lastError
      · exact .ret fun _ => id
      · refine (custody.call hh fun _ => ⟨_, rfl⟩).bind fun _ => ?_
        exact custody.removeTcpSocket.bind fun _ => hnext _

theorem resolveDomainCached {cache : DnsCache} {now : ℕ} {domain : String}
    {answers : ℕ → ServerAnswers S} (hpolls : ∀ i, ∀ turn ∈ (answers i).turns, polls turn.poll)
    (hworks : clean → TunnelWorks dnsServers answers) :
    Safe (I sessions hands)
      (Proxy.resolveDomainCached tcp slots dns table dnsServers cache now domain answers)
      (fun _ => I sessions hands) (I sessions hands) := by
  unfold Proxy.resolveDomainCached
  dsimp only
  split
  · exact .ret fun _ => id
  · refine Safe.bind ?_ fun addr => .ret fun _ => id
    unfold resolveDomain
    split
    · exact .fail fun _ => id
    · refine (Safe.ofResult (fun _ _ _ => id) fun _ _ _ => id).bind fun query => ?_
      exact custody.askServers answers none hpolls hworks

end Lookup

/-! ### Accepting clients -/

section Accept

variable {dns : DnsCodec} {table : ProxyRouteTable} {dnsServers : List Ipv4Addr}

theorem findDestination {visit : Visit S} {request : Socks5.SocksConnectRequest}
    {client : ClientSocket} {cache : DnsCache}
    (hpolls : ∀ i, ∀ turn ∈ (visit.servers i).turns, polls turn.poll)
    (hworks : clean → TunnelWorks dnsServers visit.servers) :
    Safe (I sessions hands)
      (Proxy.findDestination tcp slots dns table dnsServers visit request client cache)
      (fun _ => I sessions hands) (fun _ => True) := by
  unfold Proxy.findDestination
  split
  · exact .ret fun _ => id
  · refine (custody.resolveDomainCached hpolls hworks).result.bind fun found => ?_
    rcases found with err | ⟨addr, cache⟩
    · dsimp only
      split
      · exact .ret fun _ => id
      · exact (safe_onClient _ _).bind fun _ => .ret fun _ => id
    · exact .ret fun _ => id

/-- What is in the hands behind a client that was served: the socket of its session, which is new. -/
def Left (I : List ProxySession → List SocketHandle → ProxyNetStack S → Prop)
    (sessions : List ProxySession) (hands : List SocketHandle) (served : Served)
    (ns : ProxyNetStack S) : Prop :=
  match served with
  | .tunneled session => I (sessions ++ [session]) hands ns
  | .direct _ | .dropped => I sessions hands ns

theorem startConnection {visit : Visit S} {client : ClientSocket} :
    Safe (I sessions hands) (Proxy.startConnection tcp slots visit client) (Left I sessions hands)
      (fun _ => True) := by
  unfold Proxy.startConnection
  refine (custody.addTcpSocket _).bind fun handle => ?_
  refine (custody.call List.mem_cons_self fun _ => ⟨_, rfl⟩).bind fun connected => ?_
  rcases connected with err | _
  · refine custody.removeTcpSocket.bind fun _ => ?_
    exact (safe_onClient _ _).bind fun _ => .ret fun _ => id
  · exact (safe_onClient _ _).bind fun (_, client) => .ret fun _ => custody.session client.stream

theorem serveVisit {visit : Visit S} {cache : DnsCache}
    (hpolls : ∀ i, ∀ turn ∈ (visit.servers i).turns, polls turn.poll)
    (hworks : clean → TunnelWorks dnsServers visit.servers) :
    Safe (I sessions hands) (Proxy.serveVisit tcp slots dns table dnsServers visit cache)
      (fun r => Left I sessions hands r.1) (fun _ => True) := by
  unfold Proxy.serveVisit
  refine (safe_onClient _ _).bind fun _ => ?_
  refine (safe_onClient _ _).bind fun (request, client) => ?_
  rcases request with err | request
  · exact .ret fun _ => id
  · refine (custody.findDestination hpolls hworks).bind fun (addr, cache) => ?_
    rcases addr with _ | addr
    · exact .ret fun _ => id
    · dsimp only
      split
      · refine (safe_onClient _ _).bind fun (started, _) => ?_
        rcases started with err | session
        · exact .ret fun _ => id
        · exact .ret fun _ => id
      · exact custody.startConnection.bind fun served => .ret fun _ => id

variable (hands) in
/-- **Accepting clients** keeps what the calls keep. -/
theorem acceptVisits {visits : List (Except IoError (Visit S))} (hpolls : LookupsPoll polls visits)
    (hworks : clean → LookupsWork dnsServers visits) :
    ∀ {sessions : List ProxySession} {cache : DnsCache}, Safe (I sessions hands)
      (Proxy.acceptVisits tcp slots dns table dnsServers visits sessions cache)
      (fun r => I r.1 hands) (fun _ => True) := by
  induction visits with
  | nil => exact .ret fun _ => id
  | cons visit visits ih =>
    intro sessions cache
    have hrest := @ih (fun visit hvisit => hpolls visit (List.mem_cons_of_mem _ hvisit))
      fun hc visit hvisit => hworks hc visit (List.mem_cons_of_mem _ hvisit)
    rcases visit with err | visit
    · unfold Proxy.acceptVisits
      split
      · exact .ret fun _ => id
      · exact .fail fun _ _ => trivial
    · unfold Proxy.acceptVisits
      refine (custody.serveVisit (hpolls visit List.mem_cons_self)
        fun hc => hworks hc visit List.mem_cons_self).bind fun (served, cache) => ?_
      cases served with
      | dropped => exact hrest
      | direct _ => exact hrest
      | tunneled _ => exact hrest

end Accept

end Custody

end OpenfortivpnRs.Proxy
