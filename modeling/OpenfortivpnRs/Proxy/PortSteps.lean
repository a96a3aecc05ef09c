import OpenfortivpnRs.Proxy.Ports

/-!
# The calls of the stack as steps

The programs with ports do to the rest of the stack what those without do, and every state of a run
comes from a new stack by calls of the stack (`Ported.mainLoop`), so what every call keeps holds in all
of them, also in the middle of a lookup.
-/

namespace OpenfortivpnRs.Proxy.Ports

open Lib PanicM ClientM Relation

variable {S : Type} {tcp : Smoltcp S} {slots : SlotChoice}

/-! ### The calls as steps -/

/-- What the calls do that neither add nor connect a socket. -/
inductive NetStep : ProxyNetStack S → ProxyNetStack S → Prop
  | change (ns : ProxyNetStack S) (sockets : SocketHandle → S) : NetStep ns { ns with sockets := sockets }
  | removeTcpSocket (ns : ProxyNetStack S) (h : SocketHandle) : NetStep ns (removeTcpSocket ns h)

/-- What a call of the stack does.  A call of `connect_tcp` that fails takes a port. -/
inductive PortStep (tcp : Smoltcp S) : PortStack S → PortStack S → Prop
  | net {st : PortStack S} {ns : ProxyNetStack S} : NetStep st.netstack ns →
      PortStep tcp st { st with netstack := ns }
  | addTcpSocket {st : PortStack S} {h : SocketHandle} : h ∉ st.netstack.live →
      PortStep tcp st (PortStack.noted { st with
        netstack := ⟨Function.update st.netstack.sockets h tcp.fresh, h :: st.netstack.live⟩ } h none)
  | connectFailed (st : PortStack S) : PortStep tcp st st.next
  | connectTcp {st : PortStack S} {h : SocketHandle} (remote : Ipv4Addr) (port : UInt16) :
      h ∈ st.netstack.live → PortStep tcp st
        (st.next.noted h (some ⟨remote, port, st.nextEphemeralPort, st.calls⟩))

/-- The state is reached from a new stack by calls, in any order. -/
def Reached (tcp : Smoltcp S) (sockets : SocketHandle → S) : PortStack S → Prop :=
  ReflTransGen (PortStep tcp) (.new sockets)

/-! ### Programs that connect nothing -/

section Net

variable {α : Type} {h : SocketHandle} {f : ProxyNetStack S → α × ProxyNetStack S} {dns : DnsCodec}

theorem moves_onSocket (hstep : ∀ ns, NetStep ns (f ns).2) : Moves NetStep (NetM.onSocket h f) := by
  intro ns
  by_cases hlive : h ∈ ns.live
  · rw [leaves_ok (NetM.onSocket_live hlive)]
    exact .single (hstep ns)
  · rw [leaves_error (NetM.onSocket_dead hlive)]

/-- Calls that only ask. -/
theorem moves_ask (hsame : ∀ ns, (f ns).2 = ns) : Moves NetStep (NetM.onSocket h f) :=
  moves_onSocket fun ns => (hsame ns).symm ▸ NetStep.change ns ns.sockets

theorem moves_removeTcpSocket : Moves NetStep (NetM.removeTcpSocket (S := S) h) :=
  moves_onSocket fun ns => .removeTcpSocket ns h

theorem moves_poll (change : (SocketHandle → S) → SocketHandle → S) :
    Moves NetStep (NetM.poll change) := fun ns => .single (.change ns _)

theorem moves_onClient (c : ClientM α) (client : ClientSocket) :
    Moves (NetStep (S := S)) (onClient c client) := by
  unfold onClient
  cases c client with
  | ok a client => exact .ret _
  | error err client => exact .fail _

theorem moves_sendQuery {server : Ipv4Addr} {query : List UInt8} {sent : Bool} :
    Moves NetStep (sendQuery tcp server h query sent) := by
  unfold sendQuery
  refine (moves_ask fun _ => rfl).bind fun established => ?_
  split
  · refine (moves_onSocket fun ns => .change ns _).bind fun written => ?_
    split
    · split
      · exact .ret _
      · exact .ret _
    · exact .ret _
  · exact .ret _

theorem moves_receiveResponse {queryId : UInt16} {sent : Bool} {response : List UInt8} :
    Moves NetStep (receiveResponse tcp dns h queryId sent response) := by
  unfold receiveResponse
  split
  · refine (moves_onSocket fun ns => .change ns _).bind fun received => ?_
    split
    · split
      · exact .ret _
      · split
        · split
          · exact .ret _
          · exact .ret _
        · exact .ret _
    · exact .ret _
  · exact .ret _

theorem moves_askServer {server : Ipv4Addr} {query : List UInt8} {queryId : UInt16}
    (turns : List (LookupTurn S)) :
    ∀ (sent : Bool) (response : List UInt8) (lastError : Option OpenfortivpnError),
      Moves NetStep (askServer tcp dns server h query queryId turns sent response lastError) := by
  induction turns with
  | nil => exact fun _ _ _ => .ret _
  | cons turn turns ih =>
    intro sent response lastError
    unfold askServer
    refine (Moves.ofResult _).bind fun _ => ?_
    refine (moves_poll _).bind fun _ => ?_
    refine moves_sendQuery.bind fun queried => ?_
    rcases queried with err | sent
    · exact .ret _
    · refine (Moves.ofResult _).bind fun _ => ?_
      refine moves_receiveResponse.bind fun received => ?_
      rcases received with addrs | err | response
      · refine (moves_onSocket fun ns => .change ns _).bind fun _ => ?_
        exact moves_removeTcpSocket.bind fun _ => .ret _
      · exact .ret _
      · refine (moves_ask fun _ => rfl).bind fun active => ?_
        split
        · exact .ret _
        · exact ih _ _ _

theorem moves_localTurn (session : ProxySession) : Moves NetStep (localTurn tcp session) := by
  unfold localTurn
  split
  · exact .ret _
  · refine moves_onSocket fun ns => ?_
    obtain ⟨-, socket, hput, -⟩ := (@pumpLocal_ownTurn S tcp session _).turn_eq
      (show _ = Except.ok ((pumpLocal tcp session ns).1, (pumpLocal tcp session ns).2) from rfl)
    rw [hput]
    exact .change ns _

theorem moves_tcpTurn (session : ProxySession) : Moves NetStep (tcpTurn tcp session) := by
  unfold tcpTurn
  refine (moves_onSocket fun ns => ?_).bind fun turned => .ofResult _
  rcases hturn : pumpTcp tcp session ns with err | ⟨session', ns'⟩
  · exact .change ns ns.sockets
  · obtain ⟨-, socket, rfl, -⟩ := (pumpTcp_ownTurn session _).turn_eq hturn
    exact .change ns _

theorem moves_cleanupTurns (sessions : List ProxySession) :
    Moves NetStep (cleanupTurns tcp sessions) := by
  induction sessions with
  | nil => exact .ret []
  | cons session sessions ih =>
    unfold cleanupTurns
    refine (moves_ask fun _ => rfl).bind fun active => ?_
    dsimp only
    split
    · exact moves_removeTcpSocket.bind fun _ => ih
    · exact ih.bind fun left => .ret _

theorem moves_closeSessions (sessions : List ProxySession) :
    Moves NetStep (closeSessions tcp sessions) := by
  induction sessions with
  | nil => exact .ret ()
  | cons session sessions ih => exact (moves_onSocket fun ns => .change ns _).bind fun _ => ih

end Net

/-! ### The runtime takes these steps -/

variable (tcp) in
/-- A program with ports does to the stack what one without does, by calls of the stack. -/
structure Ported {α : Type} (p : PortM S α) (c : NetM S α) : Prop where
  erases : netView.Erases p c
  moves : Moves (PortStep tcp) p

namespace Ported

section Rules

variable {α β : Type} {p : PortM S α} {c : NetM S α}

theorem ret (a : α) : Ported tcp (pure a : PortM S α) (pure a) := ⟨View.erases_ret a, .ret a⟩

theorem fail (err : OpenfortivpnError) : Ported tcp (PanicM.fail err : PortM S α) (PanicM.fail err) :=
  ⟨View.erases_fail err, .fail err⟩

theorem ofResult (x : Result α) : Ported tcp (PanicM.ofResult x : PortM S α) (PanicM.ofResult x) :=
  ⟨View.erases_ofResult x, .ofResult x⟩

theorem bind {f : α → PortM S β} {g : α → NetM S β} (h : Ported tcp p c)
    (hf : ∀ a, Ported tcp (f a) (g a)) : Ported tcp (p >>= f) (c >>= g) :=
  ⟨h.erases.bind fun a => (hf a).erases, h.moves.bind fun a => (hf a).moves⟩

theorem result (h : Ported tcp p c) : Ported tcp (PanicM.result p) (PanicM.result c) :=
  ⟨h.erases.result, h.moves.result⟩

theorem mapM {f : β → PortM S α} {g : β → NetM S α} (hf : ∀ b, Ported tcp (f b) (g b)) (bs : List β) :
    Ported tcp (bs.mapM f) (bs.mapM g) :=
  ⟨View.Erases.mapM (fun b => (hf b).erases) bs, .mapM (fun b => (hf b).moves) bs⟩

theorem onNet (hc : Moves NetStep c) : Ported tcp (Ports.onNet c) c :=
  ⟨View.erases_lift c,
    View.moves_lift hc (fun st ns _ h => @PortStep.net S tcp (netView.put st ns) _ h) fun _ => rfl⟩

theorem addTcpSocket (n : ℕ) :
    Ported tcp (Ports.addTcpSocket tcp slots n) (NetM.addTcpSocket tcp slots n) :=
  ⟨fun _ => rfl, fun st => .single (.addTcpSocket (slots.slot_free st.netstack.live n))⟩

theorem connectTcp {h : SocketHandle} {remote : Ipv4Addr} {port : UInt16}
    (result : Except String Unit) (socket : S) :
    Ported tcp (Ports.connectTcp h remote port result socket) (NetM.connectTcp h result socket) := by
  constructor
  · intro st
    change NetM.connectTcp h result socket st.netstack = _
    by_cases hlive : h ∈ st.netstack.live
    · rw [connectTcp_live hlive]
      rcases result with err | _
      · rw [connectTcp_error hlive]
        rfl
      · rw [connectTcp_ok hlive]
        rfl
    · rw [NetM.connectTcp, NetM.onSocket_dead hlive, connectTcp_panics hlive]
      rfl
  · intro st
    by_cases hlive : h ∈ st.netstack.live
    · rcases result with err | _
      · rw [leaves_ok (connectTcp_error hlive)]
        exact (ReflTransGen.single (.connectFailed st)).tail (.net (.change _ _))
      · rw [leaves_ok (connectTcp_ok hlive)]
        exact (ReflTransGen.single (.connectTcp remote port hlive)).tail (.net (.change _ _))
    · rw [leaves_error (connectTcp_panics hlive)]
      exact .single (.connectFailed st)

theorem onClient (c : ClientM α) (client : ClientSocket) :
    Ported tcp (Ports.onNet (Proxy.onClient c client)) (Proxy.onClient c client) :=
  onNet (moves_onClient c client)

theorem removeTcpSocket (h : SocketHandle) :
    Ported tcp (Ports.onNet (NetM.removeTcpSocket h)) (NetM.removeTcpSocket h) :=
  onNet moves_removeTcpSocket

end Rules

section Runtime

variable {dns : DnsCodec} {table : ProxyRouteTable} {dnsServers : List Ipv4Addr}

theorem askServers {domain : String} {query : List UInt8} {queryId : UInt16} :
    ∀ (answers : ℕ → ServerAnswers S) (lastError : Option OpenfortivpnError), Ported tcp
      (Ports.askServers tcp slots dns table domain query queryId dnsServers answers lastError)
      (Proxy.askServers tcp slots dns table domain query queryId dnsServers answers lastError) := by
  induction dnsServers with
  | nil => exact fun _ _ => fail _
  | cons server servers ih =>
    intro answers lastError
    unfold Ports.askServers Proxy.askServers
    refine (addTcpSocket _).bind fun handle => ?_
    refine (connectTcp _ _).bind fun connected => ?_
    rcases connected with err | _
    · exact (removeTcpSocket _).bind fun _ => ih _ _
    · refine (onNet (moves_askServer _ _ _ _)).bind fun asked => ?_
      rcases asked with addrs | lastError
      · exact ret _
      · refine (onNet (moves_onSocket fun ns => .change ns _)).bind fun _ => ?_
        exact (removeTcpSocket _).bind fun _ => ih _ _

theorem resolveDomainCached {cache : DnsCache} {now : ℕ} {domain : String}
    {answers : ℕ → ServerAnswers S} : Ported tcp
      (Ports.resolveDomainCached tcp slots dns table dnsServers cache now domain answers)
      (Proxy.resolveDomainCached tcp slots dns table dnsServers cache now domain answers) := by
  unfold Ports.resolveDomainCached Proxy.resolveDomainCached
  dsimp only
  cases (cache (Text.toAsciiLowercase domain)).filter (now < ·.expiresAt) with
  | some entry => exact ret _
  | none =>
    refine bind ?_ fun addr => ret _
    unfold Ports.resolveDomain Proxy.resolveDomain
    split
    · exact fail _
    · exact (ofResult _).bind fun query => askServers answers none

theorem findDestination {visit : Visit S} {request : Socks5.SocksConnectRequest}
    {client : ClientSocket} {cache : DnsCache} : Ported tcp
      (Ports.findDestination tcp slots dns table dnsServers visit request client cache)
      (Proxy.findDestination tcp slots dns table dnsServers visit request client cache) := by
  unfold Ports.findDestination Proxy.findDestination
  rcases request.target with addr | domain
  · exact ret _
  · refine resolveDomainCached.result.bind fun found => ?_
    rcases found with err | ⟨addr, cache⟩
    · dsimp only
      rcases resolveDomainDirect domain (visit.answers.systemDns domain) with err | addr
      · exact (onClient _ _).bind fun _ => ret _
      · exact ret _
    · exact ret _

theorem startConnection {visit : Visit S} {client : ClientSocket} {destination : Ipv4Addr}
    {port : UInt16} : Ported tcp (Ports.startConnection tcp slots visit client destination port)
      (Proxy.startConnection tcp slots visit client) := by
  unfold Ports.startConnection Proxy.startConnection
  refine (addTcpSocket _).bind fun handle => ?_
  refine (connectTcp _ _).bind fun connected => ?_
  rcases connected with err | _
  · exact (removeTcpSocket _).bind fun _ => (onClient _ _).bind fun _ => ret _
  · exact (onClient _ _).bind fun _ => ret _

theorem serveVisit {visit : Visit S} {cache : DnsCache} : Ported tcp
    (Ports.serveVisit tcp slots dns table dnsServers visit cache)
    (Proxy.serveVisit tcp slots dns table dnsServers visit cache) := by
  unfold Ports.serveVisit Proxy.serveVisit
  refine (onClient _ _).bind fun _ => ?_
  refine (onClient _ _).bind fun (request, client) => ?_
  rcases request with err | request
  · exact ret _
  · refine findDestination.bind fun (addr, cache) => ?_
    rcases addr with _ | addr
    · exact ret _
    · dsimp only
      split
      · refine (onClient _ _).bind fun (started, _) => ?_
        rcases started with err | session
        · exact ret _
        · exact ret _
      · exact startConnection.bind fun served => ret _

theorem acceptVisits (visits : List (Except IoError (Visit S))) :
    ∀ (sessions : List ProxySession) (cache : DnsCache), Ported tcp
      (Ports.acceptVisits tcp slots dns table dnsServers visits sessions cache)
      (Proxy.acceptVisits tcp slots dns table dnsServers visits sessions cache) := by
  induction visits with
  | nil => exact fun _ _ => ret _
  | cons visit visits ih =>
    intro sessions cache
    unfold Ports.acceptVisits Proxy.acceptVisits
    rcases visit with err | visit
    · dsimp only
      split
      · exact ret _
      · exact fail _
    · refine serveVisit.bind fun result => ?_
      obtain ⟨served, cache⟩ := result
      cases served with
      | dropped => exact ih _ _
      | direct _ => exact ih _ _
      | tunneled _ => exact ih _ _

theorem mainPass {answers : PassAnswers S} {sessions : List ProxySession} {cache : DnsCache} :
    Ported tcp (Ports.mainPass tcp slots dns table dnsServers answers sessions cache)
      (Proxy.mainPass tcp slots dns table dnsServers answers sessions cache) := by
  unfold Ports.mainPass Proxy.mainPass
  refine (acceptVisits _ _ _).bind fun _ => ?_
  refine (ofResult _).bind fun _ => ?_
  refine (mapM (fun session => onNet (moves_localTurn session)) _).bind fun _ => ?_
  refine (onNet (moves_poll _)).bind fun _ => ?_
  refine (mapM (fun session => onNet (moves_tcpTurn session)) _).bind fun _ => ?_
  refine (ofResult _).bind fun _ => ?_
  exact (onNet (moves_cleanupTurns _)).bind fun _ => ret _

/-- **The main loop with ports** does what it does without them, by calls of the stack. -/
theorem mainLoop (passes : List (PassAnswers S)) :
    ∀ (sessions : List ProxySession) (cache : DnsCache), Ported tcp
      (Ports.mainLoop tcp slots dns table dnsServers passes sessions cache)
      (Proxy.mainLoop tcp slots dns table dnsServers passes sessions cache) := by
  induction passes with
  | nil => exact fun _ _ => ret _
  | cons answers passes ih =>
    intro sessions cache
    unfold Ports.mainLoop Proxy.mainLoop
    exact mainPass.bind fun _ => ih _ _

theorem run (passes : List (PassAnswers S)) (drain : Result Unit) :
    Ported tcp (Ports.run tcp slots dns table dnsServers passes drain)
      (Proxy.run tcp slots dns table dnsServers passes drain) := by
  unfold Ports.run Proxy.run
  refine (mainLoop _ _ _).bind fun _ => ?_
  exact (onNet (moves_closeSessions _)).bind fun _ => ofResult _

end Runtime

end Ported

end OpenfortivpnRs.Proxy.Ports
