import OpenfortivpnRs.Lib.Layers
import OpenfortivpnRs.Proxy.Custody

/-!
# Local ports (`connect_tcp` and `next_port` of `proxy/netstack.rs`)

The network stack with its counter of local ports, and the programs of the proxy that connect sockets
on it.
-/

namespace OpenfortivpnRs.Proxy.Ports

open Lib PanicM ClientM Socks5

/-- The endpoints `connect_tcp` gave a socket, and the number of its calls before. -/
structure Connection where
  remote : Ipv4Addr
  port : UInt16
  localPort : UInt16
  call : ℕ
  deriving DecidableEq

/-- The network stack with its counter.  The connections of the sockets and the number of calls of
`connect_tcp` are a record of what was done. -/
structure PortStack (S : Type) where
  netstack : ProxyNetStack S
  nextEphemeralPort : UInt16
  connections : SocketHandle → Option Connection
  calls : ℕ

abbrev PortM (S α : Type) : Type := PanicM OpenfortivpnError (PortStack S) α

section Stack

variable {S α : Type}

/-- `ProxyNetStack::new`. -/
def PortStack.new (sockets : SocketHandle → S) : PortStack S :=
  ⟨⟨sockets, []⟩, 49152, fun _ => none, 0⟩

/-- The sockets of the stack. -/
def netView : View (PortStack S) (ProxyNetStack S) where
  get st := st.netstack
  put st ns := { st with netstack := ns }
  get_put _ _ := rfl

/-- A program that connects no socket. -/
def onNet (c : NetM S α) : PortM S α := netView.lift c

/-- The counter behind `next_port`. -/
def portAfter (port : UInt16) : UInt16 := if port = 65535 then 49152 else port + 1

/-- A port is taken. -/
def PortStack.next (st : PortStack S) : PortStack S :=
  { st with nextEphemeralPort := portAfter st.nextEphemeralPort, calls := st.calls + 1 }

def nextPort : PortM S UInt16 := fun st => .ok st.nextEphemeralPort st.next

/-- The socket has these endpoints, or none. -/
def PortStack.noted (st : PortStack S) (handle : SocketHandle) (connection : Option Connection) :
    PortStack S :=
  { st with connections := Function.update st.connections handle connection }

def note (handle : SocketHandle) (connection : Option Connection) : PortM S Unit := fun st =>
  .ok () (st.noted handle connection)

def addTcpSocket (tcp : Smoltcp S) (slots : SlotChoice) (n : ℕ) : PortM S SocketHandle := do
  let handle ← onNet (NetM.addTcpSocket tcp slots n)
  note handle none
  return handle

/-- `connect_tcp`, with its result and what it makes of the socket; a socket that it does not connect
has no endpoints. -/
def connectTcp (handle : SocketHandle) (remote : Ipv4Addr) (port : UInt16)
    (result : Except String Unit) (socket : S) : PortM S (Except String Unit) := do
  let st ← get
  let localPort ← nextPort
  let connected ← onNet (NetM.connectTcp handle result socket)
  match connected with
  | .ok () =>
    note handle (some ⟨remote, port, localPort, st.calls⟩)
    return .ok ()
  | .error err => return .error err

end Stack

/-! ### Lookups -/

section Lookup

variable {S : Type} (tcp : Smoltcp S) (slots : SlotChoice) (dns : DnsCodec) (table : ProxyRouteTable)

/-- The loop over the servers. -/
def askServers (domain : String) (query : List UInt8) (queryId : UInt16) :
    List Ipv4Addr → (ℕ → ServerAnswers S) → Option OpenfortivpnError → PortM S Ipv4Addr
  | [], _, lastError =>
    fail (lastError.getD (.network ("timed out resolving " ++ domain ++ " via VPN DNS")))
  | server :: servers, answers, lastError => do
    let handle ← addTcpSocket tcp slots (answers 0).slot
    match ← connectTcp handle server 53 (answers 0).connect (answers 0).connecting with
    | .error err =>
      onNet (NetM.removeTcpSocket handle)
      askServers domain query queryId servers (fun i => answers (i + 1)) (some
        (.network ("failed to connect to DNS server " ++ server.display ++ ": " ++ err)))
    | .ok () =>
      match ← onNet (askServer tcp dns server handle query queryId (answers 0).turns false []
          lastError) with
      | .inl addrs => return chooseAddr table addrs
      | .inr lastError =>
        onNet (NetM.tcpClose tcp handle)
        onNet (NetM.removeTcpSocket handle)
        askServers domain query queryId servers (fun i => answers (i + 1)) lastError

def resolveDomain (dnsServers : List Ipv4Addr) (domain : String) (answers : ℕ → ServerAnswers S) :
    PortM S Ipv4Addr := do
  if dnsServers = [] then fail (.network "VPN configuration did not provide DNS servers")
  else
    let queryId := dnsQueryId domain
    let query ← ofResult (dns.buildTcpQuery queryId domain)
    askServers tcp slots dns table domain query queryId dnsServers answers none

def resolveDomainCached (dnsServers : List Ipv4Addr) (cache : DnsCache) (now : ℕ) (domain : String)
    (answers : ℕ → ServerAnswers S) : PortM S (Ipv4Addr × DnsCache) := do
  let key := Text.toAsciiLowercase domain
  match (cache key).filter (now < ·.expiresAt) with
  | some entry => return (entry.addr, cache)
  | none =>
    let addr ← resolveDomain tcp slots dns table dnsServers domain answers
    return (addr, Function.update cache key (some ⟨addr, now + dnsCacheTtl⟩))

end Lookup

/-! ### The runtime -/

section Runtime

variable {S : Type} (tcp : Smoltcp S) (slots : SlotChoice) (dns : DnsCodec) (table : ProxyRouteTable)
  (dnsServers : List Ipv4Addr)

/-- The address of the target of a request, and the cache. -/
def findDestination (visit : Visit S) (request : SocksConnectRequest) (client : ClientSocket)
    (cache : DnsCache) : PortM S (Option Ipv4Addr × DnsCache) := do
  match request.target with
  | .ipv4 addr => return (some addr, cache)
  | .domain domain =>
    match ← result (resolveDomainCached tcp slots dns table dnsServers cache visit.now domain
        visit.servers) with
    | .ok (addr, cache) => return (some addr, cache)
    | .error _ =>
      match resolveDomainDirect domain (visit.answers.systemDns domain) with
      | .ok addr => return (some addr, cache)
      | .error _ =>
        let _ ← onNet (onClient (attempt (writeFailure replyHostUnreachable)) client)
        return (none, cache)

/-- A connection through the tunnel to the destination of a request. -/
def startConnection (visit : Visit S) (client : ClientSocket) (destination : Ipv4Addr) (port : UInt16) :
    PortM S Served := do
  let handle ← addTcpSocket tcp slots visit.slot
  match ← connectTcp handle destination port visit.answers.connectTcp visit.connecting with
  | .error _ =>
    onNet (NetM.removeTcpSocket handle)
    let _ ← onNet (onClient (attempt (writeFailure replyGeneralFailure)) client)
    return .dropped
  | .ok () =>
    let (_, client) ← onNet (onClient (do setOption; setOption; setOption) client)
    return .tunneled (.start client.stream handle)

/-- The body of the loop of `accept_ready_clients`. -/
def serveVisit (visit : Visit S) (cache : DnsCache) : PortM S (Served × DnsCache) := do
  let (_, client) ← onNet (onClient (do setOption; setOption; setOption; setOption) visit.client)
  let (request, client) ← onNet (onClient (attempt readConnectRequest) client)
  match request with
  | .error _ => return (.dropped, cache)
  | .ok request =>
    let (addr, cache) ← findDestination tcp slots dns table dnsServers visit request client cache
    match addr with
    | none => return (.dropped, cache)
    | some addr =>
      if ¬ table.canRoute addr then
        let (started, _) ← onNet (onClient (attempt (startDirectSession visit.answers)) client)
        match started with
        | .ok session => return (.direct session, cache)
        | .error _ => return (.dropped, cache)
      else
        let served ← startConnection tcp slots visit client addr request.port
        return (served, cache)

/-- `accept_ready_clients` on the results of `accept` to come. -/
def acceptVisits : List (Except IoError (Visit S)) → List ProxySession → DnsCache →
    PortM S (List ProxySession × DnsCache)
  | [], sessions, cache => return (sessions, cache)
  | .error err :: _, sessions, cache =>
    if err.kind = .wouldBlock then return (sessions, cache) else fail (.io err)
  | .ok visit :: visits, sessions, cache => do
    let (served, cache) ← serveVisit tcp slots dns table dnsServers visit cache
    match served with
    | .tunneled session => acceptVisits visits (sessions ++ [session]) cache
    | .direct _ | .dropped => acceptVisits visits sessions cache

def mainPass (answers : PassAnswers S) (sessions : List ProxySession) (cache : DnsCache) :
    PortM S (List ProxySession × DnsCache) := do
  let (sessions, cache) ← acceptVisits tcp slots dns table dnsServers answers.visits sessions cache
  ofResult answers.read
  let sessions ← sessions.mapM fun session => onNet (localTurn tcp session)
  onNet (NetM.poll answers.poll)
  let sessions ← sessions.mapM fun session => onNet (tcpTurn tcp session)
  ofResult answers.drain
  let sessions ← onNet (cleanupTurns tcp sessions)
  return (sessions, cache)

/-- The passes of the main loop until a stop is requested. -/
def mainLoop : List (PassAnswers S) → List ProxySession → DnsCache →
    PortM S (List ProxySession × DnsCache)
  | [], sessions, cache => return (sessions, cache)
  | answers :: passes, sessions, cache => do
    let (sessions, cache) ← mainPass tcp slots dns table dnsServers answers sessions cache
    mainLoop passes sessions cache

/-- `run`, with the result of the last `drain_netstack_to_fortinet`. -/
def run (passes : List (PassAnswers S)) (drain : Result Unit) : PortM S Unit := do
  let (sessions, _) ← mainLoop tcp slots dns table dnsServers passes [] fun _ => none
  onNet (closeSessions tcp sessions)
  ofResult drain

end Runtime

/-! ### What the calls leave -/

section Calls

variable {S α : Type} {st : PortStack S} {handle : SocketHandle} {remote : Ipv4Addr} {port : UInt16}
  {socket : S}

theorem onNet_ok {c : NetM S α} {a : α} {ns : ProxyNetStack S} (h : c st.netstack = .ok a ns) :
    onNet c st = .ok a { st with netstack := ns } := by
  unfold onNet View.lift
  change mapState (netView.put st) (c st.netstack) = _
  rw [h]
  rfl

theorem onNet_error {c : NetM S α} {stop : Stop OpenfortivpnError} {ns : ProxyNetStack S}
    (h : c st.netstack = .error stop ns) : onNet c st = .error stop { st with netstack := ns } := by
  unfold onNet View.lift
  change mapState (netView.put st) (c st.netstack) = _
  rw [h]
  rfl

theorem addTcpSocket_eq {tcp : Smoltcp S} {slots : SlotChoice} {n : ℕ}
    (hslot : slots.slot st.netstack.live n = handle) : addTcpSocket tcp slots n st = .ok handle
      (PortStack.noted { st with netstack :=
        ⟨Function.update st.netstack.sockets handle tcp.fresh, handle :: st.netstack.live⟩ } handle none) := by
  unfold addTcpSocket
  rw [bind_ok (onNet_ok (NetM.addTcpSocket_eq hslot))]
  rfl

theorem get_eq : (get : PortM S (PortStack S)) st = .ok st st := rfl

theorem nextPort_eq : nextPort st = .ok st.nextEphemeralPort st.next := rfl

/-- A connected socket has the port that was taken. -/
theorem connectTcp_ok (hlive : handle ∈ st.netstack.live) :
    connectTcp handle remote port (.ok ()) socket st = .ok (.ok ())
      (PortStack.noted { st.next with netstack := st.netstack.put handle socket } handle
        (some ⟨remote, port, st.nextEphemeralPort, st.calls⟩)) := by
  have hcall : onNet (NetM.connectTcp handle (.ok ()) socket) st.next =
      .ok (.ok ()) { st.next with netstack := st.netstack.put handle socket } :=
    onNet_ok (connectTcp_live hlive)
  unfold connectTcp
  rw [bind_ok get_eq, bind_ok nextPort_eq, bind_ok hcall]
  rfl

/-- The port is taken even when the connection fails. -/
theorem connectTcp_error {err : String} (hlive : handle ∈ st.netstack.live) :
    connectTcp handle remote port (.error err) socket st =
      .ok (.error err) { st.next with netstack := st.netstack.put handle socket } := by
  have hcall : onNet (NetM.connectTcp handle (.error err) socket) st.next =
      .ok (.error err) { st.next with netstack := st.netstack.put handle socket } :=
    onNet_ok (connectTcp_live hlive)
  unfold connectTcp
  rw [bind_ok get_eq, bind_ok nextPort_eq, bind_ok hcall]
  rfl

theorem connectTcp_panics {result : Except String Unit} (hdead : handle ∉ st.netstack.live) :
    connectTcp handle remote port result socket st = .error .panicked st.next := by
  have hcall : onNet (NetM.connectTcp handle result socket) st.next = .error .panicked st.next :=
    onNet_error (NetM.onSocket_dead hdead)
  unfold connectTcp
  rw [bind_ok get_eq, bind_ok nextPort_eq, bind_error hcall]

end Calls

end OpenfortivpnRs.Proxy.Ports
