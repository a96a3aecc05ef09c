import OpenfortivpnRs.Proxy.Lookup

/-!
# The main loop on the network stack (`run` of `proxy/runtime.rs`)

The main loop with every call of the network stack, from the clients it accepts to the cleanup.  A
turn of a pump calls the stack with the handle of its session only and adds and removes no socket, so
its calls are one use of the handle.  Direct sessions have no socket of the stack and are left out.
-/

namespace OpenfortivpnRs.Proxy

open Lib PanicM ClientM Socks5

/-! ### Accepting clients -/

/-- An accepted client with what the world answers while it is served.  Of the `answers`, those of the
stack are not asked. -/
structure Visit (S : Type) extends Arrival where
  now : ℕ
  servers : ℕ → ServerAnswers S
  slot : ℕ
  /-- The socket `connect_tcp` leaves. -/
  connecting : S

section Accept

variable {S α : Type}

/-- A part of the program that works on the client. -/
def onClient (c : ClientM α) (client : ClientSocket) : NetM S (α × ClientSocket) :=
  match c client with
  | .ok a client => pure (a, client)
  | .error err _ => fail err

variable (tcp : Smoltcp S) (slots : SlotChoice) (dns : DnsCodec) (table : ProxyRouteTable)
  (dnsServers : List Ipv4Addr)

/-- The address of the target of a request, and the cache. -/
def findDestination (visit : Visit S) (request : SocksConnectRequest) (client : ClientSocket)
    (cache : DnsCache) : NetM S (Option Ipv4Addr × DnsCache) := do
  match request.target with
  | .ipv4 addr => return (some addr, cache)
  | .domain domain =>
    match ← result (resolveDomainCached tcp slots dns table dnsServers cache visit.now domain
        visit.servers) with
    | .ok (addr, cache) => return (some addr, cache)
    | .error _ =>
      match resolveDomainDirect domain (visit.answers.systemDns domain) with
      | .ok addr => return (some addr, cache)
      | .error _ =>
        let _ ← onClient (attempt (writeFailure replyHostUnreachable)) client
        return (none, cache)

/-- A connection through the tunnel. -/
def startConnection (visit : Visit S) (client : ClientSocket) : NetM S Served := do
  let handle ← NetM.addTcpSocket tcp slots visit.slot
  match ← NetM.connectTcp handle visit.answers.connectTcp visit.connecting with
  | .error _ =>
    NetM.removeTcpSocket handle
    let _ ← onClient (attempt (writeFailure replyGeneralFailure)) client
    return .dropped
  | .ok () =>
    let (_, client) ← onClient (do setOption; setOption; setOption) client
    return .tunneled (.start client.stream handle)

/-- The body of the loop of `accept_ready_clients`. -/
def serveVisit (visit : Visit S) (cache : DnsCache) : NetM S (Served × DnsCache) := do
  let (_, client) ← onClient (do setOption; setOption; setOption; setOption) visit.client
  let (request, client) ← onClient (attempt readConnectRequest) client
  match request with
  | .error _ => return (.dropped, cache)
  | .ok request =>
    let (addr, cache) ← findDestination tcp slots dns table dnsServers visit request client cache
    match addr with
    | none => return (.dropped, cache)
    | some addr =>
      if ¬ table.canRoute addr then
        let (started, _) ← onClient (attempt (startDirectSession visit.answers)) client
        match started with
        | .ok session => return (.direct session, cache)
        | .error _ => return (.dropped, cache)
      else
        let served ← startConnection tcp slots visit client
        return (served, cache)

/-- `accept_ready_clients` on the results of `accept` to come. -/
def acceptVisits : List (Except IoError (Visit S)) → List ProxySession → DnsCache →
    NetM S (List ProxySession × DnsCache)
  | [], sessions, cache => return (sessions, cache)
  | .error err :: _, sessions, cache =>
    if err.kind = .wouldBlock then return (sessions, cache) else fail (.io err)
  | .ok visit :: visits, sessions, cache => do
    let (served, cache) ← serveVisit tcp slots dns table dnsServers visit cache
    match served with
    | .tunneled session => acceptVisits visits (sessions ++ [session]) cache
    | .direct _ | .dropped => acceptVisits visits sessions cache

end Accept

/-! ### Pumps and cleanup -/

section Sessions

variable {S : Type} (tcp : Smoltcp S)

/-- The body of the loop of `pump_local_to_tcp`; a session it passes over makes no call. -/
def localTurn (session : ProxySession) : NetM S ProxySession :=
  if session.localClosed ∨ ¬ session.socksReplied then return session
  else NetM.onSocket session.handle fun ns => pumpLocal tcp session ns

/-- The body of the loop of `pump_tcp_to_local`. -/
def tcpTurn (session : ProxySession) : NetM S ProxySession := do
  let turned ← NetM.onSocket session.handle fun ns =>
    match pumpTcp tcp session ns with
    | .ok (session, ns) => ((.ok session : Result ProxySession), ns)
    | .error err => (.error (.io err), ns)
  ofResult turned

/-- `cleanup_sessions`. -/
def cleanupTurns : List ProxySession → NetM S (List ProxySession)
  | [] => return []
  | session :: sessions => do
    let active ← NetM.tcpIsActive tcp session.handle
    let session := noteInactive session active
    if (session.localClosed ∨ session.remoteClosed) ∧ session.toClient = [] ∧ session.toRemote = [] ∧
        ¬ active then
      NetM.removeTcpSocket session.handle
      cleanupTurns sessions
    else
      let sessions ← cleanupTurns sessions
      return session :: sessions

/-- The loop of `run` behind the main loop. -/
def closeSessions : List ProxySession → NetM S Unit
  | [] => return ()
  | session :: sessions => do
    NetM.tcpClose tcp session.handle
    closeSessions sessions

end Sessions

/-! ### The main loop -/

/-- What one pass of the main loop meets: the results of `accept`, of `read_fortinet_packets` and of
`drain_netstack_to_fortinet`, and what the poll does. -/
structure PassAnswers (S : Type) where
  visits : List (Except IoError (Visit S))
  read : Result Unit
  poll : (SocketHandle → S) → SocketHandle → S
  drain : Result Unit

section Loop

variable {S : Type} (tcp : Smoltcp S) (slots : SlotChoice) (dns : DnsCodec) (table : ProxyRouteTable)
  (dnsServers : List Ipv4Addr)

def mainPass (answers : PassAnswers S) (sessions : List ProxySession) (cache : DnsCache) :
    NetM S (List ProxySession × DnsCache) := do
  let (sessions, cache) ← acceptVisits tcp slots dns table dnsServers answers.visits sessions cache
  ofResult answers.read
  let sessions ← sessions.mapM (localTurn tcp)
  NetM.poll answers.poll
  let sessions ← sessions.mapM (tcpTurn tcp)
  ofResult answers.drain
  let sessions ← cleanupTurns tcp sessions
  return (sessions, cache)

/-- The passes of the main loop until a stop is requested. -/
def mainLoop : List (PassAnswers S) → List ProxySession → DnsCache →
    NetM S (List ProxySession × DnsCache)
  | [], sessions, cache => return (sessions, cache)
  | answers :: passes, sessions, cache => do
    let (sessions, cache) ← mainPass tcp slots dns table dnsServers answers sessions cache
    mainLoop passes sessions cache

/-- `run`, with the result of the last `drain_netstack_to_fortinet`. -/
def run (passes : List (PassAnswers S)) (drain : Result Unit) : NetM S Unit := do
  let (sessions, _) ← mainLoop tcp slots dns table dnsServers passes [] fun _ => none
  closeSessions tcp sessions
  ofResult drain

end Loop

end OpenfortivpnRs.Proxy
