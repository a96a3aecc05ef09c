import OpenfortivpnRs.Proxy.Direct
import OpenfortivpnRs.Proxy.RouteTable
import OpenfortivpnRs.Proxy.Socks5

/-!
# Accepting clients (`proxy/runtime.rs`)

`accept_ready_clients` serves one client after the other: the handshake, the name of its target, and a
session of either kind.  What the rest of the world answers while a client is served is anything
(`Answers`).
-/

namespace OpenfortivpnRs.Proxy

open ClientM Socks5 Lib

/-- A `std::net::SocketAddr`; of an IPv6 address only what it displays. -/
inductive SocketAddr
  | v4 (addr : Ipv4Addr)
  | v6 (display : String)
  deriving DecidableEq, Repr

/-- A remote that a direct connection reached, and the results of its socket options. -/
structure RemoteSocket where
  stream : TcpStream
  options : List (Except IoError Unit)
  deriving DecidableEq

/-- What the world answers while a client is served. -/
structure Answers where
  /-- `resolve_domain_cached`, the name servers of the VPN. -/
  vpnDns : String → Result Ipv4Addr
  /-- `to_socket_addrs`, the name servers of the system. -/
  systemDns : String → Except IoError (List SocketAddr)
  /-- `TcpStream::connect_timeout`. -/
  connectDirect : Except IoError RemoteSocket
  /-- The handle `add_tcp_socket` gives. -/
  handle : SocketHandle
  connectTcp : Except String Unit

/-- What a client has become. -/
inductive Served
  | dropped
  | direct (session : DirectProxySession)
  | tunneled (session : ProxySession)
  deriving DecidableEq

def resolveDomainDirect (domain : String) (addrs : Except IoError (List SocketAddr)) :
    Result Ipv4Addr :=
  match addrs with
  | .error err => .error (.io err)
  | .ok addrs =>
    match addrs.findSome? fun | .v4 addr => some addr | .v6 _ => none with
    | some addr => .ok addr
    | none =>
      match addrs.getLast? with
      | some (.v6 addr) =>
        .error (.network ("resolved " ++ addr ++ ", but proxy mode supports IPv4 only"))
      | _ => .error (.network ("system DNS returned no IPv4 address for " ++ domain))

section Client

variable (answers : Answers)

/-- The address of the target of a request; a name that does not resolve is answered. -/
def destination (request : SocksConnectRequest) : ClientM (Option Ipv4Addr) := do
  match request.target with
  | .ipv4 addr => return some addr
  | .domain domain =>
    match answers.vpnDns domain with
    | .ok addr => return some addr
    | .error _ =>
      match resolveDomainDirect domain (answers.systemDns domain) with
      | .ok addr => return some addr
      | .error _ =>
        let _ ← attempt (writeFailure replyHostUnreachable)
        return none

/-- The first of the three options of the remote that fails. -/
def remoteFailure (remote : RemoteSocket) : Option IoError :=
  (remote.options.take 3).findSome? fun | .error err => some err | .ok () => none

def startDirectSession : ClientM DirectProxySession := do
  match answers.connectDirect with
  | .error err =>
    let _ ← attempt (writeFailure replyHostUnreachable)
    throw (.io err)
  | .ok remote =>
    Socks5.writeSuccess .unspecified 0
    setOption
    setOption
    setOption
    match remoteFailure remote with
    | some err => throw (.io err)
    | none =>
      let client ← get
      return .start client.stream remote.stream

/-- The part of `accept_ready_clients` behind the handshake. -/
def serveRequest (table : ProxyRouteTable) (request : SocksConnectRequest) : ClientM Served := do
  match ← destination answers request with
  | none => return .dropped
  | some addr =>
    if ¬ table.canRoute addr then
      match ← attempt (startDirectSession answers) with
      | .ok session => return .direct session
      | .error _ => return .dropped
    else
      match answers.connectTcp with
      | .error _ =>
        let _ ← attempt (writeFailure replyGeneralFailure)
        return .dropped
      | .ok () =>
        setOption
        setOption
        setOption
        let client ← get
        return .tunneled (.start client.stream answers.handle)

/-- The body of the loop of `accept_ready_clients` for an accepted client.  An error ends the loop and
the program. -/
def serveClient (table : ProxyRouteTable) : ClientM Served := do
  setOption
  setOption
  setOption
  setOption
  match ← attempt readConnectRequest with
  | .error _ => return .dropped
  | .ok request => serveRequest answers table request

end Client

/-- An accepted client and what the world answers while it is served. -/
structure Arrival where
  client : ClientSocket
  answers : Answers

/-- `accept_ready_clients` on the results of `accept` to come (where none is left, it would block):
the sessions. -/
def acceptReadyClients (table : ProxyRouteTable) : List (Except IoError Arrival) →
    List ProxySession → List DirectProxySession → Result (List ProxySession × List DirectProxySession)
  | [], sessions, directSessions => .ok (sessions, directSessions)
  | .error err :: _, sessions, directSessions =>
    if err.kind = .wouldBlock then .ok (sessions, directSessions) else .error (.io err)
  | .ok arrival :: arrivals, sessions, directSessions =>
    match serveClient arrival.answers table arrival.client with
    | .error err _ => .error err
    | .ok .dropped _ => acceptReadyClients table arrivals sessions directSessions
    | .ok (.direct session) _ =>
      acceptReadyClients table arrivals sessions (directSessions ++ [session])
    | .ok (.tunneled session) _ =>
      acceptReadyClients table arrivals (sessions ++ [session]) directSessions

end OpenfortivpnRs.Proxy
