import OpenfortivpnRs.Lib.Panics
import OpenfortivpnRs.Proxy.Accept

/-!
# Sockets and name lookups (`proxy/netstack.rs`, `resolve_domain` of `proxy/runtime.rs`)

The calls of the network stack with the panic of `smoltcp`: a handle that is not live must not be
used.  A lookup asks one name server of the VPN after the other over a socket of its own, and reads
and writes the tunnel while it waits.
-/

namespace OpenfortivpnRs.Proxy

open Lib PanicM

/-- How `SocketSet::add` chooses a handle: fresh or removed before, so not live. -/
structure SlotChoice where
  slot : List SocketHandle → ℕ → SocketHandle
  slot_free : ∀ live n, slot live n ∉ live

/-- A part of the program that works on the network stack. -/
abbrev NetM (S α : Type) : Type := PanicM OpenfortivpnError (ProxyNetStack S) α

namespace NetM

variable {S α : Type}

/-- Calls with one handle, which must be live. -/
def onSocket (handle : SocketHandle) (f : ProxyNetStack S → α × ProxyNetStack S) : NetM S α := fun ns =>
  if handle ∈ ns.live then
    let (a, ns) := f ns
    .ok a ns
  else .error .panicked ns

def addTcpSocket (tcp : Smoltcp S) (slots : SlotChoice) (n : ℕ) : NetM S SocketHandle := fun ns =>
  let handle := slots.slot ns.live n
  .ok handle { sockets := Function.update ns.sockets handle tcp.fresh, live := handle :: ns.live }

/-- `connect_tcp`, with its result and what it makes of the socket. -/
def connectTcp (handle : SocketHandle) (result : Except String Unit) (socket : S) :
    NetM S (Except String Unit) :=
  onSocket handle fun ns => (result, { ns with sockets := Function.update ns.sockets handle socket })

/-- `poll`: packets and time change the sockets. -/
def poll (change : (SocketHandle → S) → SocketHandle → S) : NetM S Unit := fun ns =>
  .ok () { ns with sockets := change ns.sockets }

section Calls

variable (tcp : Smoltcp S) (handle : SocketHandle)

def tcpIsEstablished : NetM S Bool :=
  onSocket handle fun ns => (Proxy.tcpIsEstablished tcp ns handle, ns)

def tcpIsActive : NetM S Bool := onSocket handle fun ns => (Proxy.tcpIsActive tcp ns handle, ns)

def tcpSend (data : List UInt8) : NetM S (Except String ℕ) :=
  onSocket handle fun ns => Proxy.tcpSend tcp ns handle data

def tcpRecv (max : ℕ) : NetM S (Except String (List UInt8)) :=
  onSocket handle fun ns => Proxy.tcpRecv tcp ns handle max

def tcpClose : NetM S Unit := onSocket handle fun ns => ((), Proxy.tcpClose tcp ns handle)

end Calls

def removeTcpSocket (handle : SocketHandle) : NetM S Unit :=
  onSocket handle fun ns => ((), Proxy.removeTcpSocket ns handle)

section Runs

variable {handle : SocketHandle} {f : ProxyNetStack S → α × ProxyNetStack S} {ns : ProxyNetStack S}

theorem onSocket_live (hlive : handle ∈ ns.live) : onSocket handle f ns = .ok (f ns).1 (f ns).2 :=
  if_pos hlive

theorem onSocket_dead (hdead : handle ∉ ns.live) : onSocket handle f ns = .error .panicked ns :=
  if_neg hdead

theorem removeTcpSocket_live (hlive : handle ∈ ns.live) :
    removeTcpSocket handle ns = .ok () (Proxy.removeTcpSocket ns handle) := onSocket_live hlive

theorem addTcpSocket_eq {tcp : Smoltcp S} {slots : SlotChoice} {n : ℕ}
    (hslot : slots.slot ns.live n = handle) : addTcpSocket tcp slots n ns = .ok handle
      ⟨Function.update ns.sockets handle tcp.fresh, handle :: ns.live⟩ := by
  rw [← hslot]
  rfl

end Runs

end NetM

/-! ### `resolve_domain` -/

/-- The functions of `proxy/dns.rs` a lookup uses. -/
structure DnsCodec where
  buildTcpQuery : UInt16 → String → Result (List UInt8)
  parseTcpResponse : List UInt8 → UInt16 → Result (List Ipv4Addr)

/-- What a turn of the loop over one server meets: the results of `read_fortinet_packets` and
`drain_netstack_to_fortinet`, and what the poll between them does. -/
structure LookupTurn (S : Type) where
  read : Result Unit
  poll : (SocketHandle → S) → SocketHandle → S
  drain : Result Unit

/-- What a lookup meets with one server: the choice of the handle, the result of `connect_tcp` with
the socket it leaves, and the turns before the deadline. -/
structure ServerAnswers (S : Type) where
  slot : ℕ
  connect : Except String Unit
  connecting : S
  turns : List (LookupTurn S)

def dnsQueryId (domain : String) : UInt16 :=
  (Text.asBytes domain).foldl (fun acc byte => (acc <<< 5 ||| acc >>> 11) ^^^ byte.toUInt16) 0x4f56

section Lookup

open NetM

variable {S : Type} (tcp : Smoltcp S) (slots : SlotChoice) (dns : DnsCodec) (table : ProxyRouteTable)

/-- The query is sent once the socket is established; an error ends the loop over the server. -/
def sendQuery (server : Ipv4Addr) (handle : SocketHandle) (query : List UInt8) (sent : Bool) :
    NetM S (Except OpenfortivpnError Bool) := do
  let established ← NetM.tcpIsEstablished tcp handle
  if established ∧ ¬ sent then
    match ← NetM.tcpSend tcp handle query with
    | .ok written =>
      if written = query.length then return .ok true
      else return .error (.network "partial DNS query write")
    | .error err =>
      return .error (.network ("failed to send DNS query to " ++ server.display ++ ": " ++ err))
  else return .ok sent

/-- What a turn finds of the response: addresses, an error, or only the bytes so far. -/
inductive Received
  | addrs (addrs : List Ipv4Addr)
  | failed (err : OpenfortivpnError)
  | bytes (response : List UInt8)

def receiveResponse (handle : SocketHandle) (queryId : UInt16) (sent : Bool) (response : List UInt8) :
    NetM S Received := do
  if sent then
    match ← NetM.tcpRecv tcp handle ioBufferSize with
    | .ok bytes =>
      if bytes = [] then return .bytes response
      else
        match dns.parseTcpResponse (response ++ bytes) queryId with
        | .ok addrs => if addrs ≠ [] then return .addrs addrs else return .bytes (response ++ bytes)
        | .error err => return .failed err
    | .error _ => return .bytes response
  else return .bytes response

/-- The `while` loop over one server: the addresses it answers, its socket removed, or the last error
when it ends without. -/
def askServer (server : Ipv4Addr) (handle : SocketHandle) (query : List UInt8) (queryId : UInt16) :
    List (LookupTurn S) → Bool → List UInt8 → Option OpenfortivpnError →
      NetM S (List Ipv4Addr ⊕ Option OpenfortivpnError)
  | [], _, _, lastError => return .inr lastError
  | turn :: turns, sent, response, lastError => do
    ofResult turn.read
    poll turn.poll
    match ← sendQuery tcp server handle query sent with
    | .error err => return .inr (some err)
    | .ok sent =>
      ofResult turn.drain
      match ← receiveResponse tcp dns handle queryId sent response with
      | .addrs addrs =>
        NetM.tcpClose tcp handle
        NetM.removeTcpSocket handle
        return .inl addrs
      | .failed err => return .inr (some err)
      | .bytes response =>
        let active ← NetM.tcpIsActive tcp handle
        if ¬ active ∧ sent then return .inr lastError
        else askServer server handle query queryId turns sent response lastError

/-- The first address the tunnel routes, or else the first one. -/
def chooseAddr (addrs : List Ipv4Addr) : Ipv4Addr :=
  (addrs.find? (table.canRoute ·)).getD (addrs.headD .unspecified)

/-- The loop over the servers. -/
def askServers (domain : String) (query : List UInt8) (queryId : UInt16) :
    List Ipv4Addr → (ℕ → ServerAnswers S) → Option OpenfortivpnError → NetM S Ipv4Addr
  | [], _, lastError =>
    fail (lastError.getD (.network ("timed out resolving " ++ domain ++ " via VPN DNS")))
  | server :: servers, answers, lastError => do
    let handle ← addTcpSocket tcp slots (answers 0).slot
    match ← connectTcp handle (answers 0).connect (answers 0).connecting with
    | .error err =>
      NetM.removeTcpSocket handle
      askServers domain query queryId servers (fun i => answers (i + 1)) (some
        (.network ("failed to connect to DNS server " ++ server.display ++ ": " ++ err)))
    | .ok () =>
      match ← askServer tcp dns server handle query queryId (answers 0).turns false [] lastError with
      | .inl addrs => return chooseAddr table addrs
      | .inr lastError =>
        NetM.tcpClose tcp handle
        NetM.removeTcpSocket handle
        askServers domain query queryId servers (fun i => answers (i + 1)) lastError

def resolveDomain (dnsServers : List Ipv4Addr) (domain : String) (answers : ℕ → ServerAnswers S) :
    NetM S Ipv4Addr := do
  if dnsServers = [] then fail (.network "VPN configuration did not provide DNS servers")
  else
    let queryId := dnsQueryId domain
    let query ← ofResult (dns.buildTcpQuery queryId domain)
    askServers tcp slots dns table domain query queryId dnsServers answers none

/-! ### The cache -/

/-- Times are in milliseconds. -/
structure DnsCacheEntry where
  addr : Ipv4Addr
  expiresAt : ℕ

abbrev DnsCache := String → Option DnsCacheEntry

def dnsCacheTtl : ℕ := 300 * 1000

def resolveDomainCached (dnsServers : List Ipv4Addr) (cache : DnsCache) (now : ℕ) (domain : String)
    (answers : ℕ → ServerAnswers S) : NetM S (Ipv4Addr × DnsCache) := do
  let key := Text.toAsciiLowercase domain
  match (cache key).filter (now < ·.expiresAt) with
  | some entry => return (entry.addr, cache)
  | none =>
    let addr ← resolveDomain tcp slots dns table dnsServers domain answers
    return (addr, Function.update cache key (some ⟨addr, now + dnsCacheTtl⟩))

end Lookup

end OpenfortivpnRs.Proxy
