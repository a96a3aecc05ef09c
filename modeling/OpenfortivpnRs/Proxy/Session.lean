import Mathlib.Logic.Relation
import OpenfortivpnRs.Proxy.Stream

/-!
# Sessions through the tunnel (`proxy/runtime.rs`, `proxy/netstack.rs`)

A `ProxySession` relays between a client and a TCP socket of the user-space network stack.  The
socket is a parameter (`Smoltcp`): the program only asks it what stands here.  A session carries,
besides the fields of the source, the trace of what was done for it.  `Phases` is one pass of the main
loop up to the cleanup.
-/

namespace OpenfortivpnRs.Proxy

open Relation

/-- The states of a `smoltcp` TCP socket. -/
inductive TcpState
  | closed | listen | synSent | synReceived | established | finWait1 | finWait2 | closeWait
  | closing | lastAck | timeWait
  deriving DecidableEq

namespace TcpState

def isActive : TcpState → Bool
  | closed | listen | timeWait => false
  | _ => true

/-- The handshake is done and the connection is not. -/
def synchronized : TcpState → Bool
  | closed | listen | synSent | synReceived | timeWait => false
  | _ => true

/-- The transmit half is open. -/
def maySend : TcpState → Bool
  | established | closeWait => true
  | _ => false

/-- The receive half is open. -/
def mayRecv : TcpState → Bool
  | established | finWait1 | finWait2 => true
  | _ => false

/-- The state once the transmit half is closed. -/
def close : TcpState → TcpState
  | listen | synSent => closed
  | synReceived | established => finWait1
  | closeWait => lastAck
  | state => state

/-- What packets and time do to the state: a socket that is not active stays so (none listens), and a
connection does not go back to its handshake. -/
structure Next (state state' : TcpState) : Prop where
  inactive : state.isActive = false → state'.isActive = false
  synchronized : state.synchronized = true → state'.isActive = true → state'.synchronized = true

end TcpState

/-- What the program uses of a `smoltcp` TCP socket.  A read that gives bytes takes them out of the
receive buffer. -/
structure Smoltcp (S : Type) where
  /-- A new socket. -/
  fresh : S
  state : S → TcpState
  canSend : S → Bool
  send : S → List UInt8 → Except String ℕ × S
  recv : S → ℕ → Except String (List UInt8) × S
  close : S → S
  /-- The number of bytes in the receive buffer. -/
  buffered : S → ℕ
  recv_buffered : ∀ {s max bytes}, (recv s max).1 = .ok bytes → bytes ≠ [] →
    buffered (recv s max).2 < buffered s

abbrev SocketHandle := ℕ

/-- The sockets of the stack; those that were added and not removed are `live`. -/
structure ProxyNetStack (S : Type) where
  sockets : SocketHandle → S
  live : List SocketHandle

inductive SessionEvent where
  /-- The SOCKS reply was written to the client. -/
  | replied
  | clientRead (result : Except IoError (List UInt8))
  | clientWrite (chunk : List UInt8) (result : Except IoError ℕ)
  | tcpSend (data : List UInt8) (result : Except String ℕ)
  /-- What `tcp_recv` gave, when it gave something. -/
  | tcpRecv (bytes : List UInt8)
  /-- The socket is closed, with `pending` in the queue to it, because the client reached its end
  (`eof`) or something failed. -/
  | tcpClose (eof : Bool) (pending : List UInt8)
  deriving DecidableEq

structure ProxySession where
  client : TcpStream
  handle : SocketHandle
  toRemote : List UInt8
  toClient : List UInt8
  socksReplied : Bool
  localClosed : Bool
  remoteClosed : Bool
  clientToRemoteBytes : ℕ
  remoteToClientBytes : ℕ
  closeReason : Option String
  trace : List SessionEvent
  deriving DecidableEq

/-- The session `accept_ready_clients` makes of a client and its socket. -/
def ProxySession.start (client : TcpStream) (handle : SocketHandle) : ProxySession where
  client := client
  handle := handle
  toRemote := []
  toClient := []
  socksReplied := false
  localClosed := false
  remoteClosed := false
  clientToRemoteBytes := 0
  remoteToClientBytes := 0
  closeReason := none
  trace := []

def ProxySession.record (session : ProxySession) (event : SessionEvent) : ProxySession :=
  { session with trace := session.trace ++ [event] }

@[simp] theorem handle_record (session : ProxySession) (event : SessionEvent) :
    (session.record event).handle = session.handle := rfl

@[simp] theorem toRemote_record (session : ProxySession) (event : SessionEvent) :
    (session.record event).toRemote = session.toRemote := rfl

@[simp] theorem toClient_record (session : ProxySession) (event : SessionEvent) :
    (session.record event).toClient = session.toClient := rfl

@[simp] theorem trace_record (session : ProxySession) (event : SessionEvent) :
    (session.record event).trace = session.trace ++ [event] := rfl

@[simp] theorem socksReplied_record (session : ProxySession) (event : SessionEvent) :
    (session.record event).socksReplied = session.socksReplied := rfl

def ProxySession.markClosed (session : ProxySession) (reason : String) : ProxySession :=
  if session.closeReason.isNone then { session with closeReason := some reason } else session

/-! ### The network stack -/

section NetStack

variable {S : Type} (tcp : Smoltcp S) (netstack : ProxyNetStack S) (handle : SocketHandle)

def tcpState : TcpState := tcp.state (netstack.sockets handle)

def tcpIsEstablished : Bool := tcpState tcp netstack handle = .established

def tcpIsActive : Bool := (tcpState tcp netstack handle).isActive

def tcpCanSend : Bool := tcp.canSend (netstack.sockets handle)

def tcpSend (data : List UInt8) : Except String ℕ × ProxyNetStack S :=
  let (result, socket) := tcp.send (netstack.sockets handle) data
  (result, { netstack with sockets := Function.update netstack.sockets handle socket })

def tcpRecv (max : ℕ) : Except String (List UInt8) × ProxyNetStack S :=
  let (result, socket) := tcp.recv (netstack.sockets handle) max
  (result, { netstack with sockets := Function.update netstack.sockets handle socket })

def tcpClose : ProxyNetStack S :=
  { netstack with
    sockets := Function.update netstack.sockets handle (tcp.close (netstack.sockets handle)) }

def removeTcpSocket : ProxyNetStack S := { netstack with live := netstack.live.erase handle }

end NetStack

/-! ### The SOCKS reply -/

/-- `write_all`. -/
def writeAll (stream : TcpStream) (bytes : List UInt8) : Except IoError Unit × TcpStream :=
  if bytes = [] then (.ok (), stream)
  else
    match stream with
    | ⟨_, []⟩ => (.error wouldBlock, stream)
    | ⟨reads, .error err :: writes⟩ =>
      if err.kind = .interrupted then writeAll ⟨reads, writes⟩ bytes else (.error err, ⟨reads, writes⟩)
    | ⟨reads, .ok n :: writes⟩ =>
      if n = 0 then (.error ⟨.writeZero, "failed to write whole buffer"⟩, ⟨reads, writes⟩)
      else writeAll ⟨reads, writes⟩ (bytes.drop n)
termination_by stream.writes.length

/-- `socks5::write_success` for the address `0.0.0.0` and port 0. -/
def writeSuccess (client : TcpStream) : Except IoError Unit × TcpStream :=
  writeAll client [5, 0, 0, 1, 0, 0, 0, 0, 0, 0]

/-! ### From the client to the socket -/

section Pumps

variable {S : Type} (tcp : Smoltcp S)

/-- The first loop of `pump_local_to_tcp`: what is queued is sent. -/
def sendQueued (session : ProxySession) (netstack : ProxyNetStack S) : ProxySession × ProxyNetStack S :=
  if _hgo : tcpCanSend tcp netstack session.handle ∧ session.toRemote ≠ [] then
    let chunk := (drainChunk session.toRemote ioBufferSize).1
    let rest := (drainChunk session.toRemote ioBufferSize).2
    let sent := tcpSend tcp netstack session.handle chunk
    let session' := session.record (.tcpSend chunk sent.1)
    match sent.1 with
    | .ok written =>
      if written < chunk.length then
        ({ session' with
            clientToRemoteBytes := session.clientToRemoteBytes + written
            toRemote := pushFrontBytes rest (chunk.drop written) }, sent.2)
      else
        sendQueued
          { session' with
            clientToRemoteBytes := session.clientToRemoteBytes + written
            toRemote := rest } sent.2
    | .error err =>
      (({ session' with toRemote := rest }.markClosed ("proxy TCP send failed: " ++ err)).record
          (.tcpClose false rest),
        tcpClose tcp sent.2 session.handle)
  else (session, netstack)
termination_by session.toRemote.length
decreasing_by
  have hpos := List.length_pos_of_ne_nil _hgo.2
  simp only [drainChunk, List.length_drop, ioBufferSize]
  omega

/-- The second loop of `pump_local_to_tcp`: what the client sends is sent on. -/
def sendClient (session : ProxySession) (netstack : ProxyNetStack S) : ProxySession × ProxyNetStack S :=
  if tcpCanSend tcp netstack session.handle then
    let read := session.client.read ioBufferSize
    let session' := { session with client := read.2 }.record (.clientRead read.1)
    match _hread : read.1 with
    | .ok bytes =>
      if bytes = [] then
        (({ session' with localClosed := true }.markClosed "client closed connection").record
            (.tcpClose true session.toRemote),
          tcpClose tcp netstack session.handle)
      else
        let sent := tcpSend tcp netstack session.handle bytes
        let session'' := session'.record (.tcpSend bytes sent.1)
        match sent.1 with
        | .ok written =>
          if written < bytes.length then
            ({ session'' with
                clientToRemoteBytes := session.clientToRemoteBytes + written
                toRemote := session.toRemote ++ bytes.drop written }, sent.2)
          else
            sendClient
              { session'' with
                clientToRemoteBytes := session.clientToRemoteBytes + written } sent.2
        | .error err =>
          ((session''.markClosed ("proxy TCP send failed: " ++ err)).record
              (.tcpClose false session.toRemote),
            tcpClose tcp sent.2 session.handle)
    | .error err =>
      if err.kind = .wouldBlock then (session', netstack)
      else
        ((session'.markClosed ("client read failed: " ++ err.text)).record
            (.tcpClose false session.toRemote),
          tcpClose tcp netstack session.handle)
  else (session, netstack)
termination_by session.client.reads.length
decreasing_by exact TcpStream.read_reads _hread

/-- The body of the loop of `pump_local_to_tcp`. -/
def pumpLocal (session : ProxySession) (netstack : ProxyNetStack S) : ProxySession × ProxyNetStack S :=
  if session.localClosed ∨ ¬ session.socksReplied then (session, netstack)
  else
    let (session, netstack) := sendQueued tcp session netstack
    sendClient tcp session netstack

def pumpLocalToTcp : List ProxySession → ProxyNetStack S → List ProxySession × ProxyNetStack S
  | [], netstack => ([], netstack)
  | session :: sessions, netstack =>
    let (session, netstack) := pumpLocal tcp session netstack
    let (sessions, netstack) := pumpLocalToTcp sessions netstack
    (session :: sessions, netstack)

/-! ### From the socket to the client -/

/-- The loop of `pump_tcp_to_local` that receives. -/
def receive (session : ProxySession) (netstack : ProxyNetStack S) : ProxySession × ProxyNetStack S :=
  let received := tcpRecv tcp netstack session.handle ioBufferSize
  match _hrecv : received.1 with
  | .ok bytes =>
    if bytes = [] then (session, received.2)
    else
      receive
        { session.record (.tcpRecv bytes) with
          remoteToClientBytes := session.remoteToClientBytes + bytes.length
          toClient := session.toClient ++ bytes } received.2
  | .error _ => (session, received.2)
termination_by tcp.buffered (netstack.sockets session.handle)
decreasing_by
  simp only [tcpRecv, handle_record, Function.update_self]
  exact tcp.recv_buffered _hrecv (by assumption)

/-- The loop of `pump_tcp_to_local` that writes to the client. -/
def deliver (session : ProxySession) (netstack : ProxyNetStack S) : ProxySession × ProxyNetStack S :=
  if _hne : session.toClient = [] then (session, netstack)
  else
    let chunk := (drainChunk session.toClient ioBufferSize).1
    let rest := (drainChunk session.toClient ioBufferSize).2
    let written := session.client.write chunk
    let session' := { session with client := written.2 }.record (.clientWrite chunk written.1)
    match written.1 with
    | .ok n =>
      if n = 0 then
        (({ session' with toClient := pushFrontBytes rest chunk }.markClosed
            "client write returned zero").record (.tcpClose false session.toRemote),
          tcpClose tcp netstack session.handle)
      else if n < chunk.length then
        ({ session' with toClient := pushFrontBytes rest (chunk.drop n) }, netstack)
      else deliver { session' with toClient := rest } netstack
    | .error err =>
      if err.kind = .wouldBlock then ({ session' with toClient := pushFrontBytes rest chunk }, netstack)
      else
        (({ session' with toClient := rest }.markClosed ("client write failed: " ++ err.text)).record
            (.tcpClose false session.toRemote),
          tcpClose tcp netstack session.handle)
termination_by session.toClient.length
decreasing_by
  have hpos := List.length_pos_of_ne_nil _hne
  simp only [drainChunk, List.length_drop, ioBufferSize]
  omega

/-- The SOCKS reply to the client, once its socket is established. -/
def reply (session : ProxySession) (netstack : ProxyNetStack S) : Except IoError ProxySession :=
  if ¬ session.socksReplied ∧ tcpIsEstablished tcp netstack session.handle then
    match writeSuccess session.client with
    | (.ok (), client) =>
      .ok ({ session with client := client, socksReplied := true }.record .replied)
    | (.error err, _) => .error err
  else .ok session

/-- The body of the loop of `pump_tcp_to_local`. -/
def pumpTcp (session : ProxySession) (netstack : ProxyNetStack S) :
    Except IoError (ProxySession × ProxyNetStack S) :=
  match reply tcp session netstack with
  | .error err => .error err
  | .ok session =>
    let (session, netstack) := receive tcp session netstack
    .ok (deliver tcp session netstack)

def pumpTcpToLocal : List ProxySession → ProxyNetStack S →
    Except IoError (List ProxySession × ProxyNetStack S)
  | [], netstack => .ok ([], netstack)
  | session :: sessions, netstack =>
    match pumpTcp tcp session netstack with
    | .error err => .error err
    | .ok (session, netstack) =>
      match pumpTcpToLocal sessions netstack with
      | .error err => .error err
      | .ok (sessions, netstack) => .ok (session :: sessions, netstack)

/-! ### Cleanup -/

/-- What the loop of `cleanup_sessions` notes of a session whose socket is no longer active. -/
def noteInactive (session : ProxySession) (active : Bool) : ProxySession :=
  if ¬ active ∧ ¬ session.remoteClosed then
    { session with remoteClosed := true }.markClosed "remote TCP closed"
  else session

def cleanupSessions : List ProxySession → ProxyNetStack S → List ProxySession × ProxyNetStack S
  | [], netstack => ([], netstack)
  | session :: sessions, netstack =>
    let active := tcpIsActive tcp netstack session.handle
    let session := noteInactive session active
    if (session.localClosed ∨ session.remoteClosed) ∧ session.toClient = [] ∧ session.toRemote = [] ∧
        ¬ active then
      cleanupSessions sessions (removeTcpSocket netstack session.handle)
    else
      let (sessions, netstack) := cleanupSessions sessions netstack
      (session :: sessions, netstack)

end Pumps

/-! ### The main loop -/

structure Runtime (S : Type) where
  sessions : List ProxySession
  netstack : ProxyNetStack S

def Runtime.handles {S : Type} (rt : Runtime S) : List SocketHandle := rt.sessions.map (·.handle)

section Loop

variable {S : Type} (tcp : Smoltcp S) (cond : Runtime S → Runtime S → Prop)

/-- `poll`: packets and time change the sockets, under a condition on the states before and after. -/
inductive Polled (rt : Runtime S) : Runtime S → Prop
  | mk {sockets : SocketHandle → S}
      (hnext : ∀ h ∈ rt.netstack.live, (tcpState tcp rt.netstack h).Next (tcp.state (sockets h)))
      (hcond : cond rt { rt with netstack := { rt.netstack with sockets := sockets } }) :
      Polled rt { rt with netstack := { rt.netstack with sockets := sockets } }

/-- What `accept_ready_clients` does to the sessions and the sockets, one thing at a time: sockets for
name lookups and connections are added, used and removed, the stack is polled while a lookup waits,
and a client whose connection was started becomes a session. -/
inductive AcceptStep (rt : Runtime S) : Runtime S → Prop
  | poll {rt'} (h : Polled tcp cond rt rt') : AcceptStep rt rt'
  | addSocket (h : SocketHandle) (hnew : h ∉ rt.netstack.live) :
      AcceptStep rt { rt with netstack :=
        { sockets := Function.update rt.netstack.sockets h tcp.fresh, live := h :: rt.netstack.live } }
  | useSocket (h : SocketHandle) (socket : S) (hfree : h ∉ rt.handles) :
      AcceptStep rt { rt with netstack :=
        { rt.netstack with sockets := Function.update rt.netstack.sockets h socket } }
  | removeSocket (h : SocketHandle) (hfree : h ∉ rt.handles) :
      AcceptStep rt { rt with netstack := removeTcpSocket rt.netstack h }
  | session (client : TcpStream) (h : SocketHandle) (hlive : h ∈ rt.netstack.live)
      (hfree : h ∉ rt.handles) :
      AcceptStep rt { rt with sessions := rt.sessions ++ [.start client h] }

/-- One pass of the main loop up to `cleanup_sessions`, every poll of it under the condition. -/
inductive Phases (rt : Runtime S) : Runtime S → Prop
  | mk {accepted pumped polled delivered : Runtime S}
      (haccept : ReflTransGen (AcceptStep tcp cond) rt accepted)
      (hpump : pumpLocalToTcp tcp accepted.sessions accepted.netstack = (pumped.sessions, pumped.netstack))
      (hpoll : Polled tcp cond pumped polled)
      (hdeliver : pumpTcpToLocal tcp polled.sessions polled.netstack =
        .ok (delivered.sessions, delivered.netstack)) : Phases rt delivered

/-- `cleanup_sessions`. -/
def Runtime.cleanup (rt : Runtime S) : Runtime S :=
  let (sessions, netstack) := cleanupSessions tcp rt.sessions rt.netstack
  ⟨sessions, netstack⟩

/-- One pass of the main loop. -/
def Pass (rt rt' : Runtime S) : Prop :=
  ∃ delivered, Phases tcp cond rt delivered ∧ rt' = delivered.cleanup tcp

/-- The runtime before its first pass. -/
def Runtime.start (sockets : SocketHandle → S) : Runtime S := ⟨[], ⟨sockets, []⟩⟩

/-- The states at the top of the main loop. -/
def Reachable (sockets : SocketHandle → S) : Runtime S → Prop :=
  ReflTransGen (Pass tcp cond) (Runtime.start sockets)

end Loop

end OpenfortivpnRs.Proxy
