import OpenfortivpnRs.Proxy.Cleanup

/-!
# Dead sessions

A session is removed once its socket is gone and its client has everything, provided nothing waited
for the socket when it went (`no_dead_session`); a reset in the middle of an upload is enough for one
to be kept (`dead_session_kept`).
-/

namespace OpenfortivpnRs.Proxy

open Relation

/-! ### Sockets with buffers -/

/-- A socket with the room left in its transmit buffer and the bytes in its receive buffer. -/
structure TcpSocket where
  state : TcpState
  room : ℕ
  received : List UInt8
  deriving DecidableEq

def defaultTcpBufferSize : ℕ := 256 * 1024

/-- The transmit half is open; the receive half is not asked for more than it has. -/
def tcpSockets : Smoltcp TcpSocket where
  fresh := ⟨.closed, defaultTcpBufferSize, []⟩
  state := TcpSocket.state
  canSend socket := socket.state.maySend && socket.room ≠ 0
  send socket data :=
    if socket.state.maySend then
      (.ok (min data.length socket.room), { socket with room := socket.room - data.length })
    else (.error "InvalidState", socket)
  recv socket max :=
    if socket.received = [] ∧ ¬ socket.state.mayRecv then (.error "InvalidState", socket)
    else (.ok (socket.received.take max), { socket with received := socket.received.drop max })
  close socket := { socket with state := socket.state.close }
  buffered socket := socket.received.length
  recv_buffered := by
    intro socket max bytes hok hne
    split at hok
    · cases hok
    · rename_i hopen
      cases hok
      rw [if_neg hopen]
      have hpos := List.length_pos_of_ne_nil hne
      simp only [List.length_take, List.length_drop] at hpos ⊢
      omega

theorem tcpSockets_contract : tcpSockets.Contract where
  maySend h := (Bool.and_eq_true_iff.mp h).1
  state_send socket data := by
    simp only [tcpSockets]
    split <;> rfl
  state_recv socket max := by
    simp only [tcpSockets]
    split <;> rfl
  state_close _ := rfl

/-- The runtime once it has accepted a first client, and its connection was started. -/
def connecting (client : TcpStream) : Runtime TcpSocket where
  sessions := [.start client 0]
  netstack := ⟨Function.update (Function.update (fun _ => tcpSockets.fresh) 0 tcpSockets.fresh) 0
    ⟨.synSent, defaultTcpBufferSize, []⟩, [0]⟩

theorem acceptSteps_connecting (cond : Runtime TcpSocket → Runtime TcpSocket → Prop)
    (client : TcpStream) :
    ReflTransGen (AcceptStep tcpSockets cond) (.start fun _ => tcpSockets.fresh) (connecting client) := by
  have hadd : AcceptStep tcpSockets cond (.start fun _ => tcpSockets.fresh) _ := .addSocket 0 (by decide)
  have huse := ((ReflTransGen.single hadd).tail
    (.useSocket 0 ⟨.synSent, defaultTcpBufferSize, []⟩ List.not_mem_nil))
  exact huse.tail (.session client 0 (by decide) List.not_mem_nil)

theorem tcpRecv_empty {ns : ProxyNetStack TcpSocket} {h : SocketHandle}
    (hempty : (ns.sockets h).received = []) (max : ℕ) :
    (tcpRecv tcpSockets ns h max).2 = ns ∧
      ∀ bytes, (tcpRecv tcpSockets ns h max).1 = .ok bytes → bytes = [] := by
  have hsocket : (tcpSockets.recv (ns.sockets h) max).2 = ns.sockets h ∧
      ∀ bytes, (tcpSockets.recv (ns.sockets h) max).1 = .ok bytes → bytes = [] := by
    generalize ns.sockets h = socket at hempty ⊢
    obtain ⟨state, room, received⟩ := socket
    subst hempty
    cases hmay : state.mayRecv <;> simp [tcpSockets, hmay]
  refine ⟨?_, hsocket.2⟩
  unfold tcpRecv
  simp only [hsocket.1, Function.update_eq_self]

/-- Where nothing was received and nothing waits for the client, `pump_tcp_to_local` does no more than
reply. -/
theorem pumpTcp_idle {session session' : ProxySession} {ns : ProxyNetStack TcpSocket}
    (hreply : reply tcpSockets session ns = .ok session')
    (hempty : (ns.sockets session'.handle).received = []) (hq : session'.toClient = []) :
    pumpTcp tcpSockets session ns = .ok (session', ns) := by
  obtain ⟨hsame, hnone⟩ := tcpRecv_empty hempty ioBufferSize
  have hreceive : receive tcpSockets session' ns = (session', ns) := by
    rw [receive]
    split
    · rename_i bytes hok
      rw [if_pos (hnone bytes hok), hsame]
    · rw [hsame]
  have hdeliver : deliver tcpSockets session' ns = (session', ns) := by
    rw [deliver, dif_pos hq]
  unfold pumpTcp
  simp only [hreply, hreceive, hdeliver]

/-- A client that sends nothing, and the state after its connection was refused. -/
def silentClient : TcpStream := ⟨[], []⟩

def refused : Runtime TcpSocket :=
  { connecting silentClient with netstack := ⟨fun _ => ⟨.closed, defaultTcpBufferSize, []⟩, [0]⟩ }

theorem phases_refused :
    Phases tcpSockets (NoneStranded tcpSockets) (.start fun _ => tcpSockets.fresh) refused := by
  have hpump : pumpLocalToTcp tcpSockets (connecting silentClient).sessions
      (connecting silentClient).netstack =
        ((connecting silentClient).sessions, (connecting silentClient).netstack) := rfl
  have hpoll : Polled tcpSockets (NoneStranded tcpSockets) (connecting silentClient) refused := by
    refine .mk (fun h hh => ?_) (fun session hs hq => ?_)
    · rw [List.mem_singleton.mp hh]
      exact ⟨by decide, by decide⟩
    · rw [List.mem_singleton.mp hs] at hq
      exact absurd rfl hq
  have hdeliver : pumpTcpToLocal tcpSockets refused.sessions refused.netstack =
      .ok (refused.sessions, refused.netstack) := by
    have hidle : pumpTcp tcpSockets (.start silentClient 0) refused.netstack =
        .ok (.start silentClient 0, refused.netstack) := pumpTcp_idle rfl rfl rfl
    change pumpTcpToLocal tcpSockets [.start silentClient 0] refused.netstack = _
    simp only [pumpTcpToLocal, hidle]
    rfl
  exact .mk (acceptSteps_connecting _ silentClient) hpump hpoll hdeliver

/-- A read of the client is sent as far as the socket has room. -/
theorem sendClient_read {chunk : List UInt8} {reads : List (Except IoError (List UInt8))}
    {session : ProxySession} {ns : ProxyNetStack TcpSocket} {room : ℕ} {received : List UInt8}
    (hne : chunk ≠ []) (hmax : chunk.length ≤ ioBufferSize)
    (hreads : session.client.reads = .ok chunk :: reads)
    (hsocket : ns.sockets session.handle = ⟨.established, room, received⟩) (hroom : room ≠ 0) :
    let sent : ProxySession := { session with
      client := ⟨reads, session.client.writes⟩
      clientToRemoteBytes := session.clientToRemoteBytes + min chunk.length room
      trace := session.trace ++ [.clientRead (.ok chunk), .tcpSend chunk (.ok (min chunk.length room))] }
    let ns' : ProxyNetStack TcpSocket := { ns with
      sockets := Function.update ns.sockets session.handle
        ⟨.established, room - chunk.length, received⟩ }
    sendClient tcpSockets session ns =
      if room < chunk.length then
        ({ sent with toRemote := session.toRemote ++ chunk.drop room }, ns')
      else sendClient tcpSockets sent ns' := by
  have hcan : tcpCanSend tcpSockets ns session.handle = true := by
    unfold tcpCanSend
    rw [hsocket]
    simp [tcpSockets, TcpState.maySend, hroom]
  have hread : session.client.read ioBufferSize = (.ok chunk, ⟨reads, session.client.writes⟩) := by
    unfold TcpStream.read
    rw [hreads]
    simp only [List.take_of_length_le hmax]
  intro sent ns'
  have hsend : tcpSend tcpSockets ns session.handle chunk = (.ok (min chunk.length room), ns') := by
    unfold tcpSend
    rw [hsocket]
    simp [tcpSockets, TcpState.maySend, ns']
  rw [sendClient, if_pos hcan]
  dsimp only
  split
  · rename_i bytes hbytes
    rw [hread] at hbytes
    cases hbytes
    rw [if_neg hne, hsend, hread]
    by_cases hfull : room < chunk.length
    · have hmin : min chunk.length room = room := by omega
      simp only [hmin]
      rw [if_pos hfull, if_pos hfull]
      simp [sent, hmin, ProxySession.record]
    · have hmin : ¬ min chunk.length room < chunk.length := by omega
      simp only [if_neg hmin]
      rw [if_neg hfull]
      simp [sent, ProxySession.record]
  · rename_i err herr
    rw [hread] at herr
    cases herr

/-- A client that has more to send than the socket has room for leaves some of it waiting. -/
theorem sendClient_overfull {chunk received : List UInt8} (hmax : chunk.length ≤ ioBufferSize)
    (k room : ℕ) {session : ProxySession} {ns : ProxyNetStack TcpSocket}
    (hreads : session.client.reads = List.replicate (k + 1) (.ok chunk))
    (hsocket : ns.sockets session.handle = ⟨.established, room, received⟩)
    (hlow : k * chunk.length < room) (hhigh : room < (k + 1) * chunk.length) :
    (sendClient tcpSockets session ns).1.toRemote ≠ [] ∧
      (sendClient tcpSockets session ns).1.toClient = session.toClient ∧
      (sendClient tcpSockets session ns).1.socksReplied = session.socksReplied := by
  have hne : chunk ≠ [] := by
    rintro rfl
    simp at hhigh
  have hroom : room ≠ 0 := by omega
  induction k generalizing session ns room with
  | zero =>
    rw [sendClient_read hne hmax hreads hsocket hroom, if_pos (by omega)]
    refine ⟨?_, rfl, rfl⟩
    have hleft : 0 < (chunk.drop room).length := by
      rw [List.length_drop]
      omega
    exact List.append_ne_nil_of_right_ne_nil _ (List.ne_nil_of_length_pos hleft)
  | succ k ih =>
    rw [Nat.succ_mul] at hlow hhigh
    rw [sendClient_read hne hmax hreads hsocket hroom, if_neg (by omega)]
    refine ih (room - chunk.length) rfl ?_ (by omega) (by omega) (by omega)
    simp

/-- A client that uploads a chunk 17 times. -/
def uploadingClient (chunk : List UInt8) : TcpStream := ⟨List.replicate 17 (.ok chunk), [.ok 10]⟩

/-- Its session once the client has its reply. -/
def uploading (chunk : List UInt8) : ProxySession :=
  { ProxySession.start ⟨(uploadingClient chunk).reads, []⟩ 0 with
    socksReplied := true
    trace := [.replied] }

def established : ProxyNetStack TcpSocket :=
  ⟨fun _ => ⟨.established, defaultTcpBufferSize, []⟩, [0]⟩

theorem pass_established (chunk : List UInt8) :
    Pass tcpSockets (fun _ _ => True) (.start fun _ => tcpSockets.fresh)
      ⟨[uploading chunk], established⟩ := by
  have hpump : pumpLocalToTcp tcpSockets (connecting (uploadingClient chunk)).sessions
      (connecting (uploadingClient chunk)).netstack =
        ((connecting (uploadingClient chunk)).sessions,
          (connecting (uploadingClient chunk)).netstack) := rfl
  have hpoll : Polled tcpSockets (fun _ _ => True) (connecting (uploadingClient chunk))
      ⟨[.start (uploadingClient chunk) 0], established⟩ := by
    refine .mk (fun h hh => ?_) trivial
    rw [List.mem_singleton.mp hh]
    change TcpState.synSent.Next _
    exact ⟨by decide, by decide⟩
  have hwrite : writeSuccess (uploadingClient chunk) =
      (.ok (), ⟨(uploadingClient chunk).reads, []⟩) := by
    unfold writeSuccess uploadingClient
    rw [writeAll, if_neg (by decide)]
    simp [writeAll]
  have hreply : reply tcpSockets (.start (uploadingClient chunk) 0) established =
      .ok (uploading chunk) := by
    unfold reply
    rw [if_pos ⟨Bool.false_ne_true, rfl⟩]
    simp only [ProxySession.start, hwrite]
    rfl
  have hidle := pumpTcp_idle hreply rfl rfl
  have hdeliver : pumpTcpToLocal tcpSockets [.start (uploadingClient chunk) 0] established =
      .ok ([uploading chunk], established) := by
    simp only [pumpTcpToLocal, hidle]
  exact ⟨⟨[uploading chunk], established⟩,
    .mk (acceptSteps_connecting _ (uploadingClient chunk)) hpump hpoll hdeliver, rfl⟩

/-- The connection of a session is reset. -/
def reset (session : ProxySession) : Runtime TcpSocket :=
  ⟨[session], ⟨fun _ => ⟨.closed, 0, []⟩, [0]⟩⟩

theorem phases_reset {chunk : List UInt8} (hlen : chunk.length = 16000) :
    ∃ session : ProxySession, session.toRemote ≠ [] ∧ session.toClient = [] ∧
      Phases tcpSockets (fun _ _ => True) ⟨[uploading chunk], established⟩ (reset session) := by
  have hqueued : sendQueued tcpSockets (uploading chunk) established =
      (uploading chunk, established) := by
    rw [sendQueued, dif_neg (fun hgo => hgo.2 rfl)]
  have hpump : pumpLocalToTcp tcpSockets [uploading chunk] established =
      ([(sendClient tcpSockets (uploading chunk) established).1],
        (sendClient tcpSockets (uploading chunk) established).2) := by
    unfold pumpLocalToTcp pumpLocal
    rw [if_neg (by simp [uploading, ProxySession.start]), hqueued]
    rfl
  obtain ⟨hq, hcl, hreplied⟩ := sendClient_overfull (by rw [hlen]; decide) 16 defaultTcpBufferSize
    (rfl : (uploading chunk).client.reads = _) (rfl : established.sockets _ = _)
    (by rw [hlen]; decide) (by rw [hlen]; decide)
  have hturn := (sendClient_moves (uploading chunk) established).turn tcpSockets_contract
  generalize (sendClient tcpSockets (uploading chunk) established).1 = session at hq hcl hreplied hturn hpump
  generalize (sendClient tcpSockets (uploading chunk) established).2 = ns at hturn hpump
  have hpoll : Polled tcpSockets (fun _ _ => True) ⟨[session], ns⟩ ⟨[session], ⟨fun _ => ⟨.closed, 0, []⟩, [0]⟩⟩ := by
    have hlive : ns.live = [0] := hturn.steady.live
    rw [← hlive]
    exact .mk (fun h hh => ⟨fun _ => rfl, fun _ hactive => by cases hactive⟩) trivial
  have hidle : pumpTcp tcpSockets session (reset session).netstack =
      .ok (session, (reset session).netstack) := by
    refine pumpTcp_idle ?_ rfl hcl
    unfold reply
    rw [if_neg (fun hgo => hgo.1 hreplied)]
  have hdeliver : pumpTcpToLocal tcpSockets [session] (reset session).netstack =
      .ok ([session], (reset session).netstack) := by
    simp only [pumpTcpToLocal, hidle]
  exact ⟨session, hq, hcl, .mk .refl hpump hpoll hdeliver⟩

/-! ### No dead session -/

/-- **No dead session is kept** while no socket goes with bytes waiting for it: after the cleanup
every session has its socket or something to give its client, and of those that had neither the
session and the socket are gone. -/
theorem no_dead_session {S : Type} {tcp : Smoltcp S} (hc : tcp.Contract) {sockets : SocketHandle → S} {rt delivered : Runtime S}
    (h : Reachable tcp (NoneStranded tcp) sockets rt)
    (hphases : Phases tcp (NoneStranded tcp) rt delivered) :
    (∀ session ∈ (delivered.cleanup tcp).sessions,
        ¬ Dead tcp (delivered.cleanup tcp).netstack session) ∧
      ∀ session ∈ delivered.sessions, Dead tcp delivered.netstack session →
        session.handle ∉ (delivered.cleanup tcp).handles ∧
          session.handle ∉ (delivered.cleanup tcp).netstack.live := by
  have howned := hphases.owned hc (h.owned hc)
  have hall := hphases.allSending hc (h.owned hc) (h.allSending hc)
  have hrem : ∀ session ∈ delivered.sessions, Dead tcp delivered.netstack session →
      Removable tcp delivered.netstack session :=
    fun session hs hdead => ⟨hdead, (hall session hs).toRemote_nil hdead.1⟩
  constructor
  · intro session hs hdead
    obtain ⟨before, hbefore, hnot, rfl⟩ := mem_cleanup.mp hs
    refine hnot (hrem before hbefore ?_)
    obtain ⟨hi, hq⟩ := hdead
    rw [handle_noteInactive, cleanup_active] at hi
    rw [toClient_noteInactive] at hq
    exact ⟨hi, hq⟩
  · intro session hs hdead
    have hfree : session.handle ∉ (delivered.cleanup tcp).netstack.live := fun hlive =>
      ((mem_cleanup_live howned _).mp hlive).2 ⟨session, hs, hrem session hs hdead, rfl⟩
    exact ⟨fun hh => hfree ((cleanup_owned howned).subset _ hh), hfree⟩

/-- The session of a refused connection is removed. -/
theorem no_dead_session_refused :
    Dead tcpSockets refused.netstack (.start silentClient 0) ∧
      (∀ session ∈ (refused.cleanup tcpSockets).sessions,
        ¬ Dead tcpSockets (refused.cleanup tcpSockets).netstack session) ∧
      0 ∉ (refused.cleanup tcpSockets).netstack.live := by
  obtain ⟨hleft, hgone⟩ := no_dead_session tcpSockets_contract .refl phases_refused
  have hdead : Dead tcpSockets refused.netstack (.start silentClient 0) := ⟨rfl, rfl⟩
  exact ⟨hdead, hleft, (hgone _ (List.mem_singleton_self _) hdead).2⟩

/-- The bytes left of the upload keep the session whose connection was reset. -/
theorem dead_session_kept : ¬ ∀ (sockets : SocketHandle → TcpSocket) (rt delivered : Runtime TcpSocket),
    Reachable tcpSockets (fun _ _ => True) sockets rt →
    Phases tcpSockets (fun _ _ => True) rt delivered →
      ∀ session ∈ (delivered.cleanup tcpSockets).sessions,
        ¬ Dead tcpSockets (delivered.cleanup tcpSockets).netstack session := by
  intro h
  obtain ⟨session, hq, hcl, hphases⟩ :=
    phases_reset (List.length_replicate : (List.replicate 16000 (0 : UInt8)).length = 16000)
  have hleft : noteInactive session false ∈ ((reset session).cleanup tcpSockets).sessions :=
    mem_cleanup.mpr ⟨session, List.mem_singleton_self _, fun hrem => hq hrem.2, rfl⟩
  refine h _ _ _ (.single (pass_established _)) hphases _ hleft ⟨?_, ?_⟩
  · rw [handle_noteInactive, cleanup_active]
    rfl
  · rw [toClient_noteInactive]
    exact hcl

end OpenfortivpnRs.Proxy
