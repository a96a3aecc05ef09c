import OpenfortivpnRs.Proxy.Dead

/-!
# When the remote has finished

`pump_tcp_to_local` drops the error by which `tcp_recv` reports that the remote has sent all it will,
and shuts nothing.  What the client sees of the remote's end is the removal of its session, so it sees
it only once the socket is not active and nothing waits for the remote (`end_reached_iff`); a socket
whose transmit half is still open is active until the client closes.
-/

namespace OpenfortivpnRs.Proxy

open Relation

variable {S : Type} {tcp : Smoltcp S} {cond : Runtime S → Runtime S → Prop}

/-! ### What the receive loop is told -/

variable (tcp) in
/-- The result of `tcp_recv` that ends the receive loop. -/
def lastRecv (socket : S) : Except String (List UInt8) :=
  match _hrecv : (tcp.recv socket ioBufferSize).1 with
  | .ok bytes => if bytes = [] then .ok [] else lastRecv (tcp.recv socket ioBufferSize).2
  | .error err => .error err
termination_by tcp.buffered socket
decreasing_by exact tcp.recv_buffered _hrecv (by assumption)

variable (tcp) in
/-- `tcp_recv` reports `RecvError::Finished`. -/
def RemoteFinished (socket : S) : Prop := lastRecv tcp socket = .error "Finished"

variable (tcp) in
/-- What `smoltcp` documents of `RecvError::Finished`: the remote's FIN was received, so the handshake
is behind the socket. -/
def FinishedAfterHandshake : Prop :=
  ∀ {socket max}, (tcp.recv socket max).1 = .error "Finished" →
    (tcp.state socket).isActive = true → (tcp.state socket).synchronized = true

theorem RemoteFinished.synchronized (hc : tcp.Contract) (hfin : FinishedAfterHandshake tcp) {socket : S}
    (h : RemoteFinished tcp socket) (hactive : (tcp.state socket).isActive = true) :
    (tcp.state socket).synchronized = true := by
  unfold RemoteFinished at h
  fun_induction lastRecv tcp socket with
  | case1 socket hrecv => cases h
  | case2 socket bytes hrecv hne ih =>
    rw [hc.state_recv] at ih
    exact ih h hactive
  | case3 socket err hrecv =>
    rw [Except.error.inj h] at hrecv
    exact hfin hrecv hactive

/-! ### What the pump leaves alone -/

theorem TcpMove.toRemote {session session' : ProxySession} {ns ns' : ProxyNetStack S}
    (hm : TcpMove tcp session ns session' ns') : session'.toRemote = session.toRemote := by
  cases hm with
  | received hne hrecv h => exact h.toRemote
  | drained hnone h => exact h.toRemote
  | wrote hq hn h => exact h.toRemote
  | closed hq h => exact h.toRemote
  | blocked hq hkind h => exact h.toRemote
  | failed hq hkind h => exact h.toRemote

theorem TcpMoves.toRemote {p q : ProxySession × ProxyNetStack S} (hm : TcpMoves tcp p q) :
    q.1.toRemote = p.1.toRemote := by
  induction hm with
  | refl => rfl
  | tail _ hmove ih => exact hmove.toRemote.trans ih

theorem pumpTcp_toRemote {session session' : ProxySession} {ns ns' : ProxyNetStack S}
    (h : pumpTcp tcp session ns = .ok (session', ns')) : session'.toRemote = session.toRemote := by
  obtain ⟨replied, hreply, hmoves⟩ := pumpTcp_moves h
  obtain ⟨-, client, rfl⟩ | ⟨-, rfl⟩ := reply_cases hreply
  · exact hmoves.toRemote
  · exact hmoves.toRemote

/-- What becomes of a session in the pump: it keeps its socket and what waits for the remote. -/
theorem pumpTcpToLocal_pairs (hc : tcp.Contract) {sessions sessions' : List ProxySession}
    {ns ns' : ProxyNetStack S} (h : pumpTcpToLocal tcp sessions ns = .ok (sessions', ns')) :
    List.Forall₂ (fun s s' : ProxySession => s'.handle = s.handle ∧ s'.toRemote = s.toRemote)
      sessions sessions' := by
  induction sessions generalizing ns sessions' with
  | nil =>
    cases h
    exact .nil
  | cons session sessions ih =>
    unfold pumpTcpToLocal at h
    split at h
    · cases h
    · rename_i session' ns₁ hturn
      split at h
      · cases h
      · rename_i rest ns₂ hrest
        cases h
        exact .cons ⟨(pumpTcp_turn hc hturn).handle, pumpTcp_toRemote hturn⟩ (ih hrest)

/-! ### What the client sees -/

/-- What was done for a session shuts the write half of its client.  Nothing does: `shutdown` is called
on the streams of direct sessions only. -/
def SessionEvent.shutsClient : SessionEvent → Bool
  | .replied | .clientRead _ | .clientWrite _ _ | .tcpSend _ _ | .tcpRecv _ | .tcpClose _ _ => false

/-- The client of the session sees an end: the session is gone, and its stream with it, or the write
half of the stream was shut down. -/
def EndReached (rt : Runtime S) (session : ProxySession) : Prop :=
  session.handle ∉ rt.handles ∨
    ∃ session' ∈ rt.sessions, session'.handle = session.handle ∧
      ∃ event ∈ session'.trace, event.shutsClient = true

theorem endReached_iff_gone {rt : Runtime S} {session : ProxySession} :
    EndReached rt session ↔ session.handle ∉ rt.handles := by
  constructor
  · rintro (h | ⟨session', -, -, event, -, hshuts⟩)
    · exact h
    · cases event <;> cases hshuts
  · exact .inl

variable (tcp cond) in
/-- One pass of the main loop, taken apart at `pump_tcp_to_local`. -/
structure Cycle (rt polled delivered rt' : Runtime S) : Prop where
  upload : ∃ accepted pumped : Runtime S, ReflTransGen (AcceptStep tcp cond) rt accepted ∧
    pumpLocalToTcp tcp accepted.sessions accepted.netstack = (pumped.sessions, pumped.netstack) ∧
    Polled tcp cond pumped polled
  deliver : pumpTcpToLocal tcp polled.sessions polled.netstack =
    .ok (delivered.sessions, delivered.netstack)
  cleanup : rt' = delivered.cleanup tcp

theorem Cycle.pass {rt polled delivered rt' : Runtime S} (h : Cycle tcp cond rt polled delivered rt') :
    Pass tcp cond rt rt' := by
  obtain ⟨⟨accepted, pumped, haccept, hpump, hpoll⟩, hdeliver, hcleanup⟩ := h
  exact ⟨delivered, .mk haccept hpump hpoll hdeliver, hcleanup⟩

/-- Everything received for the session was written to its client. -/
def FullyWritten (delivered : Runtime S) (session : ProxySession) : Prop :=
  ∀ session' ∈ delivered.sessions, session'.handle = session.handle → session'.toClient = []

theorem cleanup_gone_iff {rt : Runtime S} (ho : Owned rt) {session : ProxySession}
    (hmem : session ∈ rt.sessions) :
    session.handle ∉ (rt.cleanup tcp).handles ↔ Removable tcp rt.netstack session := by
  constructor
  · intro hgone
    by_contra hkept
    exact hgone (List.mem_map.mpr ⟨_, mem_cleanup.mpr ⟨session, hmem, hkept, rfl⟩, by simp⟩)
  · intro hrem hhandle
    obtain ⟨left, hleft, heq⟩ := List.mem_map.mp hhandle
    obtain ⟨before, hbefore, hnot, rfl⟩ := mem_cleanup.mp hleft
    rw [handle_noteInactive] at heq
    have hsame := List.inj_on_of_nodup_map ho.handles hbefore hmem heq
    rw [hsame] at hnot
    exact hnot hrem

theorem Cycle.owned (hc : tcp.Contract) {rt polled delivered rt' : Runtime S}
    (h : Cycle tcp cond rt polled delivered rt') (ho : Owned rt) : Owned polled ∧ Owned delivered := by
  obtain ⟨⟨accepted, pumped, haccept, hpump, hpoll⟩, hdeliver, -⟩ := h
  have hpolled := hpoll.owned ((pumpLocalToTcp_pumped hc hpump).owned (acceptSteps_owned haccept ho))
  exact ⟨hpolled, (pumpTcpToLocal_pumped hc hdeliver).owned hpolled⟩

/-- **When the remote's end reaches the client.**  In a pass of any run in which the remote of a
session has finished and its client has everything, the client sees an end by the end of the pass if
and only if the socket is no longer active after the poll and nothing waits for the remote. -/
theorem end_reached_iff (hc : tcp.Contract) (hfin : FinishedAfterHandshake tcp)
    {sockets : SocketHandle → S} {rt polled delivered rt' : Runtime S} {session : ProxySession}
    (hreach : Reachable tcp cond sockets rt) (hcycle : Cycle tcp cond rt polled delivered rt')
    (hmem : session ∈ polled.sessions)
    (hfinished : RemoteFinished tcp (polled.netstack.sockets session.handle))
    (hwritten : FullyWritten delivered session) :
    EndReached rt' session ↔
      tcpIsActive tcp polled.netstack session.handle = false ∧ session.toRemote = [] := by
  obtain ⟨-, howned⟩ := hcycle.owned hc (hreach.owned hc)
  have hsteady := (pumpTcpToLocal_pumped hc hcycle.deliver).steady
  obtain ⟨session', hmem', hhandle, hremote⟩ : ∃ session' ∈ delivered.sessions,
      session'.handle = session.handle ∧ session'.toRemote = session.toRemote := by
    obtain ⟨i, hi, rfl⟩ := List.mem_iff_getElem.mp hmem
    have hpairs := pumpTcpToLocal_pairs hc hcycle.deliver
    exact ⟨_, List.getElem_mem (hpairs.length_eq ▸ hi), hpairs.get hi (hpairs.length_eq ▸ hi)⟩
  have hactive : tcpIsActive tcp delivered.netstack session.handle =
      tcpIsActive tcp polled.netstack session.handle := by
    cases hbefore : tcpIsActive tcp polled.netstack session.handle with
    | false => exact hsteady.inactive _ hbefore
    | true =>
      have hsync := hsteady.synchronized _ (hfinished.synchronized hc hfin hbefore)
      exact TcpState.synchronized_active hsync
  have hremovable : Removable tcp delivered.netstack session' ↔
      tcpIsActive tcp polled.netstack session.handle = false ∧ session.toRemote = [] := by
    unfold Removable Dead
    rw [hhandle, hactive, hremote, hwritten session' hmem' hhandle]
    simp
  rw [endReached_iff_gone, hcycle.cleanup, ← hhandle, cleanup_gone_iff howned hmem', hremovable, hhandle]

/-! ### A download that ends -/

/-- The states in which the FIN of the remote has been received. -/
def TcpState.finReceived : TcpState → Bool
  | .closeWait | .closing | .lastAck | .timeWait => true
  | _ => false

/-- A receive that reports a FIN by the state it has left the socket in. -/
def finRecv (socket : TcpSocket) (max : ℕ) : Except String (List UInt8) × TcpSocket :=
  if socket.received = [] ∧ ¬ socket.state.mayRecv then
    (.error (if socket.state.finReceived then "Finished" else "InvalidState"), socket)
  else (.ok (socket.received.take max), { socket with received := socket.received.drop max })

theorem finRecv_buffered {socket : TcpSocket} {max : ℕ} {bytes : List UInt8}
    (hok : (finRecv socket max).1 = .ok bytes) (hne : bytes ≠ []) :
    (finRecv socket max).2.received.length < socket.received.length := by
  unfold finRecv at hok ⊢
  split at hok
  · cases hok
  · rename_i hopen
    cases hok
    rw [if_neg hopen]
    have hpos := List.length_pos_of_ne_nil hne
    rw [List.length_take] at hpos
    rw [List.length_drop]
    omega

/-- The sockets of `Dead` with that receive. -/
def finSockets : Smoltcp TcpSocket :=
  { tcpSockets with
    recv := finRecv
    recv_buffered := finRecv_buffered }

theorem finSockets_contract : finSockets.Contract where
  maySend h := tcpSockets_contract.maySend h
  state_send := tcpSockets_contract.state_send
  state_recv socket max := by
    simp only [finSockets, finRecv]
    split <;> rfl
  state_close _ := rfl

theorem finSockets_finished : FinishedAfterHandshake finSockets := by
  intro socket max h hactive
  simp only [finSockets, finRecv] at h
  split at h
  · rename_i hdone
    split at h
    · rename_i hstate
      change socket.state.isActive = true at hactive
      change socket.state.synchronized = true
      generalize socket.state = state at hstate hactive ⊢
      cases state <;> first
        | rfl
        | exact absurd hstate (by decide)
        | exact absurd hactive (by decide)
    · exact absurd (Except.error.inj h) (by decide)
  · cases h

/-- A client that only reads, and its session once it has its reply. -/
def readingClient : TcpStream := ⟨[], [.ok 10]⟩

def reading (trace : List SessionEvent) : ProxySession :=
  { ProxySession.start ⟨[], []⟩ 0 with socksReplied := true, trace := trace }

/-- The stack of one socket in that state, with nothing received. -/
def stackIn (state : TcpState) : ProxyNetStack TcpSocket :=
  ⟨fun _ => ⟨state, defaultTcpBufferSize, []⟩, [0]⟩

/-- A socket that has received nothing gives nothing. -/
theorem receive_stackIn (state : TcpState) (session : ProxySession) :
    receive finSockets session (stackIn state) = (session, stackIn state) := by
  have hrecv : (tcpRecv finSockets (stackIn state) session.handle ioBufferSize).2 = stackIn state ∧
      ∀ bytes, (tcpRecv finSockets (stackIn state) session.handle ioBufferSize).1 = .ok bytes →
        bytes = [] := by
    cases state <;> simp [tcpRecv, stackIn, finSockets, finRecv, TcpState.mayRecv]
  rw [receive]
  split
  · rename_i bytes hok
    rw [if_pos (hrecv.2 bytes hok), hrecv.1]
  · rw [hrecv.1]

theorem pumpTcpToLocal_stackIn {state : TcpState} {session session' : ProxySession}
    (hreply : reply finSockets session (stackIn state) = .ok session') (hq : session'.toClient = []) :
    pumpTcpToLocal finSockets [session] (stackIn state) = .ok ([session'], stackIn state) := by
  have hturn : pumpTcp finSockets session (stackIn state) = .ok (session', stackIn state) := by
    have hdeliver : deliver finSockets session' (stackIn state) = (session', stackIn state) := by
      rw [deliver, dif_pos hq]
    unfold pumpTcp
    simp only [hreply, receive_stackIn, hdeliver]
  simp only [pumpTcpToLocal, hturn]

theorem pass_reading :
    Pass finSockets (fun _ _ => True) (.start fun _ => finSockets.fresh)
      ⟨[reading [.replied]], stackIn .established⟩ := by
  have hadd : AcceptStep finSockets (fun _ _ => True) (.start fun _ => finSockets.fresh) _ :=
    .addSocket 0 (by decide)
  have hconnect := (ReflTransGen.single hadd).tail
    (.useSocket 0 ⟨.synSent, defaultTcpBufferSize, []⟩ List.not_mem_nil)
  have haccept := hconnect.tail (.session readingClient 0 (by decide) List.not_mem_nil)
  have hpoll : Polled finSockets (fun _ _ => True) (connecting readingClient)
      ⟨[.start readingClient 0], stackIn .established⟩ := by
    refine .mk (fun h hh => ?_) trivial
    rw [List.mem_singleton.mp hh]
    change TcpState.synSent.Next _
    exact ⟨by decide, by decide⟩
  have hwrite : writeSuccess readingClient = (.ok (), ⟨[], []⟩) := by
    unfold writeSuccess readingClient
    rw [writeAll, if_neg (by decide)]
    simp [writeAll]
  have hreply : reply finSockets (.start readingClient 0) (stackIn .established) =
      .ok (reading [.replied]) := by
    unfold reply
    rw [if_pos ⟨Bool.false_ne_true, rfl⟩]
    simp only [ProxySession.start, hwrite]
    rfl
  exact ⟨⟨[reading [.replied]], stackIn .established⟩,
    .mk haccept rfl hpoll (pumpTcpToLocal_stackIn hreply rfl), rfl⟩

/-- What the pump towards the remote does while the client sends nothing. -/
theorem pumpLocal_reading :
    pumpLocal finSockets (reading [.replied]) (stackIn .established) =
      (reading [.replied, .clientRead (.error wouldBlock)], stackIn .established) := by
  have hqueued : sendQueued finSockets (reading [.replied]) (stackIn .established) =
      (reading [.replied], stackIn .established) := by
    rw [sendQueued, dif_neg fun hgo => hgo.2 rfl]
  have hclient : sendClient finSockets (reading [.replied]) (stackIn .established) =
      (reading [.replied, .clientRead (.error wouldBlock)], stackIn .established) := by
    rw [sendClient, if_pos (by decide)]
    rfl
  unfold pumpLocal
  rw [if_neg (by simp [reading, ProxySession.start]), hqueued]
  exact hclient

/-- The remote finishes while the client only reads. -/
theorem cycle_finished :
    Cycle finSockets (fun _ _ => True) ⟨[reading [.replied]], stackIn .established⟩
      ⟨[reading [.replied, .clientRead (.error wouldBlock)]], stackIn .closeWait⟩
      ⟨[reading [.replied, .clientRead (.error wouldBlock)]], stackIn .closeWait⟩
      (Runtime.cleanup finSockets
        ⟨[reading [.replied, .clientRead (.error wouldBlock)]], stackIn .closeWait⟩) where
  upload := by
    refine ⟨_, ⟨[reading [.replied, .clientRead (.error wouldBlock)]], stackIn .established⟩, .refl, ?_, ?_⟩
    · simp only [pumpLocalToTcp, pumpLocal_reading]
    · refine .mk (fun h hh => ?_) trivial
      change TcpState.established.Next TcpState.closeWait
      exact ⟨by decide, by decide⟩
  deliver := by
    apply pumpTcpToLocal_stackIn _ rfl
    unfold reply
    rw [if_neg fun hgo => hgo.1 rfl]
  cleanup := rfl

theorem finished_stackIn : RemoteFinished finSockets ((stackIn .closeWait).sockets 0) := by
  unfold RemoteFinished
  fun_cases lastRecv finSockets ((stackIn .closeWait).sockets 0) with
  | case1 hrecv => cases hrecv
  | case2 bytes hrecv hne => cases hrecv
  | case3 err hrecv => exact hrecv.symm

/-- In the pass in which the remote finishes, the client sees nothing of it. -/
theorem end_reached_iff_finished :
    EndReached (Runtime.cleanup finSockets
        ⟨[reading [.replied, .clientRead (.error wouldBlock)]], stackIn .closeWait⟩)
      (reading [.replied, .clientRead (.error wouldBlock)]) ↔
        tcpIsActive finSockets (stackIn .closeWait) 0 = false ∧ ([] : List UInt8) = [] :=
  end_reached_iff finSockets_contract finSockets_finished (.single pass_reading) cycle_finished
    (List.mem_singleton_self _) finished_stackIn fun session' hs _ => by
      rw [List.mem_singleton.mp hs]
      rfl

/-- The end of the remote does not reach a client that only reads. -/
theorem end_not_reached :
    ¬ ∀ (sockets : SocketHandle → TcpSocket) (rt polled delivered rt' : Runtime TcpSocket)
        (session : ProxySession),
      Reachable finSockets (fun _ _ => True) sockets rt →
      Cycle finSockets (fun _ _ => True) rt polled delivered rt' → session ∈ polled.sessions →
      RemoteFinished finSockets (polled.netstack.sockets session.handle) →
      FullyWritten delivered session → EndReached rt' session := by
  intro h
  have hend := h _ _ _ _ _ _ (.single pass_reading) cycle_finished (List.mem_singleton_self _)
    finished_stackIn fun session' hs _ => by
      rw [List.mem_singleton.mp hs]
      rfl
  have howned := (cycle_finished.owned finSockets_contract
    (Reachable.owned finSockets_contract (.single pass_reading))).2
  have hrem := (cleanup_gone_iff howned (List.mem_singleton_self _)).mp (endReached_iff_gone.mp hend)
  cases hrem.1.1

end OpenfortivpnRs.Proxy
