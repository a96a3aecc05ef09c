import OpenfortivpnRs.Proxy.Dead
import OpenfortivpnRs.Proxy.Isolation

/-!
# What a session through the tunnel relays

The two loops of `pump_local_to_tcp` feed one socket from the queue and from the client: the second
runs only where the first has left no queue (`sendQueued_drained`), so nothing overtakes.  What was
read is what the socket took and what is queued, and the same holds of the way back, as long as no
write to the client fails (`session_relay_fidelity`).
-/

namespace OpenfortivpnRs.Proxy

/-! ### Traces -/

/-- The bytes read from the client. -/
def readFromClient (trace : List SessionEvent) : List UInt8 :=
  trace.flatMap fun
    | .clientRead (.ok bytes) => bytes
    | _ => []

/-- The bytes `tcp_send` has accepted. -/
def takenBySocket (trace : List SessionEvent) : List UInt8 :=
  trace.flatMap fun
    | .tcpSend data (.ok n) => data.take n
    | _ => []

/-- The bytes `tcp_recv` has given. -/
def receivedFromSocket (trace : List SessionEvent) : List UInt8 :=
  trace.flatMap fun
    | .tcpRecv bytes => bytes
    | _ => []

/-- The bytes the client has taken besides the SOCKS reply. -/
def takenByClient (trace : List SessionEvent) : List UInt8 :=
  trace.flatMap fun
    | .clientWrite chunk (.ok n) => chunk.take n
    | _ => []

/-- A write to the client has failed, not only blocked. -/
def ClientWriteFailed (trace : List SessionEvent) : Prop :=
  ∃ chunk err, .clientWrite chunk (.error err) ∈ trace ∧ err.kind ≠ .wouldBlock

theorem readFromClient_append (t es : List SessionEvent) :
    readFromClient (t ++ es) = readFromClient t ++ readFromClient es := by simp [readFromClient]

theorem takenBySocket_append (t es : List SessionEvent) :
    takenBySocket (t ++ es) = takenBySocket t ++ takenBySocket es := by simp [takenBySocket]

theorem receivedFromSocket_append (t es : List SessionEvent) :
    receivedFromSocket (t ++ es) = receivedFromSocket t ++ receivedFromSocket es := by
  simp [receivedFromSocket]

theorem takenByClient_append (t es : List SessionEvent) :
    takenByClient (t ++ es) = takenByClient t ++ takenByClient es := by simp [takenByClient]

theorem clientWriteFailed_of_mem {t es : List SessionEvent} (h : ClientWriteFailed es) :
    ClientWriteFailed (t ++ es) := by
  obtain ⟨chunk, err, hmem, hkind⟩ := h
  exact ⟨chunk, err, List.mem_append_right _ hmem, hkind⟩

theorem ClientWriteFailed.append {t : List SessionEvent} (h : ClientWriteFailed t)
    (es : List SessionEvent) : ClientWriteFailed (t ++ es) := by
  obtain ⟨chunk, err, hmem, hkind⟩ := h
  exact ⟨chunk, err, List.mem_append_left _ hmem, hkind⟩

/-! ### What the turns keep -/

variable {S : Type} {tcp : Smoltcp S}

variable (tcp) in
/-- What `smoltcp` documents of sending: a socket that can send accepts a prefix of the data, and
after it has accepted less than it was offered it cannot send. -/
structure Smoltcp.SendContract : Prop where
  send_ok : ∀ {s}, tcp.canSend s = true → ∀ data, ∃ n ≤ data.length, (tcp.send s data).1 = .ok n
  send_short : ∀ {s data n}, tcp.canSend s = true → (tcp.send s data).1 = .ok n → n < data.length →
    tcp.canSend (tcp.send s data).2 = false

/-- Nothing is lost, doubled or out of order, and the socket was closed for the end of the client only
when nothing was queued for it. -/
structure Relayed (session : ProxySession) : Prop where
  upward : takenBySocket session.trace ++ session.toRemote = readFromClient session.trace
  downward : ¬ ClientWriteFailed session.trace →
    takenByClient session.trace ++ session.toClient = receivedFromSocket session.trace
  closed : ∀ pending, .tcpClose true pending ∈ session.trace → pending = []

/-- What some events take off the queues and put on them. -/
theorem Relayed.extend {session session' : ProxySession} (h : Relayed session) (es : List SessionEvent)
    (htrace : session'.trace = session.trace ++ es)
    (hup : session.toRemote ++ readFromClient es = takenBySocket es ++ session'.toRemote)
    (hdown : ¬ ClientWriteFailed es →
      session.toClient ++ receivedFromSocket es = takenByClient es ++ session'.toClient)
    (hclosed : ∀ pending, .tcpClose true pending ∈ es → pending = []) : Relayed session' where
  upward := by
    rw [htrace, takenBySocket_append, readFromClient_append, List.append_assoc, ← hup,
      ← List.append_assoc, h.upward]
  downward hno := by
    rw [htrace] at hno ⊢
    rw [takenByClient_append, receivedFromSocket_append, List.append_assoc,
      ← hdown fun hf => hno (clientWriteFailed_of_mem hf), ← List.append_assoc,
      h.downward fun hf => hno (hf.append es)]
  closed pending hmem := by
    rw [htrace] at hmem
    rcases List.mem_append.mp hmem with hold | hnew
    · exact h.closed pending hold
    · exact hclosed pending hnew

/-- Nothing happens to the bytes. -/
theorem Relayed.of_same {session session' : ProxySession} (h : Relayed session)
    (htrace : session'.trace = session.trace) (hup : session'.toRemote = session.toRemote)
    (hdown : session'.toClient = session.toClient) : Relayed session' := by
  refine h.extend [] ?_ ?_ (fun _ => ?_) nofun
  · rw [htrace, List.append_nil]
  · simp [readFromClient, takenBySocket, hup]
  · simp [receivedFromSocket, takenByClient, hdown]

section Sending

variable (hc : tcp.SendContract)

include hc

/-- After a partial send the socket cannot send. -/
theorem tcpCanSend_short {ns : ProxyNetStack S} {h : SocketHandle} {data : List UInt8} {n : ℕ}
    (hcan : tcpCanSend tcp ns h = true) (hsent : (tcpSend tcp ns h data).1 = .ok n)
    (hlt : n < data.length) : tcpCanSend tcp (tcpSend tcp ns h data).2 h = false := by
  unfold tcpCanSend tcpSend
  simp only [Function.update_self]
  exact hc.send_short hcan hsent hlt

theorem tcpSend_ok {ns : ProxyNetStack S} {h : SocketHandle} (data : List UInt8)
    (hcan : tcpCanSend tcp ns h = true) : ∃ n ≤ data.length, (tcpSend tcp ns h data).1 = .ok n :=
  hc.send_ok hcan data

theorem tcpSend_not_error {ns : ProxyNetStack S} {h : SocketHandle} {data : List UInt8} {err : String}
    (hcan : tcpCanSend tcp ns h = true) : (tcpSend tcp ns h data).1 ≠ .error err := by
  obtain ⟨n, -, hok⟩ := tcpSend_ok hc data hcan
  rw [hok]
  nofun

/-- The first loop ends with an empty queue or a socket that cannot send. -/
theorem sendQueued_drained (session : ProxySession) (ns : ProxyNetStack S)
    (hcan : tcpCanSend tcp (sendQueued tcp session ns).2 session.handle = true) :
    (sendQueued tcp session ns).1.toRemote = [] := by
  fun_induction sendQueued tcp session ns with
  | case1 session ns hgo chunk rest sent session' written hres hlt =>
    rw [tcpCanSend_short hc hgo.1 hres hlt] at hcan
    cases hcan
  | case2 session ns hgo chunk rest sent session' written hres hlt ih => exact ih hcan
  | case3 session ns hgo chunk rest sent session' err hres =>
    exact absurd hres (tcpSend_not_error hc hgo.1)
  | case4 session ns hgo =>
    by_contra hne
    exact hgo ⟨hcan, hne⟩

/-- Of a chunk of the queue the socket takes the front, and the rest is put back. -/
theorem sendQueued_relayed (session : ProxySession) (ns : ProxyNetStack S) (h : Relayed session) :
    Relayed (sendQueued tcp session ns).1 := by
  fun_induction sendQueued tcp session ns with
  | case1 session ns hgo chunk rest sent session' written hres hlt =>
    refine h.extend [.tcpSend chunk (.ok written)] ?_ ?_ (fun _ => ?_) (by simp)
    · simp [session', hres]
    · rw [drainChunk_append session.toRemote ioBufferSize]
      simp only [readFromClient, takenBySocket, pushFrontBytes, chunk, rest, List.flatMap_cons,
        List.flatMap_nil, List.append_nil]
      rw [← List.append_assoc, List.take_append_drop]
    · simp [receivedFromSocket, takenByClient, session']
  | case2 session ns hgo chunk rest sent session' written hres hlt ih =>
    refine ih (h.extend [.tcpSend chunk (.ok written)] ?_ ?_ (fun _ => ?_) (by simp))
    · simp [session', hres]
    · rw [drainChunk_append session.toRemote ioBufferSize]
      simp [readFromClient, takenBySocket, chunk, rest, List.take_of_length_le (not_lt.mp hlt)]
    · simp [receivedFromSocket, takenByClient, session']
  | case3 session ns hgo chunk rest sent session' err hres =>
    exact absurd hres (tcpSend_not_error hc hgo.1)
  | case4 session ns hgo => exact h

/-- What is read goes to the socket first, which has no queue before it; only what the socket does not
take is queued. -/
theorem sendClient_relayed (session : ProxySession) (ns : ProxyNetStack S) (h : Relayed session)
    (hdrained : tcpCanSend tcp ns session.handle = true → session.toRemote = []) :
    Relayed (sendClient tcp session ns).1 := by
  fun_induction sendClient tcp session ns with
  | case1 session ns hcan read session' hread =>
    refine h.extend [.clientRead (.ok []), .tcpClose true session.toRemote] ?_ ?_ (fun _ => ?_) ?_
    · simp [session', hread]
    · simp [readFromClient, takenBySocket, session']
    · simp [receivedFromSocket, takenByClient, session']
    · simp [hdrained hcan]
  | case2 session ns hcan read session' bytes hread hne sent session'' written hres hlt =>
    refine h.extend [.clientRead (.ok bytes), .tcpSend bytes (.ok written)] ?_ ?_ (fun _ => ?_) (by simp)
    · simp [session'', session', hread, hres]
    · simp [readFromClient, takenBySocket, hdrained hcan]
    · simp [receivedFromSocket, takenByClient, session'', session']
  | case3 session ns hcan read session' bytes hread hne sent session'' written hres hlt ih =>
    refine ih (h.extend [.clientRead (.ok bytes), .tcpSend bytes (.ok written)] ?_ ?_ (fun _ => ?_)
      (by simp)) (fun _ => hdrained hcan)
    · simp [session'', session', hread, hres]
    · simp [readFromClient, takenBySocket, session'', session', hdrained hcan,
        List.take_of_length_le (not_lt.mp hlt)]
    · simp [receivedFromSocket, takenByClient, session'', session']
  | case4 session ns hcan read session' bytes hread hne sent session'' err hres =>
    exact absurd hres (tcpSend_not_error hc hcan)
  | case5 session ns hcan read session' err hread hkind =>
    refine h.extend [.clientRead (.error err)] ?_ ?_ (fun _ => ?_) (by simp)
    · simp [session', hread]
    · simp [readFromClient, takenBySocket, session']
    · simp [receivedFromSocket, takenByClient, session']
  | case6 session ns hcan read session' err hread hkind =>
    refine h.extend [.clientRead (.error err), .tcpClose false session.toRemote] ?_ ?_ (fun _ => ?_)
      (by simp)
    · simp [session', hread]
    · simp [readFromClient, takenBySocket, session']
    · simp [receivedFromSocket, takenByClient, session']
  | case7 session ns hcan => exact h

theorem pumpLocal_relayed (session : ProxySession) (ns : ProxyNetStack S) (h : Relayed session) :
    Relayed (pumpLocal tcp session ns).1 := by
  unfold pumpLocal
  by_cases hskip : session.localClosed ∨ ¬ session.socksReplied
  · rw [if_pos hskip]
    exact h
  · rw [if_neg hskip]
    refine sendClient_relayed hc _ _ (sendQueued_relayed hc session ns h) fun hcan => ?_
    rw [(@sendQueued_own S tcp session _).handle_eq] at hcan
    exact sendQueued_drained hc session ns hcan

end Sending

/-- Of a chunk of the queue the client takes the front, and the rest is put back; a failed write loses
the chunk. -/
theorem TcpMove.relayed {session session' : ProxySession} {ns ns' : ProxyNetStack S}
    (hm : TcpMove tcp session ns session' ns') (h : Relayed session) : Relayed session' := by
  cases hm with
  | @received bytes hne hrecv hgo =>
    refine h.extend _ hgo.trace ?_ (fun _ => ?_) (by simp)
    · simp [readFromClient, takenBySocket, hgo.toRemote]
    · simp [receivedFromSocket, takenByClient, hgo.toClient]
  | drained hnone hgo => exact h.of_same (by simp [hgo.trace]) hgo.toRemote hgo.toClient
  | @wrote chunk rest n hq hn hgo =>
    refine h.extend _ hgo.trace ?_ (fun _ => ?_) (by simp)
    · simp [readFromClient, takenBySocket, hgo.toRemote]
    · rw [hq, hgo.toClient]
      simp only [receivedFromSocket, takenByClient, List.flatMap_cons, List.flatMap_nil, List.append_nil]
      rw [← List.append_assoc, List.take_append_drop]
  | closed hq hgo =>
    refine h.extend _ hgo.trace ?_ (fun _ => ?_) (by simp)
    · simp [readFromClient, takenBySocket, hgo.toRemote]
    · simp [receivedFromSocket, takenByClient, hq, hgo.toClient]
  | blocked hq hkind hgo =>
    refine h.extend _ hgo.trace ?_ (fun _ => ?_) (by simp)
    · simp [readFromClient, takenBySocket, hgo.toRemote]
    · simp [receivedFromSocket, takenByClient, hq, hgo.toClient]
  | @failed chunk rest err hq hkind hgo =>
    refine h.extend _ hgo.trace ?_ (fun hno => ?_) (by simp)
    · simp [readFromClient, takenBySocket, hgo.toRemote]
    · exact absurd ⟨chunk, err, List.mem_cons_self, hkind⟩ hno

theorem TcpMoves.relayed {p q : ProxySession × ProxyNetStack S} (hm : TcpMoves tcp p q)
    (h : Relayed p.1) : Relayed q.1 := by
  induction hm with
  | refl => exact h
  | tail _ hmove ih => exact hmove.relayed ih

theorem reply_relayed {session session' : ProxySession} {ns : ProxyNetStack S} (h : Relayed session)
    (hreply : reply tcp session ns = .ok session') : Relayed session' := by
  obtain ⟨-, client, rfl⟩ | ⟨-, rfl⟩ := reply_cases hreply
  · refine h.extend [.replied] rfl ?_ (fun _ => ?_) (by simp)
    · simp [readFromClient, takenBySocket]
    · simp [receivedFromSocket, takenByClient]
  · exact h

theorem pumpTcp_relayed {session session' : ProxySession} {ns ns' : ProxyNetStack S}
    (h : Relayed session) (hpump : pumpTcp tcp session ns = .ok (session', ns')) : Relayed session' := by
  obtain ⟨replied, hreply, hmoves⟩ := pumpTcp_moves hpump
  exact hmoves.relayed (reply_relayed h hreply)

/-! ### Runs -/

variable (tcp) in
/-- The sessions after any calls of the pumps and of the cleanup in any order, while the sockets change
between the calls as they like and clients are accepted. -/
inductive PumpRun : List ProxySession → Prop
  | nil : PumpRun []
  | accept {sessions} (client : TcpStream) (handle : SocketHandle) (h : PumpRun sessions) :
      PumpRun (sessions ++ [.start client handle])
  | pumpLocal {sessions} (ns : ProxyNetStack S) (h : PumpRun sessions) :
      PumpRun (pumpLocalToTcp tcp sessions ns).1
  | pumpTcp {sessions sessions'} {ns ns' : ProxyNetStack S} (h : PumpRun sessions)
      (hpump : pumpTcpToLocal tcp sessions ns = .ok (sessions', ns')) : PumpRun sessions'
  | cleanup {sessions} (ns : ProxyNetStack S) (h : PumpRun sessions) :
      PumpRun (cleanupSessions tcp sessions ns).1

theorem PumpRun.relayed (hc : tcp.SendContract) {sessions : List ProxySession}
    (hrun : PumpRun tcp sessions) : ∀ session ∈ sessions, Relayed session := by
  induction hrun with
  | nil => nofun
  | accept client handle _ ih =>
    intro session hmem
    rcases List.mem_append.mp hmem with hold | hnew
    · exact ih session hold
    · rw [List.mem_singleton.mp hnew]
      exact ⟨rfl, fun _ => rfl, nofun⟩
  | pumpLocal ns _ ih =>
    intro session hmem
    obtain ⟨before, hbefore, ns₁, ns₂, hturn⟩ := mem_pumpAll (pumpAll_pumpLocal _ ns) hmem
    obtain ⟨rfl, -⟩ := Prod.ext_iff.mp (Except.ok.inj hturn)
    exact pumpLocal_relayed hc before ns₁ (ih before hbefore)
  | pumpTcp _ hpump ih =>
    intro session hmem
    rw [← pumpAll_pumpTcp] at hpump
    obtain ⟨before, hbefore, ns₁, ns₂, hturn⟩ := mem_pumpAll hpump hmem
    exact pumpTcp_relayed (ih before hbefore) hturn
  | cleanup ns _ ih =>
    intro session hmem
    rw [cleanupSessions_eq] at hmem
    obtain ⟨before, hbefore, rfl⟩ := List.mem_map.mp hmem
    exact (ih before (List.mem_filter.mp hbefore).1).of_same (trace_noteInactive _ _)
      (toRemote_noteInactive _ _) (toClient_noteInactive _ _)

/-- **What a session through the tunnel relays.**  What the socket accepted, followed by what is queued
for it, is what was read from the client; where no write to the client failed, what the client took
besides the reply, followed by what is queued for it, is what was received (and was taken after the
reply, where nothing was before); and the socket was closed for the end of the client only when nothing
was queued. -/
theorem session_relay_fidelity (hc : tcp.SendContract) {sessions : List ProxySession}
    (hrun : PumpRun tcp sessions) {session : ProxySession} (hmem : session ∈ sessions) :
    takenBySocket session.trace ++ session.toRemote = readFromClient session.trace ∧
    (¬ ClientWriteFailed session.trace →
      takenByClient session.trace ++ session.toClient = receivedFromSocket session.trace ∧
      ∀ before after, session.trace = before ++ .replied :: after → takenByClient before = [] →
        takenByClient after ++ session.toClient = receivedFromSocket session.trace) ∧
    ∀ pending, .tcpClose true pending ∈ session.trace → pending = [] := by
  obtain ⟨hup, hdown, hclosed⟩ := hrun.relayed hc session hmem
  refine ⟨hup, fun hno => ⟨hdown hno, fun before after hsplit hnone => ?_⟩, hclosed⟩
  rw [← hdown hno, hsplit, takenByClient_append, hnone]
  rfl

theorem tcpSockets_sendContract : tcpSockets.SendContract where
  send_ok := by
    intro socket hcan data
    have hmay : socket.state.maySend = true := (Bool.and_eq_true_iff.mp hcan).1
    refine ⟨min data.length socket.room, Nat.min_le_left _ _, ?_⟩
    simp only [tcpSockets]
    rw [if_pos hmay]
  send_short := by
    intro socket data n hcan hsent hlt
    have hmay : socket.state.maySend = true := (Bool.and_eq_true_iff.mp hcan).1
    simp only [tcpSockets] at hsent ⊢
    rw [if_pos hmay] at hsent ⊢
    cases hsent
    have hfull : socket.room - data.length = 0 := by omega
    simp [hfull]

/-- A client that sends three bytes and takes one besides the reply. -/
def halfwayClient : TcpStream := ⟨[.ok [1, 2, 3]], [.ok 10, .ok 1]⟩

/-- A socket with room for two bytes that has received two. -/
def halfwayStack : ProxyNetStack TcpSocket := ⟨fun _ => ⟨.established, 2, [7, 8]⟩, [0]⟩

/-- The session after a turn of either pump. -/
def halfwaySessions : List ProxySession :=
  match pumpTcpToLocal tcpSockets [.start halfwayClient 0] halfwayStack with
  | .ok (sessions, _) => (pumpLocalToTcp tcpSockets sessions halfwayStack).1
  | .error _ => []

/-- The session has a byte queued either way. -/
theorem session_relay_fidelity_halfway :
    halfwaySessions.map (fun session => (session.toRemote, session.toClient)) = [([3], [8])] ∧
      ∀ session ∈ halfwaySessions,
        takenBySocket session.trace ++ session.toRemote = readFromClient session.trace := by
  have hrun : PumpRun tcpSockets halfwaySessions := by
    unfold halfwaySessions
    split
    · rename_i hpump
      exact .pumpLocal _ (.pumpTcp (.accept halfwayClient 0 .nil) hpump)
    · exact .nil
  refine ⟨by decide +kernel, fun session hmem => ?_⟩
  exact (session_relay_fidelity tcpSockets_sendContract hrun hmem).1

end OpenfortivpnRs.Proxy
