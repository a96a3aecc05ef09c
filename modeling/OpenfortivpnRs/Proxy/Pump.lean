import OpenfortivpnRs.Proxy.Moves

/-!
# What the pumps keep

Neither pump makes a socket active that was not or undoes a connection, bytes wait for the remote only
where there is a connection, and what waits for a socket that is gone stays (`Turn`, `Pumped`).
-/

namespace OpenfortivpnRs.Proxy

open Relation

variable {S : Type} {tcp : Smoltcp S}

variable (tcp) in
/-- What `smoltcp` documents of its sockets: data is taken only while the transmit half is open, and
of what the program does to a socket only closing it changes the state. -/
structure Smoltcp.Contract : Prop where
  maySend : ∀ {s}, tcp.canSend s = true → (tcp.state s).maySend = true
  state_send : ∀ s data, tcp.state (tcp.send s data).2 = tcp.state s
  state_recv : ∀ s max, tcp.state (tcp.recv s max).2 = tcp.state s
  state_close : ∀ s, tcp.state (tcp.close s) = (tcp.state s).close

namespace TcpState

theorem maySend_active {state : TcpState} (h : state.maySend = true) : state.isActive = true := by
  cases state <;> first | rfl | cases h

theorem maySend_synchronized {state : TcpState} (h : state.maySend = true) :
    state.synchronized = true := by
  cases state <;> first | rfl | cases h

theorem synchronized_active {state : TcpState} (h : state.synchronized = true) :
    state.isActive = true := by
  cases state <;> first | rfl | cases h

theorem close_inactive {state : TcpState} (h : state.isActive = false) :
    state.close.isActive = false := by
  cases state <;> first | rfl | cases h

theorem close_synchronized {state : TcpState} (h : state.synchronized = true) :
    state.close.synchronized = true := by
  cases state <;> first | rfl | cases h

end TcpState

/-! ### What a pump does to the stack -/

variable (tcp) in
/-- The same sockets are live, none has become active, and no connection is gone. -/
structure Steady (ns ns' : ProxyNetStack S) : Prop where
  live : ns'.live = ns.live
  inactive : ∀ h, tcpIsActive tcp ns h = false → tcpIsActive tcp ns' h = false
  synchronized : ∀ h, (tcpState tcp ns h).synchronized = true →
    (tcpState tcp ns' h).synchronized = true

theorem Steady.refl (ns : ProxyNetStack S) : Steady tcp ns ns := ⟨rfl, fun _ => id, fun _ => id⟩

theorem Steady.trans {a b c : ProxyNetStack S} (hab : Steady tcp a b) (hbc : Steady tcp b c) :
    Steady tcp a c where
  live := hbc.live.trans hab.live
  inactive h hi := hbc.inactive h (hab.inactive h hi)
  synchronized h hs := hbc.synchronized h (hab.synchronized h hs)

theorem tcpState_update (ns : ProxyNetStack S) (h h' : SocketHandle) (socket : S) :
    tcpState tcp { ns with sockets := Function.update ns.sockets h socket } h' =
      if h' = h then tcp.state socket else tcpState tcp ns h' := by
  unfold tcpState
  by_cases heq : h' = h
  · subst heq
    simp
  · simp [heq]

theorem steady_update {ns : ProxyNetStack S} {h : SocketHandle} {socket : S}
    (hi : tcpIsActive tcp ns h = false → (tcp.state socket).isActive = false)
    (hs : (tcpState tcp ns h).synchronized = true → (tcp.state socket).synchronized = true) :
    Steady tcp ns { ns with sockets := Function.update ns.sockets h socket } := by
  refine ⟨rfl, fun h' hi' => ?_, fun h' hs' => ?_⟩
  · unfold tcpIsActive
    rw [tcpState_update]
    by_cases heq : h' = h
    · subst heq
      rw [if_pos rfl]
      exact hi hi'
    · rw [if_neg heq]
      exact hi'
  · rw [tcpState_update]
    by_cases heq : h' = h
    · subst heq
      rw [if_pos rfl]
      exact hs hs'
    · rw [if_neg heq]
      exact hs'

section Operations

variable (hc : tcp.Contract) (ns : ProxyNetStack S) (h : SocketHandle)

include hc

theorem steady_send (data : List UInt8) : Steady tcp ns (tcpSend tcp ns h data).2 := by
  refine steady_update (fun hi => ?_) (fun hs => ?_)
  · rw [hc.state_send]
    exact hi
  · rw [hc.state_send]
    exact hs

theorem steady_recv (max : ℕ) : Steady tcp ns (tcpRecv tcp ns h max).2 := by
  refine steady_update (fun hi => ?_) (fun hs => ?_)
  · rw [hc.state_recv]
    exact hi
  · rw [hc.state_recv]
    exact hs

theorem steady_close : Steady tcp ns (tcpClose tcp ns h) := by
  refine steady_update (fun hi => ?_) (fun hs => ?_)
  · rw [hc.state_close]
    exact TcpState.close_inactive hi
  · rw [hc.state_close]
    exact TcpState.close_synchronized hs

end Operations

/-! ### What a pump does to one session -/

variable (tcp) in
/-- What waits for the remote waits for a connection. -/
def Sending (ns : ProxyNetStack S) (session : ProxySession) : Prop :=
  session.toRemote ≠ [] → (tcpState tcp ns session.handle).synchronized = true

variable (tcp) in
/-- Bytes wait for a socket that is gone. -/
def Stranded (ns : ProxyNetStack S) (session : ProxySession) : Prop :=
  tcpIsActive tcp ns session.handle = false ∧ session.toRemote ≠ []

theorem Sending.of_steady {ns ns' : ProxyNetStack S} {session session' : ProxySession}
    (h : Sending tcp ns session) (hhandle : session'.handle = session.handle)
    (hq : session'.toRemote = session.toRemote) (hs : Steady tcp ns ns') :
    Sending tcp ns' session' := by
  intro hne
  rw [hq] at hne
  rw [hhandle]
  exact hs.synchronized _ (h hne)

theorem Sending.toRemote_nil {ns : ProxyNetStack S} {session : ProxySession}
    (h : Sending tcp ns session) (hi : tcpIsActive tcp ns session.handle = false) :
    session.toRemote = [] := by
  by_contra hne
  have hactive : tcpIsActive tcp ns session.handle = true := TcpState.synchronized_active (h hne)
  rw [hi] at hactive
  cases hactive

theorem Stranded.of_steady {ns ns' : ProxyNetStack S} {session session' : ProxySession}
    (h : Stranded tcp ns session) (hhandle : session'.handle = session.handle)
    (hq : session'.toRemote = session.toRemote) (hs : Steady tcp ns ns') :
    Stranded tcp ns' session' := by
  refine ⟨?_, ?_⟩
  · rw [hhandle]
    exact hs.inactive _ h.1
  · rw [hq]
    exact h.2

variable (tcp) in
/-- A session and the stack before and after one turn of a pump. -/
structure Turn (session : ProxySession) (ns : ProxyNetStack S) (session' : ProxySession)
    (ns' : ProxyNetStack S) : Prop where
  handle : session'.handle = session.handle
  steady : Steady tcp ns ns'
  sending : Sending tcp ns session → Sending tcp ns' session'
  stranded : Stranded tcp ns session → Stranded tcp ns' session'

theorem Turn.trans {a b c : ProxySession} {na nb nc : ProxyNetStack S} (hab : Turn tcp a na b nb)
    (hbc : Turn tcp b nb c nc) : Turn tcp a na c nc where
  handle := hbc.handle.trans hab.handle
  steady := hab.steady.trans hbc.steady
  sending h := hbc.sending (hab.sending h)
  stranded h := hbc.stranded (hab.stranded h)

/-- Nothing is taken from or added to what waits for the remote. -/
theorem Turn.of_steady {session session' : ProxySession} {ns ns' : ProxyNetStack S}
    (hhandle : session'.handle = session.handle) (hq : session'.toRemote = session.toRemote)
    (hs : Steady tcp ns ns') : Turn tcp session ns session' ns' :=
  ⟨hhandle, hs, fun h => h.of_steady hhandle hq hs, fun h => h.of_steady hhandle hq hs⟩

theorem Turn.refl (session : ProxySession) (ns : ProxyNetStack S) : Turn tcp session ns session ns :=
  .of_steady rfl rfl (.refl ns)

/-- Data is sent while the socket has a connection, whatever becomes of the queue. -/
theorem Turn.of_send (hc : tcp.Contract) {session session' : ProxySession} {ns : ProxyNetStack S}
    (hcan : tcpCanSend tcp ns session.handle = true) (data : List UInt8)
    (hhandle : session'.handle = session.handle) :
    Turn tcp session ns session' (tcpSend tcp ns session.handle data).2 := by
  have hmay : (tcpState tcp ns session.handle).maySend = true := hc.maySend hcan
  have hsteady := steady_send hc ns session.handle data
  refine ⟨hhandle, hsteady, fun _ _ => ?_, fun hst => ?_⟩
  · rw [hhandle]
    exact hsteady.synchronized _ (TcpState.maySend_synchronized hmay)
  · have hactive : tcpIsActive tcp ns session.handle = true := TcpState.maySend_active hmay
    rw [hst.1] at hactive
    cases hactive

theorem reply_turn {session session' : ProxySession} {ns : ProxyNetStack S}
    (h : reply tcp session ns = .ok session') : Turn tcp session ns session' ns := by
  obtain ⟨-, client, rfl⟩ | ⟨-, rfl⟩ := reply_cases h
  · exact .of_steady rfl rfl (.refl ns)
  · exact .refl session' ns

section Sessions

variable (hc : tcp.Contract)

include hc

theorem LocalMove.turn {session session' : ProxySession} {ns ns' : ProxyNetStack S}
    (hm : LocalMove tcp session ns session' ns') : Turn tcp session ns session' ns' := by
  cases hm with
  | sent hcan hq hsent h => exact .of_send hc hcan _ h.handle
  | @failed chunk rest err hcan hq hsent h =>
    refine Turn.trans (.of_send hc hcan chunk h.handle) ?_
    rw [← h.handle]
    exact .of_steady rfl rfl (steady_close hc _ _)
  | forwarded hcan hne hsent h => exact .of_send hc hcan _ h.handle
  | @refused bytes err hcan hne hsent h =>
    refine Turn.trans (.of_send hc hcan bytes h.handle) ?_
    rw [← h.handle]
    exact .of_steady rfl rfl (steady_close hc _ _)
  | idle hcan hkind h => exact .of_steady h.handle h.toRemote (.refl ns)
  | eof hcan h => exact .of_steady h.handle h.toRemote (steady_close hc _ _)
  | broken hcan hkind h => exact .of_steady h.handle h.toRemote (steady_close hc _ _)

theorem TcpMove.turn {session session' : ProxySession} {ns ns' : ProxyNetStack S}
    (hm : TcpMove tcp session ns session' ns') : Turn tcp session ns session' ns' := by
  cases hm with
  | received hne hrecv h => exact .of_steady h.handle h.toRemote (steady_recv hc _ _ _)
  | drained hnone h => exact .of_steady h.handle h.toRemote (steady_recv hc _ _ _)
  | wrote hq hn h => exact .of_steady h.handle h.toRemote (.refl ns)
  | closed hq h => exact .of_steady h.handle h.toRemote (steady_close hc _ _)
  | blocked hq hkind h => exact .of_steady h.handle h.toRemote (.refl ns)
  | failed hq hkind h => exact .of_steady h.handle h.toRemote (steady_close hc _ _)

theorem LocalMoves.turn {p q : ProxySession × ProxyNetStack S} (hm : LocalMoves tcp p q) :
    Turn tcp p.1 p.2 q.1 q.2 := by
  induction hm with
  | refl => exact .refl p.1 p.2
  | tail _ hmove ih => exact ih.trans (hmove.turn hc)

theorem TcpMoves.turn {p q : ProxySession × ProxyNetStack S} (hm : TcpMoves tcp p q) :
    Turn tcp p.1 p.2 q.1 q.2 := by
  induction hm with
  | refl => exact .refl p.1 p.2
  | tail _ hmove ih => exact ih.trans (hmove.turn hc)

theorem pumpLocal_turn (session : ProxySession) (ns : ProxyNetStack S) :
    Turn tcp session ns (pumpLocal tcp session ns).1 (pumpLocal tcp session ns).2 :=
  (pumpLocal_moves session ns).turn hc

theorem pumpTcp_turn {session session' : ProxySession} {ns ns' : ProxyNetStack S}
    (h : pumpTcp tcp session ns = .ok (session', ns')) : Turn tcp session ns session' ns' := by
  obtain ⟨replied, hreply, hmoves⟩ := pumpTcp_moves h
  exact (reply_turn hreply).trans (hmoves.turn hc)

end Sessions

/-! ### What a pump does to all sessions -/

variable (tcp) in
/-- The sessions and the stack before and after a pump. -/
structure Pumped (sessions : List ProxySession) (ns : ProxyNetStack S)
    (sessions' : List ProxySession) (ns' : ProxyNetStack S) : Prop where
  handles : sessions'.map (·.handle) = sessions.map (·.handle)
  steady : Steady tcp ns ns'
  sending : (∀ session ∈ sessions, Sending tcp ns session) →
    ∀ session ∈ sessions', Sending tcp ns' session
  stranded : ∀ session ∈ sessions, Stranded tcp ns session →
    ∃ session' ∈ sessions', session'.handle = session.handle ∧ Stranded tcp ns' session'

theorem Pumped.nil (ns : ProxyNetStack S) : Pumped tcp [] ns [] ns where
  handles := rfl
  steady := .refl ns
  sending _ _ hmem := by cases hmem
  stranded _ hmem := by cases hmem

theorem Pumped.cons {session session' : ProxySession} {sessions sessions' : List ProxySession}
    {ns ns' ns'' : ProxyNetStack S} (ht : Turn tcp session ns session' ns')
    (hp : Pumped tcp sessions ns' sessions' ns'') :
    Pumped tcp (session :: sessions) ns (session' :: sessions') ns'' where
  handles := by simp [ht.handle, hp.handles]
  steady := ht.steady.trans hp.steady
  sending hall s hmem := by
    rcases List.mem_cons.mp hmem with rfl | hmem
    · exact (ht.sending (hall session List.mem_cons_self)).of_steady rfl rfl hp.steady
    · refine hp.sending (fun s hs => ?_) s hmem
      exact (hall s (List.mem_cons_of_mem _ hs)).of_steady rfl rfl ht.steady
  stranded s hmem hst := by
    rcases List.mem_cons.mp hmem with rfl | hmem
    · refine ⟨session', List.mem_cons_self, ht.handle, ?_⟩
      exact (ht.stranded hst).of_steady rfl rfl hp.steady
    · obtain ⟨s', hs', hrest⟩ := hp.stranded s hmem (hst.of_steady rfl rfl ht.steady)
      exact ⟨s', List.mem_cons_of_mem _ hs', hrest⟩

theorem pumpLocalToTcp_pumped (hc : tcp.Contract) {sessions sessions' : List ProxySession}
    {ns ns' : ProxyNetStack S} (h : pumpLocalToTcp tcp sessions ns = (sessions', ns')) :
    Pumped tcp sessions ns sessions' ns' := by
  induction sessions generalizing ns sessions' with
  | nil =>
    cases h
    exact .nil _
  | cons session sessions ih =>
    cases h
    exact .cons (pumpLocal_turn hc session ns) (ih rfl)

theorem pumpTcpToLocal_pumped (hc : tcp.Contract) {sessions sessions' : List ProxySession}
    {ns ns' : ProxyNetStack S} (h : pumpTcpToLocal tcp sessions ns = .ok (sessions', ns')) :
    Pumped tcp sessions ns sessions' ns' := by
  induction sessions generalizing ns sessions' with
  | nil =>
    cases h
    exact .nil _
  | cons session sessions ih =>
    unfold pumpTcpToLocal at h
    split at h
    · cases h
    · rename_i session' ns₁ hturn
      split at h
      · cases h
      · rename_i rest ns₂ hrest
        cases h
        exact .cons (pumpTcp_turn hc hturn) (ih hrest)

end OpenfortivpnRs.Proxy
