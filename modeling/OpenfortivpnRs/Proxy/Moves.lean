import OpenfortivpnRs.Proxy.Session

/-!
# What the turn of a session is made of

A turn of a pump does one thing after another for its session, and each changes a queue, appends to the
trace and acts on the socket (`LocalMove`, `TcpMove`).  What every move keeps, a turn keeps.
-/

namespace OpenfortivpnRs.Proxy

open Relation

variable {S : Type} {tcp : Smoltcp S}

@[simp] theorem handle_markClosed (session : ProxySession) (reason : String) :
    (session.markClosed reason).handle = session.handle := by
  unfold ProxySession.markClosed; split <;> rfl

@[simp] theorem toRemote_markClosed (session : ProxySession) (reason : String) :
    (session.markClosed reason).toRemote = session.toRemote := by
  unfold ProxySession.markClosed; split <;> rfl

@[simp] theorem toClient_markClosed (session : ProxySession) (reason : String) :
    (session.markClosed reason).toClient = session.toClient := by
  unfold ProxySession.markClosed; split <;> rfl

@[simp] theorem trace_markClosed (session : ProxySession) (reason : String) :
    (session.markClosed reason).trace = session.trace := by
  unfold ProxySession.markClosed; split <;> rfl

@[simp] theorem socksReplied_markClosed (session : ProxySession) (reason : String) :
    (session.markClosed reason).socksReplied = session.socksReplied := by
  unfold ProxySession.markClosed; split <;> rfl

/-- The session goes on with these queues, after these events. -/
structure GoesOn (session session' : ProxySession) (toRemote toClient : List UInt8)
    (es : List SessionEvent) : Prop where
  handle : session'.handle = session.handle
  socksReplied : session'.socksReplied = session.socksReplied
  toRemote : session'.toRemote = toRemote
  toClient : session'.toClient = toClient
  trace : session'.trace = session.trace ++ es

variable (tcp) in
/-- What `pump_local_to_tcp` does in a turn, one thing at a time. -/
inductive LocalMove (s : ProxySession) (ns : ProxyNetStack S) (s' : ProxySession) :
    ProxyNetStack S → Prop
  | sent {chunk rest n} (hcan : tcpCanSend tcp ns s.handle = true) (hq : s.toRemote = chunk ++ rest)
      (hsent : (tcpSend tcp ns s.handle chunk).1 = .ok n)
      (h : GoesOn s s' (chunk.drop n ++ rest) s.toClient [.tcpSend chunk (.ok n)]) :
      LocalMove s ns s' (tcpSend tcp ns s.handle chunk).2
  /-- The chunk that was taken off the queue is lost. -/
  | failed {chunk rest err} (hcan : tcpCanSend tcp ns s.handle = true)
      (hq : s.toRemote = chunk ++ rest) (hsent : (tcpSend tcp ns s.handle chunk).1 = .error err)
      (h : GoesOn s s' rest s.toClient [.tcpSend chunk (.error err), .tcpClose false rest]) :
      LocalMove s ns s' (tcpClose tcp (tcpSend tcp ns s.handle chunk).2 s.handle)
  | forwarded {bytes n} (hcan : tcpCanSend tcp ns s.handle = true) (hne : bytes ≠ [])
      (hsent : (tcpSend tcp ns s.handle bytes).1 = .ok n)
      (h : GoesOn s s' (s.toRemote ++ bytes.drop n) s.toClient
        [.clientRead (.ok bytes), .tcpSend bytes (.ok n)]) :
      LocalMove s ns s' (tcpSend tcp ns s.handle bytes).2
  /-- What was read is lost. -/
  | refused {bytes err} (hcan : tcpCanSend tcp ns s.handle = true) (hne : bytes ≠ [])
      (hsent : (tcpSend tcp ns s.handle bytes).1 = .error err)
      (h : GoesOn s s' s.toRemote s.toClient
        [.clientRead (.ok bytes), .tcpSend bytes (.error err), .tcpClose false s.toRemote]) :
      LocalMove s ns s' (tcpClose tcp (tcpSend tcp ns s.handle bytes).2 s.handle)
  | idle {err} (hcan : tcpCanSend tcp ns s.handle = true) (hkind : err.kind = .wouldBlock)
      (h : GoesOn s s' s.toRemote s.toClient [.clientRead (.error err)]) : LocalMove s ns s' ns
  | eof (hcan : tcpCanSend tcp ns s.handle = true)
      (h : GoesOn s s' s.toRemote s.toClient [.clientRead (.ok []), .tcpClose true s.toRemote]) :
      LocalMove s ns s' (tcpClose tcp ns s.handle)
  | broken {err} (hcan : tcpCanSend tcp ns s.handle = true) (hkind : err.kind ≠ .wouldBlock)
      (h : GoesOn s s' s.toRemote s.toClient
        [.clientRead (.error err), .tcpClose false s.toRemote]) :
      LocalMove s ns s' (tcpClose tcp ns s.handle)

variable (tcp) in
/-- What `pump_tcp_to_local` does in a turn after the reply, one thing at a time. -/
inductive TcpMove (s : ProxySession) (ns : ProxyNetStack S) (s' : ProxySession) :
    ProxyNetStack S → Prop
  | received {bytes} (hne : bytes ≠ []) (hrecv : (tcpRecv tcp ns s.handle ioBufferSize).1 = .ok bytes)
      (h : GoesOn s s' s.toRemote (s.toClient ++ bytes) [.tcpRecv bytes]) :
      TcpMove s ns s' (tcpRecv tcp ns s.handle ioBufferSize).2
  /-- Nothing is there, or no more will come: the program takes both alike. -/
  | drained (hnone : ∀ bytes, (tcpRecv tcp ns s.handle ioBufferSize).1 = .ok bytes → bytes = [])
      (h : GoesOn s s' s.toRemote s.toClient []) :
      TcpMove s ns s' (tcpRecv tcp ns s.handle ioBufferSize).2
  | wrote {chunk rest n} (hq : s.toClient = chunk ++ rest) (hn : n ≠ 0)
      (h : GoesOn s s' s.toRemote (chunk.drop n ++ rest) [.clientWrite chunk (.ok n)]) :
      TcpMove s ns s' ns
  /-- A write of no bytes: the chunk goes back. -/
  | closed {chunk rest} (hq : s.toClient = chunk ++ rest)
      (h : GoesOn s s' s.toRemote (chunk ++ rest)
        [.clientWrite chunk (.ok 0), .tcpClose false s.toRemote]) :
      TcpMove s ns s' (tcpClose tcp ns s.handle)
  | blocked {chunk rest err} (hq : s.toClient = chunk ++ rest) (hkind : err.kind = .wouldBlock)
      (h : GoesOn s s' s.toRemote (chunk ++ rest) [.clientWrite chunk (.error err)]) : TcpMove s ns s' ns
  /-- The chunk that was taken off the queue is lost. -/
  | failed {chunk rest err} (hq : s.toClient = chunk ++ rest) (hkind : err.kind ≠ .wouldBlock)
      (h : GoesOn s s' s.toRemote rest [.clientWrite chunk (.error err), .tcpClose false s.toRemote]) :
      TcpMove s ns s' (tcpClose tcp ns s.handle)

variable (tcp) in
/-- A session and the stack before and after some such things. -/
def LocalMoves : ProxySession × ProxyNetStack S → ProxySession × ProxyNetStack S → Prop :=
  ReflTransGen fun p q => LocalMove tcp p.1 p.2 q.1 q.2

variable (tcp) in
/-- The same for `pump_tcp_to_local`. -/
def TcpMoves : ProxySession × ProxyNetStack S → ProxySession × ProxyNetStack S → Prop :=
  ReflTransGen fun p q => TcpMove tcp p.1 p.2 q.1 q.2

/-! ### The loops -/

theorem sendQueued_moves (session : ProxySession) (ns : ProxyNetStack S) :
    LocalMoves tcp (session, ns) (sendQueued tcp session ns) := by
  fun_induction sendQueued tcp session ns with
  | case1 session ns hgo chunk rest sent session' written hres hlt =>
    exact .single (.sent hgo.1 (drainChunk_append ..) hres
      ⟨rfl, rfl, rfl, rfl, by simp [session', hres]⟩)
  | case2 session ns hgo chunk rest sent session' written hres hlt ih =>
    -- the whole chunk is taken and the loop goes on
    refine .head ?_ ih
    refine .sent hgo.1 (drainChunk_append ..) hres ⟨rfl, rfl, ?_, rfl, ?_⟩
    · change rest = chunk.drop written ++ rest
      rw [List.drop_of_length_le (not_lt.mp hlt), List.nil_append]
    · simp [session', hres]
  | case3 session ns hgo chunk rest sent session' err hres =>
    exact .single (.failed hgo.1 (drainChunk_append ..) hres
      ⟨by simp [session'], by simp [session'], by simp [rest], by simp [session'],
        by simp [session', rest, hres]⟩)
  | case4 session ns hgo => exact .refl

theorem sendClient_moves (session : ProxySession) (ns : ProxyNetStack S) :
    LocalMoves tcp (session, ns) (sendClient tcp session ns) := by
  fun_induction sendClient tcp session ns with
  | case1 session ns hcan read session' hread =>
    exact .single (.eof hcan ⟨by simp [session'], by simp [session'], by simp [session'],
      by simp [session'], by simp [session', hread]⟩)
  | case2 session ns hcan read session' bytes hread hne sent session'' written hres hlt =>
    exact .single (.forwarded hcan hne hres
      ⟨rfl, rfl, rfl, rfl, by simp [session'', session', hread, hres]⟩)
  | case3 session ns hcan read session' bytes hread hne sent session'' written hres hlt ih =>
    -- all that was read is taken and the loop goes on
    refine .head ?_ ih
    refine .forwarded hcan hne hres ⟨rfl, rfl, ?_, rfl, ?_⟩
    · change session.toRemote = session.toRemote ++ bytes.drop written
      rw [List.drop_of_length_le (not_lt.mp hlt), List.append_nil]
    · simp [session'', session', hread, hres]
  | case4 session ns hcan read session' bytes hread hne sent session'' err hres =>
    exact .single (.refused hcan hne hres ⟨by simp [session'', session'], by simp [session'', session'],
      by simp [session'', session'], by simp [session'', session'],
      by simp [session'', session', hread, hres]⟩)
  | case5 session ns hcan read session' err hread hkind =>
    exact .single (.idle hcan hkind ⟨rfl, rfl, rfl, rfl, by simp [session', hread]⟩)
  | case6 session ns hcan read session' err hread hkind =>
    exact .single (.broken hcan hkind ⟨by simp [session'], by simp [session'], by simp [session'],
      by simp [session'], by simp [session', hread]⟩)
  | case7 session ns hcan => exact .refl

theorem pumpLocal_moves (session : ProxySession) (ns : ProxyNetStack S) :
    LocalMoves tcp (session, ns) (pumpLocal tcp session ns) := by
  unfold pumpLocal
  by_cases hskip : session.localClosed ∨ ¬ session.socksReplied
  · rw [if_pos hskip]
    exact .refl
  · rw [if_neg hskip]
    exact (sendQueued_moves session ns).trans (sendClient_moves _ _)

theorem receive_moves (session : ProxySession) (ns : ProxyNetStack S) :
    TcpMoves tcp (session, ns) (receive tcp session ns) := by
  fun_induction receive tcp session ns with
  | case1 session ns received hrecv =>
    refine .single (.drained (fun bytes hok => ?_) ⟨rfl, rfl, rfl, rfl, (List.append_nil _).symm⟩)
    rw [hrecv] at hok
    exact (Except.ok.inj hok).symm
  | case2 session ns received bytes hrecv hne ih =>
    refine .head ?_ ih
    exact .received hne hrecv ⟨rfl, rfl, rfl, rfl, rfl⟩
  | case3 session ns received err hrecv =>
    refine .single (.drained (fun bytes hok => ?_) ⟨rfl, rfl, rfl, rfl, (List.append_nil _).symm⟩)
    rw [hrecv] at hok
    cases hok

theorem deliver_moves (session : ProxySession) (ns : ProxyNetStack S) :
    TcpMoves tcp (session, ns) (deliver tcp session ns) := by
  have hsplit := fun session : ProxySession => drainChunk_append session.toClient ioBufferSize
  fun_induction deliver tcp session ns with
  | case1 session hq => exact .refl
  | case2 session hq chunk rest written session' hres =>
    exact .single (.closed (hsplit session) ⟨by simp [session'], by simp [session'], by simp [session'],
      by simp [pushFrontBytes, chunk, rest], by simp [session', chunk, hres]⟩)
  | case3 session hq chunk rest written session' n hres hn hlt =>
    exact .single (.wrote (hsplit session) hn
      ⟨rfl, rfl, rfl, rfl, by simp [session', chunk, hres]⟩)
  | case4 session hq chunk rest written session' n hres hn hlt ih =>
    -- the whole chunk is taken and the loop goes on
    refine .head ?_ ih
    refine .wrote (hsplit session) hn ⟨rfl, rfl, rfl, ?_, by simp [session', chunk, hres]⟩
    change rest = chunk.drop n ++ rest
    rw [List.drop_of_length_le (not_lt.mp hlt), List.nil_append]
  | case5 session hq chunk rest written session' err hres hkind =>
    exact .single (.blocked (hsplit session) hkind
      ⟨rfl, rfl, rfl, rfl, by simp [session', chunk, hres]⟩)
  | case6 session hq chunk rest written session' err hres hkind =>
    exact .single (.failed (hsplit session) hkind ⟨by simp [session'], by simp [session'],
      by simp [session'], by simp [rest], by simp [session', chunk, hres]⟩)

/-- The reply is written when it is due, and only then. -/
theorem reply_cases {session session' : ProxySession} {ns : ProxyNetStack S}
    (h : reply tcp session ns = .ok session') :
    (session.socksReplied = false ∧ tcpIsEstablished tcp ns session.handle = true) ∧
        (∃ client, session' =
          { session with client := client, socksReplied := true }.record .replied) ∨
      ¬ (session.socksReplied = false ∧ tcpIsEstablished tcp ns session.handle = true) ∧
        session' = session := by
  unfold reply at h
  split at h
  · rename_i hdue
    split at h
    · exact .inl ⟨by simpa using hdue, _, (Except.ok.inj h).symm⟩
    · cases h
  · rename_i hdue
    exact .inr ⟨by simpa using hdue, (Except.ok.inj h).symm⟩

/-- A turn of `pump_tcp_to_local` is its reply and such moves. -/
theorem pumpTcp_moves {session session' : ProxySession} {ns ns' : ProxyNetStack S}
    (h : pumpTcp tcp session ns = .ok (session', ns')) :
    ∃ replied, reply tcp session ns = .ok replied ∧ TcpMoves tcp (replied, ns) (session', ns') := by
  unfold pumpTcp at h
  split at h
  · cases h
  · rename_i replied hreply
    refine ⟨replied, hreply, ?_⟩
    rw [← Except.ok.inj h]
    exact (receive_moves replied ns).trans (deliver_moves _ _)

end OpenfortivpnRs.Proxy
