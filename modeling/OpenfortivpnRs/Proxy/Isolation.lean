import OpenfortivpnRs.Proxy.Pump

/-!
# One session at a time

What a pump does to a session depends on the session and its own socket only, and touches no other
socket (`Own`).  So a pump over all sessions does to each what it would do to it alone
(`pumpLocalToTcp_alone`, `pumpTcpToLocal_alone`).
-/

namespace OpenfortivpnRs.Proxy

variable {S : Type} {tcp : Smoltcp S}

/-- The stack with a socket put in place. -/
def ProxyNetStack.put (ns : ProxyNetStack S) (h : SocketHandle) (socket : S) : ProxyNetStack S :=
  { ns with sockets := Function.update ns.sockets h socket }

section Put

variable (ns : ProxyNetStack S) (h : SocketHandle) (socket : S)

@[simp] theorem put_self : ns.put h (ns.sockets h) = ns := by
  unfold ProxyNetStack.put
  rw [Function.update_eq_self]

@[simp] theorem put_sockets : (ns.put h socket).sockets h = socket := Function.update_self ..

theorem put_sockets_of_ne {h' : SocketHandle} (hne : h' ≠ h) :
    (ns.put h socket).sockets h' = ns.sockets h' := Function.update_of_ne hne ..

@[simp] theorem put_put (socket' : S) : (ns.put h socket).put h socket' = ns.put h socket' := by
  unfold ProxyNetStack.put
  simp only [Function.update_idem]

@[simp] theorem tcpState_put : tcpState tcp (ns.put h socket) h = tcp.state socket := by
  unfold tcpState
  rw [put_sockets]

@[simp] theorem tcpCanSend_put : tcpCanSend tcp (ns.put h socket) h = tcp.canSend socket := by
  unfold tcpCanSend
  rw [put_sockets]

@[simp] theorem tcpSend_put (data : List UInt8) :
    tcpSend tcp (ns.put h socket) h data = ((tcp.send socket data).1, ns.put h (tcp.send socket data).2) := by
  unfold tcpSend
  rw [put_sockets]
  exact Prod.ext rfl (put_put ..)

@[simp] theorem tcpRecv_put (max : ℕ) :
    tcpRecv tcp (ns.put h socket) h max = ((tcp.recv socket max).1, ns.put h (tcp.recv socket max).2) := by
  unfold tcpRecv
  rw [put_sockets]
  exact Prod.ext rfl (put_put ..)

@[simp] theorem tcpClose_put : tcpClose tcp (ns.put h socket) h = ns.put h (tcp.close socket) := by
  unfold tcpClose
  rw [put_sockets]
  exact put_put ..

end Put

/-- A part of a pump that does something to a session and its own socket, whatever else the stack
holds. -/
def Own (part : ProxySession → ProxyNetStack S → ProxySession × ProxyNetStack S)
    (session : ProxySession) (socket : S) : Prop :=
  ∃ session' socket', session'.handle = session.handle ∧ ∀ ns : ProxyNetStack S,
    part session (ns.put session.handle socket) = (session', ns.put session.handle socket')

section Parts

variable {part : ProxySession → ProxyNetStack S → ProxySession × ProxyNetStack S}
  {session session' : ProxySession} {socket socket' : S}

theorem Own.of_eq (hpart : ∀ ns : ProxyNetStack S,
    part session (ns.put session.handle socket) = (session', ns.put session.handle socket'))
    (hhandle : session'.handle = session.handle) : Own part session socket :=
  ⟨session', socket', hhandle, hpart⟩

theorem Own.idle (hpart : ∀ ns : ProxyNetStack S,
    part session (ns.put session.handle socket) = (session, ns.put session.handle socket)) :
    Own part session socket := ⟨session, socket, rfl, hpart⟩

/-- The part goes on as another (or again) with a changed session and socket. -/
theorem Own.step {next : ProxySession → ProxyNetStack S → ProxySession × ProxyNetStack S}
    (hown : Own next session' socket') (hpart : ∀ ns : ProxyNetStack S,
    part session (ns.put session.handle socket) = next session' (ns.put session'.handle socket'))
    (hhandle : session'.handle = session.handle) : Own part session socket := by
  obtain ⟨s, k, hs, hrun⟩ := hown
  refine ⟨s, k, hs.trans hhandle, fun ns => ?_⟩
  rw [hpart, hrun, hhandle]

theorem Own.handle_eq {ns : ProxyNetStack S} (hown : Own part session (ns.sockets session.handle)) :
    (part session ns).1.handle = session.handle := by
  obtain ⟨s, k, hs, hrun⟩ := hown
  have hself := hrun ns
  rw [put_self] at hself
  rw [hself]
  exact hs

theorem sendQueued_own (session : ProxySession) (socket : S) :
    Own (sendQueued tcp) session socket := by
  induction hlen : session.toRemote.length using Nat.strong_induction_on generalizing session socket with
  | _ len ih =>
    by_cases hgo : tcp.canSend socket = true ∧ session.toRemote ≠ []
    · have hstep : ∀ ns : ProxyNetStack S,
          tcpCanSend tcp (ns.put session.handle socket) session.handle = true ∧
            session.toRemote ≠ [] := fun ns => by rwa [tcpCanSend_put]
      rcases hsent : (tcp.send socket (drainChunk session.toRemote ioBufferSize).1).1 with err | written
      · apply Own.of_eq
        · intro ns
          rw [sendQueued, dif_pos (hstep ns)]
          simp only [tcpSend_put, hsent, tcpClose_put]
          rfl
        · simp
      · by_cases hlt : written < (drainChunk session.toRemote ioBufferSize).1.length
        · apply Own.of_eq
          · intro ns
            rw [sendQueued, dif_pos (hstep ns)]
            simp only [tcpSend_put, hsent, if_pos hlt]
            rfl
          · rfl
        · have hshort : (drainChunk session.toRemote ioBufferSize).2.length < len := by
            have hpos := List.length_pos_of_ne_nil hgo.2
            simp only [drainChunk, List.length_drop, ioBufferSize]
            omega
          let next : ProxySession :=
            { session.record (.tcpSend (drainChunk session.toRemote ioBufferSize).1 (.ok written)) with
              clientToRemoteBytes := session.clientToRemoteBytes + written
              toRemote := (drainChunk session.toRemote ioBufferSize).2 }
          refine Own.step (ih _ hshort next
            (tcp.send socket (drainChunk session.toRemote ioBufferSize).1).2 rfl) (fun ns => ?_) rfl
          rw [sendQueued, dif_pos (hstep ns)]
          simp only [tcpSend_put, hsent, if_neg hlt]
          rfl
    · refine Own.idle fun ns => ?_
      rw [sendQueued, dif_neg (by rwa [tcpCanSend_put])]

/-- A turn of the loop whose read fails. -/
theorem sendClient_error {ns : ProxyNetStack S} {err : IoError} {client : TcpStream}
    (hcan : tcpCanSend tcp ns session.handle = true)
    (hread : session.client.read ioBufferSize = (.error err, client)) :
    sendClient tcp session ns =
      let session' := { session with client := client }.record (.clientRead (.error err))
      if err.kind = .wouldBlock then (session', ns)
      else
        ((session'.markClosed ("client read failed: " ++ err.text)).record
            (.tcpClose false session.toRemote),
          tcpClose tcp ns session.handle) := by
  rw [sendClient, if_pos hcan]
  dsimp only
  split
  · rename_i h
    rw [hread] at h
    cases h
  · rename_i h
    rw [hread] at h
    cases h
    rw [hread]

/-- A turn whose read gives something or the end of the stream. -/
theorem sendClient_ok {ns : ProxyNetStack S} {bytes : List UInt8} {client : TcpStream}
    (hcan : tcpCanSend tcp ns session.handle = true)
    (hread : session.client.read ioBufferSize = (.ok bytes, client)) :
    sendClient tcp session ns =
      let session' := { session with client := client }.record (.clientRead (.ok bytes))
      if bytes = [] then
        (({ session' with localClosed := true }.markClosed "client closed connection").record
            (.tcpClose true session.toRemote),
          tcpClose tcp ns session.handle)
      else
        let sent := tcpSend tcp ns session.handle bytes
        let session'' := session'.record (.tcpSend bytes sent.1)
        match sent.1 with
        | .ok written =>
          if written < bytes.length then
            ({ session'' with
                clientToRemoteBytes := session.clientToRemoteBytes + written
                toRemote := session.toRemote ++ bytes.drop written }, sent.2)
          else
            sendClient tcp
              { session'' with
                clientToRemoteBytes := session.clientToRemoteBytes + written } sent.2
        | .error err =>
          ((session''.markClosed ("proxy TCP send failed: " ++ err)).record
              (.tcpClose false session.toRemote),
            tcpClose tcp sent.2 session.handle) := by
  rw [sendClient, if_pos hcan]
  dsimp only
  split
  · rename_i h
    rw [hread] at h
    cases h
    generalize session.client.read ioBufferSize = read at hread ⊢
    subst hread
    rfl
  · rename_i h
    rw [hread] at h
    cases h

theorem sendClient_own (session : ProxySession) (socket : S) :
    Own (sendClient tcp) session socket := by
  induction hlen : session.client.reads.length using Nat.strong_induction_on
    generalizing session socket with
  | _ len ih =>
    by_cases hcan : tcp.canSend socket = true
    · have hstep : ∀ ns : ProxyNetStack S,
          tcpCanSend tcp (ns.put session.handle socket) session.handle = true :=
        fun ns => by rwa [tcpCanSend_put]
      rcases hread : session.client.read ioBufferSize with ⟨err | bytes, client⟩
      · by_cases hkind : err.kind = .wouldBlock
        · apply Own.of_eq
          · intro ns
            rw [sendClient_error (hstep ns) hread]
            simp only [if_pos hkind]
            rfl
          · rfl
        · apply Own.of_eq
          · intro ns
            rw [sendClient_error (hstep ns) hread]
            simp only [if_neg hkind, tcpClose_put]
            rfl
          · simp
      · by_cases hnil : bytes = []
        · apply Own.of_eq
          · intro ns
            rw [sendClient_ok (hstep ns) hread]
            simp only [if_pos hnil, tcpClose_put]
            rfl
          · simp
        · rcases hsent : (tcp.send socket bytes).1 with err | written
          · apply Own.of_eq
            · intro ns
              rw [sendClient_ok (hstep ns) hread]
              simp only [if_neg hnil, tcpSend_put, hsent, tcpClose_put]
              rfl
            · simp
          · by_cases hlt : written < bytes.length
            · apply Own.of_eq
              · intro ns
                rw [sendClient_ok (hstep ns) hread]
                simp only [if_neg hnil, tcpSend_put, hsent, if_pos hlt]
                rfl
              · rfl
            · have hshort : client.reads.length < len := by
                have hlt := TcpStream.read_reads (congrArg Prod.fst hread)
                rwa [hread, hlen] at hlt
              let next : ProxySession :=
                { (({ session with client := client }.record (.clientRead (.ok bytes))).record
                    (.tcpSend bytes (.ok written))) with
                  clientToRemoteBytes := session.clientToRemoteBytes + written }
              refine Own.step (ih _ hshort next (tcp.send socket bytes).2 rfl) (fun ns => ?_) rfl
              rw [sendClient_ok (hstep ns) hread]
              simp only [if_neg hnil, tcpSend_put, hsent, if_neg hlt]
              rfl
    · refine Own.idle fun ns => ?_
      rw [sendClient, if_neg (by rwa [tcpCanSend_put])]

theorem pumpLocal_own (session : ProxySession) (socket : S) :
    Own (pumpLocal tcp) session socket := by
  by_cases hskip : session.localClosed ∨ ¬ session.socksReplied
  · refine Own.idle fun ns => ?_
    unfold pumpLocal
    rw [if_pos hskip]
  · obtain ⟨s, k, hs, hrun⟩ := @sendQueued_own S tcp session socket
    refine Own.step (@sendClient_own S tcp s k) (fun ns => ?_) hs
    unfold pumpLocal
    rw [if_neg hskip, hrun, hs]

/-- A receive that gives nothing ends the loop. -/
theorem receive_none {ns : ProxyNetStack S}
    (hnone : ∀ bytes, (tcpRecv tcp ns session.handle ioBufferSize).1 = .ok bytes → bytes = []) :
    receive tcp session ns = (session, (tcpRecv tcp ns session.handle ioBufferSize).2) := by
  rw [receive]
  split
  · rename_i bytes h
    rw [if_pos (hnone bytes h)]
  · rfl

theorem receive_some {ns : ProxyNetStack S} {bytes : List UInt8} (hne : bytes ≠ [])
    (hrecv : (tcpRecv tcp ns session.handle ioBufferSize).1 = .ok bytes) :
    receive tcp session ns =
      receive tcp
        { session.record (.tcpRecv bytes) with
          remoteToClientBytes := session.remoteToClientBytes + bytes.length
          toClient := session.toClient ++ bytes }
        (tcpRecv tcp ns session.handle ioBufferSize).2 := by
  rw [receive]
  split
  · rename_i h
    rw [hrecv] at h
    cases h
    rw [if_neg hne]
  · rename_i h
    rw [hrecv] at h
    cases h

theorem receive_own (session : ProxySession) (socket : S) : Own (receive tcp) session socket := by
  induction hlen : tcp.buffered socket using Nat.strong_induction_on generalizing session socket with
  | _ len ih =>
    by_cases hsome : ∃ bytes, (tcp.recv socket ioBufferSize).1 = .ok bytes ∧ bytes ≠ []
    · obtain ⟨bytes, hrecv, hne⟩ := hsome
      have hshort : tcp.buffered (tcp.recv socket ioBufferSize).2 < len := by
        rw [← hlen]
        exact tcp.recv_buffered hrecv hne
      let next : ProxySession :=
        { session.record (.tcpRecv bytes) with
          remoteToClientBytes := session.remoteToClientBytes + bytes.length
          toClient := session.toClient ++ bytes }
      refine Own.step (ih _ hshort next _ rfl) (fun ns => ?_) rfl
      rw [receive_some hne (by rwa [tcpRecv_put]), tcpRecv_put]
      rfl
    · apply Own.of_eq
      · intro ns
        rw [receive_none, tcpRecv_put]
        intro bytes h
        rw [tcpRecv_put] at h
        by_contra hne
        exact hsome ⟨bytes, h, hne⟩
      · rfl

theorem deliver_own (session : ProxySession) (socket : S) : Own (deliver tcp) session socket := by
  induction hlen : session.toClient.length using Nat.strong_induction_on generalizing session socket with
  | _ len ih =>
    by_cases hnil : session.toClient = []
    · refine Own.idle fun ns => ?_
      rw [deliver, dif_pos hnil]
    · rcases hwrite : session.client.write (drainChunk session.toClient ioBufferSize).1 with
        ⟨err | n, client⟩
      · by_cases hkind : err.kind = .wouldBlock
        · apply Own.of_eq
          · intro ns
            rw [deliver, dif_neg hnil]
            simp only [hwrite, if_pos hkind]
            rfl
          · rfl
        · apply Own.of_eq
          · intro ns
            rw [deliver, dif_neg hnil]
            simp only [hwrite, if_neg hkind, tcpClose_put]
            rfl
          · simp
      · by_cases hzero : n = 0
        · apply Own.of_eq
          · intro ns
            rw [deliver, dif_neg hnil]
            simp only [hwrite, if_pos hzero, tcpClose_put]
            rfl
          · simp
        · by_cases hlt : n < (drainChunk session.toClient ioBufferSize).1.length
          · apply Own.of_eq
            · intro ns
              rw [deliver, dif_neg hnil]
              simp only [hwrite, if_neg hzero, if_pos hlt]
              rfl
            · rfl
          · have hshort : (drainChunk session.toClient ioBufferSize).2.length < len := by
              have hpos := List.length_pos_of_ne_nil hnil
              simp only [drainChunk, List.length_drop, ioBufferSize]
              omega
            let next : ProxySession :=
              { ({ session with client := client }.record
                  (.clientWrite (drainChunk session.toClient ioBufferSize).1 (.ok n))) with
                toClient := (drainChunk session.toClient ioBufferSize).2 }
            refine Own.step (ih _ hshort next socket rfl) (fun ns => ?_) rfl
            rw [deliver, dif_neg hnil]
            simp only [hwrite, if_neg hzero, if_neg hlt]
            rfl

end Parts

/-! ### A turn that may fail -/

/-- A turn of a pump that depends on the session and its own socket only, and touches no other. -/
def OwnTurn (turn : ProxySession → ProxyNetStack S → Except IoError (ProxySession × ProxyNetStack S))
    (session : ProxySession) (socket : S) : Prop :=
  ∃ result : Except IoError (ProxySession × S),
    (∀ session' socket', result = .ok (session', socket') → session'.handle = session.handle) ∧
      ∀ ns : ProxyNetStack S, turn session (ns.put session.handle socket) =
        result.map fun (session', socket') => (session', ns.put session.handle socket')

theorem pumpLocal_ownTurn (session : ProxySession) (socket : S) :
    OwnTurn (fun session ns => .ok (pumpLocal tcp session ns)) session socket := by
  obtain ⟨s, k, hs, hrun⟩ := @pumpLocal_own S tcp session socket
  refine ⟨.ok (s, k), fun s' k' h => ?_, fun ns => ?_⟩
  · cases h
    exact hs
  · dsimp only
    rw [hrun]
    rfl

theorem pumpTcp_ownTurn (session : ProxySession) (socket : S) :
    OwnTurn (pumpTcp tcp) session socket := by
  have hreply : ∀ ns : ProxyNetStack S, reply tcp session (ns.put session.handle socket) =
      reply tcp session ⟨fun _ => socket, []⟩ := by
    intro ns
    unfold reply tcpIsEstablished
    rw [tcpState_put]
    rfl
  rcases hreplied : reply tcp session ⟨fun _ => socket, []⟩ with err | replied
  · refine ⟨.error err, nofun, fun ns => ?_⟩
    unfold pumpTcp
    rw [hreply, hreplied]
    rfl
  · have hhandle : replied.handle = session.handle := (reply_turn hreplied).handle
    obtain ⟨s, k, hs, hreceive⟩ := @receive_own S tcp replied socket
    obtain ⟨s', k', hs', hdeliver⟩ := @deliver_own S tcp s k
    refine ⟨.ok (s', k'), fun s'' k'' h => ?_, fun ns => ?_⟩
    · cases h
      exact hs'.trans (hs.trans hhandle)
    · unfold pumpTcp
      rw [hreply, hreplied]
      simp only
      rw [← hhandle, hreceive]
      simp only
      rw [← hs, hdeliver]
      rfl

/-! ### All sessions -/

/-- A pump over the sessions, which ends with the first turn that fails. -/
def pumpAll (turn : ProxySession → ProxyNetStack S → Except IoError (ProxySession × ProxyNetStack S)) :
    List ProxySession → ProxyNetStack S → Except IoError (List ProxySession × ProxyNetStack S)
  | [], netstack => .ok ([], netstack)
  | session :: sessions, netstack =>
    match turn session netstack with
    | .error err => .error err
    | .ok (session, netstack) =>
      match pumpAll turn sessions netstack with
      | .error err => .error err
      | .ok (sessions, netstack) => .ok (session :: sessions, netstack)

theorem pumpAll_pumpTcp (sessions : List ProxySession) (ns : ProxyNetStack S) :
    pumpAll (pumpTcp tcp) sessions ns = pumpTcpToLocal tcp sessions ns := by
  induction sessions generalizing ns with
  | nil => rfl
  | cons session sessions ih =>
    unfold pumpAll pumpTcpToLocal
    rcases pumpTcp tcp session ns with err | ⟨session', ns'⟩
    · rfl
    · have hrest := ih ns'
      dsimp only
      generalize pumpAll (pumpTcp tcp) sessions ns' = rest at hrest ⊢
      subst hrest
      rfl

theorem pumpAll_pumpLocal (sessions : List ProxySession) (ns : ProxyNetStack S) :
    pumpAll (fun session ns => .ok (pumpLocal tcp session ns)) sessions ns =
      .ok (pumpLocalToTcp tcp sessions ns) := by
  induction sessions generalizing ns with
  | nil => rfl
  | cons session sessions ih =>
    unfold pumpAll pumpLocalToTcp
    simp only [ih]

/-- Every session and its socket are left as a turn would leave them that finds the stack as it was
before the pump, and the other sockets as they were. -/
structure ServedAlone
    (turn : ProxySession → ProxyNetStack S → Except IoError (ProxySession × ProxyNetStack S))
    (sessions : List ProxySession) (ns : ProxyNetStack S) (sessions' : List ProxySession)
    (ns' : ProxyNetStack S) : Prop where
  each : List.Forall₂ (fun session session' => ∃ alone, turn session ns = .ok (session', alone) ∧
    ns'.sockets session.handle = alone.sockets session.handle) sessions sessions'
  others : ∀ h ∉ sessions.map (·.handle), ns'.sockets h = ns.sockets h
  live : ns'.live = ns.live

/-- A session of the outcome, by the turn that made it. -/
theorem ServedAlone.mem
    {turn : ProxySession → ProxyNetStack S → Except IoError (ProxySession × ProxyNetStack S)}
    {sessions sessions' : List ProxySession} {ns ns' : ProxyNetStack S}
    (h : ServedAlone turn sessions ns sessions' ns') {session' : ProxySession}
    (hmem : session' ∈ sessions') :
    ∃ session ∈ sessions, ∃ alone, turn session ns = .ok (session', alone) := by
  have heach := h.each
  clear h
  induction heach with
  | nil => cases hmem
  | cons hturn _ ih =>
    rcases List.mem_cons.mp hmem with rfl | hmem
    · obtain ⟨alone, hrun, -⟩ := hturn
      exact ⟨_, List.mem_cons_self, alone, hrun⟩
    · obtain ⟨session, hs, hfrom⟩ := ih hmem
      exact ⟨session, List.mem_cons_of_mem _ hs, hfrom⟩

section All

variable {turn : ProxySession → ProxyNetStack S → Except IoError (ProxySession × ProxyNetStack S)}

/-- A turn on a stack, by what it does to the socket of the session. -/
theorem OwnTurn.turn_eq {session : ProxySession} {ns : ProxyNetStack S}
    (hown : OwnTurn turn session (ns.sockets session.handle)) {session' : ProxySession}
    {ns' : ProxyNetStack S} (h : turn session ns = .ok (session', ns')) :
    session'.handle = session.handle ∧ ∃ socket, ns' = ns.put session.handle socket ∧
      ∀ ns₂ : ProxyNetStack S, ns₂.sockets session.handle = ns.sockets session.handle →
        turn session ns₂ = .ok (session', ns₂.put session.handle socket) := by
  obtain ⟨result, hhandle, hrun⟩ := hown
  have hself := hrun ns
  rw [put_self, h] at hself
  rcases result with err | ⟨s, k⟩
  · cases hself
  · cases hself
    refine ⟨hhandle _ _ rfl, k, rfl, fun ns₂ hsame => ?_⟩
    have := hrun ns₂
    rw [← hsame, put_self] at this
    exact this

/-- A turn does not see what turns of other sessions did before it. -/
theorem OwnTurn.turn_put {session other session' : ProxySession} {ns ns' : ProxyNetStack S} (socket : S)
    (hown : ∀ session socket, OwnTurn turn session socket) (hne : session.handle ≠ other.handle)
    (h : turn session ns = .ok (session', ns')) :
    ∃ alone, turn session (ns.put other.handle socket) = .ok (session', alone) ∧
      alone.sockets session.handle = ns'.sockets session.handle := by
  obtain ⟨-, k, rfl, hsame⟩ := (hown session _).turn_eq h
  refine ⟨_, hsame _ (put_sockets_of_ne _ _ _ hne), ?_⟩
  rw [put_sockets, put_sockets]

/-- Every session of the outcome comes from a turn. -/
theorem mem_pumpAll {sessions sessions' : List ProxySession} {ns ns' : ProxyNetStack S}
    (h : pumpAll turn sessions ns = .ok (sessions', ns')) {session' : ProxySession}
    (hmem : session' ∈ sessions') :
    ∃ session ∈ sessions, ∃ ns₁ ns₂, turn session ns₁ = .ok (session', ns₂) := by
  induction sessions generalizing ns sessions' with
  | nil =>
    cases h
    cases hmem
  | cons session sessions ih =>
    unfold pumpAll at h
    rcases hturn : turn session ns with err | ⟨session₁, ns₁⟩
    · rw [hturn] at h
      cases h
    rw [hturn] at h
    simp only at h
    rcases hrest : pumpAll turn sessions ns₁ with err | ⟨sessions₁, ns₂⟩
    · rw [hrest] at h
      cases h
    rw [hrest] at h
    cases h
    rcases List.mem_cons.mp hmem with rfl | hmem
    · exact ⟨session, List.mem_cons_self, ns, ns₁, hturn⟩
    · obtain ⟨s, hs, hfrom⟩ := ih hrest hmem
      exact ⟨s, List.mem_cons_of_mem _ hs, hfrom⟩

variable (hown : ∀ session socket, OwnTurn turn session socket)

include hown

/-- **A pump that ends well serves every session alone.** -/
theorem pumpAll_alone {sessions sessions' : List ProxySession} {ns ns' : ProxyNetStack S}
    (hnodup : (sessions.map (·.handle)).Nodup)
    (h : pumpAll turn sessions ns = .ok (sessions', ns')) :
    ServedAlone turn sessions ns sessions' ns' := by
  induction sessions generalizing ns sessions' with
  | nil =>
    cases h
    exact ⟨.nil, fun _ _ => rfl, rfl⟩
  | cons session sessions ih =>
    rw [List.map_cons, List.nodup_cons] at hnodup
    unfold pumpAll at h
    rcases hturn : turn session ns with err | ⟨session₁, ns₁⟩
    · rw [hturn] at h
      cases h
    rw [hturn] at h
    simp only at h
    rcases hrest : pumpAll turn sessions ns₁ with err | ⟨sessions₁, ns₂⟩
    · rw [hrest] at h
      cases h
    rw [hrest] at h
    cases h
    obtain ⟨-, k, rfl, -⟩ := (hown session _).turn_eq hturn
    have halone := ih hnodup.2 hrest
    have hne : ∀ s ∈ sessions, s.handle ≠ session.handle := fun s hs heq =>
      hnodup.1 (heq ▸ List.mem_map_of_mem hs)
    refine ⟨.cons ⟨_, hturn, ?_⟩ ?_, fun h' hh' => ?_, halone.live⟩
    · rw [halone.others _ hnodup.1]
    · refine ((List.forall₂_and_left _ _).mpr ⟨hne, halone.each⟩).imp ?_
      rintro s s' ⟨hs, alone, hrun, hsocket⟩
      obtain ⟨alone', hrun', hsocket'⟩ := OwnTurn.turn_put (ns.sockets session.handle) hown hs hrun
      rw [put_put, put_self] at hrun'
      exact ⟨alone', hrun', hsocket.trans hsocket'.symm⟩
    · rw [List.map_cons, List.mem_cons, not_or] at hh'
      rw [halone.others h' hh'.2, put_sockets_of_ne _ _ _ hh'.1]

/-- It ends well when every turn does that finds the stack as it was before the pump. -/
theorem pumpAll_ok {sessions : List ProxySession} {ns : ProxyNetStack S}
    (hnodup : (sessions.map (·.handle)).Nodup) (hok : ∀ session ∈ sessions, ∃ r, turn session ns = .ok r) :
    ∃ r, pumpAll turn sessions ns = .ok r := by
  induction sessions generalizing ns with
  | nil => exact ⟨_, rfl⟩
  | cons session sessions ih =>
    rw [List.map_cons, List.nodup_cons] at hnodup
    obtain ⟨⟨session₁, ns₁⟩, hturn⟩ := hok session List.mem_cons_self
    obtain ⟨-, k, rfl, -⟩ := (hown session _).turn_eq hturn
    obtain ⟨⟨sessions₁, ns₂⟩, hrest⟩ := @ih (ns.put session.handle k) hnodup.2 fun s hs => by
      obtain ⟨⟨s', ns'⟩, hs'⟩ := hok s (List.mem_cons_of_mem _ hs)
      obtain ⟨alone, halone, -⟩ := OwnTurn.turn_put k hown
        (fun heq => hnodup.1 (heq ▸ List.mem_map_of_mem hs)) hs'
      exact ⟨_, halone⟩
    unfold pumpAll
    simp only [hturn, hrest]
    exact ⟨_, rfl⟩

end All

end OpenfortivpnRs.Proxy
