import OpenfortivpnRs.Proxy.Dead
import OpenfortivpnRs.Proxy.Isolation

/-!
# The SOCKS reply of a session

The reply of a session is written in the turn of `pump_tcp_to_local` that first finds its socket
established, and never again; but the same function receives and delivers whatever the state.  So the
reply comes first in the runs in which no other state has anything to receive (`reply_comes_first`).
-/

namespace OpenfortivpnRs.Proxy

open Relation

variable {S : Type} {tcp : Smoltcp S}

/-! ### What the turns append -/

/-- A part of a turn that leaves the reply alone. -/
structure Continues (session session' : ProxySession) : Prop where
  trace : ∃ es, session'.trace = session.trace ++ es ∧ .replied ∉ es
  socksReplied : session'.socksReplied = session.socksReplied

namespace Continues

variable {a b c : ProxySession}

theorem refl (session : ProxySession) : Continues session session :=
  ⟨⟨[], (List.append_nil _).symm, List.not_mem_nil⟩, rfl⟩

theorem trans (hab : Continues a b) (hbc : Continues b c) : Continues a c := by
  obtain ⟨es, hes, hno⟩ := hab.trace
  obtain ⟨es', hes', hno'⟩ := hbc.trace
  refine ⟨⟨es ++ es', ?_, ?_⟩, hbc.socksReplied.trans hab.socksReplied⟩
  · rw [hes', hes, List.append_assoc]
  · rw [List.mem_append, not_or]
    exact ⟨hno, hno'⟩

theorem mem (h : Continues a b) {e : SessionEvent} (hmem : e ∈ a.trace) : e ∈ b.trace := by
  obtain ⟨es, hes, -⟩ := h.trace
  rw [hes]
  exact List.mem_append_left _ hmem

/-- No reply is added. -/
theorem count (h : Continues a b) : b.trace.count .replied = a.trace.count .replied := by
  obtain ⟨es, hes, hno⟩ := h.trace
  rw [hes, List.count_append, List.count_eq_zero_of_not_mem hno, Nat.add_zero]

end Continues

/-- The session goes on after events that are no reply. -/
theorem GoesOn.continues {session session' : ProxySession} {toRemote toClient : List UInt8}
    {es : List SessionEvent} (h : GoesOn session session' toRemote toClient es) (hno : .replied ∉ es) :
    Continues session session' :=
  ⟨⟨es, h.trace, hno⟩, h.socksReplied⟩

theorem LocalMove.continues {session session' : ProxySession} {ns ns' : ProxyNetStack S}
    (hm : LocalMove tcp session ns session' ns') : Continues session session' := by
  cases hm with
  | sent hcan hq hsent h => exact h.continues (by simp)
  | failed hcan hq hsent h => exact h.continues (by simp)
  | forwarded hcan hne hsent h => exact h.continues (by simp)
  | refused hcan hne hsent h => exact h.continues (by simp)
  | idle hcan hkind h => exact h.continues (by simp)
  | eof hcan h => exact h.continues (by simp)
  | broken hcan hkind h => exact h.continues (by simp)

theorem TcpMove.continues {session session' : ProxySession} {ns ns' : ProxyNetStack S}
    (hm : TcpMove tcp session ns session' ns') : Continues session session' := by
  cases hm with
  | received hne hrecv h => exact h.continues (by simp)
  | drained hnone h => exact h.continues (by simp)
  | wrote hq hn h => exact h.continues (by simp)
  | closed hq h => exact h.continues (by simp)
  | blocked hq hkind h => exact h.continues (by simp)
  | failed hq hkind h => exact h.continues (by simp)

theorem LocalMoves.continues {p q : ProxySession × ProxyNetStack S} (hm : LocalMoves tcp p q) :
    Continues p.1 q.1 := by
  induction hm with
  | refl => exact .refl p.1
  | tail _ hmove ih => exact ih.trans hmove.continues

theorem TcpMoves.continues {p q : ProxySession × ProxyNetStack S} (hm : TcpMoves tcp p q) :
    Continues p.1 q.1 := by
  induction hm with
  | refl => exact .refl p.1
  | tail _ hmove ih => exact ih.trans hmove.continues

theorem pumpLocal_continues (session : ProxySession) (ns : ProxyNetStack S) :
    Continues session (pumpLocal tcp session ns).1 :=
  (pumpLocal_moves session ns).continues

/-- A turn of `pump_tcp_to_local` replies, when it is time, and goes on. -/
theorem pumpTcp_replies {session session' : ProxySession} {ns ns' : ProxyNetStack S}
    (h : pumpTcp tcp session ns = .ok (session', ns')) :
    if session.socksReplied = false ∧ tcpIsEstablished tcp ns session.handle = true then
      ∃ client, Continues
        ({ session with client := client, socksReplied := true }.record .replied) session'
    else Continues session session' := by
  obtain ⟨replied, hreply, hmoves⟩ := pumpTcp_moves h
  obtain ⟨hdue, client, rfl⟩ | ⟨hdue, rfl⟩ := reply_cases hreply
  · rw [if_pos hdue]
    exact ⟨client, hmoves.continues⟩
  · rw [if_neg hdue]
    exact hmoves.continues

/-! ### The reply comes first -/

/-- No payload was written to the client before the reply. -/
def PayloadAfterReply (trace : List SessionEvent) : Prop :=
  ∀ before chunk n after, trace = before ++ .clientWrite chunk (.ok n) :: after →
    chunk.take n ≠ [] → .replied ∈ before

/-- Behind the reply anything may follow. -/
theorem PayloadAfterReply.append {t : List SessionEvent} (h : PayloadAfterReply t)
    (hreplied : .replied ∈ t) (es : List SessionEvent) : PayloadAfterReply (t ++ es) := by
  intro before chunk n after hsplit hne
  rcases List.append_eq_append_iff.mp hsplit with ⟨mid, rfl, -⟩ | ⟨mid, rfl, hafter⟩
  · exact List.mem_append_left _ hreplied
  · rcases mid with _ | ⟨e, mid⟩
    · rwa [List.append_nil] at hreplied
    · obtain ⟨rfl, -⟩ := List.cons.inj hafter
      exact h before chunk n mid rfl hne

/-- The state of a session by its reply: before it nothing is queued for the client. -/
structure ReplyOrdered (session : ProxySession) : Prop where
  first : PayloadAfterReply session.trace
  replied : session.socksReplied = true → .replied ∈ session.trace
  silent : session.socksReplied = false → session.toClient = []

theorem ReplyOrdered.continues {session session' : ProxySession} (h : ReplyOrdered session)
    (hreplied : session.socksReplied = true) (hgo : Continues session session') :
    ReplyOrdered session' := by
  obtain ⟨es, hes, -⟩ := hgo.trace
  refine ⟨?_, fun _ => hgo.mem (h.replied hreplied), fun hno => ?_⟩
  · rw [hes]
    exact h.first.append (h.replied hreplied) es
  · rw [hgo.socksReplied, hreplied] at hno
    cases hno

theorem ReplyOrdered.reply {session : ProxySession} (h : ReplyOrdered session) (client : TcpStream)
    (hno : session.socksReplied = false) :
    ReplyOrdered ({ session with client := client, socksReplied := true }.record .replied) := by
  refine ⟨?_, fun _ => List.mem_append_right _ (List.mem_singleton_self _), fun _ => h.silent hno⟩
  intro before chunk n after hsplit hne
  rcases List.eq_nil_or_concat' after with rfl | ⟨after', e, rfl⟩
  · obtain ⟨-, he⟩ := List.append_inj' hsplit rfl
    cases he
  · rw [List.append_cons, ← List.append_assoc, ← List.append_cons] at hsplit
    exact h.first before chunk n after' (List.append_inj' hsplit rfl).1 hne

theorem pumpLocal_ordered {session : ProxySession} (ns : ProxyNetStack S) (h : ReplyOrdered session) :
    ReplyOrdered (pumpLocal tcp session ns).1 := by
  by_cases hreplied : session.socksReplied = true
  · exact h.continues hreplied (pumpLocal_continues session ns)
  · unfold pumpLocal
    rw [if_pos (.inr hreplied)]
    exact h

variable (tcp) in
/-- The reply is written, or can be, or there is nothing to receive. -/
def Due (session : ProxySession) (ns : ProxyNetStack S) : Prop :=
  session.socksReplied = true ∨ tcpIsEstablished tcp ns session.handle = true ∨
    tcp.buffered (ns.sockets session.handle) = 0

/-- A turn in a state that allows the reply, or has nothing to receive, keeps the order. -/
theorem pumpTcp_ordered {session session' : ProxySession} {ns ns' : ProxyNetStack S}
    (h : ReplyOrdered session) (hdue : Due tcp session ns)
    (hpump : pumpTcp tcp session ns = .ok (session', ns')) : ReplyOrdered session' := by
  have hreplies := pumpTcp_replies hpump
  by_cases hnow : session.socksReplied = false ∧ tcpIsEstablished tcp ns session.handle = true
  · rw [if_pos hnow] at hreplies
    obtain ⟨client, hgo⟩ := hreplies
    exact (h.reply client hnow.1).continues rfl hgo
  · rw [if_neg hnow] at hreplies
    by_cases hreplied : session.socksReplied = true
    · exact h.continues hreplied hreplies
    · -- nothing is received, and nothing was queued
      rw [Bool.not_eq_true] at hreplied
      have hempty : tcp.buffered (ns.sockets session.handle) = 0 := by
        rcases hdue with hdue | hdue | hdue
        · rw [hreplied] at hdue
          cases hdue
        · exact absurd ⟨hreplied, hdue⟩ hnow
        · exact hdue
      have hreply : reply tcp session ns = .ok session := by
        unfold reply
        rw [if_neg (by simpa using hnow)]
      have hreceive : receive tcp session ns =
          (session, (tcpRecv tcp ns session.handle ioBufferSize).2) := by
        refine receive_none fun bytes hok => ?_
        by_contra hne
        have hlt := tcp.recv_buffered hok hne
        omega
      unfold pumpTcp at hpump
      simp only [hreply, hreceive] at hpump
      rw [deliver, dif_pos (h.silent hreplied)] at hpump
      cases hpump
      exact h

/-! ### Runs of the main loop -/

section Runs

variable (tcp) (ok : Runtime S → Prop)

/-- One pass of the main loop up to `cleanup_sessions`, in which `ok` holds of the state from which
`pump_tcp_to_local` starts. -/
inductive PhasesWhen (rt : Runtime S) : Runtime S → Prop
  | mk {accepted pumped polled delivered : Runtime S}
      (haccept : ReflTransGen (AcceptStep tcp fun _ _ => True) rt accepted)
      (hpump : pumpLocalToTcp tcp accepted.sessions accepted.netstack =
        (pumped.sessions, pumped.netstack))
      (hpoll : Polled tcp (fun _ _ => True) pumped polled) (hok : ok polled)
      (hdeliver : pumpTcpToLocal tcp polled.sessions polled.netstack =
        .ok (delivered.sessions, delivered.netstack)) : PhasesWhen rt delivered

/-- The states at the top of the main loop after such passes. -/
def ReachableWhen (sockets : SocketHandle → S) : Runtime S → Prop :=
  ReflTransGen (fun rt rt' => ∃ delivered, PhasesWhen tcp ok rt delivered ∧ rt' = delivered.cleanup tcp)
    (Runtime.start sockets)

/-- No session that still owes its reply has received something in a state other than established. -/
def RepliesDue (rt : Runtime S) : Prop := ∀ session ∈ rt.sessions, Due tcp session rt.netstack

end Runs

/-- Every session owes its reply or has written it before any payload. -/
def AllOrdered (rt : Runtime S) : Prop := ∀ session ∈ rt.sessions, ReplyOrdered session

section Steps

variable {ok : Runtime S → Prop} {sockets : SocketHandle → S} {rt rt' delivered : Runtime S}

theorem PhasesWhen.phases (h : PhasesWhen tcp ok rt delivered) :
    Phases tcp (fun _ _ => True) rt delivered := by
  obtain ⟨haccept, hpump, hpoll, -, hdeliver⟩ := h
  exact .mk haccept hpump hpoll hdeliver

theorem ReachableWhen.reachable (h : ReachableWhen tcp ok sockets rt) :
    Reachable tcp (fun _ _ => True) sockets rt := by
  induction h with
  | refl => exact .refl
  | tail _ hpass ih =>
    obtain ⟨delivered, hphases, rfl⟩ := hpass
    exact ih.tail ⟨delivered, hphases.phases, rfl⟩

theorem start_ordered (client : TcpStream) (handle : SocketHandle) :
    ReplyOrdered (.start client handle) where
  first before chunk n after hsplit := by
    obtain ⟨-, h⟩ := List.append_eq_nil_iff.mp hsplit.symm
    cases h
  replied h := by cases h
  silent _ := rfl

theorem AcceptStep.allOrdered {cond : Runtime S → Runtime S → Prop} (h : AcceptStep tcp cond rt rt')
    (hall : AllOrdered rt) : AllOrdered rt' := by
  cases h with
  | poll hpoll =>
    cases hpoll
    exact hall
  | addSocket h hnew => exact hall
  | useSocket h socket hfree => exact hall
  | removeSocket h hfree => exact hall
  | session client h hlive hfree =>
    intro session hmem
    rcases List.mem_append.mp hmem with hold | hnew
    · exact hall session hold
    · rw [List.mem_singleton.mp hnew]
      exact start_ordered client h

theorem acceptSteps_allOrdered {cond : Runtime S → Runtime S → Prop}
    (h : ReflTransGen (AcceptStep tcp cond) rt rt') (hall : AllOrdered rt) : AllOrdered rt' := by
  induction h with
  | refl => exact hall
  | tail _ hstep ih => exact hstep.allOrdered ih

/-- A pass keeps the order when it finds nothing received that it could not reply to first. -/
theorem PhasesWhen.allOrdered (hc : tcp.Contract) (h : PhasesWhen tcp (RepliesDue tcp) rt delivered)
    (ho : Owned rt) (hall : AllOrdered rt) : AllOrdered delivered := by
  obtain ⟨haccept, hpump, hpoll, hdue, hdeliver⟩ := h
  rename_i accepted pumped polled
  have hpumped : AllOrdered pumped := by
    intro session hmem
    have hrun := @pumpAll_pumpLocal S tcp accepted.sessions accepted.netstack
    rw [hpump] at hrun
    obtain ⟨before, hbefore, ns₁, ns₂, hturn⟩ := mem_pumpAll hrun hmem
    obtain ⟨rfl, -⟩ := Prod.ext_iff.mp (Except.ok.inj hturn)
    exact pumpLocal_ordered ns₁ (acceptSteps_allOrdered haccept hall before hbefore)
  have howned : Owned polled :=
    hpoll.owned ((pumpLocalToTcp_pumped hc hpump).owned (acceptSteps_owned haccept ho))
  have hpolled : AllOrdered polled := by
    cases hpoll
    exact hpumped
  intro session hmem
  rw [← pumpAll_pumpTcp] at hdeliver
  obtain ⟨before, hbefore, alone, hturn⟩ :=
    (pumpAll_alone pumpTcp_ownTurn howned.handles hdeliver).mem hmem
  exact pumpTcp_ordered (hpolled before hbefore) (hdue before hbefore) hturn

theorem cleanup_allOrdered (hall : AllOrdered rt) : AllOrdered (rt.cleanup tcp) := by
  intro session hmem
  obtain ⟨before, hbefore, -, rfl⟩ := mem_cleanup.mp hmem
  obtain ⟨hfirst, hreplied, hsilent⟩ := hall before hbefore
  refine ⟨?_, fun h => ?_, fun h => ?_⟩
  · rwa [trace_noteInactive]
  · rw [socksReplied_noteInactive] at h
    rw [trace_noteInactive]
    exact hreplied h
  · rw [socksReplied_noteInactive] at h
    rw [toClient_noteInactive]
    exact hsilent h

theorem ReachableWhen.allOrdered (hc : tcp.Contract)
    (h : ReachableWhen tcp (RepliesDue tcp) sockets rt) : AllOrdered rt := by
  induction h with
  | refl => nofun
  | tail hrun hpass ih =>
    obtain ⟨delivered, hphases, rfl⟩ := hpass
    have howned := (ReachableWhen.reachable hrun).owned hc
    exact cleanup_allOrdered (hphases.allOrdered hc howned ih)

end Steps

/-- **The reply comes first** in every run in which `pump_tcp_to_local` never finds a session that owes
its reply with bytes received in a state other than established: in every state reached and at the end
of every pass, no session has written payload to its client before the reply. -/
theorem reply_comes_first (hc : tcp.Contract) {sockets : SocketHandle → S} {rt delivered : Runtime S}
    (h : ReachableWhen tcp (RepliesDue tcp) sockets rt)
    (hphases : PhasesWhen tcp (RepliesDue tcp) rt delivered) :
    (∀ session ∈ rt.sessions, PayloadAfterReply session.trace) ∧
      ∀ session ∈ delivered.sessions, PayloadAfterReply session.trace :=
  ⟨fun session hmem => (h.allOrdered hc session hmem).first,
    fun session hmem =>
      (hphases.allOrdered hc (h.reachable.owned hc) (h.allOrdered hc) session hmem).first⟩

/-- The runtime after the first poll of a first connection. -/
def answered (client : TcpStream) (socket : TcpSocket) : Runtime TcpSocket :=
  { connecting client with netstack := ⟨fun _ => socket, [0]⟩ }

theorem phases_answered {ok : Runtime TcpSocket → Prop} {client : TcpStream} {socket : TcpSocket}
    {delivered : Runtime TcpSocket} (hok : ok (answered client socket))
    (hdeliver : pumpTcpToLocal tcpSockets (answered client socket).sessions
      (answered client socket).netstack = .ok (delivered.sessions, delivered.netstack)) :
    PhasesWhen tcpSockets ok (.start fun _ => tcpSockets.fresh) delivered := by
  have hpump : pumpLocalToTcp tcpSockets (connecting client).sessions (connecting client).netstack =
      ((connecting client).sessions, (connecting client).netstack) := rfl
  have hpoll : Polled tcpSockets (fun _ _ => True) (connecting client) (answered client socket) := by
    refine .mk (fun h hh => ?_) trivial
    rw [List.mem_singleton.mp hh]
    change TcpState.synSent.Next _
    exact ⟨nofun, nofun⟩
  exact .mk (acceptSteps_connecting _ client) hpump hpoll hok hdeliver

/-- What the client of the connection was written. -/
def answeredTraces (client : TcpStream) (socket : TcpSocket) : List (List SessionEvent) :=
  match pumpTcpToLocal tcpSockets (answered client socket).sessions
    (answered client socket).netstack with
  | .ok (sessions, _) => sessions.map (·.trace)
  | .error _ => []

/-- A connection that is established with two bytes received. -/
theorem reply_comes_first_established : ∃ delivered : Runtime TcpSocket,
    delivered.sessions.map (·.trace) = [[.replied, .tcpRecv [7, 8], .clientWrite [7, 8] (.ok 2)]] ∧
      ∀ session ∈ delivered.sessions, PayloadAfterReply session.trace := by
  have htraces : answeredTraces ⟨[], [.ok 10, .ok 2]⟩ ⟨.established, 0, [7, 8]⟩ =
      [[.replied, .tcpRecv [7, 8], .clientWrite [7, 8] (.ok 2)]] := by decide +kernel
  unfold answeredTraces at htraces
  split at htraces
  · rename_i sessions ns hdeliver
    refine ⟨⟨sessions, ns⟩, htraces, ?_⟩
    have hdue : RepliesDue tcpSockets (answered ⟨[], [.ok 10, .ok 2]⟩ ⟨.established, 0, [7, 8]⟩) :=
      fun session _ => .inr (.inl rfl)
    exact (reply_comes_first tcpSockets_contract .refl (phases_answered hdue hdeliver)).2
  · cases htraces

/-- The remote sends two bytes and closes its half before the first poll after the handshake. -/
theorem payload_before_reply : ¬ ∀ (sockets : SocketHandle → TcpSocket)
    (rt delivered : Runtime TcpSocket), Reachable tcpSockets (fun _ _ => True) sockets rt →
    Phases tcpSockets (fun _ _ => True) rt delivered →
      ∀ session ∈ delivered.sessions, PayloadAfterReply session.trace := by
  intro h
  have htraces : answeredTraces ⟨[], [.ok 2]⟩ ⟨.closeWait, 0, [7, 8]⟩ =
      [[.tcpRecv [7, 8], .clientWrite [7, 8] (.ok 2)]] := by decide +kernel
  unfold answeredTraces at htraces
  split at htraces
  · rename_i sessions ns hdeliver
    have hphases : PhasesWhen tcpSockets (fun _ => True) (.start fun _ => tcpSockets.fresh)
        ⟨sessions, ns⟩ := phases_answered trivial hdeliver
    obtain ⟨session, hsession, htrace⟩ := List.mem_map.mp
      (show _ ∈ sessions.map (·.trace) by rw [htraces]; exact List.mem_singleton_self _)
    have hreplied := h _ _ _ .refl hphases.phases session hsession [.tcpRecv [7, 8]] [7, 8] 2 []
      htrace (by decide)
    cases List.mem_singleton.mp hreplied
  · cases htraces

end OpenfortivpnRs.Proxy
