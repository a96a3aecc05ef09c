import OpenfortivpnRs.Proxy.Answered
import OpenfortivpnRs.Proxy.PortSteps
import OpenfortivpnRs.Proxy.Refinement

/-!
# When a local port is used twice

The counter of `next_port` goes through 16384 ports and does not look at the sockets that have them.
In every state the calls of the stack can lead to, two live sockets have the same port exactly when
a multiple of 16384 calls of `connect_tcp` lies between theirs (`same_local_port_iff`).
-/

namespace OpenfortivpnRs.Proxy.Ports

open Lib PanicM ClientM

variable {S : Type} {tcp : Smoltcp S} {slots : SlotChoice}

/-! ### Ports and numbers of calls -/

/-- The port the call with a number takes. -/
def portOf (call : ℕ) : ℕ := 49152 + call % 16384

theorem toNat_portAfter {port : UInt16} {call : ℕ} (h : port.toNat = portOf call) :
    (portAfter port).toNat = portOf (call + 1) := by
  unfold portOf at h ⊢
  unfold portAfter
  split
  · rename_i hlast
    rw [hlast] at h
    change 65535 = _ at h
    change 49152 = _
    omega
  · rename_i hlast
    have hne : port.toNat ≠ 65535 := fun heq => hlast (UInt16.toNat_inj.mp heq)
    rw [UInt16.toNat_add]
    change (port.toNat + 1) % 65536 = _
    omega

/-- What the counter and the connections say of the calls made. -/
structure Numbered (st : PortStack S) : Prop where
  counter : st.nextEphemeralPort.toNat = portOf st.calls
  made : ∀ {h c}, st.connections h = some c → c.call < st.calls ∧ c.localPort.toNat = portOf c.call
  once : ∀ {h₁ h₂ c₁ c₂}, st.connections h₁ = some c₁ → st.connections h₂ = some c₂ →
    c₁.call = c₂.call → h₁ = h₂

theorem Numbered.net {st : PortStack S} (hst : Numbered st) (ns : ProxyNetStack S) :
    Numbered { st with netstack := ns } := ⟨hst.counter, hst.made, hst.once⟩

theorem Numbered.next {st : PortStack S} (hst : Numbered st) : Numbered st.next where
  counter := toNat_portAfter hst.counter
  made hc := ⟨Nat.lt_succ_of_lt (hst.made hc).1, (hst.made hc).2⟩
  once := hst.once

/-- A socket that is new or was connected by the last call. -/
theorem Numbered.noted {st : PortStack S} (hst : Numbered st) {h : SocketHandle}
    {connection : Option Connection}
    (hnew : ∀ c, connection = some c → c.localPort.toNat = portOf c.call ∧ c.call < st.calls ∧
      ∀ h' c', st.connections h' = some c' → c'.call ≠ c.call) :
    Numbered (st.noted h connection) := by
  have hcases : ∀ {h' c}, (st.noted h connection).connections h' = some c →
      (h' = h ∧ connection = some c) ∨ (h' ≠ h ∧ st.connections h' = some c) := by
    intro h' c hc
    change Function.update st.connections h connection h' = some c at hc
    by_cases heq : h' = h
    · rw [heq, Function.update_self] at hc
      exact .inl ⟨heq, hc⟩
    · rw [Function.update_of_ne heq] at hc
      exact .inr ⟨heq, hc⟩
  refine ⟨hst.counter, fun hc => ?_, fun hc₁ hc₂ heq => ?_⟩
  · rcases hcases hc with ⟨-, hc⟩ | ⟨-, hc⟩
    · exact ⟨(hnew _ hc).2.1, (hnew _ hc).1⟩
    · exact hst.made hc
  · rcases hcases hc₁ with ⟨rfl, hnew₁⟩ | ⟨-, hold₁⟩
    · rcases hcases hc₂ with ⟨rfl, hnew₂⟩ | ⟨-, hold₂⟩
      · rfl
      · exact absurd heq.symm ((hnew _ hnew₁).2.2 _ _ hold₂)
    · rcases hcases hc₂ with ⟨rfl, hnew₂⟩ | ⟨-, hold₂⟩
      · exact absurd heq ((hnew _ hnew₂).2.2 _ _ hold₁)
      · exact hst.once hold₁ hold₂ heq

theorem PortStep.numbered {st st' : PortStack S} (hstep : PortStep tcp st st') (hst : Numbered st) :
    Numbered st' := by
  cases hstep with
  | net hnet => exact hst.net _
  | addTcpSocket hnew => exact (hst.net _).noted nofun
  | connectFailed => exact hst.next
  | connectTcp remote port hlive =>
    refine hst.next.noted fun c hc => ?_
    cases hc
    exact ⟨hst.counter, Nat.lt_succ_self _, fun h' c' hc' => (hst.made hc').1.ne⟩

theorem Reached.numbered {sockets : SocketHandle → S} {st : PortStack S} (h : Reached tcp sockets st) :
    Numbered st := by
  induction h with
  | refl => exact ⟨rfl, nofun, nofun⟩
  | tail hsteps hstep ih => exact hstep.numbered ih

theorem Numbered.localPort_eq_iff {st : PortStack S} (hst : Numbered st) {h₁ h₂ : SocketHandle}
    {c₁ c₂ : Connection} (hc₁ : st.connections h₁ = some c₁) (hc₂ : st.connections h₂ = some c₂) :
    c₁.localPort = c₂.localPort ↔ c₁.call ≡ c₂.call [MOD 16384] := by
  rw [← UInt16.toNat_inj, (hst.made hc₁).2, (hst.made hc₂).2]
  unfold portOf Nat.ModEq
  omega

/-- **When two sockets have the same port.**  Every state in which the main loop can stop is reached by
calls of the stack; and in every state so reached two live sockets were connected by different calls
and have the same local port if and only if the numbers of these calls agree modulo 16384. -/
theorem same_local_port_iff (tcp : Smoltcp S) (slots : SlotChoice) (dns : DnsCodec)
    (table : ProxyRouteTable) (dnsServers : List Ipv4Addr) (sockets : SocketHandle → S) :
    (∀ passes, Reached tcp sockets (leaves
      (mainLoop tcp slots dns table dnsServers passes [] fun _ => none) (.new sockets))) ∧
    ∀ st, Reached tcp sockets st → ∀ h₁ ∈ st.netstack.live, ∀ h₂ ∈ st.netstack.live, h₁ ≠ h₂ →
      ∀ c₁ c₂, st.connections h₁ = some c₁ → st.connections h₂ = some c₂ →
        c₁.call ≠ c₂.call ∧ (c₁.localPort = c₂.localPort ↔ c₁.call ≡ c₂.call [MOD 16384]) := by
  refine ⟨fun passes => (Ported.mainLoop passes _ _).moves _, ?_⟩
  intro st hst h₁ _ h₂ _ hne c₁ c₂ hc₁ hc₂
  exact ⟨fun heq => hne (hst.numbered.once hc₁ hc₂ heq), hst.numbered.localPort_eq_iff hc₁ hc₂⟩

/-! ### A port used twice -/

/-- A client that asks for a port of 10.0.0.1, and what is left of it behind its request. -/
def portClient (port : UInt8) : ClientSocket where
  stream := ⟨[.ok [5, 1, 0], .ok [5, 1, 0, 1, 10, 0, 0, 1, 0, port]], [.ok 2, .ok 10]⟩
  options := []
  replies := []
  failed := false

def askedClient : ClientSocket := ⟨⟨[], [.ok 10]⟩, [], [], false⟩

/-- The port a client asks for, if its request for 10.0.0.1 is read. -/
def portAsked (client : ClientSocket) : Option UInt16 :=
  match attempt Socks5.readConnectRequest client with
  | .ok (.ok request) client =>
    if request.target = .ipv4 ⟨10, 0, 0, 1⟩ ∧ client = askedClient then some request.port else none
  | _ => none

theorem readConnectRequest_of_portAsked {client : ClientSocket} {port : UInt16}
    (h : portAsked client = some port) : attempt Socks5.readConnectRequest client =
      .ok (.ok ⟨.ipv4 ⟨10, 0, 0, 1⟩, port⟩) askedClient := by
  unfold portAsked at h
  split at h
  · rename_i request left hread
    split at h
    · rename_i hrequest
      cases h
      rw [hread, hrequest.2, ← hrequest.1]
    · cases h
  · cases h

/-- No lookup is made. -/
def noDns : DnsCodec := ⟨fun _ _ => .ok [], fun _ _ => .ok []⟩

/-- A client whose connection is started. -/
def webVisit : Visit TcpSocket where
  client := portClient 80
  answers := tunnelOnly
  now := 0
  servers _ := ⟨0, .error "Unaddressable", tcpSockets.fresh, []⟩
  slot := 0
  connecting := ⟨.synSent, defaultTcpBufferSize, []⟩

/-- A client that asks for port 0, to which no socket connects. -/
def zeroVisit : Visit TcpSocket :=
  { webVisit with
    client := portClient 0
    answers := { tunnelOnly with connectTcp := .error "Unaddressable" }
    connecting := tcpSockets.fresh }

section Visits

variable {visit : Visit TcpSocket} {cache : DnsCache} {port : UInt16}

/-- A client that asks for 10.0.0.1 comes to a connection through the tunnel. -/
theorem serveVisit_of_portAsked (hport : portAsked visit.client = some port)
    (hoptions : visit.client.options = []) (st : PortStack TcpSocket) :
    serveVisit tcpSockets firstFree noDns routeAll [] visit cache st =
      (startConnection tcpSockets firstFree visit askedClient ⟨10, 0, 0, 1⟩ port >>= fun served =>
        pure (served, cache)) st := by
  have hset : (do setOption; setOption; setOption; setOption) visit.client = .ok () visit.client := by
    simp only [bind, EStateM.bind, setOption, hoptions]
  unfold serveVisit findDestination
  rw [bind_ok (onNet_ok (onClient_ok hset))]
  dsimp only
  rw [bind_ok (onNet_ok (onClient_ok (readConnectRequest_of_portAsked hport)))]
  dsimp only
  rw [pure_bind]
  dsimp only
  rw [if_neg (by decide)]

end Visits

section Connections

variable {visit : Visit TcpSocket} {client : ClientSocket} {destination : Ipv4Addr} {port : UInt16}
  {st : PortStack TcpSocket} {h : SocketHandle}

/-- A connection that is started takes the next port. -/
theorem startConnection_ok (hslot : firstFree.slot st.netstack.live visit.slot = h)
    (hconnect : visit.answers.connectTcp = .ok ()) (hoptions : client.options = []) :
    ∃ st', startConnection tcpSockets firstFree visit client destination port st =
        .ok (.tunneled (.start client.stream h)) st' ∧
      st'.netstack.live = h :: st.netstack.live ∧ st'.calls = st.calls + 1 ∧
      st'.connections h = some ⟨destination, port, st.nextEphemeralPort, st.calls⟩ ∧
      ∀ h' ≠ h, st'.connections h' = st.connections h' := by
  have hadd := @addTcpSocket_eq TcpSocket st h tcpSockets firstFree visit.slot hslot
  have hset : (do setOption; setOption; setOption) client = .ok () client := by
    simp only [bind, EStateM.bind, setOption, hoptions]
  refine ⟨?_, ?_, ?_⟩
  rotate_left
  · unfold startConnection
    rw [bind_ok hadd, hconnect, bind_ok (connectTcp_ok List.mem_cons_self)]
    dsimp only
    rw [bind_ok (onNet_ok (onClient_ok hset))]
    rfl
  · refine ⟨rfl, rfl, Function.update_self .., fun h' hne => ?_⟩
    exact (Function.update_of_ne hne _ _).trans (Function.update_of_ne hne _ _)

/-- One that fails takes a port as well. -/
theorem startConnection_error {err : String} (hslot : firstFree.slot st.netstack.live visit.slot = h)
    (hconnect : visit.answers.connectTcp = .error err) :
    ∃ st', startConnection tcpSockets firstFree visit client destination port st = .ok .dropped st' ∧
      st'.netstack.live = st.netstack.live ∧ st'.calls = st.calls + 1 ∧
      ∀ h' ≠ h, st'.connections h' = st.connections h' := by
  have hadd := @addTcpSocket_eq TcpSocket st h tcpSockets firstFree visit.slot hslot
  obtain ⟨r, client', hreply⟩ :=
    returns_attempt (Socks5.writeFailure Socks5.replyGeneralFailure) client
  refine ⟨?_, ?_, ?_⟩
  rotate_left
  · unfold startConnection
    rw [bind_ok hadd, hconnect, bind_ok (connectTcp_error List.mem_cons_self)]
    dsimp only
    rw [bind_ok (onNet_ok (NetM.removeTcpSocket_live List.mem_cons_self)), bind_ok (onNet_ok (onClient_ok hreply))]
    rfl
  · exact ⟨List.erase_cons_head .., rfl, fun h' hne => Function.update_of_ne hne _ _⟩

end Connections

section Accept

variable {visit : Visit S} {visits : List (Except IoError (Visit S))} {dns : DnsCodec}
  {table : ProxyRouteTable} {dnsServers : List Ipv4Addr} {sessions : List ProxySession}
  {cache cache' : DnsCache} {st st' : PortStack S}

theorem acceptVisits_tunneled {session : ProxySession}
    (h : serveVisit tcp slots dns table dnsServers visit cache st = .ok (.tunneled session, cache') st') :
    acceptVisits tcp slots dns table dnsServers (.ok visit :: visits) sessions cache st =
      acceptVisits tcp slots dns table dnsServers visits (sessions ++ [session]) cache' st' := by
  rw [acceptVisits, bind_ok h]

theorem acceptVisits_dropped
    (h : serveVisit tcp slots dns table dnsServers visit cache st = .ok (.dropped, cache') st') :
    acceptVisits tcp slots dns table dnsServers (.ok visit :: visits) sessions cache st =
      acceptVisits tcp slots dns table dnsServers visits sessions cache' st' := by
  rw [acceptVisits, bind_ok h]

end Accept

/-- Clients that ask for port 0, one after the other. -/
theorem acceptVisits_zero (rest : List (Except IoError (Visit TcpSocket))) (sessions : List ProxySession)
    (cache : DnsCache) (k : ℕ) {st : PortStack TcpSocket} (hlive : st.netstack.live = [0]) :
    ∃ st', acceptVisits tcpSockets firstFree noDns routeAll []
        (List.replicate k (.ok zeroVisit) ++ rest) sessions cache st =
          acceptVisits tcpSockets firstFree noDns routeAll [] rest sessions cache st' ∧
      st'.netstack.live = [0] ∧ st'.calls = st.calls + k ∧ st'.connections 0 = st.connections 0 := by
  induction k generalizing st with
  | zero => exact ⟨st, rfl, hlive, rfl, rfl⟩
  | succ k ih =>
    have hslot : firstFree.slot st.netstack.live zeroVisit.slot = 1 := by
      rw [hlive]
      decide
    obtain ⟨st₁, hrun, hlive₁, hcalls₁, hsame₁⟩ :=
      @startConnection_error zeroVisit askedClient ⟨10, 0, 0, 1⟩ 0 st 1 _ hslot rfl
    obtain ⟨st', hrest, hlive', hcalls', hsame'⟩ := ih (hlive₁.trans hlive)
    refine ⟨st', ?_, hlive', ?_, hsame'.trans (hsame₁ 0 (by decide))⟩
    · have hserve : serveVisit tcpSockets firstFree noDns routeAll [] zeroVisit cache st =
          .ok (.dropped, cache) st₁ := by
        have hport : portAsked zeroVisit.client = some 0 := by decide +kernel
        rw [serveVisit_of_portAsked hport rfl, bind_ok hrun]
        rfl
      rw [List.replicate_succ, List.cons_append, acceptVisits_dropped hserve]
      exact hrest
    · rw [hcalls', hcalls₁]
      omega

/-- A connection is started, `connect_tcp` fails 16383 times, and another one is started. -/
def reuseVisits : List (Except IoError (Visit TcpSocket)) :=
  .ok webVisit :: (List.replicate 16383 (.ok zeroVisit) ++ [.ok webVisit])

/-- A pass with these clients, in which the peer terminates the link. -/
def reusePass : PassAnswers TcpSocket where
  visits := reuseVisits
  read := .error (.pppd "proxy PPP link terminated by peer")
  poll := id
  drain := .ok ()

/-- The state in which this pass stops. -/
def reused : PortStack TcpSocket :=
  leaves (mainLoop tcpSockets firstFree noDns routeAll [] [reusePass] [] fun _ => none)
    (.new fun _ => tcpSockets.fresh)

/-- A client whose connection is started becomes a session. -/
theorem serveVisit_web {st : PortStack TcpSocket} {h : SocketHandle}
    (hslot : firstFree.slot st.netstack.live 0 = h) (cache : DnsCache) :
    ∃ st', serveVisit tcpSockets firstFree noDns routeAll [] webVisit cache st =
        .ok (.tunneled (.start askedClient.stream h), cache) st' ∧
      st'.netstack.live = h :: st.netstack.live ∧ st'.calls = st.calls + 1 ∧
      st'.connections h = some ⟨⟨10, 0, 0, 1⟩, 80, st.nextEphemeralPort, st.calls⟩ ∧
      ∀ h' ≠ h, st'.connections h' = st.connections h' := by
  have hport : portAsked webVisit.client = some 80 := by decide +kernel
  obtain ⟨st', hrun, hstate⟩ := @startConnection_ok webVisit askedClient ⟨10, 0, 0, 1⟩ 80 st h hslot rfl rfl
  refine ⟨st', ?_, hstate⟩
  rw [serveVisit_of_portAsked hport rfl, bind_ok hrun]
  rfl

theorem reused_reached : Reached tcpSockets (fun _ => tcpSockets.fresh) reused :=
  (Ported.mainLoop _ _ _).moves _

theorem reused_eq : reused.netstack.live = [1, 0] ∧
    reused.connections 0 = some ⟨⟨10, 0, 0, 1⟩, 80, 49152, 0⟩ ∧
    reused.connections 1 = some ⟨⟨10, 0, 0, 1⟩, 80, 49152, 16384⟩ := by
  obtain ⟨st₁, hfirst, hlive₁, hcalls₁, hconn₁, -⟩ :=
    @serveVisit_web (.new fun _ => tcpSockets.fresh) 0 (by decide) fun _ => none
  obtain ⟨st₂, hzero, hlive₂, hcalls₂, hsame₂⟩ := acceptVisits_zero [.ok webVisit]
    [.start askedClient.stream 0] (fun _ => none) 16383 hlive₁
  have hslot : firstFree.slot st₂.netstack.live 0 = 1 := by
    rw [hlive₂]
    decide
  obtain ⟨st₃, hlast, hlive₃, -, hconn₃, hsame₃⟩ := serveVisit_web hslot fun _ => none
  have haccept : acceptVisits tcpSockets firstFree noDns routeAll [] reusePass.visits [] (fun _ => none)
      (.new fun _ => tcpSockets.fresh) =
        .ok ([.start askedClient.stream 0, .start askedClient.stream 1], fun _ => none) st₃ := by
    unfold reusePass reuseVisits
    dsimp only
    rw [acceptVisits_tunneled hfirst, List.nil_append, hzero, acceptVisits_tunneled hlast]
    rfl
  have hpass : mainPass tcpSockets firstFree noDns routeAll [] reusePass [] (fun _ => none)
      (.new fun _ => tcpSockets.fresh) =
        .error (.failed (.pppd "proxy PPP link terminated by peer")) st₃ := by
    unfold mainPass
    rw [bind_ok haccept]
    rfl
  have hreused : reused = st₃ := by
    unfold reused mainLoop
    exact leaves_error (bind_error hpass)
  have hsecond : reused.connections 1 = some ⟨⟨10, 0, 0, 1⟩, 80, st₂.nextEphemeralPort, 16384⟩ := by
    rw [hreused, hconn₃, hcalls₂, hcalls₁]
    rfl
  have hport : st₂.nextEphemeralPort = 49152 := by
    have hnat : st₂.nextEphemeralPort.toNat = portOf 16384 := (reused_reached.numbered.made hsecond).2
    exact UInt16.toNat_inj.mp (hnat.trans (by decide))
  refine ⟨?_, ?_, ?_⟩
  · rw [hreused, hlive₃, hlive₂]
  · rw [hreused, hsame₃ 0 (by decide), hsame₂, hconn₁]
    rfl
  · rw [hsecond, hport]

/-- Two sockets whose calls are 16384 apart. -/
theorem same_local_port_iff_reused :
    0 ≠ 16384 ∧ ((49152 : UInt16) = 49152 ↔ 0 ≡ 16384 [MOD 16384]) :=
  (same_local_port_iff tcpSockets firstFree noDns routeAll [] fun _ => tcpSockets.fresh).2 reused
    reused_reached 0 (reused_eq.1 ▸ List.mem_cons_of_mem 1 List.mem_cons_self) 1
    (reused_eq.1 ▸ List.mem_cons_self) (by decide) _ _ reused_eq.2.1 reused_eq.2.2

/-- No two live sockets that were connected to the same address and port have the same local port. -/
def PortsApart (st : PortStack S) : Prop :=
  ∀ h₁ ∈ st.netstack.live, ∀ h₂ ∈ st.netstack.live, h₁ ≠ h₂ →
    ∀ c₁ c₂, st.connections h₁ = some c₁ → st.connections h₂ = some c₂ →
      c₁.remote = c₂.remote → c₁.port = c₂.port → c₁.localPort ≠ c₂.localPort

theorem local_port_reused : ¬ ∀ (slots : SlotChoice) (dns : DnsCodec) (table : ProxyRouteTable)
    (dnsServers : List Ipv4Addr) (sockets : SocketHandle → TcpSocket)
    (passes : List (PassAnswers TcpSocket)), PortsApart (leaves
      (mainLoop tcpSockets slots dns table dnsServers passes [] fun _ => none) (.new sockets)) := by
  intro h
  obtain ⟨hlive, hfirst, hsecond⟩ := reused_eq
  have hapart : PortsApart reused := h firstFree noDns routeAll [] (fun _ => tcpSockets.fresh) [reusePass]
  refine hapart 0 ?_ 1 ?_ (by decide) _ _ hfirst hsecond rfl rfl rfl
  · rw [hlive]
    exact List.mem_cons_of_mem 1 List.mem_cons_self
  · rw [hlive]
    exact List.mem_cons_self

end OpenfortivpnRs.Proxy.Ports
