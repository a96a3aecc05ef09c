import OpenfortivpnRs.Proxy.Handles

/-!
# The main loop takes the steps of its phases

`mainPass` makes every call of the network stack itself, `Pass` says in steps what a pass may do.
Every pass of the loop that returns is one of the steps (`mainPass_pass`), so what holds of all
`Reachable` states holds of the loop (`mainLoop_reachable`).  And what `serveVisit` makes of a client
is what `serveClient` makes of it with the answers the stack gave (`acceptVisits_mirrors`).
-/

namespace OpenfortivpnRs.Proxy

open Lib PanicM ClientM Relation

variable {S : Type} {tcp : Smoltcp S} {slots : SlotChoice} {dns : DnsCodec} {table : ProxyRouteTable}
  {dnsServers : List Ipv4Addr}

/-! ### Accepting clients, step by step -/

variable (tcp) in
/-- Polls that change every socket as packets and time do. -/
def EvolvesSockets (change : (SocketHandle → S) → SocketHandle → S) : Prop :=
  ∀ sockets h, (tcp.state (sockets h)).Next (tcp.state (change sockets h))

variable (tcp) in
/-- The state is reached by steps of accepting clients, and the sockets have owners. -/
def Accepting (rt : Runtime S) (sessions : List ProxySession) (hands : List SocketHandle)
    (ns : ProxyNetStack S) : Prop :=
  ReflTransGen (AcceptStep tcp fun _ _ => True) rt ⟨sessions, ns⟩ ∧
    Holds False (hands ++ handlesOf sessions) ns

theorem Holds.nodup {clean : Prop} {owned : List SocketHandle} {ns : ProxyNetStack S}
    (hns : Holds clean owned ns) : owned.Nodup := by
  obtain ⟨hnodup, leaked, hperm, -⟩ := hns
  exact (List.nodup_append.mp (hperm.nodup_iff.mp hnodup)).2.1

/-- No session owns what is in the hands. -/
theorem Holds.free {clean : Prop} {hands : List SocketHandle} {sessions : List ProxySession}
    {ns : ProxyNetStack S} {h : SocketHandle} (hns : Holds clean (hands ++ handlesOf sessions) ns)
    (hmem : h ∈ hands) : h ∉ handlesOf sessions :=
  fun howned => (List.nodup_append.mp hns.nodup).2.2 h hmem h howned rfl

theorem accepting_custody (rt : Runtime S) :
    Custody tcp (EvolvesSockets tcp) False (Accepting tcp rt) := by
  have hholds : Custody tcp (EvolvesSockets tcp) False fun sessions hands =>
      Holds (S := S) False (hands ++ ([] ++ handlesOf sessions)) := holds_custody _
  exact {
    live := fun hns => hholds.live hns.2
    use := fun socket hns hmem =>
      ⟨hns.1.tail (.useSocket _ socket (hns.2.free hmem)), hholds.use socket hns.2 hmem⟩
    add := fun hns hnew => ⟨hns.1.tail (.addSocket _ hnew), hholds.add hns.2 hnew⟩
    remove := fun hns =>
      ⟨hns.1.tail (.removeSocket _ (hns.2.free List.mem_cons_self)), hholds.remove hns.2⟩
    poll := fun hpoll hns =>
      ⟨hns.1.tail (.poll (.mk (fun h _ => hpoll _ h) trivial)), hholds.poll hpoll hns.2⟩
    leak := fun hnot hns => ⟨hns.1, hholds.leak hnot hns.2⟩
    session := fun client hns =>
      ⟨hns.1.tail (.session client _ (hns.2.mem List.mem_cons_self) (hns.2.free List.mem_cons_self)),
        hholds.session client hns.2⟩ }

/-! ### The pumps and the cleanup -/

theorem onSocket_eq_ok {α : Type} {h : SocketHandle} {f : ProxyNetStack S → α × ProxyNetStack S}
    {ns ns' : ProxyNetStack S} {a : α} (hrun : NetM.onSocket h f ns = .ok a ns') : f ns = (a, ns') := by
  by_cases hlive : h ∈ ns.live
  · rw [NetM.onSocket_live hlive] at hrun
    cases hrun
    rfl
  · rw [NetM.onSocket_dead hlive] at hrun
    cases hrun

theorem ofResult_eq_ok {x : Result Unit} {ns ns' : ProxyNetStack S} {u : Unit}
    (hrun : (ofResult x : NetM S Unit) ns = .ok u ns') : ns = ns' := by
  cases x with
  | ok _ =>
    cases hrun
    rfl
  | error _ => cases hrun

theorem localTurn_eq_ok {session session' : ProxySession} {ns ns' : ProxyNetStack S}
    (hrun : localTurn tcp session ns = .ok session' ns') :
    pumpLocal tcp session ns = (session', ns') := by
  unfold localTurn at hrun
  split at hrun
  · rename_i hclosed
    cases hrun
    unfold pumpLocal
    rw [if_pos hclosed]
  · exact onSocket_eq_ok hrun

theorem localTurns_eq_ok {sessions sessions' : List ProxySession} {ns ns' : ProxyNetStack S}
    (hrun : sessions.mapM (localTurn tcp) ns = .ok sessions' ns') :
    pumpLocalToTcp tcp sessions ns = (sessions', ns') := by
  induction sessions generalizing sessions' ns with
  | nil =>
    cases hrun
    rfl
  | cons session sessions ih =>
    rw [List.mapM_cons] at hrun
    obtain ⟨session₁, ns₁, hturn, hrun⟩ := bind_eq_ok.mp hrun
    obtain ⟨sessions₁, ns₂, hrest, hrun⟩ := bind_eq_ok.mp hrun
    cases hrun
    unfold pumpLocalToTcp
    rw [localTurn_eq_ok hturn]
    dsimp only
    rw [ih hrest]

theorem tcpTurn_eq_ok {session session' : ProxySession} {ns ns' : ProxyNetStack S}
    (hrun : tcpTurn tcp session ns = .ok session' ns') :
    pumpTcp tcp session ns = .ok (session', ns') := by
  obtain ⟨turned, ns₁, hturn, hrun⟩ := bind_eq_ok.mp hrun
  have hpump := onSocket_eq_ok hturn
  rcases hresult : pumpTcp tcp session ns with err | ⟨session₁, ns₂⟩
  · rw [hresult] at hpump
    cases hpump
    cases hrun
  · rw [hresult] at hpump
    cases hpump
    cases hrun
    rfl

theorem tcpTurns_eq_ok {sessions sessions' : List ProxySession} {ns ns' : ProxyNetStack S}
    (hrun : sessions.mapM (tcpTurn tcp) ns = .ok sessions' ns') :
    pumpTcpToLocal tcp sessions ns = .ok (sessions', ns') := by
  induction sessions generalizing sessions' ns with
  | nil =>
    cases hrun
    rfl
  | cons session sessions ih =>
    rw [List.mapM_cons] at hrun
    obtain ⟨session₁, ns₁, hturn, hrun⟩ := bind_eq_ok.mp hrun
    obtain ⟨sessions₁, ns₂, hrest, hrun⟩ := bind_eq_ok.mp hrun
    cases hrun
    unfold pumpTcpToLocal
    rw [tcpTurn_eq_ok hturn]
    dsimp only
    rw [ih hrest]

theorem cleanupTurns_eq_ok {sessions sessions' : List ProxySession} {ns ns' : ProxyNetStack S}
    (hrun : cleanupTurns tcp sessions ns = .ok sessions' ns') :
    cleanupSessions tcp sessions ns = (sessions', ns') := by
  induction sessions generalizing sessions' ns with
  | nil =>
    cases hrun
    rfl
  | cons session sessions ih =>
    unfold cleanupTurns at hrun
    obtain ⟨active, ns₁, hactive, hrun⟩ := bind_eq_ok.mp hrun
    cases onSocket_eq_ok hactive
    unfold cleanupSessions
    dsimp only at hrun ⊢
    split at hrun
    · rename_i hremoved
      obtain ⟨_, ns₂, hremove, hrun⟩ := bind_eq_ok.mp hrun
      cases onSocket_eq_ok hremove
      rw [if_pos hremoved]
      exact ih hrun
    · rename_i hkept
      obtain ⟨left, ns₂, hrest, hrun⟩ := bind_eq_ok.mp hrun
      cases hrun
      rw [if_neg hkept, ih hrest]

/-! ### Passes and runs -/

/-- The polls of a pass. -/
def PassAnswers.Evolves (tcp : Smoltcp S) (answers : PassAnswers S) : Prop :=
  EvolvesSockets tcp answers.poll ∧ LookupsPoll (EvolvesSockets tcp) answers.visits

/-- **A pass of the loop is a step.** -/
theorem mainPass_pass {answers : PassAnswers S} {sessions sessions' : List ProxySession}
    {cache cache' : DnsCache} {ns ns' : ProxyNetStack S} (hpolls : answers.Evolves tcp)
    (hns : Holds False (handlesOf sessions) ns)
    (hrun : mainPass tcp slots dns table dnsServers answers sessions cache ns =
      .ok (sessions', cache') ns') :
    Pass tcp (fun _ _ => True) ⟨sessions, ns⟩ ⟨sessions', ns'⟩ := by
  obtain ⟨⟨accepted, cache₁⟩, ns₁, haccept, hrun⟩ := bind_eq_ok.mp hrun
  obtain ⟨_, ns₂, hread, hrun⟩ := bind_eq_ok.mp hrun
  obtain ⟨pumped, ns₃, hpump, hrun⟩ := bind_eq_ok.mp hrun
  obtain ⟨_, ns₄, hpoll, hrun⟩ := bind_eq_ok.mp hrun
  obtain ⟨delivered, ns₅, hdeliver, hrun⟩ := bind_eq_ok.mp hrun
  obtain ⟨_, ns₆, hdrain, hrun⟩ := bind_eq_ok.mp hrun
  obtain ⟨left, ns₇, hcleanup, hrun⟩ := bind_eq_ok.mp hrun
  cases hrun
  cases ofResult_eq_ok hread
  cases hpoll
  cases ofResult_eq_ok hdrain
  have hsteps := ((accepting_custody ⟨sessions, ns⟩).acceptVisits [] hpolls.2 False.elim).run_ok
    ⟨.refl, hns⟩ haccept
  have hpolled : Polled tcp (fun _ _ => True) ⟨pumped, ns₃⟩
      ⟨pumped, { ns₃ with sockets := answers.poll ns₃.sockets }⟩ :=
    .mk (fun h _ => hpolls.1 _ h) trivial
  refine ⟨⟨delivered, ns₅⟩,
    .mk hsteps.1 (localTurns_eq_ok hpump) hpolled (tcpTurns_eq_ok hdeliver), ?_⟩
  show _ = Runtime.cleanup tcp ⟨delivered, ns₅⟩
  unfold Runtime.cleanup
  dsimp only
  rw [cleanupTurns_eq_ok hcleanup]

/-- **The loop reaches what its steps reach.** -/
theorem mainLoop_reachable {sockets : SocketHandle → S} {passes : List (PassAnswers S)}
    (hpolls : ∀ answers ∈ passes, answers.Evolves tcp) {cache' : DnsCache}
    {sessions' : List ProxySession} {ns' : ProxyNetStack S}
    (hrun : mainLoop tcp slots dns table dnsServers passes [] (fun _ => none) ⟨sockets, []⟩ =
      .ok (sessions', cache') ns') :
    Reachable tcp (fun _ _ => True) sockets ⟨sessions', ns'⟩ := by
  -- from any state reached whose sockets have owners
  have hloop : ∀ (sessions : List ProxySession) (cache : DnsCache) (ns : ProxyNetStack S),
      Holds False (handlesOf sessions) ns → Reachable tcp (fun _ _ => True) sockets ⟨sessions, ns⟩ →
      mainLoop tcp slots dns table dnsServers passes sessions cache ns = .ok (sessions', cache') ns' →
      Reachable tcp (fun _ _ => True) sockets ⟨sessions', ns'⟩ := by
    clear hrun
    induction passes with
    | nil =>
      intro sessions cache ns _ hreach hrun
      cases hrun
      exact hreach
    | cons answers passes ih =>
      intro sessions cache ns hns hreach hrun
      obtain ⟨⟨sessions₁, cache₁⟩, ns₁, hpass, hrun⟩ := bind_eq_ok.mp hrun
      obtain ⟨hfirst, hrest⟩ := List.forall_mem_cons.mp hpolls
      have hns₁ : Holds False (handlesOf sessions₁) ns₁ :=
        (@safe_mainPass S tcp slots False [] dns table dnsServers answers sessions cache False.elim).run_ok
          hns hpass
      exact ih hrest sessions₁ cache₁ ns₁ hns₁ (hreach.tail (mainPass_pass hfirst hns hpass)) hrun
  exact hloop [] _ _ ⟨List.nodup_nil, [], List.Perm.nil, False.elim⟩ .refl hrun

/-! ### What becomes of a client -/

/-- A client with the answers of the stack. -/
def Visit.arrival (visit : Visit S) (found : Result Ipv4Addr) (handle : SocketHandle) : Arrival :=
  ⟨visit.client, { visit.answers with vpnDns := fun _ => found, handle := handle }⟩

/-- The outcome on the stack is the one of the client, if the stack does not panic. -/
def Mirrors (onStack : EStateM.Result (Stop OpenfortivpnError) (ProxyNetStack S) (Served × DnsCache))
    (alone : EStateM.Result OpenfortivpnError ClientSocket Served) : Prop :=
  match onStack with
  | .ok (served, _) _ => ∃ client, alone = .ok served client
  | .error (.failed err) _ => ∃ client, alone = .error err client
  | .error .panicked _ => True

theorem onClient_ok {α : Type} {c : ClientM α} {client client' : ClientSocket} {a : α}
    {ns : ProxyNetStack S} (hc : c client = .ok a client') :
    onClient c client ns = .ok (a, client') ns := by
  unfold onClient
  rw [hc]
  rfl

theorem onClient_error {α : Type} {c : ClientM α} {client client' : ClientSocket}
    {err : OpenfortivpnError} {ns : ProxyNetStack S} (hc : c client = .error err client') :
    onClient c client ns = .error (.failed err) ns := by
  unfold onClient
  rw [hc]
  rfl

/-- A part that works on the client is the same on both sides; what follows it may be given anything. -/
theorem Mirrors.onClient {α X : Type} (x₀ : X) {c : ClientM α} {client : ClientSocket}
    {ns : ProxyNetStack S} {f : α × ClientSocket → NetM S (Served × DnsCache)}
    {g : X → α → ClientM Served}
    (hrest : ∀ a client', c client = .ok a client' → ∃ x, Mirrors (f (a, client') ns) (g x a client')) :
    ∃ x, Mirrors ((onClient c client >>= f) ns) ((c >>= g x) client) := by
  rcases hc : c client with ⟨a, client'⟩ | ⟨err, client'⟩
  · obtain ⟨x, hx⟩ := hrest a client' hc
    refine ⟨x, ?_⟩
    rw [bind_ok (onClient_ok hc), bind_ok hc]
    exact hx
  · refine ⟨x₀, ?_⟩
    rw [bind_error (onClient_error hc), bind_error hc]
    exact ⟨client', rfl⟩

theorem Mirrors.last {α : Type} {c : ClientM α} {client : ClientSocket} {ns : ProxyNetStack S}
    {f : α × ClientSocket → NetM S (Served × DnsCache)} {g : α → ClientM Served}
    (hrest : ∀ a client', Mirrors (f (a, client') ns) (g a client')) :
    Mirrors ((Proxy.onClient c client >>= f) ns) ((c >>= g) client) := by
  obtain ⟨_, h⟩ := @Mirrors.onClient S α Unit () c client ns f (fun _ => g)
    fun a client' _ => ⟨(), hrest a client'⟩
  exact h

theorem findDestination_mirrors (visit : Visit S) (request : Socks5.SocksConnectRequest)
    (client : ClientSocket) (cache : DnsCache) (ns : ProxyNetStack S) : ∃ found, ∀ handle,
    match findDestination tcp slots dns table dnsServers visit request client cache ns with
    | .ok (addr, _) _ => ∃ client', (addr ≠ none → client' = client) ∧
        destination (visit.arrival found handle).answers request client = .ok addr client'
    | .error (.failed _) _ => False
    | .error .panicked _ => True := by
  unfold findDestination destination
  rcases request.target with addr | domain
  · exact ⟨.error (.network ""), fun handle => ⟨client, fun _ => rfl, rfl⟩⟩
  · dsimp only
    generalize hlookup : resolveDomainCached tcp slots dns table dnsServers cache visit.now domain
      visit.servers = lookup
    rcases hfound : lookup ns with ⟨⟨addr, cache'⟩, ns'⟩ | ⟨err | _, ns'⟩
    · refine ⟨.ok addr, fun handle => ?_⟩
      rw [bind_ok (result_ok hfound)]
      exact ⟨client, fun _ => rfl, rfl⟩
    · refine ⟨.error err, fun handle => ?_⟩
      rw [bind_ok (result_failed hfound)]
      dsimp only [Visit.arrival]
      cases resolveDomainDirect domain (visit.answers.systemDns domain) with
      | ok addr => exact ⟨client, fun _ => rfl, rfl⟩
      | error _ =>
        obtain ⟨r, client', hreply⟩ :=
          returns_attempt (Socks5.writeFailure Socks5.replyHostUnreachable) client
        dsimp only
        rw [bind_ok (onClient_ok hreply), bind_ok hreply]
        exact ⟨client', fun h => absurd rfl h, rfl⟩
    · refine ⟨.error (.network ""), fun handle => ?_⟩
      rw [bind_error (result_panicked hfound)]
      trivial

/-- A client whose target is routed through the tunnel. -/
theorem startConnection_mirrors (visit : Visit S) (request : Socks5.SocksConnectRequest)
    (addr : Ipv4Addr) (client : ClientSocket) (cache : DnsCache) (ns : ProxyNetStack S)
    (hroute : table.canRoute addr) (found : Result Ipv4Addr)
    (hdest : ∀ handle, destination (visit.arrival found handle).answers request client =
      .ok (some addr) client) :
    ∃ handle, Mirrors
      ((do let served ← startConnection tcp slots visit client; return (served, cache)) ns)
      (serveRequest (visit.arrival found handle).answers table request client) := by
  refine ⟨slots.slot ns.live visit.slot, ?_⟩
  unfold startConnection serveRequest
  rw [bind_ok (hdest _)]
  dsimp only
  rw [if_neg (not_not.mpr hroute)]
  generalize hh : slots.slot ns.live visit.slot = h
  have hadd := @NetM.addTcpSocket_eq S h ns tcp slots visit.slot hh
  generalize hns : (⟨Function.update ns.sockets h tcp.fresh, h :: ns.live⟩ : ProxyNetStack S) = ns₁ at hadd
  have hlive : h ∈ ns₁.live := hns ▸ List.mem_cons_self
  have hanswer : (visit.arrival found h).answers.connectTcp = visit.answers.connectTcp := rfl
  rw [hanswer]
  simp only [bind_assoc]
  rw [bind_ok hadd, bind_ok (connectTcp_live hlive)]
  rcases visit.answers.connectTcp with err | _
  · have hremove := @NetM.removeTcpSocket_live S h (ns₁.put h visit.connecting) hlive
    dsimp only
    rw [bind_assoc, bind_ok hremove, bind_assoc]
    exact .last fun _ client' => ⟨client', rfl⟩
  · have hcourse : Mirrors
        ((Proxy.onClient (do setOption; setOption; setOption) client >>= fun kept =>
          pure (Served.tunneled (.start kept.2.stream h), cache)) (ns₁.put h visit.connecting))
        (((do setOption; setOption; setOption) >>= fun _ => do
          let client ← get
          return Served.tunneled (.start client.stream h)) client) :=
      .last fun _ client' => ⟨client', rfl⟩
    simp only [bind_assoc, pure_bind] at hcourse ⊢
    exact hcourse

/-- **What becomes of a client** on the stack is what becomes of it with some answers of the stack. -/
theorem serveVisit_mirrors (visit : Visit S) (cache : DnsCache) (ns : ProxyNetStack S) :
    ∃ found handle, Mirrors (serveVisit tcp slots dns table dnsServers visit cache ns)
      (serveClient (visit.arrival found handle).answers table visit.client) := by
  -- the options of the client are one part of the program, as on the stack
  have hoptions : ∀ rest : ClientM Served,
      (do setOption; setOption; setOption; setOption; rest) =
        (do setOption; setOption; setOption; setOption) >>= fun _ => rest := by
    intro rest
    simp only [bind_assoc]
  have hstages : ∃ x : Result Ipv4Addr × SocketHandle,
      Mirrors (serveVisit tcp slots dns table dnsServers visit cache ns)
        (serveClient (visit.arrival x.1 x.2).answers table visit.client) := by
    let x₀ : Result Ipv4Addr × SocketHandle := (.error (.network ""), 0)
    unfold serveVisit serveClient
    simp only [hoptions]
    refine Mirrors.onClient x₀ fun _ _ _ => Mirrors.onClient x₀ fun request client _ => ?_
    rcases request with err | request
    · exact ⟨x₀, client, rfl⟩
    dsimp only
    obtain ⟨found, hfind⟩ :=
      @findDestination_mirrors S tcp slots dns table dnsServers visit request client cache ns
    rcases hrun : findDestination tcp slots dns table dnsServers visit request client cache ns with
      ⟨⟨_ | addr, cache'⟩, ns'⟩ | ⟨err | _, ns'⟩
    · rw [bind_ok hrun]
      rw [hrun] at hfind
      obtain ⟨client', -, hdest⟩ := hfind 0
      refine ⟨(found, 0), client', ?_⟩
      unfold serveRequest
      rw [bind_ok hdest]
      rfl
    · rw [bind_ok hrun]
      rw [hrun] at hfind
      have hdest : ∀ handle, destination (visit.arrival found handle).answers request client =
          .ok (some addr) client := by
        intro handle
        obtain ⟨client', hsame, hdest⟩ := hfind handle
        rw [hsame (Option.some_ne_none _)] at hdest
        exact hdest
      dsimp only
      by_cases hroute : table.canRoute addr = true
      · rw [if_neg (not_not.mpr hroute)]
        obtain ⟨handle, h⟩ :=
          startConnection_mirrors visit request addr client cache' ns' hroute found hdest
        exact ⟨(found, handle), h⟩
      · rw [if_pos hroute]
        refine ⟨(found, 0), ?_⟩
        unfold serveRequest
        rw [bind_ok (hdest 0)]
        dsimp only
        rw [if_pos hroute]
        refine .last fun started client' => ?_
        rcases started with err | session
        · exact ⟨client', rfl⟩
        · exact ⟨client', rfl⟩
    · rw [hrun] at hfind
      exact (hfind 0).elim
    · rw [bind_error hrun]
      exact ⟨x₀, trivial⟩
  obtain ⟨x, h⟩ := hstages
  exact ⟨x.1, x.2, h⟩

/-- A result of `accept`, with some answers of the stack. -/
def SameClient : Except IoError (Visit S) → Except IoError Arrival → Prop
  | .error err, .error err' => err = err'
  | .ok visit, .ok arrival => ∃ found handle, arrival = visit.arrival found handle
  | _, _ => False

theorem exists_arrivals (visits : List (Except IoError (Visit S))) :
    ∃ arrivals, List.Forall₂ SameClient visits arrivals := by
  induction visits with
  | nil => exact ⟨[], .nil⟩
  | cons visit visits ih =>
    obtain ⟨arrivals, hsame⟩ := ih
    cases visit with
    | error err => exact ⟨.error err :: arrivals, .cons rfl hsame⟩
    | ok visit =>
      exact ⟨.ok (visit.arrival (.error (.network "")) 0) :: arrivals, .cons ⟨_, _, rfl⟩ hsame⟩

/-- **The sessions of the accepted clients** are those of clients with some answers of the stack. -/
theorem acceptVisits_mirrors (visits : List (Except IoError (Visit S))) (sessions : List ProxySession)
    (directSessions : List DirectProxySession) (cache : DnsCache) (ns : ProxyNetStack S) :
    ∃ arrivals, List.Forall₂ SameClient visits arrivals ∧
      match acceptVisits tcp slots dns table dnsServers visits sessions cache ns with
      | .ok (sessions', _) _ => ∃ directSessions',
          acceptReadyClients table arrivals sessions directSessions = .ok (sessions', directSessions')
      | .error (.failed err) _ => acceptReadyClients table arrivals sessions directSessions = .error err
      | .error .panicked _ => True := by
  induction visits generalizing sessions directSessions cache ns with
  | nil => exact ⟨[], .nil, directSessions, rfl⟩
  | cons visit visits ih =>
    rcases visit with err | visit
    · obtain ⟨arrivals, hsame⟩ := exists_arrivals visits
      refine ⟨.error err :: arrivals, .cons rfl hsame, ?_⟩
      unfold acceptVisits acceptReadyClients
      by_cases hempty : err.kind = .wouldBlock
      · simp only [if_pos hempty]
        exact ⟨directSessions, rfl⟩
      · simp only [if_neg hempty]
        rfl
    · obtain ⟨found, handle, hserved⟩ :=
        @serveVisit_mirrors S tcp slots dns table dnsServers visit cache ns
      have hclient : (visit.arrival found handle).client = visit.client := rfl
      have hcons : ∀ {arrivals}, List.Forall₂ SameClient visits arrivals →
          List.Forall₂ SameClient (.ok visit :: visits) (.ok (visit.arrival found handle) :: arrivals) :=
        .cons ⟨found, handle, rfl⟩
      unfold acceptVisits
      rcases hrun : serveVisit tcp slots dns table dnsServers visit cache ns with
        ⟨⟨served, cache'⟩, ns'⟩ | ⟨err | _, ns'⟩
      · rw [hrun] at hserved
        obtain ⟨client, halone⟩ := hserved
        rw [bind_ok hrun]
        cases served with
        | dropped =>
          obtain ⟨arrivals, hsame, hrest⟩ := ih sessions directSessions cache' ns'
          refine ⟨_, hcons hsame, ?_⟩
          unfold acceptReadyClients
          rw [hclient, halone]
          exact hrest
        | direct session =>
          obtain ⟨arrivals, hsame, hrest⟩ := ih sessions (directSessions ++ [session]) cache' ns'
          refine ⟨_, hcons hsame, ?_⟩
          unfold acceptReadyClients
          rw [hclient, halone]
          exact hrest
        | tunneled session =>
          obtain ⟨arrivals, hsame, hrest⟩ := ih (sessions ++ [session]) directSessions cache' ns'
          refine ⟨_, hcons hsame, ?_⟩
          unfold acceptReadyClients
          rw [hclient, halone]
          exact hrest
      · rw [hrun] at hserved
        obtain ⟨client, halone⟩ := hserved
        obtain ⟨arrivals, hsame⟩ := exists_arrivals visits
        refine ⟨_, hcons hsame, ?_⟩
        rw [bind_error hrun]
        unfold acceptReadyClients
        rw [hclient, halone]
      · obtain ⟨arrivals, hsame⟩ := exists_arrivals visits
        refine ⟨_, hcons hsame, ?_⟩
        rw [bind_error hrun]
        trivial

end OpenfortivpnRs.Proxy
