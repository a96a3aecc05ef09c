import OpenfortivpnRs.Proxy.Answered

/-!
# One client does not end the program

`accept_ready_clients` and `pump_tcp_to_local` stop with an error of a client where the source has a
`?` behind an operation on its socket: the options of an accepted client and the reply of a session.
While none of these fails, the functions of the main loop return, and every client is served as it
would be alone (`clients_isolated_iff`).
-/

namespace OpenfortivpnRs.Proxy

open Lib ClientM Socks5

/-! ### The options of a client -/

/-- None of the next `n` socket options fails. -/
def OptionsHold (options : List (Except IoError Unit)) (n : ℕ) : Prop :=
  ∀ err, .error err ∉ options.take n

/-- The client when the next `n` options are set. -/
def ClientSocket.afterOptions (client : ClientSocket) (n : ℕ) : ClientSocket :=
  { client with options := client.options.drop n }

theorem optionsHold_zero (options : List (Except IoError Unit)) : OptionsHold options 0 := by
  intro err h
  rw [List.take_zero] at h
  cases h

theorem optionsHold_cons (options : List (Except IoError Unit)) (n : ℕ) :
    OptionsHold (.ok () :: options) (n + 1) ↔ OptionsHold options n := by
  simp [OptionsHold]

theorem afterOptions_add (client : ClientSocket) (m n : ℕ) :
    (client.afterOptions m).afterOptions n = client.afterOptions (m + n) := by
  unfold ClientSocket.afterOptions
  rw [List.drop_drop]

/-- A program that sets an option goes on when the option holds. -/
theorem returns_setOption_bind {α : Type} {f : Unit → ClientM α} {client : ClientSocket} {n : ℕ}
    {rest : Prop} (hf : Returns (f ()) (client.afterOptions 1) ↔
      OptionsHold (client.afterOptions 1).options n ∧ rest) :
    Returns (setOption >>= f) client ↔ OptionsHold client.options (n + 1) ∧ rest := by
  rw [returns_bind]
  rcases client with ⟨stream, _ | ⟨err | ⟨⟩, options⟩, replies, failed⟩
  · have hnone : OptionsHold [] (n + 1) ↔ OptionsHold [] n := by simp [OptionsHold]
    rw [hnone]
    refine Iff.trans ⟨?_, fun h => ⟨(), _, rfl, h⟩⟩ hf
    rintro ⟨_, _, h, hret⟩
    cases h
    exact hret
  · constructor
    · rintro ⟨_, _, h, -⟩
      cases h
    · rintro ⟨hhold, -⟩
      exact absurd List.mem_cons_self (hhold err)
  · rw [optionsHold_cons]
    refine Iff.trans ⟨?_, fun h => ⟨(), _, rfl, h⟩⟩ hf
    rintro ⟨_, _, h, hret⟩
    cases h
    exact hret

/-! ### What leaves the options to come alone -/

section Frame

variable {options : List (Except IoError Unit)}

/-- The options to come are these. -/
def OptionsAre (options : List (Except IoError Unit)) (client : ClientSocket) : Prop :=
  client.options = options

/-- The program leaves the options to come alone. -/
def KeepsOptions {α : Type} (c : ClientM α) : Prop :=
  ∀ options, Triple (OptionsAre options) c (fun _ => OptionsAre options) (OptionsAre options)

theorem KeepsOptions.bind {α β : Type} {c : ClientM α} {f : α → ClientM β} (hc : KeepsOptions c)
    (hf : ∀ a, KeepsOptions (f a)) : KeepsOptions (c >>= f) :=
  fun options => Triple.bind (hc options) fun a => hf a options

theorem keepsOptions_pure {α : Type} (a : α) : KeepsOptions (pure a) := fun _ => Triple.ret a fun _ h => h

theorem keepsOptions_throw {α : Type} (err : OpenfortivpnError) :
    KeepsOptions (throw err : ClientM α) := fun _ => Triple.stop err fun _ h => h

theorem keepsOptions_readExact (n : ℕ) : KeepsOptions (readExact n) := by
  intro options client hclient
  unfold readExact
  rcases (Reader.mk client.stream.reads).readExact n with ⟨err | bytes, reader⟩
  · exact hclient
  · exact hclient

theorem keepsOptions_writeAll (bytes : List UInt8) : KeepsOptions (ClientM.writeAll bytes) := by
  intro options client hclient
  unfold ClientM.writeAll
  rcases writeAll client.stream bytes with ⟨err | ⟨⟩, stream⟩
  · exact hclient
  · exact hclient

theorem keepsOptions_writeError (reply : UInt8) : KeepsOptions (writeError reply) := by
  unfold writeError
  exact (keepsOptions_writeAll _).bind fun _ _ _ h => h

theorem keepsOptions_throw_bind {α β : Type} (err : OpenfortivpnError) (f : α → ClientM β) :
    KeepsOptions (throw err >>= f) := fun _ _ h => h

theorem keepsOptions_negotiateNoAuth : KeepsOptions negotiateNoAuth := by
  unfold negotiateNoAuth
  refine (keepsOptions_readExact 2).bind fun header => ?_
  split
  · exact keepsOptions_throw_bind _ _
  refine (keepsOptions_readExact _).bind fun methods => ?_
  split
  · exact keepsOptions_writeAll _
  · exact (keepsOptions_writeAll _).bind fun _ => keepsOptions_throw _

theorem keepsOptions_readDomainConnect : KeepsOptions readDomainConnect := by
  unfold readDomainConnect
  refine (keepsOptions_readExact 1).bind fun len => ?_
  refine (keepsOptions_readExact _).bind fun domain => ?_
  refine (keepsOptions_readExact 2).bind fun port => ?_
  split
  · exact keepsOptions_throw _
  · exact keepsOptions_pure _

theorem keepsOptions_readConnectCommand : KeepsOptions readConnectCommand := by
  have hrefuse : ∀ reply err, KeepsOptions (do
      writeError reply
      throw err : ClientM SocksConnectRequest) :=
    fun reply err => (keepsOptions_writeError reply).bind fun _ => keepsOptions_throw err
  unfold readConnectCommand
  refine (keepsOptions_readExact 4).bind fun header => ?_
  dsimp only
  split
  · exact keepsOptions_throw_bind _ _
  split
  · exact (keepsOptions_writeError _).bind fun _ => keepsOptions_throw_bind _ _
  split
  · exact (keepsOptions_readExact 6).bind fun tail => keepsOptions_pure _
  split
  · exact keepsOptions_readDomainConnect
  split
  · exact ((keepsOptions_readExact 18).bind fun _ => keepsOptions_pure ()).bind fun _ =>
      hrefuse _ _
  · exact hrefuse _ _

theorem keepsOptions_readConnectRequest : KeepsOptions readConnectRequest :=
  keepsOptions_negotiateNoAuth.bind fun _ => keepsOptions_readConnectCommand

theorem keepsOptions_attempt {α : Type} {c : ClientM α} (h : KeepsOptions c) :
    KeepsOptions (attempt c) := by
  intro options
  refine (Triple.attempt (h options)).conseq (fun _ h => h) (fun result client h => ?_) (fun _ h => h)
  rcases result with err | a
  · exact h
  · exact h

theorem keepsOptions_destination (answers : Answers) (request : SocksConnectRequest) :
    KeepsOptions (destination answers request) := by
  unfold destination
  split
  · exact keepsOptions_pure _
  split
  · exact keepsOptions_pure _
  split
  · exact keepsOptions_pure _
  · exact (keepsOptions_attempt (keepsOptions_writeError _)).bind fun _ => keepsOptions_pure _

theorem KeepsOptions.options_eq {α : Type} {c : ClientM α} (h : KeepsOptions c)
    {client client' : ClientSocket} {a : α} (hrun : c client = .ok a client') :
    client'.options = client.options := (h client.options).run_ok rfl hrun

end Frame

/-! ### Serving one client -/

section Client

variable (answers : Answers) (table : ProxyRouteTable)

theorem returns_destination (request : SocksConnectRequest) (client : ClientSocket) :
    Returns (destination answers request) client := by
  unfold destination
  split
  · exact returns_pure _ _
  split
  · exact returns_pure _ _
  split
  · exact returns_pure _ _
  · rw [returns_bind]
    obtain ⟨result, client', h⟩ := returns_attempt (writeFailure replyHostUnreachable) client
    exact ⟨result, client', h, returns_pure _ _⟩

/-- The target is behind the tunnel and the connection to it is started. -/
def Connects (addr : Ipv4Addr) : Prop := table.canRoute addr = true ∧ answers.connectTcp = .ok ()

/-- Behind the handshake only the options of a client that goes through the tunnel matter. -/
theorem returns_serveRequest (request : SocksConnectRequest) (client : ClientSocket) :
    Returns (serveRequest answers table request) client ↔
      ((∃ addr client', destination answers request client = .ok (some addr) client' ∧
        Connects answers table addr) → OptionsHold client.options 3) := by
  obtain ⟨found, client', hfound⟩ := returns_destination answers request client
  have hoptions := (keepsOptions_destination answers request).options_eq hfound
  unfold serveRequest
  rw [returns_bind, hfound]
  rcases found with _ | addr
  · refine iff_of_true ⟨_, _, rfl, returns_pure _ _⟩ ?_
    rintro ⟨_, _, h, -⟩
    cases h
  by_cases hroute : table.canRoute addr = true
  · rcases hconnect : answers.connectTcp with err | ⟨⟩
    · -- the connection cannot be started
      refine iff_of_true ⟨_, _, rfl, ?_⟩ ?_
      · simp only [hroute, not_true_eq_false, if_false]
        rw [returns_bind]
        obtain ⟨result, client'', h⟩ := returns_attempt (writeFailure replyGeneralFailure) client'
        exact ⟨result, client'', h, returns_pure _ _⟩
      · rintro ⟨_, _, -, -, h⟩
        rw [hconnect] at h
        cases h
    · have hthree : Returns (do
          setOption
          setOption
          setOption
          let client ← get
          return Served.tunneled (.start client.stream answers.handle) : ClientM Served) client' ↔
            OptionsHold client'.options 3 ∧ True := by
        refine returns_setOption_bind (returns_setOption_bind (returns_setOption_bind ?_))
        exact iff_of_true ⟨_, _, rfl⟩ ⟨optionsHold_zero _, trivial⟩
      rw [hoptions, and_true] at hthree
      constructor
      · rintro ⟨_, _, h, hret⟩ -
        cases h
        simp only [hroute, not_true_eq_false, if_false] at hret
        exact hthree.mp hret
      · intro hhold
        refine ⟨_, _, rfl, ?_⟩
        simp only [hroute, not_true_eq_false, if_false]
        exact hthree.mpr (hhold ⟨addr, client', rfl, hroute, hconnect⟩)
  · -- a direct session, or none
    refine iff_of_true ⟨_, _, rfl, ?_⟩ ?_
    · simp only [hroute, not_false_eq_true, if_true, Bool.false_eq_true]
      rw [returns_attempt_bind]
      exact ⟨fun _ _ _ => returns_pure _ _, fun _ _ _ => returns_pure _ _⟩
    · rintro ⟨_, _, h, hroute', -⟩
      cases h
      exact absurd hroute' hroute

/-- The handshake of the client succeeds, its target is behind the tunnel, and the connection is
started. -/
def GoesThroughTunnel (client : ClientSocket) : Prop :=
  ∃ request client₁ addr client₂, readConnectRequest client = .ok request client₁ ∧
    destination answers request client₁ = .ok (some addr) client₂ ∧ Connects answers table addr

/-- None of the options fails that are set with a `?`: four of every client, and three more of one that
goes through the tunnel. -/
structure OptionsTaken (client : ClientSocket) : Prop where
  accepted : OptionsHold client.options 4
  tunneled : GoesThroughTunnel answers table (client.afterOptions 4) →
    OptionsHold (client.options.drop 4) 3

/-- **Serving a client returns** if and only if its options are taken. -/
theorem returns_serveClient (client : ClientSocket) :
    Returns (serveClient answers table) client ↔ OptionsTaken answers table client := by
  have hfour : Returns (serveClient answers table) client ↔ OptionsHold client.options 4 ∧
      (GoesThroughTunnel answers table (client.afterOptions 4) →
        OptionsHold (client.options.drop 4) 3) := by
    refine returns_setOption_bind (returns_setOption_bind (returns_setOption_bind
      (returns_setOption_bind ?_)))
    rw [and_iff_right (optionsHold_zero _), afterOptions_add, afterOptions_add, afterOptions_add,
      returns_attempt_bind]
    constructor
    · rintro ⟨hserve, -⟩ ⟨request, client₁, addr, client₂, hread, hfound, hconnects⟩
      have hhold := (returns_serveRequest answers table request client₁).mp (hserve _ _ hread)
        ⟨addr, client₂, hfound, hconnects⟩
      rwa [keepsOptions_readConnectRequest.options_eq hread] at hhold
    · intro hhold
      refine ⟨fun request client₁ hread => ?_, fun _ _ _ => returns_pure _ _⟩
      refine (returns_serveRequest answers table request client₁).mpr ?_
      rintro ⟨addr, client₂, hfound, hconnects⟩
      rw [keepsOptions_readConnectRequest.options_eq hread]
      exact hhold ⟨request, client₁, addr, client₂, hread, hfound, hconnects⟩
  rw [hfour]
  exact ⟨fun h => ⟨h.1, h.2⟩, fun h => ⟨h.accepted, h.tunneled⟩⟩

end Client

/-! ### Accepting -/

/-- The results of `accept` before the first that would block. -/
def arrived (arrivals : List (Except IoError Arrival)) : List (Except IoError Arrival) :=
  arrivals.takeWhile fun
    | .error err => err.kind ≠ .wouldBlock
    | .ok _ => true

/-- The session of a client through the tunnel. -/
def Served.proxySession : Served → Option ProxySession
  | .tunneled session => some session
  | _ => none

def Served.directSession : Served → Option DirectProxySession
  | .direct session => some session
  | _ => none

/-- What a result of `accept` comes to when nobody else is served. -/
def ArrivesAs (table : ProxyRouteTable) (result : Except IoError Arrival) (served : Served) : Prop :=
  ∃ arrival client, result = .ok arrival ∧
    serveClient arrival.answers table arrival.client = .ok served client

/-- All clients are accepted, every one as it would be alone, and the sessions that are there stay. -/
def AcceptedAlone (table : ProxyRouteTable) (arrivals : List (Except IoError Arrival))
    (sessions : List ProxySession) (directSessions : List DirectProxySession) : Prop :=
  ∃ served, List.Forall₂ (ArrivesAs table) (arrived arrivals) served ∧
    acceptReadyClients table arrivals sessions directSessions =
      .ok (sessions ++ served.filterMap Served.proxySession,
        directSessions ++ served.filterMap Served.directSession)

theorem exists_forall₂_iff {α β : Type} {R : α → β → Prop} (l : List α) :
    (∃ l', List.Forall₂ R l l') ↔ ∀ a ∈ l, ∃ b, R a b := by
  induction l with
  | nil => exact iff_of_true ⟨[], .nil⟩ nofun
  | cons a l ih =>
    rw [List.forall_mem_cons, ← ih]
    constructor
    · rintro ⟨_, _ | ⟨hab, hrest⟩⟩
      exact ⟨⟨_, hab⟩, _, hrest⟩
    · rintro ⟨⟨b, hab⟩, l', hrest⟩
      exact ⟨b :: l', .cons hab hrest⟩

theorem arrivesAs_iff (table : ProxyRouteTable) (result : Except IoError Arrival) :
    (∃ served, ArrivesAs table result served) ↔ ∃ arrival, result = .ok arrival ∧
      OptionsTaken arrival.answers table arrival.client := by
  constructor
  · rintro ⟨served, arrival, client, rfl, hserve⟩
    exact ⟨arrival, rfl, (returns_serveClient _ _ _).mp ⟨served, client, hserve⟩⟩
  · rintro ⟨arrival, rfl, htaken⟩
    obtain ⟨served, client, hserve⟩ := (returns_serveClient _ _ _).mpr htaken
    exact ⟨served, arrival, client, rfl, hserve⟩

/-- Accepting goes on with the next client. -/
theorem acceptReadyClients_cons {table : ProxyRouteTable} {arrival : Arrival} {served : Served}
    {client : ClientSocket} (hserve : serveClient arrival.answers table arrival.client = .ok served client)
    (arrivals : List (Except IoError Arrival)) (sessions : List ProxySession)
    (directSessions : List DirectProxySession) :
    acceptReadyClients table (.ok arrival :: arrivals) sessions directSessions =
      acceptReadyClients table arrivals (sessions ++ served.proxySession.toList)
        (directSessions ++ served.directSession.toList) := by
  rw [acceptReadyClients, hserve]
  rcases served with _ | session | session <;>
    simp [Served.proxySession, Served.directSession]

theorem acceptedAlone_of_arrivesAs {table : ProxyRouteTable} {arrivals : List (Except IoError Arrival)}
    {served : List Served} (h : List.Forall₂ (ArrivesAs table) (arrived arrivals) served)
    (sessions : List ProxySession) (directSessions : List DirectProxySession) :
    acceptReadyClients table arrivals sessions directSessions =
      .ok (sessions ++ served.filterMap Served.proxySession,
        directSessions ++ served.filterMap Served.directSession) := by
  induction arrivals generalizing served sessions directSessions with
  | nil =>
    cases h
    simp [acceptReadyClients]
  | cons result arrivals ih =>
    rcases result with err | arrival
    · by_cases hkind : err.kind = .wouldBlock
      · rw [arrived, List.takeWhile_cons_of_neg (by simpa using hkind)] at h
        cases h
        simp [acceptReadyClients, hkind]
      · rw [arrived, List.takeWhile_cons_of_pos (by simpa using hkind)] at h
        obtain ⟨_, _, harrives, -, -⟩ := List.forall₂_cons_left_iff.mp h
        obtain ⟨_, _, hresult, -⟩ := harrives
        cases hresult
    · rw [arrived, List.takeWhile_cons_of_pos rfl] at h
      obtain ⟨first, rest, ⟨_, client, hresult, hserve⟩, hrest, rfl⟩ := List.forall₂_cons_left_iff.mp h
      cases hresult
      rw [acceptReadyClients_cons hserve, ih hrest]
      rcases first with _ | session | session <;>
        simp [List.filterMap_cons, Served.proxySession, Served.directSession]

/-- **All clients are accepted**, every one as it would be alone, if and only if `accept` does not fail
and their options are taken. -/
theorem acceptedAlone_iff (table : ProxyRouteTable) (arrivals : List (Except IoError Arrival))
    (sessions : List ProxySession) (directSessions : List DirectProxySession) :
    AcceptedAlone table arrivals sessions directSessions ↔
      ∀ result ∈ arrived arrivals, ∃ arrival, result = .ok arrival ∧
        OptionsTaken arrival.answers table arrival.client := by
  simp only [← arrivesAs_iff]
  rw [← exists_forall₂_iff]
  constructor
  · rintro ⟨served, harrive, -⟩
    exact ⟨served, harrive⟩
  · rintro ⟨served, harrive⟩
    exact ⟨served, harrive, acceptedAlone_of_arrivesAs harrive _ _⟩

/-! ### The reply of a session -/

/-- The writes to come take `n` bytes before one fails or takes nothing. -/
def Takes : List (Except IoError ℕ) → ℕ → Prop
  | _, 0 => True
  | [], _ + 1 => False
  | .error err :: writes, n + 1 => err.kind = .interrupted ∧ Takes writes (n + 1)
  | .ok written :: writes, n + 1 => written ≠ 0 ∧ Takes writes (n + 1 - written)

/-- All is written exactly if the stream takes it. -/
theorem writeAll_ok_iff (stream : TcpStream) (bytes : List UInt8) :
    (writeAll stream bytes).1 = .ok () ↔ Takes stream.writes bytes.length := by
  fun_induction writeAll stream bytes with
  | case1 stream => simp [Takes]
  | case2 bytes hne reads =>
    obtain ⟨n, hn⟩ := Nat.exists_eq_succ_of_ne_zero (List.length_pos_of_ne_nil hne).ne'
    simp [hn, Takes]
  | case3 bytes hne reads err writes hkind ih =>
    obtain ⟨n, hn⟩ := Nat.exists_eq_succ_of_ne_zero (List.length_pos_of_ne_nil hne).ne'
    rw [ih, hn]
    simp [Takes, hkind]
  | case4 bytes hne reads err writes hkind =>
    obtain ⟨n, hn⟩ := Nat.exists_eq_succ_of_ne_zero (List.length_pos_of_ne_nil hne).ne'
    simp [hn, Takes, hkind]
  | case5 bytes hne reads writes =>
    obtain ⟨n, hn⟩ := Nat.exists_eq_succ_of_ne_zero (List.length_pos_of_ne_nil hne).ne'
    simp [hn, Takes]
  | case6 bytes hne reads written writes hzero ih =>
    obtain ⟨n, hn⟩ := Nat.exists_eq_succ_of_ne_zero (List.length_pos_of_ne_nil hne).ne'
    rw [ih, List.length_drop, hn]
    simp [Takes, hzero]

section Reply

variable {S : Type} (tcp : Smoltcp S)

/-- If the reply of the session is due, its client takes the ten bytes. -/
def ReplyTaken (ns : ProxyNetStack S) (session : ProxySession) : Prop :=
  session.socksReplied = false → tcpIsEstablished tcp ns session.handle = true →
    Takes session.client.writes 10

variable {tcp}

theorem reply_ok_iff (session : ProxySession) (ns : ProxyNetStack S) :
    (∃ replied, reply tcp session ns = .ok replied) ↔ ReplyTaken tcp ns session := by
  have htaken : (writeSuccess session.client).1 = .ok () ↔ Takes session.client.writes 10 :=
    writeAll_ok_iff session.client [5, 0, 0, 1, 0, 0, 0, 0, 0, 0]
  unfold ReplyTaken reply
  by_cases hdue : ¬ session.socksReplied ∧ tcpIsEstablished tcp ns session.handle
  · obtain ⟨hreplied, hestablished⟩ := hdue
    rw [Bool.not_eq_true] at hreplied
    rw [if_pos ⟨by simp [hreplied], hestablished⟩]
    simp only [hreplied, hestablished, forall_const, ← htaken]
    rcases writeSuccess session.client with ⟨err | ⟨⟩, client⟩
    · refine iff_of_false ?_ nofun
      rintro ⟨_, h⟩
      cases h
    · exact iff_of_true ⟨_, rfl⟩ rfl
  · rw [if_neg hdue]
    refine iff_of_true ⟨_, rfl⟩ fun hreplied hestablished => ?_
    exact absurd ⟨by simp [hreplied], hestablished⟩ hdue

/-- A turn of `pump_tcp_to_local` returns exactly if the reply is taken. -/
theorem pumpTcp_ok_iff (session : ProxySession) (ns : ProxyNetStack S) :
    (∃ r, pumpTcp tcp session ns = .ok r) ↔ ReplyTaken tcp ns session := by
  rw [← reply_ok_iff]
  unfold pumpTcp
  rcases reply tcp session ns with err | replied
  · refine iff_of_false ?_ ?_
    · rintro ⟨_, h⟩
      cases h
    · rintro ⟨_, h⟩
      cases h
  · exact iff_of_true ⟨_, rfl⟩ ⟨_, rfl⟩

variable (tcp) in
/-- `pump_tcp_to_local` returns, and every session is served as it would be alone. -/
def DeliveredAlone (sessions : List ProxySession) (ns : ProxyNetStack S) : Prop :=
  ∃ sessions' ns', pumpTcpToLocal tcp sessions ns = .ok (sessions', ns') ∧
    ServedAlone (pumpTcp tcp) sessions ns sessions' ns'

theorem deliveredAlone_iff {sessions : List ProxySession} {ns : ProxyNetStack S}
    (hnodup : (sessions.map (·.handle)).Nodup) :
    DeliveredAlone tcp sessions ns ↔ ∀ session ∈ sessions, ReplyTaken tcp ns session := by
  simp only [← pumpTcp_ok_iff]
  constructor
  · rintro ⟨sessions', ns', -, halone⟩ session hmem
    obtain ⟨session', alone, hturn, -⟩ :=
      (exists_forall₂_iff sessions).mp ⟨sessions', halone.each⟩ session hmem
    exact ⟨_, hturn⟩
  · intro hall
    obtain ⟨⟨sessions', ns'⟩, hrun⟩ := pumpAll_ok pumpTcp_ownTurn hnodup hall
    have halone := pumpAll_alone pumpTcp_ownTurn hnodup hrun
    rw [pumpAll_pumpTcp] at hrun
    exact ⟨sessions', ns', hrun, halone⟩

/-! ### The functions of the main loop -/

variable (tcp) in
/-- The functions of the main loop return, and they serve every client as if it were the only one. -/
structure ClientsIsolated (table : ProxyRouteTable) (arrivals : List (Except IoError Arrival))
    (sessions : List ProxySession) (directSessions : List DirectProxySession) (ns : ProxyNetStack S) :
    Prop where
  accept : AcceptedAlone table arrivals sessions directSessions
  localToTcp : ServedAlone (fun session ns => .ok (pumpLocal tcp session ns)) sessions ns
    (pumpLocalToTcp tcp sessions ns).1 (pumpLocalToTcp tcp sessions ns).2
  tcpToLocal : DeliveredAlone tcp sessions ns
  direct : pumpDirectSessions directSessions = directSessions.map DirectProxySession.pump

theorem pumpLocalToTcp_alone {sessions : List ProxySession} (ns : ProxyNetStack S)
    (hnodup : (sessions.map (·.handle)).Nodup) :
    ServedAlone (fun session ns => .ok (pumpLocal tcp session ns)) sessions ns
      (pumpLocalToTcp tcp sessions ns).1 (pumpLocalToTcp tcp sessions ns).2 :=
  pumpAll_alone pumpLocal_ownTurn hnodup (pumpAll_pumpLocal sessions ns)

/-- **No client ends the program or disturbs another**, if and only if `accept` does not fail, the
options of the accepted clients are taken, and so are the replies that are due. -/
theorem clients_isolated_iff {table : ProxyRouteTable} {arrivals : List (Except IoError Arrival)}
    {sessions : List ProxySession} {directSessions : List DirectProxySession} {ns : ProxyNetStack S}
    (hnodup : (sessions.map (·.handle)).Nodup) :
    ClientsIsolated tcp table arrivals sessions directSessions ns ↔
      (∀ result ∈ arrived arrivals, ∃ arrival, result = .ok arrival ∧
        OptionsTaken arrival.answers table arrival.client) ∧
      ∀ session ∈ sessions, ReplyTaken tcp ns session := by
  rw [← acceptedAlone_iff table arrivals sessions directSessions, ← deliveredAlone_iff hnodup]
  constructor
  · intro h
    exact ⟨h.accept, h.tcpToLocal⟩
  · rintro ⟨haccept, hdeliver⟩
    exact ⟨haccept, pumpLocalToTcp_alone ns hnodup, hdeliver, rfl⟩

end Reply

/-- A client that asks for an address arrives while the reply of another is due. -/
theorem clients_isolated_address : ClientsIsolated tcpSockets routeAll
    [.ok ⟨.accepted addressClient [], tunnelOnly⟩] [.start ⟨[], [.ok 4, .ok 6]⟩ 0] [] established := by
  refine (clients_isolated_iff (by decide)).mpr ⟨fun result hmem => ?_, fun session hmem => ?_⟩
  · rw [arrived, List.takeWhile_cons_of_pos rfl, List.takeWhile_nil] at hmem
    exact ⟨_, List.mem_singleton.mp hmem, nofun, nofun⟩
  · rw [List.mem_singleton.mp hmem]
    intro _ _
    simp [Takes, ProxySession.start]

/-- The client of the first session resets its connection just before the reply. -/
theorem client_ends_run : ¬ ∀ (table : ProxyRouteTable) (arrivals : List (Except IoError Arrival))
    (sessions : List ProxySession) (directSessions : List DirectProxySession)
    (ns : ProxyNetStack TcpSocket), (sessions.map (·.handle)).Nodup →
    (∀ err, .error err ∉ arrived arrivals) →
      ClientsIsolated tcpSockets table arrivals sessions directSessions ns := by
  intro h
  have hisolated := h routeAll []
    [.start ⟨[], [.error ⟨.other, "Broken pipe (os error 32)"⟩]⟩ 0, .start ⟨[], [.ok 10]⟩ 1] []
    established (by decide) nofun
  have htaken := (deliveredAlone_iff (by decide)).mp hisolated.tcpToLocal _ List.mem_cons_self rfl rfl
  exact absurd htaken.1 (by decide)

end OpenfortivpnRs.Proxy
