import OpenfortivpnRs.Proxy.Custody
import OpenfortivpnRs.Proxy.Dead

/-!
# Who owns a socket

Every socket of the network stack that is live belongs to a session, unless a lookup was left by an
error of the tunnel: then its socket stays live, and nothing ever removes it.  No call is made with a
handle that is not live in any run.
-/

namespace OpenfortivpnRs.Proxy

open Lib PanicM

variable {S : Type} {tcp : Smoltcp S} {slots : SlotChoice}

/-! ### The sockets that are owned -/

/-- The live sockets are the owned ones, and others only where `clean` fails. -/
def Holds (clean : Prop) (owned : List SocketHandle) (ns : ProxyNetStack S) : Prop :=
  ns.live.Nodup ∧ ∃ leaked, ns.live.Perm (leaked ++ owned) ∧ (clean → leaked = [])

variable {clean : Prop} {owned : List SocketHandle} {h : SocketHandle} {E : ProxyNetStack S → Prop}

theorem Holds.mem {ns : ProxyNetStack S} (hns : Holds clean owned ns) (hmem : h ∈ owned) :
    h ∈ ns.live := by
  obtain ⟨-, leaked, hperm, -⟩ := hns
  exact hperm.mem_iff.mpr (List.mem_append_right _ hmem)

theorem Holds.of_live {ns ns' : ProxyNetStack S} (hns : Holds clean owned ns)
    (hlive : ns'.live = ns.live) : Holds clean owned ns' := by
  unfold Holds
  rw [hlive]
  exact hns

theorem Holds.perm {owned' : List SocketHandle} {ns : ProxyNetStack S} (hns : Holds clean owned ns)
    (howned : owned.Perm owned') : Holds clean owned' ns := by
  obtain ⟨hnodup, leaked, hperm, hclean⟩ := hns
  exact ⟨hnodup, leaked, hperm.trans (howned.append_left leaked), hclean⟩

theorem Holds.remove {ns : ProxyNetStack S} (hns : Holds clean (h :: owned) ns) :
    Holds clean owned (removeTcpSocket ns h) := by
  obtain ⟨hnodup, leaked, hperm, hclean⟩ := hns
  refine ⟨hnodup.erase h, leaked, ?_, hclean⟩
  have herase := (hperm.trans List.perm_middle).erase h
  rwa [List.erase_cons_head] at herase

/-- A socket whose owner forgets it. -/
theorem Holds.leak {ns : ProxyNetStack S} (hns : Holds clean (h :: owned) ns) (hnot : ¬ clean) :
    Holds clean owned ns := by
  obtain ⟨hnodup, leaked, hperm, -⟩ := hns
  refine ⟨hnodup, leaked ++ [h], ?_, fun hc => absurd hc hnot⟩
  rw [List.append_assoc]
  exact hperm

/-- The handles of the sessions. -/
def handlesOf (sessions : List ProxySession) : List SocketHandle := sessions.map (·.handle)

/-- The owned sockets are those in the hands, those of the sessions and `owned` ones elsewhere. -/
theorem holds_custody (polls : ((SocketHandle → S) → SocketHandle → S) → Prop) :
    Custody tcp polls clean fun sessions hands =>
      Holds clean (hands ++ (owned ++ handlesOf sessions)) where
  live hns hmem := hns.mem (List.mem_append_left _ hmem)
  use _ hns _ := hns.of_live rfl
  add := by
    rintro sessions hands ns h ⟨hnodup, leaked, hperm, hclean⟩ hnew
    exact ⟨List.nodup_cons.mpr ⟨hnew, hnodup⟩, leaked, (hperm.cons _).trans List.perm_middle.symm,
      hclean⟩
  remove := Holds.remove
  poll _ hns := hns.of_live rfl
  leak hnot hns := hns.leak hnot
  session := by
    intro sessions hands ns h client hns
    refine hns.perm ?_
    rw [List.cons_append]
    refine List.Perm.trans (List.perm_append_singleton h _).symm ?_
    unfold handlesOf
    rw [List.map_append, List.append_assoc, List.append_assoc]
    exact .refl _

/-! ### A pass of the main loop -/

section Pass

variable {dns : DnsCodec} {table : ProxyRouteTable} {dnsServers : List Ipv4Addr}

/-- Calls with an owned handle. -/
theorem safe_onSocket {α : Type} {f : ProxyNetStack S → α × ProxyNetStack S} {R : α → Prop}
    (hmem : h ∈ owned) (hlive : ∀ ns, (f ns).2.live = ns.live) (hresult : ∀ ns, R (f ns).1) :
    Safe (Holds clean owned) (NetM.onSocket h f) (fun a ns => R a ∧ Holds clean owned ns) E := by
  intro ns hns
  rw [NetM.onSocket_live (hns.mem hmem)]
  exact ⟨hresult ns, hns.of_live (hlive ns)⟩

theorem safe_call {α : Type} {f : ProxyNetStack S → α × ProxyNetStack S} (hmem : h ∈ owned)
    (hlive : ∀ ns, (f ns).2.live = ns.live) :
    Safe (Holds clean owned) (NetM.onSocket h f) (fun _ => Holds clean owned) E :=
  (safe_onSocket (R := fun _ => True) hmem hlive fun _ => trivial).conseq (fun _ => id)
    (fun _ _ => And.right) (fun _ => id)

theorem safe_removeTcpSocket :
    Safe (Holds clean (h :: owned)) (NetM.removeTcpSocket h) (fun _ => Holds clean owned) E := by
  intro ns hns
  rw [NetM.removeTcpSocket_live (hns.mem List.mem_cons_self)]
  exact hns.remove

theorem safe_acceptVisits {visits : List (Except IoError (Visit S))} {sessions : List ProxySession}
    {cache : DnsCache} (hworks : clean → LookupsWork dnsServers visits) :
    Safe (Holds clean (owned ++ handlesOf sessions))
      (acceptVisits tcp slots dns table dnsServers visits sessions cache)
      (fun r => Holds clean (owned ++ handlesOf r.1)) (fun _ => True) :=
  (holds_custody fun _ => True).acceptVisits [] (fun _ _ _ _ _ => trivial) hworks

/-- A pump with turns that keep the handle of the session and the sockets. -/
theorem safe_mapM {turn : ProxySession → NetM S ProxySession}
    (hturn : ∀ session : ProxySession, session.handle ∈ owned → Safe (Holds clean owned) (turn session)
      (fun session' ns => session'.handle = session.handle ∧ Holds clean owned ns) E)
    (sessions : List ProxySession) (howned : ∀ session ∈ sessions, session.handle ∈ owned) :
    Safe (Holds clean owned) (sessions.mapM turn)
      (fun sessions' ns => handlesOf sessions' = handlesOf sessions ∧ Holds clean owned ns) E := by
  induction sessions with
  | nil => exact .ret fun _ hns => ⟨rfl, hns⟩
  | cons session sessions ih =>
    obtain ⟨hs, hrest⟩ := List.forall_mem_cons.mp howned
    rw [List.mapM_cons]
    refine (hturn session hs).bind fun session' => .of_imp fun hhandle => ?_
    refine (ih hrest).bind fun sessions' => .of_imp fun hhandles => .ret fun ns hns => ⟨?_, hns⟩
    show session'.handle :: handlesOf sessions' = session.handle :: handlesOf sessions
    rw [hhandle, hhandles]

theorem safe_localTurn {session : ProxySession} (hmem : session.handle ∈ owned) :
    Safe (Holds clean owned) (localTurn tcp session)
      (fun session' ns => session'.handle = session.handle ∧ Holds clean owned ns) E := by
  unfold localTurn
  split
  · exact .ret fun _ hns => ⟨rfl, hns⟩
  · have hown : ∀ ns : ProxyNetStack S, (pumpLocal tcp session ns).1.handle = session.handle ∧
        (pumpLocal tcp session ns).2.live = ns.live := by
      intro ns
      obtain ⟨hhandle, socket, hput, -⟩ := (@pumpLocal_ownTurn S tcp session _).turn_eq
        (show _ = Except.ok ((pumpLocal tcp session ns).1, (pumpLocal tcp session ns).2) from rfl)
      rw [hput]
      exact ⟨hhandle, rfl⟩
    exact safe_onSocket hmem (fun ns => (hown ns).2) fun ns => (hown ns).1

theorem safe_tcpTurn {session : ProxySession} (hmem : session.handle ∈ owned) :
    Safe (Holds clean owned) (tcpTurn tcp session)
      (fun session' ns => session'.handle = session.handle ∧ Holds clean owned ns)
      (fun _ => True) := by
  unfold tcpTurn
  refine (safe_onSocket (R := fun turned : Result ProxySession =>
    ∀ session', turned = .ok session' → session'.handle = session.handle) hmem ?_ ?_).bind
    fun turned => .of_imp fun hhandle => .ofResult (fun session' hs _ hns => ⟨hhandle session' hs, hns⟩)
      fun _ _ _ _ => trivial
  · intro ns
    rcases hturn : pumpTcp tcp session ns with err | ⟨session', ns'⟩
    · rfl
    · obtain ⟨-, socket, rfl, -⟩ := (pumpTcp_ownTurn session _).turn_eq hturn
      rfl
  · intro ns session' hs
    rcases hturn : pumpTcp tcp session ns with err | ⟨session'', ns'⟩
    · rw [hturn] at hs
      cases hs
    · rw [hturn] at hs
      cases hs
      exact ((pumpTcp_ownTurn session _).turn_eq hturn).1

/-- The removed sessions give their sockets back. -/
theorem safe_cleanupTurns (sessions : List ProxySession) : ∀ {owned : List SocketHandle},
    Safe (Holds clean (owned ++ handlesOf sessions)) (cleanupTurns tcp sessions)
      (fun left => Holds clean (owned ++ handlesOf left)) E := by
  induction sessions with
  | nil => exact .ret fun _ => id
  | cons session sessions ih =>
    intro owned
    unfold cleanupTurns
    have hmem : session.handle ∈ owned ++ handlesOf (session :: sessions) :=
      List.mem_append_right _ List.mem_cons_self
    refine (safe_call hmem fun _ => rfl).bind fun active => ?_
    dsimp only
    split
    · rw [handle_noteInactive]
      refine Safe.bind (safe_removeTcpSocket.conseq (fun ns hns => hns.perm ?_) (fun _ _ => id)
        fun _ => id) fun _ => ih
      exact List.perm_middle
    · have hrest : Safe (Holds clean (owned ++ handlesOf (session :: sessions)))
          (cleanupTurns tcp sessions)
          (fun left => Holds clean (owned ++ session.handle :: handlesOf left)) E := by
        have hih := @ih (owned ++ [session.handle])
        simp only [List.append_assoc, List.singleton_append] at hih
        exact hih
      refine hrest.bind fun left => .ret fun ns hns => ?_
      unfold handlesOf
      rw [List.map_cons, handle_noteInactive]
      exact hns

/-- The sockets stay those of the sessions through a pass. -/
theorem safe_mainPass {answers : PassAnswers S} {sessions : List ProxySession} {cache : DnsCache}
    (hworks : clean → LookupsWork dnsServers answers.visits) :
    Safe (Holds clean (owned ++ handlesOf sessions))
      (mainPass tcp slots dns table dnsServers answers sessions cache)
      (fun r => Holds clean (owned ++ handlesOf r.1)) (fun _ => True) := by
  have hresult : ∀ {P : ProxyNetStack S → Prop} (x : Result Unit),
      Safe P (ofResult x : NetM S Unit) (fun _ => P) (fun _ => True) :=
    fun x => .ofResult (fun _ _ _ => id) fun _ _ _ _ => trivial
  have hown : ∀ (sessions : List ProxySession), ∀ session ∈ sessions,
      session.handle ∈ owned ++ handlesOf sessions :=
    fun sessions session hs => List.mem_append_right _ (List.mem_map_of_mem hs)
  unfold mainPass
  refine (safe_acceptVisits hworks).bind fun (accepted, cache) => ?_
  refine (hresult answers.read).bind fun _ => ?_
  refine (safe_mapM (fun _ => safe_localTurn) accepted (hown accepted)).bind fun pumped =>
    .of_imp fun hpumped => ?_
  rw [← hpumped]
  have hpoll : Safe (Holds clean (owned ++ handlesOf pumped)) (NetM.poll answers.poll)
      (fun _ => Holds clean (owned ++ handlesOf pumped)) (fun _ => True) := fun _ hns => hns
  refine hpoll.bind fun _ => ?_
  refine (safe_mapM (fun _ => safe_tcpTurn) pumped (hown pumped)).bind fun delivered =>
    .of_imp fun hdelivered => ?_
  rw [← hdelivered]
  refine (hresult answers.drain).bind fun _ => ?_
  exact (safe_cleanupTurns delivered).bind fun left => .ret fun _ => id

/-! ### Runs -/

theorem safe_mainLoop {passes : List (PassAnswers S)} :
    ∀ {sessions : List ProxySession} {cache : DnsCache},
      (clean → ∀ answers ∈ passes, LookupsWork dnsServers answers.visits) →
      Safe (Holds clean (owned ++ handlesOf sessions))
        (mainLoop tcp slots dns table dnsServers passes sessions cache)
        (fun r => Holds clean (owned ++ handlesOf r.1)) (fun _ => True) := by
  induction passes with
  | nil => exact fun _ => .ret fun _ => id
  | cons answers passes ih =>
    intro sessions cache hworks
    unfold mainLoop
    refine (safe_mainPass fun hc => hworks hc answers List.mem_cons_self).bind fun _ => ?_
    exact ih fun hc answers hmem => hworks hc answers (List.mem_cons_of_mem _ hmem)

theorem safe_closeSessions (sessions : List ProxySession)
    (howned : ∀ session ∈ sessions, session.handle ∈ owned) :
    Safe (Holds clean owned) (closeSessions tcp sessions) (fun _ => Holds clean owned) E := by
  induction sessions with
  | nil => exact .ret fun _ => id
  | cons session sessions ih =>
    obtain ⟨hs, hrest⟩ := List.forall_mem_cons.mp howned
    exact (safe_call hs fun _ => rfl).bind fun _ => ih hrest

/-- The live sockets are the handles of the sessions, and each belongs to one session. -/
structure OneOwner (sessions : List ProxySession) (ns : ProxyNetStack S) : Prop where
  live : ∀ h, h ∈ ns.live ↔ h ∈ handlesOf sessions
  once : (handlesOf sessions).Nodup

/-- A socket that no session owns stays live for good. -/
theorem leaked_socket_stays {passes : List (PassAnswers S)} {sessions sessions' : List ProxySession}
    {cache cache' : DnsCache} {ns ns' : ProxyNetStack S} {h : SocketHandle} (hlive : ns.live.Nodup)
    (hperm : ns.live.Perm (h :: handlesOf sessions))
    (hrun : mainLoop tcp slots dns table dnsServers passes sessions cache ns = .ok (sessions', cache') ns') :
    ¬ OneOwner sessions' ns' := by
  have hstart : Holds False ([h] ++ handlesOf sessions) ns := ⟨hlive, [], hperm, False.elim⟩
  obtain ⟨hnodup, leaked, hleft, -⟩ := (safe_mainLoop False.elim).run_ok hstart hrun
  rintro ⟨hiff, -⟩
  have hmem : h ∈ handlesOf sessions' :=
    (hiff h).mp (hleft.mem_iff.mpr (List.mem_append_right _ (List.mem_append_left _ List.mem_cons_self)))
  have hnodup' := hleft.nodup_iff.mp hnodup
  exact (List.nodup_append.mp (List.nodup_append.mp hnodup').2.1).2.2 h List.mem_cons_self h hmem rfl

/-- **Who owns a socket.**  No run calls the stack with a handle that is not live; and in every state at
the top of the main loop the live sockets are those of the sessions, each owned once, when every
lookup before found the tunnel working. -/
theorem sockets_owned (tcp : Smoltcp S) (slots : SlotChoice) (dns : DnsCodec) (table : ProxyRouteTable)
    (dnsServers : List Ipv4Addr) (sockets : SocketHandle → S) (passes : List (PassAnswers S)) :
    (∀ drain ns, run tcp slots dns table dnsServers passes drain ⟨sockets, []⟩ ≠ .error .panicked ns) ∧
    ∀ sessions cache ns,
      mainLoop tcp slots dns table dnsServers passes [] (fun _ => none) ⟨sockets, []⟩ =
        .ok (sessions, cache) ns →
      (∀ answers ∈ passes, LookupsWork dnsServers answers.visits) → OneOwner sessions ns := by
  have hstart : ∀ clean, Holds clean ([] ++ handlesOf []) (⟨sockets, []⟩ : ProxyNetStack S) :=
    fun _ => ⟨List.nodup_nil, [], List.Perm.nil, fun _ => rfl⟩
  constructor
  · intro drain ns
    refine Safe.no_panic (Q := fun _ _ => True) (E := fun _ => True) ?_ (hstart False)
    unfold run
    refine (safe_mainLoop False.elim).bind fun (sessions, _) => ?_
    refine (safe_closeSessions sessions fun s hs => List.mem_map_of_mem hs).bind fun _ => ?_
    exact .ofResult (fun _ _ _ _ => trivial) fun _ _ _ _ => trivial
  · intro sessions cache ns hrun hworks
    obtain ⟨hnodup, leaked, hperm, hclean⟩ :=
      (safe_mainLoop fun _ => hworks).run_ok (hstart True) hrun
    rw [hclean trivial, List.nil_append, List.nil_append] at hperm
    exact ⟨fun h => hperm.mem_iff, hperm.nodup_iff.mp hnodup⟩

end Pass

/-- The first handle that is not live, as `SocketSet::add` takes it. -/
def firstFree : SlotChoice where
  slot live _ := ((List.range (live.length + 1)).find? (· ∉ live)).getD 0
  slot_free live _ := by
    cases hfind : (List.range (live.length + 1)).find? (· ∉ live) with
    | some h =>
      have hfree := List.find?_some hfind
      exact of_decide_eq_true hfree
    | none =>
      -- more handles than are live cannot all be live
      have hsub : List.range (live.length + 1) ⊆ live := by
        intro h hmem
        simpa using List.find?_eq_none.mp hfind h hmem
      have hle := (List.nodup_range.subperm hsub).length_le
      rw [List.length_range] at hle
      omega

/-- A client that asks for the name `a`. -/
def nameClient : ClientSocket where
  stream := ⟨[.ok [5, 1, 0], .ok [5, 1, 0, 3, 1, 0x61, 0, 80]], [.ok 2, .ok 10]⟩
  options := []
  replies := []
  failed := false

/-- The peer terminates the link during a lookup, once. -/
def terminatedLookup : Visit TcpSocket where
  client := nameClient
  answers := ⟨fun _ => .error .permissionDenied, fun _ => .ok [], .error wouldBlock, 0, .ok ()⟩
  now := 0
  servers _ :=
    ⟨0, .ok (), ⟨.synSent, defaultTcpBufferSize, []⟩,
      [⟨.error (.pppd "proxy PPP link terminated by peer"), id, .ok ()⟩]⟩
  slot := 0
  connecting := tcpSockets.fresh

/-- One pass with that lookup. -/
def leakyPass : PassAnswers TcpSocket := ⟨[.ok terminatedLookup], .ok (), id, .ok ()⟩

/-- The handles of the sessions and the live sockets behind that pass. -/
def afterLeak : Option (List SocketHandle × List SocketHandle) :=
  match mainLoop tcpSockets firstFree ⟨fun _ _ => .ok [0], fun _ _ => .ok []⟩ ⟨[]⟩ [⟨10, 0, 0, 53⟩]
    [leakyPass] [] (fun _ => none) ⟨fun _ => tcpSockets.fresh, []⟩ with
  | .ok (sessions, _) ns => some (handlesOf sessions, ns.live)
  | .error _ _ => none

/-- A socket is live, and there is no session. -/
theorem socket_leaked : ¬ ∀ (slots : SlotChoice) (dns : DnsCodec) (table : ProxyRouteTable)
    (dnsServers : List Ipv4Addr) (sockets : SocketHandle → TcpSocket)
    (passes : List (PassAnswers TcpSocket)) (sessions : List ProxySession) (cache : DnsCache)
    (ns : ProxyNetStack TcpSocket),
    mainLoop tcpSockets slots dns table dnsServers passes [] (fun _ => none) ⟨sockets, []⟩ =
      .ok (sessions, cache) ns → OneOwner sessions ns := by
  intro h
  have hleak : afterLeak = some ([], [0]) := by decide +kernel
  unfold afterLeak at hleak
  split at hleak
  · rename_i sessions cache ns hrun
    obtain ⟨hhandles, hlive⟩ := Prod.ext_iff.mp (Option.some.inj hleak)
    have hiff := (h _ _ _ _ _ _ _ _ _ hrun).live 0
    rw [show ns.live = [0] from hlive, show handlesOf sessions = [] from hhandles] at hiff
    exact absurd (hiff.mp List.mem_cons_self) List.not_mem_nil
  · cases hleak

end OpenfortivpnRs.Proxy
