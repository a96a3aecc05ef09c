import OpenfortivpnRs.Proxy.Pump

/-!
# Sessions whose socket is gone

A session stays until both its queues are empty, but the queue towards the remote can only shrink
while the socket is active.  So a session that loses its socket while bytes wait for it stays for good
(`stranded_session_kept`).
-/

namespace OpenfortivpnRs.Proxy

open Relation

variable {S : Type} {tcp : Smoltcp S}

/-! ### What the cleanup does -/

variable (tcp) in
/-- The socket of the session is gone and its client has everything that was received. -/
def Dead (ns : ProxyNetStack S) (session : ProxySession) : Prop :=
  tcpIsActive tcp ns session.handle = false ∧ session.toClient = []

instance (ns : ProxyNetStack S) (session : ProxySession) : Decidable (Dead tcp ns session) := by
  unfold Dead; infer_instance

variable (tcp) in
/-- The sessions `cleanup_sessions` removes: the dead ones nothing of which waits for the remote. -/
def Removable (ns : ProxyNetStack S) (session : ProxySession) : Prop :=
  Dead tcp ns session ∧ session.toRemote = []

instance (ns : ProxyNetStack S) : DecidablePred (Removable tcp ns) := fun session => by
  unfold Removable; infer_instance

@[simp] theorem handle_noteInactive (session : ProxySession) (active : Bool) :
    (noteInactive session active).handle = session.handle := by
  unfold noteInactive; split <;> simp

@[simp] theorem toRemote_noteInactive (session : ProxySession) (active : Bool) :
    (noteInactive session active).toRemote = session.toRemote := by
  unfold noteInactive; split <;> simp

@[simp] theorem toClient_noteInactive (session : ProxySession) (active : Bool) :
    (noteInactive session active).toClient = session.toClient := by
  unfold noteInactive; split <;> simp

@[simp] theorem trace_noteInactive (session : ProxySession) (active : Bool) :
    (noteInactive session active).trace = session.trace := by
  unfold noteInactive; split <;> simp

@[simp] theorem socksReplied_noteInactive (session : ProxySession) (active : Bool) :
    (noteInactive session active).socksReplied = session.socksReplied := by
  unfold noteInactive; split <;> simp

/-- A session whose socket is gone counts as closed by the remote. -/
theorem remoteClosed_noteInactive (session : ProxySession) :
    (noteInactive session false).remoteClosed = true := by
  unfold noteInactive
  by_cases hclosed : session.remoteClosed = true
  · rw [if_neg (fun h => h.2 hclosed)]
    exact hclosed
  · rw [if_pos ⟨Bool.false_ne_true, hclosed⟩]
    unfold ProxySession.markClosed
    split <;> rfl

/-- The closed flags do not matter to what is removed. -/
theorem removable_iff (ns : ProxyNetStack S) (session : ProxySession) :
    Removable tcp ns session ↔
      let noted := noteInactive session (tcpIsActive tcp ns session.handle)
      (noted.localClosed ∨ noted.remoteClosed) ∧ noted.toClient = [] ∧ noted.toRemote = [] ∧
        ¬ tcpIsActive tcp ns session.handle := by
  simp only [Removable, Dead, toClient_noteInactive, toRemote_noteInactive, Bool.not_eq_true]
  constructor
  · rintro ⟨⟨hi, hcl⟩, hre⟩
    refine ⟨Or.inr ?_, hcl, hre, hi⟩
    rw [hi]
    exact remoteClosed_noteInactive session
  · rintro ⟨-, hcl, hre, hi⟩
    exact ⟨⟨hi, hcl⟩, hre⟩

/-- **What `cleanup_sessions` does**: the removable sessions go, and their sockets with them. -/
theorem cleanupSessions_eq (sessions : List ProxySession) (ns : ProxyNetStack S) :
    cleanupSessions tcp sessions ns =
      ((sessions.filter (fun s => ¬ Removable tcp ns s)).map
          (fun s => noteInactive s (tcpIsActive tcp ns s.handle)),
        { ns with live := ns.live.diff ((sessions.filter (Removable tcp ns ·)).map (·.handle)) }) := by
  induction sessions generalizing ns with
  | nil => rfl
  | cons session sessions ih =>
    unfold cleanupSessions
    by_cases hrem : Removable tcp ns session
    · -- taking the socket out of the set changes no other session's
      have hsame : ∀ s, Removable tcp (removeTcpSocket ns session.handle) s ↔ Removable tcp ns s :=
        fun s => Iff.rfl
      simp only
      rw [if_pos ((removable_iff ns session).mp hrem), ih, handle_noteInactive]
      simp only [hsame]
      simp [hrem, removeTcpSocket, tcpIsActive, tcpState]
    · simp only
      rw [if_neg (fun h => hrem ((removable_iff ns session).mpr h)), ih]
      simp [hrem]

/-! ### Runs of the main loop -/

/-- The sessions have sockets of their own, all of them live. -/
structure Owned (rt : Runtime S) : Prop where
  handles : rt.handles.Nodup
  live : rt.netstack.live.Nodup
  subset : ∀ h ∈ rt.handles, h ∈ rt.netstack.live

variable (tcp) in
def AllSending (rt : Runtime S) : Prop := ∀ session ∈ rt.sessions, Sending tcp rt.netstack session

variable (tcp) in
/-- The session or what has become of it is there, and bytes still wait for its socket. -/
def StillStranded (session : ProxySession) (rt : Runtime S) : Prop :=
  ∃ session' ∈ rt.sessions, session'.handle = session.handle ∧ Stranded tcp rt.netstack session'

variable (tcp) in
/-- No socket stops being active while bytes of its session wait for it. -/
def NoneStranded (before after : Runtime S) : Prop :=
  ∀ session ∈ before.sessions, session.toRemote ≠ [] →
    tcpIsActive tcp after.netstack session.handle = true

theorem mem_handles {rt : Runtime S} {session : ProxySession} (h : session ∈ rt.sessions) :
    session.handle ∈ rt.handles := List.mem_map_of_mem h

section Steps

variable {cond : Runtime S → Runtime S → Prop} {rt rt' : Runtime S} {session : ProxySession}

theorem Polled.owned (h : Polled tcp cond rt rt') (ho : Owned rt) : Owned rt' := by
  cases h
  exact ⟨ho.handles, ho.live, ho.subset⟩

theorem Polled.stillStranded (h : Polled tcp cond rt rt') (ho : Owned rt)
    (hst : StillStranded tcp session rt) : StillStranded tcp session rt' := by
  cases h with
  | mk hnext hcond =>
    obtain ⟨s, hs, hhandle, hi, hq⟩ := hst
    exact ⟨s, hs, hhandle, (hnext _ (ho.subset _ (mem_handles hs))).inactive hi, hq⟩

theorem Polled.allSending (h : Polled tcp (NoneStranded tcp) rt rt') (ho : Owned rt)
    (hall : AllSending tcp rt) : AllSending tcp rt' := by
  cases h with
  | mk hnext hcond =>
    intro s hs hq
    exact (hnext _ (ho.subset _ (mem_handles hs))).synchronized (hall s hs hq) (hcond s hs hq)

/-- But for polls, accepting leaves the sessions that are there and their sockets alone. -/
theorem AcceptStep.polled_or_apart (h : AcceptStep tcp cond rt rt') (ho : Owned rt) :
    Polled tcp cond rt rt' ∨ Owned rt' ∧
      (∀ s ∈ rt.sessions, s ∈ rt'.sessions ∧
        tcpState tcp rt'.netstack s.handle = tcpState tcp rt.netstack s.handle) ∧
      ∀ s ∈ rt'.sessions, s ∈ rt.sessions ∨ s.toRemote = [] := by
  cases h with
  | poll hpoll => exact Or.inl hpoll
  | addSocket h hnew =>
    refine Or.inr ⟨⟨ho.handles, List.nodup_cons.mpr ⟨hnew, ho.live⟩, fun h' hh' => ?_⟩,
      fun s hs => ⟨hs, ?_⟩, fun s hs => Or.inl hs⟩
    · exact List.mem_cons_of_mem _ (ho.subset h' hh')
    · have hne : s.handle ≠ h := fun heq => hnew (heq ▸ ho.subset _ (mem_handles hs))
      exact congrArg tcp.state (Function.update_of_ne hne _ _)
  | useSocket h socket hfree =>
    refine Or.inr ⟨⟨ho.handles, ho.live, ho.subset⟩, fun s hs => ⟨hs, ?_⟩, fun s hs => Or.inl hs⟩
    have hne : s.handle ≠ h := fun heq => hfree (heq ▸ mem_handles hs)
    exact congrArg tcp.state (Function.update_of_ne hne _ _)
  | removeSocket h hfree =>
    refine Or.inr ⟨⟨ho.handles, ho.live.erase h, fun h' hh' => ?_⟩, fun s hs => ⟨hs, rfl⟩,
      fun s hs => Or.inl hs⟩
    have hne : h' ≠ h := fun heq => hfree (heq ▸ hh')
    exact (List.mem_erase_of_ne hne).mpr (ho.subset h' hh')
  | session client h hlive hfree =>
    refine Or.inr ⟨⟨?_, ho.live, fun h' hh' => ?_⟩,
      fun s hs => ⟨List.mem_append_left _ hs, rfl⟩, fun s hs => ?_⟩
    · unfold Runtime.handles at hfree ⊢
      rw [List.map_append, List.nodup_append]
      refine ⟨ho.handles, List.nodup_singleton _, fun a ha b hb heq => ?_⟩
      rw [List.map_singleton, List.mem_singleton] at hb
      subst heq hb
      exact hfree ha
    · unfold Runtime.handles at hh'
      rw [List.map_append, List.mem_append, List.map_singleton, List.mem_singleton] at hh'
      rcases hh' with hold | rfl
      · exact ho.subset h' hold
      · exact hlive
    · rcases List.mem_append.mp hs with hold | hnew
      · exact Or.inl hold
      · rw [List.mem_singleton.mp hnew]
        exact Or.inr rfl

theorem AcceptStep.owned (h : AcceptStep tcp cond rt rt') (ho : Owned rt) : Owned rt' := by
  rcases h.polled_or_apart ho with hpoll | ⟨ho', -, -⟩
  · exact hpoll.owned ho
  · exact ho'

theorem AcceptStep.stillStranded (h : AcceptStep tcp cond rt rt') (ho : Owned rt)
    (hst : StillStranded tcp session rt) : StillStranded tcp session rt' := by
  rcases h.polled_or_apart ho with hpoll | ⟨-, hkeep, -⟩
  · exact hpoll.stillStranded ho hst
  · obtain ⟨s, hs, hhandle, hi, hq⟩ := hst
    refine ⟨s, (hkeep s hs).1, hhandle, ?_, hq⟩
    unfold tcpIsActive
    rw [(hkeep s hs).2]
    exact hi

theorem AcceptStep.allSending (h : AcceptStep tcp (NoneStranded tcp) rt rt') (ho : Owned rt)
    (hall : AllSending tcp rt) : AllSending tcp rt' := by
  rcases h.polled_or_apart ho with hpoll | ⟨-, hkeep, hfrom⟩
  · exact hpoll.allSending ho hall
  · intro s hs hq
    rcases hfrom s hs with hold | hnil
    · rw [(hkeep s hold).2]
      exact hall s hold hq
    · exact absurd hnil hq

theorem Pumped.owned (h : Pumped tcp rt.sessions rt.netstack rt'.sessions rt'.netstack)
    (ho : Owned rt) : Owned rt' := by
  have hhandles : rt'.handles = rt.handles := h.handles
  refine ⟨?_, ?_, ?_⟩
  · rw [hhandles]
    exact ho.handles
  · rw [h.steady.live]
    exact ho.live
  · rw [hhandles, h.steady.live]
    exact ho.subset

theorem Pumped.stillStranded (h : Pumped tcp rt.sessions rt.netstack rt'.sessions rt'.netstack)
    (hst : StillStranded tcp session rt) : StillStranded tcp session rt' := by
  obtain ⟨s, hs, hhandle, hstranded⟩ := hst
  obtain ⟨s', hs', hhandle', hstranded'⟩ := h.stranded s hs hstranded
  exact ⟨s', hs', hhandle'.trans hhandle, hstranded'⟩

theorem acceptSteps_owned (h : ReflTransGen (AcceptStep tcp cond) rt rt') (ho : Owned rt) :
    Owned rt' := by
  induction h with
  | refl => exact ho
  | tail _ hstep ih => exact hstep.owned ih

theorem acceptSteps_stillStranded (h : ReflTransGen (AcceptStep tcp cond) rt rt') (ho : Owned rt)
    (hst : StillStranded tcp session rt) : StillStranded tcp session rt' := by
  induction h with
  | refl => exact hst
  | tail hsteps hstep ih => exact hstep.stillStranded (acceptSteps_owned hsteps ho) ih

theorem acceptSteps_allSending (h : ReflTransGen (AcceptStep tcp (NoneStranded tcp)) rt rt')
    (ho : Owned rt) (hall : AllSending tcp rt) : AllSending tcp rt' := by
  induction h with
  | refl => exact hall
  | tail hsteps hstep ih => exact hstep.allSending (acceptSteps_owned hsteps ho) ih

/-- The phases of a pass, with what is known of the pumps. -/
theorem Phases.pumped (hc : tcp.Contract) (h : Phases tcp cond rt rt') :
    ∃ accepted pumped polled : Runtime S, ReflTransGen (AcceptStep tcp cond) rt accepted ∧
      Pumped tcp accepted.sessions accepted.netstack pumped.sessions pumped.netstack ∧
      Polled tcp cond pumped polled ∧
      Pumped tcp polled.sessions polled.netstack rt'.sessions rt'.netstack := by
  obtain ⟨haccept, hpump, hpoll, hdeliver⟩ := h
  exact ⟨_, _, _, haccept, pumpLocalToTcp_pumped hc hpump, hpoll, pumpTcpToLocal_pumped hc hdeliver⟩

theorem Phases.owned (hc : tcp.Contract) (h : Phases tcp cond rt rt') (ho : Owned rt) :
    Owned rt' := by
  obtain ⟨_, _, _, haccept, hpump, hpoll, hdeliver⟩ := h.pumped hc
  exact hdeliver.owned (hpoll.owned (hpump.owned (acceptSteps_owned haccept ho)))

theorem Phases.stillStranded (hc : tcp.Contract) (h : Phases tcp cond rt rt') (ho : Owned rt)
    (hst : StillStranded tcp session rt) : StillStranded tcp session rt' := by
  obtain ⟨_, _, _, haccept, hpump, hpoll, hdeliver⟩ := h.pumped hc
  have hpumped := hpump.owned (acceptSteps_owned haccept ho)
  have haccepted := acceptSteps_stillStranded haccept ho hst
  exact hdeliver.stillStranded (hpoll.stillStranded hpumped (hpump.stillStranded haccepted))

theorem Phases.allSending (hc : tcp.Contract) (h : Phases tcp (NoneStranded tcp) rt rt')
    (ho : Owned rt) (hall : AllSending tcp rt) : AllSending tcp rt' := by
  obtain ⟨_, _, _, haccept, hpump, hpoll, hdeliver⟩ := h.pumped hc
  have hpumped := hpump.owned (acceptSteps_owned haccept ho)
  have haccepted := acceptSteps_allSending haccept ho hall
  exact hdeliver.sending (hpoll.allSending hpumped (hpump.sending haccepted))

end Steps

section Cleanup

variable {rt : Runtime S} {session : ProxySession}

theorem cleanup_state (h : SocketHandle) :
    tcpState tcp (rt.cleanup tcp).netstack h = tcpState tcp rt.netstack h := by
  unfold Runtime.cleanup
  rw [cleanupSessions_eq]
  rfl

/-- A session that is left was there before, and was not to be removed. -/
theorem mem_cleanup : session ∈ (rt.cleanup tcp).sessions ↔
    ∃ before ∈ rt.sessions, ¬ Removable tcp rt.netstack before ∧
      noteInactive before (tcpIsActive tcp rt.netstack before.handle) = session := by
  unfold Runtime.cleanup
  rw [cleanupSessions_eq]
  simp [and_assoc]

theorem mem_cleanup_live (ho : Owned rt) (h : SocketHandle) :
    h ∈ (rt.cleanup tcp).netstack.live ↔ h ∈ rt.netstack.live ∧
      ¬ ∃ removed ∈ rt.sessions, Removable tcp rt.netstack removed ∧ removed.handle = h := by
  unfold Runtime.cleanup
  rw [cleanupSessions_eq]
  simp [ho.live.mem_sdiff_iff, and_assoc]

theorem cleanup_handles_sublist : (rt.cleanup tcp).handles.Sublist rt.handles := by
  unfold Runtime.cleanup Runtime.handles
  rw [cleanupSessions_eq, List.map_map]
  have hsame : (fun s : ProxySession => s.handle) ∘
      (fun s => noteInactive s (tcpIsActive tcp rt.netstack s.handle)) = (·.handle) := by
    funext s
    simp
  rw [hsame]
  exact List.filter_sublist.map _

theorem cleanup_owned (ho : Owned rt) : Owned (rt.cleanup tcp) := by
  refine ⟨ho.handles.sublist cleanup_handles_sublist, ?_, fun h hh => ?_⟩
  · unfold Runtime.cleanup
    rw [cleanupSessions_eq]
    exact ho.live.diff
  · refine (mem_cleanup_live ho h).mpr ⟨ho.subset h (cleanup_handles_sublist.subset hh), ?_⟩
    rintro ⟨removed, hremoved, hrem, hhandle⟩
    obtain ⟨left, hleft, rfl⟩ := List.mem_map.mp hh
    obtain ⟨before, hbefore, hnot, rfl⟩ := mem_cleanup.mp hleft
    rw [handle_noteInactive] at hhandle
    have heq := List.inj_on_of_nodup_map ho.handles hremoved hbefore hhandle
    subst heq
    exact hnot hrem

theorem cleanup_active (h : SocketHandle) :
    tcpIsActive tcp (rt.cleanup tcp).netstack h = tcpIsActive tcp rt.netstack h := by
  unfold tcpIsActive
  rw [cleanup_state]

theorem cleanup_stillStranded (hst : StillStranded tcp session rt) :
    StillStranded tcp session (rt.cleanup tcp) := by
  obtain ⟨s, hs, hhandle, hi, hq⟩ := hst
  refine ⟨_, mem_cleanup.mpr ⟨s, hs, fun hrem => hq hrem.2, rfl⟩, ?_, ?_, ?_⟩
  · rw [handle_noteInactive]
    exact hhandle
  · rw [handle_noteInactive, cleanup_active]
    exact hi
  · rw [toRemote_noteInactive]
    exact hq

theorem cleanup_allSending (hall : AllSending tcp rt) : AllSending tcp (rt.cleanup tcp) := by
  intro s hs hq
  obtain ⟨before, hbefore, -, rfl⟩ := mem_cleanup.mp hs
  rw [toRemote_noteInactive] at hq
  rw [handle_noteInactive, cleanup_state]
  exact hall before hbefore hq

end Cleanup

section Runs

variable {cond : Runtime S → Runtime S → Prop} {sockets : SocketHandle → S} {rt rt' : Runtime S}

theorem Reachable.owned (hc : tcp.Contract) (h : Reachable tcp cond sockets rt) : Owned rt := by
  induction h with
  | refl => exact ⟨List.nodup_nil, List.nodup_nil, nofun⟩
  | tail _ hpass ih =>
    obtain ⟨delivered, hphases, rfl⟩ := hpass
    exact cleanup_owned (hphases.owned hc ih)

theorem Reachable.allSending (hc : tcp.Contract)
    (h : Reachable tcp (NoneStranded tcp) sockets rt) : AllSending tcp rt := by
  induction h with
  | refl => exact nofun
  | tail hrun hpass ih =>
    obtain ⟨delivered, hphases, rfl⟩ := hpass
    exact cleanup_allSending (hphases.allSending hc (Reachable.owned hc hrun) ih)

/-- **A stranded session stays for good**: no later pass sends what waits, and none removes the
session. -/
theorem stranded_session_kept (hc : tcp.Contract) (h : Reachable tcp cond sockets rt)
    (hruns : ReflTransGen (Pass tcp cond) rt rt') {session : ProxySession}
    (hmem : session ∈ rt.sessions) (hst : Stranded tcp rt.netstack session) :
    StillStranded tcp session rt' := by
  induction hruns with
  | refl => exact ⟨session, hmem, rfl, hst⟩
  | tail hrun hpass ih =>
    obtain ⟨delivered, hphases, rfl⟩ := hpass
    exact cleanup_stillStranded (hphases.stillStranded hc (Reachable.owned hc (h.trans hrun)) ih)

end Runs

end OpenfortivpnRs.Proxy
