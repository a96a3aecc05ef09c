import OpenfortivpnRs.Lib.Channel
import OpenfortivpnRs.Proxy.DirectBytes
import OpenfortivpnRs.Proxy.SessionBytes

/-!
# After a failed write

A direction of a session is a queue whose writes may fail.  A write that fails with another error than
`WouldBlock` drops its chunk, but neither the loops that write nor those that read look at what it
marks, so what is queued behind the chunk or read later is written when the peer takes it.
-/

namespace OpenfortivpnRs.Proxy

open Lib Lib.Channel Relation

/-- An error other than `WouldBlock`. -/
def Hard (err : IoError) : Prop := err.kind ≠ .wouldBlock

/-! ### Direct sessions -/

/-- What an event is to a direction. -/
def SocketEvent.channel (dir : Direction) : SocketEvent → Option (Event UInt8 IoError)
  | .read d (.ok bytes) => if d = dir then some (.read bytes) else none
  | .write d chunk result => if d = dir then some (.write chunk result) else none
  | .read _ (.error _) | .shutdownWrite _ _ _ => none

/-- The history of a direction. -/
def directChannel (dir : Direction) (trace : List SocketEvent) : List (Event UInt8 IoError) :=
  trace.filterMap (SocketEvent.channel dir)

section Snoc

variable (dir d : Direction) (t : List SocketEvent)

@[simp] theorem directChannel_write (chunk : List UInt8) (result : Except IoError ℕ) :
    directChannel dir (t ++ [.write d chunk result]) =
      directChannel dir t ++ if d = dir then [.write chunk result] else [] := by
  unfold directChannel
  rw [List.filterMap_append]
  by_cases hd : d = dir <;> simp [SocketEvent.channel, hd]

@[simp] theorem directChannel_read (bytes : List UInt8) :
    directChannel dir (t ++ [.read d (.ok bytes)]) =
      directChannel dir t ++ if d = dir then [.read bytes] else [] := by
  unfold directChannel
  rw [List.filterMap_append]
  by_cases hd : d = dir <;> simp [SocketEvent.channel, hd]

@[simp] theorem directChannel_readError (err : IoError) :
    directChannel dir (t ++ [.read d (.error err)]) = directChannel dir t := by
  simp [directChannel, SocketEvent.channel]

@[simp] theorem directChannel_shutdownWrite (cause : Option IoError) (pending : List UInt8) :
    directChannel dir (t ++ [.shutdownWrite d cause pending]) = directChannel dir t := by
  simp [directChannel, SocketEvent.channel]

end Snoc

/-- **Every move is a step of the direction**, or none. -/
theorem Relay.Move.runs {r r' : Relay} (hm : r.Move r') {dir : Direction}
    (h : Runs Hard [] (directChannel dir r.trace) (r.queue dir)) :
    Runs Hard [] (directChannel dir r'.trace) (r'.queue dir) := by
  cases hm with
  | @wrote d chunk rest n hq hn =>
    by_cases hd : d = dir
    · subst hd
      rw [hq] at h
      simpa using h.snoc .wrote
    · simpa [hd, Function.update_of_ne (Ne.symm hd)] using h
  | @blocked d chunk err hkind =>
    by_cases hd : d = dir
    · subst hd
      simpa using h.snoc (.blocked (not_not_intro hkind))
    · simpa [hd] using h
  | @failed d chunk rest err hq hne hkind =>
    by_cases hd : d = dir
    · subst hd
      rw [hq] at h
      simpa using h.snoc (.failed hkind)
    · simpa [hd, Function.update_of_ne (Ne.symm hd)] using h
  | @read d bytes hne hturn =>
    by_cases hd : d = dir
    · subst hd
      simpa using h.snoc (.read bytes)
    · simpa [hd, Function.update_of_ne (Ne.symm hd)] using h
  | @idle d err => simpa using h
  | @eof d hturn =>
    rw [List.append_cons, directChannel_shutdownWrite]
    by_cases hd : d = dir
    · subst hd
      simpa using h.snoc (.read [])
    · simpa [hd] using h
  | @broken d err =>
    rw [List.append_cons, directChannel_shutdownWrite]
    simpa using h

theorem Relay.runs_of_moves {r r' : Relay} (hm : ReflTransGen Relay.Move r r') {dir : Direction}
    (h : Runs Hard [] (directChannel dir r.trace) (r.queue dir)) :
    Runs Hard [] (directChannel dir r'.trace) (r'.queue dir) := by
  induction hm with
  | refl => exact h
  | tail _ hmove ih => exact hmove.runs ih

theorem DirectRun.runs {sessions : List DirectProxySession} (h : DirectRun sessions) :
    ∀ session ∈ sessions, ∀ dir, Runs Hard [] (directChannel dir session.trace) (session.queue dir) := by
  induction h with
  | nil => nofun
  | accept client remote _ ih =>
    intro session hmem dir
    rcases List.mem_append.mp hmem with hmem | hmem
    · exact ih session hmem dir
    · rw [List.mem_singleton.mp hmem]
      cases dir <;> exact .nil
  | pump _ ih =>
    intro session hmem dir
    obtain ⟨s, hs, rfl⟩ := List.mem_map.mp hmem
    exact Relay.runs_of_moves s.pump_moves (ih s hs dir)
  | cleanup _ ih =>
    intro session hmem dir
    exact ih session (List.mem_filter.mp hmem).1 dir

/-! ### Sessions through the tunnel -/

/-- What an event is to the direction towards the client. -/
def SessionEvent.channel : SessionEvent → Option (Event UInt8 IoError)
  | .tcpRecv bytes => some (.read bytes)
  | .clientWrite chunk result => some (.write chunk result)
  | _ => none

/-- The history of the direction towards the client. -/
def clientChannel (trace : List SessionEvent) : List (Event UInt8 IoError) :=
  trace.filterMap SessionEvent.channel

/-- A part of a turn makes steps of the direction towards the client. -/
def Carries (session session' : ProxySession) : Prop :=
  ∃ es, session'.trace = session.trace ++ es ∧
    Runs Hard session.toClient (clientChannel es) session'.toClient

namespace Carries

variable {a b c : ProxySession}

theorem trans (hab : Carries a b) (hbc : Carries b c) : Carries a c := by
  obtain ⟨es, htrace, hruns⟩ := hab
  obtain ⟨es', htrace', hruns'⟩ := hbc
  refine ⟨es ++ es', ?_, ?_⟩
  · rw [htrace', htrace, List.append_assoc]
  · unfold clientChannel at hruns hruns' ⊢
    rw [List.filterMap_append]
    exact hruns.append hruns'

/-- Nothing happens in the direction. -/
theorem idle {es : List SessionEvent} (htrace : b.trace = a.trace ++ es) (hqueue : b.toClient = a.toClient)
    (hes : clientChannel es = []) : Carries a b := by
  refine ⟨es, htrace, ?_⟩
  rw [hes, hqueue]
  exact .nil

theorem refl (session : ProxySession) : Carries session session :=
  @idle _ _ [] (List.append_nil _).symm rfl rfl

/-- One step, with events that are none of the direction behind it. -/
theorem step {e : SessionEvent} {es : List SessionEvent} {event : Event UInt8 IoError}
    (htrace : b.trace = a.trace ++ e :: es) (he : e.channel = some event) (hes : clientChannel es = [])
    (hstep : Step Hard a.toClient event b.toClient) : Carries a b := by
  refine ⟨e :: es, htrace, ?_⟩
  unfold clientChannel at hes ⊢
  rw [List.filterMap_cons_some he, hes]
  exact .cons hstep .nil

end Carries

section Parts

variable {S : Type} {tcp : Smoltcp S}

/-- A move of the other direction. -/
theorem GoesOn.carries {session session' : ProxySession} {toRemote : List UInt8} {es : List SessionEvent}
    (h : GoesOn session session' toRemote session.toClient es) (hes : clientChannel es = []) :
    Carries session session' :=
  .idle h.trace h.toClient hes

theorem LocalMove.carries {session session' : ProxySession} {ns ns' : ProxyNetStack S}
    (hm : LocalMove tcp session ns session' ns') : Carries session session' := by
  cases hm with
  | sent hcan hq hsent h => exact h.carries rfl
  | failed hcan hq hsent h => exact h.carries rfl
  | forwarded hcan hne hsent h => exact h.carries rfl
  | refused hcan hne hsent h => exact h.carries rfl
  | idle hcan hkind h => exact h.carries rfl
  | eof hcan h => exact h.carries rfl
  | broken hcan hkind h => exact h.carries rfl

/-- The chunk is taken in part or as a whole, goes back or is lost. -/
theorem TcpMove.carries {session session' : ProxySession} {ns ns' : ProxyNetStack S}
    (hm : TcpMove tcp session ns session' ns') : Carries session session' := by
  cases hm with
  | @received bytes hne hrecv h =>
    refine .step h.trace rfl rfl ?_
    rw [h.toClient]
    exact .read bytes
  | drained hnone h => exact h.carries rfl
  | wrote hq hn h =>
    refine .step h.trace rfl rfl ?_
    rw [h.toClient, hq]
    exact .wrote
  | @closed chunk rest hq h =>
    refine .step h.trace rfl rfl ?_
    rw [h.toClient, hq]
    exact @Step.wrote _ _ Hard chunk rest 0
  | blocked hq hkind h =>
    refine .step h.trace rfl rfl ?_
    rw [h.toClient, hq]
    exact .blocked (not_not_intro hkind)
  | failed hq hkind h =>
    refine .step h.trace rfl rfl ?_
    rw [h.toClient, hq]
    exact .failed hkind

theorem LocalMoves.carries {p q : ProxySession × ProxyNetStack S} (hm : LocalMoves tcp p q) :
    Carries p.1 q.1 := by
  induction hm with
  | refl => exact .refl p.1
  | tail _ hmove ih => exact ih.trans hmove.carries

theorem TcpMoves.carries {p q : ProxySession × ProxyNetStack S} (hm : TcpMoves tcp p q) :
    Carries p.1 q.1 := by
  induction hm with
  | refl => exact .refl p.1
  | tail _ hmove ih => exact ih.trans hmove.carries

theorem pumpLocal_carries (session : ProxySession) (ns : ProxyNetStack S) :
    Carries session (pumpLocal tcp session ns).1 :=
  (pumpLocal_moves session ns).carries

theorem pumpTcp_carries {session session' : ProxySession} {ns ns' : ProxyNetStack S}
    (hpump : pumpTcp tcp session ns = .ok (session', ns')) : Carries session session' := by
  obtain ⟨replied, hreply, hmoves⟩ := pumpTcp_moves hpump
  refine Carries.trans ?_ hmoves.carries
  obtain ⟨-, client, rfl⟩ | ⟨-, rfl⟩ := reply_cases hreply
  · exact @Carries.idle _ _ [.replied] rfl rfl rfl
  · exact .refl replied

/-- The session has made steps of the direction since it was started. -/
def Carried (session : ProxySession) : Prop :=
  Runs Hard [] (clientChannel session.trace) session.toClient

theorem Carried.carries {session session' : ProxySession} (h : Carried session)
    (hcarries : Carries session session') : Carried session' := by
  obtain ⟨es, htrace, hruns⟩ := hcarries
  unfold Carried clientChannel at *
  rw [htrace, List.filterMap_append]
  exact h.append hruns

theorem PumpRun.carried {sessions : List ProxySession} (hrun : PumpRun tcp sessions) :
    ∀ session ∈ sessions, Carried session := by
  induction hrun with
  | nil => nofun
  | accept client handle _ ih =>
    intro session hmem
    rcases List.mem_append.mp hmem with hold | hnew
    · exact ih session hold
    · rw [List.mem_singleton.mp hnew]
      exact .nil
  | pumpLocal ns _ ih =>
    intro session hmem
    obtain ⟨before, hbefore, ns₁, ns₂, hturn⟩ := mem_pumpAll (pumpAll_pumpLocal _ ns) hmem
    obtain ⟨rfl, -⟩ := Prod.ext_iff.mp (Except.ok.inj hturn)
    exact (ih before hbefore).carries (pumpLocal_carries before ns₁)
  | pumpTcp _ hpump ih =>
    intro session hmem
    rw [← pumpAll_pumpTcp] at hpump
    obtain ⟨before, hbefore, ns₁, ns₂, hturn⟩ := mem_pumpAll hpump hmem
    exact (ih before hbefore).carries (pumpTcp_carries hturn)
  | cleanup ns _ ih =>
    intro session hmem
    rw [cleanupSessions_eq] at hmem
    obtain ⟨before, hbefore, rfl⟩ := List.mem_map.mp hmem
    unfold Carried
    rw [trace_noteInactive, toClient_noteInactive]
    exact ih before (List.mem_filter.mp hbefore).1

end Parts

/-! ### Runs -/

/-- **After a failed write.**  In any run, nothing that belongs behind a chunk whose write failed is
taken by the peer, and what it has taken is the front of what was read, in the directions in which such
a chunk was the end of all that was read: in both of a direct session, and in that towards the client of
a session through the tunnel. -/
theorem nothing_follows_failed_write {S : Type} (tcp : Smoltcp S) (direct : List DirectProxySession)
    (tunneled : List ProxySession) :
    (DirectRun direct → ∀ session ∈ direct, ∀ dir,
      LastOnes Hard (directChannel dir session.trace) →
        NothingFollows Hard (directChannel dir session.trace)) ∧
    (PumpRun tcp tunneled → ∀ session ∈ tunneled, LastOnes Hard (clientChannel session.trace) →
      NothingFollows Hard (clientChannel session.trace)) :=
  ⟨fun hrun session hmem dir hlast => (hrun.runs session hmem dir).nothing_follows hlast,
    fun hrun session hmem hlast => (hrun.carried session hmem).nothing_follows hlast⟩

/-- `ErrorKind::Interrupted`. -/
def interrupted : IoError := ⟨.interrupted, "Interrupted system call (os error 4)"⟩

/-- The client sends a byte and, after the write of it was interrupted, another, which the remote
takes. -/
def interruptedDirect : DirectProxySession :=
  (DirectProxySession.start ⟨[.ok [1], .error wouldBlock, .ok [2]], []⟩
    ⟨[], [.error interrupted, .ok 1]⟩).pump.pump.pump

/-- The same towards the client of a session through the tunnel. -/
def interruptedTunneled : List ProxySession :=
  match pumpTcpToLocal tcpSockets [.start ⟨[], [.ok 10, .error interrupted, .ok 1]⟩ 0]
    ⟨fun _ => ⟨.established, 1, [1]⟩, [0]⟩ with
  | .error _ => []
  | .ok (sessions, _) =>
    match pumpTcpToLocal tcpSockets sessions ⟨fun _ => ⟨.finWait2, 1, [2]⟩, [0]⟩ with
    | .error _ => []
    | .ok (sessions, _) => sessions

/-- The peer is given the second byte without the first. -/
theorem hole_after_failed_write :
    (¬ ∀ sessions, DirectRun sessions → ∀ session ∈ sessions, ∀ dir,
      NothingFollows Hard (directChannel dir session.trace)) ∧
    ¬ ∀ (S : Type) (tcp : Smoltcp S) (sessions : List ProxySession), PumpRun tcp sessions →
      ∀ session ∈ sessions, NothingFollows Hard (clientChannel session.trace) := by
  constructor
  · intro h
    have hrun : DirectRun (pumpDirectSessions (pumpDirectSessions (pumpDirectSessions
        [.start ⟨[.ok [1], .error wouldBlock, .ok [2]], []⟩ ⟨[], [.error interrupted, .ok 1]⟩]))) :=
      .pump (.pump (.pump (.accept _ _ .nil)))
    have hmem := List.mem_map_of_mem (f := DirectProxySession.pump) (List.mem_map_of_mem
      (f := DirectProxySession.pump) (List.mem_map_of_mem (f := DirectProxySession.pump)
        (List.mem_singleton_self (DirectProxySession.start ⟨[.ok [1], .error wouldBlock, .ok [2]], []⟩
          ⟨[], [.error interrupted, .ok 1]⟩))))
    have hfront := (h _ hrun interruptedDirect hmem .toRemote).front _ [] (List.append_nil _).symm
    exact absurd hfront (by decide +kernel)
  · intro h
    have hrun : PumpRun tcpSockets interruptedTunneled := by
      unfold interruptedTunneled
      split
      · exact .nil
      · rename_i hfirst
        split
        · exact .nil
        · rename_i hsecond
          exact .pumpTcp (.pumpTcp (.accept _ 0 .nil) hfirst) hsecond
    have hfront := fun session hmem =>
      (h _ _ _ hrun session hmem).front _ [] (List.append_nil _).symm
    exact absurd hfront (by decide +kernel)

end OpenfortivpnRs.Proxy
