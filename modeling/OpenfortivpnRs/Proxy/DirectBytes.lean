import OpenfortivpnRs.Proxy.Relay

/-!
# The bytes and the counters of a direct session

As long as no write to a sink fails, every byte read at the source is written to the sink or queued,
in order, at every point of a run, and the counters count what was written (`direct_relay_fidelity`).
-/

namespace OpenfortivpnRs.Proxy

open Relation

/-! ### The counters -/

namespace DirectProxySession

/-- The counter of a direction. -/
def counter (session : DirectProxySession) : Direction → ℕ
  | .toRemote => session.clientToRemoteBytes
  | .toClient => session.remoteToClientBytes

@[simp] theorem counter_setQueue (s : DirectProxySession) (q : List UInt8) (dir : Direction) :
    (s.setQueue q dir).counter = s.counter := by cases dir <;> funext d <;> cases d <;> rfl

@[simp] theorem counter_closeSource (s : DirectProxySession) (dir : Direction) :
    (s.closeSource dir).counter = s.counter := by cases dir <;> funext d <;> cases d <;> rfl

@[simp] theorem counter_closeSink (s : DirectProxySession) (dir : Direction) :
    (s.closeSink dir).counter = s.counter := by cases dir <;> funext d <;> cases d <;> rfl

@[simp] theorem counter_markClosed (s : DirectProxySession) (reason : String) :
    (s.markClosed reason).counter = s.counter := by
  unfold markClosed; split <;> funext d <;> cases d <;> rfl

@[simp] theorem counter_shutdownSink (s : DirectProxySession) (cause : Option IoError) (dir : Direction) :
    (s.shutdownSink cause dir).counter = s.counter := by funext d; cases d <;> rfl

@[simp] theorem counter_readSource (s : DirectProxySession) (dir : Direction) :
    (s.readSource dir).2.counter = s.counter := by cases dir <;> funext d <;> cases d <;> rfl

@[simp] theorem counter_writeSink (s : DirectProxySession) (chunk : List UInt8) (dir : Direction) :
    (s.writeSink chunk dir).2.counter = s.counter := by cases dir <;> funext d <;> cases d <;> rfl

@[simp] theorem counter_countBytes (s : DirectProxySession) (n : ℕ) (dir : Direction) :
    (s.countBytes n dir).counter = Function.update s.counter dir (s.counter dir + n) := by
  cases dir <;> funext d <;> cases d <;> rfl

/-- The counters are the numbers of bytes the sinks have taken. -/
def Counted (session : DirectProxySession) : Prop :=
  ∀ dir, session.counter dir = (bytesWritten dir session.trace).length

/-- Events that write nothing leave the counters right. -/
theorem Counted.of_trace {s s' : DirectProxySession} (h : s.Counted) (es : List SocketEvent)
    (hcount : s'.counter = s.counter) (htrace : s'.trace = s.trace ++ es)
    (hes : ∀ dir, bytesWritten dir es = []) : s'.Counted := by
  intro dir
  rw [hcount, htrace, bytesWritten_append, hes, List.append_nil]
  exact h dir

/-- A write is counted. -/
theorem Counted.write {s s' : DirectProxySession} (h : s.Counted) (dir : Direction)
    {chunk : List UInt8} {n : ℕ} (hn : n ≤ chunk.length)
    (hcount : s'.counter = Function.update s.counter dir (s.counter dir + n))
    (htrace : s'.trace = s.trace ++ [.write dir chunk (.ok n)]) : s'.Counted := by
  intro d
  rw [hcount, htrace, bytesWritten_append, List.length_append]
  by_cases hd : d = dir
  · subst hd
    rw [Function.update_self, h d]
    simp [bytesWritten, hn]
  · rw [Function.update_of_ne hd, h d]
    simp [bytesWritten, Ne.symm hd]

theorem flush_counted (dir : Direction) (s : DirectProxySession) (h : s.Counted) :
    (flush dir s).Counted := by
  fun_induction flush dir s with
  | case1 s hq => exact h
  | case2 s hq chunk rest written s' hres =>
    -- a write of no bytes is not counted
    refine h.of_trace [.write dir chunk (.ok 0)] ?_ ?_ ?_
    · simp [s', written]
    · simp [s', written, trace_writeSink, hres]
    · simp [bytesWritten]
  | case3 s hq chunk rest written s' n hres hn hlt =>
    refine h.write dir hlt.le ?_ ?_
    · simp [s', written]
    · simp [s', written, trace_writeSink, hres]
  | case4 s hq chunk rest written s' n hres hn hlt ih =>
    refine ih (h.write dir (writeSink_le hres) ?_ ?_)
    · simp [s', written]
    · simp [s', written, trace_writeSink, hres]
  | case5 s hq chunk rest written s' err hres hkind =>
    refine h.of_trace [.write dir chunk (.error err)] ?_ ?_ ?_
    · simp [s', written]
    · simp [s', written, trace_writeSink, hres]
    · simp [bytesWritten]
  | case6 s hq chunk rest written s' err hres hkind =>
    refine h.of_trace [.write dir chunk (.error err)] ?_ ?_ ?_
    · simp [s', written]
    · simp [s', written, trace_writeSink, hres]
    · simp [bytesWritten]

theorem fill_counted (dir : Direction) (s : DirectProxySession) (h : s.Counted) :
    (fill dir s).Counted := by
  fun_induction fill dir s with
  | case1 s read s' hres =>
    refine h.of_trace [.read dir (.ok []), .shutdownWrite dir none (s.queue dir)] ?_ ?_ ?_
    · simp [s', read]
    · simp [s', read, trace_readSource, hres]
    · simp [bytesWritten]
  | case2 s read s' bytes hres hne ih =>
    refine ih (h.of_trace [.read dir (.ok bytes)] ?_ ?_ ?_)
    · simp [s', read]
    · simp [s', read, trace_readSource, hres]
    · simp [bytesWritten]
  | case3 s read s' err hres hkind =>
    refine h.of_trace [.read dir (.error err)] ?_ ?_ ?_
    · simp [s', read]
    · simp [s', read, trace_readSource, hres]
    · simp [bytesWritten]
  | case4 s read s' err hres hkind =>
    refine h.of_trace [.read dir (.error err), .shutdownWrite dir (some err) (s.queue dir)] ?_ ?_ ?_
    · simp [s', read]
    · simp [s', read, trace_readSource, hres]
    · simp [bytesWritten]

theorem fillIfDrained_counted (dir : Direction) (s : DirectProxySession) (h : s.Counted) :
    (fillIfDrained dir s).Counted := by
  unfold fillIfDrained
  by_cases hgo : ¬ s.sourceClosed dir ∧ s.queue dir = []
  · rw [if_pos hgo]
    exact fill_counted dir s h
  · rw [if_neg hgo]
    exact h

theorem pump_counted {s : DirectProxySession} (h : s.Counted) : s.pump.Counted :=
  fillIfDrained_counted _ _ (fillIfDrained_counted _ _ (flush_counted _ _ (flush_counted _ _ h)))

end DirectProxySession

theorem DirectRun.counted {sessions : List DirectProxySession} (h : DirectRun sessions) :
    ∀ session ∈ sessions, session.Counted := by
  induction h with
  | nil => intro session hmem; cases hmem
  | accept client remote _ ih =>
    intro session hmem
    rcases List.mem_append.mp hmem with hmem | hmem
    · exact ih session hmem
    · rw [List.mem_singleton.mp hmem]
      intro dir
      cases dir <;> rfl
  | pump _ ih =>
    intro session hmem
    obtain ⟨s, hs, rfl⟩ := List.mem_map.mp hmem
    exact DirectProxySession.pump_counted (ih s hs)
  | cleanup _ ih =>
    intro session hmem
    exact ih session (List.mem_filter.mp hmem).1

/-! ### The bytes at every point -/

/-- At every point of a trace up to which no write has failed, what the sink has taken is the front of
what was read. -/
def InOrder (dir : Direction) (trace : List SocketEvent) : Prop :=
  ∀ before after, trace = before ++ after → ¬ WriteFailed dir before →
    bytesWritten dir before <+: bytesRead dir before

/-- A trace grows by one event, behind which the bytes are in order. -/
theorem InOrder.snoc {dir : Direction} {t : List SocketEvent} {e : SocketEvent} (h : InOrder dir t)
    (hlast : ¬ WriteFailed dir (t ++ [e]) → bytesWritten dir (t ++ [e]) <+: bytesRead dir (t ++ [e])) :
    InOrder dir (t ++ [e]) := by
  intro before after hsplit hno
  rcases List.eq_nil_or_concat' after with rfl | ⟨after', e', rfl⟩
  · rw [List.append_nil] at hsplit
    subst hsplit
    exact hlast hno
  · rw [← List.append_assoc] at hsplit
    exact h before after' (List.append_inj' hsplit rfl).1 hno

/-- Behind an event that reads and writes nothing the bytes stay in order. -/
theorem InOrder.snoc_idle {dir : Direction} {t : List SocketEvent} {e : SocketEvent} (h : InOrder dir t)
    (hw : bytesWritten dir [e] = []) (hr : bytesRead dir [e] = []) : InOrder dir (t ++ [e]) := by
  refine h.snoc (fun hno => ?_)
  rw [bytesWritten_append, bytesRead_append, hw, hr, List.append_nil, List.append_nil]
  exact h t [] (List.append_nil t).symm (fun hf => hno (writeFailed_append.mpr (.inl hf)))

theorem Relay.Inv.front {r : Relay} {dir : Direction} (h : r.Inv dir) (hno : ¬ WriteFailed dir r.trace) :
    bytesWritten dir r.trace <+: bytesRead dir r.trace :=
  ⟨r.queue dir, h.intact hno⟩

/-- **Every move keeps the bytes in order.** -/
theorem Relay.Move.inOrder {r r' : Relay} (hm : r.Move r') {dir : Direction} (hinv : r.Inv dir)
    (h : InOrder dir r.trace) : InOrder dir r'.trace := by
  have hinv' : r'.Inv dir := hm.inv hinv
  cases hm with
  | wrote hq hn => exact h.snoc hinv'.front
  | blocked hkind => exact h.snoc hinv'.front
  | failed hq hne hkind => exact h.snoc hinv'.front
  | read hne hturn => exact h.snoc hinv'.front
  | idle => exact h.snoc hinv'.front
  | eof hturn =>
    rw [List.append_cons]
    exact (h.snoc_idle rfl (by simp [bytesRead])).snoc_idle rfl rfl
  | broken =>
    rw [List.append_cons]
    exact (h.snoc_idle rfl rfl).snoc_idle rfl rfl

theorem Relay.inOrder_of_moves {r r' : Relay} (hm : ReflTransGen Relay.Move r r') {dir : Direction}
    (hinv : r.Inv dir) (h : InOrder dir r.trace) : InOrder dir r'.trace := by
  induction hm with
  | refl => exact h
  | tail hmoves hmove ih => exact hmove.inOrder (Relay.inv_of_moves hmoves hinv) ih

theorem DirectRun.inOrder {sessions : List DirectProxySession} (h : DirectRun sessions) :
    ∀ session ∈ sessions, ∀ dir, InOrder dir session.trace := by
  induction h with
  | nil => intro session hmem; cases hmem
  | accept client remote _ ih =>
    intro session hmem dir
    rcases List.mem_append.mp hmem with hmem | hmem
    · exact ih session hmem dir
    · rw [List.mem_singleton.mp hmem]
      rintro before after hsplit -
      obtain ⟨rfl, -⟩ := List.append_eq_nil_iff.mp hsplit.symm
      exact List.nil_prefix
  | pump hrun ih =>
    intro session hmem dir
    obtain ⟨s, hs, rfl⟩ := List.mem_map.mp hmem
    exact Relay.inOrder_of_moves s.pump_moves (hrun.inv s hs dir) (ih s hs dir)
  | cleanup _ ih =>
    intro session hmem dir
    exact ih session (List.mem_filter.mp hmem).1 dir

/-- **What a direct session relays.**  After any run, in a direction in which no write failed: what
the sink has taken, followed by what is queued, is what was read at the source, in order; at every
earlier point the sink had taken a front of what was read; and the counter is the number of bytes
taken. -/
theorem direct_relay_fidelity {sessions : List DirectProxySession} (hrun : DirectRun sessions)
    {session : DirectProxySession} (hmem : session ∈ sessions) {dir : Direction}
    (hno : ¬ WriteFailed dir session.trace) :
    bytesWritten dir session.trace ++ session.queue dir = bytesRead dir session.trace ∧
    (∀ before after, session.trace = before ++ after →
      bytesWritten dir before <+: bytesRead dir before) ∧
    session.counter dir = (bytesWritten dir session.trace).length := by
  refine ⟨(hrun.inv session hmem dir).intact hno, ?_, hrun.counted session hmem dir⟩
  intro before after hsplit
  refine hrun.inOrder session hmem dir before after hsplit (fun hf => hno ?_)
  rw [hsplit]
  exact writeFailed_append.mpr (.inl hf)

/-- A client that sends three bytes, and a remote that takes two of them. -/
def partlyWritten : DirectProxySession :=
  (DirectProxySession.start ⟨[.ok [1, 2, 3]], []⟩ ⟨[], [.ok 2]⟩).pump.pump

theorem direct_relay_fidelity_partly :
    ¬ WriteFailed .toRemote partlyWritten.trace ∧ partlyWritten.toRemote = [3] ∧
      bytesWritten .toRemote partlyWritten.trace = [1, 2] ∧ partlyWritten.clientToRemoteBytes = 2 := by
  have hrun : DirectRun (pumpDirectSessions (pumpDirectSessions
      [.start ⟨[.ok [1, 2, 3]], []⟩ ⟨[], [.ok 2]⟩])) :=
    .pump (.pump (.accept _ _ .nil))
  have hmem : partlyWritten ∈ pumpDirectSessions (pumpDirectSessions
      [.start ⟨[.ok [1, 2, 3]], []⟩ ⟨[], [.ok 2]⟩]) :=
    List.mem_map_of_mem (List.mem_map_of_mem (List.mem_singleton_self _))
  have htrace : partlyWritten.trace = [.read .toRemote (.ok [1, 2, 3]),
      .read .toRemote (.error wouldBlock), .read .toClient (.error wouldBlock),
      .write .toRemote [1, 2, 3] (.ok 2), .read .toClient (.error wouldBlock)] := by decide +kernel
  have hqueue : partlyWritten.toRemote = [3] := by decide +kernel
  have hno : ¬ WriteFailed .toRemote partlyWritten.trace := by
    rw [htrace]
    exact not_writeFailed (by simp)
  obtain ⟨-, -, hcount⟩ := direct_relay_fidelity hrun hmem hno
  have hwritten : bytesWritten .toRemote partlyWritten.trace = [1, 2] := by
    rw [htrace]
    rfl
  refine ⟨hno, hqueue, hwritten, ?_⟩
  rw [hwritten] at hcount
  exact hcount

end OpenfortivpnRs.Proxy
