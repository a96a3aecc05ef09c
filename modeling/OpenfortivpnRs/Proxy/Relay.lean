import Mathlib.Logic.Relation
import OpenfortivpnRs.Proxy.Direct

/-!
# What a direct session relays

Seen from its queues and its trace, a session makes moves: a chunk of a queue is written in part or
lost, bytes that are read join a queue, an end of stream is passed on.  The loops are sequences of
moves (`pump_moves`), and what the moves keep (`Relay.Inv`) says when an end of stream reaches the
sink behind everything read before it.
-/

namespace OpenfortivpnRs.Proxy

open Relation

/-! ### Traces -/

/-- The bytes read at the source of a direction. -/
def bytesRead (dir : Direction) (trace : List SocketEvent) : List UInt8 :=
  trace.flatMap fun
    | .read d (.ok bytes) => if d = dir then bytes else []
    | _ => []

/-- The bytes its sink has taken. -/
def bytesWritten (dir : Direction) (trace : List SocketEvent) : List UInt8 :=
  trace.flatMap fun
    | .write d chunk (.ok n) => if d = dir then chunk.take n else []
    | _ => []

/-- A write to its sink has failed, not only blocked. -/
def WriteFailed (dir : Direction) (trace : List SocketEvent) : Prop :=
  ∃ chunk err, .write dir chunk (.error err) ∈ trace ∧ err.kind ≠ .wouldBlock

/-- The last event is a read of some bytes. -/
def EndsWithData (dir : Direction) (trace : List SocketEvent) : Prop :=
  ∃ front bytes, bytes ≠ [] ∧ trace = front ++ [.read dir (.ok bytes)]

/-- The trace ends with an end of stream that was read directly behind some bytes. -/
def EofBehindData (dir : Direction) (trace : List SocketEvent) : Prop :=
  ∃ front, EndsWithData dir front ∧ trace = front ++ [.read dir (.ok [])]

theorem bytesRead_append (dir : Direction) (t es : List SocketEvent) :
    bytesRead dir (t ++ es) = bytesRead dir t ++ bytesRead dir es := by simp [bytesRead]

theorem bytesWritten_append (dir : Direction) (t es : List SocketEvent) :
    bytesWritten dir (t ++ es) = bytesWritten dir t ++ bytesWritten dir es := by simp [bytesWritten]

theorem writeFailed_append {dir : Direction} {t es : List SocketEvent} :
    WriteFailed dir (t ++ es) ↔ WriteFailed dir t ∨ WriteFailed dir es := by
  simp only [WriteFailed, List.mem_append]
  constructor
  · rintro ⟨chunk, err, h | h, hk⟩
    · exact .inl ⟨chunk, err, h, hk⟩
    · exact .inr ⟨chunk, err, h, hk⟩
  · rintro (⟨chunk, err, h, hk⟩ | ⟨chunk, err, h, hk⟩)
    · exact ⟨chunk, err, .inl h, hk⟩
    · exact ⟨chunk, err, .inr h, hk⟩

/-- Only a write can fail. -/
theorem not_writeFailed {dir : Direction} {es : List SocketEvent}
    (h : ∀ e ∈ es, ∀ chunk err, e ≠ .write dir chunk (.error err)) : ¬ WriteFailed dir es := by
  rintro ⟨chunk, err, hmem, -⟩
  exact h _ hmem chunk err rfl

theorem endsWithData_snoc {dir : Direction} {t : List SocketEvent} {e : SocketEvent} :
    EndsWithData dir (t ++ [e]) ↔ ∃ bytes, bytes ≠ [] ∧ e = .read dir (.ok bytes) := by
  constructor
  · rintro ⟨front, bytes, hne, h⟩
    obtain ⟨-, he⟩ := List.append_inj' h rfl
    exact ⟨bytes, hne, (List.cons.inj he).1⟩
  · rintro ⟨bytes, hne, rfl⟩
    exact ⟨t, bytes, hne, rfl⟩

/-- A shutdown is not a read. -/
theorem not_endsWithData_shutdown {dir d : Direction} {t : List SocketEvent} {e : SocketEvent}
    {err : Option IoError} {pending : List UInt8} :
    ¬ EndsWithData dir (t ++ [e, .shutdownWrite d err pending]) := by
  intro hends
  rw [List.append_cons] at hends
  obtain ⟨bytes, -, he⟩ := endsWithData_snoc.mp hends
  cases he

theorem eofBehindData_snoc {dir : Direction} {t : List SocketEvent} {e : SocketEvent} :
    EofBehindData dir (t ++ [e]) ↔ EndsWithData dir t ∧ e = .read dir (.ok []) := by
  constructor
  · rintro ⟨front, hdata, h⟩
    obtain ⟨rfl, he⟩ := List.append_inj' h rfl
    exact ⟨hdata, (List.cons.inj he).1⟩
  · rintro ⟨hdata, rfl⟩
    exact ⟨t, hdata, rfl⟩

/-- An event of a longer trace that is not among the new ones is one of the shorter trace. -/
theorem split_of_not_mem {t es before after : List SocketEvent} {e : SocketEvent} (h : e ∉ es)
    (hsplit : t ++ es = before ++ e :: after) : ∃ after', t = before ++ e :: after' := by
  rcases List.append_eq_append_iff.mp hsplit with ⟨mid, rfl, hes⟩ | ⟨mid, rfl, hafter⟩
  · exact absurd (by rw [hes]; simp) h
  · rcases mid with _ | ⟨e', mid⟩
    · exact absurd (by rw [← List.nil_append es, ← hafter]; simp) h
    · obtain ⟨rfl, -⟩ := List.cons.inj hafter
      exact ⟨mid, rfl⟩

/-! ### Moves -/

/-- The queues and the trace of a session. -/
structure Relay where
  queue : Direction → List UInt8
  trace : List SocketEvent

def DirectProxySession.relay (session : DirectProxySession) : Relay :=
  ⟨session.queue, session.trace⟩

inductive Relay.Move (r : Relay) : Relay → Prop
  | wrote {dir chunk rest n} (hq : r.queue dir = chunk ++ rest) (hn : n ≤ chunk.length) :
      Move r ⟨Function.update r.queue dir (chunk.drop n ++ rest), r.trace ++ [.write dir chunk (.ok n)]⟩
  | blocked {dir chunk err} (hkind : err.kind = .wouldBlock) :
      Move r ⟨r.queue, r.trace ++ [.write dir chunk (.error err)]⟩
  /-- The chunk that was taken off the queue is lost. -/
  | failed {dir chunk rest err} (hq : r.queue dir = chunk ++ rest) (hne : chunk ≠ [])
      (hkind : err.kind ≠ .wouldBlock) :
      Move r ⟨Function.update r.queue dir rest, r.trace ++ [.write dir chunk (.error err)]⟩
  | read {dir bytes} (hne : bytes ≠ []) (hturn : r.queue dir = [] ∨ EndsWithData dir r.trace) :
      Move r ⟨Function.update r.queue dir (r.queue dir ++ bytes), r.trace ++ [.read dir (.ok bytes)]⟩
  | idle {dir err} : Move r ⟨r.queue, r.trace ++ [.read dir (.error err)]⟩
  | eof {dir} (hturn : r.queue dir = [] ∨ EndsWithData dir r.trace) :
      Move r ⟨r.queue, r.trace ++ [.read dir (.ok []), .shutdownWrite dir none (r.queue dir)]⟩
  | broken {dir err} :
      Move r ⟨r.queue, r.trace ++ [.read dir (.error err), .shutdownWrite dir (some err) (r.queue dir)]⟩

namespace DirectProxySession

theorem drainChunk_ne_nil {q : List UInt8} (h : q ≠ []) : (drainChunk q ioBufferSize).1 ≠ [] := by
  intro hnil
  rcases List.take_eq_nil_iff.mp hnil with h0 | h0
  · exact absurd h0 (by decide)
  · exact h h0

/-- A chunk that is put back leaves the queue as it was. -/
theorem update_drainChunk (q : Direction → List UInt8) (dir : Direction) (maxLen : ℕ) :
    Function.update q dir ((drainChunk (q dir) maxLen).1 ++ (drainChunk (q dir) maxLen).2) = q := by
  rw [← drainChunk_append, Function.update_eq_self]

/-- **The write loop is a sequence of moves.** -/
theorem flush_moves (dir : Direction) (s : DirectProxySession) :
    ReflTransGen Relay.Move s.relay (flush dir s).relay := by
  fun_induction flush dir s with
  | case1 s hq => exact .refl
  | case2 s hq chunk rest written s' hres =>
    -- a write of zero bytes: the chunk goes back and the sink counts as closed
    refine .single ?_
    have hm : Relay.Move s.relay ⟨Function.update s.queue dir (chunk.drop 0 ++ rest), _⟩ :=
      .wrote (drainChunk_append (s.queue dir) ioBufferSize) (Nat.zero_le _)
    simpa [relay, s', written, trace_writeSink, pushFrontBytes, hres] using hm
  | case3 s hq chunk rest written s' n hres hn hlt =>
    refine .single ?_
    have hm : Relay.Move s.relay ⟨Function.update s.queue dir (chunk.drop n ++ rest), _⟩ :=
      .wrote (drainChunk_append (s.queue dir) ioBufferSize) hlt.le
    simpa [relay, s', written, trace_writeSink, pushFrontBytes, hres] using hm
  | case4 s hq chunk rest written s' n hres hn hlt ih =>
    -- the whole chunk is written and the loop goes on
    refine .head ?_ ih
    have hle : n ≤ chunk.length := writeSink_le hres
    have hm : Relay.Move s.relay ⟨Function.update s.queue dir (chunk.drop n ++ rest), _⟩ :=
      .wrote (drainChunk_append (s.queue dir) ioBufferSize) hle
    rw [List.drop_of_length_le (by omega), List.nil_append] at hm
    simpa [relay, s', written, trace_writeSink, hres] using hm
  | case5 s hq chunk rest written s' err hres hkind =>
    refine .single ?_
    have hm : Relay.Move s.relay ⟨s.queue, s.trace ++ [.write dir chunk (.error err)]⟩ :=
      .blocked hkind
    simpa [relay, s', written, trace_writeSink, pushFrontBytes, hres, chunk, rest, update_drainChunk]
      using hm
  | case6 s hq chunk rest written s' err hres hkind =>
    -- a hard error: the chunk is lost
    refine .single ?_
    have hm : Relay.Move s.relay ⟨Function.update s.queue dir rest, _⟩ :=
      .failed (drainChunk_append (s.queue dir) ioBufferSize) (drainChunk_ne_nil hq) hkind
    simpa [relay, s', written, trace_writeSink, hres] using hm

/-- **The read loop is a sequence of moves**, when it starts with an empty queue. -/
theorem fill_moves (dir : Direction) (s : DirectProxySession)
    (hturn : s.queue dir = [] ∨ EndsWithData dir s.trace) :
    ReflTransGen Relay.Move s.relay (fill dir s).relay := by
  fun_induction fill dir s with
  | case1 s read s' hres =>
    refine .single ?_
    have hm : Relay.Move s.relay _ := .eof hturn
    simpa [relay, s', read, trace_readSource, hres] using hm
  | case2 s read s' bytes hres hne ih =>
    have htrace : s'.trace = s.trace ++ [.read dir (.ok bytes)] := by
      rw [trace_readSource, hres]
    have hqueue : s'.queue = s.queue := queue_readSource s dir
    have hm : Relay.Move s.relay _ := .read hne hturn
    refine .head ?_ (ih (.inr ?_))
    · simpa [relay, hqueue, htrace] using hm
    · rw [trace_setQueue, htrace]
      exact ⟨s.trace, bytes, hne, rfl⟩
  | case3 s read s' err hres hkind =>
    refine .single ?_
    have hm : Relay.Move s.relay ⟨s.queue, s.trace ++ [.read dir (.error err)]⟩ := .idle
    simpa [relay, s', read, trace_readSource, hres] using hm
  | case4 s read s' err hres hkind =>
    refine .single ?_
    have hm : Relay.Move s.relay _ := @Relay.Move.broken s.relay dir err
    simpa [relay, s', read, trace_readSource, hres] using hm

theorem fillIfDrained_moves (dir : Direction) (s : DirectProxySession) :
    ReflTransGen Relay.Move s.relay (fillIfDrained dir s).relay := by
  unfold fillIfDrained
  by_cases h : ¬ s.sourceClosed dir ∧ s.queue dir = []
  · rw [if_pos h]
    exact fill_moves dir s (.inl h.2)
  · rw [if_neg h]

/-- **A pump is a sequence of moves.** -/
theorem pump_moves (s : DirectProxySession) : ReflTransGen Relay.Move s.relay s.pump.relay :=
  (flush_moves _ _).trans ((flush_moves _ _).trans ((fillIfDrained_moves _ _).trans
    (fillIfDrained_moves _ _)))

end DirectProxySession

/-! ### What the moves keep -/

/-- **The invariant of a direction.**  Until a write fails, what the sink has taken and what is
queued is what was read; from then on bytes are missing.  Bytes that were just read are queued.  An
end of stream is passed on behind everything read before it exactly when it was not read directly
behind some bytes and no write has failed. -/
structure Relay.Inv (r : Relay) (dir : Direction) : Prop where
  intact : ¬ WriteFailed dir r.trace →
    bytesWritten dir r.trace ++ r.queue dir = bytesRead dir r.trace
  lossy : WriteFailed dir r.trace →
    (bytesWritten dir r.trace).length + (r.queue dir).length < (bytesRead dir r.trace).length
  queued : EndsWithData dir r.trace → r.queue dir ≠ []
  eof : ∀ before pending after, r.trace = before ++ .shutdownWrite dir none pending :: after →
    (pending = [] ∧ bytesWritten dir before = bytesRead dir before ↔
      ¬ EofBehindData dir before ∧ ¬ WriteFailed dir before)

namespace Relay.Inv

variable {r : Relay} {dir : Direction}

/-- Events that lose no byte of the direction and pass on no end of stream keep the invariant. -/
theorem extend (h : r.Inv dir) {es : List SocketEvent} {q : Direction → List UInt8}
    (hshut : ∀ pending, .shutdownWrite dir none pending ∉ es) (hfail : ¬ WriteFailed dir es)
    (hbytes : bytesWritten dir es ++ q dir = r.queue dir ++ bytesRead dir es)
    (hqueued : EndsWithData dir (r.trace ++ es) → q dir ≠ []) : Relay.Inv ⟨q, r.trace ++ es⟩ dir where
  intact hno := by
    have hno' : ¬ WriteFailed dir r.trace := fun hf => hno (writeFailed_append.mpr (.inl hf))
    rw [bytesWritten_append, bytesRead_append, List.append_assoc, hbytes, ← List.append_assoc,
      h.intact hno']
  lossy hf := by
    have hf' : WriteFailed dir r.trace := (writeFailed_append.mp hf).resolve_right hfail
    have hlt := h.lossy hf'
    have hlen := congrArg List.length hbytes
    rw [bytesWritten_append, bytesRead_append]
    simp only [List.length_append] at hlen ⊢
    omega
  queued := hqueued
  eof before pending after hsplit := by
    obtain ⟨after', hr⟩ := split_of_not_mem (hshut pending) hsplit
    exact h.eof before pending after' hr

/-- An event of the other direction keeps the invariant. -/
theorem other (h : r.Inv dir) {e : SocketEvent} {q : Direction → List UInt8}
    (hshut : ∀ pending, e ≠ .shutdownWrite dir none pending) (hfail : ¬ WriteFailed dir [e])
    (hw : bytesWritten dir [e] = []) (hr : bytesRead dir [e] = [])
    (hdata : ∀ bytes, e ≠ .read dir (.ok bytes)) (hq : q dir = r.queue dir) :
    Relay.Inv ⟨q, r.trace ++ [e]⟩ dir := by
  refine h.extend ?_ hfail ?_ ?_
  · intro pending hmem
    exact hshut pending (List.mem_singleton.mp hmem).symm
  · rw [hw, hr, hq, List.nil_append, List.append_nil]
  · intro hends
    obtain ⟨bytes, -, he⟩ := endsWithData_snoc.mp hends
    exact absurd he (hdata bytes)

/-- A failed write loses its chunk. -/
theorem failed (h : r.Inv dir) {chunk rest : List UInt8} {err : IoError}
    (hq : r.queue dir = chunk ++ rest) (hne : chunk ≠ []) (hkind : err.kind ≠ .wouldBlock) :
    Relay.Inv ⟨Function.update r.queue dir rest, r.trace ++ [.write dir chunk (.error err)]⟩ dir where
  intact hno := by
    refine absurd (writeFailed_append.mpr (.inr ?_)) hno
    exact ⟨chunk, err, List.mem_singleton_self _, hkind⟩
  lossy _ := by
    have hpos := List.length_pos_of_ne_nil hne
    have hw : bytesWritten dir [.write dir chunk (.error err)] = [] := rfl
    have hr : bytesRead dir [.write dir chunk (.error err)] = [] := rfl
    rw [bytesWritten_append, bytesRead_append, hw, hr, List.append_nil, List.append_nil]
    simp only [Function.update_self]
    by_cases hf : WriteFailed dir r.trace
    · have hlt := h.lossy hf
      rw [hq, List.length_append] at hlt
      omega
    · have hlen := congrArg List.length (h.intact hf)
      rw [List.length_append, hq, List.length_append] at hlen
      omega
  queued hends := by
    obtain ⟨bytes, -, he⟩ := endsWithData_snoc.mp hends
    cases he
  eof before pending after hsplit := by
    have hnot : SocketEvent.shutdownWrite dir none pending ∉ [.write dir chunk (.error err)] := by simp
    obtain ⟨after', hr⟩ := split_of_not_mem hnot hsplit
    exact h.eof before pending after' hr

/-- An end of stream is passed on with what is queued. -/
theorem passEof (h : r.Inv dir) (hturn : r.queue dir = [] ∨ EndsWithData dir r.trace) :
    Relay.Inv ⟨r.queue, r.trace ++ [.read dir (.ok []), .shutdownWrite dir none (r.queue dir)]⟩ dir := by
  have hread : bytesRead dir [.read dir (.ok []), .shutdownWrite dir none (r.queue dir)] = [] := by
    simp [bytesRead]
  have hread' : bytesRead dir (r.trace ++ [.read dir (.ok [])]) = bytesRead dir r.trace := by
    simp [bytesRead]
  have hwritten : bytesWritten dir (r.trace ++ [.read dir (.ok [])]) = bytesWritten dir r.trace := by
    simp [bytesWritten]
  have hfailed : ∀ {es}, (∀ e ∈ es, ∀ chunk err, e ≠ .write dir chunk (.error err)) →
      (WriteFailed dir (r.trace ++ es) ↔ WriteFailed dir r.trace) := by
    intro es hes
    rw [writeFailed_append]
    exact ⟨fun hf => hf.resolve_right (not_writeFailed hes), .inl⟩
  refine { intact := ?_, lossy := ?_, queued := ?_, eof := ?_ }
  · intro hno
    rw [hfailed (by simp)] at hno
    rw [bytesWritten_append, bytesRead_append, hread]
    simpa [bytesWritten] using h.intact hno
  · intro hf
    rw [hfailed (by simp)] at hf
    rw [bytesWritten_append, bytesRead_append, hread]
    simpa [bytesWritten] using h.lossy hf
  · intro hends
    exact absurd hends not_endsWithData_shutdown
  · intro before pending after hsplit
    rcases List.eq_nil_or_concat' after with rfl | ⟨after', e, rfl⟩
    · -- the end of stream just passed on
      rw [List.append_cons] at hsplit
      obtain ⟨rfl, he⟩ := List.append_inj' hsplit rfl
      obtain ⟨rfl⟩ := (SocketEvent.shutdownWrite.inj (List.cons.inj he).1).2.2
      have hbehind : EofBehindData dir (r.trace ++ [.read dir (.ok [])]) ↔ r.queue dir ≠ [] := by
        rw [eofBehindData_snoc]
        exact ⟨fun hb => h.queued hb.1, fun hne => ⟨hturn.resolve_left hne, rfl⟩⟩
      rw [hbehind, hfailed (by simp), hread', hwritten, not_not]
      refine and_congr_right ?_
      intro hnil
      constructor
      · intro heq hf
        have hlt := h.lossy hf
        rw [heq] at hlt
        omega
      · intro hno
        have hall := h.intact hno
        rwa [hnil, List.append_nil] at hall
    · -- an earlier one
      have hsplit' : r.trace ++ [.read dir (.ok [])] = before ++ .shutdownWrite dir none pending :: after' := by
        rw [List.append_cons, ← List.cons_append, ← List.append_assoc] at hsplit
        exact (List.append_inj' hsplit rfl).1
      obtain ⟨after'', hr⟩ := split_of_not_mem (by simp) hsplit'
      exact h.eof before pending after'' hr

end Relay.Inv

/-- **Every move keeps the invariant** of both directions. -/
theorem Relay.Move.inv {r r' : Relay} (hm : r.Move r') {dir : Direction} (h : r.Inv dir) : r'.Inv dir := by
  cases hm with
  | @wrote d chunk rest n hq hn =>
    by_cases hd : d = dir
    · subst hd
      refine h.extend (by simp) (not_writeFailed (by simp)) ?_ ?_
      · simp only [Function.update_self, hq]
        rw [← List.append_assoc]
        simp [bytesWritten, bytesRead]
      · intro hends
        obtain ⟨bytes, -, he⟩ := endsWithData_snoc.mp hends
        cases he
    · refine h.other (by simp) (not_writeFailed (by simp)) ?_ rfl (by simp)
        (Function.update_of_ne (Ne.symm hd) _ _)
      simp [bytesWritten, hd]
  | @blocked d chunk err hkind =>
    refine h.other (by simp) ?_ rfl rfl (by simp) rfl
    rintro ⟨_, _, hmem, hk⟩
    obtain ⟨-, -, ⟨rfl⟩⟩ := SocketEvent.write.inj (List.mem_singleton.mp hmem)
    exact hk hkind
  | @failed d chunk rest err hq hne hkind =>
    by_cases hd : d = dir
    · subst hd
      exact h.failed hq hne hkind
    · exact h.other (by simp) (not_writeFailed (by simp [hd])) rfl rfl (by simp)
        (Function.update_of_ne (Ne.symm hd) _ _)
  | @read d bytes hne hturn =>
    by_cases hd : d = dir
    · subst hd
      refine h.extend (by simp) (not_writeFailed (by simp)) ?_ ?_
      · simp [bytesWritten, bytesRead]
      · intro _
        simp [hne]
    · refine h.extend (by simp) (not_writeFailed (by simp)) ?_ ?_
      · simp [bytesWritten, bytesRead, hd, Function.update_of_ne (Ne.symm hd)]
      · intro hends
        obtain ⟨_, -, he⟩ := endsWithData_snoc.mp hends
        exact absurd (SocketEvent.read.inj he).1 hd
  | @idle d err =>
    exact h.other (by simp) (not_writeFailed (by simp)) rfl rfl (by simp) rfl
  | @eof d hturn =>
    by_cases hd : d = dir
    · subst hd
      exact h.passEof hturn
    · refine h.extend ?_ (not_writeFailed (by simp)) ?_ ?_
      · intro pending hmem
        simp [Ne.symm hd] at hmem
      · simp [bytesWritten, bytesRead]
      · intro hends
        exact absurd hends not_endsWithData_shutdown
  | @broken d err =>
    refine h.extend (by simp) (not_writeFailed (by simp)) (by simp [bytesWritten, bytesRead]) ?_
    intro hends
    exact absurd hends not_endsWithData_shutdown

theorem Relay.inv_of_moves {r r' : Relay} (hm : ReflTransGen Relay.Move r r') {dir : Direction}
    (h : r.Inv dir) : r'.Inv dir := by
  induction hm with
  | refl => exact h
  | tail _ hmove ih => exact hmove.inv ih

/-! ### Runs -/

/-- The direct sessions of the runtime after any order of accepted clients, pumps and cleanups. -/
inductive DirectRun : List DirectProxySession → Prop
  | nil : DirectRun []
  | accept {sessions} (client remote : TcpStream) (h : DirectRun sessions) :
      DirectRun (sessions ++ [.start client remote])
  | pump {sessions} (h : DirectRun sessions) : DirectRun (pumpDirectSessions sessions)
  | cleanup {sessions} (h : DirectRun sessions) : DirectRun (cleanupDirectSessions sessions)

theorem relay_start_inv (client remote : TcpStream) (dir : Direction) :
    (DirectProxySession.start client remote).relay.Inv dir where
  intact _ := by cases dir <;> rfl
  lossy := by rintro ⟨_, _, hmem, -⟩; cases hmem
  queued := by
    rintro ⟨front, bytes, -, hends⟩
    exact absurd hends (by simp [DirectProxySession.relay, DirectProxySession.start])
  eof before pending after hsplit :=
    absurd hsplit (by simp [DirectProxySession.relay, DirectProxySession.start])

theorem DirectRun.inv {sessions : List DirectProxySession} (h : DirectRun sessions) :
    ∀ session ∈ sessions, ∀ dir, session.relay.Inv dir := by
  induction h with
  | nil => intro session hmem; cases hmem
  | accept client remote _ ih =>
    intro session hmem dir
    rcases List.mem_append.mp hmem with hmem | hmem
    · exact ih session hmem dir
    · rw [List.mem_singleton.mp hmem]
      exact relay_start_inv client remote dir
  | pump _ ih =>
    intro session hmem dir
    obtain ⟨s, hs, rfl⟩ := List.mem_map.mp hmem
    exact Relay.inv_of_moves s.pump_moves (ih s hs dir)
  | cleanup _ ih =>
    intro session hmem dir
    exact ih session (List.mem_filter.mp hmem).1 dir

/-- **When an end of stream stays behind the data.**  Wherever a direct session passes on the end of
its source, everything read before it has been written to the sink and nothing is queued, if and only
if the end was not read directly behind some bytes and no write to the sink has failed. -/
theorem eof_behind_data_iff {sessions : List DirectProxySession} (hrun : DirectRun sessions)
    {session : DirectProxySession} (hmem : session ∈ sessions) {dir : Direction}
    {before after : List SocketEvent} {pending : List UInt8}
    (hshut : session.trace = before ++ .shutdownWrite dir none pending :: after) :
    (pending = [] ∧ bytesWritten dir before = bytesRead dir before) ↔
      ¬ EofBehindData dir before ∧ ¬ WriteFailed dir before :=
  (hrun.inv session hmem dir).eof before pending after hshut

/-- A client that sends two bytes, pauses and closes, and a remote that takes them. -/
def pausingClient : TcpStream := ⟨[.ok [1, 2], .error wouldBlock, .ok []], []⟩

def willingRemote : TcpStream := ⟨[], [.ok 2]⟩

theorem eof_behind_data_pausing :
    DirectRun (pumpDirectSessions (pumpDirectSessions [.start pausingClient willingRemote])) ∧
    ∃ before after pending,
      (DirectProxySession.start pausingClient willingRemote).pump.pump.trace =
        before ++ .shutdownWrite .toRemote none pending :: after ∧
      pending = [] ∧ bytesWritten .toRemote before = [1, 2] := by
  have hrun : DirectRun (pumpDirectSessions (pumpDirectSessions [.start pausingClient willingRemote])) :=
    .pump (.pump (.accept pausingClient willingRemote .nil))
  have hshut : (DirectProxySession.start pausingClient willingRemote).pump.pump.trace =
      ([.read .toRemote (.ok [1, 2]), .read .toRemote (.error wouldBlock),
          .read .toClient (.error wouldBlock)] : List SocketEvent) ++
        ([.write .toRemote [1, 2] (.ok 2)] : List SocketEvent) ++
        ([.read .toRemote (.ok [])] : List SocketEvent) ++ .shutdownWrite .toRemote none [] ::
        [.read .toClient (.error wouldBlock)] := by decide +kernel
  refine ⟨hrun, _, _, _, hshut, ?_⟩
  have hmem : (DirectProxySession.start pausingClient willingRemote).pump.pump ∈
      pumpDirectSessions (pumpDirectSessions [.start pausingClient willingRemote]) :=
    List.mem_map_of_mem (List.mem_map_of_mem (List.mem_singleton_self _))
  have hiff := eof_behind_data_iff hrun hmem hshut
  refine ⟨rfl, (hiff.mpr ⟨?_, ?_⟩).2.trans (by decide)⟩
  · intro hbehind
    have hdata := (eofBehindData_snoc.mp hbehind).1
    obtain ⟨bytes, -, he⟩ := endsWithData_snoc.mp hdata
    cases he
  · exact not_writeFailed (by simp)

/-- A client whose bytes and end of stream are there when it is read first. -/
def closingClient : TcpStream := ⟨[.ok [1], .ok []], []⟩

/-- The end of stream overtakes the byte. -/
theorem eof_overtakes_data : ¬ ∀ (sessions : List DirectProxySession), DirectRun sessions →
    ∀ session ∈ sessions, ∀ dir before after pending,
      session.trace = before ++ .shutdownWrite dir none pending :: after →
        pending = [] ∧ bytesWritten dir before = bytesRead dir before := by
  intro h
  have hshut : (DirectProxySession.start closingClient willingRemote).pump.trace =
      [.read .toRemote (.ok [1]), .read .toRemote (.ok [])] ++
        .shutdownWrite .toRemote none [1] :: [.read .toClient (.error wouldBlock)] := by decide +kernel
  have hmem : (DirectProxySession.start closingClient willingRemote).pump ∈
      pumpDirectSessions [.start closingClient willingRemote] :=
    List.mem_map_of_mem (List.mem_singleton_self _)
  have hpending := (h _ (.pump (.accept closingClient willingRemote .nil)) _ hmem _ _ _ _ hshut).1
  cases hpending

end OpenfortivpnRs.Proxy
