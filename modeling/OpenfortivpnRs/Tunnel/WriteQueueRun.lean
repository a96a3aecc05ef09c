import Mathlib.Logic.Relation
import OpenfortivpnRs.Tunnel.WriteQueue

/-!
# Runs of the write queue

A queue with its writer as a machine: pushes and calls of `write_available` in any order, a call
broken into its writes (`QueueStep`).  `writeAvailable` is what a call does step by step
(`writeAvailable_steps`), so what every step preserves holds inside a call too: the bytes the writer
has accepted and the bytes that wait are the bytes pushed (`QueueStep.conserves`).
-/

namespace OpenfortivpnRs.Tunnel

open Proxy Relation

/-- A queue and its writer between two steps; `writing` while a call of `write_available` runs. -/
structure QueueRun where
  queue : WriteQueue
  writer : TcpStream
  writing : Bool
  accepted : List UInt8
  pushed : List UInt8

/-- The writer took nothing: it wrote zero bytes, would block or failed. -/
def Refused (result : Except IoError ℕ) : Prop := result = .ok 0 ∨ ∃ err, result = .error err

inductive QueueStep : QueueRun → QueueRun → Prop
  | push (s : QueueRun) (bytes : List UInt8) (idle : s.writing = false) :
      QueueStep s { s with queue := s.queue.push bytes, pushed := s.pushed ++ bytes }
  | call (s : QueueRun) (idle : s.writing = false) : QueueStep s { s with writing := true }
  | drained (s : QueueRun) (busy : s.writing = true) (hq : s.queue.chunks = []) :
      QueueStep s { s with writing := false }
  | wrote (s : QueueRun) (busy : s.writing = true) {front : List UInt8} {rest : List (List UInt8)}
      {n : ℕ} {writer : TcpStream} (hq : s.queue.chunks = front :: rest)
      (hw : s.writer.write (front.drop s.queue.offset) = (.ok n, writer)) (hn : n ≠ 0) :
      QueueStep s { s with
        queue := s.queue.advance hq (WriteQueue.offset_add_le hq hw)
        writer := writer
        accepted := s.accepted ++ (front.drop s.queue.offset).take n }
  | refused (s : QueueRun) (busy : s.writing = true) {front : List UInt8} {rest : List (List UInt8)}
      {result : Except IoError ℕ} {writer : TcpStream} (hq : s.queue.chunks = front :: rest)
      (hw : s.writer.write (front.drop s.queue.offset) = (result, writer)) (hr : Refused result) :
      QueueStep s { s with writer := writer, writing := false }

/-- The runs of a new queue with some writer. -/
def QueueRun.Reachable (s : QueueRun) : Prop :=
  ∃ writer, ReflTransGen QueueStep ⟨.new, writer, false, [], []⟩ s

/-- Where a call of `write_available` that is running ends. -/
def QueueRun.finish (s : QueueRun) : QueueRun :=
  let out := s.queue.writeAvailable s.writer
  { s with
    queue := out.queue
    writer := out.writer
    writing := false
    accepted := s.accepted ++ out.written }

theorem steps_of_writeAvailable {queue : WriteQueue} {writer : TcpStream} {out : WriteQueue.Outcome}
    (hout : queue.writeAvailable writer = out) (accepted pushed : List UInt8) :
    ReflTransGen QueueStep ⟨queue, writer, true, accepted, pushed⟩
      ⟨out.queue, out.writer, false, accepted ++ out.written, pushed⟩ := by
  induction hn : writer.writes.length using Nat.strong_induction_on
    generalizing queue writer out accepted with
  | _ n ih =>
    rw [WriteQueue.writeAvailable] at hout
    split at hout
    · rename_i hq
      rw [← hout]
      simp only [List.append_nil]
      exact .single (.drained _ rfl hq)
    · rename_i front rest hq
      split at hout
      · rename_i k writer' hw
        split at hout
        · rename_i hzero
          rw [← hout]
          simp only [List.append_nil]
          exact .single (.refused _ rfl hq hw (.inl (by rw [hzero])))
        · rename_i hpos
          have hcall : (queue.advance hq (WriteQueue.offset_add_le hq hw)).writeAvailable writer' = _ := rfl
          have hrest := ih writer'.writes.length (hn ▸ WriteQueue.writes_lt hw) hcall
            (accepted ++ (front.drop queue.offset).take k) rfl
          rw [List.append_assoc] at hrest
          rw [← hout]
          exact .head (.wrote _ rfl hq hw hpos) hrest
      · rename_i err writer' hw
        have hrefused := QueueStep.refused ⟨queue, writer, true, accepted, pushed⟩ rfl hq hw
          (.inr ⟨err, rfl⟩)
        split at hout <;> rw [← hout] <;> simp only [List.append_nil] <;> exact .single hrefused

/-- **A call is its steps.** -/
theorem writeAvailable_steps {s : QueueRun} (busy : s.writing = true) :
    ReflTransGen QueueStep s s.finish := by
  obtain ⟨queue, writer, writing, accepted, pushed⟩ := s
  subst busy
  exact steps_of_writeAvailable rfl accepted pushed

/-- A step loses and duplicates nothing. -/
theorem QueueStep.conserves {s s' : QueueRun} (h : QueueStep s s')
    (hs : s.accepted ++ s.queue.pending = s.pushed) : s'.accepted ++ s'.queue.pending = s'.pushed := by
  cases h with
  | push bytes idle =>
    simp only [WriteQueue.pending_push]
    rw [← List.append_assoc, hs]
  | call idle => exact hs
  | drained busy hq => exact hs
  | wrote busy hq hw hn =>
    simp only [List.append_assoc]
    rw [WriteQueue.take_append_pending_advance, hs]
  | refused busy hq hw hr => exact hs

theorem QueueRun.Reachable.conserves {s : QueueRun} (h : s.Reachable) :
    s.accepted ++ s.queue.pending = s.pushed := by
  obtain ⟨writer, hrun⟩ := h
  induction hrun with
  | refl => rfl
  | tail _ hstep ih => exact hstep.conserves ih

/-- A queue is empty when nothing waits in it: it holds no empty chunks, and `offset` never reaches
the end of the first. -/
theorem WriteQueue.isEmpty_iff (queue : WriteQueue) : queue.isEmpty = true ↔ queue.pending = [] := by
  unfold WriteQueue.isEmpty
  rw [List.isEmpty_iff]
  constructor
  · intro h
    simp [WriteQueue.pending, h]
  · intro h
    cases hq : queue.chunks with
    | nil => rfl
    | cons front rest =>
      have hlt := queue.inFront front rest hq
      rw [WriteQueue.pending_cons hq] at h
      have hlen := congrArg List.length h
      simp only [List.length_append, List.length_drop, List.length_nil] at hlen
      omega

/-- A call whose first write is refused leaves everything as it was. -/
theorem WriteQueue.writeAvailable_refused {queue : WriteQueue} {front : List UInt8}
    {rest : List (List UInt8)} {result : Except IoError ℕ} {writer writer' : TcpStream}
    (hq : queue.chunks = front :: rest) (hw : writer.write (front.drop queue.offset) = (result, writer'))
    (hr : Refused result) :
    (queue.writeAvailable writer).queue = queue ∧ (queue.writeAvailable writer).written = [] := by
  rw [WriteQueue.writeAvailable]
  split
  · exact ⟨rfl, rfl⟩
  · rename_i front' rest' hq'
    obtain ⟨rfl, rfl⟩ := List.cons.inj (hq.symm.trans hq')
    split
    · rename_i k writer'' hw'
      obtain ⟨rfl, -⟩ := Prod.mk.inj (hw.symm.trans hw')
      obtain hzero | ⟨err, herr⟩ := hr
      · rw [if_pos (Except.ok.inj hzero)]
        exact ⟨rfl, rfl⟩
      · cases herr
    · split <;> exact ⟨rfl, rfl⟩

/-- **The write queue loses and duplicates nothing**, between calls and inside them. -/
theorem write_queue_conserves {s : QueueRun} (h : s.Reachable) :
    s.accepted ++ s.queue.pending = s.pushed ∧
      (∀ front rest, s.queue.chunks = front :: rest →
        s.queue.offset < front.length ∧ s.queue.pending = front.drop s.queue.offset ++ rest.flatten) ∧
      (s.queue.chunks = [] → s.queue.offset = 0) ∧
      (s.queue.isEmpty = true ↔ s.queue.pending = []) ∧
      (∀ front rest result writer, s.queue.chunks = front :: rest →
        s.writer.write (front.drop s.queue.offset) = (result, writer) → Refused result →
        (s.queue.writeAvailable s.writer).queue.pending = s.queue.pending ∧
          (s.queue.writeAvailable s.writer).written = []) ∧
      (s.writing = true → s.finish.Reachable) := by
  refine ⟨h.conserves, fun front rest hq => ⟨s.queue.inFront front rest hq, WriteQueue.pending_cons hq⟩,
    s.queue.idle, s.queue.isEmpty_iff, ?_, ?_⟩
  · intro front rest result writer hq hw hr
    obtain ⟨hqueue, hwritten⟩ := WriteQueue.writeAvailable_refused hq hw hr
    exact ⟨by rw [hqueue], hwritten⟩
  · intro busy
    obtain ⟨writer, hrun⟩ := h
    exact ⟨writer, hrun.trans (writeAvailable_steps busy)⟩

/-- Two bytes pushed, and a call whose writer takes one of them. -/
def halfWritten : QueueRun := ⟨WriteQueue.new.push [1, 2], ⟨[], [.ok 1]⟩, true, [], [1, 2]⟩

theorem halfWritten_reachable : halfWritten.Reachable :=
  ⟨⟨[], [.ok 1]⟩, .tail (.tail .refl (.push _ [1, 2] rfl)) (.call _ rfl)⟩

theorem write_queue_conserves_half :
    halfWritten.finish.accepted ++ halfWritten.finish.queue.pending = [1, 2] :=
  (write_queue_conserves ((write_queue_conserves halfWritten_reachable).2.2.2.2.2 rfl)).1

end OpenfortivpnRs.Tunnel
