import OpenfortivpnRs.Proxy.Stream

/-!
# The write queue of the forwarding loop (`tunnel/forward.rs`)

`WriteQueue` holds the chunks that wait for a writer and how much of the first one is written.  What
a call of `write_available` hands to the writer and what it leaves in the queue are what was in the
queue (`written_append_pending`).
-/

namespace OpenfortivpnRs.Tunnel

open Proxy

/-- No chunk is empty, and `offset` lies inside the first. -/
structure WriteQueue where
  chunks : List (List UInt8)
  offset : ℕ
  nonempty : ∀ chunk ∈ chunks, chunk ≠ []
  idle : chunks = [] → offset = 0
  inFront : ∀ front rest, chunks = front :: rest → offset < front.length

namespace WriteQueue

def new : WriteQueue := ⟨[], 0, List.forall_mem_nil _, fun _ => rfl, nofun⟩

/-- The bytes that are not written yet. -/
def pending (queue : WriteQueue) : List UInt8 := queue.chunks.flatten.drop queue.offset

def isEmpty (queue : WriteQueue) : Bool := queue.chunks.isEmpty

/-! ### Pushing -/

theorem nonempty_push (queue : WriteQueue) {bytes : List UInt8} (h : bytes ≠ []) :
    ∀ chunk ∈ queue.chunks ++ [bytes], chunk ≠ [] := by
  intro chunk hc
  rcases List.mem_append.mp hc with hc | hc
  · exact queue.nonempty chunk hc
  · rw [List.mem_singleton.mp hc]; exact h

theorem inFront_push (queue : WriteQueue) {bytes : List UInt8} (h : bytes ≠ []) :
    ∀ front rest, queue.chunks ++ [bytes] = front :: rest → queue.offset < front.length := by
  intro front rest heq
  cases hchunks : queue.chunks with
  | nil =>
    rw [hchunks] at heq
    obtain ⟨rfl, -⟩ := List.cons.inj heq
    rw [queue.idle hchunks]
    exact List.length_pos_of_ne_nil h
  | cons first chunks =>
    rw [hchunks] at heq
    obtain ⟨rfl, -⟩ := List.cons.inj heq
    exact queue.inFront first chunks hchunks

def push (queue : WriteQueue) (bytes : List UInt8) : WriteQueue :=
  if h : bytes = [] then queue
  else
    { chunks := queue.chunks ++ [bytes]
      offset := queue.offset
      nonempty := queue.nonempty_push h
      idle := fun hnil => absurd hnil (List.concat_ne_nil bytes queue.chunks)
      inFront := queue.inFront_push h }

theorem offset_le (queue : WriteQueue) : queue.offset ≤ queue.chunks.flatten.length := by
  cases hchunks : queue.chunks with
  | nil => rw [queue.idle hchunks]; exact Nat.zero_le _
  | cons front rest =>
    have := queue.inFront front rest hchunks
    rw [List.flatten_cons, List.length_append]
    omega

@[simp] theorem pending_new : new.pending = [] := rfl

/-- What is pushed waits behind the rest. -/
@[simp] theorem pending_push (queue : WriteQueue) (bytes : List UInt8) :
    (queue.push bytes).pending = queue.pending ++ bytes := by
  unfold push
  split
  · rename_i h
    rw [h, List.append_nil]
  · show (queue.chunks ++ [bytes]).flatten.drop queue.offset = _
    rw [List.flatten_concat, List.drop_append_of_le_length queue.offset_le]
    rfl

/-! ### Writing -/

theorem inFront_tail {queue : WriteQueue} {front : List UInt8} {rest : List (List UInt8)}
    (hq : queue.chunks = front :: rest) :
    ∀ next more, rest = next :: more → 0 < next.length := by
  rintro next more rfl
  exact List.length_pos_of_ne_nil (queue.nonempty next (by rw [hq]; simp))

theorem inFront_advance {queue : WriteQueue} {front : List UInt8} {rest : List (List UInt8)} {n : ℕ}
    (hq : queue.chunks = front :: rest) (hn : queue.offset + n ≤ front.length)
    (hne : queue.offset + n ≠ front.length) :
    ∀ first more, queue.chunks = first :: more → queue.offset + n < first.length := by
  intro first more h
  rw [hq] at h
  obtain ⟨rfl, -⟩ := List.cons.inj h
  omega

/-- The queue after `n` more bytes of its first chunk are written. -/
def advance (queue : WriteQueue) {front : List UInt8} {rest : List (List UInt8)} {n : ℕ}
    (hq : queue.chunks = front :: rest) (hn : queue.offset + n ≤ front.length) : WriteQueue :=
  if h : queue.offset + n = front.length then
    { chunks := rest
      offset := 0
      nonempty := fun chunk hc => queue.nonempty chunk (hq ▸ List.mem_cons_of_mem front hc)
      idle := fun _ => rfl
      inFront := inFront_tail hq }
  else
    { chunks := queue.chunks
      offset := queue.offset + n
      nonempty := queue.nonempty
      idle := fun hnil => absurd (hnil.symm.trans hq) (List.cons_ne_nil front rest).symm
      inFront := inFront_advance hq hn h }

theorem pending_cons {queue : WriteQueue} {front : List UInt8} {rest : List (List UInt8)}
    (hq : queue.chunks = front :: rest) :
    queue.pending = front.drop queue.offset ++ rest.flatten := by
  unfold pending
  rw [hq, List.flatten_cons, List.drop_append_of_le_length (queue.inFront front rest hq).le]

/-- The bytes written and the bytes that wait are those that waited. -/
theorem take_append_pending_advance {queue : WriteQueue} {front : List UInt8}
    {rest : List (List UInt8)} {n : ℕ} (hq : queue.chunks = front :: rest)
    (hn : queue.offset + n ≤ front.length) :
    (front.drop queue.offset).take n ++ (queue.advance hq hn).pending = queue.pending := by
  rw [pending_cons hq]
  unfold advance
  split
  · rename_i h
    rw [List.take_of_length_le (by rw [List.length_drop]; omega)]
    rfl
  · show _ ++ queue.chunks.flatten.drop (queue.offset + n) = _
    rw [hq, List.flatten_cons, List.drop_append_of_le_length hn, ← List.append_assoc,
      ← List.drop_drop, List.take_append_drop]

/-- A write stays inside the chunk it is given. -/
theorem offset_add_le {queue : WriteQueue} {front : List UInt8} {rest : List (List UInt8)} {n : ℕ}
    {writer writer' : TcpStream} (hq : queue.chunks = front :: rest)
    (hw : writer.write (front.drop queue.offset) = (.ok n, writer')) :
    queue.offset + n ≤ front.length := by
  have hle : n ≤ (front.drop queue.offset).length := TcpStream.write_le (by rw [hw])
  have hlt := queue.inFront front rest hq
  rw [List.length_drop] at hle
  omega

theorem writes_lt {writer writer' : TcpStream} {chunk : List UInt8} {n : ℕ}
    (hw : writer.write chunk = (.ok n, writer')) : writer'.writes.length < writer.writes.length := by
  unfold TcpStream.write at hw
  split at hw
  · cases hw
  · cases hw
  · rename_i h
    cases hw
    simp [h]

/-- What a call of `write_available` returns and leaves, and the bytes it has written. -/
structure Outcome where
  result : Result Unit
  queue : WriteQueue
  writer : TcpStream
  written : List UInt8

/-- `write_available`. -/
def writeAvailable (queue : WriteQueue) (writer : TcpStream) : Outcome :=
  match hq : queue.chunks with
  | [] => ⟨.ok (), queue, writer, []⟩
  | front :: _rest =>
    match hw : writer.write (front.drop queue.offset) with
    | (.ok n, writer) =>
      if n = 0 then
        ⟨.error (.pppd "writer returned zero while queue had pending data"), queue, writer, []⟩
      else
        let out := writeAvailable (queue.advance hq (offset_add_le hq hw)) writer
        { out with written := (front.drop queue.offset).take n ++ out.written }
    | (.error err, writer) =>
      if err.kind = .wouldBlock then ⟨.ok (), queue, writer, []⟩
      else ⟨.error (.io err), queue, writer, []⟩
termination_by writer.writes.length
decreasing_by exact writes_lt hw

/-- **Nothing is lost in the queue**: what is written is the front of what waited, and the rest still
waits, also when the writer fails. -/
theorem written_append_pending (queue : WriteQueue) (writer : TcpStream) :
    (queue.writeAvailable writer).written ++ (queue.writeAvailable writer).queue.pending =
      queue.pending := by
  induction hn : writer.writes.length using Nat.strong_induction_on generalizing queue writer with
  | _ n ih =>
    rw [writeAvailable]
    split
    · rfl
    · rename_i front rest hq
      split
      · rename_i n writer' hw
        split
        · rfl
        · have htail := ih writer'.writes.length (hn ▸ writes_lt hw)
            (queue.advance hq (offset_add_le hq hw)) writer' rfl
          rw [← take_append_pending_advance hq (offset_add_le hq hw), ← htail, List.append_assoc]
      · split <;> rfl

end WriteQueue

end OpenfortivpnRs.Tunnel
