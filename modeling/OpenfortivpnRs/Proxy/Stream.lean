import OpenfortivpnRs.Error

/-!
# Client and remote streams

A non-blocking `std::net::TcpStream` by the results its next reads and writes have, and the queues
between two streams (`proxy/runtime.rs`).
-/

namespace OpenfortivpnRs.Proxy

def ioBufferSize : ℕ := 16 * 1024

/-- `ErrorKind::WouldBlock`, what a stream answers that has nothing to give or no room. -/
def wouldBlock : IoError := ⟨.wouldBlock, "Resource temporarily unavailable (os error 11)"⟩

/-- The results of the reads and writes to come, in order.  A read of no bytes is the end of the
stream; where no result is left the stream would block. -/
structure TcpStream where
  reads : List (Except IoError (List UInt8))
  writes : List (Except IoError ℕ)
  deriving DecidableEq

namespace TcpStream

/-- A read into a buffer of `max` bytes. -/
def read (stream : TcpStream) (max : ℕ) : Except IoError (List UInt8) × TcpStream :=
  match stream.reads with
  | [] => (.error wouldBlock, stream)
  | .error err :: reads => (.error err, { stream with reads := reads })
  | .ok bytes :: reads => (.ok (bytes.take max), { stream with reads := reads })

/-- A write of `chunk`: the stream takes no more than it is given. -/
def write (stream : TcpStream) (chunk : List UInt8) : Except IoError ℕ × TcpStream :=
  match stream.writes with
  | [] => (.error wouldBlock, stream)
  | .error err :: writes => (.error err, { stream with writes := writes })
  | .ok n :: writes => (.ok (min n chunk.length), { stream with writes := writes })

/-- A read that does not block uses up a result. -/
theorem read_reads {stream : TcpStream} {max : ℕ} {bytes : List UInt8}
    (h : (stream.read max).1 = .ok bytes) :
    (stream.read max).2.reads.length < stream.reads.length := by
  unfold read at h ⊢
  split at h
  · cases h
  · cases h
  · rename_i hr
    simp [hr]

theorem write_le {stream : TcpStream} {chunk : List UInt8} {n : ℕ}
    (h : (stream.write chunk).1 = .ok n) : n ≤ chunk.length := by
  unfold write at h
  split at h
  · cases h
  · cases h
  · cases h
    exact Nat.min_le_right _ _

end TcpStream

/-! ### Queues -/

/-- `drain_chunk`: the chunk and what is left of the queue. -/
def drainChunk (queue : List UInt8) (maxLen : ℕ) : List UInt8 × List UInt8 :=
  (queue.take maxLen, queue.drop maxLen)

theorem drainChunk_append (q : List UInt8) (maxLen : ℕ) :
    q = (drainChunk q maxLen).1 ++ (drainChunk q maxLen).2 :=
  (List.take_append_drop maxLen q).symm

/-- `push_front_bytes`. -/
def pushFrontBytes (queue bytes : List UInt8) : List UInt8 := bytes ++ queue

end OpenfortivpnRs.Proxy
