import OpenfortivpnRs.Proxy.Stream

/-!
# Direct sessions (`proxy/runtime.rs`)

`pump_direct_sessions` moves bytes between a client and a remote outside the tunnel.  Its four loops
are two, each once for either direction.  A session carries, besides the fields of the source, the
trace of what its sockets were asked and what they answered.
-/

namespace OpenfortivpnRs.Proxy

/-- Where bytes go: from the client to the remote, or back. -/
inductive Direction where
  | toRemote | toClient
  deriving DecidableEq, Repr

inductive SocketEvent where
  /-- A read at the source of the direction. -/
  | read (dir : Direction) (result : Except IoError (List UInt8))
  /-- A write of a chunk at its sink. -/
  | write (dir : Direction) (chunk : List UInt8) (result : Except IoError ℕ)
  /-- The write half of its sink is shut down, because of a read error or (`none`) because the source
  reached its end, with `pending` in the queue. -/
  | shutdownWrite (dir : Direction) (cause : Option IoError) (pending : List UInt8)
  deriving DecidableEq

structure DirectProxySession where
  client : TcpStream
  remote : TcpStream
  toRemote : List UInt8
  toClient : List UInt8
  localClosed : Bool
  remoteClosed : Bool
  clientToRemoteBytes : ℕ
  remoteToClientBytes : ℕ
  closeReason : Option String
  trace : List SocketEvent
  deriving DecidableEq

namespace DirectProxySession

/-- The session `start_direct_session` makes of two connected streams. -/
def start (client remote : TcpStream) : DirectProxySession where
  client := client
  remote := remote
  toRemote := []
  toClient := []
  localClosed := false
  remoteClosed := false
  clientToRemoteBytes := 0
  remoteToClientBytes := 0
  closeReason := none
  trace := []

/-! ### The fields of a direction -/

def queue (session : DirectProxySession) : Direction → List UInt8
  | .toRemote => session.toRemote
  | .toClient => session.toClient

def setQueue (session : DirectProxySession) (queue : List UInt8) : Direction → DirectProxySession
  | .toRemote => { session with toRemote := queue }
  | .toClient => { session with toClient := queue }

def source (session : DirectProxySession) : Direction → TcpStream
  | .toRemote => session.client
  | .toClient => session.remote

def sourceClosed (session : DirectProxySession) : Direction → Bool
  | .toRemote => session.localClosed
  | .toClient => session.remoteClosed

def closeSource (session : DirectProxySession) : Direction → DirectProxySession
  | .toRemote => { session with localClosed := true }
  | .toClient => { session with remoteClosed := true }

def closeSink (session : DirectProxySession) : Direction → DirectProxySession
  | .toRemote => { session with remoteClosed := true }
  | .toClient => { session with localClosed := true }

def countBytes (session : DirectProxySession) (written : ℕ) : Direction → DirectProxySession
  | .toRemote => { session with clientToRemoteBytes := session.clientToRemoteBytes + written }
  | .toClient => { session with remoteToClientBytes := session.remoteToClientBytes + written }

def record (session : DirectProxySession) (event : SocketEvent) : DirectProxySession :=
  { session with trace := session.trace ++ [event] }

def readSource (session : DirectProxySession) : Direction →
    Except IoError (List UInt8) × DirectProxySession
  | .toRemote =>
    let (result, client) := session.client.read ioBufferSize
    (result, { session with client := client }.record (.read .toRemote result))
  | .toClient =>
    let (result, remote) := session.remote.read ioBufferSize
    (result, { session with remote := remote }.record (.read .toClient result))

def writeSink (session : DirectProxySession) (chunk : List UInt8) : Direction →
    Except IoError ℕ × DirectProxySession
  | .toRemote =>
    let (result, remote) := session.remote.write chunk
    (result, { session with remote := remote }.record (.write .toRemote chunk result))
  | .toClient =>
    let (result, client) := session.client.write chunk
    (result, { session with client := client }.record (.write .toClient chunk result))

/-- `shutdown(Shutdown::Write)` on the sink. -/
def shutdownSink (session : DirectProxySession) (cause : Option IoError) (dir : Direction) :
    DirectProxySession :=
  session.record (.shutdownWrite dir cause (session.queue dir))

/-- `mark_direct_closed`. -/
def markClosed (session : DirectProxySession) (reason : String) : DirectProxySession :=
  if session.closeReason.isNone then { session with closeReason := some reason } else session

end DirectProxySession

/-- The name of the sink in a reason. -/
def Direction.sinkName : Direction → String
  | .toRemote => "remote"
  | .toClient => "client"

def Direction.sourceName : Direction → String
  | .toRemote => "client"
  | .toClient => "remote"

/-- The reason for the end of the source. -/
def Direction.endOfSource : Direction → String
  | .toRemote => "client closed connection"
  | .toClient => "direct remote closed connection"

namespace DirectProxySession

@[simp] theorem queue_setQueue (s : DirectProxySession) (q : List UInt8) (dir : Direction) :
    (s.setQueue q dir).queue = Function.update s.queue dir q := by
  cases dir <;> funext d <;> cases d <;> rfl

@[simp] theorem trace_setQueue (s : DirectProxySession) (q : List UInt8) (dir : Direction) :
    (s.setQueue q dir).trace = s.trace := by cases dir <;> rfl

@[simp] theorem queue_closeSource (s : DirectProxySession) (dir : Direction) :
    (s.closeSource dir).queue = s.queue := by cases dir <;> funext d <;> cases d <;> rfl

@[simp] theorem trace_closeSource (s : DirectProxySession) (dir : Direction) :
    (s.closeSource dir).trace = s.trace := by cases dir <;> rfl

@[simp] theorem queue_closeSink (s : DirectProxySession) (dir : Direction) :
    (s.closeSink dir).queue = s.queue := by cases dir <;> funext d <;> cases d <;> rfl

@[simp] theorem trace_closeSink (s : DirectProxySession) (dir : Direction) :
    (s.closeSink dir).trace = s.trace := by cases dir <;> rfl

@[simp] theorem queue_countBytes (s : DirectProxySession) (n : ℕ) (dir : Direction) :
    (s.countBytes n dir).queue = s.queue := by cases dir <;> funext d <;> cases d <;> rfl

@[simp] theorem trace_countBytes (s : DirectProxySession) (n : ℕ) (dir : Direction) :
    (s.countBytes n dir).trace = s.trace := by cases dir <;> rfl

@[simp] theorem queue_markClosed (s : DirectProxySession) (reason : String) :
    (s.markClosed reason).queue = s.queue := by
  unfold markClosed; split <;> funext d <;> cases d <;> rfl

@[simp] theorem trace_markClosed (s : DirectProxySession) (reason : String) :
    (s.markClosed reason).trace = s.trace := by unfold markClosed; split <;> rfl

@[simp] theorem queue_readSource (s : DirectProxySession) (dir : Direction) :
    (s.readSource dir).2.queue = s.queue := by cases dir <;> funext d <;> cases d <;> rfl

theorem trace_readSource (s : DirectProxySession) (dir : Direction) :
    (s.readSource dir).2.trace = s.trace ++ [.read dir (s.readSource dir).1] := by cases dir <;> rfl

@[simp] theorem queue_writeSink (s : DirectProxySession) (chunk : List UInt8) (dir : Direction) :
    (s.writeSink chunk dir).2.queue = s.queue := by cases dir <;> funext d <;> cases d <;> rfl

theorem trace_writeSink (s : DirectProxySession) (chunk : List UInt8) (dir : Direction) :
    (s.writeSink chunk dir).2.trace = s.trace ++ [.write dir chunk (s.writeSink chunk dir).1] := by
  cases dir <;> rfl

@[simp] theorem queue_shutdownSink (s : DirectProxySession) (cause : Option IoError) (dir : Direction) :
    (s.shutdownSink cause dir).queue = s.queue := by funext d; cases d <;> rfl

@[simp] theorem trace_shutdownSink (s : DirectProxySession) (cause : Option IoError) (dir : Direction) :
    (s.shutdownSink cause dir).trace = s.trace ++ [.shutdownWrite dir cause (s.queue dir)] := rfl

/-- A read that does not block uses up a result of the source. -/
theorem source_readSource_lt {s : DirectProxySession} {dir : Direction} {bytes : List UInt8}
    (h : (s.readSource dir).1 = .ok bytes) (q : List UInt8) :
    (((s.readSource dir).2.setQueue q dir).source dir).reads.length < (s.source dir).reads.length := by
  cases dir <;> exact TcpStream.read_reads h

theorem writeSink_le {s : DirectProxySession} {chunk : List UInt8} {dir : Direction} {n : ℕ}
    (h : (s.writeSink chunk dir).1 = .ok n) : n ≤ chunk.length := by
  cases dir <;> exact TcpStream.write_le h

/-! ### The loops -/

/-- The loop that writes the queue of a direction to its sink. -/
def flush (dir : Direction) (session : DirectProxySession) : DirectProxySession :=
  if _hne : session.queue dir = [] then session
  else
    let chunk := (drainChunk (session.queue dir) ioBufferSize).1
    let rest := (drainChunk (session.queue dir) ioBufferSize).2
    let written := (session.setQueue rest dir).writeSink chunk dir
    let session' := written.2
    match written.1 with
    | .ok n =>
      if n = 0 then
        ((session'.setQueue (pushFrontBytes rest chunk) dir).markClosed
          ("direct " ++ dir.sinkName ++ " write returned zero")).closeSink dir
      else if n < chunk.length then
        (session'.countBytes n dir).setQueue (pushFrontBytes rest (chunk.drop n)) dir
      else flush dir (session'.countBytes n dir)
    | .error err =>
      if err.kind = .wouldBlock then session'.setQueue (pushFrontBytes rest chunk) dir
      else
        (session'.markClosed ("direct " ++ dir.sinkName ++ " write failed: " ++ err.text)).closeSink dir
termination_by (session.queue dir).length
decreasing_by
  have hpos := List.length_pos_of_ne_nil _hne
  simp only [queue_countBytes, queue_writeSink, queue_setQueue, Function.update_self, drainChunk,
    List.length_drop, ioBufferSize]
  omega

/-- The loop that reads the source of a direction into its queue. -/
def fill (dir : Direction) (session : DirectProxySession) : DirectProxySession :=
  let read := session.readSource dir
  let session' := read.2
  match _hread : read.1 with
  | .ok bytes =>
    if bytes = [] then
      ((session'.closeSource dir).markClosed dir.endOfSource).shutdownSink none dir
    else
      fill dir (session'.setQueue (session'.queue dir ++ bytes) dir)
  | .error err =>
    if err.kind = .wouldBlock then session'
    else
      ((session'.closeSource dir).markClosed
        ("direct " ++ dir.sourceName ++ " read failed: " ++ err.text)).shutdownSink (some err) dir
termination_by (session.source dir).reads.length
decreasing_by exact source_readSource_lt _hread _

/-- The read loop runs only while the source is open and everything read has been written. -/
def fillIfDrained (dir : Direction) (session : DirectProxySession) : DirectProxySession :=
  if ¬ session.sourceClosed dir ∧ session.queue dir = [] then fill dir session else session

/-- The body of the loop of `pump_direct_sessions`. -/
def pump (session : DirectProxySession) : DirectProxySession :=
  fillIfDrained .toClient (fillIfDrained .toRemote (flush .toClient (flush .toRemote session)))

end DirectProxySession

def pumpDirectSessions (sessions : List DirectProxySession) : List DirectProxySession :=
  sessions.map DirectProxySession.pump

def cleanupDirectSessions (sessions : List DirectProxySession) : List DirectProxySession :=
  sessions.filter fun session => ¬ (session.localClosed ∧ session.remoteClosed ∧
    session.toClient = [] ∧ session.toRemote = [])

end OpenfortivpnRs.Proxy
