import Mathlib.Data.List.Destutter
import OpenfortivpnRs.Tunnel.PtyStream
import OpenfortivpnRs.Tunnel.TlsStream
import OpenfortivpnRs.Tunnel.WriteQueue

/-!
# The forwarding loop (`tunnel/forward.rs`)

`forward_with_callbacks` moves packets between the PTY of pppd and the TLS tunnel.  A turn of its
loop makes some of four steps (`Step`), each on one stream; the state carries, besides the variables
of the loop, what each stream has taken and what each decoder has returned.  `Forwarded` ties the
two together, and every step keeps it.
-/

namespace OpenfortivpnRs.Tunnel

open Proxy Hdlc

namespace Forward

def ioBufferSize : ℕ := 4096

structure ForwardStats where
  ptyToTlsPackets : ℕ
  tlsToPtyPackets : ℕ
  lastIpcpIpv4 : Option Ipv4Addr
  deriving DecidableEq, Repr

/-- The variables of the loop; the streams are `std::fs::File` and `TlsConnection`, by the results
their next calls have.  The last five fields are the history of the run. -/
structure Forwarder where
  pty : TcpStream
  tls : TcpStream
  ptyDecoder : PppdPtyDecoder
  hdlcEncoder : HdlcCodec
  tlsDecoder : TlsPacketStreamDecoder
  tlsOut : WriteQueue
  ptyOut : WriteQueue
  stats : ForwardStats
  /-- The bytes the tunnel has taken. -/
  toTls : List UInt8
  /-- The bytes the PTY has taken. -/
  toPty : List UInt8
  /-- The packets the PTY decoder has returned. -/
  ptyPackets : List PppPacket
  /-- The packets the TLS decoder has returned. -/
  tlsPackets : List PppPacket
  /-- The addresses `on_ipcp_ipv4` was called with. -/
  reported : List Ipv4Addr

namespace Forwarder

def start (pty tls : TcpStream) : Forwarder where
  pty := pty
  tls := tls
  ptyDecoder := .new
  hdlcEncoder := .new
  tlsDecoder := .new
  tlsOut := .new
  ptyOut := .new
  stats := ⟨0, 0, none⟩
  toTls := []
  toPty := []
  ptyPackets := []
  tlsPackets := []
  reported := []

/-! ### Reading the PTY -/

/-- The loop over the packets of one read of the PTY. -/
def queueForTls (f : Forwarder) : List PppPacket → Result Unit × Forwarder
  | [] => (.ok (), f)
  | packet :: packets =>
    match packet.encodeForTls with
    | .error err => (.error err, f)
    | .ok frame =>
      queueForTls { f with
        tlsOut := f.tlsOut.push frame
        stats := { f.stats with ptyToTlsPackets := f.stats.ptyToTlsPackets + 1 } } packets

theorem pty_queueForTls (packets : List PppPacket) :
    ∀ f : Forwarder, (f.queueForTls packets).2.pty = f.pty := by
  induction packets with
  | nil => intro f; rfl
  | cons packet packets ih =>
    intro f
    rw [queueForTls]
    split
    · rfl
    · exact ih _

/-- What a read of the PTY leaves before its packets are queued. -/
def takePty (f : Forwarder) (bytes : List UInt8) (pty : TcpStream) : Result (List PppPacket) × Forwarder :=
  let (result, decoder) := f.ptyDecoder.pushBytes bytes
  (result, { f with
    pty := pty
    ptyDecoder := decoder
    ptyPackets := match result with
      | .ok packets => f.ptyPackets ++ packets
      | .error _ => f.ptyPackets })

/-- A turn of the read loop uses up a result of the PTY. -/
theorem readPty_lt {f f' f'' : Forwarder} {bytes : List UInt8} {pty : TcpStream}
    {packets : List PppPacket} (hread : f.pty.read ioBufferSize = (.ok bytes, pty))
    (htake : f.takePty bytes pty = (.ok packets, f')) (hqueue : f'.queueForTls packets = (.ok (), f'')) :
    f''.pty.reads.length < f.pty.reads.length := by
  have hlt := @TcpStream.read_reads f.pty ioBufferSize bytes (by rw [hread])
  have hqueued := pty_queueForTls packets f'
  have htaken : (f.takePty bytes pty).2.pty = pty := rfl
  rw [hqueue] at hqueued
  rw [htake] at htaken
  rw [hread] at hlt
  rw [hqueued, htaken]
  exact hlt

/-- `read_pty_into_tls_queue`. -/
def readPtyIntoTlsQueue (f : Forwarder) : Result Unit × Forwarder :=
  match _hread : f.pty.read ioBufferSize with
  | (.ok bytes, pty) =>
    if bytes = [] then (.error (.pppd "pppd pty closed"), { f with pty := pty })
    else
      match _htake : f.takePty bytes pty with
      | (.error err, f') => (.error err, f')
      | (.ok packets, f') =>
        match _hqueue : f'.queueForTls packets with
        | (.error err, f'') => (.error err, f'')
        | (.ok (), f'') => readPtyIntoTlsQueue f''
  | (.error err, pty) =>
    (if err.kind = .wouldBlock then .ok () else .error (.io err), { f with pty := pty })
termination_by f.pty.reads.length
decreasing_by exact readPty_lt _hread _htake _hqueue

/-! ### Reading the tunnel -/

/-- What becomes of a packet of the tunnel. -/
def queueForPty (f : Forwarder) (packet : PppPacket) : Forwarder :=
  let f := match packet.ipcpIpv4Address with
    | some addr => { f with
        reported := if f.stats.lastIpcpIpv4 ≠ some addr then f.reported ++ [addr] else f.reported
        stats := { f.stats with lastIpcpIpv4 := some addr } }
    | none => f
  let (frame, codec) := encodePacketForPty f.hdlcEncoder packet
  { f with
    hdlcEncoder := codec
    ptyOut := f.ptyOut.push frame
    stats := { f.stats with tlsToPtyPackets := f.stats.tlsToPtyPackets + 1 } }

theorem tls_queueForPty (f : Forwarder) (packet : PppPacket) : (f.queueForPty packet).tls = f.tls := by
  unfold queueForPty
  cases packet.ipcpIpv4Address <;> rfl

theorem tls_foldl_queueForPty (packets : List PppPacket) :
    ∀ f : Forwarder, (packets.foldl queueForPty f).tls = f.tls := by
  induction packets with
  | nil => intro f; rfl
  | cons packet packets ih =>
    intro f
    rw [List.foldl_cons, ih, tls_queueForPty]

/-- What a read of the tunnel leaves before its packets are queued. -/
def takeTls (f : Forwarder) (bytes : List UInt8) (tls : TcpStream) : Result (List PppPacket) × Forwarder :=
  let (result, decoder) := f.tlsDecoder.pushBytes bytes
  (result, { f with
    tls := tls
    tlsDecoder := decoder
    tlsPackets := match result with
      | .ok packets => f.tlsPackets ++ packets
      | .error _ => f.tlsPackets })

theorem readTls_lt {f f' : Forwarder} {bytes : List UInt8} {tls : TcpStream}
    {packets : List PppPacket} (hread : f.tls.read ioBufferSize = (.ok bytes, tls))
    (htake : f.takeTls bytes tls = (.ok packets, f')) :
    (packets.foldl queueForPty f').tls.reads.length < f.tls.reads.length := by
  have hlt := @TcpStream.read_reads f.tls ioBufferSize bytes (by rw [hread])
  have htaken : (f.takeTls bytes tls).2.tls = tls := rfl
  rw [htake] at htaken
  rw [hread] at hlt
  rw [tls_foldl_queueForPty, htaken]
  exact hlt

/-- `read_tls_into_pty_queue`. -/
def readTlsIntoPtyQueue (f : Forwarder) : Result Unit × Forwarder :=
  match _hread : f.tls.read ioBufferSize with
  | (.ok bytes, tls) =>
    if bytes = [] then (.error (.pppd "TLS tunnel closed"), { f with tls := tls })
    else
      match _htake : f.takeTls bytes tls with
      | (.error err, f') => (.error err, f')
      | (.ok packets, f') => readTlsIntoPtyQueue (packets.foldl queueForPty f')
  | (.error err, tls) =>
    (if err.kind = .wouldBlock then .ok () else .error (.io err), { f with tls := tls })
termination_by f.tls.reads.length
decreasing_by exact readTls_lt _hread _htake

/-! ### Writing -/

def writePty (f : Forwarder) : Result Unit × Forwarder :=
  let out := f.ptyOut.writeAvailable f.pty
  (out.result, { f with ptyOut := out.queue, pty := out.writer, toPty := f.toPty ++ out.written })

def writeTls (f : Forwarder) : Result Unit × Forwarder :=
  let out := f.tlsOut.writeAvailable f.tls
  (out.result, { f with tlsOut := out.queue, tls := out.writer, toTls := f.toTls ++ out.written })

end Forwarder

/-! ### Steps and turns -/

inductive Step where
  | readPty | readTls | writePty | writeTls
  deriving DecidableEq, Repr

def Forwarder.step (f : Forwarder) : Step → Result Unit × Forwarder
  | .readPty => f.readPtyIntoTlsQueue
  | .readTls => f.readTlsIntoPtyQueue
  | .writePty => f.writePty
  | .writeTls => f.writeTls

/-- Steps one after another, up to the first error. -/
def Forwarder.steps (f : Forwarder) : List Step → Result Unit × Forwarder
  | [] => (.ok (), f)
  | step :: steps =>
    match f.step step with
    | (.error err, f) => (.error err, f)
    | (.ok (), f) => f.steps steps

/-- What `poll` reports of a descriptor: `POLLIN`, `POLLOUT`, and one of the fatal flags. -/
structure Revents where
  readable : Bool
  writable : Bool
  fatal : Bool
  deriving DecidableEq, Repr

/-- How a turn of the loop starts. -/
inductive Poll where
  | shouldStop
  | failed (text : String)
  | ready (pty tls : Revents)
  deriving DecidableEq, Repr

/-- The steps of a turn.  `POLLOUT` is asked for, and so reported, only where something waits. -/
def Forwarder.stepsOf (f : Forwarder) (pty tls : Revents) : List Step :=
  (if pty.readable then [.readPty] else []) ++ (if tls.readable then [.readTls] else []) ++
    (if pty.writable ∧ ¬ f.ptyOut.isEmpty then [.writePty] else []) ++
    (if tls.writable ∧ ¬ f.tlsOut.isEmpty then [.writeTls] else [])

/-- The loop of `forward_with_callbacks` over the turns to come: what it has returned, if it has. -/
def Forwarder.loop (f : Forwarder) : List Poll → Option (Result ForwardStats) × Forwarder
  | [] => (none, f)
  | .shouldStop :: _ => (some (.ok f.stats), f)
  | .failed text :: _ => (some (.error (.pppd ("poll failed: " ++ text))), f)
  | .ready pty tls :: polls =>
    if pty.fatal ∨ tls.fatal then (some (.ok f.stats), f)
    else
      match f.steps (f.stepsOf pty tls) with
      | (.error err, f) => (some (.error err), f)
      | (.ok (), f) => f.loop polls

/-! ### What each direction accounts for -/

/-- The way to the tunnel: the bytes it has taken and those that wait are the frames of `packets`. -/
structure ToTls (packets : List PppPacket) (f : Forwarder) : Prop where
  bytes : ∃ frames : List (List UInt8), packets.map PppPacket.encodeForTls = frames.map Except.ok ∧
    f.toTls ++ f.tlsOut.pending = frames.flatten
  count : f.stats.ptyToTlsPackets = packets.length

/-- The way to the PTY: the bytes it has taken and those that wait are `packets`, encoded by one
codec, and the callback was called with their addresses. -/
structure ToPty (packets : List PppPacket) (f : Forwarder) : Prop where
  bytes : f.toPty ++ f.ptyOut.pending = encodeAll .new packets
  encoder : f.hdlcEncoder = ⟨packets.isEmpty⟩
  count : f.stats.tlsToPtyPackets = packets.length
  reported : f.reported = (packets.filterMap PppPacket.ipcpIpv4Address).destutter (· ≠ ·)
  last : f.stats.lastIpcpIpv4 = (packets.filterMap PppPacket.ipcpIpv4Address).getLast?

/-- **The invariant of the forwarding loop.** -/
structure Forwarded (f : Forwarder) : Prop where
  toTls : ToTls f.ptyPackets f
  toPty : ToPty f.tlsPackets f

theorem forwarded_start (pty tls : TcpStream) : Forwarded (.start pty tls) where
  toTls := ⟨⟨[], rfl, rfl⟩, rfl⟩
  toPty := ⟨rfl, rfl, rfl, rfl, rfl⟩

/-! ### One packet -/

/-- Repetitions are removed from a list that grows at the end by looking at its last element. -/
theorem destutter_snoc {α : Type*} [DecidableEq α] (l : List α) (a : α) :
    (l ++ [a]).destutter (· ≠ ·) = if l.getLast? ≠ some a then l.destutter (· ≠ ·) ++ [a]
      else l.destutter (· ≠ ·) := by
  have hrest : ∀ (l : List α) (b : α), (l ++ [a]).destutter' (· ≠ ·) b =
      if (b :: l).getLast? ≠ some a then l.destutter' (· ≠ ·) b ++ [a]
        else l.destutter' (· ≠ ·) b := by
    intro l
    induction l with
    | nil =>
      intro b
      by_cases h : b = a
      · simp [h]
      · simp [h]
    | cons c l ih =>
      intro b
      rw [List.cons_append, List.destutter'_cons, List.destutter'_cons, List.getLast?_cons_cons]
      by_cases h : b ≠ c
      · rw [if_pos h, if_pos h, ih]
        split <;> simp
      · obtain rfl := not_not.mp h
        rw [if_neg h, if_neg h, ih]
  cases l with
  | nil => rfl
  | cons b l => exact hrest l b

/-- One more packet on the way to the PTY. -/
theorem encodeAll_snoc (packets : List PppPacket) (packet : PppPacket) :
    encodeAll .new (packets ++ [packet]) =
      encodeAll .new packets ++ (encodePacketForPty ⟨packets.isEmpty⟩ packet).1 := by
  cases packets with
  | nil => exact List.append_nil _
  | cons p packets =>
    rw [encodeAll_eq _ _ (List.concat_ne_nil _ _), encodeAll_eq _ _ (List.cons_ne_nil _ _),
      List.flatMap_append, encodePacketForPty, encode_eq]
    simp

theorem ToPty.queueForPty {packets : List PppPacket} {f : Forwarder} (h : ToPty packets f)
    (packet : PppPacket) : ToPty (packets ++ [packet]) (f.queueForPty packet) := by
  have hbytes : f.toPty ++ (f.ptyOut.push (encodePacketForPty f.hdlcEncoder packet).1).pending =
      encodeAll .new (packets ++ [packet]) := by
    rw [WriteQueue.pending_push, ← List.append_assoc, h.bytes, h.encoder, encodeAll_snoc]
  have hencoder : (encodePacketForPty f.hdlcEncoder packet).2 = ⟨(packets ++ [packet]).isEmpty⟩ := by
    rw [encodePacketForPty, encode_eq]
    simp
  have hcount : f.stats.tlsToPtyPackets + 1 = (packets ++ [packet]).length := by
    rw [h.count, List.length_append, List.length_singleton]
  cases haddr : packet.ipcpIpv4Address with
  | none =>
    have hnone : (packets ++ [packet]).filterMap PppPacket.ipcpIpv4Address =
        packets.filterMap PppPacket.ipcpIpv4Address := by
      rw [List.filterMap_append, List.filterMap_cons_none haddr, List.filterMap_nil, List.append_nil]
    unfold Forwarder.queueForPty
    rw [haddr]
    exact ⟨hbytes, hencoder, hcount, by rw [hnone]; exact h.reported, by rw [hnone]; exact h.last⟩
  | some addr =>
    have hsome : (packets ++ [packet]).filterMap PppPacket.ipcpIpv4Address =
        packets.filterMap PppPacket.ipcpIpv4Address ++ [addr] := by
      rw [List.filterMap_append, List.filterMap_cons_some haddr, List.filterMap_nil]
    unfold Forwarder.queueForPty
    rw [haddr]
    refine ⟨hbytes, hencoder, hcount, ?_, ?_⟩
    · rw [hsome, destutter_snoc, ← h.last, ← h.reported]
    · rw [hsome, List.getLast?_concat]

/-- The other direction does not see it. -/
theorem ToTls.queueForPty {packets : List PppPacket} {f : Forwarder} (h : ToTls packets f)
    (packet : PppPacket) : ToTls packets (f.queueForPty packet) ∧
      (f.queueForPty packet).ptyPackets = f.ptyPackets ∧
      (f.queueForPty packet).tlsPackets = f.tlsPackets := by
  unfold Forwarder.queueForPty
  cases packet.ipcpIpv4Address <;> exact ⟨⟨h.bytes, h.count⟩, rfl, rfl⟩

/-! ### The packets of one read -/

theorem foldl_queueForPty (packets : List PppPacket) : ∀ {f : Forwarder} {sent received : List PppPacket},
    ToTls sent f → ToPty received f →
      ToTls sent (packets.foldl Forwarder.queueForPty f) ∧
      ToPty (received ++ packets) (packets.foldl Forwarder.queueForPty f) ∧
      (packets.foldl Forwarder.queueForPty f).ptyPackets = f.ptyPackets ∧
      (packets.foldl Forwarder.queueForPty f).tlsPackets = f.tlsPackets := by
  induction packets with
  | nil =>
    intro f sent received hsent hreceived
    rw [List.append_nil]
    exact ⟨hsent, hreceived, rfl, rfl⟩
  | cons packet packets ih =>
    intro f sent received hsent hreceived
    obtain ⟨hsent', hpty, htls⟩ := hsent.queueForPty packet
    obtain ⟨h1, h2, h3, h4⟩ := ih hsent' (hreceived.queueForPty packet)
    rw [List.append_assoc, List.singleton_append] at h2
    exact ⟨h1, h2, h3.trans hpty, h4.trans htls⟩

theorem queueForTls_ok (packets : List PppPacket) : ∀ {f f' : Forwarder} {sent received : List PppPacket},
    f.queueForTls packets = (.ok (), f') → ToTls sent f → ToPty received f →
      ToTls (sent ++ packets) f' ∧ ToPty received f' ∧
      f'.ptyPackets = f.ptyPackets ∧ f'.tlsPackets = f.tlsPackets := by
  induction packets with
  | nil =>
    intro f f' sent received h hsent hreceived
    cases h
    rw [List.append_nil]
    exact ⟨hsent, hreceived, rfl, rfl⟩
  | cons packet packets ih =>
    intro f f' sent received h hsent hreceived
    rw [Forwarder.queueForTls] at h
    split at h
    · cases h
    · rename_i frame hframe
      obtain ⟨frames, hframes, hbytes⟩ := hsent.bytes
      obtain ⟨h1, h2, h3, h4⟩ := @ih _ f' (sent ++ [packet]) received h
        ⟨⟨frames ++ [frame], by simp [hframes, hframe], by
          rw [WriteQueue.pending_push, ← List.append_assoc, hbytes, List.flatten_concat]⟩, by
          rw [List.length_append, List.length_singleton, hsent.count]⟩
        ⟨hreceived.bytes, hreceived.encoder, hreceived.count, hreceived.reported, hreceived.last⟩
      rw [List.append_assoc, List.singleton_append] at h1
      exact ⟨h1, h2, h3, h4⟩

/-! ### The steps -/

/-- Reading the PTY, by the recursion of its loop: each read keeps the invariant. -/
theorem readPty_forwarded {f f' : Forwarder} (h : f.readPtyIntoTlsQueue = (.ok (), f'))
    (hf : Forwarded f) : Forwarded f' := by
  induction hn : f.pty.reads.length using Nat.strong_induction_on generalizing f with
  | _ n ih =>
    rw [Forwarder.readPtyIntoTlsQueue] at h
    split at h
    · rename_i bytes pty hread
      split at h
      · cases h
      · split at h
        · cases h
        · rename_i packets taken htake
          split at h
          · cases h
          · rename_i queued hqueue
            have htaken : ToTls f.ptyPackets taken ∧ ToPty f.tlsPackets taken ∧
                taken.ptyPackets = f.ptyPackets ++ packets ∧ taken.tlsPackets = f.tlsPackets := by
              unfold Forwarder.takePty at htake
              obtain ⟨hresult, rfl⟩ := Prod.mk.inj htake
              refine ⟨⟨hf.toTls.bytes, hf.toTls.count⟩, ⟨hf.toPty.bytes, hf.toPty.encoder,
                hf.toPty.count, hf.toPty.reported, hf.toPty.last⟩, ?_, rfl⟩
              simp only [hresult]
            obtain ⟨hsent, hreceived, hpty, htls⟩ := htaken
            obtain ⟨h1, h2, h3, h4⟩ := queueForTls_ok packets hqueue hsent hreceived
            refine ih _ (hn ▸ Forwarder.readPty_lt hread htake hqueue) h ⟨?_, ?_⟩ rfl
            · rw [h3, hpty]; exact h1
            · rw [h4, htls]; exact h2
    · rename_i err pty hread
      obtain ⟨-, rfl⟩ := Prod.mk.inj h
      exact ⟨⟨hf.toTls.bytes, hf.toTls.count⟩, ⟨hf.toPty.bytes, hf.toPty.encoder, hf.toPty.count,
        hf.toPty.reported, hf.toPty.last⟩⟩

/-- Reading the tunnel, in the same way. -/
theorem readTls_forwarded {f f' : Forwarder} (h : f.readTlsIntoPtyQueue = (.ok (), f'))
    (hf : Forwarded f) : Forwarded f' := by
  induction hn : f.tls.reads.length using Nat.strong_induction_on generalizing f with
  | _ n ih =>
    rw [Forwarder.readTlsIntoPtyQueue] at h
    split at h
    · rename_i bytes tls hread
      split at h
      · cases h
      · split at h
        · cases h
        · rename_i packets taken htake
          have htaken : ToTls f.ptyPackets taken ∧ ToPty f.tlsPackets taken ∧
              taken.ptyPackets = f.ptyPackets ∧ taken.tlsPackets = f.tlsPackets ++ packets := by
            unfold Forwarder.takeTls at htake
            obtain ⟨hresult, rfl⟩ := Prod.mk.inj htake
            refine ⟨⟨hf.toTls.bytes, hf.toTls.count⟩, ⟨hf.toPty.bytes, hf.toPty.encoder,
              hf.toPty.count, hf.toPty.reported, hf.toPty.last⟩, rfl, ?_⟩
            simp only [hresult]
          obtain ⟨hsent, hreceived, hpty, htls⟩ := htaken
          obtain ⟨h1, h2, h3, h4⟩ := foldl_queueForPty packets hsent hreceived
          refine ih _ (hn ▸ Forwarder.readTls_lt hread htake) h ⟨?_, ?_⟩ rfl
          · rw [h3, hpty]; exact h1
          · rw [h4, htls]; exact h2
    · rename_i err tls hread
      obtain ⟨-, rfl⟩ := Prod.mk.inj h
      exact ⟨⟨hf.toTls.bytes, hf.toTls.count⟩, ⟨hf.toPty.bytes, hf.toPty.encoder, hf.toPty.count,
        hf.toPty.reported, hf.toPty.last⟩⟩

/-- A write moves bytes from the queue to what the PTY has taken. -/
theorem writePty_forwarded {f : Forwarder} (hf : Forwarded f) : Forwarded f.writePty.2 := by
  refine ⟨⟨hf.toTls.bytes, hf.toTls.count⟩, ⟨?_, hf.toPty.encoder, hf.toPty.count,
    hf.toPty.reported, hf.toPty.last⟩⟩
  show f.toPty ++ (f.ptyOut.writeAvailable f.pty).written ++
    (f.ptyOut.writeAvailable f.pty).queue.pending = _
  rw [List.append_assoc, WriteQueue.written_append_pending]
  exact hf.toPty.bytes

theorem writeTls_forwarded {f : Forwarder} (hf : Forwarded f) : Forwarded f.writeTls.2 := by
  obtain ⟨frames, hframes, hbytes⟩ := hf.toTls.bytes
  refine ⟨⟨⟨frames, hframes, ?_⟩, hf.toTls.count⟩, ⟨hf.toPty.bytes, hf.toPty.encoder, hf.toPty.count,
    hf.toPty.reported, hf.toPty.last⟩⟩
  show f.toTls ++ (f.tlsOut.writeAvailable f.tls).written ++
    (f.tlsOut.writeAvailable f.tls).queue.pending = _
  rw [List.append_assoc, WriteQueue.written_append_pending]
  exact hbytes

theorem step_forwarded {f f' : Forwarder} {step : Step} (h : f.step step = (.ok (), f'))
    (hf : Forwarded f) : Forwarded f' := by
  cases step with
  | readPty => exact readPty_forwarded h hf
  | readTls => exact readTls_forwarded h hf
  | writePty =>
    have hw := writePty_forwarded hf
    rw [show f.writePty = (.ok (), f') from h] at hw
    exact hw
  | writeTls =>
    have hw := writeTls_forwarded hf
    rw [show f.writeTls = (.ok (), f') from h] at hw
    exact hw

theorem steps_forwarded {steps : List Step} : ∀ {f f' : Forwarder}, f.steps steps = (.ok (), f') →
    Forwarded f → Forwarded f' := by
  induction steps with
  | nil =>
    intro f f' h hf
    cases h
    exact hf
  | cons step steps ih =>
    intro f f' h hf
    rw [Forwarder.steps] at h
    split at h
    · cases h
    · rename_i f1 hstep
      exact ih h (step_forwarded hstep hf)

theorem steps_append (steps more : List Step) : ∀ {f f' f'' : Forwarder},
    f.steps steps = (.ok (), f') → f'.steps more = (.ok (), f'') →
      f.steps (steps ++ more) = (.ok (), f'') := by
  induction steps with
  | nil =>
    intro f f' f'' h h'
    cases h
    exact h'
  | cons step steps ih =>
    intro f f' f'' h h'
    rw [Forwarder.steps] at h
    rw [List.cons_append, Forwarder.steps]
    split at h
    · cases h
    · exact ih h h'

/-- The turns of the loop are made of steps, unless one of them has failed. -/
theorem loop_steps (polls : List Poll) : ∀ (f : Forwarder),
    (∀ err, (f.loop polls).1 ≠ some (.error err)) →
      ∃ steps, f.steps steps = (.ok (), (f.loop polls).2) := by
  induction polls with
  | nil => intro f _; exact ⟨[], rfl⟩
  | cons p polls ih =>
    intro f h
    cases p with
    | shouldStop => exact ⟨[], rfl⟩
    | failed text => exact absurd rfl (h _)
    | ready pty tls =>
      rw [Forwarder.loop] at h ⊢
      split
      · exact ⟨[], rfl⟩
      · rename_i hfatal
        rw [if_neg hfatal] at h
        cases hsteps : f.steps (f.stepsOf pty tls) with
        | mk result f1 =>
          cases result with
          | error err =>
            simp only [hsteps] at h
            exact absurd rfl (h err)
          | ok _ =>
            simp only [hsteps] at h
            obtain ⟨steps, hrest⟩ := ih f1 h
            exact ⟨_, steps_append _ steps hsteps hrest⟩

/-- **Forwarding loses, repeats and reorders nothing.**  After any steps in any order, with whatever
reads and partial writes, and so at every turn of the loop until it returns an error: the bytes the
tunnel has taken and those that wait for it are the frames of the packets the PTY decoder returned;
the bytes the PTY has taken and those that wait for it are the packets the TLS decoder returned,
encoded by one codec; the counters count these packets; and the callback was called with the IPCP
addresses among the latter, without repetitions. -/
theorem forwarding_invariant (pty tls : TcpStream) :
    (∀ steps f, (Forwarder.start pty tls).steps steps = (.ok (), f) → Forwarded f) ∧
    ∀ polls, (∀ err, ((Forwarder.start pty tls).loop polls).1 ≠ some (.error err)) →
      Forwarded ((Forwarder.start pty tls).loop polls).2 := by
  have hsteps : ∀ steps f, (Forwarder.start pty tls).steps steps = (.ok (), f) → Forwarded f :=
    fun steps f h => steps_forwarded h (forwarded_start pty tls)
  refine ⟨hsteps, ?_⟩
  intro polls h
  obtain ⟨steps, hrun⟩ := loop_steps polls _ h
  exact hsteps steps _ hrun

end Forward

end OpenfortivpnRs.Tunnel
