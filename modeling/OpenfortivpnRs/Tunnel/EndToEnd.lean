import OpenfortivpnRs.Tunnel.Delivery
import OpenfortivpnRs.Tunnel.PtyPackets

/-!
# The tunnel from end to end (`tunnel/forward.rs`)

What pppd writes and what the gateway sends are streams of bytes that hold packets (`packetsIn`).  What
either end reads off the bytes it was given are the first of the packets in the stream of the other, and
all of them once nothing waits (`tunnel_end_to_end`): with whatever polls, reads and partial writes, and
where the loop has failed as well.
-/

namespace OpenfortivpnRs.Tunnel

open Lib.Incremental Proxy Hdlc

/-! ### The packets in a stream -/

/-- A frame that decodes holds a byte besides its FCS. -/
theorem ne_nil_of_ptyPull {buffer rest : List UInt8} {packet : PppPacket}
    (h : ptyDecoder.pull buffer = .ok (some (packet, rest))) : packet.data ≠ [] := by
  have h : ptyPull buffer = .ok (some (packet, rest)) := h
  rcases ptyPull_cases buffer with ⟨hnone, -⟩ | ⟨s, len, -, hfound⟩
  · rw [hnone] at h
    cases h
  · rw [hfound] at h
    split at h
    · cases h
    · rename_i data hdecode
      cases h
      obtain ⟨u, -, -, hthree, -, hdata⟩ := content_of_decode hdecode
      apply List.ne_nil_of_length_pos
      rw [hdata, List.length_take]
      omega

/-- What one codec encodes drains to the packets. -/
theorem drain_encodeAll {packets : List PppPacket} (hne : ∀ p ∈ packets, p.data ≠ []) :
    ∃ left, ptyDecoder.drain (encodeAll .new packets) = .ok (packets, left) := by
  by_cases hp : packets = []
  · rw [hp]
    exact ⟨[], Decoder.drain_none (show ptyPull [] = _ by decide)⟩
  · rw [encodeAll_eq _ _ hp]
    exact ⟨[flag], drain_bodies hne⟩

/-- A packet that is encoded fits, and the frame is its frame. -/
theorem fits_of_encodeForTls {packet : PppPacket} {frame : List UInt8}
    (h : packet.encodeForTls = .ok frame) : packet.data.length ≤ 65529 ∧ frame = packet.tlsFrame := by
  by_cases hfits : packet.data.length ≤ 65529
  · rw [PppPacket.encodeForTls_eq hfits] at h
    exact ⟨hfits, (Except.ok.inj h).symm⟩
  · unfold PppPacket.encodeForTls headerLen at h
    rw [if_pos (by omega)] at h
    cases h

/-! ### Pushes -/

/-- A push that returns packets has drained the buffer. -/
theorem drain_of_pushBytes {decoder : PppdPtyDecoder} {bytes : List UInt8} {packets : List PppPacket}
    (h : (decoder.pushBytes bytes).1 = .ok packets) :
    ptyDecoder.drain (decoder.buffer ++ bytes) = .ok (packets, (decoder.pushBytes bytes).2.buffer) := by
  have hfit := (pushBytes_frames h).1
  rw [List.length_append] at hfit
  cases hdrain : ptyDecoder.drain (decoder.buffer ++ bytes) with
  | error err =>
    rw [pushBytes_error hfit hdrain] at h
    cases h
  | ok p =>
    obtain ⟨vals, left⟩ := p
    obtain ⟨hvals, hleft⟩ := pushBytes_of_drain hfit hdrain
    rw [hvals] at h
    cases h
    rw [hleft]

theorem TlsPacketStreamDecoder.drain_of_pushBytes {decoder : TlsPacketStreamDecoder} {bytes : List UInt8}
    {packets : List PppPacket} (h : (decoder.pushBytes bytes).1 = .ok packets) :
    tlsDecoder.drain (decoder.buffer ++ bytes) = .ok (packets, (decoder.pushBytes bytes).2.buffer) := by
  cases hdrain : tlsDecoder.drain (decoder.buffer ++ bytes) with
  | error err =>
    have herror := pushLoop_error (decoder.buffer ++ bytes) [] err hdrain
    rw [show (decoder.pushBytes bytes).1 = _ from herror] at h
    cases h
  | ok p =>
    obtain ⟨vals, left⟩ := p
    have hloop := pushLoop_eq (decoder.buffer ++ bytes) [] vals left hdrain
    unfold pushBytes at h ⊢
    rw [hloop] at h ⊢
    cases h
    rfl

namespace Forward

/-- The bytes a stream gives to the reads to come. -/
def given (stream : TcpStream) : List UInt8 :=
  stream.reads.flatMap fun
    | .ok bytes => bytes.take ioBufferSize
    | .error _ => []

/-- The packets in the bytes of a stream. -/
def packetsIn (decoder : Decoder UInt8 OpenfortivpnError PppPacket) (stream : TcpStream) : List PppPacket :=
  (decoder.takeAll (given stream)).1

theorem given_read {stream rest : TcpStream} {bytes : List UInt8}
    (h : stream.read ioBufferSize = (.ok bytes, rest)) : given stream = bytes ++ given rest := by
  unfold TcpStream.read at h
  split at h
  · cases h
  · cases h
  · rename_i read reads hreads
    cases h
    unfold given
    rw [hreads]
    rfl

theorem given_read_error {stream rest : TcpStream} {err : IoError}
    (h : stream.read ioBufferSize = (.error err, rest)) : given rest = given stream := by
  unfold TcpStream.read at h
  split at h
  · cases h
    rfl
  · rename_i e reads hreads
    cases h
    unfold given
    rw [hreads]
    rfl
  · cases h

/-- The packets that one codec has encoded are in the stream. -/
theorem packetsIn_of_encodeAll {stream : TcpStream} {packets : List PppPacket}
    (hne : ∀ p ∈ packets, p.data ≠ []) (h : given stream = encodeAll .new packets) :
    packetsIn ptyDecoder stream = packets := by
  obtain ⟨left, hdrain⟩ := drain_encodeAll hne
  rw [packetsIn, h, Decoder.takeAll_of_drain hdrain]

theorem packetsIn_of_frames {stream : TcpStream} {packets : List PppPacket}
    (hs : ∀ p ∈ packets, Sendable p) (h : given stream = (packets.map PppPacket.tlsFrame).flatten) :
    packetsIn tlsDecoder stream = packets := by
  rw [packetsIn, h, Decoder.takeAll_of_drain (drain_frames hs)]

/-! ### What has been read -/

/-- The packets and the buffer of a decoder that was pushed what `stream` has given up to `rest`. -/
def Heard (decoder : Decoder UInt8 OpenfortivpnError PppPacket) (stream rest : TcpStream)
    (packets : List PppPacket) (buffer : List UInt8) : Prop :=
  ∃ bytes, given stream = bytes ++ given rest ∧ decoder.drain bytes = .ok (packets, buffer)

section Heard

variable {decoder : Decoder UInt8 OpenfortivpnError PppPacket} {stream rest rest' : TcpStream}
  {packets more : List PppPacket} {bytes buffer left : List UInt8}

theorem Heard.push (h : Heard decoder stream rest packets buffer) (hs : decoder.Stable)
    (hread : given rest = bytes ++ given rest') (hdrain : decoder.drain (buffer ++ bytes) = .ok (more, left)) :
    Heard decoder stream rest' (packets ++ more) left := by
  obtain ⟨before, hgiven, hbefore⟩ := h
  exact ⟨before ++ bytes, by rw [hgiven, hread, List.append_assoc], Decoder.drain_extend hs hbefore hdrain⟩

theorem Heard.prefix_packetsIn (h : Heard decoder stream rest packets buffer) (hs : decoder.Stable) :
    packets <+: packetsIn decoder stream := by
  obtain ⟨bytes, hgiven, hdrain⟩ := h
  rw [packetsIn, hgiven, Decoder.takeAll_append hs hdrain]
  exact List.prefix_append _ _

theorem Heard.eq_packetsIn (h : Heard decoder stream rest packets buffer) (hrest : rest.reads = []) :
    packets = packetsIn decoder stream := by
  obtain ⟨bytes, hgiven, hdrain⟩ := h
  have hnone : given rest = [] := by rw [given, hrest, List.flatMap_nil]
  rw [packetsIn, hgiven, hnone, List.append_nil, Decoder.takeAll_of_drain hdrain]

end Heard

/-- The loop is in step with its streams. -/
structure InStep (pty tls : TcpStream) (f : Forwarder) : Prop where
  forwarded : Forwarded f
  pty : Heard ptyDecoder pty f.pty f.ptyPackets f.ptyDecoder.buffer
  tls : Heard tlsDecoder tls f.tls f.tlsPackets f.tlsDecoder.buffer

/-- What is left of that where the loop has failed. -/
structure InPart (pty tls : TcpStream) (f : Forwarder) : Prop where
  toTls : ∃ packets, packets <+: packetsIn ptyDecoder pty ∧ ToTls packets f
  toPty : ∃ packets, packets <+: packetsIn tlsDecoder tls ∧ ToPty packets f

/-- A step has kept the loop in step, or has failed. -/
def Kept (pty tls : TcpStream) (out : Result Unit × Forwarder) : Prop :=
  InPart pty tls out.2 ∧ (out.1 = .ok () → InStep pty tls out.2)

section Steps

variable {pty tls : TcpStream} {f f' : Forwarder}

theorem InStep.inPart (h : InStep pty tls f) : InPart pty tls f :=
  ⟨⟨_, h.pty.prefix_packetsIn ptyDecoder_stable, h.forwarded.toTls⟩,
    ⟨_, h.tls.prefix_packetsIn tlsDecoder_stable, h.forwarded.toPty⟩⟩

theorem InStep.kept (h : InStep pty tls f) (result : Result Unit) : Kept pty tls (result, f) :=
  ⟨h.inPart, fun _ => h⟩

theorem inStep_start (pty tls : TcpStream) : InStep pty tls (.start pty tls) where
  forwarded := forwarded_start pty tls
  pty := ⟨[], rfl, Decoder.drain_none (show ptyPull [] = _ by decide)⟩
  tls := ⟨[], rfl, Decoder.drain_none rfl⟩

/-! ### Reading the PTY -/

/-- The packets up to one that cannot be encoded are queued. -/
theorem queueForTls_inPart (packets : List PppPacket) : ∀ {f : Forwarder} {sent received : List PppPacket},
    ToTls sent f → ToPty received f →
      (∃ queued, queued <+: packets ∧ ToTls (sent ++ queued) (f.queueForTls packets).2) ∧
        ToPty received (f.queueForTls packets).2 := by
  induction packets with
  | nil =>
    intro f sent received hsent hreceived
    exact ⟨⟨[], List.prefix_rfl, by rw [List.append_nil]; exact hsent⟩, hreceived⟩
  | cons packet packets ih =>
    intro f sent received hsent hreceived
    cases hframe : packet.encodeForTls with
    | error err =>
      rw [Forwarder.queueForTls, hframe]
      exact ⟨⟨[], List.nil_prefix, by rw [List.append_nil]; exact hsent⟩, hreceived⟩
    | ok frame =>
      have hone : (f.queueForTls [packet]) = (.ok (), { f with
          tlsOut := f.tlsOut.push frame
          stats := { f.stats with ptyToTlsPackets := f.stats.ptyToTlsPackets + 1 } }) := by
        rw [Forwarder.queueForTls, hframe]
        rfl
      obtain ⟨hsent', hreceived', -, -⟩ := queueForTls_ok [packet] hone hsent hreceived
      obtain ⟨⟨queued, hqueued, hlater⟩, hlast⟩ := ih hsent' hreceived'
      rw [Forwarder.queueForTls, hframe]
      refine ⟨⟨packet :: queued, List.cons_prefix_cons.mpr ⟨rfl, hqueued⟩, ?_⟩, hlast⟩
      rw [List.append_assoc, List.singleton_append] at hlater
      exact hlater

/-- Queueing touches the queue and the counters only. -/
theorem queueForTls_frame (packets : List PppPacket) : ∀ f : Forwarder,
    ∃ tlsOut stats, (f.queueForTls packets).2 = { f with tlsOut := tlsOut, stats := stats } := by
  induction packets with
  | nil => exact fun f => ⟨f.tlsOut, f.stats, rfl⟩
  | cons packet packets ih =>
    intro f
    rw [Forwarder.queueForTls]
    split
    · exact ⟨f.tlsOut, f.stats, rfl⟩
    · obtain ⟨tlsOut, stats, hrest⟩ := ih { f with
        tlsOut := f.tlsOut.push _
        stats := { f.stats with ptyToTlsPackets := f.stats.ptyToTlsPackets + 1 } }
      exact ⟨tlsOut, stats, hrest⟩

/-- A read of the PTY that returns packets. -/
theorem takePty_ok {bytes : List UInt8} {pty' : TcpStream} {packets : List PppPacket}
    (hf : InStep pty tls f) (hread : f.pty.read ioBufferSize = (.ok bytes, pty'))
    (htake : f.takePty bytes pty' = (.ok packets, f')) :
    ToTls f.ptyPackets f' ∧ ToPty f.tlsPackets f' ∧ f'.ptyPackets = f.ptyPackets ++ packets ∧
      f'.tlsPackets = f.tlsPackets ∧ Heard ptyDecoder pty f'.pty f'.ptyPackets f'.ptyDecoder.buffer ∧
      Heard tlsDecoder tls f'.tls f'.tlsPackets f'.tlsDecoder.buffer := by
  have hresult : (f.ptyDecoder.pushBytes bytes).1 = .ok packets := congrArg Prod.fst htake
  have htaken : f' = (f.takePty bytes pty').2 := by rw [htake]
  have hpackets : (f.takePty bytes pty').2.ptyPackets = f.ptyPackets ++ packets := by
    unfold Forwarder.takePty
    simp only [hresult]
  have hheard := hf.pty.push ptyDecoder_stable (given_read hread) (drain_of_pushBytes hresult)
  rw [← hpackets] at hheard
  rw [htaken]
  exact ⟨⟨hf.forwarded.toTls.bytes, hf.forwarded.toTls.count⟩, ⟨hf.forwarded.toPty.bytes,
    hf.forwarded.toPty.encoder, hf.forwarded.toPty.count, hf.forwarded.toPty.reported,
    hf.forwarded.toPty.last⟩, hpackets, rfl, hheard, hf.tls⟩

/-- A read of the PTY that fails in its decoder. -/
theorem takePty_inPart (bytes : List UInt8) (pty' : TcpStream) (hf : InPart pty tls f) :
    InPart pty tls (f.takePty bytes pty').2 := by
  obtain ⟨⟨sent, hsent, htls⟩, received, hreceived, hpty⟩ := hf
  exact ⟨⟨sent, hsent, htls.bytes, htls.count⟩, received, hreceived, hpty.bytes, hpty.encoder, hpty.count,
    hpty.reported, hpty.last⟩

/-- The PTY has given nothing. -/
theorem InStep.withPty {pty' : TcpStream} (hf : InStep pty tls f) (h : given f.pty = given pty') :
    InStep pty tls { f with pty := pty' } := by
  obtain ⟨bytes, hgiven, hdrain⟩ := hf.pty
  refine ⟨⟨⟨hf.forwarded.toTls.bytes, hf.forwarded.toTls.count⟩, ⟨hf.forwarded.toPty.bytes,
    hf.forwarded.toPty.encoder, hf.forwarded.toPty.count, hf.forwarded.toPty.reported,
    hf.forwarded.toPty.last⟩⟩, ⟨bytes, ?_, hdrain⟩, hf.tls⟩
  rw [hgiven, h]

/-- Reading the PTY, by the recursion of its loop. -/
theorem readPty_kept (hf : InStep pty tls f) : Kept pty tls f.readPtyIntoTlsQueue := by
  induction hn : f.pty.reads.length using Nat.strong_induction_on generalizing f with
  | _ n ih =>
    rw [Forwarder.readPtyIntoTlsQueue]
    split
    · rename_i bytes pty' hread
      split
      · rename_i hempty
        have hgiven := given_read hread
        rw [hempty, List.nil_append] at hgiven
        exact (hf.withPty hgiven).kept _
      · split
        · rename_i err taken htake
          have hpart := takePty_inPart bytes pty' hf.inPart
          rw [htake] at hpart
          exact ⟨hpart, fun h => by cases h⟩
        · rename_i packets taken htake
          obtain ⟨hsent, hreceived, hptyPackets, htlsPackets, hpty, htls⟩ := takePty_ok hf hread htake
          split
          · rename_i err queued hqueue
            obtain ⟨⟨first, hfirst, hsent'⟩, hreceived'⟩ := queueForTls_inPart packets hsent hreceived
            rw [hqueue] at hsent' hreceived'
            have hprefix := hpty.prefix_packetsIn ptyDecoder_stable
            rw [hptyPackets] at hprefix
            refine ⟨⟨⟨_, ((List.prefix_append_right_inj _).mpr hfirst).trans hprefix, hsent'⟩, _,
              hf.tls.prefix_packetsIn tlsDecoder_stable, hreceived'⟩, fun h => by cases h⟩
          · rename_i queued hqueue
            obtain ⟨hsent', hreceived', hptySame, htlsSame⟩ := queueForTls_ok packets hqueue hsent hreceived
            obtain ⟨tlsOut, stats, hframe⟩ := queueForTls_frame packets taken
            rw [hqueue] at hframe
            replace hframe : queued = _ := hframe
            refine ih _ (hn ▸ Forwarder.readPty_lt hread htake hqueue) ⟨⟨?_, ?_⟩, ?_, ?_⟩ rfl
            · rw [hptySame, hptyPackets]
              exact hsent'
            · rw [htlsSame, htlsPackets]
              exact hreceived'
            · rw [hframe]
              exact hpty
            · rw [hframe]
              exact htls
    · rename_i err pty' hread
      exact (hf.withPty (given_read_error hread).symm).kept _

/-! ### Reading the tunnel -/

/-- The packets of the tunnel change neither a stream nor a decoder. -/
theorem foldl_queueForPty_frame (packets : List PppPacket) : ∀ f : Forwarder,
    ∃ encoder ptyOut stats reported, packets.foldl Forwarder.queueForPty f =
      { f with hdlcEncoder := encoder, ptyOut := ptyOut, stats := stats, reported := reported } := by
  induction packets with
  | nil => exact fun f => ⟨f.hdlcEncoder, f.ptyOut, f.stats, f.reported, rfl⟩
  | cons packet packets ih =>
    intro f
    obtain ⟨encoder, ptyOut, stats, reported, hrest⟩ := ih (f.queueForPty packet)
    refine ⟨encoder, ptyOut, stats, reported, ?_⟩
    rw [List.foldl_cons, hrest]
    unfold Forwarder.queueForPty
    cases packet.ipcpIpv4Address <;> rfl

theorem takeTls_ok {bytes : List UInt8} {tls' : TcpStream} {packets : List PppPacket}
    (hf : InStep pty tls f) (hread : f.tls.read ioBufferSize = (.ok bytes, tls'))
    (htake : f.takeTls bytes tls' = (.ok packets, f')) :
    ToTls f.ptyPackets f' ∧ ToPty f.tlsPackets f' ∧ f'.ptyPackets = f.ptyPackets ∧
      f'.tlsPackets = f.tlsPackets ++ packets ∧
      Heard ptyDecoder pty f'.pty f'.ptyPackets f'.ptyDecoder.buffer ∧
      Heard tlsDecoder tls f'.tls f'.tlsPackets f'.tlsDecoder.buffer := by
  have hresult : (f.tlsDecoder.pushBytes bytes).1 = .ok packets := congrArg Prod.fst htake
  have htaken : f' = (f.takeTls bytes tls').2 := by rw [htake]
  have hpackets : (f.takeTls bytes tls').2.tlsPackets = f.tlsPackets ++ packets := by
    unfold Forwarder.takeTls
    simp only [hresult]
  have hheard := hf.tls.push tlsDecoder_stable (given_read hread)
    (TlsPacketStreamDecoder.drain_of_pushBytes hresult)
  rw [← hpackets] at hheard
  rw [htaken]
  exact ⟨⟨hf.forwarded.toTls.bytes, hf.forwarded.toTls.count⟩, ⟨hf.forwarded.toPty.bytes,
    hf.forwarded.toPty.encoder, hf.forwarded.toPty.count, hf.forwarded.toPty.reported,
    hf.forwarded.toPty.last⟩, rfl, hpackets, hf.pty, hheard⟩

theorem takeTls_inPart (bytes : List UInt8) (tls' : TcpStream) (hf : InPart pty tls f) :
    InPart pty tls (f.takeTls bytes tls').2 := by
  obtain ⟨⟨sent, hsent, htls⟩, received, hreceived, hpty⟩ := hf
  exact ⟨⟨sent, hsent, htls.bytes, htls.count⟩, received, hreceived, hpty.bytes, hpty.encoder, hpty.count,
    hpty.reported, hpty.last⟩

theorem InStep.withTls {tls' : TcpStream} (hf : InStep pty tls f) (h : given f.tls = given tls') :
    InStep pty tls { f with tls := tls' } := by
  obtain ⟨bytes, hgiven, hdrain⟩ := hf.tls
  refine ⟨⟨⟨hf.forwarded.toTls.bytes, hf.forwarded.toTls.count⟩, ⟨hf.forwarded.toPty.bytes,
    hf.forwarded.toPty.encoder, hf.forwarded.toPty.count, hf.forwarded.toPty.reported,
    hf.forwarded.toPty.last⟩⟩, hf.pty, ⟨bytes, ?_, hdrain⟩⟩
  rw [hgiven, h]

/-- Reading the tunnel, in the same way. -/
theorem readTls_kept (hf : InStep pty tls f) : Kept pty tls f.readTlsIntoPtyQueue := by
  induction hn : f.tls.reads.length using Nat.strong_induction_on generalizing f with
  | _ n ih =>
    rw [Forwarder.readTlsIntoPtyQueue]
    split
    · rename_i bytes tls' hread
      split
      · rename_i hempty
        have hgiven := given_read hread
        rw [hempty, List.nil_append] at hgiven
        exact (hf.withTls hgiven).kept _
      · split
        · rename_i err taken htake
          have hpart := takeTls_inPart bytes tls' hf.inPart
          rw [htake] at hpart
          exact ⟨hpart, fun h => by cases h⟩
        · rename_i packets taken htake
          obtain ⟨hsent, hreceived, hptyPackets, htlsPackets, hpty, htls⟩ := takeTls_ok hf hread htake
          obtain ⟨hsent', hreceived', hptySame, htlsSame⟩ := foldl_queueForPty packets hsent hreceived
          obtain ⟨encoder, ptyOut, stats, reported, hframe⟩ := foldl_queueForPty_frame packets taken
          refine ih _ (hn ▸ Forwarder.readTls_lt hread htake) ⟨⟨?_, ?_⟩, ?_, ?_⟩ rfl
          · rw [hptySame, hptyPackets]
            exact hsent'
          · rw [htlsSame, htlsPackets]
            exact hreceived'
          · rw [hframe]
            exact hpty
          · rw [hframe]
            exact htls
    · rename_i err tls' hread
      exact (hf.withTls (given_read_error hread).symm).kept _

/-! ### Runs -/

theorem reads_write (stream : TcpStream) (chunk : List UInt8) : (stream.write chunk).2.reads = stream.reads := by
  unfold TcpStream.write
  split <;> rfl

/-- A write takes no read. -/
theorem reads_writeAvailable (queue : WriteQueue) (stream : TcpStream) :
    (queue.writeAvailable stream).writer.reads = stream.reads := by
  induction hn : stream.writes.length using Nat.strong_induction_on generalizing queue stream with
  | _ n ih =>
    rw [WriteQueue.writeAvailable]
    split
    · rfl
    · rename_i front rest hq
      have hfront := reads_write stream (front.drop queue.offset)
      split
      · rename_i written stream' hw
        rw [hw] at hfront
        split
        · exact hfront
        · exact (ih _ (hn ▸ WriteQueue.writes_lt hw) _ stream' rfl).trans hfront
      · rename_i err stream' hw
        rw [hw] at hfront
        split <;> exact hfront

theorem step_kept (step : Step) (hf : InStep pty tls f) : Kept pty tls (f.step step) := by
  cases step with
  | readPty => exact readPty_kept hf
  | readTls => exact readTls_kept hf
  | writePty =>
    obtain ⟨bytes, hgiven, hdrain⟩ := hf.pty
    refine InStep.kept ⟨writePty_forwarded hf.forwarded, ⟨bytes, ?_, hdrain⟩, hf.tls⟩ _
    rw [hgiven]
    unfold given
    exact congrArg _ (congrArg _ (reads_writeAvailable f.ptyOut f.pty).symm)
  | writeTls =>
    obtain ⟨bytes, hgiven, hdrain⟩ := hf.tls
    refine InStep.kept ⟨writeTls_forwarded hf.forwarded, hf.pty, ⟨bytes, ?_, hdrain⟩⟩ _
    rw [hgiven]
    unfold given
    exact congrArg _ (congrArg _ (reads_writeAvailable f.tlsOut f.tls).symm)

theorem steps_kept (steps : List Step) : ∀ {f : Forwarder}, InStep pty tls f →
    Kept pty tls (f.steps steps) := by
  induction steps with
  | nil => exact fun hf => hf.kept _
  | cons step steps ih =>
    intro f hf
    have hone := step_kept step hf
    rw [Forwarder.steps]
    split
    · rename_i err f' hstep
      rw [hstep] at hone
      exact ⟨hone.1, fun h => by cases h⟩
    · rename_i f' hstep
      rw [hstep] at hone
      exact ih (hone.2 rfl)

/-- The loop is in step with its streams until it fails. -/
theorem loop_kept (polls : List Poll) : ∀ {f : Forwarder}, InStep pty tls f →
    InPart pty tls (f.loop polls).2 ∧
      ((∀ err, (f.loop polls).1 ≠ some (.error err)) → InStep pty tls (f.loop polls).2) := by
  induction polls with
  | nil => exact fun hf => ⟨hf.inPart, fun _ => hf⟩
  | cons poll polls ih =>
    intro f hf
    cases poll with
    | shouldStop => exact ⟨hf.inPart, fun _ => hf⟩
    | failed text => exact ⟨hf.inPart, fun _ => hf⟩
    | ready ptyEvents tlsEvents =>
      have hturn := steps_kept (f.stepsOf ptyEvents tlsEvents) hf
      rw [Forwarder.loop]
      split
      · exact ⟨hf.inPart, fun _ => hf⟩
      · split
        · rename_i err f' hsteps
          rw [hsteps] at hturn
          exact ⟨hturn.1, fun h => absurd rfl (h err)⟩
        · rename_i f' hsteps
          rw [hsteps] at hturn
          exact ih (hturn.2 rfl)

end Steps

/-! ### What the ends read -/

/-- In whatever pieces the gateway is given the bytes, it reads the packets. -/
def GatewayReads (bytes : List UInt8) (packets : List PppPacket) : Prop :=
  ∀ chunks : List (List UInt8), chunks.flatten = bytes →
    (pushAll TlsPacketStreamDecoder.pushBytes .new chunks).1 = .ok packets

/-- And pppd, in pieces that its buffer has room for. -/
def PppdReads (bytes : List UInt8) (packets : List PppPacket) : Prop :=
  ∀ chunks : List (List UInt8), chunks.flatten = bytes → Along PppdPtyDecoder.pushBytes
    (fun decoder chunk => decoder.bufferedLen + chunk.length ≤ maxPtyBuffer) .new chunks →
      (pushAll PppdPtyDecoder.pushBytes .new chunks).1 = .ok packets

/-- Frames of packets that are not empty are frames the transport carries. -/
theorem frames_eq {packets : List PppPacket} (hne : ∀ p ∈ packets, p.data ≠ []) :
    ∀ {frames : List (List UInt8)}, packets.map PppPacket.encodeForTls = frames.map Except.ok →
      (∀ p ∈ packets, Sendable p) ∧ frames = packets.map PppPacket.tlsFrame := by
  induction packets with
  | nil =>
    intro frames h
    exact ⟨List.forall_mem_nil _, List.map_eq_nil_iff.mp h.symm⟩
  | cons packet packets ih =>
    intro frames h
    obtain ⟨hfirst, hrest⟩ := List.forall_mem_cons.mp hne
    cases frames with
    | nil => cases h
    | cons frame frames =>
      obtain ⟨hframe, hframes⟩ := List.cons.inj h
      obtain ⟨hfits, rfl⟩ := fits_of_encodeForTls hframe
      obtain ⟨hsendable, rfl⟩ := ih hrest hframes
      exact ⟨List.forall_mem_cons.mpr ⟨⟨List.length_pos_of_ne_nil hfirst, hfits⟩, hsendable⟩, rfl⟩

theorem ToTls.gatewayReads {packets : List PppPacket} {f : Forwarder} (h : ToTls packets f)
    (hne : ∀ p ∈ packets, p.data ≠ []) :
    ∃ got, GatewayReads f.toTls got ∧ got <+: packets ∧ (f.tlsOut.pending = [] → got = packets) := by
  obtain ⟨frames, hframes, hbytes⟩ := h.bytes
  obtain ⟨hsendable, rfl⟩ := frames_eq hne hframes
  have hdrain := drain_frames hsendable
  rw [← hbytes] at hdrain
  obtain ⟨front, mid, back, hfront, hback, rfl⟩ := tlsDecoder_stable.drain_append hdrain
  refine ⟨front, fun chunks hchunks => ?_, List.prefix_append _ _, fun hpending => ?_⟩
  · rw [pushAll_of_drain (hchunks ▸ hfront)]
  · rw [hpending, List.append_nil] at hdrain
    exact (congrArg Prod.fst (Except.ok.inj (hdrain.symm.trans hfront))).symm

theorem ToPty.pppdReads {packets : List PppPacket} {f : Forwarder} (h : ToPty packets f)
    (hne : ∀ p ∈ packets, p.data ≠ []) :
    ∃ got, PppdReads f.toPty got ∧ got <+: packets ∧ (f.ptyOut.pending = [] → got = packets) := by
  obtain ⟨left, hdrain⟩ := drain_encodeAll hne
  rw [← h.bytes] at hdrain
  obtain ⟨front, mid, back, hfront, hback, rfl⟩ := ptyDecoder_stable.drain_append hdrain
  refine ⟨front, fun chunks hchunks hfit => ?_, List.prefix_append _ _, fun hpending => ?_⟩
  · have hfeed : ptyDecoder.feed PppdPtyDecoder.new.buffer chunks = .ok (front, mid) :=
      ptyDecoder_stable.feed_of_drain (show ptyPull [] = _ by decide) (by rw [hchunks]; exact hfront)
    exact (pushAll_of_feed PppdPtyDecoder.pushBytes PppdPtyDecoder.buffer _ pushBytes_of_drain hfit hfeed).1
  · rw [hpending, List.append_nil] at hdrain
    exact (congrArg Prod.fst (Except.ok.inj (hdrain.symm.trans hfront))).symm

theorem pending_of_isEmpty {queue : WriteQueue} (h : queue.isEmpty = true) : queue.pending = [] := by
  rw [WriteQueue.pending, List.isEmpty_iff.mp h, List.flatten_nil, List.drop_nil]

end Forward

end OpenfortivpnRs.Tunnel
