import OpenfortivpnRs.Lib.Incremental
import OpenfortivpnRs.Tunnel.Packet

/-!
# The TLS packet stream (`tunnel/forward.rs`)

`TlsPacketStreamDecoder` collects the bytes of the tunnel and cuts them into packets.  Its loop is
the drain of an incremental decoder (`pushLoop_eq`) whose decisions depend on the first bytes only
(`tlsDecoder_stable`), so the chunks the bytes arrive in do not show (`pushAll_frames`).
-/

namespace OpenfortivpnRs.Tunnel

open Lib.Bytes Lib.Incremental

/-- `b"HTTP/1"`, the start of a reply the gateway sends in place of a packet. -/
def httpHeaderPrefix : List UInt8 := [0x48, 0x54, 0x54, 0x50, 0x2f, 0x31]

structure TlsPacketStreamDecoder where
  buffer : List UInt8
  deriving DecidableEq, Repr

/-- One turn of the loop of `push_bytes`: `none` is its `break`, otherwise the packet and what
`drain` leaves of the buffer. -/
def takePacket (buffer : List UInt8) : Result (Option (PppPacket × List UInt8)) :=
  if buffer.length < headerLen then .ok none
  else if buffer.take headerLen = httpHeaderPrefix then .error .permissionDenied
  else
    let total := wordAt buffer 0
    let magic := wordAt buffer 2
    let size := wordAt buffer 4
    if ¬ headerFits total magic size then .error .hdlcInvalidFrame
    else if buffer.length < total.toNat then .ok none
    else
      match PppPacket.decodeFromTlsFrame (buffer.take total.toNat) with
      | .error err => .error err
      | .ok packet => .ok (some (packet, buffer.drop total.toNat))

/-- A packet that is taken accounts for the bytes it is taken from. -/
theorem takePacket_some {buffer rest : List UInt8} {packet : PppPacket}
    (h : takePacket buffer = .ok (some (packet, rest))) :
    buffer = packet.tlsFrame ++ rest ∧ Sendable packet := by
  unfold takePacket at h
  split at h
  · cases h
  · split at h
    · cases h
    · simp only at h
      split at h
      · cases h
      · split at h
        · cases h
        · split at h
          · cases h
          · rename_i hdec
            cases h
            obtain ⟨h1, h2⟩ := tlsFrame_of_decode hdec
            exact ⟨by rw [← h1, List.take_append_drop], h2⟩

theorem takePacket_shrinks {buffer rest : List UInt8} {packet : PppPacket}
    (h : takePacket buffer = .ok (some (packet, rest))) : rest.length < buffer.length := by
  obtain ⟨rfl, -⟩ := takePacket_some h
  rw [List.length_append, PppPacket.tlsFrame_length]
  unfold headerLen; omega

namespace TlsPacketStreamDecoder

def new : TlsPacketStreamDecoder := ⟨[]⟩

/-- The loop of `push_bytes`: the packets so far and, with the result, the bytes left buffered. -/
def pushLoop (buffer : List UInt8) (packets : List PppPacket) : Result (List PppPacket) × List UInt8 :=
  match h : takePacket buffer with
  | .error err => (.error err, buffer)
  | .ok none => (.ok packets, buffer)
  | .ok (some (packet, rest)) =>
    have := takePacket_shrinks h
    pushLoop rest (packets ++ [packet])
termination_by buffer.length

/-- `push_bytes`. -/
def pushBytes (decoder : TlsPacketStreamDecoder) (bytes : List UInt8) :
    Result (List PppPacket) × TlsPacketStreamDecoder :=
  let (result, buffer) := pushLoop (decoder.buffer ++ bytes) []
  (result, { decoder with buffer := buffer })

end TlsPacketStreamDecoder

/-! ### A frame is taken -/

/-- The magic number of a frame is not in `b"HTTP/1"`, so no header of a frame is such a reply. -/
theorem not_http_of_magic {buffer : List UInt8} (h : headerLen ≤ buffer.length)
    (hm : wordAt buffer 2 = fortinetMagic) : buffer.take headerLen ≠ httpHeaderPrefix := by
  intro hhttp
  have hlen : 2 + 1 < (buffer.take headerLen).length := by
    rw [List.length_take]; unfold headerLen at h ⊢; omega
  have hw := wordAt_append (buffer.drop headerLen) hlen
  rw [List.take_append_drop, hm, hhttp] at hw
  exact absurd hw (by decide)

/-- **A frame is taken.**  A buffer that starts with the frame of a sendable packet yields that
packet and the bytes behind the frame. -/
theorem takePacket_tlsFrame {packet : PppPacket} (h : Sendable packet) (rest : List UInt8) :
    takePacket (packet.tlsFrame ++ rest) = .ok (some (packet, rest)) := by
  obtain ⟨h0, h2, h4⟩ := wordAt_tlsFrame packet rest
  have hlen := packet.tlsFrame_length
  have hlen' : (packet.tlsFrame ++ rest).length = headerLen + packet.data.length + rest.length := by
    rw [List.length_append, hlen]
  have hhttp : (packet.tlsFrame ++ rest).take headerLen ≠ httpHeaderPrefix :=
    not_http_of_magic (by omega) h2
  unfold takePacket
  rw [if_neg (by omega), if_neg hhttp]
  simp only [h0, h2, h4, toNat_total h.fits]
  rw [if_neg (not_not_intro h.headerFits), if_neg (by omega), List.take_left' hlen,
    List.drop_left' hlen, decodeFromTlsFrame_tlsFrame h]

/-! ### The loop as an incremental decoder -/

/-- The packets of the TLS stream as values of an incremental decoder. -/
def tlsDecoder : Decoder UInt8 OpenfortivpnError PppPacket where
  pull := takePacket
  shrinks := takePacket_shrinks

/-- An error is decided by the header, or by a frame that is complete. -/
theorem takePacket_error_append {buffer : List UInt8} {err : OpenfortivpnError}
    (more : List UInt8) (h : takePacket buffer = .error err) :
    takePacket (buffer ++ more) = .error err := by
  unfold takePacket at h
  split at h
  · cases h
  · rename_i hhead
    have hlen : (buffer ++ more).length = buffer.length + more.length := List.length_append
    have hsix : headerLen ≤ buffer.length := by omega
    have htake : (buffer ++ more).take headerLen = buffer.take headerLen :=
      List.take_append_of_le_length hsix
    unfold headerLen at hsix
    unfold takePacket
    rw [if_neg (by omega), htake, wordAt_append more (by omega), wordAt_append more (by omega),
      wordAt_append more (by omega)]
    split at h
    · rename_i hhttp
      rw [if_pos hhttp]; exact h
    · rename_i hhttp
      rw [if_neg hhttp]
      simp only at h ⊢
      split at h
      · rename_i hfits
        rw [if_pos hfits]; exact h
      · rename_i hfits
        rw [if_neg hfits]
        split at h
        · cases h
        · rename_i hshort
          rw [if_neg (by omega), List.take_append_of_le_length (by omega)]
          split at h
          · exact h
          · cases h

/-- What the bytes so far decide, later bytes do not change. -/
theorem tlsDecoder_stable : tlsDecoder.Stable where
  value more h := by
    obtain ⟨rfl, hs⟩ := takePacket_some h
    rw [List.append_assoc]
    exact takePacket_tlsFrame hs _
  error more h := takePacket_error_append more h

/-- The loop drains: it returns the packets of the drain behind those it already has. -/
theorem TlsPacketStreamDecoder.pushLoop_eq (buffer : List UInt8) :
    ∀ packets vals left, tlsDecoder.drain buffer = .ok (vals, left) →
      TlsPacketStreamDecoder.pushLoop buffer packets = (.ok (packets ++ vals), left) := by
  induction hn : buffer.length using Nat.strong_induction_on generalizing buffer with
  | _ n ih =>
    intro packets vals left h
    rw [TlsPacketStreamDecoder.pushLoop]
    rcases Decoder.drain_ok_cases h with ⟨hp, rfl, rfl⟩ | ⟨packet, rest, more, hp, hr, rfl⟩
    · have hp' : takePacket left = .ok none := hp
      split <;> simp_all
    · have hp' : takePacket buffer = .ok (some (packet, rest)) := hp
      have hlt := tlsDecoder.shrinks hp
      have := ih rest.length (hn ▸ hlt) rest rfl (packets ++ [packet]) more left hr
      split <;> simp_all

/-- The frames of sendable packets drain to the packets, and nothing is left. -/
theorem drain_frames {packets : List PppPacket} (h : ∀ p ∈ packets, Sendable p) :
    tlsDecoder.drain (packets.map PppPacket.tlsFrame).flatten = .ok (packets, []) := by
  induction packets with
  | nil => exact Decoder.drain_none rfl
  | cons p packets ih =>
    rw [List.map_cons, List.flatten_cons]
    exact Decoder.drain_cons (takePacket_tlsFrame (h p (by simp)) _)
      (ih fun q hq => h q (List.mem_cons_of_mem _ hq))

/-! ### Runs -/

/-- Pushing the chunks of a stream that drains returns its packets. -/
theorem pushAll_of_drain {chunks : List (List UInt8)} {packets : List PppPacket} {left : List UInt8}
    (h : tlsDecoder.drain chunks.flatten = .ok (packets, left)) :
    pushAll TlsPacketStreamDecoder.pushBytes .new chunks = (.ok packets, ⟨left⟩) := by
  have hfeed : tlsDecoder.feed TlsPacketStreamDecoder.new.buffer chunks = .ok (packets, left) :=
    tlsDecoder_stable.feed_of_drain rfl (by simpa [TlsPacketStreamDecoder.new] using h)
  obtain ⟨h1, h2⟩ := pushAll_of_feed TlsPacketStreamDecoder.pushBytes
    TlsPacketStreamDecoder.buffer (fun _ _ => True)
    (fun {s c vals left} _ hd => by
      simp [TlsPacketStreamDecoder.pushBytes, TlsPacketStreamDecoder.pushLoop_eq _ [] _ _ hd])
    (Along.of_forall (fun _ _ => trivial) chunks _) hfeed
  exact Prod.ext h1 (congrArg TlsPacketStreamDecoder.mk h2)

/-- **TLS stream round trip.**  The packets a transport carries are encoded, their frames cut in any
way into chunks are decoded to the same packets in order, after any number of chunks the packets
returned account for a prefix of the bytes received, and at the end nothing stays buffered.
Conversely a frame that decodes is what its packet encodes to. -/
theorem tls_stream_round_trip {packets : List PppPacket}
    (hsize : ∀ p ∈ packets, 1 ≤ p.data.length ∧ p.data.length ≤ 65529) :
    (∃ frames : List (List UInt8),
      packets.map PppPacket.encodeForTls = frames.map Except.ok ∧
      ∀ chunks : List (List UInt8), chunks.flatten = frames.flatten →
        pushAll TlsPacketStreamDecoder.pushBytes .new chunks = (.ok packets, ⟨[]⟩) ∧
        ∀ before after, chunks = before ++ after → ∃ k buffered,
          pushAll TlsPacketStreamDecoder.pushBytes .new before =
            (.ok (packets.take k), ⟨buffered⟩) ∧
          before.flatten = (frames.take k).flatten ++ buffered) ∧
    ∀ frame packet, PppPacket.decodeFromTlsFrame frame = .ok packet →
      packet.encodeForTls = .ok frame := by
  have hs : ∀ p ∈ packets, Sendable p := fun p hp => ⟨(hsize p hp).1, (hsize p hp).2⟩
  refine ⟨⟨packets.map PppPacket.tlsFrame, ?_, fun chunks hcut => ⟨?_, ?_⟩⟩, ?_⟩
  · rw [List.map_map]
    exact List.map_congr_left fun p hp => PppPacket.encodeForTls_eq (hs p hp).fits
  · exact pushAll_of_drain (hcut ▸ drain_frames hs)
  · rintro before after rfl
    have hdrain := drain_frames hs
    rw [← hcut, List.flatten_append] at hdrain
    obtain ⟨front, buffered, back, hf, -, rfl⟩ := tlsDecoder_stable.drain_append hdrain
    refine ⟨front.length, buffered, ?_, ?_⟩
    · rw [List.take_left' rfl]
      exact pushAll_of_drain hf
    · rw [← List.map_take, List.take_left' rfl]
      exact Decoder.drain_accounts PppPacket.tlsFrame (fun h => (takePacket_some h).1) hf
  · intro frame packet h
    obtain ⟨rfl, hs⟩ := tlsFrame_of_decode h
    exact PppPacket.encodeForTls_eq hs.fits

/-- Two packets, cut inside the first header and inside the second. -/
theorem tls_stream_round_trip_two :
    (∀ p ∈ [PppPacket.mk [0x80, 0x21], ⟨[0x45]⟩], 1 ≤ p.data.length ∧ p.data.length ≤ 65529) ∧
    pushAll TlsPacketStreamDecoder.pushBytes .new
        [[0x00, 0x08, 0x50], [0x50, 0x00, 0x02, 0x80, 0x21, 0x00, 0x07], [0x50, 0x50, 0x00, 0x01, 0x45]] =
      (.ok [⟨[0x80, 0x21]⟩, ⟨[0x45]⟩], ⟨[]⟩) := by
  have hsize : ∀ p ∈ [PppPacket.mk [0x80, 0x21], ⟨[0x45]⟩],
      1 ≤ p.data.length ∧ p.data.length ≤ 65529 := by decide
  refine ⟨hsize, ?_⟩
  obtain ⟨⟨frames, henc, hrun⟩, -⟩ := tls_stream_round_trip hsize
  have hok : Function.Injective (Except.ok : List UInt8 → Result (List UInt8)) :=
    fun _ _ h => Except.ok.inj h
  have hframes : frames = [[0x00, 0x08, 0x50, 0x50, 0x00, 0x02, 0x80, 0x21],
      [0x00, 0x07, 0x50, 0x50, 0x00, 0x01, 0x45]] :=
    List.map_injective_iff.mpr hok (henc.symm.trans (by decide))
  exact (hrun _ (by rw [hframes]; rfl)).1

end OpenfortivpnRs.Tunnel
