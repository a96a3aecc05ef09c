import OpenfortivpnRs.Lib.Incremental
import OpenfortivpnRs.Reader
import OpenfortivpnRs.Tunnel.TlsStream

/-!
# The two readers of the tunnel (`tunnel/fortinet.rs`, `tunnel/io.rs`)

`FortinetTransport` buffers what it reads and may be called again after a timeout; `read_tls_packet`
blocks until it has the bytes it needs.  Both take the packets off the same front of the stream
(`frameDecoder`), so they see the same packets and stop at the same place.
-/

namespace OpenfortivpnRs.Tunnel

open Lib.Bytes Lib.Incremental

def readBufferSize : ℕ := 16 * 1024
def maxPacketBufferSize : ℕ := 1024 * 1024

/-- What `read_packet` reports when the gateway closes the stream. -/
def tunnelClosed : IoError := ⟨.unexpectedEof, "VPN tunnel closed"⟩

/-- The stream is the `TlsConnection` the transport owns. -/
structure FortinetTransport where
  stream : Reader
  readBuffer : List UInt8
  deriving DecidableEq

namespace FortinetTransport

def new (stream : Reader) : FortinetTransport := ⟨stream, []⟩

/-- `try_decode_buffered_packet`. -/
def tryDecodeBufferedPacket (t : FortinetTransport) :
    Result (Option PppPacket) × FortinetTransport :=
  if t.readBuffer.length < headerLen then (.ok none, t)
  else if t.readBuffer.take headerLen = httpHeaderPrefix then (.error .permissionDenied, t)
  else
    let total := (wordAt t.readBuffer 0).toNat
    if total < headerLen + 1 then (.error .hdlcInvalidFrame, t)
    else if t.readBuffer.length < total then (.ok none, t)
    else
      -- The frame is drained before it is decoded.
      let drained := { t with readBuffer := t.readBuffer.drop total }
      match PppPacket.decodeFromTlsFrame (t.readBuffer.take total) with
      | .error err => (.error err, drained)
      | .ok packet => (.ok (some packet), drained)

/-- A buffer without a whole packet is kept, and is shorter than a packet can be. -/
theorem tryDecodeBufferedPacket_none {t t' : FortinetTransport}
    (h : t.tryDecodeBufferedPacket = (.ok none, t')) : t' = t ∧ t.readBuffer.length < 65536 := by
  unfold tryDecodeBufferedPacket at h
  split at h
  · rename_i hlen
    cases h
    exact ⟨rfl, hlen.trans (by unfold headerLen; omega)⟩
  · split at h
    · cases h
    · simp only at h
      split at h
      · cases h
      · split at h
        · rename_i hlen
          cases h
          exact ⟨rfl, hlen.trans (wordAt t.readBuffer 0).toNat_lt⟩
        · split at h <;> cases h

/-- What is read is no longer in the stream. -/
theorem read_shrinks {t t' : FortinetTransport} {stream : Reader} {b : UInt8} {chunk : List UInt8}
    (hd : t.tryDecodeBufferedPacket = (.ok none, t'))
    (hr : t'.stream.read readBufferSize = (.ok (b :: chunk), stream)) : stream.size < t.stream.size := by
  have hsize := (Reader.read_size (by decide) hr).1
  rw [(tryDecodeBufferedPacket_none hd).1, List.length_cons] at hsize
  omega

/-- `read_packet`. -/
def readPacket (t : FortinetTransport) : Result PppPacket × FortinetTransport :=
  match hd : t.tryDecodeBufferedPacket with
  | (.error err, t') => (.error err, t')
  | (.ok (some packet), t') => (.ok packet, t')
  | (.ok none, t') =>
    match hr : t'.stream.read readBufferSize with
    | (.error err, stream) => (.error (.io err), { t' with stream := stream })
    | (.ok [], stream) => (.error (.io tunnelClosed), { t' with stream := stream })
    | (.ok (b :: chunk), stream) =>
      let grown : FortinetTransport := ⟨stream, t'.readBuffer ++ b :: chunk⟩
      if maxPacketBufferSize < grown.readBuffer.length then
        (.error (.network "Fortinet packet buffer exceeded maximum size"), grown)
      else
        have : stream.size < t.stream.size := read_shrinks hd hr
        readPacket grown
termination_by t.stream.size

/-- The bytes the transport has not used yet: those in the buffer and those to come. -/
def pending (t : FortinetTransport) : List UInt8 := t.readBuffer ++ t.stream.bytes

end FortinetTransport

/-- `read_tls_packet`. -/
def readTlsPacket (reader : Reader) : Result PppPacket × Reader :=
  match reader.readExact headerLen with
  | (.error err, rest) => (.error (.io err), rest)
  | (.ok header, rest) =>
    if header = httpHeaderPrefix then (.error .permissionDenied, rest)
    else
      let total := (wordAt header 0).toNat
      if total < headerLen + 1 then (.error .hdlcInvalidFrame, rest)
      else
        match rest.readExact (total - headerLen) with
        | (.error err, rest') => (.error (.io err), rest')
        | (.ok body, rest') => (PppPacket.decodeFromTlsFrame (header ++ body), rest')

/-! ### Frames at the front of the stream -/

/-- What the first bytes of the stream decide: nothing yet, an error, or a packet and the bytes
behind its frame. -/
def takeFrame (bytes : List UInt8) : Result (Option (PppPacket × List UInt8)) :=
  if bytes.length < headerLen then .ok none
  else if bytes.take headerLen = httpHeaderPrefix then .error .permissionDenied
  else
    let total := (wordAt bytes 0).toNat
    if total < headerLen + 1 then .error .hdlcInvalidFrame
    else if bytes.length < total then .ok none
    else
      match PppPacket.decodeFromTlsFrame (bytes.take total) with
      | .error err => .error err
      | .ok packet => .ok (some (packet, bytes.drop total))

/-- The frame of a sendable packet is taken off, and what is taken is such a frame. -/
theorem takeFrame_some_iff {bytes rest : List UInt8} {packet : PppPacket} :
    takeFrame bytes = .ok (some (packet, rest)) ↔
      bytes = packet.tlsFrame ++ rest ∧ Sendable packet := by
  constructor
  · intro h
    unfold takeFrame at h
    split at h
    · cases h
    · split at h
      · cases h
      · simp only at h
        split at h
        · cases h
        · split at h
          · cases h
          · split at h
            · cases h
            · rename_i hdec
              cases h
              obtain ⟨h1, h2⟩ := tlsFrame_of_decode hdec
              exact ⟨by rw [← h1, List.take_append_drop], h2⟩
  · rintro ⟨rfl, h⟩
    obtain ⟨h0, h2, -⟩ := wordAt_tlsFrame packet rest
    have hlen := packet.tlsFrame_length
    have hpos := h.nonempty
    have hlen' : (packet.tlsFrame ++ rest).length = headerLen + packet.data.length + rest.length := by
      rw [List.length_append, hlen]
    have hhttp : (packet.tlsFrame ++ rest).take headerLen ≠ httpHeaderPrefix :=
      not_http_of_magic (by omega) h2
    unfold takeFrame
    rw [if_neg (by omega), if_neg hhttp]
    simp only [h0, toNat_total h.fits]
    rw [if_neg (by omega), if_neg (by omega), List.take_left' hlen, List.drop_left' hlen,
      decodeFromTlsFrame_tlsFrame h]

/-- An error is decided by the header, or by a frame that is complete. -/
theorem takeFrame_error_append {bytes : List UInt8} {err : OpenfortivpnError} (more : List UInt8)
    (h : takeFrame bytes = .error err) : takeFrame (bytes ++ more) = .error err := by
  unfold takeFrame at h
  split at h
  · cases h
  · rename_i hhead
    have hlen : (bytes ++ more).length = bytes.length + more.length := List.length_append
    have hsix : headerLen ≤ bytes.length := by omega
    have htake : (bytes ++ more).take headerLen = bytes.take headerLen :=
      List.take_append_of_le_length hsix
    unfold headerLen at hsix
    unfold takeFrame
    rw [if_neg (by omega), htake, wordAt_append more (by omega)]
    split at h
    · rename_i hhttp
      rw [if_pos hhttp]; exact h
    · rename_i hhttp
      rw [if_neg hhttp]
      simp only at h ⊢
      split at h
      · rename_i hshort
        rw [if_pos hshort]; exact h
      · rename_i hshort
        rw [if_neg hshort]
        split at h
        · cases h
        · rename_i hwhole
          rw [if_neg (by omega), List.take_append_of_le_length (by omega)]
          split at h
          · exact h
          · cases h

theorem decodeFromTlsFrame_error {frame : List UInt8} {err : OpenfortivpnError}
    (h : PppPacket.decodeFromTlsFrame frame = .error err) : err = .hdlcInvalidFrame := by
  unfold PppPacket.decodeFromTlsFrame at h
  split at h
  · exact (Except.error.inj h).symm
  · simp only at h
    split at h
    · exact (Except.error.inj h).symm
    · split at h
      · exact (Except.error.inj h).symm
      · cases h

/-- The errors the first bytes can decide. -/
theorem takeFrame_error {bytes : List UInt8} {err : OpenfortivpnError}
    (h : takeFrame bytes = .error err) : err = .permissionDenied ∨ err = .hdlcInvalidFrame := by
  unfold takeFrame at h
  split at h
  · cases h
  · split at h
    · exact .inl (Except.error.inj h).symm
    · simp only at h
      split at h
      · exact .inr (Except.error.inj h).symm
      · split at h
        · cases h
        · split at h
          · rename_i hdec
            cases h
            exact .inr (decodeFromTlsFrame_error hdec)
          · cases h

/-- The packets of the tunnel as values of an incremental decoder. -/
def frameDecoder : Decoder UInt8 OpenfortivpnError PppPacket where
  pull := takeFrame
  shrinks := by
    intro bytes packet rest h
    obtain ⟨rfl, -⟩ := takeFrame_some_iff.mp h
    rw [List.length_append, PppPacket.tlsFrame_length]
    unfold headerLen; omega

/-- What the bytes so far decide, later bytes do not change. -/
theorem frameDecoder_stable : frameDecoder.Stable where
  value more h := by
    obtain ⟨rfl, hs⟩ := takeFrame_some_iff.mp h
    exact takeFrame_some_iff.mpr ⟨List.append_assoc _ _ _, hs⟩
  error more h := takeFrame_error_append more h

/-! ### One packet -/

namespace FortinetTransport

/-- The buffer is decoded as its bytes decide, and the stream is not touched. -/
theorem tryDecodeBufferedPacket_eq {t t' : FortinetTransport} {result : Result (Option PppPacket)}
    (h : t.tryDecodeBufferedPacket = (result, t')) :
    t'.stream = t.stream ∧
      takeFrame t.readBuffer = result.map fun o => o.map fun packet => (packet, t'.readBuffer) := by
  unfold tryDecodeBufferedPacket at h
  unfold takeFrame
  split at h
  · rename_i hhead
    cases h
    rw [if_pos hhead]
    exact ⟨rfl, rfl⟩
  · rename_i hhead
    rw [if_neg hhead]
    split at h
    · rename_i hhttp
      cases h
      rw [if_pos hhttp]
      exact ⟨rfl, rfl⟩
    · rename_i hhttp
      rw [if_neg hhttp]
      simp only at h ⊢
      split at h
      · rename_i hshort
        cases h
        rw [if_pos hshort]
        exact ⟨rfl, rfl⟩
      · rename_i hshort
        rw [if_neg hshort]
        split at h
        · rename_i hwhole
          cases h
          rw [if_pos hwhole]
          exact ⟨rfl, rfl⟩
        · rename_i hwhole
          rw [if_neg hwhole]
          split at h
          · cases h
            exact ⟨rfl, rfl⟩
          · cases h
            exact ⟨rfl, rfl⟩

/-- What a call of `read_packet` does, by what the bytes not used yet decide. -/
inductive ReadOutcome (errors : IoError → Prop) (t t' : FortinetTransport) : Result PppPacket → Prop
  | packet {packet : PppPacket} (h : takeFrame t.pending = .ok (some (packet, t'.pending))) :
      ReadOutcome errors t t' (.ok packet)
  | refused {err : OpenfortivpnError} (h : takeFrame t.pending = .error err) :
      ReadOutcome errors t t' (.error err)
  | closed (h : takeFrame t.pending = .ok none) :
      ReadOutcome errors t t' (.error (.io tunnelClosed))
  | failed {err : IoError} (h : errors err) (hkept : t'.pending = t.pending) :
      ReadOutcome errors t t' (.error (.io err))

theorem ReadOutcome.of_pending {errors : IoError → Prop} {t grown t' : FortinetTransport}
    {result : Result PppPacket} (h : ReadOutcome errors grown t' result)
    (hp : grown.pending = t.pending) : ReadOutcome errors t t' result := by
  cases h with
  | packet h => exact .packet (hp ▸ h)
  | refused h => exact .refused (hp ▸ h)
  | closed h => exact .closed (hp ▸ h)
  | failed h hkept => exact .failed h (hkept.trans hp)

/-- What a read appends to a buffer without a whole packet fits. -/
theorem grown_fits {t t' : FortinetTransport} {chunk : List UInt8} {stream : Reader}
    (hd : t.tryDecodeBufferedPacket = (.ok none, t'))
    (hr : t'.stream.read readBufferSize = (.ok chunk, stream)) :
    (t'.readBuffer ++ chunk).length ≤ maxPacketBufferSize := by
  obtain ⟨rfl, hlt⟩ := tryDecodeBufferedPacket_none hd
  have hc := (Reader.read_ok hr).2
  unfold readBufferSize at hc
  unfold maxPacketBufferSize
  rw [List.length_append]
  omega

/-- **One call of `read_packet`.**  It ends in one of the four ways, and the stream keeps its
promise. -/
theorem readPacket_spec (errors : IoError → Prop) (t : FortinetTransport)
    (ho : t.stream.Open errors) :
    ReadOutcome errors t t.readPacket.2 t.readPacket.1 ∧ t.readPacket.2.stream.Open errors := by
  have hpos : 0 < readBufferSize := by decide
  fun_induction readPacket t with
  | case1 t err t' hd =>
    obtain ⟨hs, hf⟩ := tryDecodeBufferedPacket_eq hd
    exact ⟨.refused (frameDecoder_stable.error _ hf), hs ▸ ho⟩
  | case2 t packet t' hd =>
    obtain ⟨hs, hf⟩ := tryDecodeBufferedPacket_eq hd
    refine ⟨.packet ?_, hs ▸ ho⟩
    unfold pending
    rw [hs]
    exact frameDecoder_stable.value _ hf
  | case3 t t' hd err stream hr =>
    obtain ⟨rfl, -⟩ := tryDecodeBufferedPacket_none hd
    obtain ⟨ho', herr, -⟩ := ho.read hpos _ hr
    refine ⟨.failed (herr err rfl) ?_, ho'⟩
    unfold pending
    rw [(Reader.read_error hr).1]
  | case4 t t' hd stream hr =>
    obtain ⟨rfl, -⟩ := tryDecodeBufferedPacket_none hd
    obtain ⟨ho', -, hend⟩ := ho.read hpos _ hr
    refine ⟨.closed ?_, ho'⟩
    unfold pending
    rw [hend rfl, List.append_nil]
    exact (tryDecodeBufferedPacket_eq hd).2
  | case5 t t' hd b chunk stream hr grown hbig =>
    have hfit := grown_fits hd hr
    simp only [grown] at hbig
    omega
  | case6 t t' hd b chunk stream hr grown hfit hlt ih =>
    obtain ⟨rfl, -⟩ := tryDecodeBufferedPacket_none hd
    obtain ⟨h1, h2⟩ := ih (ho.read hpos _ hr).1
    refine ⟨h1.of_pending ?_, h2⟩
    simp only [pending, grown]
    rw [(Reader.read_ok hr).1, List.append_assoc]

/-- The buffer never outgrows its bound. -/
theorem readPacket_ne_network (t : FortinetTransport) (text : String) :
    t.readPacket.1 ≠ .error (.network text) := by
  fun_induction readPacket t with
  | case1 t err t' hd =>
    have hf := (tryDecodeBufferedPacket_eq hd).2
    rintro ⟨⟩
    rcases takeFrame_error hf with h | h <;> cases h
  | case2 => rintro ⟨⟩
  | case3 => rintro ⟨⟩
  | case4 => rintro ⟨⟩
  | case5 t t' hd b chunk stream hr grown hbig =>
    have hfit := grown_fits hd hr
    simp only [grown] at hbig
    omega
  | case6 t t' hd b chunk stream hr grown hfit hlt ih => exact ih

/-! ### Retrying -/

end FortinetTransport

/-- The errors after which the caller tries again. -/
def IsTemporary (err : IoError) : Prop := err.kind = .wouldBlock ∨ err.kind = .timedOut

instance : DecidablePred IsTemporary := fun err => by unfold IsTemporary; infer_instance

namespace FortinetTransport

/-- A call that returns a packet or a temporary error leaves less to do. -/
theorem readPacket_lt (t : FortinetTransport) :
    (∀ packet, t.readPacket.1 = .ok packet →
      t.readPacket.2.stream.size + t.readPacket.2.readBuffer.length <
        t.stream.size + t.readBuffer.length) ∧
    (∀ err, t.readPacket.1 = .error (.io err) → IsTemporary err →
      t.readPacket.2.stream.size + t.readPacket.2.readBuffer.length <
        t.stream.size + t.readBuffer.length) := by
  fun_induction readPacket t with
  | case1 t err t' hd =>
    refine ⟨(fun _ h => by cases h), fun e h => ?_⟩
    cases h
    rcases takeFrame_error (tryDecodeBufferedPacket_eq hd).2 with h | h <;> cases h
  | case2 t packet t' hd =>
    obtain ⟨hs, hf⟩ := tryDecodeBufferedPacket_eq hd
    have hlt := frameDecoder.shrinks hf
    refine ⟨fun _ _ => ?_, (fun _ h => by cases h)⟩
    show t'.stream.size + t'.readBuffer.length < _
    rw [hs]
    omega
  | case3 t t' hd err stream hr =>
    obtain ⟨rfl, -⟩ := tryDecodeBufferedPacket_none hd
    have hsize := (Reader.read_error hr).2
    refine ⟨(fun _ h => by cases h), fun _ _ _ => ?_⟩
    show stream.size + t'.readBuffer.length < _
    omega
  | case4 t t' hd stream hr =>
    refine ⟨(fun _ h => by cases h), fun e h htemp => ?_⟩
    cases h
    exact absurd htemp (by decide)
  | case5 => exact ⟨(fun _ h => by cases h), (fun _ h => by cases h)⟩
  | case6 t t' hd b chunk stream hr grown hfit hlt ih =>
    obtain ⟨rfl, -⟩ := tryDecodeBufferedPacket_none hd
    have hsize := (Reader.read_size (by decide) hr).1
    have hgrown : grown.stream.size + grown.readBuffer.length ≤
        t'.stream.size + t'.readBuffer.length := by
      simp only [grown, List.length_append]
      omega
    exact ⟨fun p h => (ih.1 p h).trans_le hgrown, fun e h ht => (ih.2 e h ht).trans_le hgrown⟩

/-- `read_packet` called until it fails for good: the packets, and the error. -/
def readPackets (t : FortinetTransport) : List PppPacket × OpenfortivpnError :=
  match h : t.readPacket with
  | (.ok packet, t') =>
    have := (readPacket_lt t).1 packet (by rw [h])
    let rest := readPackets t'
    (packet :: rest.1, rest.2)
  | (.error (.io err), t') =>
    if htemp : IsTemporary err then
      have := (readPacket_lt t).2 err (by rw [h]) htemp
      readPackets t'
    else ([], .io err)
  | (.error err, _) => ([], err)
termination_by t.stream.size + t.readBuffer.length
decreasing_by all_goals (rw [h] at this; exact this)

end FortinetTransport

/-- A call that returns a packet has read it. -/
theorem readTlsPacket_lt {reader rest : Reader} {packet : PppPacket}
    (h : readTlsPacket reader = (.ok packet, rest)) : rest.size < reader.size := by
  unfold readTlsPacket at h
  split at h
  · cases h
  · rename_i header mid hhead
    have h1 := (Reader.readExact_ok _ _ hhead).2.2
    split at h
    · cases h
    · simp only at h
      split at h
      · cases h
      · split at h
        · cases h
        · rename_i body rest' hbody
          have h2 := (Reader.readExact_ok _ _ hbody).2.2
          have hrest : rest' = rest := congrArg Prod.snd h
          rw [← hrest]
          unfold headerLen at h1
          omega

/-- `read_tls_packet` called until it fails: the packets, and the error. -/
def readTlsPackets (reader : Reader) : List PppPacket × OpenfortivpnError :=
  match h : readTlsPacket reader with
  | (.ok packet, rest) =>
    have := readTlsPacket_lt h
    let more := readTlsPackets rest
    (packet :: more.1, more.2)
  | (.error err, _) => ([], err)
termination_by reader.size

/-! ### Both read the frames of the stream -/

/-- The error of a reader that reports the end of the stream as `closed`. -/
def lastError (closed : IoError) : Except OpenfortivpnError (List UInt8) → OpenfortivpnError
  | .error err => err
  | .ok _ => .io closed

/-- The packets of a stream of bytes, and the error behind them. -/
def framesOf (closed : IoError) (bytes : List UInt8) : List PppPacket × OpenfortivpnError :=
  ((frameDecoder.takeAll bytes).1, lastError closed (frameDecoder.takeAll bytes).2)

section Frames

variable {closed : IoError} {bytes : List UInt8}

theorem framesOf_error {err : OpenfortivpnError} (h : takeFrame bytes = .error err) :
    framesOf closed bytes = ([], err) := by
  unfold framesOf
  rw [Decoder.takeAll_error (d := frameDecoder) h]
  rfl

theorem framesOf_none (h : takeFrame bytes = .ok none) :
    framesOf closed bytes = ([], .io closed) := by
  unfold framesOf
  rw [Decoder.takeAll_none (d := frameDecoder) h]
  rfl

theorem framesOf_some {packet : PppPacket} {rest : List UInt8}
    (h : takeFrame bytes = .ok (some (packet, rest))) :
    framesOf closed bytes = (packet :: (framesOf closed rest).1, (framesOf closed rest).2) := by
  unfold framesOf
  rw [Decoder.takeAll_some (d := frameDecoder) h]

end Frames

/-- **The transport reads the frames of its stream**, whatever the timeouts. -/
theorem FortinetTransport.readPackets_eq (t : FortinetTransport)
    (ho : t.stream.Open IsTemporary) : t.readPackets = framesOf tunnelClosed t.pending := by
  fun_induction readPackets t with
  | case1 t packet t' h hlt rest ih =>
    obtain ⟨hout, ho'⟩ := readPacket_spec IsTemporary t ho
    rw [h] at hout ho'
    cases hout with
    | packet hp => rw [framesOf_some hp, ← ih ho']
  | case2 t err t' h htemp hlt ih =>
    obtain ⟨hout, ho'⟩ := readPacket_spec IsTemporary t ho
    rw [h] at hout ho'
    cases hout with
    | refused hp => rcases takeFrame_error hp with he | he <;> cases he
    | closed hp => exact absurd htemp (by decide)
    | failed _ hkept => rw [ih ho', hkept]
  | case3 t err t' h htemp =>
    obtain ⟨hout, -⟩ := readPacket_spec IsTemporary t ho
    rw [h] at hout
    cases hout with
    | refused hp => exact (framesOf_error hp).symm
    | closed hp => exact (framesOf_none hp).symm
    | failed he _ => exact absurd he htemp
  | case4 t err t' hio h =>
    obtain ⟨hout, -⟩ := readPacket_spec IsTemporary t ho
    rw [h] at hout
    cases hout with
    | refused hp => exact (framesOf_error hp).symm
    | closed hp => exact (framesOf_none hp).symm
    | failed he _ => exact absurd rfl (hio _)

/-- What a call of `read_tls_packet` does, by what the bytes to come decide. -/
inductive BlockingOutcome (reader rest : Reader) : Result PppPacket → Prop
  | packet {packet : PppPacket} (h : takeFrame reader.bytes = .ok (some (packet, rest.bytes)))
      (ho : rest.Open fun _ => False) : BlockingOutcome reader rest (.ok packet)
  | refused {err : OpenfortivpnError} (h : takeFrame reader.bytes = .error err) :
      BlockingOutcome reader rest (.error err)
  | closed (h : takeFrame reader.bytes = .ok none) :
      BlockingOutcome reader rest (.error (.io Reader.failedToFill))

/-- **One call of `read_tls_packet`** on a stream that does not fail. -/
theorem readTlsPacket_spec (reader : Reader) (ho : reader.Open fun _ => False) :
    BlockingOutcome reader (readTlsPacket reader).2 (readTlsPacket reader).1 := by
  obtain ⟨hshort, hlong⟩ := Reader.readExact_spec headerLen reader ho
  unfold readTlsPacket
  by_cases hhead : reader.bytes.length < headerLen
  · obtain ⟨rest, hx⟩ := hshort hhead
    rw [hx]
    exact .closed (by unfold takeFrame; rw [if_pos hhead])
  · obtain ⟨mid, hx, hmid, homid⟩ := hlong (by omega)
    rw [hx]
    have hword : wordAt (reader.bytes.take headerLen) 0 = wordAt reader.bytes 0 := by
      have hlen : 0 + 1 < (reader.bytes.take headerLen).length := by
        rw [List.length_take]
        unfold headerLen at hhead ⊢
        omega
      have hw := wordAt_append (reader.bytes.drop headerLen) hlen
      rw [List.take_append_drop] at hw
      exact hw.symm
    simp only [hword]
    by_cases hhttp : reader.bytes.take headerLen = httpHeaderPrefix
    · rw [if_pos hhttp]
      exact .refused (by unfold takeFrame; rw [if_neg hhead, if_pos hhttp])
    · rw [if_neg hhttp]
      by_cases hlow : (wordAt reader.bytes 0).toNat < headerLen + 1
      · rw [if_pos hlow]
        exact .refused (by unfold takeFrame; rw [if_neg hhead, if_neg hhttp]; simp only [if_pos hlow])
      · rw [if_neg hlow]
        obtain ⟨hshort', hlong'⟩ :=
          Reader.readExact_spec ((wordAt reader.bytes 0).toNat - headerLen) mid homid
        rw [hmid, List.length_drop] at hshort' hlong'
        by_cases hwhole : reader.bytes.length < (wordAt reader.bytes 0).toNat
        · obtain ⟨rest, hy⟩ := hshort' (by omega)
          rw [hy]
          refine .closed ?_
          unfold takeFrame
          rw [if_neg hhead, if_neg hhttp]
          simp only [if_neg hlow, if_pos hwhole]
        · obtain ⟨rest, hy, hrest, horest⟩ := hlong' (by omega)
          rw [hy]
          have htake : reader.bytes.take headerLen ++
              (reader.bytes.drop headerLen).take ((wordAt reader.bytes 0).toNat - headerLen) =
              reader.bytes.take (wordAt reader.bytes 0).toNat := by
            rw [← List.take_add, Nat.add_sub_cancel' (by omega)]
          have hdrop : rest.bytes = reader.bytes.drop (wordAt reader.bytes 0).toNat := by
            rw [hrest, List.drop_drop, Nat.add_sub_cancel' (by omega)]
          have hframe : takeFrame reader.bytes =
              match PppPacket.decodeFromTlsFrame (reader.bytes.take (wordAt reader.bytes 0).toNat) with
              | .error err => .error err
              | .ok packet => .ok (some (packet, rest.bytes)) := by
            unfold takeFrame
            rw [if_neg hhead, if_neg hhttp, hdrop]
            simp only [if_neg hlow, if_neg hwhole]
          simp only [htake]
          cases hdec : PppPacket.decodeFromTlsFrame
              (reader.bytes.take (wordAt reader.bytes 0).toNat) with
          | error err => exact .refused (by rw [hframe, hdec])
          | ok packet => exact .packet (by rw [hframe, hdec]) horest

/-- **The blocking reader reads the frames of its stream.** -/
theorem readTlsPackets_eq (reader : Reader) (ho : reader.Open fun _ => False) :
    readTlsPackets reader = framesOf Reader.failedToFill reader.bytes := by
  fun_induction readTlsPackets reader with
  | case1 reader packet rest h hlt more ih =>
    have hout := readTlsPacket_spec reader ho
    rw [h] at hout
    cases hout with
    | packet hp horest => rw [framesOf_some hp, ← ih horest]
  | case2 reader err rest h =>
    have hout := readTlsPacket_spec reader ho
    rw [h] at hout
    cases hout with
    | refused hp => exact (framesOf_error hp).symm
    | closed hp => exact (framesOf_none hp).symm

/-! ### Agreement -/

/-- How the packets of a stream can end. -/
inductive StreamEnd where
  | permissionDenied | invalidFrame | unexpectedEnd
  deriving DecidableEq, Repr

def streamEnd : OpenfortivpnError → Option StreamEnd
  | .permissionDenied => some .permissionDenied
  | .hdlcInvalidFrame => some .invalidFrame
  | .io err => if err.kind = .unexpectedEof then some .unexpectedEnd else none
  | _ => none

/-- The end of the stream is of the same kind for every reader that reports it as such. -/
theorem streamEnd_framesOf {closed closed' : IoError} (h : closed.kind = .unexpectedEof)
    (h' : closed'.kind = .unexpectedEof) (bytes : List UInt8) :
    ∃ last, streamEnd (framesOf closed bytes).2 = some last ∧
      streamEnd (framesOf closed' bytes).2 = some last := by
  induction hn : bytes.length using Nat.strong_induction_on generalizing bytes with
  | _ n ih =>
    cases hf : takeFrame bytes with
    | error err =>
      rw [framesOf_error hf, framesOf_error hf]
      rcases takeFrame_error hf with rfl | rfl
      · exact ⟨_, rfl, rfl⟩
      · exact ⟨_, rfl, rfl⟩
    | ok o =>
      rcases o with _ | ⟨packet, rest⟩
      · rw [framesOf_none hf, framesOf_none hf]
        exact ⟨.unexpectedEnd, if_pos h, if_pos h'⟩
      · rw [framesOf_some hf, framesOf_some hf]
        exact ih rest.length (hn ▸ frameDecoder.shrinks hf) rest rfl

/-- **The transport agrees with the blocking reader.**  On the bytes of one stream, cut in any way
and with any temporary errors in between, the transport retried after each of them returns the
packets the blocking reader returns, and then an error of the same kind.  A temporary error loses no
byte, and the buffer never outgrows its bound. -/
theorem transport_agrees_with_blocking_reader {timed blocking : Reader}
    (ht : timed.Open IsTemporary) (hb : blocking.Open fun _ => False)
    (hsame : timed.bytes = blocking.bytes) :
    (FortinetTransport.new timed).readPackets.1 = (readTlsPackets blocking).1 ∧
    (∃ last, streamEnd (FortinetTransport.new timed).readPackets.2 = some last ∧
      streamEnd (readTlsPackets blocking).2 = some last) ∧
    (∀ (t t' : FortinetTransport) (err : IoError), t.stream.Open IsTemporary → IsTemporary err →
      t.readPacket = (.error (.io err), t') → t'.pending = t.pending) ∧
    ∀ (t : FortinetTransport) (text : String), t.readPacket.1 ≠ .error (.network text) := by
  have hx : (FortinetTransport.new timed).readPackets = framesOf tunnelClosed blocking.bytes :=
    hsame ▸ FortinetTransport.readPackets_eq (.new timed) ht
  have hy := readTlsPackets_eq blocking hb
  rw [hx, hy]
  refine ⟨rfl, streamEnd_framesOf rfl rfl _, ?_, FortinetTransport.readPacket_ne_network⟩
  intro t t' err ho htemp h
  have hout := (FortinetTransport.readPacket_spec IsTemporary t ho).1
  rw [h] at hout
  cases hout with
  | refused hp => rcases takeFrame_error hp with he | he <;> cases he
  | closed hp => exact absurd htemp (by decide)
  | failed _ hkept => exact hkept

/-- Two packets with a timeout inside the second header, and a tunnel that closes behind them. -/
theorem transport_agrees_with_blocking_reader_two :
    let timed : Reader := ⟨[.ok [0x00, 0x07, 0x50, 0x50, 0x00, 0x01, 0x45, 0x00, 0x08],
      .error ⟨.wouldBlock, "timeout"⟩, .ok [0x50, 0x50, 0x00, 0x02, 0x80, 0x21]]⟩
    let blocking : Reader := ⟨[.ok [0x00, 0x07, 0x50], .ok [0x50, 0x00, 0x01, 0x45, 0x00, 0x08, 0x50,
      0x50, 0x00, 0x02, 0x80, 0x21]]⟩
    (FortinetTransport.new timed).readPackets.1 = (readTlsPackets blocking).1 := by
  refine (transport_agrees_with_blocking_reader ?_ ?_ (by decide)).1
  · intro result hmem
    simp only [List.mem_cons, List.not_mem_nil, or_false] at hmem
    rcases hmem with rfl | rfl | rfl
    · simp
    · exact .inl rfl
    · simp
  · intro result hmem
    simp only [List.mem_cons, List.not_mem_nil, or_false] at hmem
    rcases hmem with rfl | rfl <;> simp

end OpenfortivpnRs.Tunnel
