import OpenfortivpnRs.Lib.Delivery
import OpenfortivpnRs.Tunnel.PtyStream
import OpenfortivpnRs.Tunnel.TlsStream

/-!
# What the stream decoders deliver before an error

Both `push_bytes` return an error without the packets they have taken off the buffer before it.  So
what a stream delivers depends on its chunks when a valid frame and the corrupt one behind it can
arrive together, and only then.
-/

namespace OpenfortivpnRs.Tunnel

open Lib.Bytes Lib.Incremental Hdlc

/-! ### The TLS stream -/

/-- A header that `push_bytes` refuses. -/
def CorruptHeader (buffer : List UInt8) : Prop :=
  headerLen ≤ buffer.length ∧ (buffer.take headerLen = httpHeaderPrefix ∨
    ¬ headerFits (wordAt buffer 0) (wordAt buffer 2) (wordAt buffer 4))

/-- Behind a header that fits, a frame that is complete decodes. -/
theorem takePacket_error_iff {buffer : List UInt8} :
    (∃ err, takePacket buffer = .error err) ↔ CorruptHeader buffer := by
  unfold takePacket CorruptHeader
  by_cases hshort : buffer.length < headerLen
  · rw [if_pos hshort]
    refine iff_of_false ?_ ?_
    · rintro ⟨err, h⟩
      cases h
    · rintro ⟨h, -⟩
      omega
  · have hlen : headerLen ≤ buffer.length := by omega
    rw [if_neg hshort]
    by_cases hhttp : buffer.take headerLen = httpHeaderPrefix
    · rw [if_pos hhttp]
      exact iff_of_true ⟨_, rfl⟩ ⟨hlen, .inl hhttp⟩
    · rw [if_neg hhttp]
      simp only
      by_cases hfits : headerFits (wordAt buffer 0) (wordAt buffer 2) (wordAt buffer 4)
      · rw [if_neg (not_not_intro hfits)]
        refine iff_of_false ?_ ?_
        · rintro ⟨err, h⟩
          split at h
          · cases h
          · rename_i htotal
            obtain ⟨-, -, hn, -⟩ := hfits.words
            unfold headerLen at hn
            have hwords : ∀ i, i + 1 < (wordAt buffer 0).toNat →
                wordAt (buffer.take (wordAt buffer 0).toNat) i = wordAt buffer i := by
              intro i hi
              have hword := @wordAt_append (buffer.take (wordAt buffer 0).toNat) i
                (buffer.drop (wordAt buffer 0).toNat) (by rw [List.length_take]; omega)
              rw [List.take_append_drop] at hword
              exact hword.symm
            have hsize : (buffer.take (wordAt buffer 0).toNat).length = (wordAt buffer 0).toNat := by
              rw [List.length_take]
              omega
            unfold PppPacket.decodeFromTlsFrame headerLen at h
            rw [if_neg (by omega)] at h
            simp only [hwords 0 (by omega), hwords 2 (by omega), hwords 4 (by omega)] at h
            rw [if_neg (not_not_intro hfits), if_neg (not_not_intro hsize)] at h
            cases h
        · rintro ⟨-, h | h⟩
          · exact hhttp h
          · exact h hfits
      · rw [if_pos hfits]
        exact iff_of_true ⟨_, rfl⟩ ⟨hlen, .inr hfits⟩

theorem tlsDecoder_separate : tlsDecoder.Separate where
  empty := rfl
  last := by
    intro buf b packet left hbuf h
    have h : takePacket (buf ++ [b]) = .ok (some (packet, left)) := h
    have hlast : buf ++ [b] = packet.tlsFrame ++ left := (takePacket_some h).1
    rcases List.eq_nil_or_concat left with rfl | ⟨left, b', rfl⟩
    · rfl
    · rw [List.concat_eq_append, ← List.append_assoc] at hlast
      obtain ⟨rfl, -⟩ := List.append_inj' hlast rfl
      have hfound := takePacket_tlsFrame (takePacket_some h).2 left
      rw [show takePacket (packet.tlsFrame ++ left) = .ok none from hbuf] at hfound
      cases hfound

theorem TlsPacketStreamDecoder.pushLoop_of_error {buffer : List UInt8} {err : OpenfortivpnError}
    (packets : List PppPacket) (h : takePacket buffer = .error err) :
    TlsPacketStreamDecoder.pushLoop buffer packets = (.error err, buffer) := by
  rw [pushLoop]; split <;> simp_all

theorem TlsPacketStreamDecoder.pushLoop_of_some {buffer rest : List UInt8} {packet : PppPacket}
    (packets : List PppPacket) (h : takePacket buffer = .ok (some (packet, rest))) :
    TlsPacketStreamDecoder.pushLoop buffer packets =
      TlsPacketStreamDecoder.pushLoop rest (packets ++ [packet]) := by
  rw [pushLoop]; split <;> simp_all

/-- The loop fails where the drain does. -/
theorem TlsPacketStreamDecoder.pushLoop_error (buffer : List UInt8) :
    ∀ packets err, tlsDecoder.drain buffer = .error err →
      (TlsPacketStreamDecoder.pushLoop buffer packets).1 = .error err := by
  induction hn : buffer.length using Nat.strong_induction_on generalizing buffer with
  | _ n ih =>
    intro packets err h
    cases hp : tlsDecoder.pull buffer with
    | error err' =>
      rw [Decoder.drain_error hp] at h
      cases h
      rw [TlsPacketStreamDecoder.pushLoop_of_error packets hp]
    | ok o =>
      rcases o with _ | ⟨packet, rest⟩
      · rw [Decoder.drain_none hp] at h
        cases h
      · rw [TlsPacketStreamDecoder.pushLoop_of_some packets hp]
        refine ih rest.length (hn ▸ tlsDecoder.shrinks hp) rest rfl _ err ?_
        rw [Decoder.drain_some hp] at h
        cases hr : tlsDecoder.drain rest with
        | ok p => rw [hr] at h; cases h
        | error err' => rw [hr] at h; exact h

/-- One or more valid frames stand before a corrupt header. -/
def FrameBeforeCorrupt (stream : List UInt8) : Prop :=
  ∃ (packets : List PppPacket) (rest : List UInt8), packets ≠ [] ∧ (∀ p ∈ packets, Sendable p) ∧
    stream = (packets.map PppPacket.tlsFrame).flatten ++ rest ∧ CorruptHeader rest

/-- What is received lies behind valid frames. -/
theorem receives_tls {stream b : List UInt8} (h : tlsDecoder.Receives (fun _ => True) stream b) :
    ∃ packets : List PppPacket, (∀ p ∈ packets, Sendable p) ∧
      stream = (packets.map PppPacket.tlsFrame).flatten ++ b := by
  induction h with
  | start => exact ⟨[], List.forall_mem_nil _, rfl⟩
  | @value x y left packet _ _ hp ih =>
    obtain ⟨packets, hsendable, hstream⟩ := ih
    obtain ⟨rfl, hs⟩ := takePacket_some hp
    refine ⟨packets ++ [packet], ?_, ?_⟩
    · exact List.forall_mem_append.mpr ⟨hsendable, List.forall_mem_singleton.mpr hs⟩
    · rw [hstream]
      simp

/-- Valid frames are received. -/
theorem receives_frames {packets : List PppPacket} {stream b : List UInt8} :
    (∀ p ∈ packets, Sendable p) →
    tlsDecoder.Receives (fun _ => True) stream ((packets.map PppPacket.tlsFrame).flatten ++ b) →
      tlsDecoder.Receives (fun _ => True) stream b := by
  induction packets with
  | nil => exact fun _ h => h
  | cons p packets ih =>
    intro hs h
    obtain ⟨hp, hs⟩ := List.forall_mem_cons.mp hs
    rw [List.map_cons, List.flatten_cons, List.append_assoc] at h
    have hpull := takePacket_tlsFrame hp []
    rw [List.append_nil] at hpull
    exact ih hs (h.value trivial hpull)

theorem tls_collides_iff (stream : List UInt8) :
    tlsDecoder.Collides (fun _ => True) stream ↔ FrameBeforeCorrupt stream := by
  constructor
  · rintro ⟨x, y, packet, left, err, hr, -, hp, herror⟩
    obtain ⟨packets, hsendable, hstream⟩ := receives_tls hr
    obtain ⟨rfl, hs⟩ := takePacket_some hp
    refine ⟨packets ++ [packet], left ++ y, List.concat_ne_nil packet packets, ?_, ?_, ?_⟩
    · exact List.forall_mem_append.mpr ⟨hsendable, List.forall_mem_singleton.mpr hs⟩
    · rw [hstream]
      simp
    · exact takePacket_error_iff.mp ⟨err, takePacket_error_append y herror⟩
  · rintro ⟨packets, rest, hne, hsendable, rfl, hcorrupt⟩
    obtain ⟨err, herror⟩ := takePacket_error_iff.mpr hcorrupt
    obtain ⟨init, last, rfl⟩ := (List.eq_nil_or_concat packets).resolve_left hne
    rw [List.concat_eq_append] at hsendable ⊢
    obtain ⟨hinit, hlast⟩ := List.forall_mem_append.mp hsendable
    have hr := @receives_frames init _ (last.tlsFrame ++ rest) hinit (.start (d := tlsDecoder))
    refine ⟨last.tlsFrame ++ rest, [], last, rest, err, ?_, trivial,
      takePacket_tlsFrame (hlast last (List.mem_singleton_self last)) rest, herror⟩
    rw [List.append_nil]
    simpa using hr

/-! ### The PTY stream -/

theorem ptyDecoder_separate : ptyDecoder.Separate where
  empty := show ptyPull [] = _ by decide
  last := by
    intro buf b packet left hbuf h
    change ptyPull buf = _ at hbuf
    change ptyPull (buf ++ [b]) = _ at h
    show ptyPull left = _
    rcases ptyPull_cases (buf ++ [b]) with ⟨hnone, -⟩ | ⟨s, len, hd, hp⟩
    · rw [hnone] at h
      cases h
    · have hbounds := hd.bounds
      rw [List.length_append, List.length_singleton] at hbounds
      have hend : s + len = buf.length := by
        by_contra hne
        have hinside := hd.of_append (by omega)
        rcases ptyPull_cases buf with ⟨-, hfind⟩ | ⟨s', len', hd', hp'⟩
        · rw [findFrame_eq_ok_iff.mpr hinside] at hfind
          cases hfind
        · rw [hp'] at hbuf
          split at hbuf <;> cases hbuf
      have hflag : b = flag := by
        obtain ⟨rest, hclosed⟩ := hd.closed
        rw [hend, List.drop_left' rfl, List.cons.injEq] at hclosed
        exact hclosed.1
      rw [hp, hend] at h
      split at h
      · cases h
      · cases h
        rw [List.drop_left' rfl, hflag]
        decide
/-- The loop fails where the drain does. -/
theorem PppdPtyDecoder.pushLoop_error (buffer : List UInt8) :
    ∀ consumedUntil packets err, ptyDecoder.drain (buffer.drop consumedUntil) = .error err →
      PppdPtyDecoder.pushLoop buffer packets consumedUntil = .error err := by
  intro c
  induction hn : buffer.length - c using Nat.strong_induction_on generalizing c with
  | _ n ih =>
    intro packets err h
    rcases PppdPtyDecoder.pushLoop_step buffer packets c with
      ⟨hp, -⟩ | ⟨err', hp, hloop⟩ | ⟨packet, stop, hlt, hle, hp, hloop⟩
    · rw [Decoder.drain_none hp] at h
      cases h
    · rw [Decoder.drain_error hp] at h
      cases h
      exact hloop
    · rw [hloop]
      rw [Decoder.drain_some hp] at h
      refine ih _ (by omega) stop rfl _ err ?_
      cases hr : ptyDecoder.drain (buffer.drop stop) with
      | ok p => rw [hr] at h; cases h
      | error err' => rw [hr] at h; exact h

/-- A push that stays within the buffer limit fails where the drain does. -/
theorem pushBytes_error {decoder : PppdPtyDecoder} {bytes : List UInt8} {err : OpenfortivpnError}
    (hfit : decoder.bufferedLen + bytes.length ≤ maxPtyBuffer)
    (h : ptyDecoder.drain (decoder.buffer ++ bytes) = .error err) :
    (decoder.pushBytes bytes).1 = .error err := by
  have hloop := PppdPtyDecoder.pushLoop_error (decoder.buffer ++ bytes) 0 [] err h
  unfold PppdPtyDecoder.bufferedLen at hfit
  unfold PppdPtyDecoder.pushBytes
  rw [if_neg (by omega)]
  simp only [hloop]

/-- The first frame of the buffer, and what `decode` returns for it. -/
def FirstFrame (buffer : List UInt8) (s len : ℕ) (decoded : Result (List UInt8)) : Prop :=
  Delimited buffer 0 s len ∧ decode ((buffer.take (s + len)).drop s) = decoded

/-- What stands behind valid frames, each of which fits into the buffer: the rest of the stream from
the closing flag of the last of them. -/
inductive BehindFrames (stream : List UInt8) : List UInt8 → Prop
  | start : BehindFrames stream stream
  | frame {rest data : List UInt8} {s len : ℕ} : BehindFrames stream rest →
      FirstFrame rest s len (.ok data) → s + len + 1 ≤ maxPtyBuffer →
      BehindFrames stream (rest.drop (s + len))

/-- A valid frame stands right before a corrupt one, and the buffer has room for both. -/
def PtyFrameBeforeCorrupt (stream : List UInt8) : Prop :=
  ∃ (rest data : List UInt8) (s len s' len' : ℕ) (err : OpenfortivpnError), BehindFrames stream rest ∧
    FirstFrame rest s len (.ok data) ∧ FirstFrame (rest.drop (s + len)) s' len' (.error err) ∧
    s + len + s' + len' + 1 ≤ maxPtyBuffer

theorem FirstFrame.append {buffer : List UInt8} {s len : ℕ} {decoded : Result (List UInt8)}
    (h : FirstFrame buffer s len decoded) (more : List UInt8) :
    FirstFrame (buffer ++ more) s len decoded := by
  refine ⟨h.1.append more, ?_⟩
  have hb := h.1.bounds
  rw [List.take_append_of_le_length hb.2.2.le]
  exact h.2

theorem FirstFrame.of_append {buffer more : List UInt8} {s len : ℕ} {decoded : Result (List UInt8)}
    (h : FirstFrame (buffer ++ more) s len decoded) (hlt : s + len < buffer.length) :
    FirstFrame buffer s len decoded := by
  refine ⟨h.1.of_append hlt, ?_⟩
  have hdec := h.2
  rwa [List.take_append_of_le_length hlt.le] at hdec

theorem ptyPull_some_iff {buffer left : List UInt8} {packet : PppPacket} :
    ptyPull buffer = .ok (some (packet, left)) ↔
      ∃ s len, FirstFrame buffer s len (.ok packet.data) ∧ left = buffer.drop (s + len) := by
  constructor
  · intro h
    rcases ptyPull_cases buffer with ⟨hnone, -⟩ | ⟨s, len, hd, hp⟩
    · rw [hnone] at h
      cases h
    · rw [hp] at h
      split at h
      · cases h
      · rename_i data hdec
        cases h
        exact ⟨s, len, ⟨hd, hdec⟩, rfl⟩
  · rintro ⟨s, len, ⟨hd, hdec⟩, rfl⟩
    simp only [ptyPull, findFrame_eq_ok_iff.mpr hd, hdec]

theorem ptyPull_error_iff {buffer : List UInt8} {err : OpenfortivpnError} :
    ptyPull buffer = .error err ↔ ∃ s len, FirstFrame buffer s len (.error err) := by
  constructor
  · intro h
    rcases ptyPull_cases buffer with ⟨hnone, -⟩ | ⟨s, len, hd, hp⟩
    · rw [hnone] at h
      cases h
    · rw [hp] at h
      split at h
      · rename_i hdec
        cases h
        exact ⟨s, len, hd, hdec⟩
      · cases h
  · rintro ⟨s, len, hd, hdec⟩
    simp only [ptyPull, findFrame_eq_ok_iff.mpr hd, hdec]

theorem receives_pty_iff {stream b : List UInt8} :
    ptyDecoder.Receives (· ≤ maxPtyBuffer) stream b ↔ BehindFrames stream b := by
  constructor
  · intro h
    induction h with
    | start => exact .start
    | @value x y left packet _ hfit hp ih =>
      obtain ⟨s, len, hframe, rfl⟩ := ptyPull_some_iff.mp hp
      have hb := hframe.1.bounds
      rw [← List.drop_append_of_le_length hb.2.2.le]
      exact .frame ih (hframe.append y) (by omega)
  · intro h
    induction h with
    | start => exact .start
    | @frame rest data s len _ hframe hfit ih =>
      -- up to the closing flag
      have hb := hframe.1.bounds
      have hsplit := List.take_append_drop (s + len + 1) rest
      have hlen : (rest.take (s + len + 1)).length = s + len + 1 := List.length_take_of_le hb.2.2
      rw [← hsplit] at hframe ih
      have hfront := hframe.of_append (by omega)
      rw [← hsplit, List.drop_append_of_le_length (by omega)]
      exact ih.value (by omega) (ptyPull_some_iff.mpr ⟨s, len, hfront, rfl⟩ : ptyPull _ = .ok (some (⟨data⟩, _)))

theorem pty_collides_iff (stream : List UInt8) :
    ptyDecoder.Collides (· ≤ maxPtyBuffer) stream ↔ PtyFrameBeforeCorrupt stream := by
  constructor
  · rintro ⟨x, y, packet, left, err, hr, hfit, hp, herror⟩
    obtain ⟨s, len, hframe, rfl⟩ := ptyPull_some_iff.mp hp
    obtain ⟨s', len', hbad⟩ := ptyPull_error_iff.mp herror
    have hb := hframe.1.bounds
    have hb' := hbad.1.bounds
    rw [List.length_drop] at hb'
    refine ⟨x ++ y, packet.data, s, len, s', len', err, receives_pty_iff.mp hr, hframe.append y, ?_,
      by omega⟩
    rw [List.drop_append_of_le_length hb.2.2.le]
    exact hbad.append y
  · rintro ⟨rest, data, s, len, s', len', err, hr, hframe, hbad, hfit⟩
    have hb' := hbad.1.bounds
    rw [List.length_drop] at hb'
    -- up to the closing flag of the corrupt frame
    have hsplit := List.take_append_drop (s + len + s' + len' + 1) rest
    have hlen : (rest.take (s + len + s' + len' + 1)).length = s + len + s' + len' + 1 :=
      List.length_take_of_le (by omega)
    rw [← hsplit] at hr hframe hbad
    rw [List.drop_append_of_le_length (by omega)] at hbad
    exact ⟨_, _, ⟨data⟩, _, err, receives_pty_iff.mpr hr, by omega,
      ptyPull_some_iff.mpr ⟨s, len, hframe.of_append (by omega), rfl⟩,
      ptyPull_error_iff.mpr ⟨s', len', hbad.of_append (by rw [List.length_drop]; omega)⟩⟩

/-! ### Chunks -/

/-- Every way of cutting the stream delivers the same packets up to the first error. -/
def TlsCutsAgree (stream : List UInt8) : Prop :=
  ∀ chunks chunks' : List (List UInt8), chunks.flatten = stream → chunks'.flatten = stream →
    delivered TlsPacketStreamDecoder.pushBytes .new chunks =
      delivered TlsPacketStreamDecoder.pushBytes .new chunks'

/-- Every push up to the first error stays within the buffer limit. -/
def WithinLimit (chunks : List (List UInt8)) : Prop :=
  UpToError PppdPtyDecoder.pushBytes
    (fun decoder chunk => decoder.bufferedLen + chunk.length ≤ maxPtyBuffer) .new chunks

/-- Every way of cutting the stream within the buffer limit delivers the same packets up to the first
error. -/
def PtyCutsAgree (stream : List UInt8) : Prop :=
  ∀ chunks chunks' : List (List UInt8), chunks.flatten = stream → chunks'.flatten = stream →
    WithinLimit chunks → WithinLimit chunks' →
    delivered PppdPtyDecoder.pushBytes .new chunks = delivered PppdPtyDecoder.pushBytes .new chunks'

theorem tlsDecoder_within : ∀ (chunks : List (List UInt8)) (buf : List UInt8),
    tlsDecoder.Within (fun _ => True) buf chunks
  | [], _ => trivial
  | chunk :: chunks, buf => by
    refine ⟨trivial, ?_⟩
    split
    · trivial
    · exact tlsDecoder_within chunks _

theorem tls_delivered (chunks : List (List UInt8)) :
    delivered TlsPacketStreamDecoder.pushBytes .new chunks = tlsDecoder.deliver [] chunks := by
  refine (@delivered_eq _ _ _ _ TlsPacketStreamDecoder.pushBytes tlsDecoder
    TlsPacketStreamDecoder.buffer (fun _ => True) ?_ ?_ chunks .new).2 (tlsDecoder_within chunks _)
  · intro s c vals left _ h
    simp [TlsPacketStreamDecoder.pushBytes, TlsPacketStreamDecoder.pushLoop_eq _ [] _ _ h]
  · intro s c err _ h
    exact ⟨err, TlsPacketStreamDecoder.pushLoop_error _ [] err h⟩

theorem pty_delivered (chunks : List (List UInt8)) :
    (WithinLimit chunks ↔ ptyDecoder.Within (· ≤ maxPtyBuffer) [] chunks) ∧
      (ptyDecoder.Within (· ≤ maxPtyBuffer) [] chunks →
        delivered PppdPtyDecoder.pushBytes .new chunks = ptyDecoder.deliver [] chunks) := by
  have hlen : ∀ (s : PppdPtyDecoder) (c : List UInt8),
      (s.buffer ++ c).length ≤ maxPtyBuffer ↔ s.bufferedLen + c.length ≤ maxPtyBuffer := by
    intro s c
    rw [List.length_append]
    rfl
  have h := @delivered_eq _ _ _ _ PppdPtyDecoder.pushBytes ptyDecoder PppdPtyDecoder.buffer
    (· ≤ maxPtyBuffer)
    (fun hfit hd => pushBytes_of_drain ((hlen _ _).mp hfit) hd)
    (fun hfit hd => ⟨_, pushBytes_error ((hlen _ _).mp hfit) hd⟩) chunks .new
  simp only [hlen] at h
  exact h

/-- A stream no longer than the limit can be cut anywhere. -/
theorem withinLimit_of_length {chunks : List (List UInt8)}
    (h : chunks.flatten.length ≤ maxPtyBuffer) : WithinLimit chunks :=
  (pty_delivered chunks).1.mpr (Decoder.within_of_fits (fun hle h => hle.trans h) chunks h)

/-- **When the chunks of a stream do not show.**  Every cut delivers the same packets up to the first
error exactly when no valid frame stands right before a corrupt one; in the PTY stream such frames do
no harm where the buffer has no room for both. -/
theorem cuts_agree_iff (stream : List UInt8) :
    (TlsCutsAgree stream ↔ ¬ FrameBeforeCorrupt stream) ∧
      (PtyCutsAgree stream ↔ ¬ PtyFrameBeforeCorrupt stream) := by
  constructor
  · rw [← tls_collides_iff, ← Decoder.deliver_same_iff (fun _ _ => trivial) tlsDecoder_stable
      tlsDecoder_separate stream]
    unfold TlsCutsAgree
    simp only [tls_delivered, tlsDecoder_within, true_implies]
  · rw [← pty_collides_iff, ← Decoder.deliver_same_iff (fun hle h => hle.trans h) ptyDecoder_stable
      ptyDecoder_separate stream]
    constructor
    · intro h cs cs' h1 h2 hw hw'
      rw [← (pty_delivered cs).2 hw, ← (pty_delivered cs').2 hw']
      exact h cs cs' h1 h2 ((pty_delivered cs).1.mpr hw) ((pty_delivered cs').1.mpr hw')
    · intro h cs cs' h1 h2 hw hw'
      rw [(pty_delivered cs).1] at hw
      rw [(pty_delivered cs').1] at hw'
      rw [(pty_delivered cs).2 hw, (pty_delivered cs').2 hw']
      exact h cs cs' h1 h2 hw hw'

/-- A frame of one byte and a corrupt one behind it, in one chunk and in two. -/
theorem not_all_cuts_agree :
    (¬ ∀ stream, TlsCutsAgree stream) ∧ ¬ ∀ stream, PtyCutsAgree stream := by
  constructor
  · intro h
    have hdiffer := h ([0x00, 0x07, 0x50, 0x50, 0x00, 0x01, 0x45] ++ [0, 0, 0, 0, 0, 0])
      [[0x00, 0x07, 0x50, 0x50, 0x00, 0x01, 0x45, 0, 0, 0, 0, 0, 0]]
      [[0x00, 0x07, 0x50, 0x50, 0x00, 0x01, 0x45], [0, 0, 0, 0, 0, 0]] rfl rfl
    exact absurd hdiffer (by decide +kernel)
  · intro h
    have hdiffer := h ([0x7e, 0xff, 0x7d, 0x23, 0x45, 0x7d, 0xde, 0x3f, 0x7e] ++ [0x01, 0x7e])
      [[0x7e, 0xff, 0x7d, 0x23, 0x45, 0x7d, 0xde, 0x3f, 0x7e, 0x01, 0x7e]]
      [[0x7e, 0xff, 0x7d, 0x23, 0x45, 0x7d, 0xde, 0x3f, 0x7e], [0x01, 0x7e]] rfl rfl
      (withinLimit_of_length (by decide)) (withinLimit_of_length (by decide))
    exact absurd hdiffer (by decide +kernel)

end OpenfortivpnRs.Tunnel
