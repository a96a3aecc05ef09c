import OpenfortivpnRs.Hdlc.Search
import OpenfortivpnRs.Hdlc.Transparency
import OpenfortivpnRs.Lib.Incremental
import OpenfortivpnRs.Tunnel.Packet

/-!
# The PTY packet stream (`tunnel/io.rs`)

`PppdPtyDecoder` collects the bytes pppd writes and decodes the HDLC frames in them.  Its loop walks
an index over the buffer; seen from the bytes behind the index it is the drain of an incremental
decoder (`pushLoop_eq`) that later bytes do not disturb (`ptyDecoder_stable`).  Frames share the
flag between them: what a drain leaves starts with the closing flag of the last frame.
-/

namespace OpenfortivpnRs.Tunnel

open Lib.Incremental Hdlc

def maxPtyBuffer : ℕ := 64 * 1024

def encodePacketForPty (codec : HdlcCodec) (packet : PppPacket) : List UInt8 × HdlcCodec :=
  codec.encode packet.data

structure PppdPtyDecoder where
  buffer : List UInt8
  deriving DecidableEq, Repr

namespace PppdPtyDecoder

def new : PppdPtyDecoder := ⟨[]⟩

/-- The loop of `push_bytes`: the packets so far and `consumed_until`. -/
def pushLoop (buffer : List UInt8) (packets : List PppPacket) (consumedUntil : ℕ) :
    Result (List PppPacket × ℕ) :=
  match h : findFrame buffer consumedUntil with
  | (.ok frameLen, frameStart) =>
    have := (findFrame_eq_ok_iff.mp h).bounds
    let frameEnd := frameStart + frameLen
    match decode ((buffer.take frameEnd).drop frameStart) with
    | .error err => .error err
    | .ok data => pushLoop buffer (packets ++ [⟨data⟩]) frameEnd
  | (.error .hdlcNoFrameFound, _) => .ok (packets, consumedUntil)
  | (.error err, _) => .error err
termination_by buffer.length - consumedUntil

theorem pushLoop_none {buffer : List UInt8} {c s : ℕ} (packets : List PppPacket)
    (h : findFrame buffer c = (.error .hdlcNoFrameFound, s)) :
    pushLoop buffer packets c = .ok (packets, c) := by
  rw [pushLoop]; split <;> simp_all

theorem pushLoop_found {buffer data : List UInt8} {c s len : ℕ} (packets : List PppPacket)
    (h : findFrame buffer c = (.ok len, s))
    (hdec : decode ((buffer.take (s + len)).drop s) = .ok data) :
    pushLoop buffer packets c = pushLoop buffer (packets ++ [⟨data⟩]) (s + len) := by
  rw [pushLoop]; split <;> simp_all

theorem pushLoop_bad {buffer : List UInt8} {c s len : ℕ} {err : OpenfortivpnError}
    (packets : List PppPacket) (h : findFrame buffer c = (.ok len, s))
    (hdec : decode ((buffer.take (s + len)).drop s) = .error err) :
    pushLoop buffer packets c = .error err := by
  rw [pushLoop]; split <;> simp_all

/-- `push_bytes`. -/
def pushBytes (decoder : PppdPtyDecoder) (bytes : List UInt8) :
    Result (List PppPacket) × PppdPtyDecoder :=
  if decoder.buffer.length + bytes.length > maxPtyBuffer then
    (.error (.pppd "pppd pty buffer exceeded maximum size"), decoder)
  else
    let buffer := decoder.buffer ++ bytes
    match pushLoop buffer [] 0 with
    | .error err => (.error err, { decoder with buffer := buffer })
    | .ok (packets, consumedUntil) =>
      let buffer := if consumedUntil > 0 then buffer.drop consumedUntil else buffer
      (.ok packets, { decoder with buffer := buffer })

def bufferedLen (decoder : PppdPtyDecoder) : ℕ := decoder.buffer.length

end PppdPtyDecoder

/-! ### The loop as an incremental decoder -/

/-- One turn of the loop, on the bytes behind `consumed_until`. -/
def ptyPull (buffer : List UInt8) : Result (Option (PppPacket × List UInt8)) :=
  match findFrame buffer 0 with
  | (.ok len, s) =>
    match decode ((buffer.take (s + len)).drop s) with
    | .error err => .error err
    | .ok data => .ok (some (⟨data⟩, buffer.drop (s + len)))
  | (.error _, _) => .ok none

/-- A turn that does not end the loop has found a frame. -/
theorem ptyPull_cases (buffer : List UInt8) :
    ptyPull buffer = .ok none ∧ findFrame buffer 0 = (.error .hdlcNoFrameFound, 0) ∨
      ∃ s len, Delimited buffer 0 s len ∧
        ptyPull buffer = match decode ((buffer.take (s + len)).drop s) with
          | .error err => .error err
          | .ok data => .ok (some (⟨data⟩, buffer.drop (s + len))) := by
  rcases findFrame_cases buffer 0 with ⟨len, s, h⟩ | h
  · exact .inr ⟨s, len, findFrame_eq_ok_iff.mp h, by rw [ptyPull, h]⟩
  · exact .inl ⟨by rw [ptyPull, h], h⟩

/-- The packets of the PTY stream as values of an incremental decoder. -/
def ptyDecoder : Decoder UInt8 OpenfortivpnError PppPacket where
  pull := ptyPull
  shrinks := by
    intro buf packet rest h
    rcases ptyPull_cases buf with ⟨hn, -⟩ | ⟨s, len, hd, hp⟩
    · rw [hn] at h; cases h
    · have := hd.bounds
      rw [hp] at h
      split at h <;> cases h
      rw [List.length_drop]; omega

/-- Bytes behind a delimited frame change nothing about it. -/
theorem ptyPull_append {buffer : List UInt8} {s len : ℕ} (hd : Delimited buffer 0 s len)
    (more : List UInt8) :
    ptyPull (buffer ++ more) = match ptyPull buffer with
      | .error err => .error err
      | .ok none => .ok none
      | .ok (some (packet, rest)) => .ok (some (packet, rest ++ more)) := by
  have hb := hd.bounds
  have htake : (buffer ++ more).take (s + len) = buffer.take (s + len) :=
    List.take_append_of_le_length (by omega)
  have hdrop : (buffer ++ more).drop (s + len) = buffer.drop (s + len) ++ more :=
    List.drop_append_of_le_length (by omega)
  simp only [ptyPull, findFrame_eq_ok_iff.mpr hd, findFrame_eq_ok_iff.mpr (hd.append more), htake, hdrop]
  split <;> simp_all

/-- What is decoded from the bytes so far, later bytes do not change. -/
theorem ptyDecoder_stable : ptyDecoder.Stable where
  value := by
    intro buf packet rest more h
    change ptyPull buf = _ at h
    rcases ptyPull_cases buf with ⟨hn, -⟩ | ⟨s, len, hd, -⟩
    · rw [hn] at h; cases h
    · show ptyPull (buf ++ more) = _
      rw [ptyPull_append hd, h]
  error := by
    intro buf err more h
    change ptyPull buf = _ at h
    rcases ptyPull_cases buf with ⟨hn, -⟩ | ⟨s, len, hd, -⟩
    · rw [hn] at h; cases h
    · show ptyPull (buf ++ more) = _
      rw [ptyPull_append hd, h]

/-- One turn of the loop is one pull from the bytes behind `consumed_until`. -/
theorem PppdPtyDecoder.pushLoop_step (buffer : List UInt8) (packets : List PppPacket) (c : ℕ) :
    (ptyDecoder.pull (buffer.drop c) = .ok none ∧
      PppdPtyDecoder.pushLoop buffer packets c = .ok (packets, c)) ∨
    (∃ err, ptyDecoder.pull (buffer.drop c) = .error err ∧
      PppdPtyDecoder.pushLoop buffer packets c = .error err) ∨
    ∃ packet stop, c < stop ∧ stop ≤ buffer.length ∧
      ptyDecoder.pull (buffer.drop c) = .ok (some (packet, buffer.drop stop)) ∧
      PppdPtyDecoder.pushLoop buffer packets c =
        PppdPtyDecoder.pushLoop buffer (packets ++ [packet]) stop := by
  rcases ptyPull_cases (buffer.drop c) with ⟨hp, hf⟩ | ⟨s, len, hd, hp⟩
  · -- no frame is left: the loop breaks
    rcases findFrame_cases buffer c with ⟨len, s, hok⟩ | herr
    · have hdel := findFrame_eq_ok_iff.mp hok
      have hlt := hdel.bounds
      obtain ⟨t, rfl⟩ := Nat.exists_eq_add_of_lt hlt.1
      rw [Nat.add_assoc] at hdel
      rw [findFrame_eq_ok_iff.mpr (Delimited.drop_iff.mpr hdel)] at hf
      cases hf
    · exact .inl ⟨hp, PppdPtyDecoder.pushLoop_none packets herr⟩
  · -- a frame is found at `c + s`
    have hdel := Delimited.drop_iff.mp hd
    have hfind := findFrame_eq_ok_iff.mpr hdel
    have hb := hdel.bounds
    have hslice : (buffer.take (c + s + len)).drop (c + s) =
        ((buffer.drop c).take (s + len)).drop s := by
      rw [← List.drop_drop, List.drop_take, Nat.add_assoc, Nat.add_sub_cancel_left]
    refine .inr ?_
    cases hdec : decode (((buffer.drop c).take (s + len)).drop s) with
    | error err =>
      rw [hdec] at hp
      exact .inl ⟨err, hp, PppdPtyDecoder.pushLoop_bad packets hfind (hslice ▸ hdec)⟩
    | ok data =>
      rw [hdec, List.drop_drop, ← Nat.add_assoc] at hp
      exact .inr ⟨⟨data⟩, c + s + len, by omega, hb.2.2.le, hp,
        PppdPtyDecoder.pushLoop_found packets hfind (hslice ▸ hdec)⟩

/-- **The loop drains.**  From `consumed_until` on, it returns the packets of the drain behind those
it already has, and stops where the drain does. -/
theorem PppdPtyDecoder.pushLoop_eq (buffer : List UInt8) :
    ∀ consumedUntil packets vals left, ptyDecoder.drain (buffer.drop consumedUntil) = .ok (vals, left) →
      ∃ stop, PppdPtyDecoder.pushLoop buffer packets consumedUntil = .ok (packets ++ vals, stop) ∧
        left = buffer.drop stop := by
  intro c
  induction hn : buffer.length - c using Nat.strong_induction_on generalizing c with
  | _ n ih =>
    intro packets vals left h
    rcases PppdPtyDecoder.pushLoop_step buffer packets c with
      ⟨hp, hloop⟩ | ⟨err, hp, -⟩ | ⟨packet, stop, hlt, hle, hp, hloop⟩
    · rw [Decoder.drain_none hp] at h
      cases h
      exact ⟨c, by rw [hloop, List.append_nil], rfl⟩
    · rw [Decoder.drain_error hp] at h
      cases h
    · rcases Decoder.drain_ok_cases h with ⟨hq, -, -⟩ | ⟨packet', rest, more, hq, hr, rfl⟩
      · rw [hp] at hq
        cases hq
      · rw [hp] at hq
        cases hq
        obtain ⟨stop', hrest, hleft⟩ := ih _ (by omega) stop rfl (packets ++ [packet]) more left hr
        refine ⟨stop', ?_, hleft⟩
        rw [hloop, hrest, List.append_assoc]
        rfl

/-! ### The stream of a list of packets -/

/-- `encode_packet_for_pty` on one packet after another with the same codec. -/
def encodeAll : HdlcCodec → List PppPacket → List UInt8
  | _, [] => []
  | codec, packet :: packets =>
    let (frame, codec) := encodePacketForPty codec packet
    frame ++ encodeAll codec packets

/-- The stream is made of the frames the codec emits. -/
theorem encodeAll_eq_flatten (codec : HdlcCodec) (packets : List PppPacket) :
    encodeAll codec packets = (codec.frames (packets.map PppPacket.data)).flatten := by
  induction packets generalizing codec with
  | nil => rfl
  | cons p packets ih => simp only [encodeAll, encodePacketForPty, encode_eq, List.map_cons, frames_cons,
      List.flatten_cons, ih]

/-- Behind a flag, each packet adds its body and the flag that closes it. -/
theorem encodeAll_eq (codec : HdlcCodec) (packets : List PppPacket) (h : packets ≠ []) :
    encodeAll codec packets = (if codec.needFlagSequence then [flag] else []) ++
      packets.flatMap fun p => body p.data ++ [flag] := by
  induction packets generalizing codec with
  | nil => exact absurd rfl h
  | cons p packets ih =>
    simp only [encodeAll, encodePacketForPty, encode_eq, List.flatMap_cons, List.append_assoc]
    rcases packets with _ | ⟨q, packets⟩
    · simp [encodeAll]
    · rw [ih ⟨false⟩ (by simp)]
      simp

/-- A flag followed by the bodies of non-empty packets drains to the packets and leaves the last
closing flag. -/
theorem drain_bodies {packets : List PppPacket} (h : ∀ p ∈ packets, p.data ≠ []) :
    ptyDecoder.drain (flag :: packets.flatMap fun p => body p.data ++ [flag]) =
      .ok (packets, [flag]) := by
  induction packets with
  | nil =>
    refine Decoder.drain_none ?_
    show ptyPull [flag] = _
    decide
  | cons p packets ih =>
    have hp := h p (by simp)
    have hd := delimited_cons (packets.flatMap fun p => body p.data ++ [flag]) (body_ne_nil p.data)
      (flag_not_mem_body p.data)
    have hpull : ptyPull (flag :: (body p.data ++ flag :: packets.flatMap fun p => body p.data ++ [flag])) =
        .ok (some (p, flag :: packets.flatMap fun p => body p.data ++ [flag])) := by
      have htake : ((flag :: (body p.data ++ flag :: packets.flatMap fun p => body p.data ++ [flag])).take
          (1 + (body p.data).length)).drop 1 = body p.data := by
        rw [Nat.add_comm, List.take_succ_cons, List.drop_one, List.tail_cons, List.take_left' rfl]
      have hdrop : (flag :: (body p.data ++ flag :: packets.flatMap fun p => body p.data ++ [flag])).drop
          (1 + (body p.data).length) = flag :: packets.flatMap fun p => body p.data ++ [flag] := by
        rw [Nat.add_comm, List.drop_succ_cons, List.drop_left' rfl]
      simp only [ptyPull, findFrame_eq_ok_iff.mpr hd, htake, hdrop, decode_body hp]
    have hshape : (flag :: (p :: packets).flatMap fun p => body p.data ++ [flag]) =
        flag :: (body p.data ++ flag :: packets.flatMap fun p => body p.data ++ [flag]) := by
      simp
    rw [hshape]
    exact Decoder.drain_cons hpull (ih fun q hq => h q (List.mem_cons_of_mem _ hq))

/-! ### Runs -/

/-- A push that stays within the buffer limit drains the buffer. -/
theorem pushBytes_of_drain {decoder : PppdPtyDecoder} {bytes left : List UInt8} {vals : List PppPacket}
    (hfit : decoder.bufferedLen + bytes.length ≤ maxPtyBuffer)
    (h : ptyDecoder.drain (decoder.buffer ++ bytes) = .ok (vals, left)) :
    (decoder.pushBytes bytes).1 = .ok vals ∧ (decoder.pushBytes bytes).2.buffer = left := by
  obtain ⟨stop, hloop, rfl⟩ := PppdPtyDecoder.pushLoop_eq (decoder.buffer ++ bytes) 0 [] vals left h
  unfold PppdPtyDecoder.bufferedLen at hfit
  unfold PppdPtyDecoder.pushBytes
  rw [if_neg (by omega)]
  simp only [hloop, List.nil_append, true_and]
  split
  · rfl
  · have : stop = 0 := by omega
    rw [this, List.drop_zero]

/-- **PTY stream round trip.**  Non-empty packets encoded one after another by a fresh codec, cut in
any way into chunks that never overfill the buffer, are decoded without error to the same packets in
order, and only the closing flag of the last frame stays buffered. -/
theorem pty_stream_round_trip {packets : List PppPacket} {chunks : List (List UInt8)}
    (hne : ∀ p ∈ packets, p.data ≠ [])
    (hcut : chunks.flatten = encodeAll .new packets)
    (hfit : Along PppdPtyDecoder.pushBytes
      (fun decoder chunk => decoder.bufferedLen + chunk.length ≤ maxPtyBuffer) .new chunks) :
    pushAll PppdPtyDecoder.pushBytes .new chunks =
      (.ok packets, ⟨if packets = [] then [] else [flag]⟩) := by
  have hdrain : ptyDecoder.drain chunks.flatten =
      .ok (packets, if packets = [] then [] else [flag]) := by
    by_cases hp : packets = []
    · subst hp
      rw [hcut, if_pos rfl]
      exact Decoder.drain_none (show ptyPull [] = _ by decide)
    · rw [hcut, if_neg hp, encodeAll_eq _ _ hp]
      exact drain_bodies hne
  have hfeed : ptyDecoder.feed PppdPtyDecoder.new.buffer chunks =
      .ok (packets, if packets = [] then [] else [flag]) :=
    ptyDecoder_stable.feed_of_drain (show ptyPull [] = _ by decide) (by simpa [PppdPtyDecoder.new] using hdrain)
  obtain ⟨h1, h2⟩ := pushAll_of_feed PppdPtyDecoder.pushBytes PppdPtyDecoder.buffer _
    pushBytes_of_drain hfit hfeed
  exact Prod.ext h1 (congrArg PppdPtyDecoder.mk h2)

/-- Two packets, cut inside an escape sequence of the first. -/
theorem pty_stream_round_trip_two :
    ∃ first second, first ++ second = encodeAll .new [⟨[0x80, 0x21]⟩, ⟨[0x45]⟩] ∧
      first.length = 7 ∧
      pushAll PppdPtyDecoder.pushBytes .new [first, second] =
        (.ok [⟨[0x80, 0x21]⟩, ⟨[0x45]⟩], ⟨[flag]⟩) :=
  ⟨(encodeAll .new [⟨[0x80, 0x21]⟩, ⟨[0x45]⟩]).take 7, (encodeAll .new [⟨[0x80, 0x21]⟩, ⟨[0x45]⟩]).drop 7,
    List.take_append_drop _ _, by decide,
    pty_stream_round_trip (by decide) (by simp) ⟨by decide, by decide +kernel, trivial⟩⟩

end OpenfortivpnRs.Tunnel
