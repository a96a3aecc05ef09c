import OpenfortivpnRs.Tunnel.Forward

/-!
# Packets of the PTY fit the tunnel

A frame in a buffer of 64 KiB has two flags around it, and a header and an FCS that are not part of
its packet, so the packet has at most 65529 bytes (`Returned.length_le`), which is what the 16-bit
length of a frame of the tunnel has room for.  Without the header three more bytes fit, so that the
only packets the forwarding loop can fail on are those of frames without it.
-/

namespace OpenfortivpnRs.Tunnel

open Proxy Hdlc

/-- The frames the loop of `push_bytes` finds from `consumedUntil` on. -/
def framesFrom (buffer : List UInt8) (consumedUntil : ℕ) : List (List UInt8) :=
  match h : findFrame buffer consumedUntil with
  | (.ok frameLen, frameStart) =>
    have := (findFrame_eq_ok_iff.mp h).bounds
    (buffer.take (frameStart + frameLen)).drop frameStart :: framesFrom buffer (frameStart + frameLen)
  | (.error _, _) => []
termination_by buffer.length - consumedUntil

theorem framesFrom_found {buffer : List UInt8} {c s len : ℕ} (h : findFrame buffer c = (.ok len, s)) :
    framesFrom buffer c = (buffer.take (s + len)).drop s :: framesFrom buffer (s + len) := by
  rw [framesFrom]; split <;> simp_all

theorem framesFrom_none {buffer : List UInt8} {c s : ℕ} {err : OpenfortivpnError}
    (h : findFrame buffer c = (.error err, s)) : framesFrom buffer c = [] := by
  rw [framesFrom]; split <;> simp_all

/-- The packet is what a frame decodes to. -/
def Decodes (frame : List UInt8) (packet : PppPacket) : Prop := decode frame = .ok packet.data

/-- **The loop returns one packet for each frame it finds**, in their order. -/
theorem pushLoop_frames {buffer : List UInt8} {c : ℕ} {packets out : List PppPacket} {stop : ℕ}
    (h : PppdPtyDecoder.pushLoop buffer packets c = .ok (out, stop)) :
    ∃ more, out = packets ++ more ∧ List.Forall₂ Decodes (framesFrom buffer c) more := by
  induction hn : buffer.length - c using Nat.strong_induction_on generalizing c packets with
  | _ n ih =>
    rcases findFrame_cases buffer c with ⟨len, s, hfind⟩ | hnone
    · have hb := (findFrame_eq_ok_iff.mp hfind).bounds
      cases hdec : decode ((buffer.take (s + len)).drop s) with
      | error err =>
        rw [PppdPtyDecoder.pushLoop_bad packets hfind hdec] at h
        cases h
      | ok data =>
        rw [PppdPtyDecoder.pushLoop_found packets hfind hdec] at h
        obtain ⟨more, rfl, hmore⟩ := ih _ (by omega) h rfl
        refine ⟨⟨data⟩ :: more, by rw [List.append_assoc]; rfl, ?_⟩
        rw [framesFrom_found hfind]
        exact .cons hdec hmore
    · rw [PppdPtyDecoder.pushLoop_none packets hnone] at h
      cases h
      rw [framesFrom_none hnone]
      exact ⟨[], (List.append_nil _).symm, .nil⟩

/-- A frame lies between two flags of the buffer. -/
theorem length_of_mem_framesFrom {buffer frame : List UInt8} {c : ℕ} (h : frame ∈ framesFrom buffer c) :
    frame.length + 2 ≤ buffer.length := by
  induction hn : buffer.length - c using Nat.strong_induction_on generalizing c with
  | _ n ih =>
    rcases findFrame_cases buffer c with ⟨len, s, hfind⟩ | hnone
    · have hb := (findFrame_eq_ok_iff.mp hfind).bounds
      rw [framesFrom_found hfind] at h
      rcases List.mem_cons.mp h with rfl | h
      · rw [List.length_drop, List.length_take]
        omega
      · exact ih _ (by omega) h rfl
    · rw [framesFrom_none hnone] at h
      cases h

/-- What decodes is shorter than its frame: by the FCS, and by the header if there is one. -/
theorem Decodes.length_le {frame : List UInt8} {packet : PppPacket} (h : Decodes frame packet) :
    packet.data.length + 2 + (if hasAddressControlFields frame then 3 else 0) ≤ frame.length := by
  obtain ⟨u, hun, hlen, hthree, -, hdata⟩ := content_of_decode h
  have hle := length_unescape_le hun
  rw [hdata, List.length_take]
  rw [List.length_nil, List.length_drop] at hle
  split at hle <;> rename_i hheader <;> simp only [hheader, if_true, Bool.false_eq_true, if_false] <;> omega

/-! ### One push -/

/-- A push of `bytes` returns `packet`, and made it from `frame`. -/
def Returned (decoder : PppdPtyDecoder) (bytes frame : List UInt8) (packet : PppPacket) : Prop :=
  ∃ packets, (decoder.pushBytes bytes).1 = .ok packets ∧
    (frame, packet) ∈ (framesFrom (decoder.buffer ++ bytes) 0).zip packets

theorem pushBytes_frames {decoder : PppdPtyDecoder} {bytes : List UInt8} {packets : List PppPacket}
    (h : (decoder.pushBytes bytes).1 = .ok packets) :
    (decoder.buffer ++ bytes).length ≤ maxPtyBuffer ∧
      List.Forall₂ Decodes (framesFrom (decoder.buffer ++ bytes) 0) packets := by
  unfold PppdPtyDecoder.pushBytes at h
  split at h
  · cases h
  · rename_i hfit
    simp only at h
    split at h
    · cases h
    · rename_i out stop hloop
      cases h
      obtain ⟨more, rfl, hmore⟩ := pushLoop_frames hloop
      rw [List.length_append]
      exact ⟨by omega, hmore⟩

/-- **A packet of a frame with the header fits a frame of the tunnel**, whatever was buffered. -/
theorem Returned.length_le {decoder : PppdPtyDecoder} {bytes frame : List UInt8} {packet : PppPacket}
    (h : Returned decoder bytes frame packet) (hheader : hasAddressControlFields frame = true) :
    packet.data.length ≤ 65529 := by
  obtain ⟨packets, hok, hmem⟩ := h
  obtain ⟨hfit, hframes⟩ := pushBytes_frames hok
  have hdecodes : Decodes frame packet := List.forall₂_zip hframes hmem
  have hshort := hdecodes.length_le
  have hflags := length_of_mem_framesFrom (List.of_mem_zip hmem).1
  rw [hheader, if_pos rfl] at hshort
  unfold maxPtyBuffer at hfit
  omega

/-- Each packet a push returns was made from a frame. -/
theorem exists_returned {decoder : PppdPtyDecoder} {bytes : List UInt8} {packets : List PppPacket}
    {packet : PppPacket} (h : (decoder.pushBytes bytes).1 = .ok packets) (hmem : packet ∈ packets) :
    ∃ frame, Returned decoder bytes frame packet := by
  have hlen := (pushBytes_frames h).2.length_eq
  obtain ⟨i, hi, rfl⟩ := List.mem_iff_getElem.mp hmem
  refine ⟨(framesFrom (decoder.buffer ++ bytes) 0)[i], packets, h, ?_⟩
  exact List.mem_iff_getElem.mpr ⟨i, by rw [List.length_zip]; omega, List.getElem_zip⟩

/-! ### The forwarding loop -/

namespace Forward

/-- What ended a call of `read_pty_into_tls_queue` with an error: the PTY, its decoder, or a packet
of some frame that could not be encoded. -/
inductive PtyEnd
  | closed
  | io (err : IoError)
  | decoder (err : OpenfortivpnError)
  | packet (frame : List UInt8) (packet : PppPacket)

/-- The call that starts in a state ends with an error for that reason. -/
inductive Forwarder.EndsBy : Forwarder → PtyEnd → Prop
  | closed {f : Forwarder} {pty : TcpStream} (hread : f.pty.read ioBufferSize = (.ok [], pty)) :
      EndsBy f .closed
  | io {f : Forwarder} {err : IoError} {pty : TcpStream}
      (hread : f.pty.read ioBufferSize = (.error err, pty)) (hkind : err.kind ≠ .wouldBlock) :
      EndsBy f (.io err)
  | decoder {f f' : Forwarder} {bytes : List UInt8} {pty : TcpStream} {err : OpenfortivpnError}
      (hread : f.pty.read ioBufferSize = (.ok bytes, pty)) (hbytes : bytes ≠ [])
      (htake : f.takePty bytes pty = (.error err, f')) : EndsBy f (.decoder err)
  | packet {f f' f'' : Forwarder} {bytes frame : List UInt8} {pty : TcpStream} {packets : List PppPacket}
      {packet : PppPacket} {err : OpenfortivpnError}
      (hread : f.pty.read ioBufferSize = (.ok bytes, pty)) (hbytes : bytes ≠ [])
      (htake : f.takePty bytes pty = (.ok packets, f'))
      (hqueue : f'.queueForTls packets = (.error err, f''))
      (hframe : Returned f.ptyDecoder bytes frame packet) (hencode : packet.encodeForTls = .error err) :
      EndsBy f (.packet frame packet)
  | later {f f' f'' : Forwarder} {bytes : List UInt8} {pty : TcpStream} {packets : List PppPacket}
      {reason : PtyEnd} (hread : f.pty.read ioBufferSize = (.ok bytes, pty)) (hbytes : bytes ≠ [])
      (htake : f.takePty bytes pty = (.ok packets, f'))
      (hqueue : f'.queueForTls packets = (.ok (), f'')) (h : EndsBy f'' reason) : EndsBy f reason

/-- Queueing fails on a packet that cannot be encoded, and on nothing else. -/
theorem queueForTls_error {packets : List PppPacket} {f f' : Forwarder} {err : OpenfortivpnError}
    (h : f.queueForTls packets = (.error err, f')) :
    ∃ packet ∈ packets, packet.encodeForTls = .error err := by
  induction packets generalizing f with
  | nil => cases h
  | cons packet packets ih =>
    rw [Forwarder.queueForTls] at h
    split at h
    · rename_i e herr
      cases h
      exact ⟨packet, List.mem_cons_self .., herr⟩
    · obtain ⟨p, hp, hencode⟩ := ih h
      exact ⟨p, List.mem_cons_of_mem _ hp, hencode⟩

/-- Every error of a call has one of the reasons. -/
theorem exists_endsBy {f f' : Forwarder} {err : OpenfortivpnError}
    (h : f.readPtyIntoTlsQueue = (.error err, f')) : ∃ reason, f.EndsBy reason := by
  induction hn : f.pty.reads.length using Nat.strong_induction_on generalizing f with
  | _ n ih =>
    rw [Forwarder.readPtyIntoTlsQueue] at h
    split at h
    · rename_i bytes pty hread
      split at h
      · rename_i hempty
        rw [hempty] at hread
        exact ⟨_, .closed hread⟩
      rename_i hbytes
      split at h
      · rename_i e f1 htake
        exact ⟨_, .decoder hread hbytes htake⟩
      rename_i packets f1 htake
      split at h
      · rename_i e f2 hqueue
        obtain ⟨packet, hmem, hencode⟩ := queueForTls_error hqueue
        have hok : (f.ptyDecoder.pushBytes bytes).1 = .ok packets := congrArg Prod.fst htake
        obtain ⟨frame, hframe⟩ := exists_returned hok hmem
        exact ⟨_, .packet hread hbytes htake hqueue hframe hencode⟩
      · rename_i f2 hqueue
        have hlt := Forwarder.readPty_lt hread htake hqueue
        obtain ⟨reason, hreason⟩ := ih _ (by omega) h rfl
        exact ⟨reason, .later hread hbytes htake hqueue hreason⟩
    · rename_i e pty hread
      have herr := (Prod.mk.inj h).1
      split at herr
      · cases herr
      · rename_i hkind
        exact ⟨_, .io hread hkind⟩

/-- A packet that ends a call does not come from a frame with the header. -/
theorem Forwarder.EndsBy.header {f : Forwarder} {frame : List UInt8} {packet : PppPacket}
    (h : f.EndsBy (.packet frame packet)) : hasAddressControlFields frame = false := by
  generalize hr : PtyEnd.packet frame packet = reason at h
  induction h with
  | closed => cases hr
  | io => cases hr
  | decoder => cases hr
  | packet _ _ _ _ hframe hencode =>
    cases hr
    by_contra hheader
    rw [Bool.not_eq_false] at hheader
    rw [PppPacket.encodeForTls_eq (hframe.length_le hheader)] at hencode
    cases hencode
  | later _ _ _ _ _ ih => exact ih hr

/-- **Every packet from the PTY fits a frame of the tunnel**, if its frame carries the address and
control header: it has at most 65529 bytes and is encoded, and no call of the forwarding loop ends by
it; every call that ends with an error has another reason, or a packet of a frame without header. -/
theorem pty_packets_fit :
    (∀ decoder bytes frame packet, Returned decoder bytes frame packet →
      hasAddressControlFields frame = true →
      packet.data.length ≤ 65529 ∧ ∃ out, packet.encodeForTls = .ok out) ∧
    (∀ (f : Forwarder) frame packet, f.EndsBy (.packet frame packet) →
      hasAddressControlFields frame = false) ∧
    ∀ (f f' : Forwarder) err, f.readPtyIntoTlsQueue = (.error err, f') → ∃ reason, f.EndsBy reason := by
  refine ⟨fun decoder bytes frame packet h hheader => ?_, fun f frame packet h => h.header,
    fun f f' err h => exists_endsBy h⟩
  have hle := h.length_le hheader
  exact ⟨hle, _, PppPacket.encodeForTls_eq hle⟩

/-- The frame of a packet of two bytes. -/
theorem pty_packets_fit_two : ([0x80, 0x21] : List UInt8).length ≤ 65529 :=
  (pty_packets_fit.1 .new (HdlcCodec.new.encode [0x80, 0x21]).1 (body [0x80, 0x21]) ⟨[0x80, 0x21]⟩
    ⟨[⟨[0x80, 0x21]⟩], by decide +kernel, by decide +kernel⟩ (by decide +kernel)).1

end Forward

end OpenfortivpnRs.Tunnel
