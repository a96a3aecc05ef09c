import OpenfortivpnRs.Error
import OpenfortivpnRs.Ipv4Addr
import OpenfortivpnRs.Lib.Bytes

/-!
# PPP packets in the TLS tunnel (`tunnel/packet.rs`)

A frame of the tunnel is a header of three big-endian words, the total length, the magic number and
the size of the packet, followed by the packet.  `encodeForTls` and `decodeFromTlsFrame` are inverse
to each other (`decodeFromTlsFrame_tlsFrame`, `tlsFrame_of_decode`).
-/

namespace OpenfortivpnRs.Tunnel

open Lib.Bytes

def fortinetMagic : UInt16 := 0x5050
def headerLen : ℕ := 6

structure PppPacket where
  data : List UInt8
  deriving DecidableEq, Repr

/-- The words of a header fit together: `magic` is right, there is a packet, and `size` is its
length.  The source refuses a header exactly when this fails. -/
def headerFits (total magic size : UInt16) : Prop :=
  ¬ (magic ≠ fortinetMagic ∨ total.toNat < headerLen + 1 ∨ total.toNat - headerLen ≠ size.toNat)

instance (total magic size : UInt16) : Decidable (headerFits total magic size) := by
  unfold headerFits; infer_instance

namespace PppPacket

/-- `encode_for_tls`. -/
def encodeForTls (packet : PppPacket) : Result (List UInt8) :=
  if packet.data.length > 65535 - headerLen then .error .hdlcInvalidFrame
  else
    let total := UInt16.ofNat (headerLen + packet.data.length)
    let size := UInt16.ofNat packet.data.length
    .ok (toBeBytes total ++ toBeBytes fortinetMagic ++ toBeBytes size ++ packet.data)

/-- `decode_from_tls_frame`. -/
def decodeFromTlsFrame (frame : List UInt8) : Result PppPacket :=
  if frame.length < headerLen then .error .hdlcInvalidFrame
  else
    let total := wordAt frame 0
    let magic := wordAt frame 2
    let size := wordAt frame 4
    if ¬ headerFits total magic size then .error .hdlcInvalidFrame
    else if frame.length ≠ total.toNat then .error .hdlcInvalidFrame
    else .ok ⟨frame.drop headerLen⟩

/-- The loop of `ipcp_ipv4_address` at `offset`. -/
def ipcpIpv4AddressLoop (p : List UInt8) (stop offset : ℕ) : Option Ipv4Addr :=
  if offset + 2 ≤ stop then
    let optionType := p.getD offset 0
    let optionLen := (p.getD (offset + 1) 0).toNat
    if optionLen < 2 ∨ offset + optionLen > stop then none
    else if optionType = 0x03 ∧ optionLen = 6 then
      some ⟨p.getD (offset + 2) 0, p.getD (offset + 3) 0, p.getD (offset + 4) 0, p.getD (offset + 5) 0⟩
    else ipcpIpv4AddressLoop p stop (offset + optionLen)
  else none
termination_by stop - offset
decreasing_by rename_i hlen _; omega

/-- `ipcp_ipv4_address`. -/
def ipcpIpv4Address (packet : PppPacket) : Option Ipv4Addr :=
  let p := packet.data
  if p.length < 10 ∨ p.getD 0 0 ≠ 0x80 ∨ p.getD 1 0 ≠ 0x21 then none
  else
    let length := (wordAt p 4).toNat
    if length < 4 ∨ p.length < 2 + length then none
    else ipcpIpv4AddressLoop p (2 + length) 6

/-- The bytes `encodeForTls` produces when it succeeds. -/
def tlsFrame (packet : PppPacket) : List UInt8 :=
  toBeBytes (UInt16.ofNat (headerLen + packet.data.length)) ++ toBeBytes fortinetMagic ++
    toBeBytes (UInt16.ofNat packet.data.length) ++ packet.data

theorem encodeForTls_eq {packet : PppPacket} (h : packet.data.length ≤ 65529) :
    packet.encodeForTls = .ok packet.tlsFrame := by
  unfold encodeForTls
  rw [if_neg (by unfold headerLen; omega)]
  rfl

theorem tlsFrame_length (packet : PppPacket) :
    packet.tlsFrame.length = headerLen + packet.data.length := by
  simp only [tlsFrame, List.length_append, toBeBytes_length, headerLen]

end PppPacket

/-- A packet the transport carries: it is not empty and its frame has a 16-bit length. -/
structure Sendable (packet : PppPacket) : Prop where
  nonempty : 1 ≤ packet.data.length
  fits : packet.data.length ≤ 65529

/-! ### The header of a frame -/

theorem toNat_total {n : ℕ} (h : n ≤ 65529) : (UInt16.ofNat (headerLen + n)).toNat = headerLen + n := by
  rw [UInt16.toNat_ofNat', Nat.mod_eq_of_lt (by unfold headerLen; omega)]

theorem toNat_size {n : ℕ} (h : n ≤ 65529) : (UInt16.ofNat n).toNat = n := by
  rw [UInt16.toNat_ofNat', Nat.mod_eq_of_lt (by omega)]

/-- The words of the header of a sendable packet fit together. -/
theorem Sendable.headerFits {packet : PppPacket} (h : Sendable packet) :
    headerFits (UInt16.ofNat (headerLen + packet.data.length)) fortinetMagic
      (UInt16.ofNat packet.data.length) := by
  have h1 := h.nonempty
  unfold Tunnel.headerFits
  rw [toNat_total h.fits, toNat_size h.fits]
  simp only [ne_eq, not_true_eq_false, false_or, not_or, Nat.not_lt, not_not]
  omega

/-- The words of a header that fits are those of a frame that carries `size` bytes. -/
theorem headerFits.words {total magic size : UInt16} (h : headerFits total magic size) :
    magic = fortinetMagic ∧ total = UInt16.ofNat (headerLen + size.toNat) ∧
      total.toNat = headerLen + size.toNat ∧ 1 ≤ size.toNat := by
  simp only [headerFits, headerLen, not_or, not_not, Nat.not_lt] at h
  obtain ⟨h1, h2, h3⟩ := h
  have htotal : total.toNat = headerLen + size.toNat := by unfold headerLen; omega
  exact ⟨h1, by rw [← htotal, UInt16.ofNat_toNat], htotal, by omega⟩

/-- The header of a frame, and what follows the frame, read back as its three words. -/
theorem wordAt_tlsFrame (packet : PppPacket) (rest : List UInt8) :
    wordAt (packet.tlsFrame ++ rest) 0 = UInt16.ofNat (headerLen + packet.data.length) ∧
      wordAt (packet.tlsFrame ++ rest) 2 = fortinetMagic ∧
      wordAt (packet.tlsFrame ++ rest) 4 = UInt16.ofNat packet.data.length := by
  simp only [PppPacket.tlsFrame, List.append_assoc]
  refine ⟨wordAt_toBeBytes _ _, ?_, ?_⟩
  · exact (wordAt_append_right _ _ 0).trans (wordAt_toBeBytes _ _)
  · rw [← List.append_assoc]
    exact (wordAt_append_right _ _ 0).trans (wordAt_toBeBytes _ _)

/-- A buffer of at least six bytes is its three words and the bytes behind them. -/
theorem header_words (frame : List UInt8) (h : headerLen ≤ frame.length) :
    frame = toBeBytes (wordAt frame 0) ++ toBeBytes (wordAt frame 2) ++ toBeBytes (wordAt frame 4) ++
      frame.drop headerLen := by
  unfold headerLen at h
  have h0 := toBeBytes_wordAt frame (by omega)
  have h2 := toBeBytes_wordAt (frame.drop 2) (by rw [List.length_drop]; omega)
  have h4 := toBeBytes_wordAt (frame.drop 4) (by rw [List.length_drop]; omega)
  rw [wordAt_drop, List.drop_drop] at h2 h4
  conv_lhs => rw [h0, h2, h4]
  simp [headerLen]

/-! ### Inverses -/

theorem decodeFromTlsFrame_tlsFrame {packet : PppPacket} (h : Sendable packet) :
    PppPacket.decodeFromTlsFrame packet.tlsFrame = .ok packet := by
  obtain ⟨h0, h2, h4⟩ := wordAt_tlsFrame packet []
  rw [List.append_nil] at h0 h2 h4
  have hlen := packet.tlsFrame_length
  have hdrop : packet.tlsFrame.drop headerLen = packet.data := List.drop_left' rfl
  unfold PppPacket.decodeFromTlsFrame
  rw [if_neg (by omega)]
  simp only [h0, h2, h4, hlen, toNat_total h.fits, hdrop]
  rw [if_neg (not_not_intro h.headerFits), if_neg (by simp)]

/-- **A frame that decodes is the frame of its packet.** -/
theorem tlsFrame_of_decode {frame : List UInt8} {packet : PppPacket}
    (h : PppPacket.decodeFromTlsFrame frame = .ok packet) :
    frame = packet.tlsFrame ∧ Sendable packet := by
  unfold PppPacket.decodeFromTlsFrame at h
  split at h
  · cases h
  · rename_i hhead
    simp only at h
    split at h
    · cases h
    · rename_i hfits
      obtain ⟨hm, ht, htn, hpos⟩ := (not_not.mp hfits).words
      split at h
      · cases h
      · rename_i hlen
        cases h
        have hlt := (wordAt frame 0).toNat_lt
        have hsize : (wordAt frame 4).toNat = (frame.drop headerLen).length := by
          rw [List.length_drop]; omega
        refine ⟨?_, ⟨by rw [← hsize]; exact hpos, ?_⟩⟩
        · have hwords := header_words frame (by omega)
          rw [ht, hm, hsize, ← UInt16.ofNat_toNat (x := wordAt frame 4), hsize] at hwords
          exact hwords
        · show (frame.drop headerLen).length ≤ 65529
          rw [← hsize]
          unfold headerLen at htn
          omega

end OpenfortivpnRs.Tunnel
