import OpenfortivpnRs.Hdlc.Escaping

/-!
# Frames decode to the packets they were made from

* `encode_eq` : an encoded frame is an optional flag, a `body` and a closing flag;
* `flag_not_mem_body` : the body holds no flag, so the flags are where frames end and nowhere else;
* `frameChecksum16bit_fcsBytes` : running the checksum over its own complemented bytes gives
  `goodFinalFcs`, whatever came before;
* `decode_body` : decoding the body of a non-empty packet gives the packet;
* `decode_any_escaping` : so does decoding it in any other escaping.
-/

namespace OpenfortivpnRs.Hdlc

open Lib.Bytes

/-! ### The checksum of a packet and its FCS -/

/-- The two FCS bytes sent after a packet whose checksum is `sum`: the complement, low byte first. -/
def fcsBytes (sum : UInt16) : List UInt8 :=
  [((sum ^^^ 0xffff) &&& 0x00ff).toUInt8, ((sum ^^^ 0xffff) >>> 8).toUInt8]

theorem frameChecksum16bit_append (sum : UInt16) (p q : List UInt8) :
    frameChecksum16bit sum (p ++ q) = frameChecksum16bit (frameChecksum16bit sum p) q := by
  simp [frameChecksum16bit]

/-- The low FCS byte cancels the low byte of the sum up to its complement. -/
theorem fcsIndex_low (s : UInt16) :
    fcsIndex s ((s ^^^ 0xffff) &&& 0x00ff).toUInt8 = 0xff := by
  have h : (s ^^^ ((s ^^^ 0xffff) &&& 0x00ff).toUInt8.toUInt16) &&& 0xff = 0xff := by
    rw [toUInt8_toUInt16]
    apply word_ext
    intro i hi
    interval_cases i <;> simp
  exact Fin.ext (congrArg UInt16.toNat h)

/-- So does the high FCS byte with what the first step shifted down. -/
theorem fcsIndex_high (s : UInt16) :
    fcsIndex ((s >>> 8) ^^^ 0x0f78) ((s ^^^ 0xffff) >>> 8).toUInt8 = 0x87 := by
  have h : ((s >>> 8) ^^^ (0x0f78 : UInt16) ^^^ ((s ^^^ 0xffff) >>> 8).toUInt8.toUInt16) &&& 0xff =
      0x87 := by
    rw [toUInt8_toUInt16]
    apply word_ext
    intro i hi
    interval_cases i <;> simp
  exact Fin.ext (congrArg UInt16.toNat h)

/-- **The residue.**  A checksum run over its own FCS bytes is `goodFinalFcs`. -/
theorem frameChecksum16bit_fcsBytes (s : UInt16) :
    frameChecksum16bit s (fcsBytes s) = goodFinalFcs := by
  have hhigh : ((s >>> 8) ^^^ (0x0f78 : UInt16)) >>> 8 = 0x000f := by
    apply word_ext
    intro i hi
    interval_cases i <;> simp
  have h1 : fcsTab.get 0xff = 0x0f78 := by decide +kernel
  have h2 : (0x000f : UInt16) ^^^ fcsTab.get 0x87 = goodFinalFcs := by decide +kernel
  simp only [frameChecksum16bit, fcsBytes, List.foldl_cons, List.foldl_nil]
  rw [fcsIndex_low, h1, fcsIndex_high, hhigh, h2]

/-! ### What `decode` returns -/

/-- The frame unescapes to `u`, its header left out. -/
def HasContent (frame u : List UInt8) : Prop :=
  unescape [] false (frame.drop (if hasAddressControlFields frame then 3 else 0)) = .ok (u, false)

instance (frame u : List UInt8) : Decidable (HasContent frame u) := inferInstanceAs (Decidable (_ = _))

/-- The value the checksum of a frame's content starts from. -/
def fcsSeed (frame : List UInt8) : UInt16 :=
  if hasAddressControlFields frame then addressControlChecksum else 0xffff

/-- What `decode` returns, told from the length of the frame and its content. -/
theorem decode_of_content {frame u : List UInt8} (h : HasContent frame u) :
    decode frame =
      if frame.length < 5 ∨ u.length < 3 then .error .hdlcInvalidFrame
      else if frameChecksum16bit (fcsSeed frame) u = goodFinalFcs then .ok (u.take (u.length - 2))
      else .error .hdlcBadChecksum := by
  unfold HasContent at h
  unfold decode fcsSeed
  by_cases hlen : frame.length < 5
  · simp [hlen]
  · by_cases hu : u.length < 3
    · simp [h, hu]
    · simp [h, hlen, hu]

/-- What a frame that decodes was made of. -/
theorem content_of_decode {frame packet : List UInt8} (h : decode frame = .ok packet) :
    ∃ u, HasContent frame u ∧ 5 ≤ frame.length ∧ 3 ≤ u.length ∧
      frameChecksum16bit (fcsSeed frame) u = goodFinalFcs ∧ packet = u.take (u.length - 2) := by
  have hcontent : ∃ u, HasContent frame u := by
    unfold decode at h
    split at h
    · cases h
    · simp only at h
      split at h
      · cases h
      · rename_i u inEscape hun
        cases inEscape with
        | false => exact ⟨u, hun⟩
        | true => cases h
  obtain ⟨u, hu⟩ := hcontent
  rw [decode_of_content hu] at h
  split_ifs at h with hlen hsum
  cases h
  exact ⟨u, hu, by omega, by omega, hsum, rfl⟩

/-! ### Frames -/

/-- What an encoded frame holds between its flags. -/
def body (packet : List UInt8) : List UInt8 :=
  addressControl ++
    (packet ++ fcsBytes (frameChecksum16bit addressControlChecksum packet)).flatMap escaped

theorem encode_eq (codec : HdlcCodec) (packet : List UInt8) :
    codec.encode packet =
      ((if codec.needFlagSequence then [flag] else []) ++ body packet ++ [flag], ⟨false⟩) := by
  simp only [HdlcCodec.encode, foldl_pushEscaped, pushEscaped_eq, body, fcsBytes, List.flatMap_append,
    List.flatMap_cons, List.flatMap_nil, List.append_nil, List.append_assoc]

theorem flag_not_mem_body (packet : List UInt8) : flag ∉ body packet := by
  unfold body
  simp only [List.mem_append, List.mem_flatMap, not_or, not_exists, not_and]
  exact ⟨by decide, fun b _ => flag_not_mem_escaped b⟩

theorem body_ne_nil (packet : List UInt8) : body packet ≠ [] :=
  List.append_ne_nil_of_left_ne_nil (List.cons_ne_nil _ _) _

/-- A header and bytes that unescape to a non-empty packet and its FCS decode to the packet. -/
theorem decode_header {packet raw : List UInt8} (h : packet ≠ [])
    (hraw : unescape [] false raw =
      .ok (packet ++ fcsBytes (frameChecksum16bit addressControlChecksum packet), false)) :
    decode (addressControl ++ raw) = .ok packet := by
  set fcs := fcsBytes (frameChecksum16bit addressControlChecksum packet) with hfcs
  have hfield : hasAddressControlFields (addressControl ++ raw) = true := by
    simp [hasAddressControlFields, addressControl]
  have hcontent : HasContent (addressControl ++ raw) (packet ++ fcs) := by
    unfold HasContent
    rw [hfield, if_pos rfl]
    exact hraw
  have hpos := List.length_pos_iff.mpr h
  have hlen : (packet ++ fcs).length = packet.length + 2 := List.length_append
  have hfive : packet.length + 5 ≤ (addressControl ++ raw).length := by
    have := length_unescape_le hraw
    simp only [List.length_nil, hlen] at this
    simp only [List.length_append, addressControl, List.length_cons, List.length_nil]
    omega
  have hsum : frameChecksum16bit (fcsSeed (addressControl ++ raw)) (packet ++ fcs) = goodFinalFcs := by
    rw [fcsSeed, hfield, if_pos rfl, frameChecksum16bit_append, hfcs, frameChecksum16bit_fcsBytes]
  rw [decode_of_content hcontent, if_neg (by omega), if_pos hsum, hlen, Nat.add_sub_cancel,
    List.take_left' rfl]

/-- **Decoding undoes encoding**: the body of a non-empty packet decodes to the packet. -/
theorem decode_body {packet : List UInt8} (h : packet ≠ []) : decode (body packet) = .ok packet := by
  apply decode_header h
  exact (escapes_flatMap _).unescape []

/-! ### Frames of other senders -/

/-- **Decoding is independent of the escaping**: any escaping of a non-empty packet and its FCS
bytes, behind the header, decodes to the packet. -/
theorem decode_any_escaping {p raw : List UInt8} (hp : p ≠ [])
    (hraw : Escapes (p ++ fcsBytes (frameChecksum16bit addressControlChecksum p)) raw) :
    decode (addressControl ++ raw) = .ok p :=
  decode_header hp (hraw.unescape [])

/-- One byte with noise around it, escaped without need, and FCS bytes escaped or not. -/
theorem decode_any_escaping_at :
    decode (addressControl ++ ([0x11] ++ [0x7d, 0x61] ++ ([] ++ [0xda] ++ ([0x00] ++ [0x7d, 0x59] ++
      [0x13])))) = .ok [0x41] :=
  decode_any_escaping (List.cons_ne_nil _ _)
    (.cons [0x11] (List.forall_mem_singleton.mpr (by decide)) (.escaped (by decide) (by decide))
      (.cons [] (List.forall_mem_nil _) (.raw (by decide) (by decide) (by decide))
        (.cons [0x00] (List.forall_mem_singleton.mpr (by decide)) (.escaped (by decide) (by decide))
          (.nil [0x13] (List.forall_mem_singleton.mpr (by decide))))))

end OpenfortivpnRs.Hdlc
