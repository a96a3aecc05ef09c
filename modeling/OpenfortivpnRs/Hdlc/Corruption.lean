import OpenfortivpnRs.Hdlc.Fcs

/-!
# The frame check sees corruption

Two byte sequences of one length that differ within two adjacent bytes, or in an odd number of bits,
have different checksums from every start value (`frameChecksum16bit_ne`): the polynomial has its
top bit and an odd weight.  So a frame whose unescaped bytes differ in such a way from those of an
accepted frame is rejected; which error it gets depends on its length only, since `decode` looks at
that before it unescapes anything (`decode_of_content`).
-/

namespace OpenfortivpnRs.Hdlc

open Lib.Crc

/-- The sequences differ, but only within two adjacent bytes. -/
def DifferWithinTwo (s t : List UInt8) : Prop :=
  s ≠ t ∧ ∃ front x y back, s = front ++ x ++ back ∧ t = front ++ y ++ back ∧
    x.length = y.length ∧ x.length ≤ 2

/-- The number of bits in which two sequences differ. -/
def bitDistance (s t : List UInt8) : ℕ :=
  (List.zipWith (fun a b => weight (a ^^^ b).toBitVec) s t).sum

/-- Of one length, and different in a way the frame check sees. -/
def Corrupted (s t : List UInt8) : Prop :=
  s.length = t.length ∧ (DifferWithinTwo s t ∨ Odd (bitDistance s t))

/-! ### Checksums -/

theorem fcsPoly_top : fcsPoly.getLsbD (16 - 1) = true := by decide

theorem odd_weight_fcsPoly : Odd (weight fcsPoly) := by decide +kernel

theorem bitDistance_eq (s t : List UInt8) :
    bitDistance s t =
      weights (List.zipWith (· ^^^ ·) (s.map UInt8.toBitVec) (t.map UInt8.toBitVec)) := by
  simp [bitDistance, weights, List.zipWith_map, List.map_zipWith]

theorem map_toBitVec_injective : Function.Injective (List.map UInt8.toBitVec) :=
  List.map_injective_iff.mpr fun _ _ h => UInt8.toBitVec_inj.mp h

/-- **Corrupted sequences have different checksums.** -/
theorem frameChecksum16bit_ne (sum : UInt16) {s t : List UInt8} (h : Corrupted s t) :
    frameChecksum16bit sum s ≠ frameChecksum16bit sum t := by
  intro heq
  have hcrc := congrArg UInt16.toBitVec heq
  rw [toBitVec_frameChecksum16bit, toBitVec_frameChecksum16bit] at hcrc
  obtain ⟨hlen, ⟨hne, front, x, y, back, rfl, rfl, hxy, htwo⟩ | hodd⟩ := h
  · have hdiffer : x.map UInt8.toBitVec ≠ y.map UInt8.toBitVec := fun he =>
      hne (by rw [map_toBitVec_injective he])
    simp only [List.map_append] at hcrc
    apply crc_ne_of_burst (by decide) fcsPoly_top _ _ _ _ _ hdiffer hcrc
    · simpa using hxy
    · simp only [List.length_map]
      omega
  · rw [bitDistance_eq] at hodd
    exact crc_ne_of_odd odd_weight_fcsPoly (by decide) _ (by simpa using hlen) hodd hcrc

/-! ### Frames -/

/-- A frame with a header and three bytes of content has six bytes. -/
theorem length_of_header {frame u : List UInt8} (h : HasContent frame u) (hu : 3 ≤ u.length)
    (hheader : hasAddressControlFields frame = true) : 5 ≤ frame.length := by
  unfold HasContent at h
  rw [hheader, if_pos rfl] at h
  have := length_unescape_le h
  simp only [List.length_nil, List.length_drop] at this
  omega

/-- **Corruption is detected.**  Corrupted sequences have different checksums, and a frame whose
content is a corruption of that of an accepted frame with the same header form is rejected: for its
checksum when it has five bytes, as every such frame with the header does, else for its length. -/
theorem corruption_is_detected :
    (∀ sum s t, Corrupted s t → frameChecksum16bit sum s ≠ frameChecksum16bit sum t) ∧
    ∀ f g u v p, decode f = .ok p → HasContent f u → HasContent g v →
      hasAddressControlFields f = hasAddressControlFields g → Corrupted u v →
      (5 ≤ g.length → decode g = .error .hdlcBadChecksum) ∧
      (g.length < 5 → decode g = .error .hdlcInvalidFrame) ∧
      (hasAddressControlFields g = true → 5 ≤ g.length) := by
  refine ⟨fun sum s t h => frameChecksum16bit_ne sum h, ?_⟩
  intro f g u v p hf hu hv hheader hcorrupt
  obtain ⟨u', hu', -, hlen, hsum, -⟩ := content_of_decode hf
  obtain ⟨rfl, -⟩ := Prod.mk.inj (Except.ok.inj (hu.symm.trans hu'))
  rw [hcorrupt.1] at hlen
  have hbad : frameChecksum16bit (fcsSeed g) v ≠ goodFinalFcs := by
    rw [← hsum, fcsSeed, fcsSeed, hheader]
    exact (frameChecksum16bit_ne _ hcorrupt).symm
  refine ⟨fun h5 => ?_, fun h5 => ?_, length_of_header hv hlen⟩
  · rw [decode_of_content hv, if_neg (by omega), if_neg hbad]
  · rw [decode_of_content hv, if_pos (.inl h5)]

/-- An accepted frame without header, and its content with one bit changed as a frame. -/
theorem corruption_is_detected_at :
    decode [0x00, 0x00, 0x00, 0x40, 0xf5, 0xa3] = .error .hdlcBadChecksum :=
  (corruption_is_detected.2 [0x00, 0x00, 0x41, 0xf5, 0xa3] [0x00, 0x00, 0x00, 0x40, 0xf5, 0xa3]
    [0x41, 0xf5, 0xa3] [0x40, 0xf5, 0xa3] [0x41] (by decide +kernel) (by decide +kernel)
    (by decide +kernel) rfl ⟨rfl, .inr (by decide +kernel)⟩).1 (by decide)

/-- Without header a frame of three bytes may hold corrupted content; it is rejected before the
checksum is looked at. -/
theorem short_corruption_is_invalid :
    ¬ ∀ f g u v p, decode f = .ok p → HasContent f u → HasContent g v →
      hasAddressControlFields f = hasAddressControlFields g → Corrupted u v →
      decode g = .error .hdlcBadChecksum := by
  intro h
  have := h [0x00, 0x00, 0x41, 0xf5, 0xa3] [0x40, 0xf5, 0xa3] [0x41, 0xf5, 0xa3] [0x40, 0xf5, 0xa3]
    [0x41] (by decide +kernel) (by decide +kernel) (by decide +kernel) rfl
    ⟨rfl, .inr (by decide +kernel)⟩
  revert this
  decide +kernel

end OpenfortivpnRs.Hdlc
