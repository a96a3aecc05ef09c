import OpenfortivpnRs.Hdlc.RoundTrip

/-!
# What a frame puts on the line

The line discipline between this program and pppd acts on control bytes and a frame ends at a flag,
so neither may stand in the body of a frame, whatever the packet and whatever its checksum.
`encode_transparent` says what a body holds instead and how long a frame is, and that of the frames
a codec emits the first one only starts with a flag.
-/

namespace OpenfortivpnRs.Hdlc

open Lib.Bytes

/-! ### Escape bytes -/

/-- Every escape byte has a partner behind it, which is not an escape byte. -/
def Partnered (bytes : List UInt8) : Prop :=
  ∀ i : ℕ, bytes[i]? = some 0x7d → ∃ b, bytes[i + 1]? = some b ∧ b ≠ 0x7d

theorem partnered_nil : Partnered [] := fun i h => by simp at h

theorem Partnered.append {front back : List UInt8} (hf : Partnered front) (hb : Partnered back) :
    Partnered (front ++ back) := by
  intro i hi
  by_cases hlt : i < front.length
  · rw [List.getElem?_append_left hlt] at hi
    obtain ⟨b, hpartner, hne⟩ := hf i hi
    have hlt' : i + 1 < front.length := (List.getElem?_eq_some_iff.mp hpartner).1
    exact ⟨b, by rw [List.getElem?_append_left hlt', hpartner], hne⟩
  · rw [List.getElem?_append_right (by omega)] at hi
    obtain ⟨b, hpartner, hne⟩ := hb _ hi
    refine ⟨b, ?_, hne⟩
    rw [List.getElem?_append_right (by omega), show i + 1 - front.length = i - front.length + 1 by omega,
      hpartner]

theorem partnered_single {b : UInt8} (h : b ≠ 0x7d) : Partnered [b] := by
  rintro (_ | i) hi
  · exact absurd (Option.some.inj hi) h
  · simp at hi

theorem partnered_pair {b : UInt8} (h : b ≠ 0x7d) : Partnered [0x7d, b] := by
  rintro (_ | i) hi
  · exact ⟨b, rfl, h⟩
  · rw [List.getElem?_cons_succ] at hi
    obtain ⟨c, hc, hne⟩ := partnered_single h i hi
    exact ⟨c, hc, hne⟩

/-! ### What may stand in a body -/

/-- A byte that is no control byte, no flag, and no escape byte or flag with its high bit set. -/
def Plain (b : UInt8) : Prop := 0x20 ≤ b ∧ b ≠ 0x7e ∧ b ≠ 0xfd ∧ b ≠ 0xfe

instance (b : UInt8) : Decidable (Plain b) := inferInstanceAs (Decidable (_ ∧ _))

/-- What may stand between two flags. -/
structure Transparent (body : List UInt8) : Prop where
  flag_free : flag ∉ body
  plain : ∀ b ∈ body, Plain b
  partnered : Partnered body
  header : [0xff, 0x7d, 0x23] <+: body

theorem plain_addressControl : ∀ b ∈ addressControl, Plain b := by
  intro b hb
  simp only [addressControl, List.mem_cons, List.not_mem_nil, or_false] at hb
  rcases hb with rfl | rfl | rfl
  · decide
  · decide
  · decide

/-- A byte that goes unescaped is plain and no escape byte, and so is the partner of one that is
escaped. -/
theorem sent_byte (b : UInt8) :
    if inSendingAccm b then Plain (b ^^^ 0x20) ∧ b ^^^ 0x20 ≠ 0x7d else Plain b ∧ b ≠ 0x7d := by
  revert b
  exact forall_byte (by decide +kernel)

theorem plain_escaped (b : UInt8) : ∀ sent ∈ escaped b, Plain sent := by
  have hb := sent_byte b
  unfold escaped
  split
  · rename_i hsent
    rw [if_pos hsent] at hb
    exact List.forall_mem_cons.mpr ⟨by decide, List.forall_mem_singleton.mpr hb.1⟩
  · rename_i hsent
    rw [if_neg hsent] at hb
    exact List.forall_mem_singleton.mpr hb.1

theorem partnered_escaped (b : UInt8) : Partnered (escaped b) := by
  have hb := sent_byte b
  unfold escaped
  split
  · rename_i hsent
    rw [if_pos hsent] at hb
    exact partnered_pair hb.2
  · rename_i hsent
    rw [if_neg hsent] at hb
    exact partnered_single hb.2

theorem partnered_flatMap (bytes : List UInt8) : Partnered (bytes.flatMap escaped) := by
  induction bytes with
  | nil => exact partnered_nil
  | cons b bytes ih =>
    rw [List.flatMap_cons]
    exact (partnered_escaped b).append ih

/-- **Bodies are transparent**, whatever the packet. -/
theorem body_transparent (packet : List UInt8) : Transparent (body packet) where
  flag_free := flag_not_mem_body packet
  plain := by
    intro b hb
    rcases List.mem_append.mp hb with hb | hb
    · exact plain_addressControl b hb
    · obtain ⟨c, -, hc⟩ := List.mem_flatMap.mp hb
      exact plain_escaped c b hc
  partnered :=
    (partnered_single (by decide)).append ((partnered_pair (by decide)).append (partnered_flatMap _))
  header := List.prefix_append _ _

/-! ### Lengths -/

theorem length_escaped_le (b : UInt8) : (escaped b).length ≤ 2 := by
  unfold escaped
  split <;> simp

theorem length_flatMap_escaped_le (bytes : List UInt8) :
    (bytes.flatMap escaped).length ≤ 2 * bytes.length := by
  induction bytes with
  | nil => exact Nat.le_refl 0
  | cons b bytes ih =>
    have hb := length_escaped_le b
    rw [List.flatMap_cons, List.length_append, List.length_cons]
    omega

theorem length_body_le (packet : List UInt8) : (body packet).length ≤ 7 + 2 * packet.length := by
  have h := length_flatMap_escaped_le
    (packet ++ fcsBytes (frameChecksum16bit addressControlChecksum packet))
  simp only [List.length_append, fcsBytes, List.length_cons, List.length_nil] at h
  simp only [body, List.length_append, addressControl, List.length_cons, List.length_nil, fcsBytes]
  omega

theorem length_encode_le (codec : HdlcCodec) (packet : List UInt8) :
    (codec.encode packet).1.length ≤ HdlcCodec.estimatedEncodedSize packet.length := by
  have hbody := length_body_le packet
  rw [encode_eq]
  unfold HdlcCodec.estimatedEncodedSize
  simp only [List.length_append, List.length_singleton]
  split
  · rw [List.length_singleton]
    omega
  · rw [List.length_nil]
    omega

/-! ### The frames of a codec -/

/-- The frames a codec emits for one packet after another. -/
def HdlcCodec.frames : HdlcCodec → List (List UInt8) → List (List UInt8)
  | _, [] => []
  | codec, packet :: packets =>
    let (frame, codec) := codec.encode packet
    frame :: codec.frames packets

/-- A frame starts with a flag when the codec was asked for one, as its body starts with another byte. -/
theorem head_encode (codec : HdlcCodec) (packet : List UInt8) :
    (codec.encode packet).1.head? = some flag ↔ codec.needFlagSequence = true := by
  obtain ⟨rest, hrest⟩ := (body_transparent packet).header
  rw [encode_eq, ← hrest]
  cases codec.needFlagSequence
  · simp [flag]
  · simp

theorem frames_cons (codec : HdlcCodec) (packet : List UInt8) (packets : List (List UInt8)) :
    codec.frames (packet :: packets) = (codec.encode packet).1 :: HdlcCodec.frames ⟨false⟩ packets := by
  rw [HdlcCodec.frames, encode_eq]

/-- A codec that has emitted a frame emits no more leading flags. -/
theorem head_frames_later (packets : List (List UInt8)) :
    ∀ frame ∈ HdlcCodec.frames ⟨false⟩ packets, frame.head? ≠ some flag := by
  induction packets with
  | nil => exact nofun
  | cons packet packets ih =>
    intro frame hframe
    rw [frames_cons, List.mem_cons] at hframe
    rcases hframe with rfl | hlater
    · rw [ne_eq, head_encode]
      exact Bool.false_ne_true
    · exact ih frame hlater

/-- The `i`-th frame of a new codec starts with a flag when `i` is the first. -/
theorem head_frames_new (packets : List (List UInt8)) (i : ℕ) (frame : List UInt8)
    (h : (HdlcCodec.new.frames packets)[i]? = some frame) : frame.head? = some flag ↔ i = 0 := by
  rcases packets with _ | ⟨packet, packets⟩
  · simp [HdlcCodec.frames] at h
  rw [frames_cons] at h
  rcases i with _ | i
  · have hframe : (HdlcCodec.new.encode packet).1 = frame := Option.some.inj h
    rw [← hframe, head_encode]
    simp [HdlcCodec.new]
  · rw [List.getElem?_cons_succ] at h
    simpa using head_frames_later packets frame (List.mem_of_getElem? h)

/-- **Encoded frames are transparent and bounded.**  A frame is a flag where the codec still needs
one, a transparent body and a closing flag, no longer than estimated; and of the frames a new codec
emits, the first one only starts with a flag. -/
theorem encode_transparent :
    (∀ (codec : HdlcCodec) (packet : List UInt8), ∃ body, Transparent body ∧
      (codec.encode packet).1 = (if codec.needFlagSequence then [flag] else []) ++ body ++ [flag] ∧
      (codec.encode packet).1.length ≤ HdlcCodec.estimatedEncodedSize packet.length) ∧
    ∀ (packets : List (List UInt8)) (i : ℕ) (frame : List UInt8),
      (HdlcCodec.new.frames packets)[i]? = some frame → (frame.head? = some flag ↔ i = 0) := by
  refine ⟨fun codec packet => ?_, head_frames_new⟩
  exact ⟨body packet, body_transparent packet, by rw [encode_eq], length_encode_le codec packet⟩

end OpenfortivpnRs.Hdlc
