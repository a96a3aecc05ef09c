import Mathlib.Tactic

/-!
# Bytes and 16-bit words

Big-endian halves of a 16-bit word, and the two ways the proofs argue about a byte: by its 256
values (`forall_byte`) and, for words, bit by bit (`word_ext`).
-/

namespace OpenfortivpnRs.Lib.Bytes

/-! ### Case analysis -/

/-- A property of bytes holds when it holds of the 256 values. -/
theorem forall_byte {P : UInt8 → Prop} (h : ∀ n : Fin 256, P (UInt8.ofFin n)) (b : UInt8) : P b :=
  h b.toFin

/-- Two words agree when their sixteen bits do. -/
theorem word_ext {x y : UInt16} (h : ∀ i < 16, x.toBitVec.getLsbD i = y.toBitVec.getLsbD i) :
    x = y :=
  UInt16.toBitVec_inj.mp (BitVec.eq_of_getLsbD_eq h)

/-- Cutting a word to its low byte and widening it again masks the low byte. -/
theorem toUInt8_toUInt16 (x : UInt16) : x.toUInt8.toUInt16 = x &&& 0xff := by
  apply UInt16.toNat_inj.mp
  rw [UInt8.toNat_toUInt16, UInt16.toNat_toUInt8, UInt16.toNat_and]
  exact (Nat.and_two_pow_sub_one_eq_mod x.toNat 8).symm

/-! ### Big-endian words -/

/-- The word whose high byte is `hi` and whose low byte is `lo`. -/
def fromBeBytes (hi lo : UInt8) : UInt16 := hi.toUInt16 <<< 8 ||| lo.toUInt16

/-- The bytes of a word, high byte first. -/
def toBeBytes (x : UInt16) : List UInt8 := [(x >>> 8).toUInt8, x.toUInt8]

@[simp] theorem toBeBytes_length (x : UInt16) : (toBeBytes x).length = 2 := rfl

theorem fromBeBytes_toNat (hi lo : UInt8) : (fromBeBytes hi lo).toNat = hi.toNat * 256 + lo.toNat := by
  have h1 := hi.toNat_lt
  have h2 := lo.toNat_lt
  have hs : hi.toNat <<< 8 < 2 ^ 16 := by rw [Nat.shiftLeft_eq]; omega
  simp only [fromBeBytes, UInt16.toNat_or, UInt16.toNat_shiftLeft, UInt8.toNat_toUInt16]
  rw [show (8 : UInt16).toNat % 16 = 8 from rfl, Nat.mod_eq_of_lt hs,
    ← Nat.shiftLeft_add_eq_or_of_lt (by omega), Nat.shiftLeft_eq]

/-- Reading back the bytes of a word gives the word. -/
theorem fromBeBytes_toBeBytes (x : UInt16) : fromBeBytes (x >>> 8).toUInt8 x.toUInt8 = x := by
  apply UInt16.toNat_inj.mp
  have := x.toNat_lt
  rw [fromBeBytes_toNat]
  simp only [UInt16.toNat_toUInt8, UInt16.toNat_shiftRight]
  rw [show (8 : UInt16).toNat % 16 = 8 from rfl, Nat.shiftRight_eq_div_pow]
  omega

/-- Two bytes are the bytes of the word they make. -/
theorem toBeBytes_fromBeBytes (hi lo : UInt8) : toBeBytes (fromBeBytes hi lo) = [hi, lo] := by
  have h1 := hi.toNat_lt
  have h2 := lo.toNat_lt
  simp only [toBeBytes, List.cons.injEq, and_true]
  constructor
  · apply UInt8.toNat_inj.mp
    simp only [UInt16.toNat_toUInt8, UInt16.toNat_shiftRight, fromBeBytes_toNat]
    rw [show (8 : UInt16).toNat % 16 = 8 from rfl, Nat.shiftRight_eq_div_pow]
    omega
  · apply UInt8.toNat_inj.mp
    simp only [UInt16.toNat_toUInt8, fromBeBytes_toNat]
    omega

/-! ### Words in a buffer -/

/-- The big-endian word at index `i` of a buffer that has the bytes `i` and `i + 1`. -/
def wordAt (buffer : List UInt8) (i : ℕ) : UInt16 := fromBeBytes (buffer.getD i 0) (buffer.getD (i + 1) 0)

theorem wordAt_append {buffer : List UInt8} {i : ℕ} (more : List UInt8) (h : i + 1 < buffer.length) :
    wordAt (buffer ++ more) i = wordAt buffer i := by
  simp only [wordAt, List.getD_eq_getElem?_getD]
  rw [List.getElem?_append_left (by omega), List.getElem?_append_left h]

theorem wordAt_append_right (pre : List UInt8) (buffer : List UInt8) (i : ℕ) :
    wordAt (pre ++ buffer) (pre.length + i) = wordAt buffer i := by
  simp only [wordAt, List.getD_eq_getElem?_getD]
  rw [List.getElem?_append_right (by omega), List.getElem?_append_right (by omega),
    Nat.add_assoc, Nat.add_sub_cancel_left, Nat.add_sub_cancel_left]

theorem wordAt_toBeBytes (x : UInt16) (more : List UInt8) : wordAt (toBeBytes x ++ more) 0 = x :=
  fromBeBytes_toBeBytes x

/-- Writing back the word at the front of a buffer gives its first two bytes. -/
theorem toBeBytes_wordAt (buffer : List UInt8) (h : 2 ≤ buffer.length) :
    buffer = toBeBytes (wordAt buffer 0) ++ buffer.drop 2 := by
  rcases buffer with _ | ⟨b0, _ | ⟨b1, rest⟩⟩
  · simp at h
  · simp at h
  · simp [wordAt, toBeBytes_fromBeBytes]

theorem wordAt_drop (buffer : List UInt8) (i j : ℕ) :
    wordAt (buffer.drop i) j = wordAt buffer (i + j) := by
  simp [wordAt, List.getD_eq_getElem?_getD, Nat.add_assoc]

/-- A byte of the buffer is not the one that stands for what is behind its end. -/
theorem getElem?_eq_getD {buffer : List UInt8} {i : ℕ} (h : i < buffer.length) :
    buffer[i]? = some (buffer.getD i 0) := by
  rw [List.getD_eq_getElem?_getD, List.getElem?_eq_getElem h]
  rfl

end OpenfortivpnRs.Lib.Bytes
