import OpenfortivpnRs.Hdlc.RoundTrip
import OpenfortivpnRs.Lib.Crc

/-!
# The FCS table is that of the PPP polynomial

`fcs16` computes the PPP FCS-16 bit by bit.  The table holds eight of its steps for each byte
(`fcsTab_get`), so `frameChecksum16bit` is `fcs16`, and both are the register of `Lib.Crc` over
0x8408 (`toBitVec_frameChecksum16bit`).
-/

namespace OpenfortivpnRs.Hdlc

open Lib.Crc

/-- The polynomial of the PPP FCS-16. -/
def fcsPoly : BitVec 16 := 0x8408

/-- One bit of the FCS-16: shift right, and xor the polynomial if the bit shifted out was one. -/
def fcs16Bit (sum : UInt16) : UInt16 :=
  if sum &&& 1 = 1 then (sum >>> 1) ^^^ 0x8408 else sum >>> 1

/-- One byte: xor it into the low byte, then eight bits. -/
def fcs16Byte (sum : UInt16) (byte : UInt8) : UInt16 := fcs16Bit^[8] (sum ^^^ byte.toUInt16)

def fcs16 (sum : UInt16) (seq : List UInt8) : UInt16 := seq.foldl fcs16Byte sum

/-! ### In the register -/

theorem low_bit (sum : UInt16) : sum &&& 1 = 1 ↔ sum.toBitVec.getLsbD 0 = true := by
  rw [← UInt16.toBitVec_inj, UInt16.toBitVec_and]
  change sum.toBitVec &&& 1#16 = 1#16 ↔ _
  rw [BitVec.and_one_eq_setWidth_ofBool_getLsbD]
  cases sum.toBitVec.getLsbD 0 <;> decide

theorem toBitVec_fcs16Bit (sum : UInt16) : (fcs16Bit sum).toBitVec = bitStep fcsPoly sum.toBitVec := by
  unfold fcs16Bit bitStep
  by_cases h : sum &&& 1 = 1
  · rw [if_pos h, if_pos ((low_bit sum).mp h)]
    simp [fcsPoly]
  · rw [if_neg h, if_neg (mt (low_bit sum).mpr h)]
    simp

theorem toBitVec_fcs16Bits (n : ℕ) (sum : UInt16) :
    (fcs16Bit^[n] sum).toBitVec = bitSteps fcsPoly n sum.toBitVec := by
  induction n generalizing sum with
  | zero => rfl
  | succ n ih =>
    rw [Function.iterate_succ_apply, ih, toBitVec_fcs16Bit]
    rfl

theorem toBitVec_fcs16Byte (sum : UInt16) (byte : UInt8) :
    (fcs16Byte sum byte).toBitVec = byteStep fcsPoly sum.toBitVec byte.toBitVec := by
  rw [fcs16Byte, toBitVec_fcs16Bits, byteStep]
  rfl

theorem toBitVec_fcs16 (sum : UInt16) (seq : List UInt8) :
    (fcs16 sum seq).toBitVec = crc fcsPoly sum.toBitVec (seq.map UInt8.toBitVec) := by
  induction seq generalizing sum with
  | nil => rfl
  | cons byte seq ih =>
    rw [List.map_cons, crc_cons, ← toBitVec_fcs16Byte, ← ih]
    rfl

/-! ### The table -/

/-- Each entry of the table is eight bit steps of its index. -/
theorem fcsTab_get (i : Fin 256) :
    (fcsTab.get i).toBitVec = bitSteps fcsPoly 8 ((BitVec.ofFin i : BitVec 8).setWidth 16) := by
  revert i
  decide +kernel

theorem fcsIndex_eq (sum : UInt16) (byte : UInt8) :
    (BitVec.ofFin (fcsIndex sum byte) : BitVec 8) = (sum.toBitVec ^^^ byte.toBitVec.setWidth 16).setWidth 8 := by
  apply BitVec.eq_of_toNat_eq
  rw [BitVec.toNat_setWidth]
  change ((sum ^^^ byte.toUInt16) &&& 0xff).toNat = (sum ^^^ byte.toUInt16).toNat % 2 ^ 8
  rw [UInt16.toNat_and]
  exact Nat.and_two_pow_sub_one_eq_mod _ 8

/-- **A step through the table is eight bit steps.** -/
theorem table_step (sum : UInt16) (byte : UInt8) :
    (sum >>> 8) ^^^ fcsTab.get (fcsIndex sum byte) = fcs16Byte sum byte := by
  have hbyte : byte.toBitVec.setWidth 16 >>> 8 = 0#16 := by
    apply BitVec.eq_of_getLsbD_eq
    intro i _
    simp
  apply UInt16.toBitVec_inj.mp
  rw [toBitVec_fcs16Byte, byteStep, bitSteps_eight, BitVec.ushiftRight_xor_distrib, hbyte,
    BitVec.xor_zero, UInt16.toBitVec_xor, fcsTab_get, fcsIndex_eq, BitVec.xor_comm]
  rfl

/-- The table-driven checksum is the bitwise one. -/
theorem frameChecksum16bit_eq (sum : UInt16) (seq : List UInt8) :
    frameChecksum16bit sum seq = fcs16 sum seq := by
  unfold frameChecksum16bit fcs16
  congr 1
  funext sum byte
  exact table_step sum byte

theorem toBitVec_frameChecksum16bit (sum : UInt16) (seq : List UInt8) :
    (frameChecksum16bit sum seq).toBitVec = crc fcsPoly sum.toBitVec (seq.map UInt8.toBitVec) := by
  rw [frameChecksum16bit_eq, toBitVec_fcs16]

/-- **The table computes the PPP FCS-16**, from every start value; the two constants are the
checksum of the address and control bytes and the residue left by a checksum's own bytes. -/
theorem frame_checksum_is_fcs16 :
    (∀ sum seq, frameChecksum16bit sum seq = fcs16 sum seq) ∧
      frameChecksum16bit 0xffff [0xff, 0x03] = addressControlChecksum ∧
      ∀ sum seq, frameChecksum16bit sum (seq ++ fcsBytes (frameChecksum16bit sum seq)) =
        goodFinalFcs := by
  refine ⟨frameChecksum16bit_eq, by decide +kernel, fun sum seq => ?_⟩
  rw [frameChecksum16bit_append, frameChecksum16bit_fcsBytes]

end OpenfortivpnRs.Hdlc
