import Mathlib.Tactic
import Mathlib.Data.ZMod.Basic

/-!
# Cyclic redundancy checks, low bit first

A register of `w` bits over a polynomial `poly` (its bits low to high are the coefficients, the
leading one left out).  A bit step moves the register down and adds the polynomial when a one falls
out; a byte is added to the low bits and followed by eight steps.

* `bitSteps_eight` : eight steps are those of the low byte, which a table can hold, and a shift;
* `crc_eq_steps` : bytes that fit the register can be added all at once before the steps;
* `crc_ne_of_burst` : a register whose polynomial has its top bit sees every change within `w` bits;
* `weight_crc` : a polynomial of odd weight keeps the parity of what it has read, so the register
  sees every change in an odd number of bits (`crc_ne_of_odd`).
-/

namespace OpenfortivpnRs.Lib.Crc

variable {w : ℕ} (poly : BitVec w)

/-- One bit leaves the register. -/
def bitStep (c : BitVec w) : BitVec w :=
  if c.getLsbD 0 then (c >>> 1) ^^^ poly else c >>> 1

def bitSteps (n : ℕ) (c : BitVec w) : BitVec w := (bitStep poly)^[n] c

def byteStep (c : BitVec w) (b : BitVec 8) : BitVec w := bitSteps poly 8 (c ^^^ b.setWidth w)

/-- The register after a run of bytes. -/
def crc (c : BitVec w) (bytes : List (BitVec 8)) : BitVec w := bytes.foldl (byteStep poly) c

@[simp] theorem crc_nil (c : BitVec w) : crc poly c [] = c := rfl

theorem crc_cons (c : BitVec w) (b : BitVec 8) (bytes : List (BitVec 8)) :
    crc poly c (b :: bytes) = crc poly (byteStep poly c b) bytes := rfl

theorem crc_append (c : BitVec w) (s t : List (BitVec 8)) :
    crc poly c (s ++ t) = crc poly (crc poly c s) t := List.foldl_append

/-! ### Steps are linear -/

theorem xor_cancel (a b p : BitVec w) : a ^^^ p ^^^ (b ^^^ p) = a ^^^ b := by
  rw [BitVec.xor_comm b p, ← BitVec.xor_assoc, BitVec.xor_assoc a p p, BitVec.xor_self, BitVec.xor_zero]

theorem bitStep_xor (a b : BitVec w) : bitStep poly (a ^^^ b) = bitStep poly a ^^^ bitStep poly b := by
  unfold bitStep
  rw [BitVec.getLsbD_xor, BitVec.ushiftRight_xor_distrib]
  cases a.getLsbD 0 <;> cases b.getLsbD 0
  · rfl
  · exact BitVec.xor_assoc _ _ _
  · simp only [Bool.xor_false, if_true, Bool.false_eq_true, if_false]
    rw [BitVec.xor_assoc, BitVec.xor_comm (b >>> 1), ← BitVec.xor_assoc]
  · exact (xor_cancel _ _ _).symm

theorem bitSteps_xor (n : ℕ) (a b : BitVec w) :
    bitSteps poly n (a ^^^ b) = bitSteps poly n a ^^^ bitSteps poly n b := by
  induction n generalizing a b with
  | zero => rfl
  | succ n ih =>
    have h := ih (bitStep poly a) (bitStep poly b)
    rw [← bitStep_xor] at h
    exact h

theorem bitSteps_add (m n : ℕ) (c : BitVec w) :
    bitSteps poly (m + n) c = bitSteps poly m (bitSteps poly n c) :=
  Function.iterate_add_apply _ m n c

/-- As long as zeros fall out, the register only moves down. -/
theorem bitSteps_of_clear (n : ℕ) (c : BitVec w) (hc : ∀ i < n, c.getLsbD i = false) :
    bitSteps poly n c = c >>> n := by
  induction n generalizing c with
  | zero => simp [bitSteps]
  | succ n ih =>
    have hstep : bitStep poly c = c >>> 1 := by simp [bitStep, hc 0 n.succ_pos]
    have hmoved : ∀ i < n, (c >>> 1).getLsbD i = false := fun i hi => by
      rw [BitVec.getLsbD_ushiftRight]
      exact hc (1 + i) (by omega)
    rw [bitSteps_add poly n 1 c]
    change bitSteps poly n (bitStep poly c) = _
    rw [hstep, ih _ hmoved, ← BitVec.shiftRight_add, Nat.add_comm 1 n]

/-- **Eight steps from a table of bytes**: those of the low byte, and the rest moved down. -/
theorem bitSteps_eight (c : BitVec w) :
    bitSteps poly 8 c = bitSteps poly 8 ((c.setWidth 8).setWidth w) ^^^ (c >>> 8) := by
  set low := (c.setWidth 8).setWidth w with hlow
  have hbit : ∀ i, low.getLsbD i = (decide (i < 8) && c.getLsbD i) := fun i => by
    rw [hlow]
    simp only [BitVec.getLsbD_setWidth]
    by_cases h : i < w
    · simp [h]
    · simp [h, BitVec.getLsbD_of_ge c i (by omega)]
  have hclear : ∀ i < 8, (low ^^^ c).getLsbD i = false := fun i hi => by
    simp [hbit, hi]
  have hshift : (low ^^^ c) >>> 8 = c >>> 8 := by
    apply BitVec.eq_of_getLsbD_eq
    intro i _
    simp [hbit]
  calc bitSteps poly 8 c = bitSteps poly 8 (low ^^^ (low ^^^ c)) := by
        rw [← BitVec.xor_assoc, BitVec.xor_self, BitVec.zero_xor]
    _ = bitSteps poly 8 low ^^^ (c >>> 8) := by
        rw [bitSteps_xor, bitSteps_of_clear poly 8 _ hclear, hshift]

/-! ### Bytes packed into one register -/

/-- The bytes as one word, the first byte lowest. -/
def pack (w : ℕ) : List (BitVec 8) → BitVec w
  | [] => 0
  | b :: bytes => b.setWidth w ^^^ pack w bytes <<< 8

/-- A word of packed bytes is zero above them. -/
theorem getLsbD_pack {bytes : List (BitVec 8)} {i : ℕ} (hi : 8 * bytes.length ≤ i) :
    (pack w bytes).getLsbD i = false := by
  induction bytes generalizing i with
  | nil => simp [pack]
  | cons b bytes ih =>
    rw [List.length_cons] at hi
    have hb : b.getLsbD i = false := BitVec.getLsbD_of_ge b i (by omega)
    have hrest : (pack w bytes).getLsbD (i - 8) = false := ih (by omega)
    simp [pack, hb, hrest]

/-- The rest of the bytes, moved up over a byte, falls back to its place in eight steps. -/
theorem bitSteps_pack {bytes : List (BitVec 8)} (hw : 8 * (bytes.length + 1) ≤ w) :
    bitSteps poly 8 (pack w bytes <<< 8) = pack w bytes := by
  rw [bitSteps_of_clear poly 8 _ (fun i hi => by simp [hi])]
  apply BitVec.eq_of_getLsbD_eq
  intro i _
  rw [BitVec.getLsbD_ushiftRight, BitVec.getLsbD_shiftLeft, Nat.add_sub_cancel_left]
  by_cases h : 8 + i < w
  · simp [h]
  · simp [h, @getLsbD_pack w bytes i (by omega)]

/-- **Bytes that fit the register can be added at once**, before all their steps. -/
theorem crc_eq_steps (bytes : List (BitVec 8)) (hw : 8 * bytes.length ≤ w) (c : BitVec w) :
    crc poly c bytes = bitSteps poly (8 * bytes.length) (c ^^^ pack w bytes) := by
  induction bytes generalizing c with
  | nil => simp [pack, bitSteps]
  | cons b bytes ih =>
    rw [List.length_cons] at hw
    rw [crc_cons, ih (by omega), byteStep, List.length_cons, Nat.mul_succ, bitSteps_add]
    conv_lhs => rw [← bitSteps_pack poly hw, ← bitSteps_xor]
    rw [pack, BitVec.xor_assoc]

theorem pack_inj {x y : List (BitVec 8)} (hlen : x.length = y.length) (hw : 8 * x.length ≤ w)
    (h : pack w x = pack w y) : x = y := by
  induction x generalizing y with
  | nil => exact (List.length_eq_zero_iff.mp hlen.symm).symm
  | cons a x ih =>
    obtain _ | ⟨b, y⟩ := y
    · cases hlen
    rw [List.length_cons] at hw hlen
    rw [List.length_cons, Nat.add_right_cancel_iff] at hlen
    have hbit (i : ℕ) : (pack w (a :: x)).getLsbD i = (pack w (b :: y)).getLsbD i := by rw [h]
    simp only [pack, BitVec.getLsbD_xor, BitVec.getLsbD_setWidth, BitVec.getLsbD_shiftLeft] at hbit
    have hab : a = b := by
      apply BitVec.eq_of_getLsbD_eq
      intro i hi
      have := hbit i
      simpa [hi, show i < w by omega] using this
    have hxy : pack w x = pack w y := by
      apply BitVec.eq_of_getLsbD_eq
      intro i _
      by_cases hi : i + 8 < w
      · simpa [hi, hab] using hbit (i + 8)
      · rw [getLsbD_pack (by omega), getLsbD_pack (by omega)]
    rw [hab, ih hlen (by omega) hxy]

/-! ### Bursts -/

section Burst

variable {poly} (hw : 0 < w) (hpoly : poly.getLsbD (w - 1) = true)
include hw hpoly

/-- With the polynomial's top bit set, the top bit of the register tells what fell out of it. -/
theorem getLsbD_bitStep_top (c : BitVec w) : (bitStep poly c).getLsbD (w - 1) = c.getLsbD 0 := by
  have htop : (c >>> 1).getLsbD (w - 1) = false := by
    rw [BitVec.getLsbD_ushiftRight]
    exact BitVec.getLsbD_of_ge c _ (by omega)
  unfold bitStep
  cases h : c.getLsbD 0 <;> simp [htop, hpoly]

theorem bitStep_injective : Function.Injective (bitStep poly) := by
  intro a b h
  have hlow : a.getLsbD 0 = b.getLsbD 0 := by
    rw [← getLsbD_bitStep_top hw hpoly a, ← getLsbD_bitStep_top hw hpoly b, h]
  have hshift : a >>> 1 = b >>> 1 := by
    unfold bitStep at h
    rw [← hlow] at h
    split at h
    · exact (BitVec.xor_left_inj poly).mp h
    · exact h
  apply BitVec.eq_of_getLsbD_eq
  intro i _
  cases i with
  | zero => exact hlow
  | succ i =>
    have := congrArg (·.getLsbD i) hshift
    simpa [Nat.add_comm 1 i] using this

theorem bitSteps_injective (n : ℕ) : Function.Injective (bitSteps poly n) :=
  (bitStep_injective hw hpoly).iterate n

/-- Two registers that differ stay different over the same bytes. -/
theorem crc_injective (bytes : List (BitVec 8)) : Function.Injective (crc poly · bytes) := by
  induction bytes with
  | nil => exact fun a b h => h
  | cons b bytes ih =>
    intro c d h
    have h' : byteStep poly c b = byteStep poly d b := ih h
    exact (BitVec.xor_left_inj _).mp (bitSteps_injective hw hpoly 8 h')

/-- **Bursts are seen**: two messages that differ within as many bytes as the register holds. -/
theorem crc_ne_of_burst {x y : List (BitVec 8)} (c : BitVec w) (front back : List (BitVec 8))
    (hlen : x.length = y.length) (hfit : 8 * x.length ≤ w) (hne : x ≠ y) :
    crc poly c (front ++ x ++ back) ≠ crc poly c (front ++ y ++ back) := by
  intro h
  rw [crc_append, crc_append, crc_append, crc_append] at h
  have hfit' : 8 * y.length ≤ w := by omega
  have hmid : crc poly (crc poly c front) x = crc poly (crc poly c front) y :=
    crc_injective hw hpoly back h
  rw [crc_eq_steps poly x hfit, crc_eq_steps poly y hfit', hlen] at hmid
  have hpack := (BitVec.xor_right_inj _).mp (bitSteps_injective hw hpoly _ hmid)
  exact hne (pack_inj hlen hfit hpack)

end Burst

/-! ### Parity -/

/-- The number of ones. -/
def weight (c : BitVec w) : ℕ := ∑ i ∈ Finset.range w, (c.getLsbD i).toNat

/-- The number of ones in a run of bytes. -/
def weights (bytes : List (BitVec 8)) : ℕ := (bytes.map weight).sum

theorem cast_bit_xor (a b : Bool) : (((a ^^ b).toNat : ℕ) : ZMod 2) = a.toNat + b.toNat := by
  cases a <;> cases b <;> decide

theorem weight_xor (a b : BitVec w) : (weight (a ^^^ b) : ZMod 2) = weight a + weight b := by
  simp only [weight, Nat.cast_sum, BitVec.getLsbD_xor, cast_bit_xor, Finset.sum_add_distrib]

/-- Moving down loses the lowest bit. -/
theorem weight_shift (c : BitVec w) : weight (c >>> 1) + (c.getLsbD 0).toNat = weight c := by
  have hall := Finset.sum_range_succ' (fun i => (c.getLsbD i).toNat) w
  rw [Finset.sum_range_succ, BitVec.getLsbD_of_ge c w le_rfl] at hall
  simp only [weight, BitVec.getLsbD_ushiftRight, Nat.add_comm 1]
  simpa using hall.symm

/-- Widening adds no ones. -/
theorem weight_setWidth {v : ℕ} (h : v ≤ w) (b : BitVec v) : weight (b.setWidth w) = weight b := by
  unfold weight
  rw [← Finset.sum_subset (Finset.range_mono h)]
  · refine Finset.sum_congr rfl fun i hi => ?_
    have : i < w := by have := Finset.mem_range.mp hi; omega
    simp [this]
  · intro i _ hi
    have : b.getLsbD i = false := BitVec.getLsbD_of_ge b i (by simpa using hi)
    simp [this]

theorem weights_zipWith {x y : List (BitVec 8)} (hlen : x.length = y.length) :
    (weights (List.zipWith (· ^^^ ·) x y) : ZMod 2) = weights x + weights y := by
  induction x generalizing y with
  | nil => simp [List.length_eq_zero_iff.mp hlen.symm, weights]
  | cons a x ih =>
    obtain _ | ⟨b, y⟩ := y
    · cases hlen
    have hrest := ih (Nat.add_right_cancel hlen)
    simp only [weights, List.zipWith_cons_cons, List.map_cons, List.sum_cons, Nat.cast_add, weight_xor]
      at hrest ⊢
    rw [hrest]
    ring

section Parity

variable {poly} (hpoly : Odd (weight poly))
include hpoly

theorem weight_bitStep (c : BitVec w) : (weight (bitStep poly c) : ZMod 2) = weight c := by
  rw [← weight_shift c, Nat.cast_add]
  unfold bitStep
  cases c.getLsbD 0
  · simp
  · simp [weight_xor, ZMod.natCast_eq_one_iff_odd.mpr hpoly]

theorem weight_bitSteps (n : ℕ) (c : BitVec w) :
    (weight (bitSteps poly n c) : ZMod 2) = weight c := by
  induction n generalizing c with
  | zero => rfl
  | succ n ih => exact (ih (bitStep poly c)).trans (weight_bitStep hpoly c)

/-- The register has the parity of all that went into it. -/
theorem weight_crc (hw : 8 ≤ w) (c : BitVec w) (bytes : List (BitVec 8)) :
    (weight (crc poly c bytes) : ZMod 2) = weight c + weights bytes := by
  induction bytes generalizing c with
  | nil => simp [weights]
  | cons b bytes ih =>
    rw [crc_cons, ih, byteStep, weight_bitSteps hpoly, weight_xor, weight_setWidth hw, weights, weights,
      List.map_cons, List.sum_cons, Nat.cast_add, add_assoc]

/-- **An odd number of changed bits is seen.** -/
theorem crc_ne_of_odd (hw : 8 ≤ w) {x y : List (BitVec 8)} (c : BitVec w) (hlen : x.length = y.length)
    (hodd : Odd (weights (List.zipWith (· ^^^ ·) x y))) : crc poly c x ≠ crc poly c y := by
  intro h
  have hsum : (weight c : ZMod 2) + weights x = weight c + weights y := by
    rw [← weight_crc hpoly hw, ← weight_crc hpoly hw, h]
  have hone := ZMod.natCast_eq_one_iff_odd.mpr hodd
  rw [weights_zipWith hlen, add_left_cancel hsum, CharTwo.add_self_eq_zero] at hone
  exact zero_ne_one hone

end Parity

end OpenfortivpnRs.Lib.Crc
