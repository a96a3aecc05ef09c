import OpenfortivpnRs.Lib.Bytes
import OpenfortivpnRs.Text

/-!
# UTF-8

Decoding the bytes of a string gives the string back (`fromUtf8Lossy_asBytes`): each character is
read off the front of the bytes it was written as (`nextChar_encode`).
-/

namespace OpenfortivpnRs.Text

open Lib.Bytes

/-- The continuation bytes by value. -/
theorem isCont_of_toNat (b : UInt8) : 128 ≤ b.toNat ∧ b.toNat < 192 → isCont b = true :=
  forall_byte (P := fun b => 128 ≤ b.toNat ∧ b.toNat < 192 → isCont b = true) (by decide +kernel) b

theorem toNat_ofNat_of_lt {n : ℕ} (h : n < 256) : (UInt8.ofNat n).toNat = n := by
  rw [UInt8.toNat_ofNat', Nat.mod_eq_of_lt (by omega)]

/-- The character of a value that is one. -/
theorem ofNat_val (c : Char) : Char.ofNat c.val.toNat = c := Char.ofNat_toNat c

section Encode

variable (c : Char) (rest : List UInt8)

theorem val_lt : c.val.toNat < 0xd800 ∨ 0xdfff < c.val.toNat ∧ c.val.toNat < 0x110000 := c.valid

theorem nextChar_one (h : c.val.toNat ≤ 0x7f) :
    nextChar (String.utf8EncodeChar c ++ rest) = (some c, (String.utf8EncodeChar c).length) := by
  have hb : (UInt8.ofNat c.val.toNat).toNat = c.val.toNat := toNat_ofNat_of_lt (by omega)
  have henc : String.utf8EncodeChar c = [UInt8.ofNat c.val.toNat] := by
    unfold String.utf8EncodeChar
    exact if_pos h
  rw [henc]
  generalize UInt8.ofNat c.val.toNat = b at hb
  have hlt : b < 0x80 := by
    rw [UInt8.lt_iff_toNat_lt, hb]
    exact Nat.lt_succ_of_le h
  show (if b < 0x80 then (some (Char.ofNat b.toNat), 1) else _) = _
  rw [if_pos hlt, hb, ofNat_val]
  rfl

theorem nextChar_two (h1 : 0x7f < c.val.toNat) (h2 : c.val.toNat ≤ 0x7ff) :
    nextChar (String.utf8EncodeChar c ++ rest) = (some c, (String.utf8EncodeChar c).length) := by
  have hb : (UInt8.ofNat (c.val.toNat / 64 % 32 + 0xc0)).toNat = c.val.toNat / 64 % 32 + 0xc0 :=
    toNat_ofNat_of_lt (by omega)
  have hb1 : (UInt8.ofNat (c.val.toNat % 64 + 0x80)).toNat = c.val.toNat % 64 + 0x80 :=
    toNat_ofNat_of_lt (by omega)
  have henc : String.utf8EncodeChar c = [UInt8.ofNat (c.val.toNat / 64 % 32 + 0xc0),
      UInt8.ofNat (c.val.toNat % 64 + 0x80)] := by
    unfold String.utf8EncodeChar
    exact (if_neg (by omega)).trans (if_pos h2)
  rw [henc]
  generalize UInt8.ofNat (c.val.toNat / 64 % 32 + 0xc0) = b at hb
  generalize UInt8.ofNat (c.val.toNat % 64 + 0x80) = b1 at hb1
  have hn1 : ¬ b < 0x80 := by
    rw [UInt8.lt_iff_toNat_lt, hb]
    show ¬ _ < 128
    omega
  have hy : 0xc2 ≤ b ∧ b ≤ 0xdf := by
    rw [UInt8.le_iff_toNat_le, UInt8.le_iff_toNat_le, hb]
    show 194 ≤ _ ∧ _ ≤ 223
    omega
  have hcont : isCont b1 = true := isCont_of_toNat b1 (by omega)
  have hval : b.toNat % 32 * 64 + b1.toNat % 64 = c.val.toNat := by omega
  show (if b < 0x80 then _ else if 0xc2 ≤ b ∧ b ≤ 0xdf then
    (if ¬ isCont b1 then _ else (some (Char.ofNat (b.toNat % 32 * 64 + b1.toNat % 64)), 2)) else _) = _
  rw [if_neg hn1, if_pos hy, if_neg (by simp [hcont]), hval, ofNat_val]
  rfl

theorem nextChar_three (h1 : 0x7ff < c.val.toNat) (h2 : c.val.toNat ≤ 0xffff) :
    nextChar (String.utf8EncodeChar c ++ rest) = (some c, (String.utf8EncodeChar c).length) := by
  have hvalid := val_lt c
  have hb : (UInt8.ofNat (c.val.toNat / 4096 % 16 + 0xe0)).toNat = c.val.toNat / 4096 % 16 + 0xe0 :=
    toNat_ofNat_of_lt (by omega)
  have hb1 : (UInt8.ofNat (c.val.toNat / 64 % 64 + 0x80)).toNat = c.val.toNat / 64 % 64 + 0x80 :=
    toNat_ofNat_of_lt (by omega)
  have hb2 : (UInt8.ofNat (c.val.toNat % 64 + 0x80)).toNat = c.val.toNat % 64 + 0x80 :=
    toNat_ofNat_of_lt (by omega)
  have henc : String.utf8EncodeChar c = [UInt8.ofNat (c.val.toNat / 4096 % 16 + 0xe0),
      UInt8.ofNat (c.val.toNat / 64 % 64 + 0x80), UInt8.ofNat (c.val.toNat % 64 + 0x80)] := by
    unfold String.utf8EncodeChar
    exact (if_neg (by omega)).trans ((if_neg (by omega)).trans (if_pos h2))
  rw [henc]
  generalize UInt8.ofNat (c.val.toNat / 4096 % 16 + 0xe0) = b at hb
  generalize UInt8.ofNat (c.val.toNat / 64 % 64 + 0x80) = b1 at hb1
  generalize UInt8.ofNat (c.val.toNat % 64 + 0x80) = b2 at hb2
  have hn1 : ¬ b < 0x80 := by
    rw [UInt8.lt_iff_toNat_lt, hb]
    show ¬ _ < 128
    omega
  have hn2 : ¬ (0xc2 ≤ b ∧ b ≤ 0xdf) := by
    rw [UInt8.le_iff_toNat_le, UInt8.le_iff_toNat_le, hb]
    show ¬ (194 ≤ _ ∧ _ ≤ 223)
    omega
  have hy : 0xe0 ≤ b ∧ b ≤ 0xef := by
    rw [UInt8.le_iff_toNat_le, UInt8.le_iff_toNat_le, hb]
    show 224 ≤ _ ∧ _ ≤ 239
    omega
  -- The surrogates and the overlong forms are what the second byte excludes.
  have hsecond : secondOfThree b b1 = true := by
    simp only [secondOfThree, Bool.or_eq_true, Bool.and_eq_true, beq_iff_eq, decide_eq_true_eq,
      UInt8.le_iff_toNat_le, ← UInt8.toNat_inj, hb, hb1]
    simp only [UInt8.reduceToNat]
    omega
  have hcont : isCont b2 = true := isCont_of_toNat b2 (by omega)
  have hval : (b.toNat % 16 * 64 + b1.toNat % 64) * 64 + b2.toNat % 64 = c.val.toNat := by omega
  show (if b < 0x80 then _ else if 0xc2 ≤ b ∧ b ≤ 0xdf then _ else if 0xe0 ≤ b ∧ b ≤ 0xef then
    (if ¬ secondOfThree b b1 then _ else if ¬ isCont b2 then _ else
      (some (Char.ofNat ((b.toNat % 16 * 64 + b1.toNat % 64) * 64 + b2.toNat % 64)), 3)) else _) = _
  rw [if_neg hn1, if_neg hn2, if_pos hy, if_neg (by simp [hsecond]), if_neg (by simp [hcont]), hval,
    ofNat_val]
  rfl

theorem nextChar_four (h : 0xffff < c.val.toNat) :
    nextChar (String.utf8EncodeChar c ++ rest) = (some c, (String.utf8EncodeChar c).length) := by
  have hvalid := val_lt c
  have hb : (UInt8.ofNat (c.val.toNat / 262144 % 8 + 0xf0)).toNat = c.val.toNat / 262144 % 8 + 0xf0 :=
    toNat_ofNat_of_lt (by omega)
  have hb1 : (UInt8.ofNat (c.val.toNat / 4096 % 64 + 0x80)).toNat = c.val.toNat / 4096 % 64 + 0x80 :=
    toNat_ofNat_of_lt (by omega)
  have hb2 : (UInt8.ofNat (c.val.toNat / 64 % 64 + 0x80)).toNat = c.val.toNat / 64 % 64 + 0x80 :=
    toNat_ofNat_of_lt (by omega)
  have hb3 : (UInt8.ofNat (c.val.toNat % 64 + 0x80)).toNat = c.val.toNat % 64 + 0x80 :=
    toNat_ofNat_of_lt (by omega)
  have henc : String.utf8EncodeChar c = [UInt8.ofNat (c.val.toNat / 262144 % 8 + 0xf0),
      UInt8.ofNat (c.val.toNat / 4096 % 64 + 0x80), UInt8.ofNat (c.val.toNat / 64 % 64 + 0x80),
      UInt8.ofNat (c.val.toNat % 64 + 0x80)] := by
    unfold String.utf8EncodeChar
    exact (if_neg (by omega)).trans ((if_neg (by omega)).trans (if_neg (by omega)))
  rw [henc]
  generalize UInt8.ofNat (c.val.toNat / 262144 % 8 + 0xf0) = b at hb
  generalize UInt8.ofNat (c.val.toNat / 4096 % 64 + 0x80) = b1 at hb1
  generalize UInt8.ofNat (c.val.toNat / 64 % 64 + 0x80) = b2 at hb2
  generalize UInt8.ofNat (c.val.toNat % 64 + 0x80) = b3 at hb3
  have hn1 : ¬ b < 0x80 := by
    rw [UInt8.lt_iff_toNat_lt, hb]
    show ¬ _ < 128
    omega
  have hn2 : ¬ (0xc2 ≤ b ∧ b ≤ 0xdf) := by
    rw [UInt8.le_iff_toNat_le, UInt8.le_iff_toNat_le, hb]
    show ¬ (194 ≤ _ ∧ _ ≤ 223)
    omega
  have hn3 : ¬ (0xe0 ≤ b ∧ b ≤ 0xef) := by
    rw [UInt8.le_iff_toNat_le, UInt8.le_iff_toNat_le, hb]
    show ¬ (224 ≤ _ ∧ _ ≤ 239)
    omega
  have hy : 0xf0 ≤ b ∧ b ≤ 0xf4 := by
    rw [UInt8.le_iff_toNat_le, UInt8.le_iff_toNat_le, hb]
    show 240 ≤ _ ∧ _ ≤ 244
    omega
  have hsecond : secondOfFour b b1 = true := by
    simp only [secondOfFour, Bool.or_eq_true, Bool.and_eq_true, beq_iff_eq, decide_eq_true_eq,
      UInt8.le_iff_toNat_le, ← UInt8.toNat_inj, hb, hb1]
    simp only [UInt8.reduceToNat]
    omega
  have hcont2 : isCont b2 = true := isCont_of_toNat b2 (by omega)
  have hcont3 : isCont b3 = true := isCont_of_toNat b3 (by omega)
  have hval : ((b.toNat % 8 * 64 + b1.toNat % 64) * 64 + b2.toNat % 64) * 64 + b3.toNat % 64 =
      c.val.toNat := by omega
  show (if b < 0x80 then _ else if 0xc2 ≤ b ∧ b ≤ 0xdf then _ else if 0xe0 ≤ b ∧ b ≤ 0xef then _ else
    if 0xf0 ≤ b ∧ b ≤ 0xf4 then
      (if ¬ secondOfFour b b1 then _ else if ¬ isCont b2 then _ else if ¬ isCont b3 then _ else
        (some (Char.ofNat (((b.toNat % 8 * 64 + b1.toNat % 64) * 64 + b2.toNat % 64) * 64 +
          b3.toNat % 64)), 4)) else _) = _
  rw [if_neg hn1, if_neg hn2, if_neg hn3, if_pos hy, if_neg (by simp [hsecond]),
    if_neg (by simp [hcont2]), if_neg (by simp [hcont3]), hval, ofNat_val]
  rfl

/-- **A character is read off the front of its bytes.** -/
theorem nextChar_encode :
    nextChar (String.utf8EncodeChar c ++ rest) = (some c, (String.utf8EncodeChar c).length) := by
  by_cases h1 : c.val.toNat ≤ 0x7f
  · exact nextChar_one c rest h1
  · by_cases h2 : c.val.toNat ≤ 0x7ff
    · exact nextChar_two c rest (by omega) h2
    · by_cases h3 : c.val.toNat ≤ 0xffff
      · exact nextChar_three c rest (by omega) h3
      · exact nextChar_four c rest (by omega)

end Encode

/-- The bytes of a text are decoded to it, whatever follows. -/
theorem lossyChars_append (s : List Char) (rest : List UInt8) :
    lossyChars (s.flatMap String.utf8EncodeChar ++ rest) = s ++ lossyChars rest := by
  induction s with
  | nil => rfl
  | cons c s ih =>
    rw [List.flatMap_cons, List.append_assoc]
    have hnext := nextChar_encode c (s.flatMap String.utf8EncodeChar ++ rest)
    have hlen := String.length_utf8EncodeChar c
    obtain ⟨b, more, hbytes⟩ := List.exists_cons_of_ne_nil
      (List.ne_nil_of_length_pos (hlen ▸ Char.utf8Size_pos c))
    rw [hbytes, List.cons_append] at hnext ⊢
    rw [lossyChars, hnext]
    have hdrop : (more ++ (s.flatMap String.utf8EncodeChar ++ rest)).drop ((b :: more).length - 1) =
        s.flatMap String.utf8EncodeChar ++ rest := List.drop_left' rfl
    simp only [hdrop, ih]
    rfl

theorem lossyChars_encode (s : List Char) : lossyChars (s.flatMap String.utf8EncodeChar) = s := by
  have h := lossyChars_append s []
  rw [List.append_nil] at h
  rw [h]
  simp [lossyChars]

/-- **Decoding the bytes of a string gives the string.** -/
theorem fromUtf8Lossy_asBytes (s : String) : fromUtf8Lossy (asBytes s) = s := by
  unfold fromUtf8Lossy asBytes
  rw [lossyChars_encode, String.ofList_toList]

/-! ### Strict decoding -/

theorem fromUtf8_append (s : List Char) (rest : List UInt8) :
    fromUtf8 (s.flatMap String.utf8EncodeChar ++ rest) = (fromUtf8 rest).map fun t => s ++ t := by
  induction s with
  | nil => cases h : fromUtf8 rest <;> simp [h]
  | cons c s ih =>
    rw [List.flatMap_cons, List.append_assoc]
    have hnext := nextChar_encode c (s.flatMap String.utf8EncodeChar ++ rest)
    have hlen := String.length_utf8EncodeChar c
    obtain ⟨b, more, hbytes⟩ := List.exists_cons_of_ne_nil
      (List.ne_nil_of_length_pos (hlen ▸ Char.utf8Size_pos c))
    rw [hbytes, List.cons_append] at hnext ⊢
    rw [fromUtf8, hnext]
    have hdrop : (more ++ (s.flatMap String.utf8EncodeChar ++ rest)).drop ((b :: more).length - 1) =
        s.flatMap String.utf8EncodeChar ++ rest := List.drop_left' rfl
    simp only [hdrop, ih, Option.map_map]
    rfl

/-- The bytes of a text are decoded to it. -/
theorem fromUtf8_encode (s : List Char) : fromUtf8 (s.flatMap String.utf8EncodeChar) = some s := by
  have h := fromUtf8_append s []
  rw [List.append_nil] at h
  rw [h]
  simp [fromUtf8]

/-- An ASCII byte of a character is that character. -/
theorem toNat_of_mem_encode {c : Char} {b : UInt8} (hb : b.toNat < 128) (h : b ∈ String.utf8EncodeChar c) :
    c.val.toNat = b.toNat := by
  have hvalid := val_lt c
  unfold String.utf8EncodeChar at h
  dsimp only at h
  split_ifs at h with h1 h2 h3
  · rw [List.mem_singleton] at h
    rw [h, toNat_ofNat_of_lt (by omega)]
  all_goals
    -- a byte of a sequence is no ASCII byte
    exfalso
    simp only [List.mem_cons, List.not_mem_nil, or_false] at h
    rcases h with rfl | rfl | rfl | rfl <;> (rw [toNat_ofNat_of_lt (by omega)] at hb; omega)

/-- A character below 128 that is not in a text is no byte of it. -/
theorem not_mem_encode {c : Char} {s : List Char} (hc : c.val.toNat < 128) (h : c ∉ s) :
    UInt8.ofNat c.val.toNat ∉ s.flatMap String.utf8EncodeChar := by
  have hb : (UInt8.ofNat c.val.toNat).toNat = c.val.toNat := toNat_ofNat_of_lt (by omega)
  intro hmem
  obtain ⟨d, hd, hbyte⟩ := List.mem_flatMap.mp hmem
  have heq := toNat_of_mem_encode (by omega) hbyte
  rw [hb] at heq
  have hcd : d = c := Char.ext (UInt32.toNat_inj.mp heq)
  exact h (hcd ▸ hd)

/-- What stands for a byte behind the end is no continuation byte. -/
theorem drop_of_isCont {bytes : List UInt8} {i : ℕ} (h : isCont (bytes.getD i 0) = true) :
    bytes.drop i = bytes.getD i 0 :: bytes.drop (i + 1) := by
  rw [List.getD_eq_getElem?_getD] at h ⊢
  by_cases hlt : i < bytes.length
  · rw [List.drop_eq_getElem_cons hlt, List.getElem?_eq_getElem hlt]
    rfl
  · rw [List.getElem?_eq_none (by omega)] at h
    exact absurd h (by decide)


theorem toNat_of_isCont (b : UInt8) : isCont b = true → 128 ≤ b.toNat ∧ b.toNat < 192 :=
  forall_byte (P := fun b => isCont b = true → 128 ≤ b.toNat ∧ b.toNat < 192) (by decide +kernel) b

theorem val_ofNat {v : ℕ} (h : v.isValidChar) : (Char.ofNat v).val.toNat = v := by
  unfold Char.ofNat
  rw [dif_pos h]
  rfl

/-- The second byte of three stands there, is a continuation byte, and keeps overlong forms and surrogates
out. -/
theorem of_secondOfThree {b b1 : UInt8} (h : secondOfThree b b1 = true) :
    128 ≤ b1.toNat ∧ b1.toNat < 192 ∧ 224 ≤ b.toNat ∧ b.toNat ≤ 239 ∧ (b.toNat = 224 → 160 ≤ b1.toNat) ∧
      (b.toNat = 237 → b1.toNat < 160) := by
  simp only [secondOfThree, Bool.or_eq_true, Bool.and_eq_true, beq_iff_eq, decide_eq_true_eq,
    UInt8.le_iff_toNat_le, ← UInt8.toNat_inj] at h
  simp only [UInt8.reduceToNat] at h
  omega

theorem of_secondOfFour {b b1 : UInt8} (h : secondOfFour b b1 = true) :
    128 ≤ b1.toNat ∧ b1.toNat < 192 ∧ 240 ≤ b.toNat ∧ b.toNat ≤ 244 ∧ (b.toNat = 240 → 144 ≤ b1.toNat) ∧
      (b.toNat = 244 → b1.toNat < 144) := by
  simp only [secondOfFour, Bool.or_eq_true, Bool.and_eq_true, beq_iff_eq, decide_eq_true_eq,
    UInt8.le_iff_toNat_le, ← UInt8.toNat_inj] at h
  simp only [UInt8.reduceToNat] at h
  omega

theorem isCont_of_secondOfThree {b b1 : UInt8} (h : secondOfThree b b1 = true) : isCont b1 = true :=
  isCont_of_toNat b1 ⟨(of_secondOfThree h).1, (of_secondOfThree h).2.1⟩

theorem isCont_of_secondOfFour {b b1 : UInt8} (h : secondOfFour b b1 = true) : isCont b1 = true :=
  isCont_of_toNat b1 ⟨(of_secondOfFour h).1, (of_secondOfFour h).2.1⟩

section Bytes

variable {b b1 b2 b3 : UInt8}

theorem encode_one (h : b < 0x80) : String.utf8EncodeChar (Char.ofNat b.toNat) = [b] := by
  have hb : b.toNat < 128 := UInt8.lt_iff_toNat_lt.mp h
  have hv : (Char.ofNat b.toNat).val.toNat = b.toNat := val_ofNat (.inl (by omega))
  unfold String.utf8EncodeChar
  simp only [hv]
  rw [if_pos (by omega), UInt8.ofNat_toNat]

theorem encode_two (h : 0xc2 ≤ b ∧ b ≤ 0xdf) (h1 : isCont b1 = true) :
    String.utf8EncodeChar (Char.ofNat (b.toNat % 32 * 64 + b1.toNat % 64)) = [b, b1] := by
  have hb : 194 ≤ b.toNat ∧ b.toNat ≤ 223 := ⟨UInt8.le_iff_toNat_le.mp h.1, UInt8.le_iff_toNat_le.mp h.2⟩
  have hb1 := toNat_of_isCont b1 h1
  set v := b.toNat % 32 * 64 + b1.toNat % 64 with hv
  have hval : (Char.ofNat v).val.toNat = v := val_ofNat (.inl (by omega))
  have e : v / 64 % 32 + 0xc0 = b.toNat := by omega
  have e1 : v % 64 + 0x80 = b1.toNat := by omega
  unfold String.utf8EncodeChar
  simp only [hval]
  rw [if_neg (by omega), if_pos (by omega), e, e1, UInt8.ofNat_toNat, UInt8.ofNat_toNat]

theorem encode_three (h1 : secondOfThree b b1 = true) (h2 : isCont b2 = true) :
    String.utf8EncodeChar (Char.ofNat ((b.toNat % 16 * 64 + b1.toNat % 64) * 64 + b2.toNat % 64)) =
      [b, b1, b2] := by
  have hb1 := of_secondOfThree h1
  have hb2 := toNat_of_isCont b2 h2
  set v := (b.toNat % 16 * 64 + b1.toNat % 64) * 64 + b2.toNat % 64 with hv
  have hvalid : v.isValidChar := by
    unfold Nat.isValidChar
    omega
  have hval := val_ofNat hvalid
  have e : v / 4096 % 16 + 0xe0 = b.toNat := by omega
  have e1 : v / 64 % 64 + 0x80 = b1.toNat := by omega
  have e2 : v % 64 + 0x80 = b2.toNat := by omega
  unfold String.utf8EncodeChar
  simp only [hval]
  rw [if_neg (by omega), if_neg (by omega), if_pos (by omega), e, e1, e2, UInt8.ofNat_toNat,
    UInt8.ofNat_toNat, UInt8.ofNat_toNat]

theorem encode_four (h1 : secondOfFour b b1 = true) (h2 : isCont b2 = true) (h3 : isCont b3 = true) :
    String.utf8EncodeChar (Char.ofNat (((b.toNat % 8 * 64 + b1.toNat % 64) * 64 + b2.toNat % 64) * 64 +
      b3.toNat % 64)) = [b, b1, b2, b3] := by
  have hb1 := of_secondOfFour h1
  have hb2 := toNat_of_isCont b2 h2
  have hb3 := toNat_of_isCont b3 h3
  set v := ((b.toNat % 8 * 64 + b1.toNat % 64) * 64 + b2.toNat % 64) * 64 + b3.toNat % 64 with hv
  have hvalid : v.isValidChar := by
    unfold Nat.isValidChar
    omega
  have hval := val_ofNat hvalid
  have e : v / 262144 % 8 + 0xf0 = b.toNat := by omega
  have e1 : v / 4096 % 64 + 0x80 = b1.toNat := by omega
  have e2 : v / 64 % 64 + 0x80 = b2.toNat := by omega
  have e3 : v % 64 + 0x80 = b3.toNat := by omega
  unfold String.utf8EncodeChar
  simp only [hval]
  rw [if_neg (by omega), if_neg (by omega), if_neg (by omega), e, e1, e2, e3, UInt8.ofNat_toNat,
    UInt8.ofNat_toNat, UInt8.ofNat_toNat, UInt8.ofNat_toNat]

end Bytes

/-- **A character that is read off the front stands there.** -/
theorem encode_of_nextChar {b : UInt8} {rest : List UInt8} {c : Char} {n : ℕ}
    (h : nextChar (b :: rest) = (some c, n)) :
    b :: rest = String.utf8EncodeChar c ++ rest.drop (n - 1) := by
  have hdrop : rest = rest.drop 0 := rfl
  unfold nextChar at h
  simp only [List.getD_cons_zero, List.getD_cons_succ] at h
  by_cases h1 : b < 0x80
  · rw [if_pos h1] at h
    cases h
    rw [encode_one h1]
    rfl
  rw [if_neg h1] at h
  by_cases h2 : 0xc2 ≤ b ∧ b ≤ 0xdf
  · rw [if_pos h2] at h
    split at h
    · cases h
    · rename_i hcont
      cases h
      rw [not_not] at hcont
      rw [encode_two h2 hcont]
      conv_lhs => rw [hdrop, drop_of_isCont hcont]
      rfl
  rw [if_neg h2] at h
  by_cases h3 : 0xe0 ≤ b ∧ b ≤ 0xef
  · rw [if_pos h3] at h
    split at h
    · cases h
    · rename_i hsecond
      rw [not_not] at hsecond
      split at h
      · cases h
      · rename_i hcont
        rw [not_not] at hcont
        cases h
        rw [encode_three hsecond hcont]
        conv_lhs => rw [hdrop, drop_of_isCont (isCont_of_secondOfThree hsecond), drop_of_isCont hcont]
        rfl
  rw [if_neg h3] at h
  by_cases h4 : 0xf0 ≤ b ∧ b ≤ 0xf4
  · rw [if_pos h4] at h
    split at h
    · cases h
    · rename_i hsecond
      rw [not_not] at hsecond
      split at h
      · cases h
      · rename_i hcont
        rw [not_not] at hcont
        split at h
        · cases h
        · rename_i hcont'
          rw [not_not] at hcont'
          cases h
          rw [encode_four hsecond hcont hcont']
          conv_lhs => rw [hdrop, drop_of_isCont (isCont_of_secondOfFour hsecond), drop_of_isCont hcont,
            drop_of_isCont hcont']
          rfl
  · rw [if_neg h4] at h
    cases h

/-- **Bytes that are decoded are the bytes of the text.** -/
theorem encode_of_fromUtf8 {bytes : List UInt8} {s : List Char} (h : fromUtf8 bytes = some s) :
    bytes = s.flatMap String.utf8EncodeChar := by
  induction bytes using fromUtf8.induct generalizing s with
  | case1 =>
    rw [fromUtf8] at h
    cases h
    rfl
  | case2 b rest c n hnext ih =>
    rw [fromUtf8, hnext] at h
    obtain ⟨t, ht, rfl⟩ := Option.map_eq_some_iff.mp h
    rw [List.flatMap_cons, ← ih ht]
    exact encode_of_nextChar hnext
  | case3 b rest n hnext =>
    rw [fromUtf8, hnext] at h
    cases h

end OpenfortivpnRs.Text
