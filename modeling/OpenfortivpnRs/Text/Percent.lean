import OpenfortivpnRs.Text.CaseSearch

/-!
# Percent-coding

Decoding reads each `%` with two hexadecimal digits behind it as a byte and every other character as
its bytes.  A text is escaped when some of its characters are written as the codes of their bytes, every
`%` among them (`Escaped`); then it is decoded to what it was (`percentDecode_escaped`).
-/

namespace OpenfortivpnRs.Text

/-- The value of a hexadecimal digit, in either case. -/
def digitValue (c : Char) : Option ℕ :=
  if '0' ≤ c ∧ c ≤ '9' then some (c.toNat - '0'.toNat)
  else if 'a' ≤ c ∧ c ≤ 'f' then some (c.toNat - 'a'.toNat + 10)
  else if 'A' ≤ c ∧ c ≤ 'F' then some (c.toNat - 'A'.toNat + 10)
  else none

/-- The byte whose code stands at the front. -/
def codeAt : List Char → Option UInt8
  | '%' :: h :: l :: _ => do return UInt8.ofNat (16 * (← digitValue h) + (← digitValue l))
  | _ => none

/-- The bytes that a percent-coded text stands for. -/
def percentBytes : List Char → List UInt8
  | [] => []
  | c :: s =>
    match codeAt (c :: s) with
    | some b => b :: percentBytes (s.drop 2)
    | none => String.utf8EncodeChar c ++ percentBytes s
termination_by s => s.length
decreasing_by
  · rw [List.length_drop, List.length_cons]
    omega
  · exact Nat.lt_succ_self _

/-- Percent-decoding. -/
def percentDecode (s : List Char) : Option (List Char) := fromUtf8 (percentBytes s)

theorem codeAt_of_ne {c : Char} (h : c ≠ '%') (s : List Char) : codeAt (c :: s) = none := by
  unfold codeAt
  split
  · rename_i heq
    exact absurd (List.cons.inj heq).1 h
  · rfl

@[simp] theorem percentBytes_nil : percentBytes [] = [] := by
  rw [percentBytes]

/-- A character that begins no code stands for its bytes. -/
theorem percentBytes_plain {c : Char} {s : List Char} (h : codeAt (c :: s) = none) :
    percentBytes (c :: s) = String.utf8EncodeChar c ++ percentBytes s := by
  rw [percentBytes, h]

theorem percentBytes_code {h l : Char} {m n : ℕ} (hh : digitValue h = some m) (hl : digitValue l = some n)
    (s : List Char) : percentBytes ('%' :: h :: l :: s) = UInt8.ofNat (16 * m + n) :: percentBytes s := by
  have hcode : codeAt ('%' :: h :: l :: s) = some (UInt8.ofNat (16 * m + n)) := by
    simp [codeAt, hh, hl]
  rw [percentBytes, hcode]
  rfl

/-! ### Escaped texts -/

/-- The codes of bytes, one behind the other. -/
inductive Codes : List UInt8 → List Char → Prop
  | nil : Codes [] []
  | cons {b : UInt8} {h l : Char} {bs : List UInt8} {t : List Char} (high : digitValue h = some (b.toNat / 16))
      (low : digitValue l = some (b.toNat % 16)) (rest : Codes bs t) : Codes (b :: bs) ('%' :: h :: l :: t)

/-- The second text is the first one with whole characters written as the codes of their bytes; only
characters that may be kept stand as they are. -/
inductive Escaped (kept : Char → Prop) : List Char → List Char → Prop
  | nil : Escaped kept [] []
  | keep {c : Char} {s e : List Char} (hkept : kept c) (rest : Escaped kept s e) : Escaped kept (c :: s) (c :: e)
  | code {c : Char} {s e t : List Char} (codes : Codes (String.utf8EncodeChar c) t) (rest : Escaped kept s e) :
      Escaped kept (c :: s) (t ++ e)

theorem Escaped.mono {kept kept' : Char → Prop} {s e : List Char} (h : Escaped kept s e)
    (himp : ∀ c, kept c → kept' c) : Escaped kept' s e := by
  induction h with
  | nil => exact .nil
  | keep hkept _ ih => exact .keep (himp _ hkept) ih
  | code codes _ ih => exact .code codes ih

theorem percentBytes_codes {bs : List UInt8} {t : List Char} (h : Codes bs t) (s : List Char) :
    percentBytes (t ++ s) = bs ++ percentBytes s := by
  induction h with
  | nil => rfl
  | @cons b _ _ _ _ high low _ ih =>
    have hbyte : 16 * (b.toNat / 16) + b.toNat % 16 = b.toNat := Nat.div_add_mod b.toNat 16
    rw [List.cons_append, List.cons_append, List.cons_append, percentBytes_code high low, ih, hbyte,
      UInt8.ofNat_toNat]
    rfl

theorem percentBytes_escaped {kept : Char → Prop} (hkept : ∀ c, kept c → c ≠ '%') {s e : List Char}
    (h : Escaped kept s e) : percentBytes e = encode s := by
  induction h with
  | nil => exact percentBytes_nil
  | keep hc _ ih => rw [percentBytes_plain (codeAt_of_ne (hkept _ hc) _), ih, encode_cons]
  | code codes _ ih => rw [percentBytes_codes codes, ih, encode_cons]

/-- **An escaped text is decoded to what it was.** -/
theorem percentDecode_escaped {kept : Char → Prop} (hkept : ∀ c, kept c → c ≠ '%') {s e : List Char}
    (h : Escaped kept s e) : percentDecode e = some s := by
  rw [percentDecode, percentBytes_escaped hkept h]
  exact fromUtf8_encode s

/-! ### Texts without codes -/

/-- Somewhere a code stands in the text. -/
def HasCode (s : List Char) : Prop := ∃ t, t <:+ s ∧ (codeAt t).isSome

theorem hasCode_cons (c : Char) (s : List Char) :
    HasCode (c :: s) ↔ (codeAt (c :: s)).isSome ∨ HasCode s := by
  constructor
  · rintro ⟨t, hsuffix, hcode⟩
    rcases List.suffix_cons_iff.mp hsuffix with rfl | hsuffix
    · exact .inl hcode
    · exact .inr ⟨t, hsuffix, hcode⟩
  · rintro (hcode | ⟨t, hsuffix, hcode⟩)
    · exact ⟨_, List.suffix_rfl, hcode⟩
    · exact ⟨t, hsuffix.trans (List.suffix_cons _ _), hcode⟩

/-- A code stands for one byte and takes three. -/
theorem length_percentBytes (s : List Char) :
    (percentBytes s).length ≤ (encode s).length ∧ (HasCode s → (percentBytes s).length < (encode s).length) := by
  induction hn : s.length using Nat.strong_induction_on generalizing s with
  | _ n ih =>
    cases s with
    | nil =>
      rw [percentBytes_nil]
      refine ⟨le_rfl, ?_⟩
      rintro ⟨t, hsuffix, hcode⟩
      rw [List.suffix_nil.mp hsuffix] at hcode
      cases hcode
    | cons c s =>
      rw [List.length_cons] at hn
      cases hcode : codeAt (c :: s) with
      | some b =>
        obtain ⟨h, l, rest, hs⟩ : ∃ h l rest, c :: s = '%' :: h :: l :: rest := by
          unfold codeAt at hcode
          split at hcode
          · rename_i heq
            exact ⟨_, _, _, heq⟩
          · cases hcode
        obtain ⟨rfl, rfl⟩ := List.cons.inj hs
        have hrest := (ih rest.length (by rw [← hn]; simp; omega) rest rfl).1
        have hbytes : percentBytes ('%' :: h :: l :: rest) = b :: percentBytes rest := by
          rw [percentBytes, hcode]
          rfl
        have hlen : (encode rest).length + 3 ≤ (encode ('%' :: h :: l :: rest)).length := by
          have h1 := h.utf8Size_pos
          have h2 := l.utf8Size_pos
          have h3 := '%'.utf8Size_pos
          simp only [length_encode, byteLen_cons]
          omega
        rw [hbytes, List.length_cons]
        exact ⟨by omega, fun _ => by omega⟩
      | none =>
        have hrest := ih s.length (by omega) s rfl
        rw [percentBytes_plain hcode, encode_cons, List.length_append, List.length_append, hasCode_cons, hcode]
        simp only [Option.isSome_none, Bool.false_eq_true, false_or]
        exact ⟨by omega, fun h => by have := hrest.2 h; omega⟩

/-- **A text is decoded to itself** if and only if no code stands in it. -/
theorem percentDecode_eq_self_iff (s : List Char) : percentDecode s = some s ↔ ¬ HasCode s := by
  constructor
  · intro h hcode
    have hbytes := encode_of_fromUtf8 h
    have hlt := (length_percentBytes s).2 hcode
    rw [hbytes] at hlt
    exact lt_irrefl _ hlt
  · intro hcode
    suffices hbytes : percentBytes s = encode s by
      rw [percentDecode, hbytes]
      exact fromUtf8_encode s
    induction s with
    | nil => exact percentBytes_nil
    | cons c s ih =>
      rw [hasCode_cons, not_or, Option.not_isSome_iff_eq_none] at hcode
      rw [percentBytes_plain hcode.1, ih hcode.2, encode_cons]

end OpenfortivpnRs.Text
