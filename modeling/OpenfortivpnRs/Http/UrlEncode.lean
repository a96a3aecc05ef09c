import OpenfortivpnRs.Http.Response
import OpenfortivpnRs.Text.Percent

/-!
# What `url_encode` writes

The text is an escaped form of the input (`urlEncode_escaped`), so decoding gives the input back
(`percentDecode_urlEncode`), and it has no separator of a form in it (`separator_not_mem`).
-/

namespace OpenfortivpnRs.Http

open Text Lib.Bytes

/-- What one byte is written as. -/
def encodeByte (byte : UInt8) : List Char :=
  if isUnreserved byte then [Char.ofNat byte.toNat]
  else ['%', hexDigits.getD (byte.toNat / 16) '0', hexDigits.getD (byte.toNat % 16) '0']

theorem urlEncode_toList (s : String) : (urlEncode s).toList = (encode s.toList).flatMap encodeByte :=
  String.toList_ofList

/-- The characters that are kept. -/
def Unreserved (c : Char) : Prop := IsAscii c ∧ isUnreserved (UInt8.ofNat c.toNat) = true

instance : DecidablePred Unreserved := fun _ => inferInstanceAs (Decidable (_ ∧ _))

theorem ne_percent_of_unreserved {c : Char} (h : Unreserved c) : c ≠ '%' := by
  rintro rfl
  revert h
  decide

theorem isAscii_of_unreserved (b : UInt8) : isUnreserved b = true → b.toNat < 128 :=
  forall_byte (P := fun b => isUnreserved b = true → b.toNat < 128) (by decide +kernel) b

theorem encodeByte_unreserved {c : Char} (h : Unreserved c) :
    (String.utf8EncodeChar c).flatMap encodeByte = [c] := by
  have hnat : (UInt8.ofNat c.toNat).toNat = c.toNat := toNat_ofNat_of_lt (Nat.lt_trans h.1 (by decide))
  rw [encode_ascii h.1, List.flatMap_singleton, encodeByte, if_pos h.2, hnat, Char.ofNat_toNat]

theorem digitValue_hexDigits {n : ℕ} (h : n < 16) : digitValue (hexDigits.getD n '0') = some n := by
  have hall : ∀ n < 16, digitValue (hexDigits.getD n '0') = some n := by decide
  exact hall n h

/-- The bytes that are not kept are written as their codes. -/
theorem codes_of_reserved {bs : List UInt8} (h : ∀ b ∈ bs, isUnreserved b = false) :
    Codes bs (bs.flatMap encodeByte) := by
  induction bs with
  | nil => exact .nil
  | cons b bs ih =>
    have hb := UInt8.toNat_lt b
    rw [List.flatMap_cons, encodeByte, if_neg (by simp [h b List.mem_cons_self])]
    exact .cons (digitValue_hexDigits (by omega)) (digitValue_hexDigits (by omega))
      (ih fun b hb => h b (List.mem_cons_of_mem _ hb))

/-- The bytes of a character that is not kept are none that are. -/
theorem reserved_of_mem {c : Char} (h : ¬ Unreserved c) {b : UInt8} (hb : b ∈ String.utf8EncodeChar c) :
    isUnreserved b = false := by
  by_contra hkept
  rw [Bool.not_eq_false] at hkept
  have hlt := isAscii_of_unreserved b hkept
  by_cases hc : IsAscii c
  · rw [encode_ascii hc, List.mem_singleton] at hb
    exact h ⟨hc, hb ▸ hkept⟩
  · have := le_of_mem_encode hc hb
    omega

/-- **`url_encode` escapes its input.** -/
theorem urlEncode_escaped (s : String) : Escaped Unreserved s.toList (urlEncode s).toList := by
  rw [urlEncode_toList]
  induction s.toList with
  | nil => exact .nil
  | cons c s ih =>
    rw [encode_cons, List.flatMap_append]
    by_cases hc : Unreserved c
    · rw [encodeByte_unreserved hc]
      exact .keep hc ih
    · exact .code (codes_of_reserved fun _ hb => reserved_of_mem hc hb) ih

/-- **Decoding gives the input back.** -/
theorem percentDecode_urlEncode (s : String) : percentDecode (urlEncode s).toList = some s.toList :=
  percentDecode_escaped (fun _ h => ne_percent_of_unreserved h) (urlEncode_escaped s)

theorem urlEncode_injective {s t : String} (h : urlEncode s = urlEncode t) : s = t := by
  have hdecode := percentDecode_urlEncode s
  rw [h, percentDecode_urlEncode t] at hdecode
  exact (String.toList_inj.mp (Option.some.inj hdecode)).symm

theorem plain_of_mem_encodeByte (b : UInt8) : ∀ c ∈ encodeByte b, c ≠ '&' ∧ c ≠ '=' :=
  forall_byte (P := fun b => ∀ c ∈ encodeByte b, c ≠ '&' ∧ c ≠ '=') (by decide +kernel) b

theorem plain_of_mem_urlEncode {s : String} {c : Char} (h : c ∈ (urlEncode s).toList) : c ≠ '&' ∧ c ≠ '=' := by
  rw [urlEncode_toList] at h
  obtain ⟨b, -, hb⟩ := List.mem_flatMap.mp h
  exact plain_of_mem_encodeByte b c hb

/-- No separator of a form is written. -/
theorem separator_not_mem (s : String) : '&' ∉ (urlEncode s).toList ∧ '=' ∉ (urlEncode s).toList :=
  ⟨fun h => (plain_of_mem_urlEncode h).1 rfl, fun h => (plain_of_mem_urlEncode h).2 rfl⟩

end OpenfortivpnRs.Http
