import OpenfortivpnRs.Hdlc.Codec

/-!
# Escaping and unescaping

A sender may escape any byte but 0x5d and 0x5e, whose escapes would be an escape byte and a flag,
and must escape the bytes below 0x20, the escape byte and the flag; bytes below 0x20 that stand
unescaped on the line are noise.  `Escapes c raw` says that `raw` is some such form of `c`;
`unescape` takes each of them back to `c` (`Escapes.unescape`), among them what `encode` sends
(`escapes_flatMap`).
-/

namespace OpenfortivpnRs.Hdlc

open Lib.Bytes

/-! ### What `encode` sends for a byte -/

/-- What `pushEscaped` appends for a byte. -/
def escaped (byte : UInt8) : List UInt8 :=
  if inSendingAccm byte then [0x7d, byte ^^^ 0x20] else [byte]

theorem pushEscaped_eq (out : List UInt8) (byte : UInt8) :
    pushEscaped out byte = out ++ escaped byte := by
  unfold pushEscaped escaped
  split <;> rfl

theorem foldl_pushEscaped (packet out : List UInt8) :
    packet.foldl pushEscaped out = out ++ packet.flatMap escaped := by
  induction packet generalizing out with
  | nil => simp
  | cons b packet ih => rw [List.foldl_cons, ih, pushEscaped_eq, List.flatMap_cons, List.append_assoc]

theorem flag_not_mem_escaped (b : UInt8) : flag ∉ escaped b := by
  revert b
  exact forall_byte (by decide +kernel)

/-! ### What may be sent -/

/-- What may be sent for one byte. -/
inductive ByteEscape (b : UInt8) : List UInt8 → Prop
  | raw : 0x20 ≤ b → b ≠ 0x7d → b ≠ 0x7e → ByteEscape b [b]
  | escaped : b ≠ 0x5d → b ≠ 0x5e → ByteEscape b [0x7d, b ^^^ 0x20]

/-- What may arrive for a sequence of bytes: something for each of them, and noise below 0x20 before
every one and after the last. -/
inductive Escapes : List UInt8 → List UInt8 → Prop
  | nil (noise : List UInt8) (h : ∀ n ∈ noise, n < 0x20) : Escapes [] noise
  | cons (noise : List UInt8) (h : ∀ n ∈ noise, n < 0x20) {b : UInt8} {sent c raw : List UInt8}
      (hb : ByteEscape b sent) (hc : Escapes c raw) : Escapes (b :: c) (noise ++ sent ++ raw)

/-- What `encode` sends may be sent. -/
theorem byteEscape_escaped (b : UInt8) : ByteEscape b (escaped b) := by
  have hbyte : ∀ b : UInt8, if inSendingAccm b then b ≠ 0x5d ∧ b ≠ 0x5e
      else 0x20 ≤ b ∧ b ≠ 0x7d ∧ b ≠ 0x7e := forall_byte (by decide +kernel)
  have hb := hbyte b
  unfold escaped
  split
  · rename_i hsent
    rw [if_pos hsent] at hb
    exact .escaped hb.1 hb.2
  · rename_i hsent
    rw [if_neg hsent] at hb
    exact .raw hb.1 hb.2.1 hb.2.2

theorem escapes_flatMap (bytes : List UInt8) : Escapes bytes (bytes.flatMap escaped) := by
  induction bytes with
  | nil => exact .nil [] nofun
  | cons b bytes ih => exact .cons [] nofun (byteEscape_escaped b) ih

/-! ### The unescaping loop -/

theorem noise_byte (n : UInt8) : n < 0x20 → n ≠ 0x7d ∧ inReceivingAccm n = true := by
  revert n
  exact forall_byte (by decide +kernel)

/-- Noise is dropped. -/
theorem unescape_noise (noise : List UInt8) (h : ∀ n ∈ noise, n < 0x20) (packet raw : List UInt8) :
    unescape packet false (noise ++ raw) = unescape packet false raw := by
  induction noise with
  | nil => rfl
  | cons n noise ih =>
    obtain ⟨h1, h2⟩ := noise_byte n (h n (List.mem_cons_self ..))
    rw [List.cons_append, unescape, if_neg h1]
    simp only [Bool.false_eq_true, if_false, h2, if_true]
    exact ih fun m hm => h m (List.mem_cons_of_mem _ hm)

theorem raw_byte (b : UInt8) : 0x20 ≤ b → inReceivingAccm b = false := by
  revert b
  exact forall_byte (by decide +kernel)

/-- Only 0x5d has the escape byte for its partner, and partners come back. -/
theorem escaped_byte (b : UInt8) : b ≠ 0x5d → b ^^^ 0x20 ≠ 0x7d ∧ b ^^^ 0x20 ^^^ 0x20 = b := by
  revert b
  exact forall_byte (by decide +kernel)

theorem unescape_sent {b : UInt8} {sent : List UInt8} (h : ByteEscape b sent) (packet raw : List UInt8) :
    unescape packet false (sent ++ raw) = unescape (packet ++ [b]) false raw := by
  cases h with
  | raw hge hesc _ =>
    rw [List.singleton_append, unescape, if_neg hesc]
    simp [raw_byte b hge]
  | escaped hd _ =>
    obtain ⟨h1, h2⟩ := escaped_byte b hd
    simp [unescape, h1, h2]

/-- **Every escaping of `c` unescapes to `c`.** -/
theorem Escapes.unescape {c raw : List UInt8} (h : Escapes c raw) (packet : List UInt8) :
    unescape packet false raw = .ok (packet ++ c, false) := by
  induction h generalizing packet with
  | nil noise hn =>
    have := unescape_noise noise hn packet []
    rw [List.append_nil] at this
    rw [this, List.append_nil]
    rfl
  | cons noise hn hb _ ih =>
    rw [List.append_assoc, unescape_noise noise hn, unescape_sent hb, ih, List.append_assoc]
    rfl

/-- Unescaping adds no bytes. -/
theorem length_unescape_le {raw packet out : List UInt8} {inEscape e : Bool}
    (h : unescape packet inEscape raw = .ok (out, e)) : out.length ≤ packet.length + raw.length := by
  induction raw generalizing packet inEscape with
  | nil =>
    simp only [unescape, Except.ok.injEq, Prod.mk.injEq] at h
    rw [← h.1]
    simp
  | cons byte raw ih =>
    rw [List.length_cons]
    unfold unescape at h
    split at h
    · split at h
      · cases h
      · have := ih h
        omega
    · split at h
      · have := ih h
        simp only [List.length_append, List.length_cons, List.length_nil] at this
        omega
      · split at h
        · have := ih h
          omega
        · have := ih h
          simp only [List.length_append, List.length_cons, List.length_nil] at this
          omega

end OpenfortivpnRs.Hdlc
