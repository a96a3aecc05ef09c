import OpenfortivpnRs.Text.Utf8

/-!
# Searching in any letter case

Where an ASCII needle stands in a text in any letter case, by characters (`splitOnceIgnoreCase`) and by
windows of bytes.  A byte of a character that is not ASCII is no byte of the needle, so both searches
stop at the same place, and that is between two characters (`windowPosition_encode`).
-/

namespace OpenfortivpnRs.Text

/-- The bytes of a text. -/
def encode (s : List Char) : List UInt8 := s.flatMap String.utf8EncodeChar

@[simp] theorem encode_nil : encode [] = [] := rfl

theorem encode_cons (c : Char) (s : List Char) : encode (c :: s) = String.utf8EncodeChar c ++ encode s :=
  List.flatMap_cons

theorem encode_append (s t : List Char) : encode (s ++ t) = encode s ++ encode t := List.flatMap_append

/-- `str::len`: the length in bytes. -/
def byteLen (s : List Char) : ℕ := (s.map Char.utf8Size).sum

@[simp] theorem byteLen_nil : byteLen [] = 0 := rfl

theorem byteLen_cons (c : Char) (s : List Char) : byteLen (c :: s) = c.utf8Size + byteLen s := rfl

theorem byteLen_append (s t : List Char) : byteLen (s ++ t) = byteLen s + byteLen t := by
  simp [byteLen]

theorem length_encode (s : List Char) : (encode s).length = byteLen s := by
  induction s with
  | nil => rfl
  | cons c s ih => rw [encode_cons, List.length_append, String.length_utf8EncodeChar, ih, byteLen_cons]

/-! ### ASCII -/

def IsAscii (c : Char) : Prop := c.toNat < 128

instance : DecidablePred IsAscii := fun c => inferInstanceAs (Decidable (c.toNat < 128))

theorem utf8Size_ascii {c : Char} (h : IsAscii c) : c.utf8Size = 1 := by
  have hle : c.val ≤ 127 := UInt32.le_iff_toNat_le.mpr (Nat.le_of_lt_succ h)
  exact Char.utf8Size_eq_one_iff.mpr hle

theorem encode_ascii {c : Char} (h : IsAscii c) : String.utf8EncodeChar c = [UInt8.ofNat c.toNat] := by
  unfold String.utf8EncodeChar
  exact if_pos (Nat.le_of_lt_succ h)

/-- The bytes of a character that is not ASCII. -/
theorem le_of_mem_encode {c : Char} (h : ¬ IsAscii c) {b : UInt8} (hb : b ∈ String.utf8EncodeChar c) :
    128 ≤ b.toNat := by
  by_contra hlt
  have heq := toNat_of_mem_encode (Nat.lt_of_not_le hlt) hb
  exact h (show c.val.toNat < 128 by omega)

theorem lowerChar_ascii {c : Char} (h : IsAscii c) : IsAscii (lowerChar c) := by
  have hall : ∀ n < 128, IsAscii (lowerChar (Char.ofNat n)) := by decide
  have := hall c.toNat h
  rwa [Char.ofNat_toNat] at this

theorem lowerChar_of_not_ascii {c : Char} (h : ¬ IsAscii c) : lowerChar c = c := by
  unfold lowerChar
  refine if_neg fun hcap => h ?_
  have hle : c.toNat ≤ 'Z'.toNat := hcap.2
  exact Nat.lt_of_le_of_lt hle (by decide)

/-- A character that is some ASCII character in another case is ASCII. -/
theorem isAscii_of_lowerChar {c d : Char} (hd : IsAscii d) (h : lowerChar c = lowerChar d) : IsAscii c := by
  by_contra hc
  rw [lowerChar_of_not_ascii hc] at h
  exact hc (h ▸ lowerChar_ascii hd)

/-! ### Comparing in any case -/

theorem eqIgnoreAsciiCase_iff {s t : List Char} :
    eqIgnoreAsciiCase s t = true ↔ s.map lowerChar = t.map lowerChar := by
  simp [eqIgnoreAsciiCase]

theorem length_of_eqIgnoreAsciiCase {s t : List Char} (h : eqIgnoreAsciiCase s t = true) :
    s.length = t.length := by
  have := congrArg List.length (eqIgnoreAsciiCase_iff.mp h)
  rwa [List.length_map, List.length_map] at this

theorem eqIgnoreAsciiCase_cons {c d : Char} {s t : List Char} :
    eqIgnoreAsciiCase (c :: s) (d :: t) = true ↔ lowerChar c = lowerChar d ∧ eqIgnoreAsciiCase s t = true := by
  simp only [eqIgnoreAsciiCase_iff, List.map_cons, List.cons.injEq]

/-- A text that is ASCII in some case takes a byte a character. -/
theorem byteLen_of_eqIgnoreAsciiCase {s needle : List Char} (hascii : ∀ c ∈ needle, IsAscii c)
    (h : eqIgnoreAsciiCase s needle = true) : byteLen s = needle.length := by
  induction needle generalizing s with
  | nil =>
    have := length_of_eqIgnoreAsciiCase h
    rw [List.length_nil, List.length_eq_zero_iff] at this
    rw [this]
    rfl
  | cons d needle ih =>
    cases s with
    | nil => exact absurd (length_of_eqIgnoreAsciiCase h) (by simp)
    | cons c s =>
      obtain ⟨hc, hrest⟩ := eqIgnoreAsciiCase_cons.mp h
      have hsize := utf8Size_ascii (isAscii_of_lowerChar (hascii d List.mem_cons_self) hc)
      rw [byteLen_cons, hsize, ih (fun c hc => hascii c (List.mem_cons_of_mem _ hc)) hrest, List.length_cons,
        Nat.add_comm]

/-- A text that is found is cut out. -/
theorem splitOnceIgnoreCase_eq {needle s before after : List Char}
    (h : splitOnceIgnoreCase needle s = some (before, after)) :
    ∃ found, s = before ++ found ++ after ∧ eqIgnoreAsciiCase found needle = true := by
  induction s generalizing before with
  | nil => cases h
  | cons c s ih =>
    rw [splitOnceIgnoreCase] at h
    split at h
    · rename_i hfound
      cases h
      exact ⟨(c :: s).take needle.length, (List.take_append_drop _ _).symm, hfound⟩
    · obtain ⟨⟨before', after'⟩, hs, he⟩ := Option.map_eq_some_iff.mp h
      cases he
      obtain ⟨found, rfl, hfound⟩ := ih hs
      exact ⟨found, rfl, hfound⟩

/-- What is found stays where it is when text is added behind. -/
theorem splitOnceIgnoreCase_append {needle s before after : List Char}
    (h : splitOnceIgnoreCase needle s = some (before, after)) (t : List Char) :
    splitOnceIgnoreCase needle (s ++ t) = some (before, after ++ t) := by
  induction s generalizing before with
  | nil => cases h
  | cons c s ih =>
    have hlen : needle.length ≤ (c :: s).length := by
      obtain ⟨found, hs, hfound⟩ := splitOnceIgnoreCase_eq h
      rw [hs, ← length_of_eqIgnoreAsciiCase hfound]
      simp only [List.length_append]
      omega
    have htake : (c :: (s ++ t)).take needle.length = (c :: s).take needle.length := by
      rw [← List.cons_append, List.take_append_of_le_length hlen]
    rw [List.cons_append, splitOnceIgnoreCase, htake]
    rw [splitOnceIgnoreCase] at h
    split at h
    · rename_i hfound
      cases h
      rw [if_pos hfound, ← List.cons_append, List.drop_append_of_le_length hlen]
    · rename_i hmiss
      obtain ⟨⟨before', after'⟩, hs, he⟩ := Option.map_eq_some_iff.mp h
      cases he
      rw [if_neg hmiss, ih hs]
      rfl

/-- A text that the needle stands nowhere in is not cut. -/
theorem splitOnceIgnoreCase_none_of {needle s : List Char}
    (h : ∀ before found after, s = before ++ found ++ after → eqIgnoreAsciiCase found needle = true → False) :
    splitOnceIgnoreCase needle s = none := by
  cases hs : splitOnceIgnoreCase needle s with
  | none => rfl
  | some split =>
    obtain ⟨found, heq, hfound⟩ := splitOnceIgnoreCase_eq hs
    exact (h _ _ _ heq hfound).elim

/-- A needle does not start in characters that are not its first. -/
theorem splitOnceIgnoreCase_skip {c : Char} {before : List Char} (needle rest : List Char)
    (h : ∀ d ∈ before, lowerChar d ≠ lowerChar c) :
    splitOnceIgnoreCase (c :: needle) (before ++ rest) =
      (splitOnceIgnoreCase (c :: needle) rest).map fun (front, after) => (before ++ front, after) := by
  induction before with
  | nil => simp
  | cons d before ih =>
    have hmiss : ¬ eqIgnoreAsciiCase ((d :: (before ++ rest)).take (c :: needle).length) (c :: needle) = true := by
      rw [List.length_cons, List.take_succ_cons, eqIgnoreAsciiCase_cons]
      exact fun hfound => h d List.mem_cons_self hfound.1
    rw [List.cons_append, splitOnceIgnoreCase, if_neg hmiss, ih fun d hd => h d (List.mem_cons_of_mem _ hd),
      Option.map_map]
    rfl

/-- A needle that holds no `q` does not reach up to one. -/
theorem length_le_of_take {q : Char} {needle s rest : List Char} (hneedle : ∀ d ∈ needle, lowerChar d ≠ lowerChar q)
    (h : eqIgnoreAsciiCase ((s ++ q :: rest).take needle.length) needle = true) : needle.length ≤ s.length := by
  induction needle generalizing s with
  | nil => exact Nat.zero_le _
  | cons d needle ih =>
    cases s with
    | nil =>
      rw [List.nil_append, List.length_cons, List.take_succ_cons, eqIgnoreAsciiCase_cons] at h
      exact absurd h.1.symm (hneedle d List.mem_cons_self)
    | cons e s =>
      rw [List.cons_append, List.length_cons, List.take_succ_cons, eqIgnoreAsciiCase_cons] at h
      rw [List.length_cons, List.length_cons]
      exact Nat.succ_le_succ (ih (fun d hd => hneedle d (List.mem_cons_of_mem _ hd)) h.2)

/-- **A text without the needle is passed** up to a character that can only begin it. -/
theorem splitOnceIgnoreCase_stop {c q : Char} {needle s : List Char}
    (hneedle : ∀ d ∈ needle, lowerChar d ≠ lowerChar q) (hs : splitOnceIgnoreCase (c :: needle) s = none)
    (rest : List Char) : splitOnceIgnoreCase (c :: needle) (s ++ q :: rest) =
      (splitOnceIgnoreCase (c :: needle) (q :: rest)).map fun (front, after) => (s ++ front, after) := by
  induction s with
  | nil => simp
  | cons d s ih =>
    rw [splitOnceIgnoreCase] at hs
    split at hs
    · cases hs
    rename_i hmiss
    rw [Option.map_eq_none_iff] at hs
    have hmiss' : ¬ eqIgnoreAsciiCase ((d :: (s ++ q :: rest)).take (c :: needle).length) (c :: needle) = true := by
      intro hfound
      rw [List.length_cons, List.take_succ_cons, eqIgnoreAsciiCase_cons] at hfound
      have hlen := length_le_of_take hneedle hfound.2
      rw [List.take_append_of_le_length hlen] at hfound
      rw [List.length_cons, List.take_succ_cons, eqIgnoreAsciiCase_cons] at hmiss
      exact hmiss hfound
    rw [List.cons_append, splitOnceIgnoreCase, if_neg hmiss', ih hs, Option.map_map]
    rfl

/-- A text without the needle is passed with the character behind it, which does not begin the needle. -/
theorem splitOnceIgnoreCase_past {c q : Char} {needle s : List Char}
    (hneedle : ∀ d ∈ needle, lowerChar d ≠ lowerChar q) (hs : splitOnceIgnoreCase (c :: needle) s = none)
    (hq : lowerChar q ≠ lowerChar c) (rest : List Char) : splitOnceIgnoreCase (c :: needle) (s ++ q :: rest) =
      (splitOnceIgnoreCase (c :: needle) rest).map fun (front, after) => ((s ++ [q]) ++ front, after) := by
  have hskip := @splitOnceIgnoreCase_skip c [q] needle rest (List.forall_mem_singleton.mpr hq)
  rw [List.singleton_append] at hskip
  rw [splitOnceIgnoreCase_stop hneedle hs, hskip, Option.map_map]
  simp only [List.append_assoc]
  rfl

/-- The needle in another case stands at the front. -/
theorem splitOnceIgnoreCase_front {needle word : List Char} (hne : needle ≠ [])
    (h : eqIgnoreAsciiCase word needle = true) (rest : List Char) :
    splitOnceIgnoreCase needle (word ++ rest) = some ([], rest) := by
  have hlen := length_of_eqIgnoreAsciiCase h
  obtain ⟨c, word, rfl⟩ := List.exists_cons_of_length_pos (hlen ▸ List.length_pos_iff.mpr hne)
  rw [List.cons_append, splitOnceIgnoreCase, ← List.cons_append, ← hlen, List.take_left, if_pos h, List.drop_left]

/-! ### Needles that end in a mark -/

/-- The text ends in `w`, in any case. -/
def endsIgnoreCase (s w : List Char) : Bool := eqIgnoreAsciiCase (s.drop (s.length - w.length)) w

theorem endsIgnoreCase_cons (c : Char) (s w : List Char) :
    endsIgnoreCase (c :: s) w = (eqIgnoreAsciiCase (c :: s) w || endsIgnoreCase s w) := by
  have hlong : ∀ t : List Char, t.length < w.length → eqIgnoreAsciiCase t w = false := by
    intro t ht
    rw [Bool.eq_false_iff]
    intro h
    have := length_of_eqIgnoreAsciiCase h
    omega
  unfold endsIgnoreCase
  rw [List.length_cons]
  rcases Nat.lt_or_ge s.length w.length with hlt | hle
  · have hzero : s.length + 1 - w.length = 0 := by omega
    rw [hzero, Nat.sub_eq_zero_of_le hlt.le, List.drop_zero, List.drop_zero, hlong s hlt, Bool.or_false]
  · have hsucc : s.length + 1 - w.length = s.length - w.length + 1 := by omega
    have hfront : eqIgnoreAsciiCase (c :: s) w = false := by
      rw [Bool.eq_false_iff]
      intro h
      have := length_of_eqIgnoreAsciiCase h
      rw [List.length_cons] at this
      omega
    rw [hsucc, List.drop_succ_cons, hfront, Bool.false_or]

/-- What matters about an end is how it reads in lower case. -/
theorem endsIgnoreCase_congr {s t : List Char} (h : eqIgnoreAsciiCase s t = true) (u w : List Char) :
    endsIgnoreCase (s ++ u) w = endsIgnoreCase (t ++ u) w := by
  have hlen := length_of_eqIgnoreAsciiCase h
  have hmap := eqIgnoreAsciiCase_iff.mp h
  unfold endsIgnoreCase eqIgnoreAsciiCase
  rw [List.map_drop, List.map_drop, List.map_append, List.map_append, hmap, List.length_append,
    List.length_append, hlen]

/-- An end does not reach over a character that is not in it. -/
theorem endsIgnoreCase_append {c : Char} {w : List Char} (hc : ∀ d ∈ w, lowerChar d ≠ lowerChar c) (p s : List Char) :
    endsIgnoreCase (p ++ c :: s) w = endsIgnoreCase s w := by
  have hmem : ∀ t : List Char, c ∈ t → eqIgnoreAsciiCase t w = false := by
    intro t ht
    rw [Bool.eq_false_iff]
    intro h
    have hlower := List.mem_map_of_mem (f := lowerChar) ht
    rw [eqIgnoreAsciiCase_iff.mp h] at hlower
    obtain ⟨d, hd, heq⟩ := List.mem_map.mp hlower
    exact hc d hd heq
  induction p with
  | nil => rw [List.nil_append, endsIgnoreCase_cons, hmem _ List.mem_cons_self, Bool.false_or]
  | cons d p ih => rw [List.cons_append, endsIgnoreCase_cons, hmem _ (by simp), Bool.false_or, ih]

theorem endsIgnoreCase_concat (s w : List Char) (c : Char) :
    endsIgnoreCase (s ++ [c]) (w ++ [c]) = endsIgnoreCase s w := by
  have hdrop : (s ++ [c]).drop ((s ++ [c]).length - (w ++ [c]).length) = s.drop (s.length - w.length) ++ [c] := by
    rw [List.length_append, List.length_append, List.length_singleton, Nat.add_sub_add_right,
      List.drop_append_of_le_length (Nat.sub_le _ _)]
  rw [endsIgnoreCase, endsIgnoreCase, hdrop, Bool.eq_iff_iff, eqIgnoreAsciiCase_iff, eqIgnoreAsciiCase_iff,
    List.map_append, List.map_append, List.append_left_inj]

section Mark

variable {q : Char} (hq : ∀ c, lowerChar c = lowerChar q → c = q)

include hq

theorem take_mark {p w : List Char} (hp : q ∉ p) (hw : q ∉ w) (rest : List Char) :
    eqIgnoreAsciiCase ((p ++ q :: rest).take (w ++ [q]).length) (w ++ [q]) = eqIgnoreAsciiCase p w := by
  rw [Bool.eq_iff_iff]
  induction p generalizing w with
  | nil =>
    cases w with
    | nil => simp [eqIgnoreAsciiCase]
    | cons c w =>
      have hne : lowerChar q ≠ lowerChar c := fun h => hw (hq c h.symm ▸ List.mem_cons_self)
      rw [List.nil_append, List.cons_append, List.length_cons, List.take_succ_cons, eqIgnoreAsciiCase_cons]
      simp [hne, eqIgnoreAsciiCase]
  | cons d p ih =>
    rw [List.mem_cons, not_or] at hp
    cases w with
    | nil =>
      have hne : lowerChar d ≠ lowerChar q := fun h => hp.1 (hq d h).symm
      simp [hne, eqIgnoreAsciiCase]
    | cons c w =>
      rw [List.mem_cons, not_or] at hw
      rw [List.cons_append, List.cons_append, List.length_cons, List.take_succ_cons, eqIgnoreAsciiCase_cons,
        ih hp.2 hw.2, eqIgnoreAsciiCase_cons]

/-- **A needle that ends in a mark** is found where the text in front of a mark ends in it. -/
theorem splitOnceIgnoreCase_mark {p w : List Char} (hp : q ∉ p) (hw : q ∉ w) (rest : List Char) :
    (splitOnceIgnoreCase (w ++ [q]) (p ++ q :: rest)).map Prod.snd =
      if endsIgnoreCase p w then some rest else (splitOnceIgnoreCase (w ++ [q]) rest).map Prod.snd := by
  have hstep : ∀ (p : List Char) (c : Char) (s : List Char), p ++ q :: rest = c :: s → q ∉ p →
      (splitOnceIgnoreCase (w ++ [q]) (c :: s)).map Prod.snd =
        if eqIgnoreAsciiCase p w then some rest else (splitOnceIgnoreCase (w ++ [q]) s).map Prod.snd := by
    intro p c s hs hp
    have hmark := take_mark hq hp hw rest
    rw [hs] at hmark
    rw [splitOnceIgnoreCase, hmark]
    split
    · rename_i hfound
      have hlen := length_of_eqIgnoreAsciiCase hfound
      rw [← hs, Option.map_some, List.length_append, List.length_singleton, ← hlen]
      simp
    · rw [Option.map_map]
      rfl
  induction p with
  | nil =>
    rw [List.nil_append, hstep [] q rest rfl List.not_mem_nil, endsIgnoreCase, List.drop_nil]
  | cons c p ih =>
    rw [List.mem_cons, not_or] at hp
    rw [List.cons_append, hstep (c :: p) c (p ++ q :: rest) rfl (by simp [hp.1, hp.2]), ih hp.2,
      endsIgnoreCase_cons]
    cases eqIgnoreAsciiCase (c :: p) w <;> rfl

/-- Without a mark there is no such needle. -/
theorem splitOnceIgnoreCase_no_mark {s : List Char} (hs : q ∉ s) (w : List Char) :
    splitOnceIgnoreCase (w ++ [q]) s = none := by
  refine splitOnceIgnoreCase_none_of fun before found after heq hfound => hs ?_
  have hmap := eqIgnoreAsciiCase_iff.mp hfound
  have hmem : lowerChar q ∈ found.map lowerChar := by
    rw [hmap]
    simp
  obtain ⟨c, hc, hlower⟩ := List.mem_map.mp hmem
  rw [heq, ← hq c hlower]
  simp [hc]

end Mark

theorem lowerChar_quote (c : Char) (h : lowerChar c = lowerChar '"') : c = '"' := by
  by_cases hc : IsAscii c
  · have hall : ∀ n < 128, lowerChar (Char.ofNat n) = lowerChar '"' → Char.ofNat n = '"' := by decide
    have := hall c.toNat hc
    rw [Char.ofNat_toNat] at this
    exact this h
  · rw [lowerChar_of_not_ascii hc] at h
    rw [h]
    decide

/-! ### Windows of bytes -/

/-- `u8::to_ascii_lowercase`. -/
def lowerByte (b : UInt8) : UInt8 := if 0x41 ≤ b ∧ b ≤ 0x5a then b + 32 else b

/-- `<[u8]>::eq_ignore_ascii_case`. -/
def eqIgnoreAsciiCaseBytes (a b : List UInt8) : Bool := a.map lowerByte == b.map lowerByte

/-- `windows(n).position(p)`. -/
def windowPosition (n : ℕ) (p : List UInt8 → Bool) : List UInt8 → Option ℕ
  | [] => none
  | b :: bytes =>
    if n ≤ (b :: bytes).length ∧ p ((b :: bytes).take n) = true then some 0
    else (windowPosition n p bytes).map (· + 1)

theorem lowerByte_ascii {c : Char} (h : IsAscii c) :
    lowerByte (UInt8.ofNat c.toNat) = UInt8.ofNat (lowerChar c).toNat := by
  have hall : ∀ n < 128, lowerByte (UInt8.ofNat n) = UInt8.ofNat (lowerChar (Char.ofNat n)).toNat := by decide
  have := hall c.toNat h
  rwa [Char.ofNat_toNat] at this

/-- A byte of a character that is not ASCII is none of an ASCII character, in any case. -/
theorem lowerByte_ne {b : UInt8} (hb : 128 ≤ b.toNat) {d : Char} (hd : IsAscii d) :
    lowerByte b ≠ lowerByte (UInt8.ofNat d.toNat) := by
  have hhigh : lowerByte b = b := by
    unfold lowerByte
    refine if_neg fun h => ?_
    have : b.toNat ≤ 90 := UInt8.le_iff_toNat_le.mp h.2
    omega
  have hlow : (lowerChar d).toNat < 128 := lowerChar_ascii hd
  rw [hhigh, lowerByte_ascii hd]
  intro h
  rw [h, toNat_ofNat_of_lt (by omega)] at hb
  omega

theorem lowerByte_eq_iff {c d : Char} (hc : IsAscii c) (hd : IsAscii d) :
    lowerByte (UInt8.ofNat c.toNat) = lowerByte (UInt8.ofNat d.toNat) ↔ lowerChar c = lowerChar d := by
  have hc' : (lowerChar c).toNat < 128 := lowerChar_ascii hc
  have hd' : (lowerChar d).toNat < 128 := lowerChar_ascii hd
  rw [lowerByte_ascii hc, lowerByte_ascii hd]
  refine ⟨fun h => ?_, fun h => by rw [h]⟩
  have hnat := congrArg UInt8.toNat h
  rw [toNat_ofNat_of_lt (by omega), toNat_ofNat_of_lt (by omega)] at hnat
  exact Char.ext (UInt32.toNat_inj.mp hnat)

theorem eqIgnoreAsciiCaseBytes_cons {a b : UInt8} {s t : List UInt8} :
    eqIgnoreAsciiCaseBytes (a :: s) (b :: t) = true ↔ lowerByte a = lowerByte b ∧ eqIgnoreAsciiCaseBytes s t = true := by
  simp only [eqIgnoreAsciiCaseBytes, beq_iff_eq, List.map_cons, List.cons.injEq]

section Needle

variable {needle : List Char} (hascii : ∀ c ∈ needle, IsAscii c)

include hascii

theorem length_encode_ascii : (encode needle).length = needle.length := by
  rw [length_encode, byteLen_of_eqIgnoreAsciiCase hascii (eqIgnoreAsciiCase_iff.mpr rfl)]

/-- A window that begins with a character. -/
theorem window_at_char (s : List Char) :
    (needle.length ≤ (encode s).length ∧
        eqIgnoreAsciiCaseBytes ((encode s).take needle.length) (encode needle) = true) ↔
      eqIgnoreAsciiCase (s.take needle.length) needle = true := by
  induction needle generalizing s with
  | nil => simp [eqIgnoreAsciiCaseBytes, eqIgnoreAsciiCase]
  | cons d needle ih =>
    have hd := hascii d List.mem_cons_self
    have hrest := ih fun c hc => hascii c (List.mem_cons_of_mem _ hc)
    rw [encode_cons, encode_ascii hd, List.singleton_append]
    cases s with
    | nil => simp [eqIgnoreAsciiCase]
    | cons c s =>
      rw [encode_cons, List.length_cons, List.take_succ_cons, eqIgnoreAsciiCase_cons]
      by_cases hc : IsAscii c
      · rw [encode_ascii hc, List.singleton_append, List.length_cons, List.take_succ_cons,
          eqIgnoreAsciiCaseBytes_cons, lowerByte_eq_iff hc hd, ← hrest s, Nat.succ_le_succ_iff]
        tauto
      · -- the window begins with a byte that is not ASCII
        have hne : lowerChar c ≠ lowerChar d := fun h => hc (isAscii_of_lowerChar hd h)
        obtain ⟨b, more, hbytes⟩ := List.exists_cons_of_ne_nil
          (List.ne_nil_of_length_pos (String.length_utf8EncodeChar c ▸ Char.utf8Size_pos c))
        have hb := le_of_mem_encode hc (hbytes ▸ List.mem_cons_self)
        rw [hbytes, List.cons_append, List.take_succ_cons, eqIgnoreAsciiCaseBytes_cons]
        have := lowerByte_ne hb hd
        tauto

/-- No window begins with a byte that is not ASCII. -/
theorem windowPosition_skip {bs : List UInt8} (hne : needle ≠ []) (hbs : ∀ b ∈ bs, 128 ≤ b.toNat)
    (rest : List UInt8) :
    windowPosition needle.length (eqIgnoreAsciiCaseBytes · (encode needle)) (bs ++ rest) =
      (windowPosition needle.length (eqIgnoreAsciiCaseBytes · (encode needle)) rest).map (· + bs.length) := by
  induction bs with
  | nil => simp
  | cons b bs ih =>
    obtain ⟨d, tail, rfl⟩ := List.exists_cons_of_ne_nil hne
    have hd := hascii d List.mem_cons_self
    have hnot : ¬ ((d :: tail).length ≤ (b :: (bs ++ rest)).length ∧
        eqIgnoreAsciiCaseBytes ((b :: (bs ++ rest)).take (d :: tail).length) (encode (d :: tail)) = true) := by
      rintro ⟨-, h⟩
      rw [List.length_cons, List.take_succ_cons, encode_cons, encode_ascii hd, List.singleton_append,
        eqIgnoreAsciiCaseBytes_cons] at h
      exact lowerByte_ne (hbs b List.mem_cons_self) hd h.1
    rw [List.cons_append, windowPosition, if_neg hnot, ih fun b hb => hbs b (List.mem_cons_of_mem _ hb),
      Option.map_map]
    congr 1

/-- **The byte search stops where the search by characters does.** -/
theorem windowPosition_encode (hne : needle ≠ []) (s : List Char) :
    windowPosition (encode needle).length (eqIgnoreAsciiCaseBytes · (encode needle)) (encode s) =
      (splitOnceIgnoreCase needle s).map fun (before, _) => byteLen before := by
  rw [length_encode_ascii hascii]
  induction s with
  | nil => rfl
  | cons c s ih =>
    have hwindow := window_at_char hascii (c :: s)
    obtain ⟨b, more, hbytes⟩ := List.exists_cons_of_ne_nil
      (List.ne_nil_of_length_pos (String.length_utf8EncodeChar c ▸ Char.utf8Size_pos c))
    have hlen : more.length + 1 = c.utf8Size := by
      rw [← String.length_utf8EncodeChar, hbytes, List.length_cons]
    rw [encode_cons, hbytes, List.cons_append] at hwindow ⊢
    rw [windowPosition, splitOnceIgnoreCase]
    by_cases hfound : eqIgnoreAsciiCase ((c :: s).take needle.length) needle = true
    · rw [if_pos (hwindow.mpr hfound), if_pos hfound]
      rfl
    · -- the other bytes of the character are not ASCII
      have hmore : ∀ b ∈ more, 128 ≤ b.toNat := by
        intro b' hb'
        by_cases hc : IsAscii c
        · rw [encode_ascii hc] at hbytes
          cases hbytes
          cases hb'
        · exact le_of_mem_encode hc (hbytes ▸ List.mem_cons_of_mem _ hb')
      rw [if_neg fun h => hfound (hwindow.mp h), if_neg hfound, windowPosition_skip hascii hne hmore, ih,
        Option.map_map, Option.map_map, Option.map_map]
      congr 1
      funext found
      show byteLen found.1 + more.length + 1 = c.utf8Size + byteLen found.1
      omega

end Needle

end OpenfortivpnRs.Text
