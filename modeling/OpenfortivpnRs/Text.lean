import Mathlib.Tactic

/-!
# Strings of the standard library

What the program uses of Rust's `str` and `String`, on Lean's strings: both are sequences of Unicode
scalar values.
-/

namespace OpenfortivpnRs.Text

/-- A property of every character of a text is decided over the text, not over all characters. -/
instance (priority := 1100) decidableForallMem {p : Char → Prop} [DecidablePred p] {s : List Char} :
    Decidable (∀ c ∈ s, p c) :=
  List.decidableBAll p s

/-- `char::is_whitespace`: the characters of the property `White_Space`. -/
def isWhitespace (c : Char) : Bool :=
  let n := c.toNat
  (9 ≤ n && n ≤ 13) || n == 0x20 || n == 0x85 || n == 0xa0 || n == 0x1680 ||
    (0x2000 ≤ n && n ≤ 0x200a) || n == 0x2028 || n == 0x2029 || n == 0x202f || n == 0x205f || n == 0x3000

/-- `str::trim`. -/
def trim (s : String) : String :=
  .ofList ((s.toList.dropWhile isWhitespace).reverse.dropWhile isWhitespace).reverse

/-- `str::split_whitespace`. -/
def splitWhitespace (s : String) : List String :=
  ((s.toList.splitOnP isWhitespace).filter (· ≠ [])).map .ofList

/-- A line without the carriage return that stands before its newline. -/
def stripCarriageReturn (line : List Char) : List Char :=
  if line.getLast? = some '\r' then line.dropLast else line

/-- `str::lines`: a line ends at a newline, and what follows the last newline is a line of its own
unless it is empty. -/
def lines (s : String) : List String :=
  let pieces := s.toList.splitOn '\n'
  (pieces.dropLast.map stripCarriageReturn ++ (pieces.getLast?.toList.filter (· ≠ []))).map .ofList

/-- `str::to_ascii_lowercase`. -/
def toAsciiLowercase (s : String) : String :=
  .ofList (s.toList.map fun c => if 'A' ≤ c ∧ c ≤ 'Z' then Char.ofNat (c.toNat + 32) else c)

/-- `str::contains` of a string. -/
def contains (s needle : String) : Bool := decide (needle.toList <:+: s.toList)

/-- `str::strip_prefix`. -/
def stripPrefix (s start : String) : Option String :=
  if start.toList <+: s.toList then some (.ofList (s.toList.drop start.toList.length)) else none

/-- `str::as_bytes`. -/
def asBytes (s : String) : List UInt8 := s.toList.flatMap String.utf8EncodeChar

/-! ### Strings as lists of characters -/

/-- `char::is_ascii_whitespace`. -/
def isAsciiWhitespace (c : Char) : Bool := c == ' ' || c == '\t' || c == '\n' || c == '\x0c' || c == '\r'

/-- `str::trim_start`. -/
def trimStart (s : List Char) : List Char := s.dropWhile isWhitespace

/-- `str::trim_end`. -/
def trimEnd (s : List Char) : List Char := (s.reverse.dropWhile isWhitespace).reverse

/-- `str::split_once`: what stands before and behind the first occurrence of `needle`. -/
def splitOnce (needle : List Char) : List Char → Option (List Char × List Char)
  | [] => if needle = [] then some ([], []) else none
  | c :: s =>
    if needle <+: c :: s then some ([], (c :: s).drop needle.length)
    else (splitOnce needle s).map fun (before, after) => (c :: before, after)

theorem splitOnce_eq {needle : List Char} {s before after : List Char}
    (h : splitOnce needle s = some (before, after)) : s = before ++ needle ++ after := by
  induction s generalizing before with
  | nil =>
    unfold splitOnce at h
    split at h
    · rename_i hn
      cases h
      rw [hn]
      rfl
    · cases h
  | cons c s ih =>
    unfold splitOnce at h
    split at h
    · rename_i hn
      cases h
      exact (List.prefix_iff_eq_append.mp hn).symm
    · obtain ⟨⟨before', after'⟩, hs, he⟩ := Option.map_eq_some_iff.mp h
      cases he
      rw [ih hs]
      rfl

/-- What stands behind an occurrence is shorter. -/
theorem splitOnce_lt {needle : List Char} {s before after : List Char} (hn : needle ≠ [])
    (h : splitOnce needle s = some (before, after)) : after.length < s.length := by
  have hpos := List.length_pos_iff.mpr hn
  rw [splitOnce_eq h, List.length_append, List.length_append]
  omega

/-- A needle does not start in characters that are not its first. -/
theorem splitOnce_skip {c : Char} {before : List Char} (needle rest : List Char) (h : c ∉ before) :
    splitOnce (c :: needle) (before ++ rest) =
      (splitOnce (c :: needle) rest).map fun (front, after) => (before ++ front, after) := by
  induction before with
  | nil => simp
  | cons d before ih =>
    rw [List.mem_cons, not_or] at h
    rw [List.cons_append, splitOnce, if_neg (by rintro ⟨t, ht⟩; exact h.1 (List.cons.inj ht).1), ih h.2,
      Option.map_map]
    rfl

/-- A needle is found behind characters that are not its first. -/
theorem splitOnce_append {c : Char} {before : List Char} (needle after : List Char) (h : c ∉ before) :
    splitOnce (c :: needle) (before ++ c :: (needle ++ after)) = some (before, after) := by
  have hhere : splitOnce (c :: needle) (c :: (needle ++ after)) = some ([], after) := by
    rw [splitOnce, if_pos ⟨after, rfl⟩, ← List.cons_append, List.drop_left]
  rw [splitOnce_skip needle _ h, hhere]
  simp only [Option.map_some, List.append_nil]

/-- A character that does not stand in front is where it is looked for. -/
theorem splitOnce_char {c : Char} {before : List Char} (after : List Char) (h : c ∉ before) :
    splitOnce [c] (before ++ c :: after) = some (before, after) :=
  splitOnce_append [] after h

theorem mem_intercalate {x c : Char} {ls : List (List Char)} (h : c ∈ [x].intercalate ls) :
    c = x ∨ ∃ l ∈ ls, c ∈ l := by
  induction ls with
  | nil => cases h
  | cons l ls ih =>
    by_cases hls : ls = []
    · subst hls
      exact .inr ⟨l, List.mem_singleton_self _, by simpa using h⟩
    · rw [List.intercalate_cons_of_ne_nil hls, List.append_assoc, List.mem_append, List.mem_append,
        List.mem_singleton] at h
      rcases h with hl | rfl | hrest
      · exact .inr ⟨l, List.mem_cons_self, hl⟩
      · exact .inl rfl
      · rcases ih hrest with hx | ⟨l', hl', hc⟩
        · exact .inl hx
        · exact .inr ⟨l', List.mem_cons_of_mem _ hl', hc⟩

/-- The lowercase of an ASCII letter; other characters stay. -/
def lowerChar (c : Char) : Char := if 'A' ≤ c ∧ c ≤ 'Z' then Char.ofNat (c.toNat + 32) else c

/-- `str::eq_ignore_ascii_case`. -/
def eqIgnoreAsciiCase (s t : List Char) : Bool := s.map lowerChar == t.map lowerChar

/-- What stands before and behind the first place where an ASCII `needle` that is not empty stands in
any case.  The bytes of such a needle are characters, so this is where its bytes stand. -/
def splitOnceIgnoreCase (needle : List Char) : List Char → Option (List Char × List Char)
  | [] => none
  | c :: s =>
    if eqIgnoreAsciiCase ((c :: s).take needle.length) needle then
      some ([], (c :: s).drop needle.length)
    else (splitOnceIgnoreCase needle s).map fun (before, after) => (c :: before, after)

theorem splitOnceIgnoreCase_lt {needle : List Char} {s before after : List Char} (hn : needle ≠ [])
    (h : splitOnceIgnoreCase needle s = some (before, after)) : after.length < s.length := by
  induction s generalizing before with
  | nil => cases h
  | cons c s ih =>
    unfold splitOnceIgnoreCase at h
    split at h
    · cases h
      have hpos := List.length_pos_iff.mpr hn
      rw [List.length_drop, List.length_cons]
      omega
    · obtain ⟨⟨before', after'⟩, hs, he⟩ := Option.map_eq_some_iff.mp h
      cases he
      exact (ih hs).trans (Nat.lt_succ_self _)

/-- `str::replace` of a pattern that is not empty. -/
def replace (old new : List Char) (hold : old ≠ []) (s : List Char) : List Char :=
  match h : splitOnce old s with
  | none => s
  | some (before, after) =>
    have := splitOnce_lt hold h
    before ++ new ++ replace old new hold after
termination_by s.length

/-! ### Numbers -/

/-- The value of decimal digits. -/
def digitsValue (digits : List Char) : ℕ := digits.foldl (fun n c => 10 * n + (c.toNat - 48)) 0

/-- `str::parse` of an unsigned type whose largest value is `max`: digits, possibly behind a plus
sign. -/
def parseUnsigned (max : ℕ) (s : List Char) : Option ℕ :=
  let digits := if s.head? = some '+' then s.tail else s
  if digits ≠ [] ∧ digits.all Char.isDigit ∧ digitsValue digits ≤ max then some (digitsValue digits)
  else none

theorem parseUnsigned_le {max n : ℕ} {s : List Char} (h : parseUnsigned max s = some n) : n ≤ max := by
  unfold parseUnsigned at h
  dsimp only at h
  generalize (if s.head? = some '+' then s.tail else s) = digits at h
  split at h
  · rename_i hdigits
    cases h
    exact hdigits.2.2
  · cases h

/-- Digits alone are read as the number they stand for. -/
theorem parseUnsigned_digits (max : ℕ) {digits : List Char} (h : ∀ c ∈ digits, c.isDigit = true) :
    parseUnsigned max digits =
      if digits ≠ [] ∧ digitsValue digits ≤ max then some (digitsValue digits) else none := by
  have hplus : digits.head? ≠ some '+' := fun hhead =>
    absurd (h '+' (List.mem_of_mem_head? hhead)) (by decide)
  unfold parseUnsigned
  simp only [if_neg hplus, List.all_eq_true.mpr h, true_and]

/-- A number that is written in decimal is read back. -/
theorem parseUnsigned_toString {max n : ℕ} (h : n ≤ max) : parseUnsigned max (toString n).toList = some n := by
  have htext : (toString n).toList = Nat.toDigits 10 n := Nat.toList_repr
  have hdigit : ∀ c ∈ Nat.toDigits 10 n, c.isDigit = true := fun c hc =>
    Nat.isDigit_of_mem_toDigits (by decide) (by decide) hc
  have hvalue : digitsValue (Nat.toDigits 10 n) = n := Nat.ofDigitChars_ten_toDigits
  rw [htext, parseUnsigned_digits max hdigit, hvalue, if_pos ⟨Nat.toDigits_ne_nil, h⟩]

/-! ### Decoding UTF-8 -/

/-- A continuation byte. -/
def isCont (b : UInt8) : Bool := b &&& 192 == 128

/-- The second bytes of a sequence of three. -/
def secondOfThree (b b1 : UInt8) : Bool :=
  (b == 0xe0 && 0xa0 ≤ b1 && b1 ≤ 0xbf) || (0xe1 ≤ b && b ≤ 0xec && 0x80 ≤ b1 && b1 ≤ 0xbf) ||
    (b == 0xed && 0x80 ≤ b1 && b1 ≤ 0x9f) || (0xee ≤ b && b ≤ 0xef && 0x80 ≤ b1 && b1 ≤ 0xbf)

/-- The second bytes of a sequence of four. -/
def secondOfFour (b b1 : UInt8) : Bool :=
  (b == 0xf0 && 0x90 ≤ b1 && b1 ≤ 0xbf) || (0xf1 ≤ b && b ≤ 0xf3 && 0x80 ≤ b1 && b1 ≤ 0xbf) ||
    (b == 0xf4 && 0x80 ≤ b1 && b1 ≤ 0x8f)

/-- The character at the front of the bytes and the number of bytes it takes or, when there is none,
the number of bytes that one replacement character stands for. -/
def nextChar (bytes : List UInt8) : Option Char × ℕ :=
  let b := bytes.getD 0 0
  let b1 := bytes.getD 1 0
  let b2 := bytes.getD 2 0
  let b3 := bytes.getD 3 0
  if b < 0x80 then (some (Char.ofNat b.toNat), 1)
  else if 0xc2 ≤ b ∧ b ≤ 0xdf then
    if ¬ isCont b1 then (none, 1)
    else (some (Char.ofNat (b.toNat % 32 * 64 + b1.toNat % 64)), 2)
  else if 0xe0 ≤ b ∧ b ≤ 0xef then
    if ¬ secondOfThree b b1 then (none, 1)
    else if ¬ isCont b2 then (none, 2)
    else (some (Char.ofNat ((b.toNat % 16 * 64 + b1.toNat % 64) * 64 + b2.toNat % 64)), 3)
  else if 0xf0 ≤ b ∧ b ≤ 0xf4 then
    if ¬ secondOfFour b b1 then (none, 1)
    else if ¬ isCont b2 then (none, 2)
    else if ¬ isCont b3 then (none, 3)
    else (some (Char.ofNat (((b.toNat % 8 * 64 + b1.toNat % 64) * 64 + b2.toNat % 64) * 64 +
      b3.toNat % 64)), 4)
  else (none, 1)

def lossyChars : List UInt8 → List Char
  | [] => []
  | b :: rest =>
    let (c, n) := nextChar (b :: rest)
    c.getD '\uFFFD' :: lossyChars (rest.drop (n - 1))
termination_by bytes => bytes.length
decreasing_by simp

/-- `str::from_utf8`. -/
def fromUtf8 : List UInt8 → Option (List Char)
  | [] => some []
  | b :: rest =>
    match nextChar (b :: rest) with
    | (some c, n) => (fromUtf8 (rest.drop (n - 1))).map fun s => c :: s
    | (none, _) => none
termination_by bytes => bytes.length
decreasing_by simp

/-- `String::from_utf8_lossy`. -/
def fromUtf8Lossy (bytes : List UInt8) : String := .ofList (lossyChars bytes)

end OpenfortivpnRs.Text
