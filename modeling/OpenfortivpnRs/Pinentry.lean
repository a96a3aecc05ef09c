import OpenfortivpnRs.Reader
import OpenfortivpnRs.Http.UrlEncode
import Mathlib.Data.List.TakeWhile

/-!
# The pinentry program (`pinentry.rs`)

Texts are sent to pinentry percent-coded, and its answers are lines that are decoded.  A text that is
escaped, be it by `uri_escape` or in another way, is read back as it was (`percent_coding_inverted`).
-/

namespace OpenfortivpnRs.Pinentry

open Text Http Lib.Bytes

/-! ### Percent-coding -/

/-- `u8::is_ascii_alphanumeric`. -/
def isAsciiAlphanumeric (byte : UInt8) : Bool :=
  (0x30 ≤ byte && byte ≤ 0x39) || (0x41 ≤ byte && byte ≤ 0x5a) || (0x61 ≤ byte && byte ≤ 0x7a)

/-- What `{:02X}` writes. -/
def upperHex (byte : UInt8) : List Char :=
  let digits := (Nat.toDigits 16 byte.toNat).map Char.toUpper
  List.replicate (2 - digits.length) '0' ++ digits

/-- What `uri_escape` writes for a byte. -/
def escapeByte (byte : UInt8) : List Char :=
  if isAsciiAlphanumeric byte || byte == 0x2d || byte == 0x5f || byte == 0x2e || byte == 0x7e then
    [Char.ofNat byte.toNat]
  else '%' :: upperHex byte

def uriEscape (value : String) : String := .ofList ((asBytes value).flatMap escapeByte)

def hexValue (byte : UInt8) : Option UInt8 :=
  if 0x30 ≤ byte ∧ byte ≤ 0x39 then some (byte - 0x30)
  else if 0x61 ≤ byte ∧ byte ≤ 0x66 then some (byte - 0x61 + 10)
  else if 0x41 ≤ byte ∧ byte ≤ 0x46 then some (byte - 0x41 + 10)
  else none

def decodeHexPair (high low : UInt8) : Option UInt8 := do
  return ((← hexValue high) <<< 4) ||| (← hexValue low)

/-- The loop of `uri_unescape` over the bytes that are left: only a percent sign with two more bytes behind it
is looked at. -/
def unescapeBytes : List UInt8 → List UInt8
  | 0x25 :: high :: low :: rest =>
    if high = 0x25 then 0x25 :: unescapeBytes (low :: rest)
    else match decodeHexPair high low with
      | some decoded => decoded :: unescapeBytes rest
      | none => 0x25 :: unescapeBytes (high :: low :: rest)
  | byte :: rest => byte :: unescapeBytes rest
  | [] => []

/-- `String::from_utf8` with what its error displays; the bytes stand at an index. -/
def stringFromUtf8 (index : ℕ) : List UInt8 → Except String (List Char)
  | [] => .ok []
  | b :: rest =>
    match nextChar (b :: rest) with
    | (some c, n) => (stringFromUtf8 (index + n) (rest.drop (n - 1))).map fun s => c :: s
    | (none, n) =>
      -- a sequence that may go on is cut off by the end of the bytes
      if n = rest.length + 1 ∧ 0xc2 ≤ b ∧ b ≤ 0xf4 then
        .error ("incomplete utf-8 byte sequence from index " ++ toString index)
      else .error ("invalid utf-8 sequence of " ++ toString n ++ " bytes from index " ++ toString index)
termination_by bytes => bytes.length
decreasing_by simp

def uriUnescape (value : String) : Result String :=
  match stringFromUtf8 0 (unescapeBytes (asBytes value)) with
  | .ok text => .ok (.ofList text)
  | .error err => .error (.auth ("pinentry returned invalid UTF-8 data: " ++ err))

/-! ### Answers -/

/-- `BufRead::read_until` of a newline.  The results of the reads are what `fill_buf` gives, and what is not
consumed of one is given again. -/
def readUntilNewline : List (Except IoError (List UInt8)) →
    Except IoError (List UInt8) × List (Except IoError (List UInt8))
  | [] => (.ok [], [])
  | .error err :: reads => if err.kind = .interrupted then readUntilNewline reads else (.error err, reads)
  | .ok available :: reads =>
    let line := available.takeWhile (· != 10)
    match available.dropWhile (· != 10) with
    | newline :: rest => (.ok (line ++ [newline]), if rest = [] then reads else .ok rest :: reads)
    | [] =>
      if available = [] then (.ok [], reads)
      else
        let (result, reads) := readUntilNewline reads
        (result.map (line ++ ·), reads)

/-- `BufRead::read_line`: the line and the number of its bytes. -/
def readLine (stdout : Reader) : Except IoError (List Char × ℕ) × Reader :=
  let (result, reads) := readUntilNewline stdout.reads
  match result with
  | .error err => (.error err, ⟨reads⟩)
  | .ok bytes =>
    match fromUtf8 bytes with
    | some line => (.ok (line, bytes.length), ⟨reads⟩)
    | none => (.error ⟨.other, "stream did not contain valid UTF-8"⟩, ⟨reads⟩)

/-- `str::trim_end_matches` of carriage returns and newlines. -/
def trimLineEnd (line : List Char) : List Char :=
  (line.reverse.dropWhile fun c => c == '\r' || c == '\n').reverse

/-- What an answer says. -/
def parseAnswer (line : String) : Result (Option String) :=
  if line = "OK" then .ok none
  else match stripPrefix line "OK " with
  | some value => (uriUnescape value).map some
  | none => match stripPrefix line "D " with
  | some value => (uriUnescape value).map some
  | none => match stripPrefix line "ERR " with
  | some value => do
    let detail ← match splitOnce [' '] value.toList with
      | some (_, text) => uriUnescape (.ofList text)
      | none => .ok value
    .error (.auth ("pinentry returned error: " ++ detail))
  | none => match stripPrefix line "S ERROR" with
  | some value => .error (.auth ("pinentry returned error: " ++ trim value))
  | none => .error (.auth ("pinentry protocol error: " ++ line))

def readPinentryResponse (stdout : Reader) : Result (Option String) × Reader :=
  match readLine stdout with
  | (.error err, stdout) => (.error (.io err), stdout)
  | (.ok (line, read), stdout) =>
    if read = 0 then (.error (.auth "short read from pinentry"), stdout)
    else (parseAnswer (.ofList (trimLineEnd line)), stdout)

/-! ### Decoding -/

theorem escapeByte_eq (byte : UInt8) : escapeByte byte = encodeByte byte :=
  forall_byte (P := fun byte => escapeByte byte = encodeByte byte) (by decide +kernel) byte

/-- **Both escapes are the same.** -/
theorem uriEscape_eq (s : String) : urlEncode s = uriEscape s := by
  have hbyte : escapeByte = encodeByte := funext escapeByte_eq
  rw [uriEscape, hbyte]
  rfl

theorem unescapeBytes_cons {b : UInt8} (h : b ≠ 0x25) (rest : List UInt8) :
    unescapeBytes (b :: rest) = b :: unescapeBytes rest := by
  rw [unescapeBytes.eq_def]
  split
  · rename_i heq
    exact absurd (List.cons.inj heq).1 h
  · rename_i heq
    obtain ⟨rfl, rfl⟩ := List.cons.inj heq
    rfl
  · rename_i heq
    cases heq

theorem unescapeBytes_append {bs : List UInt8} (h : 0x25 ∉ bs) (rest : List UInt8) :
    unescapeBytes (bs ++ rest) = bs ++ unescapeBytes rest := by
  induction bs with
  | nil => rfl
  | cons b bs ih =>
    rw [List.mem_cons, not_or] at h
    rw [List.cons_append, unescapeBytes_cons (Ne.symm h.1), ih h.2]
    rfl

/-- A code is read as its byte, also where nothing stands behind it. -/
theorem unescapeBytes_code {high low decoded : UInt8} (hhigh : high ≠ 0x25)
    (h : decodeHexPair high low = some decoded) (rest : List UInt8) :
    unescapeBytes (0x25 :: high :: low :: rest) = decoded :: unescapeBytes rest := by
  rw [unescapeBytes, if_neg hhigh, h]

/-- The digits are those of percent-coding. -/
theorem hexValue_of_digitValue {c : Char} {n : ℕ} (h : digitValue c = some n) :
    IsAscii c ∧ UInt8.ofNat c.toNat ≠ 0x25 ∧ hexValue (UInt8.ofNat c.toNat) = some (UInt8.ofNat n) := by
  have hascii : IsAscii c := by
    unfold digitValue at h
    unfold IsAscii
    split_ifs at h with h1 h2 h3
    · exact lt_of_le_of_lt h1.2 (by decide)
    · exact lt_of_le_of_lt h2.2 (by decide)
    · exact lt_of_le_of_lt h3.2 (by decide)
  have hall : ∀ k < 128, ∀ n ∈ digitValue (Char.ofNat k),
      UInt8.ofNat k ≠ 0x25 ∧ hexValue (UInt8.ofNat k) = some (UInt8.ofNat n) := by decide +kernel
  have hc := hall c.toNat hascii n
  rw [Char.ofNat_toNat] at hc
  exact ⟨hascii, hc h⟩

theorem decodeHexPair_of_codes {b : UInt8} {high low : UInt8} (hhigh : hexValue high = some (UInt8.ofNat (b.toNat / 16)))
    (hlow : hexValue low = some (UInt8.ofNat (b.toNat % 16))) : decodeHexPair high low = some b := by
  have hbyte : ∀ b : UInt8, (UInt8.ofNat (b.toNat / 16) <<< 4) ||| UInt8.ofNat (b.toNat % 16) = b :=
    forall_byte (P := fun b => (UInt8.ofNat (b.toNat / 16) <<< 4) ||| UInt8.ofNat (b.toNat % 16) = b) (by decide +kernel)
  rw [decodeHexPair, hhigh, hlow]
  exact congrArg some (hbyte b)

theorem unescapeBytes_codes {bs : List UInt8} {t : List Char} (h : Codes bs t) (rest : List UInt8) :
    unescapeBytes (encode t ++ rest) = bs ++ unescapeBytes rest := by
  induction h with
  | nil => rfl
  | @cons b high low _ _ hhigh hlow _ ih =>
    obtain ⟨hascii, hne, hvalue⟩ := hexValue_of_digitValue hhigh
    obtain ⟨hascii', -, hvalue'⟩ := hexValue_of_digitValue hlow
    rw [encode_cons, encode_cons, encode_cons, encode_ascii hascii, encode_ascii hascii', encode_ascii (by decide)]
    show unescapeBytes (0x25 :: _ :: _ :: (encode _ ++ rest)) = _
    rw [unescapeBytes_code hne (decodeHexPair_of_codes hvalue hvalue'), ih]
    rfl

theorem percent_not_mem_encode {c : Char} (h : c ≠ '%') : 0x25 ∉ String.utf8EncodeChar c := by
  intro hmem
  by_cases hc : IsAscii c
  · rw [encode_ascii hc, List.mem_singleton] at hmem
    have hnat := congrArg UInt8.toNat hmem
    rw [toNat_ofNat_of_lt (Nat.lt_trans hc (by decide))] at hnat
    exact h (Char.toNat_inj.mp hnat.symm)
  · exact absurd (le_of_mem_encode hc hmem) (by decide)

/-- An escaped text has the bytes of what it was. -/
theorem unescapeBytes_escaped {s e : List Char} (h : Escaped (· ≠ '%') s e) : unescapeBytes (encode e) = encode s := by
  induction h with
  | nil => rfl
  | keep hc _ ih => rw [encode_cons, unescapeBytes_append (percent_not_mem_encode hc), ih, encode_cons]
  | code codes _ ih => rw [encode_append, unescapeBytes_codes codes, ih, encode_cons]

theorem stringFromUtf8_of_some {bs : List UInt8} {s : List Char} (h : fromUtf8 bs = some s) (index : ℕ) :
    stringFromUtf8 index bs = .ok s := by
  induction bs using fromUtf8.induct generalizing s index with
  | case1 =>
    rw [fromUtf8] at h
    cases h
    rw [stringFromUtf8]
  | case2 b rest c n hnext ih =>
    rw [fromUtf8, hnext] at h
    obtain ⟨s', hs', rfl⟩ := Option.map_eq_some_iff.mp h
    rw [stringFromUtf8, hnext]
    simp only
    rw [ih hs']
    rfl
  | case3 b rest n hnext =>
    rw [fromUtf8, hnext] at h
    cases h

/-- **An escaped text is read back.** -/
theorem uriUnescape_escaped {s : String} {e : List Char} (h : Escaped (· ≠ '%') s.toList e) :
    uriUnescape (.ofList e) = .ok s := by
  have hbytes : asBytes (.ofList e) = encode e := by
    rw [asBytes, String.toList_ofList]
    rfl
  rw [uriUnescape, hbytes, unescapeBytes_escaped h,
    stringFromUtf8_of_some (show fromUtf8 (encode s.toList) = some s.toList from fromUtf8_encode s.toList)]
  show Except.ok (String.ofList s.toList) = _
  rw [String.ofList_toList]

/-! ### Reading an answer -/

/-- An interrupted read is tried again. -/
def Interrupted (err : IoError) : Prop := err.kind = .interrupted

/-- Bytes are cut at their first newline. -/
theorem cut_newline {front : List UInt8} (h : 10 ∉ front) (back : List UInt8) :
    (front ++ 10 :: back).takeWhile (· != 10) = front ∧ (front ++ 10 :: back).dropWhile (· != 10) = 10 :: back := by
  have hfront : ∀ b ∈ front, (b != 10) = true := by
    intro b hb
    rw [bne_iff_ne]
    rintro rfl
    exact h hb
  rw [List.takeWhile_append_of_pos hfront, List.dropWhile_append_of_pos hfront]
  simp

/-- A line is read up to its newline, however its bytes come in. -/
theorem readUntilNewline_line {reads : List (Except IoError (List UInt8))} {line rest : List UInt8}
    (hopen : Reader.Open Interrupted ⟨reads⟩) (hline : 10 ∉ line) (hbytes : Reader.bytes ⟨reads⟩ = line ++ 10 :: rest) :
    ∃ reads', readUntilNewline reads = (.ok (line ++ [10]), reads') ∧ Reader.bytes ⟨reads'⟩ = rest := by
  induction reads generalizing line with
  | nil => simp [Reader.bytes] at hbytes
  | cons result reads ih =>
    have hopen' : Reader.Open Interrupted ⟨reads⟩ := fun r hr => hopen r (List.mem_cons_of_mem _ hr)
    cases result with
    | error err =>
      have hkind : err.kind = .interrupted := hopen (.error err) List.mem_cons_self
      obtain ⟨reads', hrun, hrest⟩ := ih hopen' hline (by simpa [Reader.bytes] using hbytes)
      exact ⟨reads', by rw [readUntilNewline, if_pos hkind, hrun], hrest⟩
    | ok available =>
      have hne : available ≠ [] := hopen (.ok available) List.mem_cons_self
      have hsplit : available ++ Reader.bytes ⟨reads⟩ = line ++ 10 :: rest := by simpa [Reader.bytes] using hbytes
      by_cases hmem : 10 ∈ available
      · obtain ⟨front, back, rfl, hfront⟩ := List.eq_append_cons_of_mem hmem
        rw [List.append_assoc, List.cons_append] at hsplit
        have hcut := cut_newline hfront (back ++ Reader.bytes ⟨reads⟩)
        rw [hsplit, (cut_newline hline rest).1, (cut_newline hline rest).2] at hcut
        obtain ⟨rfl, hrest⟩ := hcut
        obtain ⟨-, rfl⟩ := List.cons.inj hrest
        refine ⟨if back = [] then reads else .ok back :: reads, ?_, ?_⟩
        · rw [readUntilNewline, (cut_newline hfront back).1, (cut_newline hfront back).2]
        · split_ifs with hback
          · rw [hback, List.nil_append]
          · simp [Reader.bytes]
      · obtain ⟨more, rfl, hmore⟩ : ∃ more, line = available ++ more ∧ Reader.bytes ⟨reads⟩ = more ++ 10 :: rest := by
          rcases List.append_eq_append_iff.mp hsplit with ⟨more, hline', hmore⟩ | ⟨more, havailable, hmore⟩
          · exact ⟨more, hline', hmore⟩
          · cases more with
            | nil =>
              rw [List.append_nil] at havailable
              exact ⟨[], by rw [List.append_nil, havailable], hmore.symm⟩
            | cons b more =>
              obtain ⟨rfl, -⟩ := List.cons.inj hmore
              rw [havailable] at hmem
              exact absurd (by simp) hmem
        rw [List.mem_append, not_or] at hline
        obtain ⟨reads', hrun, hrest⟩ := ih hopen' hline.2 hmore
        have htake : available.takeWhile (· != 10) = available := by
          rw [List.takeWhile_eq_self_iff]
          exact fun b hb => bne_iff_ne.mpr fun h => hmem (h ▸ hb)
        have hdrop : available.dropWhile (· != 10) = [] := by
          rw [List.dropWhile_eq_nil_iff]
          exact fun b hb => bne_iff_ne.mpr fun h => hmem (h ▸ hb)
        refine ⟨reads', ?_, hrest⟩
        rw [readUntilNewline, htake, hdrop]
        simp only [if_neg hne, hrun, List.append_assoc]
        rfl

/-- The line `s` with its newline is read as it is. -/
theorem readLine_line {stdout : Reader} {line : List Char} {rest : List UInt8} (hopen : stdout.Open Interrupted)
    (hline : '\n' ∉ line) (hbytes : stdout.bytes = encode (line ++ ['\n']) ++ rest) :
    ∃ stdout', readLine stdout = (.ok (line ++ ['\n'], (encode (line ++ ['\n'])).length), stdout') ∧
      stdout'.bytes = rest := by
  have hnewline : encode ['\n'] = [10] := by decide
  have hbytes' : Reader.bytes ⟨stdout.reads⟩ = encode line ++ 10 :: rest := by
    rw [show Reader.bytes ⟨stdout.reads⟩ = stdout.bytes from rfl, hbytes, encode_append, hnewline, List.append_assoc]
    rfl
  have hmem : 10 ∉ encode line := by
    intro hmem
    obtain ⟨c, hc, hb⟩ := List.mem_flatMap.mp hmem
    have hval := toNat_of_mem_encode (by decide) hb
    have hchar : c = '\n' := Char.toNat_inj.mp hval
    exact hline (hchar ▸ hc)
  obtain ⟨reads', hrun, hrest⟩ := readUntilNewline_line hopen hmem hbytes'
  have hline' : encode (line ++ ['\n']) = encode line ++ [10] := by rw [encode_append, hnewline]
  have hutf8 : fromUtf8 (encode line ++ [10]) = some (line ++ ['\n']) := by
    rw [← hline']
    exact fromUtf8_encode _
  refine ⟨⟨reads'⟩, ?_, hrest⟩
  unfold readLine
  rw [hrun]
  simp only [hutf8, hline']

/-- Neither carriage return nor newline stands in an escaped text whose kept characters are none. -/
theorem not_mem_of_escaped {kept : Char → Prop} {c : Char} (hc : ¬ kept c) (hdigit : digitValue c = none) (hpercent : c ≠ '%')
    {s e : List Char} (h : Escaped kept s e) : c ∉ e := by
  have hcodes : ∀ {bs : List UInt8} {t : List Char}, Codes bs t → c ∉ t := by
    intro bs t ht
    induction ht with
    | nil => exact List.not_mem_nil
    | cons high low _ ih =>
      rw [List.mem_cons, List.mem_cons, List.mem_cons]
      rintro (rfl | rfl | rfl | hmem)
      · exact hpercent rfl
      · rw [hdigit] at high
        cases high
      · rw [hdigit] at low
        cases low
      · exact ih hmem
  induction h with
  | nil => exact List.not_mem_nil
  | keep hkept _ ih =>
    rw [List.mem_cons]
    rintro (rfl | hmem)
    · exact hc hkept
    · exact ih hmem
  | code codes _ ih =>
    rw [List.mem_append]
    rintro (hmem | hmem)
    · exact hcodes codes hmem
    · exact ih hmem

theorem trimLineEnd_newline {line : List Char} (h : ∀ c ∈ line, c ≠ '\r' ∧ c ≠ '\n') :
    trimLineEnd (line ++ ['\n']) = line := by
  unfold trimLineEnd
  rw [List.reverse_append, List.reverse_singleton, List.singleton_append, List.dropWhile_cons_of_pos (by decide)]
  cases hlast : line.reverse with
  | nil => rw [List.reverse_eq_nil_iff.mp hlast]; rfl
  | cons c rest =>
    have hc := h c (List.mem_reverse.mp (hlast ▸ List.mem_cons_self))
    rw [List.dropWhile_cons_of_neg (by simp [hc.1, hc.2]), ← hlast, List.reverse_reverse]

theorem parseAnswer_data (value : List Char) :
    parseAnswer (.ofList ("D ".toList ++ value)) = (uriUnescape (.ofList value)).map some := by
  have hne : String.ofList ("D ".toList ++ value) ≠ "OK" := by
    intro h
    have hhead := congrArg (fun s => s.toList.head?) h
    simp at hhead
  have hlist : (String.ofList ("D ".toList ++ value)).toList = "D ".toList ++ value := String.toList_ofList
  have hok : stripPrefix (.ofList ("D ".toList ++ value)) "OK " = none := by
    rw [stripPrefix, hlist, if_neg]
    rintro ⟨t, ht⟩
    have hhead := congrArg List.head? ht
    simp at hhead
  have hdata : stripPrefix (.ofList ("D ".toList ++ value)) "D " = some (.ofList value) := by
    rw [stripPrefix, hlist, if_pos (List.prefix_append _ _), List.drop_left]
  unfold parseAnswer
  rw [if_neg hne, hok, hdata]

/-- The characters that stand as they are in an escaped line. -/
def KeptInLine (c : Char) : Prop := c ≠ '%' ∧ c ≠ '\r' ∧ c ≠ '\n'

/-- **Percent-coding is inverted.**  Both escapes are the same; a text that is escaped in any way is decoded to what
it was; and if line ends are escaped as well, it is what an answer of pinentry is read as. -/
theorem percent_coding_inverted (s : String) :
    urlEncode s = uriEscape s ∧
      (∀ e, Escaped (· ≠ '%') s.toList e → uriUnescape (.ofList e) = .ok s) ∧
      ∀ e, Escaped KeptInLine s.toList e → ∀ (stdout : Reader) (rest : List UInt8), stdout.Open Interrupted →
        stdout.bytes = encode ("D ".toList ++ e ++ ['\n']) ++ rest →
        ∃ stdout', readPinentryResponse stdout = (.ok (some s), stdout') ∧ stdout'.bytes = rest := by
  refine ⟨uriEscape_eq s, fun e he => uriUnescape_escaped he, fun e he stdout rest hopen hbytes => ?_⟩
  have hplain : ∀ c ∈ "D ".toList ++ e, c ≠ '\r' ∧ c ≠ '\n' := by
    have hcr : '\r' ∉ e := not_mem_of_escaped (fun h : KeptInLine '\r' => h.2.1 rfl) (by decide) (by decide) he
    have hlf : '\n' ∉ e := not_mem_of_escaped (fun h : KeptInLine '\n' => h.2.2 rfl) (by decide) (by decide) he
    have hstart : '\r' ∉ "D ".toList ∧ '\n' ∉ "D ".toList := by decide
    intro c hc
    rcases List.mem_append.mp hc with hc | hc
    · exact ⟨fun h => hstart.1 (h ▸ hc), fun h => hstart.2 (h ▸ hc)⟩
    · exact ⟨fun h => hcr (h ▸ hc), fun h => hlf (h ▸ hc)⟩
  obtain ⟨stdout', hrun, hrest⟩ := readLine_line hopen (fun hmem => (hplain _ hmem).2 rfl) hbytes
  have hpos : (encode ("D ".toList ++ e ++ ['\n'])).length ≠ 0 := by
    rw [encode_append, List.length_append]
    have : (encode ['\n']).length = 1 := by decide
    omega
  refine ⟨stdout', ?_, hrest⟩
  unfold readPinentryResponse
  rw [hrun]
  simp only [if_neg hpos]
  rw [trimLineEnd_newline hplain, parseAnswer_data, uriUnescape_escaped (he.mono fun _ h => h.1)]
  rfl

theorem percent_coding_inverted_example :
    uriUnescape (.ofList "a%2525%25".toList) = .ok "a%25%" ∧
      ∃ stdout', readPinentryResponse ⟨[.ok (encode "D a%0".toList), .ok (encode "A%25\nOK".toList)]⟩ =
        (.ok (some "a\n%"), stdout') ∧ stdout'.bytes = encode "OK".toList := by
  have hpercent : Codes (String.utf8EncodeChar '%') "%25".toList := by
    rw [show String.utf8EncodeChar '%' = [0x25] by decide, show "%25".toList = ['%', '2', '5'] by decide]
    exact .cons (by decide) (by decide) .nil
  have hnewline : Codes (String.utf8EncodeChar '\n') "%0A".toList := by
    rw [show String.utf8EncodeChar '\n' = [0x0a] by decide, show "%0A".toList = ['%', '0', 'A'] by decide]
    exact .cons (by decide) (by decide) .nil
  constructor
  · refine (percent_coding_inverted "a%25%").2.1 _ ?_
    rw [show "a%25%".toList = ['a', '%', '2', '5', '%'] by decide,
      show "a%2525%25".toList = 'a' :: ("%25".toList ++ '2' :: '5' :: ("%25".toList ++ [])) by decide]
    exact .keep (by decide) (.code hpercent (.keep (by decide) (.keep (by decide) (.code hpercent .nil))))
  · refine (percent_coding_inverted "a\n%").2.2 ('a' :: ("%0A".toList ++ ("%25".toList ++ []))) ?_ _ _ ?_ (by decide)
    · rw [show "a\n%".toList = ['a', '\n', '%'] by decide]
      exact .keep ⟨by decide, by decide, by decide⟩ (.code hnewline (.code hpercent .nil))
    · intro result hresult
      simp only [List.mem_cons, List.not_mem_nil, or_false] at hresult
      rcases hresult with rfl | rfl
      · exact (by decide : encode "D a%0".toList ≠ [])
      · exact (by decide : encode "A%25\nOK".toList ≠ [])

end OpenfortivpnRs.Pinentry
