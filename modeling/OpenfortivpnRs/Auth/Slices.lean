import OpenfortivpnRs.Auth.Login
import OpenfortivpnRs.Text.CaseSearch
import Mathlib.Data.List.TakeWhile

/-!
# Scraping by byte offsets

The searches of `auth/login.rs` as the code has them: a place is an offset in bytes, and a slice whose
end is no boundary of characters, or is behind the end of the string, panics.  Every search stops at a
boundary (`findAsciiCaseInsensitive_eq`), so a slice there cuts the text in two (`sliceFrom_append`).
-/

namespace OpenfortivpnRs.Auth.Offsets

open Text Http

/-! ### Slices -/

/-- `&s[n..]`. -/
def sliceFrom : List Char → ℕ → Except Panic (List Char)
  | s, 0 => .ok s
  | [], _ + 1 => .error .outOfBounds
  | c :: s, n + 1 => if n + 1 < c.utf8Size then .error .charBoundary else sliceFrom s (n + 1 - c.utf8Size)

/-- `&s[..n]`. -/
def sliceTo : List Char → ℕ → Except Panic (List Char)
  | _, 0 => .ok []
  | [], _ + 1 => .error .outOfBounds
  | c :: s, n + 1 =>
    if n + 1 < c.utf8Size then .error .charBoundary
    else (sliceTo s (n + 1 - c.utf8Size)).map fun front => c :: front

/-- `&s[start..stop]`. -/
def slice (s : List Char) (start stop : ℕ) : Except Panic (List Char) :=
  if stop < start then .error .outOfBounds
  else
    match sliceFrom s start with
    | .error why => .error why
    | .ok rest => sliceTo rest (stop - start)

@[simp] theorem sliceFrom_zero (s : List Char) : sliceFrom s 0 = .ok s := by
  cases s <;> rfl

@[simp] theorem sliceTo_zero (s : List Char) : sliceTo s 0 = .ok [] := by
  cases s <;> rfl

/-- A slice between two characters. -/
theorem sliceFrom_append (s t : List Char) : sliceFrom (s ++ t) (byteLen s) = .ok t := by
  induction s with
  | nil => exact sliceFrom_zero t
  | cons c s ih =>
    have hpos := c.utf8Size_pos
    obtain ⟨n, hn⟩ : ∃ n, c.utf8Size + byteLen s = n + 1 := ⟨c.utf8Size + byteLen s - 1, by omega⟩
    rw [List.cons_append, byteLen_cons, hn, sliceFrom, if_neg (by omega), ← hn, Nat.add_sub_cancel_left, ih]

theorem sliceTo_append (s t : List Char) : sliceTo (s ++ t) (byteLen s) = .ok s := by
  induction s with
  | nil => exact sliceTo_zero t
  | cons c s ih =>
    have hpos := c.utf8Size_pos
    obtain ⟨n, hn⟩ : ∃ n, c.utf8Size + byteLen s = n + 1 := ⟨c.utf8Size + byteLen s - 1, by omega⟩
    rw [List.cons_append, byteLen_cons, hn, sliceTo, if_neg (by omega), ← hn, Nat.add_sub_cancel_left, ih]
    rfl

/-- A slice from a boundary on. -/
theorem slice_of_sliceFrom {s t u : List Char} {start : ℕ} (h : sliceFrom s start = .ok (t ++ u)) :
    slice s start (start + byteLen t) = .ok t := by
  rw [slice, if_neg (by omega), h, Nat.add_sub_cancel_left]
  exact sliceTo_append t u

/-- Behind the end there is nothing to slice. -/
theorem sliceFrom_end (s : List Char) : sliceFrom s (byteLen s + 1) = .error .outOfBounds := by
  induction s with
  | nil => rfl
  | cons c s ih =>
    rw [byteLen_cons, sliceFrom, if_neg (by omega), ← ih]
    congr 1
    omega

theorem sliceFrom_length_le {s rest : List Char} {n : ℕ} (h : sliceFrom s n = .ok rest) :
    rest.length ≤ s.length ∧ (0 < n → rest.length < s.length) := by
  induction s generalizing n with
  | nil =>
    cases n with
    | zero =>
      cases h
      exact ⟨le_rfl, fun h => absurd h (lt_irrefl 0)⟩
    | succ n => cases h
  | cons c s ih =>
    cases n with
    | zero =>
      cases h
      exact ⟨le_rfl, fun h => absurd h (lt_irrefl 0)⟩
    | succ n =>
      rw [sliceFrom] at h
      split at h
      · cases h
      · have hle := (ih h).1
        rw [List.length_cons]
        omega

theorem le_of_sliceFrom {s rest : List Char} {n : ℕ} (h : sliceFrom s n = .ok rest) : n ≤ byteLen s := by
  induction s generalizing n with
  | nil =>
    cases n with
    | zero => exact le_rfl
    | succ n => cases h
  | cons c s ih =>
    cases n with
    | zero => exact Nat.zero_le _
    | succ n =>
      rw [sliceFrom] at h
      split at h
      · cases h
      · have hle := ih h
        rw [byteLen_cons]
        omega

theorem byteLen_pos {s : List Char} (h : s ≠ []) : 0 < byteLen s := by
  obtain ⟨c, s, rfl⟩ := List.exists_cons_of_ne_nil h
  have := c.utf8Size_pos
  rw [byteLen_cons]
  omega

/-- The slice behind the first byte. -/
theorem sliceFrom_min (s : List Char) : sliceFrom s (min (byteLen s) 1) = skipByte s := by
  cases s with
  | nil => rfl
  | cons c s =>
    have hpos := byteLen_pos (List.cons_ne_nil c s)
    have hsize := c.utf8Size_pos
    rw [Nat.min_eq_right hpos, sliceFrom, skipByte]
    by_cases hc : c.utf8Size = 1
    · rw [if_neg (by omega), if_pos hc, hc]
      exact sliceFrom_zero s
    · rw [if_pos (by omega), if_neg hc]

/-! ### Searches -/

/-- `str::find` of a string. -/
def find (needle s : List Char) : Option ℕ := (splitOnce needle s).map fun (before, _) => byteLen before

/-- `str::find` of a kind of characters. -/
def findIf (p : Char → Bool) (s : List Char) : Option ℕ :=
  if s.any p then some (byteLen (s.takeWhile fun ch => !p ch)) else none

/-- `find_ascii_case_insensitive`. -/
def findAsciiCaseInsensitive (haystack needle : List Char) : Option ℕ :=
  windowPosition (encode needle).length (eqIgnoreAsciiCaseBytes · (encode needle)) (encode haystack)

/-- The byte search of an ASCII needle by characters. -/
theorem findAsciiCaseInsensitive_eq {needle : List Char} (hascii : ∀ c ∈ needle, IsAscii c) (hne : needle ≠ [])
    (s : List Char) : findAsciiCaseInsensitive s needle =
      (splitOnceIgnoreCase needle s).map fun (before, _) => byteLen before :=
  windowPosition_encode hascii hne s

/-- What is sliced off behind a place that was found. -/
theorem sliceFrom_found {needle s before after : List Char} (hascii : ∀ c ∈ needle, IsAscii c)
    (h : splitOnceIgnoreCase needle s = some (before, after)) :
    sliceFrom s (byteLen before + byteLen needle) = .ok after := by
  obtain ⟨found, rfl, hfound⟩ := splitOnceIgnoreCase_eq h
  have hself : byteLen needle = needle.length :=
    byteLen_of_eqIgnoreAsciiCase hascii (eqIgnoreAsciiCase_iff.mpr rfl)
  have hlen : byteLen before + byteLen needle = byteLen (before ++ found) := by
    rw [byteLen_append, byteLen_of_eqIgnoreAsciiCase hascii hfound, hself]
  rw [hlen]
  exact sliceFrom_append _ _

/-- The characters in front of the first of a kind, which is all of them where there is none. -/
theorem findIf_getD (p : Char → Bool) (s : List Char) :
    (findIf p s).getD (byteLen s) = byteLen (s.takeWhile fun ch => !p ch) := by
  unfold findIf
  split
  · rfl
  · rename_i hnone
    have hall : s.takeWhile (fun ch => !p ch) = s := by
      refine List.takeWhile_eq_self_iff.mpr fun c hc => ?_
      by_contra hp
      exact hnone (List.any_eq_true.mpr ⟨c, hc, by simpa using hp⟩)
    rw [hall]
    rfl

theorem sliceTo_takeWhile (p : Char → Bool) (s : List Char) :
    sliceTo s (byteLen (s.takeWhile p)) = .ok (s.takeWhile p) := by
  have h := sliceTo_append (s.takeWhile p) (s.dropWhile p)
  rwa [List.takeWhile_append_dropWhile] at h

/-! ### Addresses -/

/-- The characters that end an address. -/
def endsAction (ch : Char) : Bool := ch == '"' || ch == '\'' || isAsciiWhitespace ch

/-- `action_url`. -/
def actionUrl (rest : List Char) : Except Panic (Option (List Char)) :=
  match findAsciiCaseInsensitive rest "action=".toList with
  | none => .ok none
  | some index =>
    match h : sliceFrom rest (index + byteLen "action=".toList) with
    | .error why => .error why
    | .ok afterKey =>
      let afterQuote := stripQuote afterKey
      let stop := (findIf endsAction afterQuote).getD (byteLen afterQuote)
      if 0 < stop then (sliceTo afterQuote stop).map some
      else
        match h' : sliceFrom afterKey (min (byteLen afterKey) 1) with
        | .error why => .error why
        | .ok rest' =>
          have : rest'.length < rest.length :=
            (sliceFrom_length_le h').1.trans_lt ((sliceFrom_length_le h).2 (Nat.add_pos_right _ (by decide)))
          actionUrl rest'
termination_by rest.length

/-- The loop of `portal_redirect` over the places of one marker. -/
def redirectLoop (marker rest : List Char) (hm : marker ≠ []) : Except Panic (Option (List Char)) :=
  match findAsciiCaseInsensitive rest marker with
  | none => .ok none
  | some index =>
    match h : sliceFrom rest (index + byteLen marker) with
    | .error why => .error why
    | .ok afterMarker =>
      have hlt := (sliceFrom_length_le h).2 (Nat.add_pos_right index (byteLen_pos hm))
      let retry (_ : Unit) : Except Panic (Option (List Char)) :=
        match h' : sliceFrom afterMarker (min (byteLen afterMarker) 1) with
        | .error why => .error why
        | .ok rest' =>
          have : rest'.length < rest.length := (sliceFrom_length_le h').1.trans_lt hlt
          redirectLoop marker rest' hm
      match trimStart afterMarker with
      | '=' :: afterEquals =>
        match trimStart afterEquals with
        | [] => .ok none
        | quote :: afterQuote =>
          if quote ≠ '\'' ∧ quote ≠ '"' then retry ()
          else
            match sliceFrom (quote :: afterQuote) quote.utf8Size with
            | .error why => .error why
            | .ok valueRest =>
              match find [quote] valueRest with
              | none => .ok none
              | some valueEnd =>
                match sliceTo valueRest valueEnd with
                | .error why => .error why
                | .ok value => if value.head? = some '/' then .ok (some value) else retry ()
      | _ => retry ()
termination_by rest.length

theorem documentLocation_ne : "document.location".toList ≠ [] := by decide

theorem windowLocation_ne : "window.location".toList ≠ [] := by decide

theorem locationHref_ne : "location.href".toList ≠ [] := by decide

/-- `portal_redirect`. -/
def portalRedirect (body : List Char) : Except Panic (Option (List Char)) := do
  match ← redirectLoop "document.location".toList body documentLocation_ne with
  | some value => return some value
  | none =>
    match ← redirectLoop "window.location".toList body windowLocation_ne with
    | some value => return some value
    | none => redirectLoop "location.href".toList body locationHref_ne

/-! ### The form of a challenge -/

/-- `html_attr`. -/
def htmlAttr (tag name : List Char) : Except Panic (Option (List Char)) := do
  let needle := name ++ ['=', '"']
  match findAsciiCaseInsensitive tag needle with
  | none => return none
  | some index =>
    let start := index + byteLen needle
    match find ['"'] (← sliceFrom tag start) with
    | none => return none
    | some stop => return some (← slice tag start (stop + start))

/-- `otp_challenge_prompt`. -/
def otpChallengePrompt (config : Config) (htmlAfterAction : List Char) : Except Panic String := do
  let marker := (config.otpPrompt.getD "Please").toList
  match find marker htmlAfterAction with
  | some start =>
    match find ['<'] (← sliceFrom htmlAfterAction start) with
    | some stop => return .ofList (← slice htmlAfterAction start (start + stop))
    | none => return "Please enter one-time password: "
  | none => return "Please enter one-time password: "

/-- A panic stops the program. -/
def orPanic {α : Type} : Except Panic α → Except Stop α
  | .ok a => .ok a
  | .error why => .error (.panic why)

/-- The fields one input of the form is posted as. -/
def inputFields (config : Config) (otp : String) (input : List Char) : Except Stop (List String) := do
  let inputType := (← orPanic (htmlAttr input "type".toList)).getD []
  let isHidden := eqIgnoreAsciiCase inputType "hidden".toList
  let isPassword := eqIgnoreAsciiCase inputType "password".toList
  if isHidden || isPassword then
    let name ← match ← orPanic (htmlAttr input "name".toList) with
      | some name => .ok (String.ofList name)
      | none => .error (.error (.auth "OTP challenge input is missing a name"))
    let value ← if isHidden then do
        match ← orPanic (htmlAttr input "value".toList) with
        | some value => .ok (String.ofList value)
        | none => .error (.error (.auth "OTP challenge hidden input is missing a value"))
      else .ok otp
    let realm := match config.realm.filter (· ≠ "") with
      | some realm => if isPassword then ["realm=" ++ urlEncode realm] else []
      | none => []
    return [urlEncode name ++ "=" ++ urlEncode value] ++ realm
  else return []

/-- Where an input that starts at `inputStart` ends: at the next bracket, or at the end of the page. -/
def inputEnd (html fromInput : List Char) (inputStart : ℕ) : ℕ :=
  match find ['>'] fromInput with
  | some index => inputStart + index
  | none => byteLen html

theorem le_inputEnd {html fromInput : List Char} {start rel : ℕ} (h : start ≤ byteLen html) :
    start ≤ inputEnd html fromInput (start + rel) := by
  unfold inputEnd
  split
  · omega
  · exact h

/-- The next search starts behind the one before. -/
theorem inputEnd_lt {html rest : List Char} {searchFrom : ℕ} (h : sliceFrom html searchFrom = .ok rest)
    (fromInput : List Char) (rel : ℕ) : byteLen html + 1 - (inputEnd html fromInput (searchFrom + rel) + 1) <
      byteLen html + 1 - searchFrom := by
  have hle := le_of_sliceFrom h
  have hend : searchFrom ≤ inputEnd html fromInput (searchFrom + rel) := le_inputEnd hle
  omega

/-- The loop of `otp_challenge_form` over the inputs from the offset `searchFrom` on. -/
def inputsLoop (config : Config) (otp : String) (html : List Char) (searchFrom : ℕ) (fields : List String) :
    Except Stop (List String) :=
  match h : sliceFrom html searchFrom with
  | .error why => .error (.panic why)
  | .ok rest =>
    match findAsciiCaseInsensitive rest "<input".toList with
    | none => .ok fields
    | some inputRel =>
      let inputStart := searchFrom + inputRel
      match sliceFrom html inputStart with
      | .error why => .error (.panic why)
      | .ok fromInput =>
        let stop := inputEnd html fromInput inputStart
        match slice html inputStart stop with
        | .error why => .error (.panic why)
        | .ok input =>
          match inputFields config otp input with
          | .error stop => .error stop
          | .ok more =>
            have : byteLen html + 1 - (stop + 1) < byteLen html + 1 - searchFrom :=
              inputEnd_lt h fromInput inputRel
            inputsLoop config otp html (stop + 1) (fields ++ more)
termination_by byteLen html + 1 - searchFrom
decreasing_by exact this

variable {σ : Type} (gateway : Gateway σ)

/-- `otp_challenge_form`. -/
def otpChallengeForm (config : Config) (html : List Char) : Login σ (String × String × String) := do
  let formStart ← Login.okOr (.error (.auth "OTP challenge response does not contain a form"))
    (findAsciiCaseInsensitive html "<form".toList)
  let form ← Login.ofPanic (sliceFrom html formStart)
  let index ← Login.okOr (.error (.auth "OTP challenge form does not contain an action"))
    (findAsciiCaseInsensitive form "action=\"".toList)
  let actionKeyStart := formStart + index + byteLen "action=\"".toList
  let action ← Login.ofPanic (sliceFrom html actionKeyStart)
  let index ← Login.okOr (.error (.auth "OTP challenge form action is unterminated")) (find ['"'] action)
  let actionEnd := index + actionKeyStart
  let path ← Login.ofPanic (slice html actionKeyStart actionEnd)
  let htmlAfterAction ← Login.ofPanic (sliceFrom html actionEnd)
  let prompt ← Login.ofPanic (otpChallengePrompt config htmlAfterAction)
  let otp ← otpValueWithPurpose gateway config "otp" prompt
  let fields ← Login.ofStop (inputsLoop config otp html formStart [])
  if fields = [] then
    throw (.error (.auth "OTP challenge form does not contain hidden or password inputs"))
  else pure (.ofList path, String.intercalate "&" fields, prompt)

end OpenfortivpnRs.Auth.Offsets
