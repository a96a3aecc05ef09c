import OpenfortivpnRs.Auth.Slices

/-!
# Offsets and characters

The searches by byte offsets are the searches by characters: each offset is the length of what was cut
off in front (`actionUrl_offsets`, `portalRedirect_offsets`, `otpChallengeForm_offsets`).
-/

namespace OpenfortivpnRs.Auth

open Text Http

/-- A slice whose panic is passed on. -/
theorem match_eq_bind {β : Type} (slice : Except Panic (List Char)) (f : List Char → Except Panic β) :
    (match _ : slice with
      | .error why => .error why
      | .ok rest => f rest) = slice >>= f := by
  cases slice <;> rfl

/-! ### The searches by characters, one turn each -/

/-- The address behind `action=`. -/
def actionValue (afterKey : List Char) : List Char :=
  (stripQuote afterKey).takeWhile fun ch => !Offsets.endsAction ch

theorem actionUrl_none {rest : List Char} (h : splitOnceIgnoreCase "action=".toList rest = none) :
    actionUrl rest = .ok none := by
  rw [actionUrl]
  split
  · rfl
  · rename_i hsome
    rw [h] at hsome
    cases hsome

theorem actionUrl_some {rest before afterKey : List Char}
    (h : splitOnceIgnoreCase "action=".toList rest = some (before, afterKey)) :
    actionUrl rest = if actionValue afterKey ≠ [] then .ok (some (actionValue afterKey))
      else skipByte afterKey >>= actionUrl := by
  rw [actionUrl]
  split
  · rename_i hnone
    rw [h] at hnone
    cases hnone
  · rename_i hsome
    rw [h] at hsome
    cases hsome
    show (if actionValue afterKey ≠ [] then Except.ok (some (actionValue afterKey)) else _) = _
    split
    · rfl
    · split
      · rename_i hskip
        simp only [hskip]
        rfl
      · rename_i hskip
        simp only [hskip]
        rfl

/-- What a marker is followed by: a quoted value or none ends the search, and otherwise it goes on. -/
def assignment (afterMarker : List Char) : Option (Option (List Char)) :=
  match trimStart afterMarker with
  | '=' :: afterEquals =>
    match trimStart afterEquals with
    | [] => some none
    | quote :: valueRest =>
      if quote ≠ '\'' ∧ quote ≠ '"' then none
      else
        match splitOnce [quote] valueRest with
        | none => some none
        | some (value, _) => if value.head? = some '/' then some (some value) else none
  | _ => none

section Redirect

variable {marker rest before afterMarker : List Char} {hm : marker ≠ []}

theorem redirectLoop_none (h : splitOnceIgnoreCase marker rest = none) : redirectLoop marker rest hm = .ok none := by
  rw [redirectLoop]
  split
  · rfl
  · rename_i hsome
    rw [h] at hsome
    cases hsome

theorem redirectLoop_some (h : splitOnceIgnoreCase marker rest = some (before, afterMarker)) :
    redirectLoop marker rest hm = match assignment afterMarker with
      | some found => .ok found
      | none => skipByte afterMarker >>= fun rest' => redirectLoop marker rest' hm := by
  rw [redirectLoop]
  split
  · rename_i hnone
    rw [h] at hnone
    cases hnone
  · rename_i hsome
    rw [h] at hsome
    cases hsome
    have hretry := match_eq_bind (skipByte afterMarker) fun rest' => redirectLoop marker rest' hm
    unfold assignment
    cases hequals : trimStart afterMarker with
    | nil => exact hretry
    | cons c afterEquals =>
      by_cases hc : c = '='
      · subst hc
        cases hquote : trimStart afterEquals with
        | nil => simp only [hquote]
        | cons quote valueRest =>
          simp only [hquote]
          by_cases hq : quote ≠ '\'' ∧ quote ≠ '"'
          · simp only [if_pos hq]
            exact hretry
          · simp only [if_neg hq]
            cases hvalue : splitOnce [quote] valueRest with
            | none => rfl
            | some found =>
              by_cases hslash : found.1.head? = some '/'
              · simp only [if_pos hslash]
              · simp only [if_neg hslash]
                exact hretry
      · have hother : ∀ t, c :: afterEquals = '=' :: t → False := fun t ht => hc (List.cons.inj ht).1
        simp only
        exact hretry

end Redirect

/-! ### The searches by offsets, one turn each -/

namespace Offsets

theorem actionUrl_none {rest : List Char} (h : splitOnceIgnoreCase "action=".toList rest = none) :
    Offsets.actionUrl rest = .ok none := by
  have hfind : findAsciiCaseInsensitive rest "action=".toList = none := by
    rw [findAsciiCaseInsensitive_eq (by decide) (by decide), h]
    rfl
  rw [Offsets.actionUrl, hfind]

theorem actionUrl_some {rest before afterKey : List Char}
    (h : splitOnceIgnoreCase "action=".toList rest = some (before, afterKey)) :
    Offsets.actionUrl rest = if actionValue afterKey ≠ [] then .ok (some (actionValue afterKey))
      else skipByte afterKey >>= Offsets.actionUrl := by
  have hfind : findAsciiCaseInsensitive rest "action=".toList = some (byteLen before) := by
    rw [findAsciiCaseInsensitive_eq (by decide) (by decide), h]
    rfl
  have hslice : sliceFrom rest (byteLen before + byteLen "action=".toList) = .ok afterKey :=
    sliceFrom_found (by decide) h
  have hstop : (findIf endsAction (stripQuote afterKey)).getD (byteLen (stripQuote afterKey)) =
      byteLen (actionValue afterKey) := findIf_getD _ _
  rw [Offsets.actionUrl, hfind]
  dsimp only
  split
  · rename_i heq
    rw [hslice] at heq
    cases heq
  · rename_i heq
    rw [hslice] at heq
    cases heq
    rw [hstop]
    by_cases hvalue : actionValue afterKey = []
    · rw [if_neg (not_not.mpr hvalue), hvalue, byteLen_nil, if_neg (lt_irrefl 0)]
      split
      · rename_i hskip
        rw [sliceFrom_min] at hskip
        simp only [hskip]
        rfl
      · rename_i hskip
        rw [sliceFrom_min] at hskip
        simp only [hskip]
        rfl
    · have hto : sliceTo (stripQuote afterKey) (byteLen (actionValue afterKey)) = .ok (actionValue afterKey) :=
        sliceTo_takeWhile _ _
      rw [if_pos hvalue, if_pos (byteLen_pos hvalue), hto]
      rfl

section Redirect

variable {marker rest before afterMarker : List Char} {hm : marker ≠ []} (hascii : ∀ c ∈ marker, IsAscii c)

include hascii

theorem redirectLoop_none (h : splitOnceIgnoreCase marker rest = none) :
    Offsets.redirectLoop marker rest hm = .ok none := by
  have hfind : findAsciiCaseInsensitive rest marker = none := by
    rw [findAsciiCaseInsensitive_eq hascii hm, h]
    rfl
  rw [Offsets.redirectLoop, hfind]

theorem redirectLoop_some (h : splitOnceIgnoreCase marker rest = some (before, afterMarker)) :
    Offsets.redirectLoop marker rest hm = match assignment afterMarker with
      | some found => .ok found
      | none => skipByte afterMarker >>= fun rest' => Offsets.redirectLoop marker rest' hm := by
  have hfind : findAsciiCaseInsensitive rest marker = some (byteLen before) := by
    rw [findAsciiCaseInsensitive_eq hascii hm, h]
    rfl
  rw [Offsets.redirectLoop, hfind]
  dsimp only
  split
  · rename_i heq
    rw [sliceFrom_found hascii h] at heq
    cases heq
  rename_i after heq
  rw [sliceFrom_found hascii h] at heq
  cases heq
  have hskip := sliceFrom_min afterMarker
  have hretry := (match_eq_bind _ fun rest' => Offsets.redirectLoop marker rest' hm).trans (congrArg (· >>= _) hskip)
  unfold assignment
  cases hequals : trimStart afterMarker with
  | nil => exact hretry
  | cons c afterEquals =>
    by_cases hc : c = '='
    · subst hc
      cases hquote : trimStart afterEquals with
      | nil => simp only [hquote]
      | cons quote valueRest =>
        simp only [hquote]
        by_cases hq : quote ≠ '\'' ∧ quote ≠ '"'
        · simp only [if_pos hq]
          exact hretry
        · have hslice : sliceFrom (quote :: valueRest) quote.utf8Size = .ok valueRest :=
            sliceFrom_append [quote] valueRest
          simp only [if_neg hq, hslice]
          cases hvalue : splitOnce [quote] valueRest with
          | none => simp only [find, hvalue, Option.map_none]
          | some found =>
            have hto : sliceTo valueRest (byteLen found.1) = .ok found.1 := by
              rw [splitOnce_eq hvalue, List.append_assoc]
              exact sliceTo_append _ _
            simp only [find, hvalue, Option.map_some, hto]
            by_cases hslash : found.1.head? = some '/'
            · simp only [if_pos hslash]
            · simp only [if_neg hslash]
              exact hretry
    · have hother : ∀ t, c :: afterEquals = '=' :: t → False := fun t ht => hc (List.cons.inj ht).1
      simp only
      exact hretry

end Redirect

end Offsets

/-- **`action_url` by offsets and by characters.** -/
theorem actionUrl_offsets (rest : List Char) : Offsets.actionUrl rest = actionUrl rest := by
  induction hn : rest.length using Nat.strong_induction_on generalizing rest with
  | _ n ih =>
    cases h : splitOnceIgnoreCase "action=".toList rest with
    | none => rw [Offsets.actionUrl_none h, actionUrl_none h]
    | some found =>
      obtain ⟨before, afterKey⟩ := found
      rw [Offsets.actionUrl_some h, actionUrl_some h]
      congr 1
      cases hskip : skipByte afterKey with
      | error why => rfl
      | ok rest' =>
        have hlt := (skipByte_length_le hskip).trans_lt (splitOnceIgnoreCase_lt (by decide) h)
        exact ih _ (hn ▸ hlt) rest' rfl

theorem redirectLoop_offsets {marker : List Char} (hascii : ∀ c ∈ marker, IsAscii c) (hm : marker ≠ [])
    (rest : List Char) : Offsets.redirectLoop marker rest hm = redirectLoop marker rest hm := by
  induction hn : rest.length using Nat.strong_induction_on generalizing rest with
  | _ n ih =>
    cases h : splitOnceIgnoreCase marker rest with
    | none => rw [Offsets.redirectLoop_none hascii h, redirectLoop_none h]
    | some found =>
      obtain ⟨before, afterMarker⟩ := found
      rw [Offsets.redirectLoop_some hascii h, redirectLoop_some h]
      cases assignment afterMarker with
      | some value => rfl
      | none =>
        cases hskip : skipByte afterMarker with
        | error why => rfl
        | ok rest' =>
          have hlt := (skipByte_length_le hskip).trans_lt (splitOnceIgnoreCase_lt hm h)
          exact ih _ (hn ▸ hlt) rest' rfl

/-- **`portal_redirect` by offsets and by characters.** -/
theorem portalRedirect_offsets (body : List Char) : Offsets.portalRedirect body = portalRedirect body := by
  have hloop {marker : List Char} (hascii : ∀ c ∈ marker, IsAscii c) (hm : marker ≠ []) :
      redirectLoop marker body hm = Offsets.redirectLoop marker body hm :=
    (redirectLoop_offsets hascii hm body).symm
  unfold portalRedirect
  rw [hloop (by decide), hloop (by decide), hloop (by decide)]
  exact Eq.refl (Offsets.portalRedirect body)

/-! ### The form of a challenge -/

/-- `html_attr` never panics. -/
theorem htmlAttr_offsets {name : List Char} (hname : ∀ c ∈ name, IsAscii c) (tag : List Char) :
    Offsets.htmlAttr tag name = .ok (htmlAttr tag name) := by
  have hquote : ∀ c ∈ ['=', '"'], IsAscii c := by decide
  have hascii : ∀ c ∈ name ++ ['=', '"'], IsAscii c := fun c hc =>
    (List.mem_append.mp hc).elim (hname c) (hquote c)
  unfold Offsets.htmlAttr htmlAttr
  dsimp only
  rw [Offsets.findAsciiCaseInsensitive_eq hascii (by simp)]
  cases h : splitOnceIgnoreCase (name ++ ['=', '"']) tag with
  | none => rfl
  | some found =>
    obtain ⟨before, rest⟩ := found
    have hslice := Offsets.sliceFrom_found hascii h
    simp only [Option.map_some, hslice, Offsets.find, bind, Except.bind, Option.bind]
    cases hclose : splitOnce ['"'] rest with
    | none => rfl
    | some cut =>
      obtain ⟨value, after⟩ := cut
      have hvalue : Offsets.slice tag (byteLen before + byteLen (name ++ ['=', '"']))
          (byteLen value + (byteLen before + byteLen (name ++ ['=', '"']))) = .ok value := by
        rw [splitOnce_eq hclose, List.append_assoc] at hslice
        rw [Nat.add_comm (byteLen value)]
        exact Offsets.slice_of_sliceFrom hslice
      simp only [Option.map_some, hvalue]
      rfl

/-- `otp_challenge_prompt` never panics. -/
theorem otpChallengePrompt_offsets (config : Config) (html : List Char) :
    Offsets.otpChallengePrompt config html = .ok (otpChallengePrompt config html) := by
  unfold Offsets.otpChallengePrompt otpChallengePrompt
  simp only [Offsets.find]
  cases h : splitOnce (config.otpPrompt.getD "Please").toList html with
  | none => rfl
  | some found =>
    obtain ⟨before, after⟩ := found
    have hslice : Offsets.sliceFrom html (byteLen before) =
        .ok ((config.otpPrompt.getD "Please").toList ++ after) := by
      rw [splitOnce_eq h, List.append_assoc]
      exact Offsets.sliceFrom_append _ _
    simp only [Option.map_some, hslice, bind, Except.bind]
    cases hcut : splitOnce ['<'] ((config.otpPrompt.getD "Please").toList ++ after) with
    | none => rfl
    | some cut =>
      obtain ⟨prompt, rest⟩ := cut
      rw [splitOnce_eq hcut, List.append_assoc] at hslice
      simp only [Option.map_some, Offsets.slice_of_sliceFrom hslice]
      rfl

theorem inputFields_offsets (config : Config) (otp : String) (input : List Char) :
    Offsets.inputFields config otp input = inputFields config otp input := by
  unfold Offsets.inputFields inputFields
  rw [htmlAttr_offsets (by decide), htmlAttr_offsets (by decide), htmlAttr_offsets (by decide)]
  rfl

/-! ### Attributes by the quotes around their values -/

section Quotes

variable {name : List Char} (hname : '"' ∉ name)

theorem htmlAttr_eq (tag name : List Char) : htmlAttr tag name =
    ((splitOnceIgnoreCase (name ++ ['='] ++ ['"']) tag).map Prod.snd).bind fun rest =>
      (splitOnce ['"'] rest).map Prod.fst := by
  have hneedle : name ++ ['='] ++ ['"'] = name ++ ['=', '"'] := List.append_assoc _ _ _
  unfold htmlAttr
  rw [hneedle]
  cases splitOnceIgnoreCase (name ++ ['=', '"']) tag with
  | none => rfl
  | some found =>
    show (splitOnce ['"'] found.2).bind _ = (splitOnce ['"'] found.2).map Prod.fst
    cases splitOnce ['"'] found.2 <;> rfl

include hname

theorem quote_not_mem : '"' ∉ name ++ ['='] := by
  rw [List.mem_append, List.mem_singleton, not_or]
  exact ⟨hname, by decide⟩

/-- An attribute is read where the text in front of a quote ends in its name and an equals sign. -/
theorem htmlAttr_quote {p : List Char} (hp : '"' ∉ p) (rest : List Char) :
    htmlAttr (p ++ '"' :: rest) name =
      if endsIgnoreCase p (name ++ ['=']) then (splitOnce ['"'] rest).map Prod.fst else htmlAttr rest name := by
  rw [htmlAttr_eq, splitOnceIgnoreCase_mark lowerChar_quote hp (quote_not_mem hname)]
  split
  · rfl
  · rw [htmlAttr_eq]

omit hname in
theorem htmlAttr_no_quote {s : List Char} (hs : '"' ∉ s) : htmlAttr s name = none := by
  rw [htmlAttr_eq, splitOnceIgnoreCase_no_mark lowerChar_quote hs]
  rfl

/-- The letter case of the tag's own name does not matter. -/
theorem htmlAttr_congr {s t : List Char} (h : eqIgnoreAsciiCase s t = true) (hs : '"' ∉ s) (ht : '"' ∉ t)
    (u : List Char) : htmlAttr (s ++ u) name = htmlAttr (t ++ u) name := by
  by_cases hu : '"' ∈ u
  · obtain ⟨p, rest, rfl, hp⟩ := List.eq_append_cons_of_mem hu
    rw [← List.append_assoc, ← List.append_assoc, htmlAttr_quote hname (by simp [hs, hp]),
      htmlAttr_quote hname (by simp [ht, hp]), endsIgnoreCase_congr h]
  · rw [htmlAttr_no_quote (by simp [hs, hu]), htmlAttr_no_quote (by simp [ht, hu])]

end Quotes

/-- No character of a needle's text in another case is a mark that is not in the needle. -/
theorem not_mem_of_eqIgnoreAsciiCase {q : Char} {s needle : List Char}
    (hq : lowerChar q ∉ needle.map lowerChar) (h : eqIgnoreAsciiCase s needle = true) : q ∉ s := by
  intro hmem
  rw [← eqIgnoreAsciiCase_iff.mp h] at hq
  exact hq (List.mem_map_of_mem hmem)

theorem inputFields_congr (config : Config) (otp : String) {found : List Char}
    (h : eqIgnoreAsciiCase found "<input".toList = true) (inside : List Char) :
    inputFields config otp (found ++ inside) = inputFields config otp ("<input".toList ++ inside) := by
  have hfound : '"' ∉ found := not_mem_of_eqIgnoreAsciiCase (by decide) h
  unfold inputFields
  rw [htmlAttr_congr (by decide) h hfound (by decide), htmlAttr_congr (by decide) h hfound (by decide),
    htmlAttr_congr (by decide) h hfound (by decide)]

/-! ### The inputs -/

section Inputs

variable {config : Config} {otp : String} {rest before afterName : List Char} {fields : List String}

theorem inputsLoop_none (h : splitOnceIgnoreCase "<input".toList rest = none) :
    inputsLoop config otp rest fields = .ok fields := by
  rw [inputsLoop]
  split
  · rfl
  · rename_i hsome
    rw [h] at hsome
    cases hsome

variable (h : splitOnceIgnoreCase "<input".toList rest = some (before, afterName))

include h

/-- An input that is not closed is the last one. -/
theorem inputsLoop_open (hclose : splitOnce ['>'] afterName = none) :
    inputsLoop config otp rest fields =
      inputFields config otp ("<input".toList ++ afterName) >>= fun _ => .error (.panic .outOfBounds) := by
  rw [inputsLoop]
  split
  · rename_i hnone
    rw [h] at hnone
    cases hnone
  · rename_i hsome
    rw [h] at hsome
    cases hsome
    split
    · cases inputFields config otp ("<input".toList ++ afterName) <;> rfl
    · rename_i hsome
      rw [hclose] at hsome
      cases hsome

theorem inputsLoop_closed {inside rest' : List Char} (hclose : splitOnce ['>'] afterName = some (inside, rest')) :
    inputsLoop config otp rest fields = inputFields config otp ("<input".toList ++ inside) >>= fun more =>
      inputsLoop config otp rest' (fields ++ more) := by
  rw [inputsLoop]
  split
  · rename_i hnone
    rw [h] at hnone
    cases hnone
  · rename_i hsome
    rw [h] at hsome
    cases hsome
    split
    · rename_i hnone
      rw [hclose] at hnone
      cases hnone
    · rename_i hsome
      rw [hclose] at hsome
      cases hsome
      cases inputFields config otp ("<input".toList ++ inside) <;> rfl

end Inputs

/-- The loop does not look at what stands in front of the first input. -/
theorem inputsLoop_of_split {config : Config} {otp : String} {s t front : List Char} {fields : List String}
    (h : splitOnceIgnoreCase "<input".toList s =
      (splitOnceIgnoreCase "<input".toList t).map fun (before, after) => (front ++ before, after)) :
    inputsLoop config otp s fields = inputsLoop config otp t fields := by
  cases ht : splitOnceIgnoreCase "<input".toList t with
  | none =>
    rw [ht] at h
    rw [inputsLoop_none h, inputsLoop_none ht]
  | some split =>
    rw [ht] at h
    cases hclose : splitOnce ['>'] split.2 with
    | none => rw [inputsLoop_open h hclose, inputsLoop_open ht hclose]
    | some cut => rw [inputsLoop_closed h hclose, inputsLoop_closed ht hclose]

/-- **The loop by offsets and by characters.**  The offset is the length of what was passed. -/
theorem inputsLoop_offsets (config : Config) (otp : String) (front rest : List Char) (fields : List String) :
    Offsets.inputsLoop config otp (front ++ rest) (byteLen front) fields = inputsLoop config otp rest fields := by
  induction hn : rest.length using Nat.strong_induction_on generalizing front rest fields with
  | _ n ih =>
    have hfront := Offsets.sliceFrom_append front rest
    rw [Offsets.inputsLoop]
    split
    · rename_i heq
      rw [hfront] at heq
      cases heq
    rename_i heq
    rw [hfront] at heq
    cases heq
    rw [Offsets.findAsciiCaseInsensitive_eq (by decide) (by decide)]
    cases h : splitOnceIgnoreCase "<input".toList rest with
    | none => rw [inputsLoop_none h, Option.map_none]
    | some split =>
      obtain ⟨before, afterName⟩ := split
      obtain ⟨found, hrest, hfound⟩ := splitOnceIgnoreCase_eq h
      have hhtml : front ++ rest = (front ++ before) ++ (found ++ afterName) := by
        rw [hrest]
        simp only [List.append_assoc]
      have hstart : Offsets.sliceFrom (front ++ rest) (byteLen front + byteLen before) = .ok (found ++ afterName) := by
        rw [hhtml, ← byteLen_append]
        exact Offsets.sliceFrom_append _ _
      have hangle : '>' ∉ found := not_mem_of_eqIgnoreAsciiCase (by decide) hfound
      simp only [Option.map_some, hstart]
      cases hclose : splitOnce ['>'] afterName with
      | none =>
        have hend : Offsets.inputEnd (front ++ rest) (found ++ afterName) (byteLen front + byteLen before) =
            byteLen front + byteLen before + byteLen (found ++ afterName) := by
          rw [Offsets.inputEnd, Offsets.find, splitOnce_skip [] afterName hangle, hclose, hhtml, byteLen_append,
            byteLen_append]
          rfl
        have hslice := Offsets.slice_of_sliceFrom (t := found ++ afterName) (u := [])
          (by rw [List.append_nil]; exact hstart)
        simp only [hend, hslice, inputsLoop_open h hclose, inputFields_offsets, inputFields_congr config otp hfound]
        cases inputFields config otp ("<input".toList ++ afterName) with
        | error stop => rfl
        | ok more =>
          -- the next turn slices behind the end
          have hlen : byteLen front + byteLen before + byteLen (found ++ afterName) = byteLen (front ++ rest) := by
            simp only [hhtml, byteLen_append]
          show Offsets.inputsLoop config otp (front ++ rest) _ _ = .error (.panic .outOfBounds)
          have hpanic := Offsets.sliceFrom_end (front ++ rest)
          rw [hlen, Offsets.inputsLoop]
          split
          · rename_i heq
            rw [hpanic] at heq
            cases heq
            rfl
          · rename_i heq
            rw [hpanic] at heq
            cases heq
      | some cut =>
        obtain ⟨inside, rest'⟩ := cut
        have hend : Offsets.inputEnd (front ++ rest) (found ++ afterName) (byteLen front + byteLen before) =
            byteLen front + byteLen before + byteLen (found ++ inside) := by
          rw [Offsets.inputEnd, Offsets.find, splitOnce_skip [] afterName hangle, hclose]
          rfl
        have hafter : afterName = inside ++ ['>'] ++ rest' := splitOnce_eq hclose
        have hslice := Offsets.slice_of_sliceFrom (t := found ++ inside) (u := ['>'] ++ rest')
          (by rw [hstart, hafter]; simp only [List.append_assoc])
        have hnext : front ++ rest = (front ++ before ++ found ++ inside ++ ['>']) ++ rest' := by
          rw [hhtml, hafter]
          simp only [List.append_assoc]
        have hoffset : byteLen front + byteLen before + byteLen (found ++ inside) + 1 =
            byteLen (front ++ before ++ found ++ inside ++ ['>']) := by
          simp only [byteLen_append, Nat.add_assoc]
          rfl
        simp only [hend, hslice, inputsLoop_closed h hclose, inputFields_offsets,
          inputFields_congr config otp hfound]
        cases inputFields config otp ("<input".toList ++ inside) with
        | error stop => rfl
        | ok more =>
          have hlt : rest'.length < n := by
            have h1 := splitOnce_lt (by simp) hclose
            have h2 := splitOnceIgnoreCase_lt (by decide) h
            omega
          show Offsets.inputsLoop config otp (front ++ rest) _ _ = inputsLoop config otp rest' (fields ++ more)
          rw [hoffset, hnext]
          exact ih _ hlt _ rest' _ rfl

/-! ### The form -/

section Form

variable {found : List Char} (h : eqIgnoreAsciiCase found "<form".toList = true)

include h

theorem otpChallengeAction_congr (afterForm : List Char) :
    otpChallengeAction (found ++ afterForm) = otpChallengeAction ("<form".toList ++ afterForm) := by
  have hafter : ∀ form form' : List Char, (splitOnceIgnoreCase "action=\"".toList form).map Prod.snd =
      (splitOnceIgnoreCase "action=\"".toList form').map Prod.snd →
      otpChallengeAction form = otpChallengeAction form' := by
    intro form form' heq
    unfold otpChallengeAction
    cases hs : splitOnceIgnoreCase "action=\"".toList form with
    | none =>
      rw [hs, Option.map_none, eq_comm, Option.map_eq_none_iff] at heq
      rw [heq]
    | some split =>
      rw [hs, Option.map_some, eq_comm, Option.map_eq_some_iff] at heq
      obtain ⟨split', hs', hsnd⟩ := heq
      rw [hs']
      simp only [hsnd]
  have hneedle : "action=\"".toList = "action=".toList ++ ['"'] := by decide
  have hfound : '"' ∉ found := not_mem_of_eqIgnoreAsciiCase (by decide) h
  refine hafter _ _ ?_
  rw [hneedle]
  by_cases hu : '"' ∈ afterForm
  · obtain ⟨p, rest, rfl, hp⟩ := List.eq_append_cons_of_mem hu
    have hp1 : '"' ∉ found ++ p := by simp [hfound, hp]
    have hp2 : '"' ∉ "<form".toList ++ p := by simp [hp]
    rw [← List.append_assoc, ← List.append_assoc, splitOnceIgnoreCase_mark lowerChar_quote hp1 (by decide),
      splitOnceIgnoreCase_mark lowerChar_quote hp2 (by decide), endsIgnoreCase_congr h]
  · have hu1 : '"' ∉ found ++ afterForm := by simp [hfound, hu]
    have hu2 : '"' ∉ "<form".toList ++ afterForm := by simp [hu]
    rw [splitOnceIgnoreCase_no_mark lowerChar_quote hu1, splitOnceIgnoreCase_no_mark lowerChar_quote hu2]

/-- No input begins in the name of the form. -/
theorem splitOnceIgnoreCase_form (afterForm : List Char) :
    splitOnceIgnoreCase "<input".toList (found ++ afterForm) =
      (splitOnceIgnoreCase "<input".toList afterForm).map fun (front, after) => (found ++ front, after) := by
  have hlen := length_of_eqIgnoreAsciiCase h
  obtain ⟨d, e, name, rfl⟩ : ∃ d e name, found = d :: e :: name := by
    match found, hlen with
    | d :: e :: name, _ => exact ⟨d, e, name, rfl⟩
  have hname := (eqIgnoreAsciiCase_cons.mp h).2
  have he := (eqIgnoreAsciiCase_cons.mp hname).1
  have hmiss : ¬ eqIgnoreAsciiCase ((d :: (e :: name ++ afterForm)).take "<input".toList.length)
      "<input".toList = true := by
    intro hfound
    have hsecond := (eqIgnoreAsciiCase_cons.mp (eqIgnoreAsciiCase_cons.mp hfound).2).1
    rw [he] at hsecond
    revert hsecond
    decide
  have hangle : ∀ c ∈ e :: name, lowerChar c ≠ lowerChar '<' := by
    intro c hc heq
    have hmem := List.mem_map_of_mem (f := lowerChar) hc
    rw [eqIgnoreAsciiCase_iff.mp hname, heq] at hmem
    revert hmem
    decide
  have hskip := splitOnceIgnoreCase_skip "input".toList afterForm hangle
  rw [List.cons_append, splitOnceIgnoreCase, if_neg hmiss]
  show Option.map _ (splitOnceIgnoreCase ('<' :: "input".toList) _) = _
  rw [hskip, Option.map_map]
  rfl

theorem inputsLoop_form (config : Config) (otp : String) (afterForm : List Char) (fields : List String) :
    inputsLoop config otp (found ++ afterForm) fields = inputsLoop config otp afterForm fields :=
  inputsLoop_of_split (splitOnceIgnoreCase_form h afterForm)

end Form

/-- **`otp_challenge_form` by offsets and by characters.** -/
theorem otpChallengeForm_offsets {σ : Type} (gateway : Gateway σ) (config : Config) (html : List Char) :
    (fun (path, body, _) => (path, body)) <$> Offsets.otpChallengeForm gateway config html =
      otpChallengeForm gateway config html := by
  unfold Offsets.otpChallengeForm otpChallengeForm
  rw [Offsets.findAsciiCaseInsensitive_eq (by decide) (by decide)]
  cases hform : splitOnceIgnoreCase "<form".toList html with
  | none => rfl
  | some split =>
    obtain ⟨before, afterForm⟩ := split
    obtain ⟨found, hhtml, hfound⟩ := splitOnceIgnoreCase_eq hform
    have hstart : Offsets.sliceFrom html (byteLen before) = .ok (found ++ afterForm) := by
      rw [hhtml, List.append_assoc]
      exact Offsets.sliceFrom_append _ _
    have hself : eqIgnoreAsciiCase "<form".toList "<form".toList = true := by decide
    have hinputs : ∀ otp, Offsets.inputsLoop config otp html (byteLen before) [] =
        inputsLoop config otp ("<form".toList ++ afterForm) [] := by
      intro otp
      rw [hhtml, List.append_assoc, inputsLoop_offsets, inputsLoop_form hfound, inputsLoop_form hself]
    simp only [Option.map_some, Login.okOr, pure_bind, hstart, Login.ofPanic, hinputs,
      ← otpChallengeAction_congr hfound]
    rw [Offsets.findAsciiCaseInsensitive_eq (by decide) (by decide)]
    unfold otpChallengeAction
    cases hact : splitOnceIgnoreCase "action=\"".toList (found ++ afterForm) with
    | none => rfl
    | some split =>
      obtain ⟨front, afterKey⟩ := split
      obtain ⟨key, hsplit, hkey⟩ := splitOnceIgnoreCase_eq hact
      have hkeyLen : byteLen key = byteLen "action=\"".toList := by
        rw [byteLen_of_eqIgnoreAsciiCase (by decide) hkey]
        rfl
      have hall : html = (before ++ front ++ key) ++ afterKey := by
        rw [hhtml, List.append_assoc, hsplit]
        simp only [List.append_assoc]
      have hoffset : byteLen before + byteLen front + byteLen "action=\"".toList =
          byteLen (before ++ front ++ key) := by
        rw [byteLen_append, byteLen_append, hkeyLen]
      have hafter : Offsets.sliceFrom html (byteLen (before ++ front ++ key)) = .ok afterKey := by
        rw [hall]
        exact Offsets.sliceFrom_append _ _
      simp only [Option.map_some, pure_bind, hoffset, hafter, Offsets.find]
      cases hquote : splitOnce ['"'] afterKey with
      | none => rfl
      | some cut =>
        obtain ⟨path, after⟩ := cut
        have hclose : afterKey = path ++ ('"' :: after) := by
          rw [splitOnce_eq hquote, List.append_assoc]
          rfl
        have hpath := Offsets.slice_of_sliceFrom (hclose ▸ hafter)
        have hrest : Offsets.sliceFrom html (byteLen path + byteLen (before ++ front ++ key)) = .ok ('"' :: after) := by
          rw [Nat.add_comm, ← byteLen_append, hall, hclose, ← List.append_assoc]
          exact Offsets.sliceFrom_append _ _
        rw [Nat.add_comm] at hpath
        simp only [Option.map_some, pure_bind, hpath, hrest, otpChallengePrompt_offsets, Login.ofStop, map_bind]
        congr 1
        funext otp
        congr 1
        funext fields
        split <;> rfl

end OpenfortivpnRs.Auth
