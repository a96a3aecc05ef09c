import OpenfortivpnRs.Config
import OpenfortivpnRs.Error
import OpenfortivpnRs.Http.Response

/-!
# Scraping login pages (`auth/login.rs`)

The searches for values, addresses and forms in what the gateway sends.  A search may slice a string
in the middle of a character or behind its end, which stops the program with a panic.
-/

namespace OpenfortivpnRs.Auth

open Text Http

/-- Why the program panics. -/
inductive Panic where
  | charBoundary | outOfBounds
  deriving DecidableEq, Repr

/-- What stops the program: an error it returns, or a panic. -/
inductive Stop where
  | error (err : OpenfortivpnError)
  | panic (why : Panic)
  deriving DecidableEq, Repr

/-- `&s[s.len().min(1)..]`: the slice behind the first byte. -/
def skipByte : List Char → Except Panic (List Char)
  | [] => .ok []
  | c :: s => if c.utf8Size = 1 then .ok s else .error .charBoundary

theorem skipByte_length_le {s rest : List Char} (h : skipByte s = .ok rest) :
    rest.length ≤ s.length := by
  cases s with
  | nil => cases h; rfl
  | cons c s =>
    simp only [skipByte] at h
    by_cases hc : c.utf8Size = 1
    · rw [if_pos hc] at h
      cases h
      exact Nat.le_succ _
    · rw [if_neg hc] at h
      cases h

/-- `get_value`: what stands behind `key` up to the next separator. -/
def getValue (body key : List Char) : Option (List Char) := do
  let (_, rest) ← splitOnce key body
  return rest.takeWhile fun ch => !(ch == '&' || ch == '\r' || ch == '\n' || ch == '\x00')

/-- `str::strip_prefix(['"', '\''])`, with the string itself where there is no quote. -/
def stripQuote : List Char → List Char
  | '"' :: s => s
  | '\'' :: s => s
  | s => s

/-- `action_url`. -/
def actionUrl (rest : List Char) : Except Panic (Option (List Char)) :=
  match h : splitOnceIgnoreCase "action=".toList rest with
  | none => .ok none
  | some (_, afterKey) =>
    let value := (stripQuote afterKey).takeWhile fun ch =>
      !(ch == '"' || ch == '\'' || isAsciiWhitespace ch)
    if value ≠ [] then .ok (some value)
    else
      match hs : skipByte afterKey with
      | .error why => .error why
      | .ok rest' =>
        have : rest'.length < rest.length :=
          (skipByte_length_le hs).trans_lt (splitOnceIgnoreCase_lt (by decide) h)
        actionUrl rest'
termination_by rest.length

/-- The loop of `portal_redirect` over the places of one marker. -/
def redirectLoop (marker rest : List Char) (hm : marker ≠ []) :
    Except Panic (Option (List Char)) :=
  match h : splitOnceIgnoreCase marker rest with
  | none => .ok none
  | some (_, afterMarker) =>
    have hlt := splitOnceIgnoreCase_lt hm h
    -- `continue` from behind the first byte that follows the marker
    let retry (_ : Unit) : Except Panic (Option (List Char)) :=
      match hs : skipByte afterMarker with
      | .error why => .error why
      | .ok rest' =>
        have : rest'.length < rest.length := (skipByte_length_le hs).trans_lt hlt
        redirectLoop marker rest' hm
    match trimStart afterMarker with
    | '=' :: afterEquals =>
      match trimStart afterEquals with
      | [] => .ok none
      | quote :: valueRest =>
        if quote ≠ '\'' ∧ quote ≠ '"' then retry ()
        else
          match splitOnce [quote] valueRest with
          | none => .ok none
          | some (value, _) => if value.head? = some '/' then .ok (some value) else retry ()
    | _ => retry ()
termination_by rest.length

/-- `portal_redirect`. -/
def portalRedirect (body : List Char) : Except Panic (Option (List Char)) := do
  match ← redirectLoop "document.location".toList body (by decide) with
  | some value => return some value
  | none =>
    match ← redirectLoop "window.location".toList body (by decide) with
    | some value => return some value
    | none => redirectLoop "location.href".toList body (by decide)

/-! ### The form of a challenge -/

/-- `html_attr`. -/
def htmlAttr (tag name : List Char) : Option (List Char) := do
  let (_, rest) ← splitOnceIgnoreCase (name ++ ['=', '"']) tag
  let (value, _) ← splitOnce ['"'] rest
  return value

/-- `otp_challenge_prompt`. -/
def otpChallengePrompt (config : Config) (htmlAfterAction : List Char) : String :=
  let marker := (config.otpPrompt.getD "Please").toList
  match splitOnce marker htmlAfterAction with
  | some (_, after) =>
    match splitOnce ['<'] (marker ++ after) with
    | some (prompt, _) => .ofList prompt
    | none => "Please enter one-time password: "
  | none => "Please enter one-time password: "

/-- `&html[action_end..]` and the text of the action, by the form that follows `<form`. -/
def otpChallengeAction (form : List Char) : Except Stop (List Char × List Char) :=
  match splitOnceIgnoreCase "action=\"".toList form with
  | none => .error (.error (.auth "OTP challenge form does not contain an action"))
  | some (_, afterKey) =>
    match splitOnce ['"'] afterKey with
    | none => .error (.error (.auth "OTP challenge form action is unterminated"))
    | some (path, after) => .ok (path, '"' :: after)

/-- The fields one input of the form is posted as. -/
def inputFields (config : Config) (otp : String) (input : List Char) : Except Stop (List String) := do
  let inputType := (htmlAttr input "type".toList).getD []
  let isHidden := eqIgnoreAsciiCase inputType "hidden".toList
  let isPassword := eqIgnoreAsciiCase inputType "password".toList
  if isHidden || isPassword then
    let name ← match htmlAttr input "name".toList with
      | some name => .ok (String.ofList name)
      | none => .error (.error (.auth "OTP challenge input is missing a name"))
    let value ← if isHidden then
        match htmlAttr input "value".toList with
        | some value => .ok (String.ofList value)
        | none => .error (.error (.auth "OTP challenge hidden input is missing a value"))
      else .ok otp
    let realm := match config.realm.filter (· ≠ "") with
      | some realm => if isPassword then ["realm=" ++ urlEncode realm] else []
      | none => []
    return [urlEncode name ++ "=" ++ urlEncode value] ++ realm
  else return []

/-- The loop of `otp_challenge_form` over the inputs from `rest` on.  An input that is not closed
makes the next turn slice behind the end of the page. -/
def inputsLoop (config : Config) (otp : String) (rest : List Char) (fields : List String) :
    Except Stop (List String) :=
  match h : splitOnceIgnoreCase "<input".toList rest with
  | none => .ok fields
  | some (_, afterName) =>
    match hc : splitOnce ['>'] afterName with
    | none =>
      match inputFields config otp ("<input".toList ++ afterName) with
      | .error stop => .error stop
      | .ok _ => .error (.panic .outOfBounds)
    | some (inside, rest') =>
      have : rest'.length < rest.length :=
        (splitOnce_lt (by simp) hc).trans (splitOnceIgnoreCase_lt (by decide) h)
      match inputFields config otp ("<input".toList ++ inside) with
      | .error stop => .error stop
      | .ok more => inputsLoop config otp rest' (fields ++ more)
termination_by rest.length

end OpenfortivpnRs.Auth
