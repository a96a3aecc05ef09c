import OpenfortivpnRs.Auth.LoginSafety
import OpenfortivpnRs.Auth.ScannedInputs

/-!
# When reading a challenge panics

With a configured one-time password `otp_challenge_form` asks nobody (`otpChallengeForm_configured`).
Its loop goes on one byte behind each input; behind an input that is not closed that is behind the end
of the page, and the next turn panics unless an input before it is refused
(`challenge_never_panics_iff`).
-/

namespace OpenfortivpnRs.Auth

open Text

/-! ### A configured password -/

/-- `otp_challenge_form` for a given password. -/
def challengeForm (config : Config) (otp : String) (html : List Char) : Except Stop (String × String) :=
  match splitOnceIgnoreCase "<form".toList html with
  | none => .error (.error (.auth "OTP challenge response does not contain a form"))
  | some (_, afterForm) => do
    let (path, _) ← otpChallengeAction ("<form".toList ++ afterForm)
    let fields ← inputsLoop config otp ("<form".toList ++ afterForm) []
    if fields = [] then
      throw (.error (.auth "OTP challenge form does not contain hidden or password inputs"))
    else return (.ofList path, String.intercalate "&" fields)

section Configured

variable {σ : Type} (gateway : Gateway σ) {config : Config} {otp : String} (hotp : config.otp = some otp)
  (hne : otp ≠ "")

include hotp hne

theorem otpValue_configured (purpose prompt : String) :
    otpValueWithPurpose gateway config purpose prompt = pure otp := by
  unfold otpValueWithPurpose
  rw [hotp, Option.filter_some_pos (by simpa using hne)]

/-- **With a configured password the form is filled in without asking.** -/
theorem otpChallengeForm_configured (html : List Char) :
    otpChallengeForm gateway config html = Login.ofStop (challengeForm config otp html) := by
  unfold otpChallengeForm challengeForm
  simp only [otpValue_configured gateway hotp hne, pure_bind]
  cases splitOnceIgnoreCase "<form".toList html with
  | none => rfl
  | some split =>
    simp only [Login.okOr, pure_bind]
    cases otpChallengeAction ("<form".toList ++ split.2) with
    | error stop => rfl
    | ok action =>
      simp only [Login.ofStop, bind, Except.bind]
      cases inputsLoop config otp ("<form".toList ++ split.2) [] with
      | error stop => rfl
      | ok fields =>
        funext w
        by_cases hfields : fields = []
        · simp only [hfields]
          rfl
        · show (if fields = [] then _ else _ : Login σ (String × String)) w = _
          simp only [if_neg hfields]
          rfl

/-- What a run by offsets ends in. -/
theorem run_configured (html : List Char) (w : Conversation σ) :
    match challengeForm config otp html with
    | .ok (path, body) => ∃ prompt, Offsets.otpChallengeForm gateway config html w = .ok (path, body, prompt) w
    | .error stop => Offsets.otpChallengeForm gateway config html w = .error stop w := by
  have hrun := congrFun (otpChallengeForm_offsets gateway config html) w
  rw [otpChallengeForm_configured gateway hotp hne] at hrun
  change EStateM.map _ _ w = _ at hrun
  unfold EStateM.map at hrun
  cases hform : challengeForm config otp html with
  | ok form =>
    rw [hform] at hrun
    cases hoffsets : Offsets.otpChallengeForm gateway config html w with
    | ok found w' =>
      rw [hoffsets] at hrun
      cases hrun
      exact ⟨found.2.2, rfl⟩
    | error stop w' =>
      rw [hoffsets] at hrun
      cases hrun
  | error stop =>
    rw [hform] at hrun
    cases hoffsets : Offsets.otpChallengeForm gateway config html w with
    | ok found w' =>
      rw [hoffsets] at hrun
      cases hrun
    | error stop' w' =>
      rw [hoffsets] at hrun
      cases hrun
      rfl

end Configured

/-! ### Refused inputs -/

/-- The input is one to be posted, but has no name or, if it is hidden, no value. -/
def Refused (input : List Char) : Prop :=
  let inputType := (htmlAttr input "type".toList).getD []
  let isHidden := eqIgnoreAsciiCase inputType "hidden".toList
  (isHidden || eqIgnoreAsciiCase inputType "password".toList) = true ∧
    (htmlAttr input "name".toList = none ∨ isHidden = true ∧ htmlAttr input "value".toList = none)

instance : DecidablePred Refused := fun input => by
  unfold Refused
  infer_instance

/-- An input that is refused is one without fields. -/
theorem fieldsBy_eq_none_iff (config : Config) (otp : String) (input : List Char) :
    fieldsBy config otp (htmlAttr input) = none ↔ Refused input := by
  unfold Refused fieldsBy
  simp only
  by_cases hhidden : eqIgnoreAsciiCase ((htmlAttr input "type".toList).getD []) "hidden".toList = true
  · rw [if_pos hhidden, hhidden]
    cases htmlAttr input "name".toList with
    | none => simp
    | some name => cases htmlAttr input "value".toList <;> simp
  · rw [if_neg hhidden]
    rw [Bool.not_eq_true] at hhidden
    rw [hhidden]
    by_cases hpassword : eqIgnoreAsciiCase ((htmlAttr input "type".toList).getD []) "password".toList = true
    · rw [if_pos hpassword, hpassword]
      cases htmlAttr input "name".toList <;> simp
    · rw [if_neg hpassword]
      rw [Bool.not_eq_true] at hpassword
      rw [hpassword]
      simp

theorem allFields_eq_none_iff (config : Config) (otp : String) (inputs : List (List Char)) :
    allFields config otp (inputs.map htmlAttr) = none ↔ ∃ input ∈ inputs, Refused input := by
  induction inputs with
  | nil => exact iff_of_false (by simp [allFields]) (by simp)
  | cons input inputs ih =>
    rw [List.map_cons, allFields_cons, List.exists_mem_cons_iff, ← fieldsBy_eq_none_iff config otp, ← ih]
    cases fieldsBy config otp (htmlAttr input) with
    | none => simp
    | some own => cases allFields config otp (inputs.map htmlAttr) <;> simp

/-- **The loop panics** exactly where the page is truncated and no input is refused. -/
theorem inputsLoop_panics_iff (config : Config) (otp : String) (rest : List Char) (fields : List String) :
    (∃ why, inputsLoop config otp rest fields = .error (.panic why)) ↔
      Truncated rest ∧ ∀ input ∈ scannedInputs rest, ¬ Refused input := by
  have hloop := inputsLoop_scanned config otp rest fields
  have hrefused := allFields_eq_none_iff config otp (scannedInputs rest)
  cases hfields : allFields config otp ((scannedInputs rest).map htmlAttr) with
  | none =>
    rw [hfields] at hloop
    obtain ⟨text, herror⟩ := hloop
    rw [herror]
    obtain ⟨input, hinput, hbad⟩ := hrefused.mp hfields
    constructor
    · rintro ⟨why, h⟩
      cases h
    · rintro ⟨-, hall⟩
      exact absurd hbad (hall input hinput)
  | some more =>
    rw [hfields] at hloop hrefused
    have hall : ∀ input ∈ scannedInputs rest, ¬ Refused input := by
      intro input hinput hbad
      cases hrefused.mpr ⟨input, hinput, hbad⟩
    constructor
    · rintro ⟨why, h⟩
      refine ⟨?_, hall⟩
      by_contra hclosed
      rw [hloop.2 hclosed] at h
      cases h
    · rintro ⟨htruncated, -⟩
      exact ⟨_, hloop.1 htruncated⟩

/-- Behind the name of the form an action begins and is closed by a quote. -/
def ActionClosed (afterForm : List Char) : Prop :=
  ∃ afterKey ∈ (splitOnceIgnoreCase "action=\"".toList ("<form".toList ++ afterForm)).map Prod.snd, '"' ∈ afterKey

/-- **Reading a challenge does not panic**: there is no form or no action in it, an input is refused, or every
input is closed. -/
def ChallengeSafe (html : List Char) : Prop :=
  ∀ afterForm ∈ (splitOnceIgnoreCase "<form".toList html).map Prod.snd, ActionClosed afterForm →
    (∃ input ∈ scannedInputs ("<form".toList ++ afterForm), Refused input) ∨
      ¬ Truncated ("<form".toList ++ afterForm)

theorem otpChallengeAction_ok_iff (afterForm : List Char) :
    (∃ action, otpChallengeAction ("<form".toList ++ afterForm) = .ok action) ↔ ActionClosed afterForm := by
  unfold otpChallengeAction ActionClosed
  cases splitOnceIgnoreCase "action=\"".toList ("<form".toList ++ afterForm) with
  | none => exact ⟨fun ⟨_, h⟩ => (by cases h), fun ⟨_, h, _⟩ => (by cases h)⟩
  | some split =>
    simp only [Option.map_some, Option.mem_some_iff, exists_eq_left']
    constructor
    · rintro ⟨action, haction⟩
      cases hquote : splitOnce ['"'] split.2 with
      | none =>
        rw [hquote] at haction
        cases haction
      | some cut =>
        rw [splitOnce_eq hquote]
        simp
    · intro hmem
      obtain ⟨path, after, heq, hpath⟩ := List.eq_append_cons_of_mem hmem
      rw [heq, splitOnce_char after hpath]
      exact ⟨_, rfl⟩

theorem challengeForm_panics_iff (config : Config) (otp : String) (html : List Char) :
    (∃ why, challengeForm config otp html = .error (.panic why)) ↔ ¬ ChallengeSafe html := by
  unfold challengeForm ChallengeSafe
  cases splitOnceIgnoreCase "<form".toList html with
  | none =>
    refine ⟨?_, fun h => absurd (fun _ hmem => (by cases hmem)) h⟩
    rintro ⟨why, h⟩
    cases h
  | some split =>
    simp only [Option.map_some, Option.mem_some_iff, forall_eq', ← otpChallengeAction_ok_iff]
    cases haction : otpChallengeAction ("<form".toList ++ split.2) with
    | error stop =>
      have hstop : ∀ why, stop ≠ .panic why := by
        intro why hstop
        unfold otpChallengeAction at haction
        split at haction
        · cases haction
          cases hstop
        · split at haction
          · cases haction
            cases hstop
          · cases haction
      constructor
      · rintro ⟨why, h⟩
        exact absurd (Except.error.inj h) (hstop why)
      · refine fun h => absurd ?_ h
        rintro ⟨action, h⟩
        cases h
    | ok action =>
      have hloop := inputsLoop_panics_iff config otp ("<form".toList ++ split.2) []
      simp only [Except.ok.injEq, exists_eq', forall_const, not_or, not_not, not_exists, not_and, bind,
        Except.bind]
      rw [and_comm, ← hloop]
      cases inputsLoop config otp ("<form".toList ++ split.2) [] with
      | error stop =>
        constructor
        · rintro ⟨why, h⟩
          cases h
          exact ⟨why, rfl⟩
        · rintro ⟨why, h⟩
          cases h
          exact ⟨why, rfl⟩
      | ok fields =>
        constructor
        · rintro ⟨why, h⟩
          simp only at h
          split at h <;> cases h
        · rintro ⟨why, h⟩
          cases h

/-- **When reading a challenge panics.**  With a configured password a run never panics if and only if every
input that the page begins is closed, but for pages that are refused first. -/
theorem challenge_never_panics_iff {σ : Type} (gateway : Gateway σ) (config : Config) {otp : String}
    (hotp : config.otp = some otp) (hne : otp ≠ "") (html : List Char) (w : Conversation σ) :
    (∀ why w', Offsets.otpChallengeForm gateway config html w ≠ .error (.panic why) w') ↔ ChallengeSafe html := by
  have hrun := run_configured gateway hotp hne html w
  rw [← not_not (a := ChallengeSafe html), ← challengeForm_panics_iff config otp]
  cases hform : challengeForm config otp html with
  | ok form =>
    rw [hform] at hrun
    obtain ⟨prompt, hrun⟩ := hrun
    rw [hrun]
    exact ⟨fun _ ⟨_, h⟩ => (by cases h), fun _ _ _ h => (by cases h)⟩
  | error stop =>
    rw [hform] at hrun
    simp only at hrun
    rw [hrun]
    constructor
    · rintro h ⟨why, heq⟩
      cases heq
      exact h why w rfl
    · rintro h why w' heq
      cases heq
      exact h ⟨why, rfl⟩

/-- A configuration with a one-time password. -/
def otpConfig : Config := { Config.default with otp := some "123456" }

/-- A page that ends in an input. -/
def truncatedPage : List Char := "<form action=\"/remote/logincheck\"><input name=\"code\"".toList

theorem challenge_never_panics_example :
    (∀ why w', Offsets.otpChallengeForm tokenGateway otpConfig truncatedPage ⟨[], []⟩ ≠ .error (.panic why) w') ↔
      ChallengeSafe truncatedPage :=
  challenge_never_panics_iff tokenGateway otpConfig rfl (by decide) truncatedPage ⟨[], []⟩

/-- An input that is not closed is sliced behind the end of the page. -/
theorem truncated_page_panics : ∃ w', Offsets.otpChallengeForm tokenGateway otpConfig truncatedPage ⟨[], []⟩ =
    .error (.panic .outOfBounds) w' := by
  have hrun := @run_configured _ tokenGateway otpConfig "123456" rfl (by decide) truncatedPage ⟨[], []⟩
  have hform : challengeForm otpConfig "123456" truncatedPage = .error (.panic .outOfBounds) := by decide +kernel
  rw [hform] at hrun
  exact ⟨_, hrun⟩

end OpenfortivpnRs.Auth
