import OpenfortivpnRs.Auth.ChallengeSafety
import OpenfortivpnRs.Auth.ResponseFields
import OpenfortivpnRs.Http.UrlEncode

/-!
# The forms of a login

What the gateway reads when it cuts a body at `&` and each part at its first `=`, and decodes the values.
Strings of the configuration are percent-encoded, and what was read off a response ends before the next
`&`, so the login bodies hold the fields they are meant to (`login_forms_intact`).  The form of the host
check is not encoded (`hostcheck_forms_agree_iff`).
-/

namespace OpenfortivpnRs.Auth

open Text Http

/-- A field with its value decoded. -/
def decodedField (field : List Char × List Char) : Option (List Char × List Char) :=
  (percentDecode field.2).map (field.1, ·)

/-- The fields of a form with their values decoded. -/
def decodedForm (body : List Char) : Option (List (List Char × List Char)) := do
  (← formFields body).mapM decodedField

/-- A field whose value is a percent-encoded string. -/
def encodedField (field : String × String) : List Char × List Char := (field.1.toList, (urlEncode field.2).toList)

/-- A name of a field of the program. -/
def IsFieldName (name : String) : Prop := '=' ∉ name.toList ∧ '&' ∉ name.toList

instance : DecidablePred IsFieldName := fun _ => inferInstanceAs (Decidable (_ ∧ _))

theorem separated_encodedField {field : String × String} (h : IsFieldName field.1) :
    Separated (encodedField field) := by
  simp only [Separated, encodedField]
  exact ⟨h.1, h.2, (separator_not_mem field.2).1⟩

/-- **Encoded fields are read back.** -/
theorem decodedForm_encoded {fields : List (String × String)} (hne : fields ≠ [])
    (h : ∀ field ∈ fields, IsFieldName field.1) :
    decodedForm (formText (fields.map encodedField)) =
      some (fields.map fun field => (field.1.toList, field.2.toList)) := by
  have hsep : ∀ field ∈ fields.map encodedField, Separated field := by
    intro field hfield
    obtain ⟨f, hf, rfl⟩ := List.mem_map.mp hfield
    exact separated_encodedField (h f hf)
  rw [decodedForm, formFields_formText (by simpa using hne) hsep]
  clear hne hsep h
  show (fields.map encodedField).mapM decodedField = _
  induction fields with
  | nil => rfl
  | cons field fields ih =>
    rw [List.map_cons, List.mapM_cons, ih, encodedField, decodedField, percentDecode_urlEncode]
    rfl

/-- Fields are decoded to themselves if no code stands in their values. -/
theorem mapM_decodedField_eq_self_iff (fields : List (List Char × List Char)) :
    fields.mapM decodedField = some fields ↔ ∀ field ∈ fields, ¬ HasCode field.2 := by
  induction fields with
  | nil => simp
  | cons field fields ih =>
    obtain ⟨name, value⟩ := field
    rw [List.forall_mem_cons, ← percentDecode_eq_self_iff, ← ih, List.mapM_cons, decodedField]
    constructor
    · intro h
      obtain ⟨decoded, hdecoded, h⟩ := Option.bind_eq_some_iff.mp h
      obtain ⟨more, hmore, h⟩ := Option.bind_eq_some_iff.mp h
      obtain ⟨value', hvalue, rfl⟩ := Option.map_eq_some_iff.mp hdecoded
      cases h
      exact ⟨hvalue, hmore⟩
    · rintro ⟨hvalue, hmore⟩
      rw [hvalue, hmore]
      rfl

/-! ### The initial login -/

/-- The fields of the host check, if it is configured. -/
def hostcheckFields (config : Config) : List (String × String) :=
  if config.hostcheck.isNone ∧ config.checkVirtualDesktop.isNone then []
  else [("hostcheck", config.hostcheck.getD ""), ("check_virtual_desktop", config.checkVirtualDesktop.getD "")]

/-- The fields of the initial login. -/
def initialFields (config : Config) : List (String × String) :=
  (match config.password with
    | some password => [("username", config.username), ("credential", password),
        ("realm", config.realm.getD ""), ("ajax", "1")]
    | none => [("username", config.username), ("realm", config.realm.getD ""), ("ajax", "1"),
        ("redir", "/remote/index"), ("just_logged_in", "1")]) ++ hostcheckFields config

/-- The names of fields the login bodies hold. -/
def fieldNames : List String :=
  ["username", "credential", "realm", "ajax", "redir", "just_logged_in", "hostcheck", "check_virtual_desktop"]

theorem isFieldName_of_mem {fields : List (String × String)} (h : ∀ name ∈ fields.map Prod.fst, name ∈ fieldNames) :
    ∀ field ∈ fields, IsFieldName field.1 := by
  have hall : ∀ name ∈ fieldNames, IsFieldName name := by decide
  exact fun field hfield => hall _ (h _ (List.mem_map_of_mem hfield))

theorem fst_initialFields (config : Config) :
    ∀ name ∈ (initialFields config).map Prod.fst, name ∈ fieldNames := by
  unfold initialFields hostcheckFields fieldNames
  cases config.password <;> split_ifs <;> simp

/-- The names and values of the initial login joined as they are. -/
theorem initialLoginBody_eq (config : Config) :
    (initialLoginBody config).toList = formText ((initialFields config).map encodedField) := by
  have hone : (urlEncode "1").toList = "1".toList := by decide
  have hindex : (urlEncode "/remote/index").toList = "%2Fremote%2Findex".toList := by decide
  unfold initialLoginBody appendHostcheckFields initialFields hostcheckFields
  cases config.password with
  | some password =>
    split_ifs <;>
      simp [formText, fieldText, encodedField, List.intercalate, List.intersperse, hone]
  | none =>
    split_ifs <;>
      simp [formText, fieldText, encodedField, List.intercalate, List.intersperse, hone, hindex]

/-- **The initial login holds its fields and no others.** -/
theorem decodedForm_initialLoginBody (config : Config) : decodedForm (initialLoginBody config).toList =
    some ((initialFields config).map fun field => (field.1.toList, field.2.toList)) := by
  rw [initialLoginBody_eq]
  refine decodedForm_encoded ?_ (isFieldName_of_mem (fst_initialFields config))
  unfold initialFields
  cases config.password <;> simp

/-! ### The second step -/

/-- What was read off a response holds no `&`. -/
theorem amp_not_mem_getValue (body key : List Char) : '&' ∉ (getValue body key).getD [] := by
  rw [getValue_eq]
  cases splitOnce key body with
  | none => exact List.not_mem_nil
  | some split =>
    intro hmem
    have hplain := List.mem_takeWhile_imp hmem
    revert hplain
    decide

/-- The fields that `otp_login_body` puts together, with the last of them. -/
def otpFields (config : Config) (previousBody : List Char) (last : List (List Char × List Char)) :
    List (List Char × List Char) :=
  let value (key : String) : List Char := (getValue previousBody key.toList).getD []
  [encodedField ("username", config.username), encodedField ("realm", config.realm.getD ""),
    ("reqid".toList, value "reqid="), ("polid".toList, value "polid="), ("grp".toList, value "grp="),
    ("portal".toList, value "portal="), ("peer".toList, value "peer=")] ++ last

/-- The gateway may be asked to push a notification in place of a one-time password. -/
def PushAllowed (config : Config) (tokeninfo : List Char) : Prop :=
  config.otp.isNone ∧ "ftm_push".toList <+: tokeninfo ∧ config.noFtmPush = false

instance (config : Config) (tokeninfo : List Char) : Decidable (PushAllowed config tokeninfo) :=
  inferInstanceAs (Decidable (_ ∧ _))

/-- The fields behind those of every second step. -/
def codeFields (otp : String) (magic : List Char) : List (List Char × List Char) :=
  [encodedField ("code", otp), ("code2".toList, []), ("magic".toList, magic)]

def pushFields : List (List Char × List Char) := [("ftmpush".toList, "1".toList)]

theorem formFields_otpFields (config : Config) (previousBody : List Char) {last : List (List Char × List Char)}
    (hlast : ∀ field ∈ last, Separated field) :
    formFields (formText (otpFields config previousBody last)) = some (otpFields config previousBody last) := by
  refine formFields_formText (by simp [otpFields]) fun field hfield => ?_
  have hraw : ∀ (name : String) (key : List Char), IsFieldName name →
      Separated (name.toList, (getValue previousBody key).getD []) := fun name key hname =>
    ⟨hname.1, hname.2, amp_not_mem_getValue previousBody key⟩
  rcases List.mem_append.mp hfield with hfield | hfield
  · simp only [List.mem_cons, List.not_mem_nil, or_false] at hfield
    rcases hfield with rfl | rfl | rfl | rfl | rfl | rfl | rfl
    · exact separated_encodedField (show IsFieldName "username" by decide)
    · exact separated_encodedField (show IsFieldName "realm" by decide)
    · exact hraw "reqid" _ (by decide)
    · exact hraw "polid" _ (by decide)
    · exact hraw "grp" _ (by decide)
    · exact hraw "portal" _ (by decide)
    · exact hraw "peer" _ (by decide)
  · exact hlast field hfield

theorem separated_codeFields (otp : String) (previousBody key : List Char) :
    ∀ field ∈ codeFields otp ((getValue previousBody key).getD []), Separated field := by
  intro field hfield
  simp only [codeFields, List.mem_cons, List.not_mem_nil, or_false] at hfield
  rcases hfield with rfl | rfl | rfl
  · exact separated_encodedField (show IsFieldName "code" by decide)
  · exact ⟨(by decide : '=' ∉ "code2".toList), (by decide : '&' ∉ "code2".toList), List.not_mem_nil⟩
  · exact ⟨(by decide : '=' ∉ "magic".toList), (by decide : '&' ∉ "magic".toList),
      amp_not_mem_getValue previousBody key⟩

/-- The body with its last fields as `tokenparams`. -/
def otpBody (config : Config) (previousBody : List Char) (tokenparams : String) : String :=
  let value (key : String) : String := .ofList ((getValue previousBody key.toList).getD [])
  "username=" ++ urlEncode config.username ++ "&realm=" ++ urlEncode (config.realm.getD "") ++
    "&reqid=" ++ value "reqid=" ++ "&polid=" ++ value "polid=" ++ "&grp=" ++ value "grp=" ++
    "&portal=" ++ value "portal=" ++ "&peer=" ++ value "peer=" ++ "&" ++ tokenparams

theorem otpBody_eq (config : Config) (previousBody : List Char) {tokenparams : String}
    {last : List (List Char × List Char)} (hne : last ≠ []) (h : tokenparams.toList = formText last) :
    (otpBody config previousBody tokenparams).toList = formText (otpFields config previousBody last) := by
  obtain ⟨field, more, rfl⟩ := List.exists_cons_of_ne_nil hne
  unfold otpFields otpBody
  simp only [String.toList_append, h, String.toList_ofList, List.cons_append, List.nil_append]
  simp only [formText_cons, ne_eq, List.cons_ne_nil, not_false_iff]
  -- with the values as they are, only the names and the separators have to agree
  generalize getValue previousBody "reqid=".toList = reqid
  generalize getValue previousBody "polid=".toList = polid
  generalize getValue previousBody "grp=".toList = grp
  generalize getValue previousBody "portal=".toList = portal
  generalize getValue previousBody "peer=".toList = peer
  unfold encodedField fieldText
  simp

theorem otpLoginBody_push {σ : Type} (gateway : Gateway σ) {config : Config} {previousBody tokeninfo : List Char}
    (h : PushAllowed config tokeninfo) :
    otpLoginBody gateway config previousBody tokeninfo = pure (otpBody config previousBody "ftmpush=1") := by
  unfold otpLoginBody
  simp only
  rw [if_pos (show config.otp.isNone = true ∧ "ftm_push".toList <+: tokeninfo ∧ config.noFtmPush = false from h)]
  rfl

theorem otpLoginBody_code {σ : Type} (gateway : Gateway σ) {config : Config} {previousBody tokeninfo : List Char}
    (h : ¬ PushAllowed config tokeninfo) :
    otpLoginBody gateway config previousBody tokeninfo =
      otpValueWithPurpose gateway config "2fa" "Two-factor authentication token: " >>= fun otp =>
        pure (otpBody config previousBody ("code=" ++ urlEncode otp ++ "&code2=&magic=" ++
          .ofList ((getValue previousBody "magic=".toList).getD []))) := by
  unfold otpLoginBody
  simp only
  rw [if_neg (show ¬ (config.otp.isNone = true ∧ "ftm_push".toList <+: tokeninfo ∧ config.noFtmPush = false) from h)]
  rfl

/-- **The form of the second step**: the fields of every second step, and then those of a pushed notification or
of a one-time password, which is the configured one if there is one. -/
def OtpForm (config : Config) (tokeninfo body : List Char) : Prop :=
  ∃ username realm reqid polid grp portal peer last,
    formFields body = some ([("username".toList, username), ("realm".toList, realm), ("reqid".toList, reqid),
      ("polid".toList, polid), ("grp".toList, grp), ("portal".toList, portal), ("peer".toList, peer)] ++ last) ∧
    percentDecode username = some config.username.toList ∧ percentDecode realm = some (config.realm.getD "").toList ∧
    (PushAllowed config tokeninfo ∧ last = [("ftmpush".toList, "1".toList)] ∨
      ¬ PushAllowed config tokeninfo ∧ ∃ code magic otp,
        last = [("code".toList, code), ("code2".toList, []), ("magic".toList, magic)] ∧
        percentDecode code = some otp.toList ∧ ∀ c, config.otp = some c → c ≠ "" → otp = c)

theorem otpForm_of_last {config : Config} {previousBody tokeninfo : List Char} {tokenparams : String}
    {last : List (List Char × List Char)} (hne : last ≠ []) (h : tokenparams.toList = formText last)
    (hsep : ∀ field ∈ last, Separated field)
    (hlast : PushAllowed config tokeninfo ∧ last = [("ftmpush".toList, "1".toList)] ∨
      ¬ PushAllowed config tokeninfo ∧ ∃ code magic otp,
        last = [("code".toList, code), ("code2".toList, []), ("magic".toList, magic)] ∧
        percentDecode code = some otp.toList ∧ ∀ c, config.otp = some c → c ≠ "" → otp = c) :
    OtpForm config tokeninfo (otpBody config previousBody tokenparams).toList := by
  rw [otpBody_eq config previousBody hne h]
  exact ⟨_, _, _, _, _, _, _, last, formFields_otpFields config previousBody hsep,
    percentDecode_urlEncode config.username, percentDecode_urlEncode (config.realm.getD ""), hlast⟩

/-- The password that is asked for is the configured one if there is one. -/
theorem otp_of_configured {σ : Type} {gateway : Gateway σ} {config : Config} {purpose prompt otp : String}
    {w w' : Conversation σ} (h : otpValueWithPurpose gateway config purpose prompt w = .ok otp w') :
    ∀ c, config.otp = some c → c ≠ "" → otp = c := by
  intro c hc hne
  rw [otpValue_configured gateway hc hne] at h
  cases h
  rfl

/-- **Login forms cannot be injected into.**  The initial login holds its fields with the configured strings
as they are; a second step that is built holds the fields of `OtpForm`; and it is built when a one-time password
is configured or a push is allowed. -/
theorem login_forms_intact {σ : Type} (gateway : Gateway σ) (config : Config) (previousBody tokeninfo : List Char)
    (w : Conversation σ) :
    decodedForm (initialLoginBody config).toList =
        some ((initialFields config).map fun field => (field.1.toList, field.2.toList)) ∧
      (∀ body w', otpLoginBody gateway config previousBody tokeninfo w = .ok body w' →
        OtpForm config tokeninfo body.toList) ∧
      ((∃ otp, config.otp = some otp ∧ otp ≠ "") ∨ PushAllowed config tokeninfo →
        ∃ body, otpLoginBody gateway config previousBody tokeninfo w = .ok body w) := by
  refine ⟨decodedForm_initialLoginBody config, fun body w' hrun => ?_, fun h => ?_⟩
  · by_cases hpush : PushAllowed config tokeninfo
    · rw [otpLoginBody_push gateway hpush] at hrun
      obtain ⟨rfl, -⟩ := EStateM.Result.ok.inj hrun
      exact otpForm_of_last (show pushFields ≠ [] by decide) (by decide)
        (fun field hfield => by rw [List.mem_singleton.mp hfield]; exact ⟨by decide, by decide, by decide⟩)
        (.inl ⟨hpush, rfl⟩)
    · rw [otpLoginBody_code gateway hpush] at hrun
      obtain ⟨otp, s, hotp, hreturn⟩ := Lib.bind_eq_ok.mp hrun
      obtain ⟨rfl, -⟩ := EStateM.Result.ok.inj hreturn
      refine otpForm_of_last (List.cons_ne_nil _ _) ?_ (separated_codeFields otp previousBody "magic=".toList)
        (.inr ⟨hpush, _, _, otp, rfl, percentDecode_urlEncode otp, otp_of_configured hotp⟩)
      simp [formText_cons, fieldText, encodedField]
  · by_cases hpush : PushAllowed config tokeninfo
    · rw [otpLoginBody_push gateway hpush]
      exact ⟨_, rfl⟩
    · obtain ⟨otp, hotp, hne⟩ := h.resolve_right hpush
      rw [otpLoginBody_code gateway hpush, otpValue_configured gateway hotp hne, pure_bind]
      exact ⟨_, rfl⟩

theorem login_forms_intact_example :
    ∃ body, otpLoginBody tokenGateway otpConfig "ret=1&reqid=7".toList [] ⟨[], []⟩ = .ok body ⟨[], []⟩ :=
  (login_forms_intact tokenGateway otpConfig "ret=1&reqid=7".toList [] ⟨[], []⟩).2.2 (.inl ⟨"123456", rfl, by decide⟩)

/-! ### The host check -/

/-- The fields of the host check with the configured strings. -/
def hostcheckValues (config : Config) : List (List Char × List Char) :=
  [("hostcheck".toList, (config.hostcheck.getD "").toList),
    ("check_virtual_desktop".toList, (config.checkVirtualDesktop.getD "").toList)]

/-- What the login body is extended by and what is posted for the host check are both read as the configured
strings. -/
def HostcheckAgrees (config : Config) : Prop :=
  (∀ (body : String) fields, decodedForm body.toList = some fields →
      decodedForm (appendHostcheckFields config body).toList = some (fields ++ hostcheckValues config)) ∧
    decodedForm (hostcheckActionBody config).toList = some (hostcheckValues config)

/-- A text that a form may hold as it is. -/
def PlainValue (s : List Char) : Prop := '&' ∉ s ∧ ¬ HasCode s

theorem decodedForm_append {s t : List Char} {fields more : List (List Char × List Char)}
    (hs : decodedForm s = some fields) (ht : decodedForm t = some more) :
    decodedForm (s ++ '&' :: t) = some (fields ++ more) := by
  obtain ⟨sFields, hsFields, hs⟩ := Option.bind_eq_some_iff.mp hs
  obtain ⟨tFields, htFields, ht⟩ := Option.bind_eq_some_iff.mp ht
  rw [decodedForm, formFields_append hsFields htFields]
  show (sFields ++ tFields).mapM decodedField = _
  rw [List.mapM_append, hs, ht]
  rfl

theorem hostcheck_configured {config : Config} (h : config.hostcheck.isSome ∨ config.checkVirtualDesktop.isSome) :
    ¬ (config.hostcheck.isNone = true ∧ config.checkVirtualDesktop.isNone = true) := by
  rintro ⟨hhostcheck, hdesktop⟩
  rw [Option.isNone_iff_eq_none] at hhostcheck hdesktop
  rw [hhostcheck, hdesktop] at h
  simp at h

theorem hostcheckFields_eq {config : Config} (h : config.hostcheck.isSome ∨ config.checkVirtualDesktop.isSome) :
    hostcheckFields config = [("hostcheck", config.hostcheck.getD ""),
      ("check_virtual_desktop", config.checkVirtualDesktop.getD "")] := by
  rw [hostcheckFields, if_neg (hostcheck_configured h)]

/-- The login body is extended by the encoded fields. -/
theorem appendHostcheckFields_eq {config : Config}
    (h : config.hostcheck.isSome ∨ config.checkVirtualDesktop.isSome) (body : String) :
    (appendHostcheckFields config body).toList =
      body.toList ++ '&' :: formText ((hostcheckFields config).map encodedField) := by
  rw [hostcheckFields_eq h, appendHostcheckFields, if_neg (hostcheck_configured h)]
  simp [formText_cons, fieldText, encodedField]

theorem decodedForm_appendHostcheckFields {config : Config}
    (h : config.hostcheck.isSome ∨ config.checkVirtualDesktop.isSome) {body : String}
    {fields : List (List Char × List Char)} (hbody : decodedForm body.toList = some fields) :
    decodedForm (appendHostcheckFields config body).toList = some (fields ++ hostcheckValues config) := by
  rw [appendHostcheckFields_eq h]
  refine decodedForm_append hbody ?_
  rw [decodedForm_encoded (by simp [hostcheckFields_eq h]), hostcheckFields_eq h]
  · rfl
  · rw [hostcheckFields_eq h]
    exact isFieldName_of_mem (by simp [fieldNames])

/-- The form of the host check is its fields as they are. -/
theorem hostcheckActionBody_eq (config : Config) :
    (hostcheckActionBody config).toList = formText (hostcheckValues config) := by
  simp [hostcheckActionBody, hostcheckValues, formText_cons, fieldText]

/-- The names of the host check are as they are, so its fields are read if no value holds an ampersand. -/
theorem formFields_hostcheckActionBody {config : Config} (hhostcheck : '&' ∉ (config.hostcheck.getD "").toList)
    (hdesktop : '&' ∉ (config.checkVirtualDesktop.getD "").toList) :
    formFields (hostcheckActionBody config).toList = some (hostcheckValues config) := by
  rw [hostcheckActionBody_eq]
  refine formFields_formText (List.cons_ne_nil _ _) fun field hfield => ?_
  simp only [hostcheckValues, List.mem_cons, List.not_mem_nil, or_false] at hfield
  rcases hfield with rfl | rfl
  · exact ⟨(by decide : '=' ∉ "hostcheck".toList), (by decide : '&' ∉ "hostcheck".toList), hhostcheck⟩
  · exact ⟨(by decide : '=' ∉ "check_virtual_desktop".toList), (by decide : '&' ∉ "check_virtual_desktop".toList),
      hdesktop⟩

/-- Two fields are separated by one ampersand. -/
theorem amp_not_mem_hostcheck {config : Config} {fields : List (List Char × List Char)}
    (h : formFields (hostcheckActionBody config).toList = some fields) (hlen : fields.length = 2) :
    '&' ∉ (config.hostcheck.getD "").toList ∧ '&' ∉ (config.checkVirtualDesktop.getD "").toList := by
  have hcount := length_formFields h
  rw [hlen, hostcheckActionBody_eq] at hcount
  have htext : (formText (hostcheckValues config)).count '&' =
      (config.hostcheck.getD "").toList.count '&' + 1 + (config.checkVirtualDesktop.getD "").toList.count '&' := by
    have hnames : "hostcheck".toList.count '&' = 0 ∧ "check_virtual_desktop".toList.count '&' = 0 := by decide
    rw [hostcheckValues, formText_cons (List.cons_ne_nil _ _), formText_singleton]
    unfold fieldText
    simp only [List.count_append, List.count_cons, hnames]
    simp
    omega
  rw [htext] at hcount
  rw [← List.count_eq_zero, ← List.count_eq_zero]
  omega

theorem decodedForm_hostcheckActionBody_iff (config : Config) :
    decodedForm (hostcheckActionBody config).toList = some (hostcheckValues config) ↔
      PlainValue (config.hostcheck.getD "").toList ∧ PlainValue (config.checkVirtualDesktop.getD "").toList := by
  have hdecode : (hostcheckValues config).mapM decodedField = some (hostcheckValues config) ↔
      ¬ HasCode (config.hostcheck.getD "").toList ∧ ¬ HasCode (config.checkVirtualDesktop.getD "").toList := by
    rw [mapM_decodedField_eq_self_iff, hostcheckValues, List.forall_mem_cons, List.forall_mem_singleton]
  constructor
  · intro h
    obtain ⟨fields, hfields, hvalues⟩ := Option.bind_eq_some_iff.mp h
    have hplain := amp_not_mem_hostcheck hfields (length_mapM hvalues).symm
    rw [formFields_hostcheckActionBody hplain.1 hplain.2] at hfields
    cases hfields
    have hcodes := hdecode.mp hvalues
    exact ⟨⟨hplain.1, hcodes.1⟩, hplain.2, hcodes.2⟩
  · rintro ⟨hhostcheck, hdesktop⟩
    rw [decodedForm, formFields_hostcheckActionBody hhostcheck.1 hdesktop.1]
    exact hdecode.mpr ⟨hhostcheck.2, hdesktop.2⟩

/-- **The two forms of the host check agree** if and only if the configured strings can stand in a form as they
are: the login body encodes them and the form of the host check does not. -/
theorem hostcheck_forms_agree_iff (config : Config)
    (h : config.hostcheck.isSome ∨ config.checkVirtualDesktop.isSome) :
    HostcheckAgrees config ↔
      PlainValue (config.hostcheck.getD "").toList ∧ PlainValue (config.checkVirtualDesktop.getD "").toList := by
  rw [← decodedForm_hostcheckActionBody_iff]
  exact ⟨fun hagrees => hagrees.2, fun hform => ⟨fun _ _ hbody => decodedForm_appendHostcheckFields h hbody, hform⟩⟩

/-- A host check whose text holds a separator and a code. -/
def rawHostcheck : Config := { Config.default with hostcheck := some "a&b=%41" }

theorem hostcheck_forms_agree_example : HostcheckAgrees rawHostcheck ↔
    PlainValue (rawHostcheck.hostcheck.getD "").toList ∧
      PlainValue (rawHostcheck.checkVirtualDesktop.getD "").toList :=
  hostcheck_forms_agree_iff rawHostcheck (.inl rfl)

/-- The form of the host check is read as three fields. -/
theorem raw_hostcheck_is_split : ¬ HostcheckAgrees rawHostcheck := by
  intro h
  have hplain := (decodedForm_hostcheckActionBody_iff rawHostcheck).mp h.2
  exact hplain.1.1 (by decide)

end OpenfortivpnRs.Auth
