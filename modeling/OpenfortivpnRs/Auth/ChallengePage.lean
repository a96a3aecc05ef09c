import OpenfortivpnRs.Auth.ChallengeSafety
import OpenfortivpnRs.Auth.QuotedAttributes
import OpenfortivpnRs.Text.Form

/-!
# The form that a challenge page asks to fill in

Pages with a well-formed first form and anything behind it, and what `otp_challenge_form` submits for them.  It cuts
the page from every `<input` to the next `>`, up to the end of the page, and takes for an attribute the first whose
name ends in its name.  What it submits is the form if and only if this shows the fields of the form
(`otp_form_submitted_iff`).
-/

namespace OpenfortivpnRs.Auth

open Text Http

/-! ### Inputs -/

/-- The tag of an input. -/
structure InputTag where
  letters : List Char
  attrs : List QuotedAttribute
  ending : List Char
  letters_eq : eqIgnoreAsciiCase letters "input".toList = true
  ending_plain : ∀ c ∈ ending, isSpace c = true ∨ c = '/'

namespace InputTag

variable (tag : InputTag)

/-- The text behind `<input`. -/
def inside : List Char := attributeText tag.attrs ++ tag.ending

def chars : List Char := '<' :: tag.letters ++ tag.inside ++ ['>']

/-- The attributes by their names. -/
def named (w : List Char) : Option (List Char) := namedValue w tag.attrs

/-- The attributes that a search shows. -/
def shownAttr (w : List Char) : Option (List Char) := shown w tag.ending tag.attrs

/-- A hidden input has a name and a value, and an input for a password has a name. -/
def Complete : Prop :=
  let inputType := (tag.named "type".toList).getD []
  (eqIgnoreAsciiCase inputType "hidden".toList = true →
      (tag.named "name".toList).isSome ∧ (tag.named "value".toList).isSome) ∧
    (eqIgnoreAsciiCase inputType "password".toList = true → (tag.named "name".toList).isSome)

end InputTag

/-! ### Pages -/

/-- The text holds no `needle`, in any case. -/
def Without (needle : String) (s : List Char) : Prop := splitOnceIgnoreCase needle.toList s = none

/-- Other markup of a form: where `<input` stands in a comment or a value, there is a bracket behind it. -/
def IsMarkup (s : List Char) : Prop := ¬ Truncated s ∧ Without "</form" s

/-- Inputs, each behind other markup. -/
abbrev Inputs : Type := List (List Char × InputTag)

def inputsText (inputs : Inputs) : List Char := inputs.flatMap fun (markup, tag) => markup ++ tag.chars

/-- A page whose first form is well formed, with any text behind the form. -/
structure ChallengePage where
  before : List Char
  formName : List Char
  lead : List QuotedAttribute
  action : QuotedAttribute
  formEnd : List Char
  inputs : Inputs
  lastMarkup : List Char
  closeName : List Char
  closeSpace : Space
  behind : List Char
  before_plain : Without "<form" before
  formName_eq : eqIgnoreAsciiCase formName "form".toList = true
  action_name : eqIgnoreAsciiCase action.name "action".toList = true
  action_first : ∀ a ∈ lead, eqIgnoreAsciiCase a.name "action".toList = false
  formEnd_plain : '>' ∉ formEnd
  markup : ∀ item ∈ inputs, IsMarkup item.1
  lastMarkup_markup : IsMarkup lastMarkup
  closeName_eq : eqIgnoreAsciiCase closeName "form".toList = true
  complete : ∀ item ∈ inputs, item.2.Complete
  submitted : ∃ item ∈ inputs, Submitted item.2.named

namespace ChallengePage

variable (page : ChallengePage)

/-- The form tag behind its name. -/
def formInside : List Char := attributeText (page.lead ++ [page.action]) ++ page.formEnd

/-- The closing tag up to its bracket. -/
def closing : List Char := '<' :: '/' :: (page.closeName ++ page.closeSpace.val)

/-- The text behind the form tag. -/
def content : List Char := inputsText page.inputs ++ (page.lastMarkup ++ (page.closing ++ '>' :: page.behind))

def afterForm : List Char := page.formInside ++ '>' :: page.content

def chars : List Char := page.before ++ '<' :: page.formName ++ page.afterForm

/-- The fields of the form: those of its inputs, by the attributes of the names. -/
def fields (config : Config) (otp : String) : Option (List (String × String)) :=
  allFields config otp (page.inputs.map fun item => item.2.named)

/-- The texts that are taken for inputs besides the inputs of the form: in its tag, its other markup and behind it. -/
def strayInputs : List (List Char) :=
  scannedInputs page.formInside ++ (page.inputs.flatMap fun item => scannedInputs item.1) ++
    scannedInputs page.lastMarkup ++ scannedInputs page.behind

/-- The attributes of everything that is taken for an input, as a search shows them. -/
def readings : List (List Char → Option (List Char)) :=
  (scannedInputs page.formInside).map htmlAttr ++
    (page.inputs.flatMap fun item => (scannedInputs item.1).map htmlAttr ++ [item.2.shownAttr]) ++
    (scannedInputs page.lastMarkup).map htmlAttr ++ (scannedInputs page.behind).map htmlAttr

/-- The fields that are shown in the form and behind it. -/
def shownFields (config : Config) (otp : String) : Option (List (String × String)) :=
  allFields config otp page.readings

/-- The action that is shown in the form tag or behind it. -/
def shownAction : Option (List Char) :=
  shown "action".toList (page.formEnd ++ '>' :: page.content) (page.lead ++ [page.action])

end ChallengePage

def formBody (fields : List (String × String)) : String := String.intercalate "&" (fields.map encodeField)

/-! ### The tags -/

theorem InputTag.quote_not_mem_ending (tag : InputTag) : '"' ∉ tag.ending :=
  fun h => absurd (tag.ending_plain _ h) (by decide)

theorem InputTag.htmlAttr_eq (tag : InputTag) {w : List Char} (hw : IsWord w) :
    htmlAttr ("<input".toList ++ tag.inside) w = tag.shownAttr w := by
  rw [inside, ← List.append_assoc]
  exact htmlAttr_attributes hw (by decide) (.inl tag.quote_not_mem_ending)

theorem InputTag.fieldsBy_eq (tag : InputTag) (config : Config) (otp : String) :
    fieldsBy config otp (htmlAttr ("<input".toList ++ tag.inside)) = fieldsBy config otp tag.shownAttr :=
  fieldsBy_congr config otp (tag.htmlAttr_eq (by decide)) (tag.htmlAttr_eq (by decide)) (tag.htmlAttr_eq (by decide))

theorem bracket_not_mem_attributes (attrs : List QuotedAttribute) : '>' ∉ attributeText attrs := by
  intro h
  obtain ⟨a, -, ha⟩ := List.mem_flatMap.mp h
  have hspace : ∀ space : Space, '>' ∉ space.val := fun space h => absurd (space.property _ h) (by decide)
  have hname : '>' ∉ a.name := fun h => a.isName.plain _ h (by decide)
  have hvalue : '>' ∉ a.value := fun h => (a.plain _ h).2.1 rfl
  simp [QuotedAttribute.chars, QuotedAttribute.front, hspace, hname, hvalue] at ha

theorem InputTag.bracket_not_mem (tag : InputTag) : '>' ∉ tag.inside := by
  have hending : '>' ∉ tag.ending := fun h => absurd (tag.ending_plain _ h) (by decide)
  simp [inside, hending, bracket_not_mem_attributes]

/-- A tag is cut out as an input. -/
theorem InputTag.scans (tag : InputTag) (rest : List Char) :
    Scans (tag.chars ++ rest) ["<input".toList ++ tag.inside] rest := by
  have hword : eqIgnoreAsciiCase ('<' :: tag.letters) "<input".toList = true :=
    eqIgnoreAsciiCase_cons.mpr ⟨rfl, tag.letters_eq⟩
  have hfront := splitOnceIgnoreCase_front (by decide) hword (tag.inside ++ '>' :: rest)
  have htext : tag.chars ++ rest = '<' :: tag.letters ++ (tag.inside ++ '>' :: rest) := by
    simp [InputTag.chars]
  rw [htext]
  exact .of_closed tag.bracket_not_mem hfront

/-- The inputs of a form are cut out, and what looks like one between them. -/
theorem scans_inputs {inputs : Inputs} (h : ∀ item ∈ inputs, IsMarkup item.1) (rest : List Char) :
    Scans (inputsText inputs ++ rest)
      (inputs.flatMap fun item => scannedInputs item.1 ++ ["<input".toList ++ item.2.inside]) rest := by
  induction inputs with
  | nil => exact ⟨rfl, Iff.rfl⟩
  | cons item inputs ih =>
    have hmarkup := (h item List.mem_cons_self).1
    have htext : inputsText (item :: inputs) ++ rest = item.1 ++ (item.2.chars ++ (inputsText inputs ++ rest)) := by
      simp [inputsText]
    rw [htext, List.flatMap_cons]
    refine .trans (.trans (.closed hmarkup _) (item.2.scans _)) (ih fun item hitem => ?_)
    exact h item (List.mem_cons_of_mem _ hitem)

/-! ### The page -/

namespace ChallengePage

variable (page : ChallengePage)

theorem split_form : splitOnceIgnoreCase "<form".toList page.chars = some (page.before, page.afterForm) := by
  have hword : eqIgnoreAsciiCase ('<' :: page.formName) "<form".toList = true :=
    eqIgnoreAsciiCase_cons.mpr ⟨rfl, page.formName_eq⟩
  have hfront := splitOnceIgnoreCase_front (by decide) hword page.afterForm
  have hstop := splitOnceIgnoreCase_stop (c := '<') (show ∀ d ∈ "form".toList, lowerChar d ≠ lowerChar '<' by decide)
    page.before_plain (page.formName ++ page.afterForm)
  have htext : page.chars = page.before ++ '<' :: (page.formName ++ page.afterForm) := by
    simp [chars]
  rw [htext]
  refine hstop.trans ?_
  rw [List.cons_append] at hfront
  rw [show splitOnceIgnoreCase ('<' :: "form".toList) _ = _ from hfront]
  simp only [Option.map_some, List.append_nil]

theorem bracket_not_mem_formInside : '>' ∉ page.formInside := by
  simp [formInside, bracket_not_mem_attributes, page.formEnd_plain]

theorem lowerChar_closing : ∀ c ∈ '/' :: (page.closeName ++ page.closeSpace.val),
    lowerChar c ≠ lowerChar '<' ∧ lowerChar c ≠ lowerChar '>' := by
  have hname : ∀ c ∈ page.closeName, lowerChar c ≠ lowerChar '<' ∧ lowerChar c ≠ lowerChar '>' := by
    intro c hc
    have hform : ∀ d ∈ "form".toList.map lowerChar, d ≠ lowerChar '<' ∧ d ≠ lowerChar '>' := by decide
    have hmem := List.mem_map_of_mem (f := lowerChar) hc
    rw [eqIgnoreAsciiCase_iff.mp page.closeName_eq] at hmem
    exact hform _ hmem
  have hspace : ∀ c ∈ page.closeSpace.val, lowerChar c ≠ lowerChar '<' ∧ lowerChar c ≠ lowerChar '>' := by
    intro c hc
    have hc := page.closeSpace.property c hc
    simp only [isSpace, Bool.or_eq_true, beq_iff_eq] at hc
    rcases hc with ((rfl | rfl) | rfl) | rfl <;> decide
  rw [List.forall_mem_cons, List.forall_mem_append]
  exact ⟨by decide, hname, hspace⟩

/-- No input begins in the closing tag. -/
theorem scannedInputs_closing : scannedInputs page.closing = [] := by
  have hskip := splitOnceIgnoreCase_skip (c := '<') "input".toList [] fun c hc => (page.lowerChar_closing c hc).1
  have hslash : ¬ eqIgnoreAsciiCase (page.closing.take "<input".toList.length) "<input".toList = true := by
    intro h
    have hsecond := (eqIgnoreAsciiCase_cons.mp (eqIgnoreAsciiCase_cons.mp h).2).1
    revert hsecond
    decide
  rw [List.append_nil] at hskip
  refine scannedInputs_none ?_
  unfold closing at hslash ⊢
  rw [splitOnceIgnoreCase, if_neg hslash, Option.map_eq_none_iff]
  exact hskip

/-- **What is cut out of a page**: the inputs of the form, and what looks like one elsewhere. -/
theorem scans : Scans ("<form".toList ++ page.afterForm)
    (scannedInputs page.formInside ++
      (page.inputs.flatMap fun item => scannedInputs item.1 ++ ["<input".toList ++ item.2.inside]) ++
        scannedInputs page.lastMarkup) page.behind := by
  have hbracket : '>' ∉ page.closing := by
    intro h
    rcases List.mem_cons.mp h with h | h
    · revert h
      decide
    · exact (page.lowerChar_closing _ h).2 rfl
  have hform : Scans ("<form".toList ++ page.afterForm) [] page.afterForm :=
    .of_split (splitOnceIgnoreCase_form (by decide) page.afterForm)
  have hclosing := Scans.tag hbracket page.behind
  rw [scannedInputs_closing] at hclosing
  have hlast := (Scans.closed page.lastMarkup_markup.1 _).trans hclosing
  rw [List.append_nil] at hlast
  have hcontent := (scans_inputs page.markup _).trans hlast
  rw [List.append_assoc]
  exact hform.trans ((Scans.tag page.bracket_not_mem_formInside _).trans hcontent)

theorem allFields_scanned (config : Config) (otp : String) :
    allFields config otp ((scannedInputs ("<form".toList ++ page.afterForm)).map htmlAttr) =
      page.shownFields config otp := by
  have hown : ∀ item : List Char × InputTag, (((scannedInputs item.1 ++ ["<input".toList ++ item.2.inside]).map
      htmlAttr).map (fieldsBy config otp)) =
        ((scannedInputs item.1).map htmlAttr ++ [item.2.shownAttr]).map (fieldsBy config otp) := by
    intro item
    simp only [List.map_append, List.map_singleton, item.2.fieldsBy_eq]
  unfold shownFields allFields
  rw [page.scans.inputs_eq, readings]
  simp only [List.map_append, List.map_flatMap] at hown ⊢
  simp only [hown]

/-- `otp_challenge_form` has the action that `html_attr` would find. -/
theorem otpChallengeAction_iff {form path : List Char} :
    (∃ after, otpChallengeAction form = .ok (path, after)) ↔ htmlAttr form "action".toList = some path := by
  have hneedle : "action=\"".toList = "action".toList ++ ['=', '"'] := by decide
  unfold otpChallengeAction htmlAttr
  rw [hneedle]
  cases splitOnceIgnoreCase ("action".toList ++ ['=', '"']) form with
  | none => simp
  | some key =>
    cases hvalue : splitOnce ['"'] key.2 with
    | none => simp [hvalue]
    | some cut => simp [hvalue]

theorem htmlAttr_form : htmlAttr ("<form".toList ++ page.afterForm) "action".toList = page.shownAction := by
  have htext : "<form".toList ++ page.afterForm = "<form".toList ++ attributeText (page.lead ++ [page.action]) ++
      (page.formEnd ++ '>' :: page.content) := by
    simp [afterForm, formInside]
  rw [htext]
  exact htmlAttr_attributes (by decide) (by decide) (.inr (by simp))

/-- **What `otp_challenge_form` makes of a page.** -/
theorem challengeForm_eq_ok (config : Config) (otp : String) {path body : String} :
    challengeForm config otp page.chars = .ok (path, body) ↔
      page.shownAction = some path.toList ∧ ¬ Truncated page.behind ∧
        ∃ fields, page.shownFields config otp = some fields ∧ fields ≠ [] ∧ body = formBody fields := by
  have hloop : ∀ all, inputsLoop config otp ("<form".toList ++ page.afterForm) [] = .ok all ↔
      ¬ Truncated page.behind ∧ ∃ fields, page.shownFields config otp = some fields ∧ all = fields.map encodeField := by
    intro all
    rw [inputsLoop_eq_ok_iff, page.scans.truncated_iff, allFields_scanned]
    simp only [List.nil_append]
  rw [← page.htmlAttr_form, ← otpChallengeAction_iff]
  unfold challengeForm
  rw [page.split_form]
  simp only [bind, Except.bind]
  cases haction : otpChallengeAction ("<form".toList ++ page.afterForm) with
  | error stop => simp
  | ok action =>
    simp only
    cases hread : inputsLoop config otp ("<form".toList ++ page.afterForm) [] with
    | error stop =>
      constructor
      · intro h
        cases h
      · rintro ⟨-, hclosed, fields, hfields, -⟩
        rw [(hloop _).mpr ⟨hclosed, fields, hfields, rfl⟩] at hread
        cases hread
    | ok all =>
      obtain ⟨hclosed, fields, hfields, rfl⟩ := (hloop all).mp hread
      by_cases hne : fields = []
      · subst hne
        constructor
        · intro h
          cases h
        · rintro ⟨-, -, _, hsome, hempty, -⟩
          rw [hfields] at hsome
          cases hsome
          exact absurd rfl hempty
      · have hencoded : fields.map encodeField ≠ [] := by simpa using hne
        show (if fields.map encodeField = [] then _ else _) = _ ↔ _
        rw [if_neg hencoded]
        constructor
        · intro h
          cases h
          exact ⟨⟨action.2, by rw [String.toList_ofList]⟩, hclosed, fields, hfields, hne, rfl⟩
        · rintro ⟨⟨after, hpath⟩, -, _, hsome, -, rfl⟩
          rw [hfields] at hsome
          cases hsome
          cases hpath
          rw [String.ofList_toList]
          rfl

end ChallengePage

/-! ### The fields -/

/-- A field with its name and its value percent-encoded. -/
def encodedPair (field : String × String) : List Char × List Char :=
  ((urlEncode field.1).toList, (urlEncode field.2).toList)

theorem separated_encodedPair (field : String × String) : Separated (encodedPair field) := by
  simp only [Separated, encodedPair]
  exact ⟨(separator_not_mem field.1).2, (separator_not_mem field.1).1, (separator_not_mem field.2).1⟩

theorem encodedPair_injective : Function.Injective encodedPair := by
  rintro ⟨name, value⟩ ⟨name', value'⟩ heq
  simp only [encodedPair, Prod.mk.injEq] at heq
  rw [urlEncode_injective (String.toList_inj.mp heq.1), urlEncode_injective (String.toList_inj.mp heq.2)]

theorem formBody_toList (fields : List (String × String)) :
    (formBody fields).toList = formText (fields.map encodedPair) := by
  have hfield : String.toList ∘ encodeField = fieldText ∘ encodedPair := by
    have heq : "=".toList = ['='] := by decide
    funext field
    simp only [Function.comp_apply, encodeField, fieldText, encodedPair, String.toList_append, heq, List.append_assoc,
      List.singleton_append]
  have hamp : "&".toList = ['&'] := by decide
  rw [formBody, String.toList_intercalate, formText, List.map_map, List.map_map, hfield, hamp]

/-- Bodies are the same only if their fields are. -/
theorem formBody_injective {fields fields' : List (String × String)} (hne : fields ≠ []) (hne' : fields' ≠ [])
    (h : formBody fields = formBody fields') : fields = fields' := by
  have hread : ∀ fields : List (String × String), fields ≠ [] →
      formFields (formBody fields).toList = some (fields.map encodedPair) := by
    intro fields hne
    rw [formBody_toList]
    refine formFields_formText (by simpa using hne) fun field hfield => ?_
    obtain ⟨field, -, rfl⟩ := List.mem_map.mp hfield
    exact separated_encodedPair field
  have hsame := hread fields hne
  rw [h, hread fields' hne', Option.some.injEq] at hsame
  exact (List.map_injective_iff.mpr encodedPair_injective hsame).symm

/-- A complete input has its fields. -/
theorem InputTag.Complete.fields {tag : InputTag} (h : tag.Complete) (config : Config) (otp : String) :
    ∃ fields, fieldsBy config otp tag.named = some fields ∧ (Submitted tag.named → fields ≠ []) := by
  unfold InputTag.Complete at h
  unfold Submitted fieldsBy
  simp only at h ⊢
  split_ifs with hhidden hpassword
  · obtain ⟨hname, hvalue⟩ := h.1 hhidden
    obtain ⟨name, hname⟩ := Option.isSome_iff_exists.mp hname
    obtain ⟨value, hvalue⟩ := Option.isSome_iff_exists.mp hvalue
    rw [hname, hvalue]
    exact ⟨_, rfl, fun _ => List.cons_ne_nil _ _⟩
  · obtain ⟨name, hname⟩ := Option.isSome_iff_exists.mp (h.2 hpassword)
    rw [hname]
    exact ⟨_, rfl, fun _ => List.cons_ne_nil _ _⟩
  · exact ⟨[], rfl, fun h => (h.elim hhidden hpassword).elim⟩

/-- Complete inputs have their fields. -/
theorem allFields_complete {inputs : Inputs} (h : ∀ item ∈ inputs, item.2.Complete) (config : Config) (otp : String) :
    ∃ fields, allFields config otp (inputs.map fun item => item.2.named) = some fields ∧
      ((∃ item ∈ inputs, Submitted item.2.named) → fields ≠ []) := by
  induction inputs with
  | nil =>
    refine ⟨[], rfl, ?_⟩
    rintro ⟨item, hitem, -⟩
    cases hitem
  | cons item inputs ih =>
    obtain ⟨own, hown, hsubmitted⟩ := (h item List.mem_cons_self).fields config otp
    obtain ⟨more, hmore, hrest⟩ := ih fun item hitem => h item (List.mem_cons_of_mem _ hitem)
    refine ⟨own ++ more, ?_, ?_⟩
    · rw [List.map_cons, allFields_cons, hown, hmore]
      rfl
    · rintro ⟨other, hother, hsub⟩ hnil
      rw [List.append_eq_nil_iff] at hnil
      rcases List.mem_cons.mp hother with rfl | hother
      · exact hsubmitted hsub hnil.1
      · exact hrest ⟨other, hother, hsub⟩ hnil.2

/-- What is submitted for a page is its form. -/
theorem ChallengePage.challengeForm_iff (page : ChallengePage) (config : Config) (otp : String) :
    (∃ fields, page.fields config otp = some fields ∧
        challengeForm config otp page.chars = .ok (.ofList page.action.value, formBody fields)) ↔
      page.shownAction = some page.action.value ∧ ¬ Truncated page.behind ∧
        page.shownFields config otp = page.fields config otp := by
  obtain ⟨fields, hfields, hall⟩ := allFields_complete page.complete config otp
  have hne := hall page.submitted
  rw [show page.fields config otp = some fields from hfields]
  constructor
  · rintro ⟨_, hsome, hform⟩
    cases hsome
    obtain ⟨haction, hclosed, read, hread, hreadNe, hbody⟩ := (page.challengeForm_eq_ok config otp).mp hform
    rw [String.toList_ofList] at haction
    rw [hread, formBody_injective hne hreadNe hbody]
    exact ⟨haction, hclosed, rfl⟩
  · rintro ⟨haction, hclosed, hread⟩
    refine ⟨fields, rfl, (page.challengeForm_eq_ok config otp).mpr ⟨?_, hclosed, fields, hread, hne, rfl⟩⟩
    rw [String.toList_ofList]
    exact haction

/-! ### Pages as usual -/

/-- No attribute's name goes on in front of `w`, and no value ends in `w` and an equals sign. -/
def PlainFor (w : List Char) (attrs : List QuotedAttribute) : Prop :=
  ∀ a ∈ attrs, (a.Shows w ↔ eqIgnoreAsciiCase a.name w = true) ∧ endsIgnoreCase a.value (w ++ ['=']) = false

theorem shown_eq_or {w : List Char} {attrs : List QuotedAttribute} (h : PlainFor w attrs) (e : List Char) :
    shown w e attrs = (namedValue w attrs).or (htmlAttr e w) := by
  induction attrs with
  | nil => rfl
  | cons a attrs ih =>
    obtain ⟨hname, hvalue⟩ := h a List.mem_cons_self
    have hrest := ih fun b hb => h b (List.mem_cons_of_mem _ hb)
    rw [shown, hvalue, hrest]
    unfold namedValue
    by_cases hmatch : eqIgnoreAsciiCase a.name w = true
    · rw [if_pos (hname.mpr hmatch), List.find?_cons_of_pos (p := fun a : QuotedAttribute => eqIgnoreAsciiCase a.name w) hmatch]
      rfl
    · rw [if_neg fun hshows => hmatch (hname.mp hshows), List.find?_cons_of_neg (p := fun a : QuotedAttribute => eqIgnoreAsciiCase a.name w) hmatch]
      rfl

/-- The attributes of a tag can be looked up by a search. -/
structure PlainTag (tag : InputTag) : Prop where
  type : PlainFor "type".toList tag.attrs
  name : PlainFor "name".toList tag.attrs
  value : PlainFor "value".toList tag.attrs

theorem PlainTag.fieldsBy_eq {tag : InputTag} (h : PlainTag tag) (config : Config) (otp : String) :
    fieldsBy config otp tag.shownAttr = fieldsBy config otp tag.named := by
  have hattr : ∀ w, PlainFor w tag.attrs → tag.shownAttr w = tag.named w := by
    intro w hw
    rw [InputTag.shownAttr, shown_eq_or hw, htmlAttr_no_quote tag.quote_not_mem_ending, Option.or_none, InputTag.named]
  exact fieldsBy_congr config otp (hattr _ h.type) (hattr _ h.name) (hattr _ h.value)

theorem allFields_plain {inputs : Inputs} (hplain : ∀ item ∈ inputs, PlainTag item.2)
    (hstray : ∀ item ∈ inputs, ∀ input ∈ scannedInputs item.1, ¬ Submitted (htmlAttr input)) (config : Config)
    (otp : String) :
    allFields config otp (inputs.flatMap fun item => (scannedInputs item.1).map htmlAttr ++ [item.2.shownAttr]) =
      allFields config otp (inputs.map fun item => item.2.named) := by
  induction inputs with
  | nil => rfl
  | cons item inputs ih =>
    have hrest := ih (fun item hitem => hplain item (List.mem_cons_of_mem _ hitem))
      fun item hitem => hstray item (List.mem_cons_of_mem _ hitem)
    have hnone : allFields config otp ((scannedInputs item.1).map htmlAttr) = some [] :=
      allFields_not_submitted config otp (List.forall_mem_map.mpr (hstray item List.mem_cons_self))
    rw [List.flatMap_cons, allFields_append, allFields_append, hnone, allFields_cons config otp item.2.shownAttr [],
      (hplain item List.mem_cons_self).fieldsBy_eq, hrest, List.map_cons, allFields_cons]
    cases fieldsBy config otp item.2.named with
    | none => rfl
    | some own =>
      cases allFields config otp (inputs.map fun item : List Char × InputTag => item.2.named) with
      | none => rfl
      | some more =>
        show some ([] ++ (own ++ []) ++ more) = some (own ++ more)
        rw [List.nil_append, List.append_nil]

/-- A page as usual: no attribute hides another, every `<input` behind the form has a bracket behind it, and nothing
that is no input of the form shows that it is hidden or a password. -/
structure ChallengePage.Plain (page : ChallengePage) : Prop where
  action : PlainFor "action".toList (page.lead ++ [page.action])
  inputs : ∀ item ∈ page.inputs, PlainTag item.2
  closed : ¬ Truncated page.behind
  stray : ∀ input ∈ page.strayInputs, ¬ Submitted (htmlAttr input)

/-- **Pages as usual are submitted faithfully.** -/
theorem ChallengePage.shown_of_plain {page : ChallengePage} (h : page.Plain) (config : Config) (otp : String) :
    page.shownAction = some page.action.value ∧ ¬ Truncated page.behind ∧
      page.shownFields config otp = page.fields config otp := by
  refine ⟨?_, h.closed, ?_⟩
  · have hlead : page.lead.find? (fun a => eqIgnoreAsciiCase a.name "action".toList) = none := by
      rw [List.find?_eq_none]
      intro a ha
      rw [page.action_first a ha]
      decide
    have hnamed : namedValue "action".toList (page.lead ++ [page.action]) = some page.action.value := by
      rw [namedValue, List.find?_append, hlead, Option.none_or,
        List.find?_cons_of_pos (p := fun a : QuotedAttribute => eqIgnoreAsciiCase a.name "action".toList) page.action_name,
        Option.map_some]
    rw [shownAction, shown_eq_or h.action, hnamed, Option.some_or]
  · have hstray := h.stray
    simp only [strayInputs, List.forall_mem_append, List.forall_mem_flatMap] at hstray
    obtain ⟨⟨⟨hform, hinputs⟩, hlast⟩, hbehind⟩ := hstray
    have hnone : ∀ {texts : List (List Char)}, (∀ input ∈ texts, ¬ Submitted (htmlAttr input)) →
        allFields config otp (texts.map htmlAttr) = some [] :=
      fun hall => allFields_not_submitted config otp (List.forall_mem_map.mpr hall)
    rw [shownFields, readings, allFields_append, allFields_append, allFields_append, hnone hform, hnone hlast,
      hnone hbehind, allFields_plain h.inputs hinputs, fields]
    cases allFields config otp (page.inputs.map fun item => item.2.named) with
    | none => rfl
    | some fields =>
      show some ([] ++ fields ++ [] ++ []) = some fields
      rw [List.nil_append, List.append_nil, List.append_nil]

/-! ### What is submitted -/

/-- An attribute behind one blank. -/
def blankAttribute (name value : String) (hname : isNameCheck name.toList = true)
    (hvalue : ∀ c ∈ value.toList, c ≠ '"' ∧ c ≠ '>' ∧ c ≠ '&') : QuotedAttribute where
  space := oneSpace
  name := name.toList
  beforeEq := noSpace
  afterEq := noSpace
  value := value.toList
  space_ne := oneSpace_ne
  isName := isName_of_check hname
  plain := hvalue

/-- A hidden input. -/
def hiddenInput (name value : QuotedAttribute) : InputTag where
  letters := "input".toList
  attrs := [blankAttribute "type" "hidden" (by decide) (by decide), name, value]
  ending := []
  letters_eq := by decide
  ending_plain := fun _ h => absurd h List.not_mem_nil

def magicInput : InputTag :=
  hiddenInput (blankAttribute "name" "magic" (by decide) (by decide)) (blankAttribute "value" "1" (by decide) (by decide))

/-- A page with the form of a challenge and a form to search with. -/
def searchPage : ChallengePage where
  before := "<html>".toList
  formName := "form".toList
  lead := []
  action := blankAttribute "action" "/remote/otp" (by decide) (by decide)
  formEnd := []
  inputs := [([], magicInput)]
  lastMarkup := []
  closeName := "form".toList
  closeSpace := noSpace
  behind := "<form action=\"/search\"><input type=\"hidden\" name=\"lang\" value=\"en\"></form></html>".toList
  before_plain := by unfold Without; decide
  formName_eq := by decide
  action_name := by decide
  action_first := fun _ h => absurd h List.not_mem_nil
  formEnd_plain := List.not_mem_nil
  markup := List.forall_mem_singleton.mpr ⟨not_truncated rfl, rfl⟩
  lastMarkup_markup := ⟨not_truncated rfl, rfl⟩
  closeName_eq := by decide
  complete := List.forall_mem_singleton.mpr ⟨fun _ => ⟨by decide, by decide⟩, fun _ => by decide⟩
  submitted := ⟨_, List.mem_singleton_self _, .inl (by decide)⟩

end OpenfortivpnRs.Auth
