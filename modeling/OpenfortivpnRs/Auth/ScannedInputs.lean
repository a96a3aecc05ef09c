import OpenfortivpnRs.Auth.Offsets
import OpenfortivpnRs.Http.UrlEncode
import OpenfortivpnRs.Text.Split

/-!
# The inputs that are scanned, and their fields

`otp_challenge_form` scans a page from one `<input` to the next `>` and has the fields of what it cuts out, unless
the last of them is not closed (`inputsLoop_scanned`).  The scan of a page is put together from the scans of its
parts (`Scans`).
-/

namespace OpenfortivpnRs.Auth

open Text Http

/-! ### Fields -/

/-- The field of the realm, if one is configured. -/
def realmField (config : Config) : List (String × String) :=
  match config.realm.filter (· ≠ "") with
  | some realm => [("realm", realm)]
  | none => []

/-- The fields of an input whose attributes are looked up by `attr`: a hidden input has its own value, and an input
for a password has the one-time password with the realm behind it. -/
def fieldsBy (config : Config) (otp : String) (attr : List Char → Option (List Char)) : Option (List (String × String)) :=
  let inputType := (attr "type".toList).getD []
  if eqIgnoreAsciiCase inputType "hidden".toList then do
    return [(.ofList (← attr "name".toList), .ofList (← attr "value".toList))]
  else if eqIgnoreAsciiCase inputType "password".toList then do
    return (.ofList (← attr "name".toList), otp) :: realmField config
  else some []

/-- An input with such attributes is submitted. -/
def Submitted (attr : List Char → Option (List Char)) : Prop :=
  let inputType := (attr "type".toList).getD []
  eqIgnoreAsciiCase inputType "hidden".toList = true ∨ eqIgnoreAsciiCase inputType "password".toList = true

/-- The fields of several inputs. -/
def allFields (config : Config) (otp : String) (attrs : List (List Char → Option (List Char))) :
    Option (List (String × String)) :=
  ((attrs.map (fieldsBy config otp)).mapM id).map List.flatten

/-- A field as it is submitted. -/
def encodeField (field : String × String) : String := urlEncode field.1 ++ "=" ++ urlEncode field.2

theorem fieldsBy_congr (config : Config) (otp : String) {attr attr' : List Char → Option (List Char)}
    (htype : attr "type".toList = attr' "type".toList) (hname : attr "name".toList = attr' "name".toList)
    (hvalue : attr "value".toList = attr' "value".toList) : fieldsBy config otp attr = fieldsBy config otp attr' := by
  unfold fieldsBy
  rw [htype, hname, hvalue]

theorem fieldsBy_not_submitted (config : Config) (otp : String) {attr : List Char → Option (List Char)}
    (h : ¬ Submitted attr) : fieldsBy config otp attr = some [] := by
  unfold Submitted at h
  unfold fieldsBy
  simp only at h ⊢
  rw [not_or] at h
  rw [if_neg h.1, if_neg h.2]

theorem allFields_append (config : Config) (otp : String) (attrs attrs' : List (List Char → Option (List Char))) :
    allFields config otp (attrs ++ attrs') = do
      return (← allFields config otp attrs) ++ (← allFields config otp attrs') := by
  unfold allFields
  rw [List.map_append, List.mapM_append]
  cases (attrs.map (fieldsBy config otp)).mapM id with
  | none => rfl
  | some fields =>
    cases (attrs'.map (fieldsBy config otp)).mapM id with
    | none => rfl
    | some more => simp

theorem allFields_cons (config : Config) (otp : String) (attr : List Char → Option (List Char))
    (attrs : List (List Char → Option (List Char))) :
    allFields config otp (attr :: attrs) = do
      return (← fieldsBy config otp attr) ++ (← allFields config otp attrs) := by
  unfold allFields
  rw [List.map_cons, List.mapM_cons]
  cases fieldsBy config otp attr with
  | none => rfl
  | some fields => cases (attrs.map (fieldsBy config otp)).mapM id <;> rfl

/-- Inputs that are not submitted have no fields. -/
theorem allFields_not_submitted (config : Config) (otp : String) {attrs : List (List Char → Option (List Char))}
    (h : ∀ attr ∈ attrs, ¬ Submitted attr) : allFields config otp attrs = some [] := by
  induction attrs with
  | nil => rfl
  | cons attr attrs ih =>
    rw [allFields_cons, fieldsBy_not_submitted config otp (h attr List.mem_cons_self),
      ih fun attr hattr => h attr (List.mem_cons_of_mem _ hattr)]
    rfl

theorem encodeField_realm (config : Config) : (realmField config).map encodeField =
    match config.realm.filter (· ≠ "") with
    | some realm => ["realm=" ++ urlEncode realm]
    | none => [] := by
  have hrealm : urlEncode "realm" ++ "=" = "realm=" := by decide
  unfold realmField
  cases config.realm.filter (· ≠ "") with
  | none => rfl
  | some realm => rw [List.map_singleton, encodeField, hrealm]

theorem inputType_cases (inputType : List Char) : eqIgnoreAsciiCase inputType "hidden".toList = false ∨
    eqIgnoreAsciiCase inputType "password".toList = false := by
  by_contra h
  simp only [not_or, Bool.not_eq_false] at h
  have hlen := length_of_eqIgnoreAsciiCase h.1
  rw [length_of_eqIgnoreAsciiCase h.2] at hlen
  revert hlen
  decide

/-- The fields of an input by what `html_attr` finds in it. -/
theorem inputFields_fieldsBy (config : Config) (otp : String) (input : List Char) :
    match fieldsBy config otp (htmlAttr input) with
    | some fields => inputFields config otp input = .ok (fields.map encodeField)
    | none => ∃ text, inputFields config otp input = .error (.error (.auth text)) := by
  unfold inputFields fieldsBy
  simp only
  rcases hcases : eqIgnoreAsciiCase ((htmlAttr input "type".toList).getD []) "hidden".toList with _ | _
  · rcases hpassword : eqIgnoreAsciiCase ((htmlAttr input "type".toList).getD []) "password".toList with _ | _
    · rfl
    · cases htmlAttr input "name".toList with
      | none => exact ⟨_, rfl⟩
      | some name =>
        show _ = Except.ok (encodeField (.ofList name, otp) :: (realmField config).map encodeField)
        rw [encodeField_realm]
        cases config.realm.filter (· ≠ "") <;> rfl
  · have hpassword := (inputType_cases ((htmlAttr input "type".toList).getD [])).resolve_left (by rw [hcases]; decide)
    rw [hpassword]
    cases htmlAttr input "name".toList with
    | none => exact ⟨_, rfl⟩
    | some name =>
      cases htmlAttr input "value".toList with
      | none => exact ⟨_, rfl⟩
      | some value =>
        cases config.realm.filter (· ≠ "") <;> rfl

/-! ### The inputs that are scanned -/

/-- The inputs of a page, each up to its closing bracket or the end. -/
def scannedInputs (rest : List Char) : List (List Char) :=
  match h : splitOnceIgnoreCase "<input".toList rest with
  | none => []
  | some (_, afterName) =>
    match hc : splitOnce ['>'] afterName with
    | none => ["<input".toList ++ afterName]
    | some (inside, rest') =>
      have : rest'.length < rest.length :=
        (splitOnce_lt (by simp) hc).trans (splitOnceIgnoreCase_lt (by decide) h)
      ("<input".toList ++ inside) :: scannedInputs rest'
termination_by rest.length

theorem scannedInputs_none {rest : List Char} (h : splitOnceIgnoreCase "<input".toList rest = none) :
    scannedInputs rest = [] := by
  rw [scannedInputs]
  split
  · rfl
  · rename_i hsome
    rw [h] at hsome
    cases hsome

/-- Some input is not closed: behind its beginning there is no bracket. -/
def Truncated (rest : List Char) : Prop :=
  ∃ input, input <:+ rest ∧ eqIgnoreAsciiCase (input.take "<input".toList.length) "<input".toList = true ∧
    '>' ∉ input

section Scan

variable {rest before afterName : List Char}

/-- A place that is not found is none. -/
theorem not_truncated (h : splitOnceIgnoreCase "<input".toList rest = none) : ¬ Truncated rest := by
  rintro ⟨input, ⟨front, rfl⟩, hinput, -⟩
  induction front with
  | nil =>
    cases input with
    | nil => cases hinput
    | cons c input =>
      rw [List.nil_append, splitOnceIgnoreCase, if_pos hinput] at h
      cases h
  | cons c front ih =>
    rw [List.cons_append, splitOnceIgnoreCase] at h
    split at h
    · cases h
    · exact ih (Option.map_eq_none_iff.mp h)

variable (h : splitOnceIgnoreCase "<input".toList rest = some (before, afterName))

include h

theorem scannedInputs_open (hclose : splitOnce ['>'] afterName = none) :
    scannedInputs rest = ["<input".toList ++ afterName] := by
  rw [scannedInputs]
  split
  · rename_i hnone
    rw [h] at hnone
    cases hnone
  · rename_i hsome
    rw [h] at hsome
    cases hsome
    split
    · rfl
    · rename_i hsome
      rw [hclose] at hsome
      cases hsome

theorem scannedInputs_closed {inside rest' : List Char} (hclose : splitOnce ['>'] afterName = some (inside, rest')) :
    scannedInputs rest = ("<input".toList ++ inside) :: scannedInputs rest' := by
  rw [scannedInputs]
  split
  · rename_i hnone
    rw [h] at hnone
    cases hnone
  · rename_i hsome
    rw [h] at hsome
    cases hsome
    split
    · rename_i hnone
      rw [hclose] at hnone
      cases hnone
    · rename_i hsome
      rw [hclose] at hsome
      cases hsome
      rfl

theorem truncated_open (hclose : splitOnce ['>'] afterName = none) : Truncated rest := by
  obtain ⟨found, heq, hfound⟩ := splitOnceIgnoreCase_eq h
  have hlen := length_of_eqIgnoreAsciiCase hfound
  refine ⟨found ++ afterName, ⟨before, ?_⟩, ?_, ?_⟩
  · rw [heq, List.append_assoc]
  · rw [← hlen, List.take_left' rfl]
    exact hfound
  · have hname : '>' ∉ found := not_mem_of_eqIgnoreAsciiCase (by decide) hfound
    intro hmem
    rcases List.mem_append.mp hmem with hmem | hmem
    · exact hname hmem
    · obtain ⟨front, after, rfl, hfront⟩ := List.eq_append_cons_of_mem hmem
      rw [splitOnce_char after hfront] at hclose
      cases hclose

/-- Behind a closed input the page is truncated or not as before. -/
theorem truncated_closed {inside rest' : List Char} (hclose : splitOnce ['>'] afterName = some (inside, rest')) :
    Truncated rest ↔ Truncated rest' := by
  obtain ⟨found, heq, -⟩ := splitOnceIgnoreCase_eq h
  have hsuffix : '>' :: rest' <:+ rest := by
    refine ⟨before ++ found ++ inside, ?_⟩
    rw [heq, splitOnce_eq hclose]
    simp only [List.append_assoc]
    rfl
  constructor
  · rintro ⟨input, hinput, hbegins, hopen⟩
    refine ⟨input, ?_, hbegins, hopen⟩
    rcases List.suffix_or_suffix_of_suffix hinput hsuffix with hin | hin
    · rcases List.suffix_cons_iff.mp hin with rfl | hin
      · exact absurd List.mem_cons_self hopen
      · exact hin
    · exact absurd (hin.subset List.mem_cons_self) hopen
  · rintro ⟨input, hinput, hbegins, hopen⟩
    exact ⟨input, hinput.trans ((List.suffix_cons _ _).trans hsuffix), hbegins, hopen⟩

end Scan

/-! ### The loop -/

/-- **What the loop makes of the inputs that it scans**: one of them is refused, or it has their fields and panics
if one is not closed. -/
theorem inputsLoop_scanned (config : Config) (otp : String) (rest : List Char) (fields : List String) :
    match allFields config otp ((scannedInputs rest).map htmlAttr) with
    | some more => (Truncated rest → inputsLoop config otp rest fields = .error (.panic .outOfBounds)) ∧
        (¬ Truncated rest → inputsLoop config otp rest fields = .ok (fields ++ more.map encodeField))
    | none => ∃ text, inputsLoop config otp rest fields = .error (.error (.auth text)) := by
  induction hn : rest.length using Nat.strong_induction_on generalizing rest fields with
  | _ n ih =>
    cases h : splitOnceIgnoreCase "<input".toList rest with
    | none =>
      rw [inputsLoop_none h, scannedInputs_none h]
      refine ⟨fun htruncated => absurd htruncated (not_truncated h), fun _ => ?_⟩
      exact congrArg Except.ok (List.append_nil fields).symm
    | some split =>
      obtain ⟨before, afterName⟩ := split
      cases hclose : splitOnce ['>'] afterName with
      | none =>
        have hfields := inputFields_fieldsBy config otp ("<input".toList ++ afterName)
        rw [inputsLoop_open h hclose, scannedInputs_open h hclose, List.map_singleton, allFields_cons]
        cases hown : fieldsBy config otp (htmlAttr ("<input".toList ++ afterName)) with
        | none =>
          rw [hown] at hfields
          obtain ⟨text, herror⟩ := hfields
          rw [herror]
          exact ⟨text, rfl⟩
        | some own =>
          rw [hown] at hfields
          rw [hfields]
          exact ⟨fun _ => rfl, fun hclosed => absurd (truncated_open h hclose) hclosed⟩
      | some cut =>
        obtain ⟨inside, rest'⟩ := cut
        have hlt : rest'.length < n :=
          hn ▸ (splitOnce_lt (by simp) hclose).trans (splitOnceIgnoreCase_lt (by decide) h)
        have hfields := inputFields_fieldsBy config otp ("<input".toList ++ inside)
        rw [inputsLoop_closed h hclose, scannedInputs_closed h hclose, truncated_closed h hclose, List.map_cons,
          allFields_cons]
        cases hown : fieldsBy config otp (htmlAttr ("<input".toList ++ inside)) with
        | none =>
          rw [hown] at hfields
          obtain ⟨text, herror⟩ := hfields
          rw [herror]
          exact ⟨text, rfl⟩
        | some own =>
          rw [hown] at hfields
          have hrest := ih _ hlt rest' (fields ++ own.map encodeField) rfl
          rw [hfields]
          cases hmore : allFields config otp ((scannedInputs rest').map htmlAttr) with
          | none =>
            rw [hmore] at hrest
            exact hrest
          | some more =>
            rw [hmore] at hrest
            refine ⟨hrest.1, fun hclosed => (hrest.2 hclosed).trans ?_⟩
            show _ = Except.ok (fields ++ (own ++ more).map encodeField)
            rw [List.map_append, List.append_assoc]

/-- The loop has the fields of the inputs if all of them are closed. -/
theorem inputsLoop_eq_ok_iff (config : Config) (otp : String) (rest : List Char) (fields all : List String) :
    inputsLoop config otp rest fields = .ok all ↔ ¬ Truncated rest ∧
      ∃ more, allFields config otp ((scannedInputs rest).map htmlAttr) = some more ∧ all = fields ++ more.map encodeField := by
  have hloop := inputsLoop_scanned config otp rest fields
  cases hfields : allFields config otp ((scannedInputs rest).map htmlAttr) with
  | none =>
    rw [hfields] at hloop
    obtain ⟨text, herror⟩ := hloop
    rw [herror]
    simp
  | some more =>
    rw [hfields] at hloop
    constructor
    · intro hok
      by_cases htruncated : Truncated rest
      · rw [hloop.1 htruncated] at hok
        cases hok
      · rw [hloop.2 htruncated] at hok
        exact ⟨htruncated, more, rfl, (Except.ok.inj hok).symm⟩
    · rintro ⟨hclosed, _, hmore, rfl⟩
      cases hmore
      exact hloop.2 hclosed

/-! ### The scan of a text by parts -/

/-- The scan of `s` cuts out the inputs and goes on with `t`. -/
structure Scans (s : List Char) (inputs : List (List Char)) (t : List Char) : Prop where
  inputs_eq : scannedInputs s = inputs ++ scannedInputs t
  truncated_iff : Truncated s ↔ Truncated t

theorem Scans.trans {s t u : List Char} {inputs inputs' : List (List Char)} (h : Scans s inputs t)
    (h' : Scans t inputs' u) : Scans s (inputs ++ inputs') u where
  inputs_eq := by rw [h.inputs_eq, h'.inputs_eq, List.append_assoc]
  truncated_iff := h.truncated_iff.trans h'.truncated_iff

/-- A text in front of the first input is passed. -/
theorem Scans.of_split {s t front : List Char} (h : splitOnceIgnoreCase "<input".toList s =
    (splitOnceIgnoreCase "<input".toList t).map fun (before, after) => (front ++ before, after)) : Scans s [] t := by
  cases ht : splitOnceIgnoreCase "<input".toList t with
  | none =>
    rw [ht] at h
    refine ⟨?_, iff_of_false (not_truncated h) (not_truncated ht)⟩
    rw [scannedInputs_none h, scannedInputs_none ht, List.nil_append]
  | some split =>
    rw [ht] at h
    cases hclose : splitOnce ['>'] split.2 with
    | none =>
      refine ⟨?_, iff_of_true (truncated_open h hclose) (truncated_open ht hclose)⟩
      rw [scannedInputs_open h hclose, scannedInputs_open ht hclose, List.nil_append]
    | some cut =>
      refine ⟨?_, (truncated_closed h hclose).trans (truncated_closed ht hclose).symm⟩
      rw [scannedInputs_closed h hclose, scannedInputs_closed ht hclose, List.nil_append]

/-- An input that is closed is cut out. -/
theorem Scans.of_closed {s before inside rest : List Char} (hinside : '>' ∉ inside)
    (h : splitOnceIgnoreCase "<input".toList s = some (before, inside ++ '>' :: rest)) :
    Scans s ["<input".toList ++ inside] rest where
  inputs_eq := scannedInputs_closed h (splitOnce_char rest hinside)
  truncated_iff := truncated_closed h (splitOnce_char rest hinside)

/-- No character of `input` is a bracket in another case. -/
theorem input_ne_angle : ∀ d ∈ "input".toList, lowerChar d ≠ lowerChar '<' ∧ lowerChar d ≠ lowerChar '>' := by
  decide

/-- **A text whose inputs are closed is scanned by itself** in front of a tag. -/
theorem Scans.closed {m : List Char} (hm : ¬ Truncated m) (rest : List Char) :
    Scans (m ++ '<' :: rest) (scannedInputs m) ('<' :: rest) := by
  induction hn : m.length using Nat.strong_induction_on generalizing m with
  | _ n ih =>
    cases h : splitOnceIgnoreCase "<input".toList m with
    | none =>
      rw [scannedInputs_none h]
      exact .of_split (splitOnceIgnoreCase_stop (c := '<') (fun d hd => (input_ne_angle d hd).1) h rest)
    | some split =>
      obtain ⟨before, afterName⟩ := split
      have happend := splitOnceIgnoreCase_append h ('<' :: rest)
      by_cases hmem : '>' ∈ afterName
      · obtain ⟨inside, m', rfl, hinside⟩ := List.eq_append_cons_of_mem hmem
        have hclose := splitOnce_char m' hinside
        have hlt : m'.length < n :=
          hn ▸ (splitOnce_lt (by simp) hclose).trans (splitOnceIgnoreCase_lt (by decide) h)
        rw [List.append_assoc, List.cons_append] at happend
        rw [truncated_closed h hclose] at hm
        rw [scannedInputs_closed h hclose]
        exact (Scans.of_closed hinside happend).trans (ih _ hlt hm rfl)
      · have hopen : splitOnce ['>'] afterName = none := splitOnce_none_of_not_mem [] hmem
        exact absurd (truncated_open h hopen) hm

/-- The inside of a tag is scanned by itself. -/
theorem Scans.tag {m : List Char} (hm : '>' ∉ m) (rest : List Char) :
    Scans (m ++ '>' :: rest) (scannedInputs m) rest := by
  have hne : lowerChar '>' ≠ lowerChar '<' := by decide
  cases h : splitOnceIgnoreCase "<input".toList m with
  | none =>
    rw [scannedInputs_none h]
    exact .of_split (splitOnceIgnoreCase_past (c := '<') (fun d hd => (input_ne_angle d hd).2) h hne rest)
  | some split =>
    obtain ⟨before, afterName⟩ := split
    have hafter : '>' ∉ afterName := by
      obtain ⟨found, rfl, -⟩ := splitOnceIgnoreCase_eq h
      exact fun hmem => hm (List.mem_append_right _ hmem)
    rw [scannedInputs_open h (splitOnce_none_of_not_mem [] hafter)]
    exact .of_closed hafter (splitOnceIgnoreCase_append h _)

end OpenfortivpnRs.Auth
