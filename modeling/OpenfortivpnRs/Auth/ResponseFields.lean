import OpenfortivpnRs.Auth.LoginSafety
import OpenfortivpnRs.Text.CaseSearch
import OpenfortivpnRs.Text.Form
import Mathlib.Data.List.TakeWhile

/-!
# Fields of a response

`get_value` looks for a key and its equals sign as a substring.  In a response of fields it stops at the
first field whose key ends in the key or whose value holds it with an equals sign
(`getValue_formText`); so it reads the field of that key if none of another kind is in front of it
(`get_value_reads_field_iff`).
-/

namespace OpenfortivpnRs.Auth

open Text Http

/-- The characters that end a value. -/
def endsValue (ch : Char) : Bool := ch == '&' || ch == '\r' || ch == '\n' || ch == '\x00'

/-- A field of a response. -/
structure ResponseField where
  key : List Char
  value : List Char
  key_plain : '=' ∉ key ∧ key.all (fun ch => !endsValue ch) = true
  value_plain : value.all (fun ch => !endsValue ch) = true
  deriving DecidableEq

namespace ResponseField

def field (f : ResponseField) : List Char × List Char := (f.key, f.value)

/-- What a search for a key shows of the field: its value if the key ends in it, and otherwise what stands
behind it in the value. -/
def shows (k : List Char) (f : ResponseField) : Option (List Char) :=
  if k <:+ f.key then some f.value else (splitOnce (k ++ ['=']) f.value).map Prod.snd

end ResponseField

/-- The fields joined by `&`. -/
def responseText (fields : List ResponseField) : List Char := formText (fields.map ResponseField.field)

/-- The value of the first field of the key. -/
def valueAt (k : List Char) (fields : List ResponseField) : Option (List Char) :=
  (fields.find? fun f => f.key = k).map ResponseField.value

theorem getValue_eq (body key : List Char) : getValue body key =
    ((splitOnce key body).map Prod.snd).map fun rest => rest.takeWhile fun ch => !endsValue ch := by
  unfold getValue
  cases splitOnce key body <;> rfl

section Field

variable {k : List Char} (hk : '=' ∉ k) (hamp : '&' ∉ k)

include hk

/-- The search in one field. -/
theorem splitOnce_field (f : ResponseField) :
    (splitOnce (k ++ ['=']) (fieldText f.field)).map Prod.snd = f.shows k := by
  exact splitOnce_mark f.key_plain.1 hk f.value

omit hk in
/-- What is shown of a field has no end of a value in it. -/
theorem plain_of_shows {f : ResponseField} {v : List Char} (h : f.shows k = some v) :
    v.all (fun ch => !endsValue ch) = true := by
  unfold ResponseField.shows at h
  split at h
  · cases h
    exact f.value_plain
  · obtain ⟨⟨before, after⟩, hsplit, rfl⟩ := Option.map_eq_some_iff.mp h
    have hvalue := f.value_plain
    rw [splitOnce_eq hsplit, List.all_append, Bool.and_eq_true] at hvalue
    exact hvalue.2

include hamp

/-- **What `get_value` reads** is what the first field shows that shows anything. -/
theorem getValue_formText (fields : List ResponseField) :
    getValue (responseText fields) (k ++ ['=']) = fields.findSome? (ResponseField.shows k) := by
  have hne : k ++ ['='] ≠ [] := by simp
  have hsep : '&' ∉ k ++ ['='] := by simp [hamp]
  rw [getValue_eq]
  induction fields with
  | nil =>
    rw [responseText, List.map_nil, formText, List.map_nil, List.intercalate_nil, splitOnce, if_neg hne]
    rfl
  | cons f fields ih =>
    have hshows := splitOnce_field hk f
    rw [List.findSome?_cons]
    by_cases hfields : fields = []
    · subst hfields
      rw [responseText, List.map_singleton, formText_singleton, hshows]
      cases hf : f.shows k with
      | none => rfl
      | some v =>
        have hplain := List.all_eq_true.mp (plain_of_shows hf)
        simp only [Option.map_some, List.takeWhile_eq_self_iff.mpr hplain]
    · rw [responseText, List.map_cons, formText_cons (by simpa using hfields), splitOnce_sep hne hsep]
      cases hsplit : splitOnce (k ++ ['=']) (fieldText f.field) with
      | none =>
        rw [hsplit, Option.map_none] at hshows
        rw [← hshows]
        exact ih
      | some found =>
        rw [hsplit, Option.map_some] at hshows
        have hplain := List.all_eq_true.mp (plain_of_shows hshows.symm)
        rw [← hshows]
        simp only [Option.map_some]
        rw [List.takeWhile_append_of_pos hplain, List.takeWhile_cons_of_neg (by decide), List.append_nil]

omit hk hamp in
/-- The first field that shows anything for the key is looked at; a field of the key does. -/
theorem findSome_shows_iff (fields : List ResponseField) :
    fields.findSome? (ResponseField.shows k) = valueAt k fields ↔
      ∀ f ∈ fields.find? fun f => (f.shows k).isSome, f.key = k ∨ f.shows k = valueAt k fields := by
  induction fields with
  | nil => exact ⟨fun _ f hf => (by cases hf), fun _ => rfl⟩
  | cons f fields ih =>
    cases hf : f.shows k with
    | none =>
      have hkey : f.key ≠ k := by
        intro hkey
        rw [ResponseField.shows, if_pos (hkey ▸ List.suffix_rfl)] at hf
        cases hf
      have hvalue : valueAt k (f :: fields) = valueAt k fields := by
        rw [valueAt, List.find?_cons_of_neg (by simpa using hkey)]
        rfl
      rw [List.findSome?_cons, hf, List.find?_cons_of_neg (by simp [hf]), hvalue]
      exact ih
    | some v =>
      rw [List.findSome?_cons, hf, List.find?_cons_of_pos (by simp [hf])]
      simp only [Option.mem_some_iff, forall_eq', hf]
      refine ⟨.inr, fun h => h.elim (fun hkey => ?_) id⟩
      have hv : f.shows k = some f.value := by
        rw [ResponseField.shows, if_pos (hkey ▸ List.suffix_rfl)]
      rw [valueAt, List.find?_cons_of_pos (by simpa using hkey), ← hf, hv]
      rfl

end Field

/-- What `validate_auth_response` makes of the value of `ret`. -/
def verdictOf : Option (List Char) → Result Unit
  | none => .ok ()
  | some ret =>
    match parseUnsigned (2 ^ 32 - 1) ret with
    | some 0 => .error .permissionDenied
    | some 1 => .ok ()
    | some 6 => .error (.auth "gateway replied with an unsupported authentication challenge")
    | some other => .error (.auth ("unknown authentication result: " ++ toString other))
    | none => .error (.auth ("invalid authentication result: " ++ .ofList ret))

theorem validateAuthResponse_eq_verdictOf (response : HttpResponse) :
    validateAuthResponse response = verdictOf (getValue (bodyText response) "ret=".toList) := by
  unfold validateAuthResponse verdictOf
  cases getValue (bodyText response) "ret=".toList <;> rfl

theorem validateAuthResponse_eq {response : HttpResponse} {body : List Char} (h : response.body = encode body) :
    validateAuthResponse response = verdictOf (getValue body "ret=".toList) := by
  have hbody : bodyText response = body := by
    rw [bodyText, HttpResponse.bodyAsStr, h]
    exact congrArg (Option.getD · []) (fromUtf8_encode body)
  rw [validateAuthResponse_eq_verdictOf, hbody]

/-- **Fields are looked up by their whole name**, and the verdict is that of the field `ret`, if and only if
the first field that shows anything for the key has this very key, or shows the value of the first field that
has. -/
theorem fields_by_whole_name_iff {k : List Char} (hk : '=' ∉ k) (hamp : '&' ∉ k) (fields : List ResponseField) :
    (getValue (responseText fields) (k ++ ['=']) = valueAt k fields ∧
        (k = "ret".toList → ∀ response : HttpResponse, response.body = encode (responseText fields) →
          validateAuthResponse response = verdictOf (valueAt k fields))) ↔
      ∀ f ∈ fields.find? fun f => (f.shows k).isSome, f.key = k ∨ f.shows k = valueAt k fields := by
  rw [← findSome_shows_iff, getValue_formText hk hamp]
  refine and_iff_left_of_imp fun hvalue hret response hbody => ?_
  have hread := getValue_formText hk hamp fields
  rw [hret] at hread hvalue ⊢
  rw [validateAuthResponse_eq hbody, ← hvalue, ← hread]
  rfl

/-- The answer to an accepted login, with a field whose name ends in `ret` in front. -/
def secretFirst : List ResponseField :=
  [⟨"secret".toList, "0".toList, by decide, by decide⟩, ⟨"ret".toList, "1".toList, by decide, by decide⟩]

theorem fields_by_whole_name_example :
    (getValue (responseText secretFirst) ("ret".toList ++ ['=']) = valueAt "ret".toList secretFirst ∧
        ("ret".toList = "ret".toList → ∀ response : HttpResponse, response.body = encode (responseText secretFirst) →
          validateAuthResponse response = verdictOf (valueAt "ret".toList secretFirst))) ↔
      ∀ f ∈ secretFirst.find? fun f => (f.shows "ret".toList).isSome,
        f.key = "ret".toList ∨ f.shows "ret".toList = valueAt "ret".toList secretFirst :=
  fields_by_whole_name_iff (by decide) (by decide) secretFirst

/-- The verdict is read off the other field: a login that the gateway accepts is denied. -/
theorem verdict_of_another_field :
    responseText secretFirst = "secret=0&ret=1".toList ∧
      getValue (responseText secretFirst) ("ret".toList ++ ['=']) = some "0".toList ∧
      valueAt "ret".toList secretFirst = some "1".toList ∧
      validateAuthResponse ⟨200, "OK", [], encode (responseText secretFirst)⟩ = .error .permissionDenied := by
  decide +kernel

end OpenfortivpnRs.Auth
