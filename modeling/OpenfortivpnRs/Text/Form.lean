import OpenfortivpnRs.Text

/-!
# Fields joined by ampersands

Forms and the answers to them are fields `name=value` joined by `&`.  Cut at the ampersands and each at
its first equals sign, a form gives its fields back (`formFields_formText`); a name is looked for in it as
a substring (`splitOnce_sep`, `splitOnce_mark`).
-/

namespace OpenfortivpnRs.Text

/-- A field as it is written. -/
def fieldText (field : List Char × List Char) : List Char := field.1 ++ '=' :: field.2

def formText (fields : List (List Char × List Char)) : List Char := ['&'].intercalate (fields.map fieldText)

/-- The fields of a form: it is cut at `&`, and each part at its first `=`. -/
def formFields (s : List Char) : Option (List (List Char × List Char)) :=
  (s.splitOn '&').mapM (splitOnce ['='])

@[simp] theorem formText_singleton (field : List Char × List Char) : formText [field] = fieldText field := by
  simp [formText]

theorem formText_cons {fields : List (List Char × List Char)} (hne : fields ≠ []) (field : List Char × List Char) :
    formText (field :: fields) = fieldText field ++ '&' :: formText fields := by
  rw [formText, List.map_cons, List.intercalate_cons_of_ne_nil (by simpa using hne), List.append_assoc]
  rfl

/-- Names and values that keep the fields apart. -/
def Separated (field : List Char × List Char) : Prop := '=' ∉ field.1 ∧ '&' ∉ field.1 ∧ '&' ∉ field.2

theorem splitOnce_fieldText {field : List Char × List Char} (h : '=' ∉ field.1) :
    splitOnce ['='] (fieldText field) = some field :=
  splitOnce_char field.2 h

/-- **A form is cut into its fields.** -/
theorem formFields_formText {fields : List (List Char × List Char)} (hne : fields ≠ [])
    (h : ∀ field ∈ fields, Separated field) : formFields (formText fields) = some fields := by
  have hpieces : ∀ l ∈ fields.map fieldText, '&' ∉ l := by
    intro l hl
    obtain ⟨field, hfield, rfl⟩ := List.mem_map.mp hl
    have hsep := h field hfield
    simp [fieldText, hsep.2.1, hsep.2.2]
  rw [formFields, formText, List.splitOn_intercalate '&' hpieces (by simpa using hne)]
  clear hne hpieces
  induction fields with
  | nil => rfl
  | cons field fields ih =>
    rw [List.map_cons, List.mapM_cons, splitOnce_fieldText (h field List.mem_cons_self).1,
      ih fun field hfield => h field (List.mem_cons_of_mem _ hfield)]
    rfl

theorem length_splitOn (c : Char) (s : List Char) : (s.splitOn c).length = s.count c + 1 := by
  induction s with
  | nil => rfl
  | cons d s ih =>
    rw [List.splitOn_cons_eq_if_modifyHead]
    by_cases hd : d = c
    · rw [if_pos (by simpa using hd), List.length_cons, ih, hd, List.count_cons_self]
    · rw [if_neg (by simpa using hd), List.length_modifyHead, ih, List.count_cons_of_ne hd]

theorem length_mapM {α β : Type} {f : α → Option β} {as : List α} {bs : List β} (h : as.mapM f = some bs) :
    bs.length = as.length := by
  induction as generalizing bs with
  | nil =>
    cases h
    rfl
  | cons a as ih =>
    rw [List.mapM_cons] at h
    obtain ⟨b, -, h⟩ := Option.bind_eq_some_iff.mp h
    obtain ⟨rest, hrest, h⟩ := Option.bind_eq_some_iff.mp h
    cases h
    rw [List.length_cons, List.length_cons, ih hrest]

/-- A form has one field more than ampersands. -/
theorem length_formFields {s : List Char} {fields : List (List Char × List Char)}
    (h : formFields s = some fields) : fields.length = s.count '&' + 1 := by
  rw [length_mapM h, length_splitOn]

/-- Two forms one behind the other. -/
theorem formFields_append {s t : List Char} {fields more : List (List Char × List Char)}
    (hs : formFields s = some fields) (ht : formFields t = some more) :
    formFields (s ++ '&' :: t) = some (fields ++ more) := by
  unfold formFields at *
  rw [List.splitOn_append_cons_self, List.mapM_append, hs, ht]
  rfl

/-! ### Looking for a name -/

/-- What is looked for does not reach over a character that is not in it. -/
theorem splitOnce_sep {c : Char} {needle : List Char} (hne : needle ≠ []) (hc : c ∉ needle) (s rest : List Char) :
    (splitOnce needle (s ++ c :: rest)).map Prod.snd =
      match splitOnce needle s with
      | some (_, after) => some (after ++ c :: rest)
      | none => (splitOnce needle rest).map Prod.snd := by
  induction s with
  | nil =>
    have hmiss : ¬ needle <+: c :: rest := by
      intro hp
      obtain ⟨d, tail, rfl⟩ := List.exists_cons_of_ne_nil hne
      rw [(List.cons_prefix_cons.mp hp).1] at hc
      exact hc List.mem_cons_self
    have hnil : splitOnce needle [] = none := by rw [splitOnce, if_neg hne]
    rw [List.nil_append, hnil, splitOnce, if_neg hmiss, Option.map_map]
    rfl
  | cons d s ih =>
    have hiff : needle <+: d :: (s ++ c :: rest) ↔ needle <+: d :: s := by
      rw [← List.cons_append]
      refine ⟨fun hp => ?_, fun hp => hp.trans (List.prefix_append _ _)⟩
      rcases List.prefix_or_prefix_of_prefix hp (List.prefix_append (d :: s) (c :: rest)) with h | ⟨t, rfl⟩
      · exact h
      · cases t with
        | nil => simp
        | cons x t =>
          rw [List.prefix_append_right_inj] at hp
          rw [(List.cons_prefix_cons.mp hp).1] at hc
          exact absurd (by simp) hc
    rw [List.cons_append, splitOnce, splitOnce]
    by_cases hp : needle <+: d :: s
    · rw [if_pos (hiff.mpr hp), if_pos hp]
      simp only [Option.map_some, Option.some.injEq]
      rw [← List.cons_append, List.drop_append_of_le_length hp.length_le]
    · rw [if_neg fun h => hp (hiff.mp h), if_neg hp, Option.map_map]
      show (splitOnce needle (s ++ c :: rest)).map Prod.snd = _
      rw [ih]
      cases splitOnce needle s <;> rfl

/-- A name with its equals sign is found where the text in front of the sign ends in it. -/
theorem splitOnce_mark {q : Char} {p w : List Char} (hp : q ∉ p) (hw : q ∉ w) (rest : List Char) :
    (splitOnce (w ++ [q]) (p ++ q :: rest)).map Prod.snd =
      if w <:+ p then some rest else (splitOnce (w ++ [q]) rest).map Prod.snd := by
  have hstep : ∀ (p : List Char) (c : Char) (s : List Char), p ++ q :: rest = c :: s → q ∉ p →
      (splitOnce (w ++ [q]) (c :: s)).map Prod.snd =
        if w = p then some rest else (splitOnce (w ++ [q]) s).map Prod.snd := by
    intro p c s hs hp
    have hiff : w ++ [q] <+: c :: s ↔ w = p := by
      rw [← hs]
      constructor
      · rintro ⟨more, hmore⟩
        rw [List.append_assoc, List.singleton_append] at hmore
        have hsplit := splitOnce_char more hw
        rw [hmore, splitOnce_char rest hp] at hsplit
        cases hsplit
        rfl
      · rintro rfl
        exact ⟨rest, by simp⟩
    rw [splitOnce]
    by_cases hwp : w = p
    · rw [if_pos (hiff.mpr hwp), if_pos hwp, ← hs, hwp]
      simp
    · rw [if_neg fun h => hwp (hiff.mp h), if_neg hwp, Option.map_map]
      rfl
  induction p with
  | nil =>
    rw [List.nil_append, hstep [] q rest rfl List.not_mem_nil]
    simp only [List.suffix_nil]
  | cons c p ih =>
    rw [List.mem_cons, not_or] at hp
    rw [List.cons_append, hstep (c :: p) c (p ++ q :: rest) rfl (by simp [hp.1, hp.2]), ih hp.2]
    simp only [List.suffix_cons_iff]
    by_cases hwp : w = c :: p
    · rw [if_pos hwp, if_pos (.inl hwp)]
    · rw [if_neg hwp]
      simp only [hwp, false_or]

end OpenfortivpnRs.Text
