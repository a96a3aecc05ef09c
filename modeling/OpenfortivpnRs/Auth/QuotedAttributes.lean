import OpenfortivpnRs.Auth.Attributes
import OpenfortivpnRs.Auth.Offsets
import OpenfortivpnRs.Text.Split

/-!
# Attributes in double quotes

`html_attr` looks for a name with `="` behind it anywhere in a tag.  It finds the first attribute whose name
ends in it, or what stands behind a value that ends in it and an equals sign (`htmlAttr_attributes`).
-/

namespace OpenfortivpnRs.Auth

open Text

/-- An attribute with its value in double quotes. -/
structure QuotedAttribute where
  space : Space
  name : List Char
  beforeEq : Space
  afterEq : Space
  value : List Char
  space_ne : space.val ≠ []
  isName : IsName name
  plain : ∀ c ∈ value, c ≠ '"' ∧ c ≠ '>' ∧ c ≠ '&'

namespace QuotedAttribute

variable (a : QuotedAttribute)

/-- The text in front of the value. -/
def front : List Char := a.space.val ++ a.name ++ a.beforeEq.val ++ '=' :: a.afterEq.val

def chars : List Char := a.front ++ '"' :: (a.value ++ ['"'])

/-- A search for a name finds the attribute. -/
def Shows (w : List Char) : Prop :=
  a.beforeEq.val = [] ∧ a.afterEq.val = [] ∧ endsIgnoreCase a.name w = true

instance (w : List Char) : Decidable (a.Shows w) := inferInstanceAs (Decidable (_ ∧ _ ∧ _))

end QuotedAttribute

open QuotedAttribute

def attributeText (attrs : List QuotedAttribute) : List Char := attrs.flatMap chars

/-- The value of the attribute of a name. -/
def namedValue (w : List Char) (attrs : List QuotedAttribute) : Option (List Char) :=
  (attrs.find? fun a => eqIgnoreAsciiCase a.name w).map value

/-- What a search for a name with `="` behind it shows in attributes with the text `e` behind them: the first
attribute whose name ends in it or, if before that a value ends in it and an equals sign, the text between this value
and the next quote, or else what it shows in `e`. -/
def shown (w e : List Char) : List QuotedAttribute → Option (List Char)
  | [] => htmlAttr e w
  | a :: attrs =>
    if a.Shows w then some a.value
    else if endsIgnoreCase a.value (w ++ ['=']) then (splitOnce ['"'] (attributeText attrs ++ e)).map Prod.fst
    else shown w e attrs

/-! ### Searching -/

/-- Names that are looked for. -/
def IsWord (w : List Char) : Prop := w ≠ [] ∧ ∀ c ∈ w, 'a' ≤ c ∧ c ≤ 'z'

instance : DecidablePred IsWord := fun _ => inferInstanceAs (Decidable (_ ∧ _))

section Word

variable {w : List Char} (hw : IsWord w)

include hw

theorem lowerChar_ne_of_space {c : Char} (hc : isSpace c = true) : ∀ d ∈ w ++ ['='], lowerChar d ≠ lowerChar c := by
  have hlower : ∀ d, 'a' ≤ d → lowerChar d = d := by
    intro d hd
    unfold lowerChar
    rw [if_neg]
    rintro ⟨-, hle⟩
    exact absurd (Char.le_trans hd hle) (show ¬ 'a' ≤ 'Z' by decide)
  have hspace : lowerChar c = c ∧ c ≠ '=' ∧ ¬ 'a' ≤ c := by
    simp only [isSpace, Bool.or_eq_true, beq_iff_eq] at hc
    rcases hc with ((rfl | rfl) | rfl) | rfl <;> decide
  intro d hd heq
  rw [hspace.1] at heq
  rcases List.mem_append.mp hd with hd | hd
  · have hle := (hw.2 d hd).1
    rw [hlower d hle] at heq
    exact hspace.2.2 (heq ▸ hle)
  · rw [List.mem_singleton] at hd
    subst hd
    exact hspace.2.1 (heq.symm.trans (by decide))

omit hw in
theorem exists_last_space {space : Space} (hne : space.val ≠ []) :
    ∃ front c, space.val = front ++ [c] ∧ isSpace c = true :=
  ⟨space.val.dropLast, space.val.getLast hne, (List.dropLast_append_getLast hne).symm,
    space.property _ (List.getLast_mem hne)⟩

/-- White space stands in no end that is looked for. -/
theorem endsIgnoreCase_space {space : Space} (hne : space.val ≠ []) (p s : List Char) :
    endsIgnoreCase (p ++ space.val ++ s) (w ++ ['=']) = endsIgnoreCase s (w ++ ['=']) := by
  obtain ⟨front, c, hspace, hc⟩ := exists_last_space hne
  have hassoc : p ++ space.val ++ s = (p ++ front) ++ c :: s := by simp [hspace]
  rw [hassoc, endsIgnoreCase_append (lowerChar_ne_of_space hw hc)]

/-- An end is longer than an equals sign. -/
theorem endsIgnoreCase_short {s : List Char} (hs : s.length ≤ 1) : endsIgnoreCase s (w ++ ['=']) = false := by
  rw [Bool.eq_false_iff]
  intro h
  have hlen := length_of_eqIgnoreAsciiCase h
  have hpos := List.length_pos_iff.mpr hw.1
  rw [List.length_drop, List.length_append, List.length_singleton] at hlen
  omega

theorem endsIgnoreCase_attribute (a : QuotedAttribute) (p : List Char) :
    endsIgnoreCase (p ++ a.front) (w ++ ['=']) = decide (a.Shows w) := by
  have hfront : p ++ a.front = (p ++ a.space.val ++ a.name ++ a.beforeEq.val ++ ['=']) ++ a.afterEq.val ++ [] := by
    simp [front]
  rw [hfront]
  by_cases hafter : a.afterEq.val = []
  · rw [hafter, List.append_nil, List.append_nil]
    by_cases hbefore : a.beforeEq.val = []
    · rw [hbefore, List.append_nil, List.append_assoc _ a.name, endsIgnoreCase_space hw a.space_ne,
        endsIgnoreCase_concat]
      simp [Shows, hbefore, hafter]
    · rw [endsIgnoreCase_space hw hbefore, endsIgnoreCase_short hw (by simp)]
      simp [Shows, hbefore]
  · rw [endsIgnoreCase_space hw hafter, endsIgnoreCase_short hw (by simp)]
    simp [Shows, hafter]

omit hw in
theorem quote_not_mem_front (a : QuotedAttribute) : '"' ∉ a.front := by
  have hspace : ∀ space : Space, '"' ∉ space.val := fun space h => absurd (space.property _ h) (by decide)
  have hname : '"' ∉ a.name := fun h => a.isName.plain _ h (by decide)
  simp [front, hspace, hname]

theorem htmlAttr_cons {p : List Char} (hp : '"' ∉ p) (a : QuotedAttribute) (attrs : List QuotedAttribute)
    (e : List Char) : htmlAttr (p ++ attributeText (a :: attrs) ++ e) w =
      if a.Shows w then some a.value
      else if endsIgnoreCase a.value (w ++ ['=']) then (splitOnce ['"'] (attributeText attrs ++ e)).map Prod.fst
      else htmlAttr (attributeText attrs ++ e) w := by
  have hquote : '"' ∉ w := fun h => absurd (hw.2 _ h) (by decide)
  have htext : p ++ attributeText (a :: attrs) ++ e =
      (p ++ a.front) ++ '"' :: (a.value ++ '"' :: (attributeText attrs ++ e)) := by
    simp [attributeText, chars]
  have hfront := quote_not_mem_front a
  have hvalue : '"' ∉ a.value := fun h => (a.plain _ h).1 rfl
  rw [htext, htmlAttr_quote hquote (by simp [hp, hfront]), endsIgnoreCase_attribute hw]
  by_cases hshows : a.Shows w
  · rw [if_pos (by simpa using hshows), if_pos hshows, splitOnce_char _ hvalue]
    rfl
  · rw [if_neg (by simpa using hshows), if_neg hshows, htmlAttr_quote hquote hvalue]

/-- **What `html_attr` finds in a tag.** -/
theorem htmlAttr_attributes {attrs : List QuotedAttribute} {p e : List Char} (hp : '"' ∉ p)
    (he : '"' ∉ e ∨ attrs ≠ []) : htmlAttr (p ++ attributeText attrs ++ e) w = shown w e attrs := by
  have hrest : ∀ attrs : List QuotedAttribute, htmlAttr (attributeText attrs ++ e) w = shown w e attrs := by
    intro attrs
    induction attrs with
    | nil => rfl
    | cons a attrs ih =>
      have hcons := htmlAttr_cons hw List.not_mem_nil a attrs e
      rw [List.nil_append] at hcons
      rw [hcons, ih, shown]
  cases attrs with
  | nil =>
    have hnone : '"' ∉ e := he.resolve_right fun hne => hne rfl
    rw [attributeText, List.flatMap_nil, List.append_nil, htmlAttr_no_quote (by simp [hp, hnone]), shown,
      htmlAttr_no_quote hnone]
  | cons a attrs => rw [htmlAttr_cons hw hp, hrest, shown]

end Word

end OpenfortivpnRs.Auth
