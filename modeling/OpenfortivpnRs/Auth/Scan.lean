import OpenfortivpnRs.Auth.Portal
import OpenfortivpnRs.Text.Markup

/-!
# The scanners on tags

`start_tags`, `element_bodies` and `xml_values` on a text that is a list of tags and of what stands
between them: each passes what it does not look for, a tag at a time.
-/

namespace OpenfortivpnRs.Auth

open Text

/-- The inside of a tag has the name `tag`. -/
def Named (tag inside : List Char) : Prop := tag <+: inside ∧ nameBoundary (inside.drop tag.length) = true

instance (tag inside : List Char) : Decidable (Named tag inside) :=
  inferInstanceAs (Decidable (tag <+: inside ∧ nameBoundary (inside.drop tag.length) = true))

/-- An end tag, a comment, a declaration. -/
def NoStart (inside : List Char) : Prop :=
  inside.head? = some '/' ∨ inside.head? = some '!' ∨ inside.head? = some '?'

instance : DecidablePred NoStart := fun _ => inferInstanceAs (Decidable (_ ∨ _ ∨ _))

/-- What `start_tags` makes of a token. -/
def startOf (tag : List Char) : Token → Option (List Char)
  | .text _ => none
  | .tag inside => if NoStart inside then none else if Named tag inside then some inside else none

section Tag

variable {tag inside : List Char} (rest : List Char)

theorem nameBoundary_append (s : List Char) : nameBoundary (s ++ '>' :: rest) = nameBoundary s := by
  cases s <;> rfl

theorem noStart_append : NoStart (inside ++ '>' :: rest) ↔ NoStart inside := by
  unfold NoStart
  cases inside with
  | nil => simp
  | cons c inside => rfl

/-- The name of a tag is looked for in its inside. -/
theorem named_append (htag : '>' ∉ tag) :
    Named tag (inside ++ '>' :: rest) ↔ Named tag inside := by
  unfold Named
  constructor
  · rintro ⟨⟨t, ht⟩, hb⟩
    have hpre : tag <+: inside := by
      rcases List.append_eq_append_iff.mp ht with ⟨more, rfl, -⟩ | ⟨more, rfl, hmore⟩
      · exact List.prefix_append _ _
      · cases more with
        | nil => rw [List.append_nil]
        | cons c more =>
          -- the name would hold the bracket that ends the tag
          rw [List.cons_append, List.cons.injEq] at hmore
          exact absurd (hmore.1 ▸ List.mem_append_right _ List.mem_cons_self) htag
    obtain ⟨more, rfl⟩ := hpre
    rw [List.append_assoc, List.drop_left, nameBoundary_append] at hb
    exact ⟨List.prefix_append _ _, by rwa [List.drop_left]⟩
  · rintro ⟨⟨more, rfl⟩, hb⟩
    rw [List.drop_left] at hb
    rw [List.append_assoc, List.drop_left, nameBoundary_append]
    exact ⟨List.prefix_append _ _, hb⟩

end Tag

/-! ### Start tags -/

section Start

variable {tag : List Char}

theorem startTags_none {xml : List Char} (h : splitOnce ['<'] xml = none) : startTags xml tag = [] := by
  rw [startTags]
  split
  · rfl
  · rename_i hsome
    rw [h] at hsome
    cases hsome

/-- Only what stands behind the first bracket matters. -/
theorem startTags_eq {xml front afterLt : List Char} (h : splitOnce ['<'] xml = some (front, afterLt)) :
    startTags xml tag =
      if ¬ NoStart afterLt ∧ Named tag afterLt then
        (splitOnce ['>'] (afterLt.drop tag.length)).elim [] fun p => (tag ++ p.1) :: startTags p.2 tag
      else startTags afterLt tag := by
  rw [startTags]
  split
  · rename_i hnone
    rw [h] at hnone
    cases hnone
  rename_i hsome
  rw [h] at hsome
  cases hsome
  by_cases hno : NoStart afterLt
  · exact (if_pos hno).trans (if_neg fun hboth => hboth.1 hno).symm
  refine (if_neg hno).trans ?_
  by_cases hnamed : Named tag afterLt
  · refine (if_pos hnamed).trans (Eq.trans ?_ (if_pos ⟨hno, hnamed⟩).symm)
    split <;> rename_i hend <;> simp only [hend, Option.elim_none, Option.elim_some]
  · exact (if_neg hnamed).trans (if_neg fun hboth => hnamed hboth.2).symm

/-- Text without tags is passed. -/
theorem startTags_skip {s : List Char} (rest : List Char) (h : '<' ∉ s) :
    startTags (s ++ rest) tag = startTags rest tag := by
  have hskip := splitOnce_skip [] rest h
  rcases hrest : splitOnce ['<'] rest with _ | ⟨front, afterLt⟩
  · rw [hrest] at hskip
    rw [startTags_none hrest, startTags_none hskip]
  · rw [hrest] at hskip
    rw [startTags_eq hrest, startTags_eq hskip]

/-- A tag is taken or passed. -/
theorem startTags_tag {inside : List Char} (rest : List Char) (htag : '>' ∉ tag) (hlt : '<' ∉ inside)
    (hgt : '>' ∉ inside) :
    startTags ('<' :: (inside ++ '>' :: rest)) tag =
      (startOf tag (.tag inside)).toList ++ startTags rest tag := by
  have hafter : startTags (inside ++ '>' :: rest) tag = startTags rest tag := by
    have hskip := @startTags_skip tag _ rest (no_bracket_in_rest hlt)
    rwa [List.append_assoc, List.singleton_append] at hskip
  rw [startTags_eq (splitOnce_bracket _), startOf]
  simp only [noStart_append, named_append rest htag, hafter]
  by_cases hno : NoStart inside
  · rw [if_pos hno, if_neg fun hboth => hboth.1 hno]
    rfl
  rw [if_neg hno]
  by_cases hnamed : Named tag inside
  · rw [if_pos ⟨hno, hnamed⟩, if_pos hnamed]
    obtain ⟨more, rfl⟩ := hnamed.1
    have hmore : '>' ∉ more := fun hm => hgt (List.mem_append_right _ hm)
    rw [List.append_assoc, List.drop_left, splitOnce_char rest hmore]
    rfl
  · rw [if_neg hnamed, if_neg fun hboth => hnamed hboth.2]
    rfl

/-- **The start tags of a name.** -/
theorem startTags_render {ts : List Token} (htag : '>' ∉ tag) (hfits : ∀ t ∈ ts, t.Fits) :
    startTags (render ts) tag = ts.filterMap (startOf tag) := by
  induction ts with
  | nil => exact startTags_none rfl
  | cons t ts ih =>
    have hrest := ih fun t ht => hfits t (List.mem_cons_of_mem _ ht)
    have hfit := hfits t List.mem_cons_self
    cases t with
    | text s => rw [render_text, startTags_skip _ hfit, hrest]; rfl
    | tag inside =>
      rw [render_tag, startTags_tag _ htag hfit.1 hfit.2, hrest, List.filterMap_cons]
      cases startOf tag (.tag inside) <;> rfl

end Start

/-! ### Elements -/

section Bodies

variable {tag : List Char}

/-- The tag with this behind its name is self-closing. -/
def SelfClosing (tag inside : List Char) : Prop := ['/', '>'] <:+ trimEnd (['<'] ++ tag ++ inside ++ ['>'])

instance (tag inside : List Char) : Decidable (SelfClosing tag inside) :=
  inferInstanceAs (Decidable (['/', '>'] <:+ trimEnd (['<'] ++ tag ++ inside ++ ['>'])))

theorem elementBodies_none {xml : List Char} (h : splitOnce ['<'] xml = none) : elementBodies xml tag = [] := by
  rw [elementBodies]
  split
  · rfl
  · rename_i hsome
    rw [h] at hsome
    cases hsome

/-- Only what stands behind the first bracket matters. -/
theorem elementBodies_eq {xml front afterLt : List Char} (h : splitOnce ['<'] xml = some (front, afterLt)) :
    elementBodies xml tag =
      if Named tag afterLt then
        (splitOnce ['>'] (afterLt.drop tag.length)).elim [] fun p =>
          if SelfClosing tag p.1 then elementBodies p.2 tag
          else (splitOnce ('<' :: ('/' :: tag ++ ['>'])) p.2).elim [] fun q => q.1 :: elementBodies q.2 tag
      else elementBodies afterLt tag := by
  rw [elementBodies]
  split
  · rename_i hnone
    rw [h] at hnone
    cases hnone
  rename_i hsome
  rw [h] at hsome
  cases hsome
  by_cases hname : tag <+: afterLt
  · refine (if_neg (not_not_intro hname)).trans ?_
    by_cases hbound : nameBoundary (afterLt.drop tag.length) = true
    · refine (if_neg (not_not_intro hbound)).trans ?_
      refine Eq.trans ?_ (if_pos (show Named tag afterLt from ⟨hname, hbound⟩)).symm
      split
      · rename_i hend
        simp only [hend, Option.elim_none]
      · rename_i inside body hend
        simp only [hend, Option.elim_some]
        by_cases hself : SelfClosing tag inside
        · exact (if_pos hself).trans (if_pos hself).symm
        · refine (if_neg hself).trans (Eq.trans ?_ (if_neg hself).symm)
          have hclose : '<' :: ('/' :: tag ++ ['>']) = ['<', '/'] ++ tag ++ ['>'] := rfl
          rw [hclose]
          split <;> rename_i hfind <;> simp only [hfind, Option.elim_none, Option.elim_some]
    · rw [if_neg (show ¬ Named tag afterLt from fun hnamed => hbound hnamed.2)]
      exact if_pos hbound
  · rw [if_neg (show ¬ Named tag afterLt from fun hnamed => hname hnamed.1)]
    exact if_pos hname

theorem elementBodies_skip {s : List Char} (rest : List Char) (h : '<' ∉ s) :
    elementBodies (s ++ rest) tag = elementBodies rest tag := by
  have hskip := splitOnce_skip [] rest h
  rcases hrest : splitOnce ['<'] rest with _ | ⟨front, afterLt⟩
  · rw [hrest] at hskip
    rw [elementBodies_none hrest, elementBodies_none hskip]
  · rw [hrest] at hskip
    rw [elementBodies_eq hrest, elementBodies_eq hskip]

theorem trimEnd_append_singleton {s : List Char} {c : Char} (h : isWhitespace c = false) :
    trimEnd (s ++ [c]) = s ++ [c] := by
  unfold trimEnd
  rw [List.reverse_append, List.reverse_singleton, List.singleton_append, List.dropWhile_cons_of_neg (by simp [h]),
    List.reverse_cons, List.reverse_reverse]

/-- A tag is self-closing when a slash stands before its bracket. -/
theorem selfClosing_iff {more : List Char} : SelfClosing tag more ↔ (tag ++ more).getLast? = some '/' := by
  unfold SelfClosing
  have htrim : trimEnd (['<'] ++ tag ++ more ++ ['>']) = ['<'] ++ tag ++ more ++ ['>'] :=
    trimEnd_append_singleton (by decide)
  have hlast : ('<' :: (tag ++ more)).getLast? = some '/' ↔ (tag ++ more).getLast? = some '/' := by
    rw [List.getLast?_cons]
    cases (tag ++ more).getLast? <;> simp
  rw [htrim, ← hlast, List.suffix_concat_iff]
  constructor
  · rintro (hnil | ⟨t, ht, front, hfront⟩)
    · cases hnil
    · have hslash : ['/'] = t := List.append_cancel_right (show ['/'] ++ ['>'] = t ++ ['>'] from ht)
      subst hslash
      show (['<'] ++ tag ++ more).getLast? = _
      rw [← hfront, List.getLast?_concat]
  · intro hslash
    refine .inr ⟨['/'], rfl, ?_⟩
    obtain ⟨front, hfront⟩ := List.getLast?_eq_some_iff.mp hslash
    exact ⟨front, hfront.symm⟩

/-- The tag has the name and is not self-closing. -/
def Opens (tag : List Char) : Token → Prop
  | .text _ => False
  | .tag inside => Named tag inside ∧ inside.getLast? ≠ some '/'

section Tag

variable {inside : List Char} (rest : List Char) (htag : '>' ∉ tag) (hlt : '<' ∉ inside) (hgt : '>' ∉ inside)

include htag hlt hgt

theorem elementBodies_tag (hpass : ¬ Opens tag (.tag inside)) :
    elementBodies ('<' :: (inside ++ '>' :: rest)) tag = elementBodies rest tag := by
  rw [elementBodies_eq (splitOnce_bracket _)]
  simp only [named_append rest htag]
  by_cases hnamed : Named tag inside
  · have hself : inside.getLast? = some '/' := by
      by_contra hlast
      exact hpass ⟨hnamed, hlast⟩
    obtain ⟨more, rfl⟩ := hnamed.1
    have hmore : '>' ∉ more := fun hm => hgt (List.mem_append_right _ hm)
    rw [if_pos hnamed, List.append_assoc, List.drop_left, splitOnce_char rest hmore]
    exact if_pos (selfClosing_iff.mpr hself)
  · have hskip := @elementBodies_skip tag _ rest (no_bracket_in_rest hlt)
    rw [List.append_assoc, List.singleton_append] at hskip
    rw [if_neg hnamed, hskip]

theorem elementBodies_open (hopen : Opens tag (.tag inside)) :
    elementBodies ('<' :: (inside ++ '>' :: rest)) tag =
      (splitOnce ('<' :: ('/' :: tag ++ ['>'])) rest).elim [] fun q => q.1 :: elementBodies q.2 tag := by
  obtain ⟨hnamed, hlast⟩ := hopen
  rw [elementBodies_eq (splitOnce_bracket _)]
  simp only [named_append rest htag]
  obtain ⟨more, rfl⟩ := hnamed.1
  have hmore : '>' ∉ more := fun hm => hgt (List.mem_append_right _ hm)
  rw [if_pos hnamed, List.append_assoc, List.drop_left, splitOnce_char rest hmore]
  exact if_neg (mt selfClosing_iff.mp hlast)

end Tag

/-- **Tokens that open no element of the name are passed.** -/
theorem elementBodies_pass {ts : List Token} (htag : '>' ∉ tag) (hfits : ∀ t ∈ ts, t.Fits)
    (hpass : ∀ t ∈ ts, ¬ Opens tag t) (rest : List Char) :
    elementBodies (render ts ++ rest) tag = elementBodies rest tag := by
  induction ts with
  | nil => rfl
  | cons t ts ih =>
    have hrest := ih (fun t ht => hfits t (List.mem_cons_of_mem _ ht))
      fun t ht => hpass t (List.mem_cons_of_mem _ ht)
    have hfit := hfits t List.mem_cons_self
    cases t with
    | text s => rw [render_text, List.append_assoc, elementBodies_skip _ hfit, hrest]
    | tag inside =>
      rw [render_tag, List.cons_append, List.append_assoc, List.cons_append,
        elementBodies_tag _ htag hfit.1 hfit.2 (hpass _ List.mem_cons_self), hrest]

/-- **What stands between a start tag and its end tag.** -/
theorem elementBodies_element {inside : List Char} {content : List Token} (htag : '>' ∉ tag)
    (hin : (Token.tag inside).Fits) (hopen : Opens tag (.tag inside)) (hfits : ∀ t ∈ content, t.Fits)
    (hend : .tag ('/' :: tag) ∉ content) (rest : List Token) :
    elementBodies (render (.tag inside :: (content ++ .tag ('/' :: tag) :: rest))) tag =
      render content :: elementBodies (render rest) tag := by
  have hslash : '>' ∉ '/' :: tag := by
    rw [List.mem_cons, not_or]
    exact ⟨by decide, htag⟩
  rw [render_tag, elementBodies_open _ htag hin.1 hin.2 hopen, splitOnce_tag hslash hfits hend]
  rfl

end Bodies

/-! ### Values -/

/-- No value is found where the bare start tag is missing. -/
theorem xmlValues_render {tag : List Char} {ts : List Token} (htag : '>' ∉ tag) (hfits : ∀ t ∈ ts, t.Fits)
    (h : .tag tag ∉ ts) : xmlValues (render ts) tag = [] := by
  rw [xmlValues]
  split
  · rfl
  · rename_i hsome
    rw [show ['<'] ++ tag ++ ['>'] = '<' :: (tag ++ ['>']) from rfl, splitOnce_no_tag htag hfits h] at hsome
    cases hsome

end OpenfortivpnRs.Auth
