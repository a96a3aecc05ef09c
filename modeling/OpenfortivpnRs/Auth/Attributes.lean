import OpenfortivpnRs.Auth.Scan

/-!
# Attributes

Start tags as names and attributes, and `attr_value` on their text: it finds the value of the attribute,
whatever the whitespace and the quotes (`attrValue_attributes`).
-/

namespace OpenfortivpnRs.Auth

open Text

/-! ### Names and attributes -/

/-- The whitespace of XML. -/
def isSpace (c : Char) : Bool := c == ' ' || c == '\t' || c == '\r' || c == '\n'

abbrev Space : Type := { s : List Char // ∀ c ∈ s, isSpace c = true }

def noSpace : Space := ⟨[], fun _ hc => (List.not_mem_nil hc).elim⟩

def oneSpace : Space := ⟨[' '], List.forall_mem_singleton.mpr rfl⟩

theorem oneSpace_ne : oneSpace.val ≠ [] := List.cons_ne_nil _ _

/-- The characters that stand in no name and no value. -/
def markupChars : List Char := ['<', '>', '&', '"', '\'']

structure IsName (name : List Char) : Prop where
  ne_nil : name ≠ []
  plain : ∀ c ∈ name, c ∉ markupChars
  chars : ∀ c ∈ name, isWhitespace c = false ∧ c ≠ '=' ∧ c ≠ '/'

def isPlain (s : List Char) : Bool := s.all fun c => !markupChars.contains c

/-- `IsName` as a check that runs. -/
def isNameCheck (name : List Char) : Bool :=
  !name.isEmpty && isPlain name && name.all fun c => !isWhitespace c && c != '=' && c != '/'

theorem plain_of_isPlain {s : List Char} (h : isPlain s = true) : ∀ c ∈ s, c ∉ markupChars := by
  intro c hc hmem
  have := List.all_eq_true.mp h c hc
  simp [hmem] at this

theorem isName_of_check {name : List Char} (h : isNameCheck name = true) : IsName name := by
  simp only [isNameCheck, Bool.and_eq_true, Bool.not_eq_true', List.isEmpty_eq_false_iff] at h
  obtain ⟨⟨hne, hplain⟩, hchars⟩ := h
  refine ⟨hne, plain_of_isPlain hplain, fun c hc => ?_⟩
  have := List.all_eq_true.mp hchars c hc
  simp only [Bool.and_eq_true, Bool.not_eq_true', bne_iff_ne] at this
  exact ⟨this.1.1, this.1.2, this.2⟩

/-- An attribute, with the whitespace in front of it and around its equals sign. -/
structure Attribute where
  space : Space
  name : List Char
  beforeEq : Space
  afterEq : Space
  quote : Char
  value : List Char
  space_ne : space.val ≠ []
  isName : IsName name
  quote_eq : quote = '"' ∨ quote = '\''
  plain : ∀ c ∈ value, c ∉ markupChars

namespace Attribute

variable (a : Attribute)

/-- The text behind the whitespace in front. -/
def assignment : List Char :=
  a.name ++ (a.beforeEq.val ++ '=' :: (a.afterEq.val ++
    a.quote :: (a.value ++ [a.quote])))

def chars : List Char := a.space.val ++ a.assignment

end Attribute

/-! ### Scanning attributes -/

theorem isWhitespace_of_isSpace {c : Char} (h : isSpace c = true) : isWhitespace c = true := by
  simp only [isSpace, Bool.or_eq_true, beq_iff_eq] at h
  rcases h with ((rfl | rfl) | rfl) | rfl <;> decide

theorem endsName_of_isSpace {c : Char} (h : isSpace c = true) : endsName c = true := by
  simp only [isSpace, Bool.or_eq_true, beq_iff_eq] at h
  rcases h with ((rfl | rfl) | rfl) | rfl <;> decide

/-- Whitespace in front is trimmed. -/
theorem trimStart_space (space : Space) (s : List Char) : trimStart (space.val ++ s) = trimStart s :=
  List.dropWhile_append_of_pos fun c hc => isWhitespace_of_isSpace (space.property c hc)

theorem trimStart_cons {c : Char} (s : List Char) (h : isWhitespace c = false) : trimStart (c :: s) = c :: s :=
  List.dropWhile_cons_of_neg (by simp [h])

theorem trimStart_name {name : List Char} (s : List Char) (h : IsName name) : trimStart (name ++ s) = name ++ s := by
  obtain ⟨c, name, rfl⟩ := List.exists_cons_of_ne_nil h.ne_nil
  exact trimStart_cons _ (h.chars c List.mem_cons_self).1

theorem isWhitespace_of_ascii {c : Char} (h : isAsciiWhitespace c = true) : isWhitespace c = true := by
  simp only [isAsciiWhitespace, Bool.or_eq_true, beq_iff_eq] at h
  rcases h with (((rfl | rfl) | rfl) | rfl) | rfl <;> decide

/-- No character of a name ends it. -/
theorem IsName.endsName {name : List Char} (h : IsName name) {c : Char} (hc : c ∈ name) : endsName c = false := by
  obtain ⟨hspace, heq, hslash⟩ := h.chars c hc
  have hascii : isAsciiWhitespace c = false := by
    by_contra hascii
    rw [isWhitespace_of_ascii (by simpa using hascii)] at hspace
    cases hspace
  have hgt : c ≠ '>' := by
    rintro rfl
    exact h.plain _ hc (by decide)
  simp [Auth.endsName, hascii, heq, hslash, hgt]

/-- A name ends where whitespace or the equals sign begins. -/
theorem takeWhile_name {name : List Char} (space : Space) (s : List Char) (h : IsName name) :
    (name ++ (space.val ++ '=' :: s)).takeWhile (fun ch => !endsName ch) = name := by
  have hrest : (space.val ++ '=' :: s).takeWhile (fun ch => !endsName ch) = [] := by
    obtain ⟨space, hspace⟩ := space
    cases space with
    | nil => rfl
    | cons c space => exact List.takeWhile_cons_of_neg (by simp [endsName_of_isSpace (hspace c List.mem_cons_self)])
  rw [List.takeWhile_append_of_pos, hrest, List.append_nil]
  intro c hc
  rw [h.endsName hc]
  rfl

section Loop

variable {attr : List Char}

/-- The loop passes an attribute of another name and takes the value of its own. -/
theorem attrLoop_attribute (a : Attribute) (front : Space) (more : List Char) :
    attrLoop attr (front.val ++ (a.assignment ++ more)) =
      if a.name = attr then some (xmlUnescape a.value) else attrLoop attr more := by
  -- what the loop finds, one stop after the other
  have htrim : trimStart (front.val ++ (a.assignment ++ more)) =
      a.name ++ (a.beforeEq.val ++ '=' :: (a.afterEq.val ++ a.quote :: (a.value ++ a.quote :: more))) := by
    have hassign : a.assignment ++ more =
        a.name ++ (a.beforeEq.val ++ '=' :: (a.afterEq.val ++ a.quote :: (a.value ++ a.quote :: more))) := by
      simp [Attribute.assignment]
    rw [trimStart_space, hassign, trimStart_name _ a.isName]
  have htake : (trimStart (front.val ++ (a.assignment ++ more))).takeWhile (fun ch => !endsName ch) = a.name := by
    rw [htrim, takeWhile_name _ _ a.isName]
  have hequals : trimStart ((trimStart (front.val ++ (a.assignment ++ more))).drop a.name.length) =
      '=' :: (a.afterEq.val ++ a.quote :: (a.value ++ a.quote :: more)) := by
    rw [htrim, List.drop_left, trimStart_space, trimStart_cons _ (by decide)]
  have hquote : trimStart (a.afterEq.val ++ a.quote :: (a.value ++ a.quote :: more)) =
      a.quote :: (a.value ++ a.quote :: more) := by
    rw [trimStart_space, trimStart_cons]
    rcases a.quote_eq with h | h <;> rw [h] <;> decide
  have hvalue : splitOnce [a.quote] (a.value ++ a.quote :: more) = some (a.value, more) := by
    refine splitOnce_char more fun hmem => a.plain _ hmem ?_
    rcases a.quote_eq with h | h <;> rw [h] <;> decide
  rw [attrLoop]
  split
  · rename_i hnil
    rw [hnil] at htrim
    exact absurd (List.append_eq_nil_iff.mp htrim.symm).1 a.isName.ne_nil
  split
  · rename_i hslash
    obtain ⟨c, name, hname⟩ := List.exists_cons_of_ne_nil a.isName.ne_nil
    rw [htrim, hname, List.cons_append, List.head?_cons, Option.some.injEq] at hslash
    exact absurd hslash (a.isName.chars c (hname ▸ List.mem_cons_self)).2.2
  dsimp only
  split
  · rename_i hnil
    exact absurd (htake.symm.trans hnil) a.isName.ne_nil
  split
  · rename_i assigned heq
    rw [htake, hequals, List.cons.injEq] at heq
    obtain ⟨-, rfl⟩ := heq
    split
    · rename_i hnil
      rw [hquote] at hnil
      cases hnil
    rename_i quote valueRest heq
    rw [hquote, List.cons.injEq] at heq
    obtain ⟨rfl, rfl⟩ := heq
    split
    · rename_i hbad
      rcases a.quote_eq with h | h
      · exact absurd h hbad.2
      · exact absurd h hbad.1
    split
    · rename_i hnone
      rw [hvalue] at hnone
      cases hnone
    rename_i hsome
    rw [hvalue] at hsome
    cases hsome
    rw [htake]
  · rename_i hother
    rw [htake, hequals] at hother
    exact absurd rfl (hother _)

/-- Behind the last attribute there is whitespace and perhaps a slash. -/
theorem attrLoop_end (trailing : Space) {slash : List Char} (hslash : slash = [] ∨ slash = ['/']) :
    attrLoop attr (trailing.val ++ slash) = none := by
  have htrim : trimStart (trailing.val ++ slash) = slash := by
    rw [trimStart_space]
    rcases hslash with rfl | rfl
    · rfl
    · exact trimStart_cons _ (by decide)
  rw [attrLoop]
  split
  · rfl
  split
  · rfl
  rename_i hhead
  dsimp only
  split
  · rfl
  · rename_i hname
    rw [htrim] at hhead hname
    rcases hslash with rfl | rfl
    · exact absurd rfl hname
    · exact absurd rfl hhead

theorem replace_plain {c : Char} {old new s : List Char} (h : c ∉ s) :
    replace (c :: old) new (List.cons_ne_nil _ _) s = s := by
  have hnone : splitOnce (c :: old) s = none := by
    have hskip := splitOnce_skip old [] h
    rw [List.append_nil] at hskip
    rw [hskip]
    rfl
  rw [replace]
  split
  · rfl
  · rename_i hsome
    rw [hnone] at hsome
    cases hsome

/-- A value without ampersands is itself. -/
theorem xmlUnescape_plain {value : List Char} (h : '&' ∉ value) : xmlUnescape value = value := by
  unfold xmlUnescape
  simp only [replace_plain h]

/-- The value of the first attribute of the name. -/
def valueOf (attr : List Char) (attributes : List Attribute) : Option (List Char) :=
  (attributes.find? fun a => a.name = attr).map Attribute.value

theorem valueOf_cons (a : Attribute) (attributes : List Attribute) :
    valueOf attr (a :: attributes) =
      if a.name = attr then some (xmlUnescape a.value) else valueOf attr attributes := by
  have hplain : '&' ∉ a.value := fun hmem => a.plain _ hmem (by decide)
  rw [xmlUnescape_plain hplain, valueOf, valueOf, List.find?_cons]
  by_cases hname : a.name = attr <;> simp [hname]

theorem attrLoop_attributes (attributes : List Attribute) (trailing : Space) {slash : List Char}
    (hslash : slash = [] ∨ slash = ['/']) :
    attrLoop attr (attributes.flatMap Attribute.chars ++ (trailing.val ++ slash)) = valueOf attr attributes := by
  induction attributes with
  | nil => exact attrLoop_end trailing hslash
  | cons a attributes ih =>
    have hchars : (a :: attributes).flatMap Attribute.chars ++ (trailing.val ++ slash) =
        a.space.val ++ (a.assignment ++ (attributes.flatMap Attribute.chars ++ (trailing.val ++ slash))) := by
      simp [Attribute.chars]
    rw [hchars, attrLoop_attribute, ih, valueOf_cons]

/-- **The value of an attribute of a start tag.** -/
theorem attrValue_attributes {name : List Char} (hname : IsName name) (attributes : List Attribute)
    (trailing : Space) {slash : List Char} (hslash : slash = [] ∨ slash = ['/']) :
    attrValue (name ++ (attributes.flatMap Attribute.chars ++ (trailing.val ++ slash))) attr =
      valueOf attr attributes := by
  have hdrop : ∀ s, (trimStart (name ++ s)).dropWhile (fun ch => !isWhitespace ch) =
      s.dropWhile fun ch => !isWhitespace ch := by
    intro s
    rw [trimStart_name _ hname]
    refine List.dropWhile_append_of_pos fun c hc => ?_
    rw [(hname.chars c hc).1]
    rfl
  have hstop : ∀ (c : Char) (space : List Char) (s : List Char), isSpace c = true →
      ((c :: space) ++ s).dropWhile (fun ch => !isWhitespace ch) = c :: (space ++ s) := by
    intro c space s hc
    exact List.dropWhile_cons_of_neg (by simp [isWhitespace_of_isSpace hc])
  unfold attrValue
  rw [hdrop]
  cases attributes with
  | nil =>
    rw [List.flatMap_nil, List.nil_append]
    obtain ⟨trailing, htrailing⟩ := trailing
    cases trailing with
    | nil => rcases hslash with rfl | rfl <;> rfl
    | cons c space =>
      rw [hstop c space slash (htrailing c List.mem_cons_self)]
      exact attrLoop_end ⟨space, fun d hd => htrailing d (List.mem_cons_of_mem _ hd)⟩ hslash
  | cons a attributes =>
    obtain ⟨c, space, hspace⟩ := List.exists_cons_of_ne_nil a.space_ne
    have hc := a.space.property c (hspace ▸ List.mem_cons_self)
    have hchars : (a :: attributes).flatMap Attribute.chars ++ (trailing.val ++ slash) =
        (c :: space) ++ (a.assignment ++ (attributes.flatMap Attribute.chars ++ (trailing.val ++ slash))) := by
      simp [Attribute.chars, hspace]
    have hrest := @attrLoop_attribute attr a
      ⟨space, fun d hd => a.space.property d (hspace ▸ List.mem_cons_of_mem _ hd)⟩
      (attributes.flatMap Attribute.chars ++ (trailing.val ++ slash))
    rw [hchars, hstop c space _ hc, valueOf_cons, ← attrLoop_attributes attributes trailing hslash]
    exact hrest

end Loop

end OpenfortivpnRs.Auth
