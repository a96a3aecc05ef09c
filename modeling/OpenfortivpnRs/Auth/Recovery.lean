import OpenfortivpnRs.Auth.Document

/-!
# What is read from a document

The scanners on the marks of a document, and from them that `parse_vpn_config_xml` recovers the values of
a document (`parse_document`).
-/

namespace OpenfortivpnRs.Auth

open Text

/-! ### Brackets -/

section Brackets

variable {c : Char} (hc : c = '<' ∨ c = '>')

include hc

theorem bracket_not_mem_space (s : Space) : c ∉ s.val := by
  intro hmem
  have := s.property c hmem
  rcases hc with rfl | rfl <;> cases this

theorem bracket_not_mem_plain {s : List Char} (h : ∀ c ∈ s, c ∉ markupChars) : c ∉ s := by
  intro hmem
  refine h c hmem ?_
  rcases hc with rfl | rfl <;> decide

theorem bracket_not_mem_attribute (a : Attribute) : c ∉ a.chars := by
  have hspace := bracket_not_mem_space hc
  have hname := bracket_not_mem_plain hc a.isName.plain
  have hvalue := bracket_not_mem_plain hc a.plain
  have hquote : c ≠ a.quote := by
    rcases hc with rfl | rfl <;> rcases a.quote_eq with h | h <;> rw [h] <;> decide
  have heq : c ≠ '=' := by
    rcases hc with rfl | rfl <;> decide
  simp [Attribute.chars, Attribute.assignment, hspace, hname, hvalue, hquote, heq]

theorem bracket_not_mem_inside (tag : Tag) (closed : Bool) : c ∉ tag.inside closed := by
  have hname := bracket_not_mem_plain hc tag.isName.plain
  have hspace := bracket_not_mem_space hc tag.trailing
  have hslash : c ∉ (if closed then ['/'] else []) := by
    cases closed with
    | false => exact List.not_mem_nil
    | true => rcases hc with rfl | rfl <;> decide
  simp only [Tag.inside, Tag.behind, List.mem_append, List.mem_flatMap, not_or, not_exists, not_and]
  exact ⟨hname, fun a _ => bracket_not_mem_attribute hc a, hspace, hslash⟩

end Brackets

theorem Mark.fits (m : Mark) : m.token.Fits := by
  cases m with
  | space s => exact bracket_not_mem_space (.inl rfl) s
  | start tag closed => exact ⟨bracket_not_mem_inside (.inl rfl) tag closed, bracket_not_mem_inside (.inr rfl) tag closed⟩
  | stop tag space =>
    have hslash : ∀ c : Char, c = '<' ∨ c = '>' → c ∉ '/' :: (tag.name ++ space.val) := by
      intro c hc
      rw [List.mem_cons, List.mem_append, not_or, not_or]
      refine ⟨?_, bracket_not_mem_plain hc tag.isName.plain, bracket_not_mem_space hc space⟩
      rcases hc with rfl | rfl <;> decide
    exact ⟨hslash _ (.inl rfl), hslash _ (.inr rfl)⟩
  | declaration s plain =>
    refine ⟨?_, ?_⟩ <;> rw [List.mem_cons, not_or]
    · exact ⟨by decide, plain.1⟩
    · exact ⟨by decide, plain.2⟩

theorem fits_map (ms : List Mark) : ∀ t ∈ ms.map Mark.token, t.Fits := by
  intro t ht
  obtain ⟨m, -, rfl⟩ := List.mem_map.mp ht
  exact m.fits

/-! ### Names of tags -/

theorem IsName.no_bracket {name : List Char} (h : IsName name) : '>' ∉ name :=
  bracket_not_mem_plain (.inr rfl) h.plain

theorem endsName_of_boundary {c : Char} {s : List Char} (h : nameBoundary (c :: s) = true) :
    endsName c = true := by
  simp only [nameBoundary, List.head?_cons, Bool.or_eq_true] at h
  simp only [endsName, Bool.or_eq_true]
  tauto

/-- A tag has the name that stands in front of the first boundary. -/
theorem named_iff {t name more : List Char} (ht : IsName t) (hname : IsName name)
    (hmore : nameBoundary more = true) : Named t (name ++ more) ↔ name = t := by
  constructor
  · rintro ⟨⟨rest, hrest⟩, hb⟩
    rcases List.append_eq_append_iff.mp hrest with ⟨s, rfl, -⟩ | ⟨s, rfl, rfl⟩
    · cases s with
      | nil => rw [List.append_nil]
      | cons c s =>
        -- the name goes on behind `t`
        rw [List.append_assoc, List.drop_left] at hb
        have hends := hname.endsName (c := c) (by simp)
        rw [endsName_of_boundary hb] at hends
        cases hends
    · cases s with
      | nil => rw [List.append_nil]
      | cons c s =>
        -- `t` goes on behind the name
        have hends := ht.endsName (c := c) (by simp)
        rw [endsName_of_boundary hmore] at hends
        cases hends
  · rintro rfl
    exact ⟨List.prefix_append _ _, by rwa [List.drop_left]⟩

theorem boundary_of_isSpace {c : Char} (s : List Char) (h : isSpace c = true) : nameBoundary (c :: s) = true := by
  simp only [isSpace, Bool.or_eq_true, beq_iff_eq] at h
  rcases h with ((rfl | rfl) | rfl) | rfl <;> rfl

theorem Tag.boundary_behind (tag : Tag) (closed : Bool) : nameBoundary (tag.behind closed) = true := by
  have hspace : ∀ (space : Space) (s : List Char), space.val ≠ [] → nameBoundary (space.val ++ s) = true := by
    rintro ⟨space, hspace⟩ s hne
    obtain ⟨c, space, rfl⟩ := List.exists_cons_of_ne_nil hne
    exact boundary_of_isSpace _ (hspace c List.mem_cons_self)
  unfold behind
  cases tag.attributes with
  | cons a attributes =>
    rw [List.flatMap_cons, List.append_assoc, Attribute.chars, List.append_assoc]
    exact hspace _ _ a.space_ne
  | nil =>
    by_cases htrailing : tag.trailing.val = []
    · rw [htrailing]
      cases closed <;> rfl
    · exact hspace _ _ htrailing

/-- **The name of a start tag.** -/
theorem Tag.named_inside {t : List Char} (ht : IsName t) (tag : Tag) (closed : Bool) :
    Named t (tag.inside closed) ↔ tag.name = t :=
  named_iff ht tag.isName (tag.boundary_behind closed)

theorem IsName.head_ne_slash {name : List Char} (h : IsName name) (more : List Char) :
    (name ++ more).head? ≠ some '/' := by
  obtain ⟨c, name, rfl⟩ := List.exists_cons_of_ne_nil h.ne_nil
  intro hhead
  exact (h.chars c List.mem_cons_self).2.2 (Option.some.inj hhead)

/-! ### Start tags -/

section Start

variable {α β : Type} {t : List Char}

/-- What a mark gives that is a start tag of the name. -/
def Mark.onStart (t : List Char) (f : Tag → Option α) : Mark → Option α
  | .start tag _ => if tag.name = t then f tag else none
  | _ => none

/-- **Start tags on marks.**  The start tags of a name that is no declaration. -/
theorem startTags_marks (ht : IsName t) (hplain : ¬ NoStart t) {g : List Char → Option α} {f : Tag → Option α}
    (hg : ∀ tag closed, g (tag.inside closed) = f tag) (ms : List Mark) :
    (startTags (markText ms) t).filterMap g = ms.filterMap (Mark.onStart t f) := by
  unfold markText
  rw [startTags_render ht.no_bracket (fits_map ms), List.filterMap_map, List.filterMap_filterMap]
  congr 1
  funext m
  simp only [Function.comp_apply]
  cases m with
  | space s => rfl
  | start tag closed =>
    rw [Mark.token, startOf, Mark.onStart]
    by_cases hname : tag.name = t
    · subst hname
      have hno : ¬ NoStart (tag.inside closed) := by
        obtain ⟨c, name, hcons⟩ := List.exists_cons_of_ne_nil tag.isName.ne_nil
        rw [Tag.inside, hcons]
        rw [hcons] at hplain
        exact hplain
      rw [if_neg hno, if_pos ((tag.named_inside ht closed).mpr rfl), if_pos rfl]
      exact hg tag closed
    · rw [if_neg (mt (tag.named_inside ht closed).mp hname), if_neg hname, ite_self]
      rfl
  | stop tag space =>
    rw [Mark.token, startOf, if_pos (.inl rfl)]
    rfl
  | declaration s plain =>
    rw [Mark.token, startOf, if_pos (.inr (.inr rfl))]
    rfl

theorem attrValue_inside (tag : Tag) (closed : Bool) (attr : String) :
    attrValue (tag.inside closed) attr.toList = tag.value attr := by
  refine attrValue_attributes tag.isName tag.attributes tag.trailing ?_
  cases closed
  · exact .inl rfl
  · exact .inr rfl

theorem filterMap_inner (f : Tag → Option β) (childMarks : α → List Mark) (c : Content α) :
    (Element.inner childMarks c).filterMap (Mark.onStart t f) =
      (c.children.map Prod.snd).flatMap fun child => (childMarks child).filterMap (Mark.onStart t f) := by
  unfold Element.inner
  rw [List.filterMap_append, List.filterMap_flatMap, List.flatMap_map]
  exact List.append_nil _

/-- What the start tag of an element gives, and what its children give. -/
theorem filterMap_marks (f : Tag → Option β) (childMarks : α → List Mark) (e : Element α) :
    (e.marks childMarks).filterMap (Mark.onStart t f) =
      (if e.tag.name = t then f e.tag else none).toList ++
        e.children.flatMap fun child => (childMarks child).filterMap (Mark.onStart t f) := by
  have hstart : ∀ (closed : Bool) (ms : List Mark),
      (Mark.start e.tag closed :: ms).filterMap (Mark.onStart t f) =
        (if e.tag.name = t then f e.tag else none).toList ++ ms.filterMap (Mark.onStart t f) := by
    intro closed ms
    rw [List.filterMap_cons, Mark.onStart]
    cases (if e.tag.name = t then f e.tag else none) <;> rfl
  unfold Element.marks Element.children
  cases e.content with
  | none => exact hstart true []
  | some c =>
    dsimp only
    rw [hstart, List.filterMap_append, filterMap_inner]
    congr 1
    exact List.append_nil _

theorem filterMap_leafMarks (f : Tag → Option β) (e : Element Empty) :
    (leafMarks e).filterMap (Mark.onStart t f) = (if e.tag.name = t then f e.tag else none).toList := by
  have hchildren : e.children = [] := List.eq_nil_of_subset_nil fun child => child.elim
  rw [leafMarks, filterMap_marks, hchildren, List.flatMap_nil, List.append_nil]

end Start

section Document

variable {β : Type} (doc : Document)

/-- The start tags of a name other than the root's are in the root. -/
theorem filterMap_document {t : List Char} (f : Tag → Option β) (hroot : doc.root.tag.name ≠ t) :
    doc.marks.filterMap (Mark.onStart t f) =
      doc.root.children.flatMap fun item => item.marks.filterMap (Mark.onStart t f) := by
  have hfront : ((doc.declaration.map fun s => Mark.declaration s.val s.property).toList).filterMap
      (Mark.onStart t f) = [] := by
    cases doc.declaration <;> rfl
  unfold Document.marks
  rw [List.filterMap_append, hfront, List.nil_append, List.filterMap_cons_none rfl, List.filterMap_append,
    filterMap_marks, if_neg hroot]
  exact List.append_nil _

/-- The start tag of an item, but for those of the addresses in it. -/
theorem filterMap_item {t : List Char} (f : Tag → Option β) (ht : "addr".toList ≠ t) (item : Item) :
    item.marks.filterMap (Mark.onStart t f) = (if item.tag.name = t then f item.tag else none).toList := by
  cases item with
  | assignedAddr e => exact filterMap_leafMarks f e.val
  | dns e => exact filterMap_leafMarks f e.val
  | splitTunnelInfo e =>
    have haddr : ∀ addr : Addr, addr.val.tag.name ≠ t := by
      intro addr
      rwa [addr.property.1]
    have hchildren : (e.val.children.flatMap fun addr => (leafMarks addr.val).filterMap (Mark.onStart t f)) = [] := by
      refine List.flatMap_eq_nil_iff.mpr fun addr _ => ?_
      rw [filterMap_leafMarks, if_neg (haddr addr)]
      rfl
    have hmarks := filterMap_marks (t := t) f (fun addr : Addr => leafMarks addr.val) e.val
    rw [hchildren, List.append_nil] at hmarks
    exact hmarks

theorem filterMap_children {t : List Char} (f : Tag → Option β) (ht : "addr".toList ≠ t)
    (hroot : doc.root.tag.name ≠ t) :
    doc.marks.filterMap (Mark.onStart t f) =
      doc.root.children.filterMap fun item => if item.tag.name = t then f item.tag else none := by
  rw [filterMap_document doc f hroot, List.filterMap_eq_flatMap_toList]
  exact List.flatMap_congr fun item _ => filterMap_item f ht item

theorem gateway_eq (item : Item) :
    (if item.tag.name = "assigned-addr".toList then item.tag.value "ipv4" else none) = item.gateway := by
  cases item with
  | assignedAddr e => exact if_pos e.property.1
  | dns e => exact if_neg (by rw [Item.tag, e.property.1]; decide)
  | splitTunnelInfo e => exact if_neg (by rw [Item.tag, e.property]; decide)

/-- The start tag of a dns element. -/
def Item.dnsTag : Item → Option Tag
  | .dns e => some e.val.tag
  | _ => none

theorem dnsTag_eq (f : Tag → Option β) (item : Item) :
    (if item.tag.name = "dns".toList then f item.tag else none) = item.dnsTag.bind f := by
  cases item with
  | assignedAddr e => exact if_neg (by rw [Item.tag, e.property.1]; decide)
  | dns e => exact if_pos e.property.1
  | splitTunnelInfo e => exact if_neg (by rw [Item.tag, e.property]; decide)

theorem tagAttrValues_document {name : String} (attr : String) (hname : IsName name.toList)
    (hplain : ¬ NoStart name.toList) (haddr : "addr".toList ≠ name.toList)
    (hroot : doc.root.tag.name ≠ name.toList) :
    tagAttrValues doc.text name.toList attr.toList =
      doc.root.children.filterMap fun item => if item.tag.name = name.toList then item.tag.value attr else none := by
  rw [tagAttrValues, Document.text, startTags_marks hname hplain (fun tag closed => attrValue_inside tag closed attr),
    filterMap_children doc _ haddr hroot]

end Document

/-! ### The marks of an element -/

/-- An element with content, in front of more. -/
theorem marks_content {α : Type} (childMarks : α → List Mark) {e : Element α} {c : Content α} (h : e.content = some c)
    (more : List Mark) :
    e.marks childMarks ++ more =
      .start e.tag false :: (Element.inner childMarks c ++ .stop e.tag c.endSpace :: more) := by
  unfold Element.marks
  rw [h]
  simp only [List.cons_append, List.append_assoc, List.nil_append]

theorem mem_inner {α : Type} {childMarks : α → List Mark} {c : Content α} {m : Mark}
    (h : m ∈ Element.inner childMarks c) :
    (∃ child ∈ c.children.map Prod.snd, m ∈ childMarks child) ∨ ∃ space, m = .space space := by
  rcases List.mem_append.mp h with h | h
  · obtain ⟨⟨space, child⟩, hmem, h⟩ := List.mem_flatMap.mp h
    rcases List.mem_cons.mp h with rfl | h
    · exact .inr ⟨_, rfl⟩
    · exact .inl ⟨child, List.mem_map.mpr ⟨_, hmem, rfl⟩, h⟩
  · exact .inr ⟨_, List.mem_singleton.mp h⟩

theorem mem_marks {α : Type} {childMarks : α → List Mark} {e : Element α} {m : Mark}
    (h : m ∈ e.marks childMarks) :
    m = .start e.tag e.content.isNone ∨ (∃ child ∈ e.children, m ∈ childMarks child) ∨
      (∃ space, m = .space space) ∨ ∃ space, m = .stop e.tag space := by
  unfold Element.marks at h
  unfold Element.children
  rcases hc : e.content with _ | c <;> rw [hc] at h
  · exact .inl (List.mem_singleton.mp h)
  rcases List.mem_cons.mp h with rfl | h
  · exact .inl rfl
  rcases List.mem_append.mp h with h | h
  · exact .inr ((mem_inner h).imp_right .inl)
  · exact .inr (.inr (.inr ⟨_, List.mem_singleton.mp h⟩))

/-! ### Bare start tags -/

/-- A tag with the value of an attribute has attributes. -/
theorem attributes_of_value {tag : Tag} {attr : String} (h : (tag.value attr).isSome) : tag.attributes ≠ [] := by
  intro hnil
  rw [Tag.value, hnil] at h
  cases h

theorem start_mem_leaf {e : Element Empty} {tag : Tag} {closed : Bool} (h : .start tag closed ∈ leafMarks e) :
    tag = e.tag := by
  rcases mem_marks h with h | ⟨child, -, -⟩ | ⟨space, h⟩ | ⟨space, h⟩
  · cases h
    rfl
  · exact child.elim
  · cases h
  · cases h

/-- Only a section has a start tag without attributes. -/
theorem start_mem_item {item : Item} {tag : Tag} {closed : Bool} (h : .start tag closed ∈ item.marks) :
    tag.attributes ≠ [] ∨ tag.name = "split-tunnel-info".toList := by
  cases item with
  | assignedAddr e => exact .inl (start_mem_leaf h ▸ attributes_of_value e.property.2)
  | dns e =>
    rw [start_mem_leaf h]
    rcases e.property.2 with hip | hdomain
    · exact .inl (attributes_of_value hip)
    · exact .inl (attributes_of_value hdomain)
  | splitTunnelInfo e =>
    rcases mem_marks h with h | ⟨addr, -, h⟩ | ⟨space, h⟩ | ⟨space, h⟩
    · cases h
      exact .inr e.property
    · exact .inl (start_mem_leaf h ▸ attributes_of_value addr.property.2.1)
    · cases h
    · cases h

/-- A start tag that is a bare name has this name and no attributes. -/
theorem Tag.inside_eq {t : List Char} (ht : IsName t) {tag : Tag} {closed : Bool} (h : tag.inside closed = t) :
    tag.name = t ∧ tag.attributes = [] := by
  have hname : tag.name = t := by
    refine (tag.named_inside ht closed).mp ?_
    rw [h]
    exact ⟨List.prefix_rfl, by rw [List.drop_length]; rfl⟩
  refine ⟨hname, ?_⟩
  rcases hattributes : tag.attributes with _ | ⟨a, attributes⟩
  · rfl
  · obtain ⟨c, space, hspace⟩ := List.exists_cons_of_ne_nil a.space_ne
    have hmem : c ∈ tag.inside closed := by
      simp [Tag.inside, Tag.behind, hattributes, Attribute.chars, hspace]
    have hwhite := isWhitespace_of_isSpace (a.space.property c (hspace ▸ List.mem_cons_self))
    rw [(ht.chars c (h ▸ hmem)).1] at hwhite
    cases hwhite

/-- No value is read where the root's start tag is not bare. -/
theorem xmlValues_document (doc : Document) {name : String} (hname : IsName name.toList)
    (hplain : ¬ NoStart name.toList) (hsection : "split-tunnel-info".toList ≠ name.toList)
    (hroot : doc.root.tag.inside doc.root.content.isNone ≠ name.toList) : xmlValues doc.text name.toList = [] := by
  refine xmlValues_render hname.no_bracket (fits_map _) fun hmem => ?_
  obtain ⟨m, hm, htoken⟩ := List.mem_map.mp hmem
  cases m with
  | space s => cases htoken
  | stop tag space =>
    injection htoken with htoken
    exact hplain (.inl (by rw [← htoken]; rfl))
  | declaration s plain =>
    injection htoken with htoken
    exact hplain (.inr (.inr (by rw [← htoken]; rfl)))
  | start tag closed =>
    injection htoken with hinside
    have hitem : ∀ item : Item, .start tag closed ∉ item.marks := by
      intro item hmem
      obtain ⟨htag, hnil⟩ := Tag.inside_eq hname hinside
      rcases start_mem_item hmem with h | h
      · exact h hnil
      · exact hsection (h.symm.trans htag)
    rcases List.mem_append.mp hm with hm | hm
    · obtain ⟨s, -, hs⟩ := Option.mem_toList.mp hm |> Option.map_eq_some_iff.mp
      cases hs
    rcases List.mem_cons.mp hm with hm | hm
    · cases hm
    rcases List.mem_append.mp hm with hm | hm
    · rcases mem_marks hm with h | ⟨item, -, h⟩ | ⟨space, h⟩ | ⟨space, h⟩
      · cases h
        exact hroot hinside
      · exact hitem item h
      · cases h
      · cases h
    · cases List.mem_singleton.mp hm

/-! ### Sections -/

/-- A start tag that is not self-closing does not end in a slash. -/
theorem Tag.getLast_inside (tag : Tag) : (tag.inside false).getLast? ≠ some '/' := by
  intro hlast
  have hinside : tag.inside false = tag.name ++ (tag.attributes.flatMap Attribute.chars ++ tag.trailing.val) := by
    simp [inside, behind]
  rw [hinside] at hlast
  rcases List.eq_nil_or_concat tag.trailing.val with htrailing | ⟨space, c, htrailing⟩
  · rw [htrailing, List.append_nil] at hlast
    rcases List.eq_nil_or_concat tag.attributes with hnil | ⟨attributes, a, hconcat⟩
    · rw [hnil, List.flatMap_nil, List.append_nil] at hlast
      exact (tag.isName.chars _ (List.mem_of_getLast? hlast)).2.2 rfl
    · have hchars : a.chars = a.space.val ++ (a.name ++ (a.beforeEq.val ++ '=' :: (a.afterEq.val ++
          a.quote :: a.value))) ++ [a.quote] := by
        simp [Attribute.chars, Attribute.assignment]
      rw [hconcat, List.concat_eq_append, List.flatMap_append, List.flatMap_singleton, hchars, ← List.append_assoc,
        ← List.append_assoc, List.getLast?_concat, Option.some.injEq] at hlast
      rcases a.quote_eq with h | h <;> rw [h] at hlast <;> cases hlast
  · rw [htrailing] at hlast
    simp at hlast
    have hspace := tag.trailing.property '/' (by rw [htrailing, hlast]; simp)
    cases hspace

/-- What opens an element of a name. -/
theorem opens_iff {t : List Char} (ht : IsName t) (hplain : ¬ NoStart t) {m : Mark} :
    Opens t m.token ↔ ∃ tag, m = .start tag false ∧ tag.name = t := by
  have hhead : ∀ (c : Char) (s : List Char), (c = '/' ∨ c = '?') → ¬ Named t (c :: s) := by
    rintro c s hc ⟨⟨rest, hrest⟩, -⟩
    obtain ⟨d, t', rfl⟩ := List.exists_cons_of_ne_nil ht.ne_nil
    injection hrest with hd
    subst hd
    rcases hc with rfl | rfl
    · exact hplain (.inl rfl)
    · exact hplain (.inr (.inr rfl))
  cases m with
  | space s => exact ⟨fun h => h.elim, by rintro ⟨tag, h, -⟩; cases h⟩
  | stop tag space => exact ⟨fun h => (hhead _ _ (.inl rfl) h.1).elim, by rintro ⟨tag, h, -⟩; cases h⟩
  | declaration s plain => exact ⟨fun h => (hhead _ _ (.inr rfl) h.1).elim, by rintro ⟨tag, h, -⟩; cases h⟩
  | start tag closed =>
    cases closed with
    | false =>
      constructor
      · exact fun h => ⟨tag, rfl, (tag.named_inside ht false).mp h.1⟩
      · rintro ⟨tag', h, hname⟩
        cases h
        exact ⟨(tag.named_inside ht false).mpr hname, tag.getLast_inside⟩
    | true =>
      refine ⟨fun h => absurd ?_ h.2, by rintro ⟨tag, h, -⟩; cases h⟩
      simp [Tag.inside, Tag.behind]

/-- The name of a section. -/
def sectionName : List Char := "split-tunnel-info".toList

theorem sectionName_isName : IsName sectionName := isName_of_check (by decide)

/-- What stands between the tags of the sections. -/
def Item.bodies : Item → List (List Char)
  | .splitTunnelInfo e =>
    (e.val.content.map fun c => markText (Element.inner (fun addr : Addr => leafMarks addr.val) c)).toList
  | _ => []

/-- The end tag of the section, if it has one, has no whitespace in it. -/
def Item.PlainEnd : Item → Prop
  | .splitTunnelInfo e => ∀ c, e.val.content = some c → c.endSpace.val = []
  | _ => True

theorem pass_marks {ms : List Mark} (h : ∀ tag, Mark.start tag false ∈ ms → tag.name ≠ sectionName)
    (rest : List Char) : elementBodies (markText ms ++ rest) sectionName = elementBodies rest sectionName := by
  refine elementBodies_pass sectionName_isName.no_bracket (fits_map ms) (fun t ht hopens => ?_) rest
  obtain ⟨m, hm, rfl⟩ := List.mem_map.mp ht
  obtain ⟨tag, rfl, hname⟩ := (opens_iff sectionName_isName (by decide)).mp hopens
  exact h tag hm hname

theorem markText_append (ms ns : List Mark) : markText (ms ++ ns) = markText ms ++ markText ns := by
  rw [markText, List.map_append, render_append]
  rfl

/-- The end tag of a section is not inside one. -/
theorem end_not_inside (c : Content Addr) :
    Token.tag ('/' :: sectionName) ∉ (Element.inner (fun addr : Addr => leafMarks addr.val) c).map Mark.token := by
  intro hmem
  obtain ⟨m, hm, htoken⟩ := List.mem_map.mp hmem
  rcases mem_inner hm with ⟨addr, -, h⟩ | ⟨space, rfl⟩
  · rcases mem_marks h with rfl | ⟨child, -, -⟩ | ⟨space, rfl⟩ | ⟨space, rfl⟩
    · injection htoken with hinside
      exact addr.val.tag.isName.head_ne_slash _ (congrArg List.head? hinside)
    · exact child.elim
    · cases htoken
    · injection htoken with hinside
      rw [addr.property.1] at hinside
      cases hinside
  · cases htoken

/-- **The body of an item.** -/
theorem elementBodies_item {item : Item} (hend : item.PlainEnd) (rest : List Mark) :
    elementBodies (markText (item.marks ++ rest)) sectionName =
      item.bodies ++ elementBodies (markText rest) sectionName := by
  have hleaf : ∀ e : Element Empty, e.tag.name ≠ sectionName →
      elementBodies (markText (leafMarks e ++ rest)) sectionName = elementBodies (markText rest) sectionName := by
    intro e hname
    rw [markText_append, pass_marks]
    intro tag hmem
    rwa [start_mem_leaf hmem]
  cases item with
  | assignedAddr e => exact hleaf e.val (by rw [e.property.1]; decide)
  | dns e => exact hleaf e.val (by rw [e.property.1]; decide)
  | splitTunnelInfo e =>
    obtain ⟨⟨tag, content⟩, hname⟩ := e
    cases content with
    | none =>
      show elementBodies (markText ([.start tag true] ++ rest)) sectionName = _
      rw [markText_append, pass_marks]
      · rfl
      · intro tag' hmem
        cases List.mem_singleton.mp hmem
    | some c =>
      have hspace : c.endSpace.val = [] := hend c rfl
      have htokens : markText (Item.marks (.splitTunnelInfo ⟨⟨tag, some c⟩, hname⟩) ++ rest) =
          render (.tag (tag.inside false) :: ((Element.inner (fun addr : Addr => leafMarks addr.val) c).map Mark.token ++
            .tag ('/' :: sectionName) :: rest.map Mark.token)) := by
        have hstop : tag.name ++ c.endSpace.val = sectionName := by
          rw [hspace, List.append_nil]
          exact hname
        simp [markText, Item.marks, Element.marks, Mark.token, hstop]
      have hopens : Opens sectionName (Mark.start tag false).token :=
        (opens_iff sectionName_isName (by decide)).mpr ⟨tag, rfl, hname⟩
      rw [htokens, elementBodies_element sectionName_isName.no_bracket (Mark.start tag false).fits hopens (fits_map _)
        (end_not_inside c)]
      rfl

theorem elementBodies_children {children : List (Space × Item)} (hend : ∀ p ∈ children, p.2.PlainEnd)
    (rest : List Mark) :
    elementBodies (markText (children.flatMap (fun p => .space p.1 :: p.2.marks) ++ rest)) sectionName =
      children.flatMap (fun p => p.2.bodies) ++ elementBodies (markText rest) sectionName := by
  induction children with
  | nil => rfl
  | cons p children ih =>
    have hspace : ∀ ms, elementBodies (markText (.space p.1 :: ms)) sectionName =
        elementBodies (markText ms) sectionName := fun ms =>
      elementBodies_skip _ (bracket_not_mem_space (.inl rfl) p.1)
    rw [List.flatMap_cons, List.flatMap_cons, List.append_assoc, List.append_assoc, List.cons_append, hspace,
      elementBodies_item (hend p List.mem_cons_self), ih fun p hp => hend p (List.mem_cons_of_mem _ hp)]

section Document

variable (doc : Document)

/-- **The bodies of the sections of a document.** -/
theorem elementBodies_document (hend : ∀ item ∈ doc.root.children, item.PlainEnd) :
    elementBodies doc.text sectionName = doc.root.children.flatMap Item.bodies := by
  have hroot : doc.root.tag.name ≠ sectionName := fun h => doc.other (by rw [h]; decide)
  have hfront : ∀ ms, elementBodies (markText ((doc.declaration.map fun s =>
      Mark.declaration s.val s.property).toList ++ ms)) sectionName = elementBodies (markText ms) sectionName := by
    intro ms
    rw [markText_append, pass_marks]
    intro tag hmem
    cases hd : doc.declaration <;> simp [hd] at hmem
  have hbefore : ∀ ms, elementBodies (markText (.space doc.before :: ms)) sectionName =
      elementBodies (markText ms) sectionName := fun ms =>
    elementBodies_skip _ (bracket_not_mem_space (.inl rfl) doc.before)
  have hnone : elementBodies [] sectionName = [] := elementBodies_none rfl
  unfold Document.text Document.marks
  rw [hfront, hbefore]
  rcases hcontent : doc.root.content with _ | c
  · have hpass := @pass_marks [.start doc.root.tag true, .space doc.after] (fun tag hmem => by simp at hmem) []
    rw [List.append_nil, hnone] at hpass
    unfold Element.marks Element.children
    rw [hcontent]
    exact hpass
  · have hchildren : doc.root.children = c.children.map Prod.snd := by
      unfold Element.children
      rw [hcontent]
      rfl
    rw [hchildren] at hend ⊢
    have hstart : ∀ ms, elementBodies (markText (.start doc.root.tag false :: ms)) sectionName =
        elementBodies (markText ms) sectionName := by
      intro ms
      rw [← List.singleton_append, markText_append, pass_marks]
      intro tag hmem
      cases List.mem_singleton.mp hmem
      exact hroot
    have hlast := @pass_marks [.space c.last, .stop doc.root.tag c.endSpace, .space doc.after]
      (fun tag hmem => by simp at hmem) []
    rw [List.append_nil, hnone] at hlast
    rw [marks_content Item.marks hcontent, hstart, Element.inner, List.append_assoc, List.singleton_append,
      elementBodies_children, hlast, List.append_nil, List.flatMap_map]
    exact fun p hp => hend p.2 (List.mem_map_of_mem hp)

theorem bind_get {α β γ : Type} {o : Option α} {p : Option β} (f : α → β → γ) (ho : o.isSome) (hp : p.isSome) :
    (do let a ← o
        let b ← p
        return f a b) = some (f (o.get ho) (p.get hp)) := by
  obtain ⟨a, rfl⟩ := Option.isSome_iff_exists.mp ho
  obtain ⟨b, rfl⟩ := Option.isSome_iff_exists.mp hp
  rfl

/-- The routes of an item. -/
theorem filterMap_bodies (item : Item) (gateway : Option String) {g : List Char → Option Ipv4Route}
    (hg : ∀ tag closed, g (Tag.inside tag closed) = do
      let destination ← tag.value "ip"
      let mask ← tag.value "mask"
      return ⟨.ofList destination, .ofList mask, gateway⟩) :
    item.bodies.flatMap (fun body => (startTags body "addr".toList).filterMap g) =
      item.routes.map fun p => ⟨.ofList p.1, .ofList p.2, gateway⟩ := by
  have haddr : IsName "addr".toList := isName_of_check (by decide)
  cases item with
  | assignedAddr e => rfl
  | dns e => rfl
  | splitTunnelInfo e =>
    obtain ⟨⟨tag, content⟩, hname⟩ := e
    cases content with
    | none => rfl
    | some c =>
      simp only [Item.bodies, Item.routes, Element.children, Option.map_some, Option.toList_some,
        List.flatMap_singleton, Option.elim_some]
      rw [startTags_marks haddr (by decide) hg, filterMap_inner, List.map_map]
      induction c.children.map Prod.snd with
      | nil => rfl
      | cons addr addrs ih =>
        have hroute := bind_get (fun d m => (⟨.ofList d, .ofList m, gateway⟩ : Ipv4Route)) addr.property.2.1
          addr.property.2.2
        rw [List.flatMap_cons, List.map_cons, ih, filterMap_leafMarks, if_pos addr.property.1, hroute]
        rfl

theorem parseSplitRoutes_document (hend : ∀ item ∈ doc.root.children, item.PlainEnd) (gateway : Option String) :
    parseSplitRoutes doc.text gateway =
      doc.routes.map fun p => ⟨.ofList p.1, .ofList p.2, gateway⟩ := by
  unfold parseSplitRoutes
  rw [show "split-tunnel-info".toList = sectionName from rfl, elementBodies_document doc hend,
    List.filterMap_flatMap, List.flatMap_assoc, Document.routes, List.map_flatMap]
  refine List.flatMap_congr fun item _ => filterMap_bodies item gateway fun tag closed => ?_
  rw [attrValue_inside, attrValue_inside]

end Document

/-- The start tag of the root is the bare name. -/
def Document.Bare (doc : Document) (name : String) : Prop :=
  doc.root.tag.inside doc.root.content.isNone = name.toList

instance (doc : Document) (name : String) : Decidable (doc.Bare name) :=
  decEq (doc.root.tag.inside doc.root.content.isNone) name.toList

/-- The root is not itself read as a value, and sections end in plain end tags. -/
structure Document.Recoverable (doc : Document) : Prop where
  server : ¬ doc.Bare "dns-server"
  suffix : doc.suffix = none → ¬ doc.Bare "dns-suffix" ∧ ¬ doc.Bare "domain"
  gateway : doc.gateway = none → ¬ doc.Bare "ip"
  ends : ∀ item ∈ doc.root.children, item.PlainEnd

section Values

variable (doc : Document)

theorem firstTagAttr_gateway : firstTagAttr doc.text "assigned-addr".toList "ipv4".toList = doc.gateway := by
  have hname : IsName "assigned-addr".toList := isName_of_check (by decide)
  rw [firstTagAttr, tagAttrValues_document doc "ipv4" hname (by decide) (by decide)
    fun h => doc.other (by rw [h]; decide)]
  simp only [gateway_eq]
  rfl

/-- The values of an attribute of the dns elements. -/
theorem tagAttrValues_dns (attr : String) :
    tagAttrValues doc.text "dns".toList attr.toList =
      doc.root.children.filterMap fun item => item.dnsTag.bind fun tag => tag.value attr := by
  have hname : IsName "dns".toList := isName_of_check (by decide)
  rw [tagAttrValues_document doc attr hname (by decide) (by decide) fun h => doc.other (by rw [h]; decide)]
  exact List.filterMap_congr fun item _ => dnsTag_eq (fun tag => tag.value attr) item

theorem tagAttrValues_servers : tagAttrValues doc.text "dns".toList "ip".toList = doc.servers := by
  rw [tagAttrValues_dns]
  exact List.filterMap_congr fun item _ => by cases item <;> rfl

theorem firstTagAttr_suffix : firstTagAttr doc.text "dns".toList "domain".toList = doc.suffix := by
  rw [firstTagAttr, tagAttrValues_dns]
  exact congrArg List.head? (List.filterMap_congr fun item _ => by cases item <;> rfl)

/-- The elements of the root are not read as values, since they have attributes. -/
theorem xmlValues_elements {name : String} (hmem : name ∈ ["assigned-addr", "dns", "addr"]) :
    xmlValues doc.text name.toList = [] := by
  have hname : IsName name.toList ∧ ¬ NoStart name.toList ∧ "split-tunnel-info".toList ≠ name.toList ∧
      name.toList ∈ ["assigned-addr", "dns", "split-tunnel-info", "addr"].map String.toList := by
    simp only [List.mem_cons, List.not_mem_nil, or_false] at hmem
    rcases hmem with rfl | rfl | rfl <;>
      exact ⟨isName_of_check (by decide), by decide, by decide, by decide⟩
  obtain ⟨hname, hplain, hsection, hother⟩ := hname
  refine xmlValues_document doc hname hplain hsection fun hinside => ?_
  rw [← (Tag.inside_eq hname hinside).1] at hother
  exact doc.other hother

end Values

/-- **Documents are recovered.**  What is read from the text of a document is what its elements hold. -/
theorem parse_document (doc : Document) (h : doc.Recoverable) :
    parseVpnConfigXml (.ofList doc.text) = doc.config := by
  have hroot : ∀ name : String, name ∈ ["dns-server", "dns-suffix", "domain", "ip"] → ¬ doc.Bare name →
      xmlValues doc.text name.toList = [] := by
    intro name hmem hbare
    simp only [List.mem_cons, List.not_mem_nil, or_false] at hmem
    rcases hmem with rfl | rfl | rfl | rfl <;>
      exact xmlValues_document doc (isName_of_check (by decide)) (by decide) (by decide) hbare
  have hserver := hroot "dns-server" (by decide) h.server
  have hassigned := @xmlValues_elements doc "assigned-addr" (by decide)
  have haddr := @xmlValues_elements doc "addr" (by decide)
  have hdns := @xmlValues_elements doc "dns" (by decide)
  have hip : (doc.gateway.orElse fun _ => (firstXmlValue doc.text "assigned-addr".toList).orElse fun _ =>
      (firstXmlValue doc.text "ip".toList).orElse fun _ => firstXmlValue doc.text "addr".toList) = doc.gateway := by
    rcases hgateway : doc.gateway with _ | gateway
    · rw [firstXmlValue, firstXmlValue, firstXmlValue, hassigned, haddr,
        hroot "ip" (by decide) (h.gateway hgateway)]
      rfl
    · rfl
  have hsuffix : (doc.suffix.orElse fun _ => (firstXmlValue doc.text "dns-suffix".toList).orElse fun _ =>
      firstXmlValue doc.text "domain".toList) = doc.suffix := by
    rcases hnone : doc.suffix with _ | suffix
    · rw [firstXmlValue, firstXmlValue, hroot "dns-suffix" (by decide) (h.suffix hnone).1,
        hroot "domain" (by decide) (h.suffix hnone).2]
      rfl
    · rfl
  unfold parseVpnConfigXml Document.config
  simp only [String.toList_ofList]
  rw [firstTagAttr_gateway, tagAttrValues_servers, firstTagAttr_suffix, hserver, hdns, hip, hsuffix,
    parseSplitRoutes_document doc h.ends, List.append_nil]
  have hservers : (if doc.servers = [] then [] else doc.servers) = doc.servers := by
    split
    · rename_i hnil
      exact hnil.symm
    · rfl
  rw [hservers]

/-! ### Two documents -/

def newline : Space := ⟨['\n'], List.forall_mem_singleton.mpr rfl⟩

/-- `ip="10.0.0.10"`, behind a space. -/
def ipAttribute : Attribute :=
  ⟨oneSpace, "ip".toList, noSpace, noSpace, '"', "10.0.0.10".toList, by decide, isName_of_check (by decide),
    .inl rfl, plain_of_isPlain (by decide)⟩

/-- `mask = '255.255.0.0'`, behind a newline. -/
def maskAttribute : Attribute :=
  ⟨newline, "mask".toList, oneSpace, oneSpace, '\'', "255.255.0.0".toList, by decide,
    isName_of_check (by decide), .inr rfl, plain_of_isPlain (by decide)⟩

def dnsElement : Dns :=
  ⟨⟨⟨"dns".toList, [ipAttribute], noSpace, isName_of_check (by decide), by decide⟩, none⟩,
    by decide +kernel⟩

def addrElement : Addr :=
  ⟨⟨⟨"addr".toList, [maskAttribute, ipAttribute], oneSpace, isName_of_check (by decide), by decide⟩,
    some ⟨[], newline, oneSpace⟩⟩, by decide +kernel⟩

def sectionElement : SplitTunnelInfo :=
  ⟨⟨⟨sectionName, [], oneSpace, sectionName_isName, by decide⟩,
    some ⟨[(newline, addrElement), (noSpace, addrElement)], newline, noSpace⟩⟩, rfl⟩

/-- A section and a name server in a root without whitespace. -/
def sampleDocument : Document where
  declaration := none
  before := noSpace
  root := ⟨⟨"root".toList, [], noSpace, isName_of_check (by decide), by decide⟩,
    some ⟨[(noSpace, .splitTunnelInfo sectionElement), (newline, .dns dnsElement)], noSpace, noSpace⟩⟩
  after := newline
  other := by decide

theorem parse_document_example :
    parseVpnConfigXml (.ofList sampleDocument.text) = sampleDocument.config := by
  refine parse_document sampleDocument ⟨by decide, fun _ => ⟨by decide, by decide⟩, fun _ => by decide, ?_⟩
  intro item hmem
  simp only [Element.children, sampleDocument, Option.elim_some, List.map_cons, List.map_nil, List.mem_cons,
    List.not_mem_nil, or_false] at hmem
  rcases hmem with rfl | rfl
  · intro c hc
    cases hc
    rfl
  · trivial

/-- `<dns-server><dns ip="10.0.0.10"/></dns-server>`. -/
def dnsServerDocument : Document where
  declaration := none
  before := noSpace
  root := ⟨⟨"dns-server".toList, [], noSpace, isName_of_check (by decide), by decide⟩,
    some ⟨[(noSpace, .dns dnsElement)], noSpace, noSpace⟩⟩
  after := noSpace
  other := by decide

/-- A root that is called like a value is read as one. -/
theorem root_read_as_value :
    dnsServerDocument.text = "<dns-server><dns ip=\"10.0.0.10\"/></dns-server>".toList ∧
      parseVpnConfigXml (.ofList dnsServerDocument.text) ≠ dnsServerDocument.config := by
  refine ⟨by decide +kernel, fun hall => ?_⟩
  have hread : (parseVpnConfigXml (.ofList dnsServerDocument.text)).dnsServers =
      ["10.0.0.10", "<dns ip=\"10.0.0.10\"/>"] := by
    decide +kernel
  rw [hall] at hread
  revert hread
  decide +kernel

end OpenfortivpnRs.Auth
