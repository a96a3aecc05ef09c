import OpenfortivpnRs.Auth.Portal
import OpenfortivpnRs.Text.Replace

/-!
# Entity references

`xml_unescape` on a text that was escaped character by character (`xmlEscape`).  Each of its five
replacements takes one kind of reference out; the ampersands are restored by the third of them, so the
last two also replace what the text itself holds (`xmlUnescape_escape`).
-/

namespace OpenfortivpnRs.Auth

open Text

/-- The standard reference of a character that has one. -/
def entity : Char → List Char
  | '&' => "&amp;".toList
  | '<' => "&lt;".toList
  | '>' => "&gt;".toList
  | '"' => "&quot;".toList
  | '\'' => "&apos;".toList
  | c => [c]

/-- Escaping character by character. -/
def xmlEscape (s : List Char) : List Char := s.flatMap entity

def specials : List Char := ['<', '>', '&', '"', '\'']

/-- Escaping of some of the five characters. -/
def escapeOnly (cs s : List Char) : List Char := s.flatMap fun c => if c ∈ cs then entity c else [c]

theorem entity_plain {c : Char} (h : c ∉ specials) : entity c = [c] := by
  simp only [specials, List.mem_cons, List.not_mem_nil, or_false, not_or] at h
  unfold entity
  split <;> simp_all

theorem xmlEscape_eq (s : List Char) : xmlEscape s = escapeOnly specials s := by
  unfold xmlEscape escapeOnly
  congr 1
  funext c
  split
  · rfl
  · rename_i h
    exact entity_plain h

@[simp] theorem escapeOnly_nil_right (cs : List Char) : escapeOnly cs [] = [] := rfl

@[simp] theorem escapeOnly_nil (s : List Char) : escapeOnly [] s = s := by
  simp [escapeOnly]

theorem escapeOnly_append (cs s t : List Char) : escapeOnly cs (s ++ t) = escapeOnly cs s ++ escapeOnly cs t :=
  List.flatMap_append

theorem escapeOnly_mem {cs : List Char} {c : Char} (h : c ∈ cs) (s : List Char) :
    escapeOnly cs (c :: s) = entity c ++ escapeOnly cs s := by
  rw [escapeOnly, List.flatMap_cons, if_pos h]
  rfl

theorem escapeOnly_not_mem {cs : List Char} {c : Char} (h : c ∉ cs) (s : List Char) :
    escapeOnly cs (c :: s) = c :: escapeOnly cs s := by
  rw [escapeOnly, List.flatMap_cons, if_neg h]
  rfl

/-- Characters that are not escaped stay. -/
theorem escapeOnly_plain {cs t : List Char} (h : ∀ c ∈ t, c ∉ cs) : escapeOnly cs t = t := by
  induction t with
  | nil => rfl
  | cons c t ih =>
    rw [escapeOnly_not_mem (h c List.mem_cons_self), ih fun d hd => h d (List.mem_cons_of_mem _ hd)]

/-! ### References -/

/-- A reference begins with an ampersand, and has no other special character in it. -/
theorem entity_eq {d : Char} (hd : d ∈ specials) :
    ∃ body, entity d = '&' :: body ∧ ∀ c ∈ body, c ∉ specials := by
  refine ⟨(entity d).tail, ?_, ?_⟩
  · revert d
    decide
  · revert d
    decide

theorem entity_ne_nil (d : Char) : entity d ≠ [] := by
  unfold entity
  split <;> simp

theorem length_entity {d : Char} (hd : d ∈ specials) : [d].length < (entity d).length := by
  revert d
  decide

/-- No reference begins another. -/
theorem not_prefix_entity {c d : Char} (hc : c ∈ specials) (hd : d ∈ specials) (hne : c ≠ d) (s : List Char) :
    ¬ entity d <+: entity c ++ s := by
  have hall : ∀ c ∈ specials, ∀ d ∈ specials, c ≠ d → ¬ entity d <+: entity c := by decide
  intro h
  rcases List.prefix_or_prefix_of_prefix h (List.prefix_append (entity c) s) with h | h
  · exact hall c hc d hd hne h
  · exact hall d hd c hc (Ne.symm hne) h

/-- Replacing one reference. -/
def restore (d : Char) (s : List Char) : List Char := replace (entity d) [d] (entity_ne_nil d) s

@[simp] theorem restore_nil (d : Char) : restore d [] = [] := replace_nil _

section Restore

variable {d : Char} (hd : d ∈ specials)

theorem restore_hit (s : List Char) : restore d (entity d ++ s) = d :: restore d s :=
  replace_hit _ s

include hd

theorem restore_skip {c : Char} (h : c ≠ '&') (s : List Char) : restore d (c :: s) = c :: restore d s := by
  obtain ⟨body, hbody, -⟩ := entity_eq hd
  refine replace_miss _ fun hp => h ?_
  rw [hbody] at hp
  exact (List.cons_prefix_cons.mp hp).1.symm

theorem restore_skip_all {t : List Char} (h : '&' ∉ t) (s : List Char) :
    restore d (t ++ s) = t ++ restore d s := by
  induction t with
  | nil => rfl
  | cons c t ih =>
    rw [List.mem_cons, not_or] at h
    rw [List.cons_append, restore_skip hd (Ne.symm h.1), ih h.2]
    rfl

/-- Another reference stays. -/
theorem restore_other {c : Char} (hc : c ∈ specials) (hne : c ≠ d) (s : List Char) :
    restore d (entity c ++ s) = entity c ++ restore d s := by
  obtain ⟨body, hbody, hplain⟩ := entity_eq hc
  have hmiss := not_prefix_entity hc hd hne s
  rw [hbody, List.cons_append] at hmiss ⊢
  have hamp : '&' ∉ body := fun h => hplain _ h (by decide)
  unfold restore
  rw [replace_miss _ hmiss]
  exact congrArg ('&' :: ·) (restore_skip_all hd hamp s)

variable {cs : List Char} (hcs : ∀ c ∈ cs, c ∈ specials) (hnot : d ∉ cs)

include hcs hnot

/-- While ampersands are escaped, each reference stands for a character of the text. -/
theorem restore_escapeOnly (hamp : '&' ∈ d :: cs) (s : List Char) :
    restore d (escapeOnly (d :: cs) s) = escapeOnly cs s := by
  induction s with
  | nil => rw [escapeOnly_nil_right, escapeOnly_nil_right, restore_nil]
  | cons c s ih =>
    by_cases hc : c ∈ d :: cs
    · rw [escapeOnly_mem hc]
      rcases List.mem_cons.mp hc with rfl | hmem
      · rw [restore_hit, ih, escapeOnly_not_mem hnot]
      · have hne : c ≠ d := fun h => hnot (h ▸ hmem)
        rw [restore_other hd (hcs c hmem) hne, ih, escapeOnly_mem hmem]
    · have hne : c ≠ '&' := fun h => hc (h ▸ hamp)
      have hcs' : c ∉ cs := fun h => hc (List.mem_cons_of_mem _ h)
      rw [escapeOnly_not_mem hc, restore_skip hd hne, ih, escapeOnly_not_mem hcs']

omit hd hnot in
/-- Plain characters at the front of an escaped text are at the front of the text. -/
theorem prefix_of_escapeOnly {body s : List Char} (hplain : ∀ c ∈ body, c ∉ specials)
    (h : body <+: escapeOnly cs s) : body <+: s := by
  induction body generalizing s with
  | nil => exact List.nil_prefix
  | cons x body ih =>
    cases s with
    | nil => exact h
    | cons c s =>
      by_cases hc : c ∈ cs
      · obtain ⟨tail, htail, -⟩ := entity_eq (hcs c hc)
        rw [escapeOnly_mem hc, htail] at h
        have hx := (List.cons_prefix_cons.mp h).1
        exact absurd (by rw [hx]; decide) (hplain x List.mem_cons_self)
      · rw [escapeOnly_not_mem hc] at h
        obtain ⟨rfl, hrest⟩ := List.cons_prefix_cons.mp h
        exact List.cons_prefix_cons.mpr
          ⟨rfl, ih (fun c hc => hplain c (List.mem_cons_of_mem _ hc)) hrest⟩

/-- Once ampersands are restored, the references that the text itself holds are replaced as well. -/
theorem restore_escapeOnly_raw (hamp : '&' ∉ d :: cs) (s : List Char) :
    restore d (escapeOnly (d :: cs) s) = escapeOnly cs (restore d s) := by
  have hall : ∀ c ∈ d :: cs, c ∈ specials := List.forall_mem_cons.mpr ⟨hd, hcs⟩
  obtain ⟨body, hbody, hplain⟩ := entity_eq hd
  induction hn : s.length using Nat.strong_induction_on generalizing s with
  | _ n ih =>
    cases s with
    | nil => rw [escapeOnly_nil_right, restore_nil, escapeOnly_nil_right]
    | cons c s =>
      rw [List.length_cons] at hn
      have hrest := ih s.length (by omega) s rfl
      by_cases hc : c ∈ d :: cs
      · have hne : c ≠ '&' := fun h => hamp (h ▸ hc)
        rw [escapeOnly_mem hc, restore_skip hd hne]
        rcases List.mem_cons.mp hc with rfl | hmem
        · rw [restore_hit, hrest, escapeOnly_not_mem hnot]
        · rw [restore_other hd (hcs c hmem) fun h => hnot (h ▸ hmem), hrest, escapeOnly_mem hmem]
      · have hcs' : c ∉ cs := fun h => hc (List.mem_cons_of_mem _ h)
        rw [escapeOnly_not_mem hc]
        by_cases hp : entity d <+: c :: s
        · -- a reference of the text itself
          obtain ⟨s', hs'⟩ := hp
          have hs : s = body ++ s' := by
            rw [hbody] at hs'
            exact (List.cons.inj hs').2.symm
          have hchar : c = '&' := by
            rw [hbody] at hs'
            exact (List.cons.inj hs').1.symm
          have hesc : c :: escapeOnly (d :: cs) s = entity d ++ escapeOnly (d :: cs) s' := by
            rw [hs, escapeOnly_append, escapeOnly_plain fun x hx hmem => hplain x hx (hall x hmem), hbody, hchar]
            rfl
          have hlen : s'.length < n := by
            rw [← hn, hs, List.length_append]
            omega
          rw [hesc, ← hs', restore_hit, restore_hit, ih _ hlen s' rfl, escapeOnly_not_mem hnot]
        · have hp' : ¬ entity d <+: c :: escapeOnly (d :: cs) s := by
            intro h
            rw [hbody] at h hp
            obtain ⟨hchar, hpre⟩ := List.cons_prefix_cons.mp h
            exact hp (List.cons_prefix_cons.mpr ⟨hchar, prefix_of_escapeOnly hall hplain hpre⟩)
          have h1 : restore d (c :: escapeOnly (d :: cs) s) = c :: restore d (escapeOnly (d :: cs) s) :=
            replace_miss _ hp'
          have h2 : restore d (c :: s) = c :: restore d s := replace_miss _ hp
          rw [h1, h2, hrest, escapeOnly_not_mem hcs']

end Restore

/-- The five replacements in the order of the code. -/
theorem xmlUnescape_eq (s : List Char) :
    xmlUnescape s = restore '\'' (restore '"' (restore '&' (restore '>' (restore '<' s)))) := rfl

/-- **Unescaping an escaped text** replaces the references to quotes and apostrophes that it holds. -/
theorem xmlUnescape_escape (s : List Char) : xmlUnescape (xmlEscape s) = restore '\'' (restore '"' s) := by
  rw [xmlUnescape_eq, xmlEscape_eq, specials,
    restore_escapeOnly (by decide) (by decide) (by decide) (by decide),
    restore_escapeOnly (by decide) (by decide) (by decide) (by decide),
    restore_escapeOnly (by decide) (by decide) (by decide) (by decide),
    restore_escapeOnly_raw (by decide) (by decide) (by decide) (by decide),
    restore_escapeOnly_raw (by decide) (by decide) (by decide) (by decide), escapeOnly_nil]

theorem restore_eq_self_iff {d : Char} (hd : d ∈ specials) (s : List Char) :
    restore d s = s ↔ ¬ entity d <:+: s :=
  replace_eq_self_iff _ (length_entity hd) s

/-- **Escaping is undone** if and only if the text holds neither of the two references that are replaced
behind the ampersands. -/
theorem xmlUnescape_undoes_iff (s : List Char) :
    xmlUnescape (xmlEscape s) = s ↔ ¬ "&quot;".toList <:+: s ∧ ¬ "&apos;".toList <:+: s := by
  have hquot : restore '"' s = s ↔ ¬ "&quot;".toList <:+: s := restore_eq_self_iff (by decide) s
  have hapos : restore '\'' s = s ↔ ¬ "&apos;".toList <:+: s := restore_eq_self_iff (by decide) s
  rw [xmlUnescape_escape, ← hquot, ← hapos]
  constructor
  · intro h
    -- neither replacement lengthens the text, so neither can have shortened it
    have hfirst := (length_replace (entity_ne_nil '"') (length_entity (by decide)) s).1
    have hsecond := (length_replace (entity_ne_nil '\'') (length_entity (by decide)) (restore '"' s)).1
    have hlen := congrArg List.length h
    have hone : restore '"' s = s := by
      rw [hquot]
      intro hp
      have hlt := (length_replace (entity_ne_nil '"') (length_entity (by decide)) s).2 hp
      unfold restore at hlen hsecond
      omega
    rw [hone] at h
    exact ⟨hone, h⟩
  · rintro ⟨hq, ha⟩
    rw [hq, ha]

/-- A text that holds a reference to a quote comes back with a quote in its place. -/
theorem reference_unescaped_twice : xmlUnescape (xmlEscape "&quot;".toList) = ['"'] ∧
    xmlUnescape (xmlEscape "&quot;".toList) ≠ "&quot;".toList := by
  decide +kernel

end OpenfortivpnRs.Auth
