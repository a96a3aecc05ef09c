import OpenfortivpnRs.Text
import Mathlib.Data.List.TakeWhile

/-!
# Splitting at a text, and trimming

A text split at a separator gives back the pieces it was joined from (`splitStr_intercalate`), and one
cut from the end is cut at the last of its separators (`rsplitOnce_eq_some_iff`).  Trimming takes white
space off both ends and stops at a character in between that is none (`trim_mark`).
-/

namespace OpenfortivpnRs.Text

/-- `str::split` by a text. -/
def splitStr (sep : List Char) (hsep : sep ≠ []) (s : List Char) : List (List Char) :=
  match hs : splitOnce sep s with
  | none => [s]
  | some (before, after) =>
    have := splitOnce_lt hsep hs
    before :: splitStr sep hsep after
termination_by s.length

theorem splitStr_none {sep s : List Char} (hsep : sep ≠ []) (h : splitOnce sep s = none) :
    splitStr sep hsep s = [s] := by
  rw [splitStr]
  split
  · rfl
  · rename_i hsome
    rw [h] at hsome
    cases hsome

theorem splitStr_some {sep s before after : List Char} (hsep : sep ≠ [])
    (h : splitOnce sep s = some (before, after)) : splitStr sep hsep s = before :: splitStr sep hsep after := by
  rw [splitStr]
  split
  · rename_i hnone
    rw [h] at hnone
    cases hnone
  · rename_i hsome
    rw [h] at hsome
    cases hsome
    rfl

theorem splitOnce_none_of_not_mem {c : Char} {s : List Char} (tail : List Char) (h : c ∉ s) :
    splitOnce (c :: tail) s = none := by
  have hskip := splitOnce_skip tail [] h
  rw [List.append_nil] at hskip
  rw [hskip]
  rfl

/-- **A text is split into the pieces it was joined from** if the first character of the separator is in
none of them. -/
theorem splitStr_intercalate {c : Char} {tail : List Char} {pieces : List (List Char)} (hne : pieces ≠ [])
    (h : ∀ p ∈ pieces, c ∉ p) :
    splitStr (c :: tail) (List.cons_ne_nil c tail) ((c :: tail).intercalate pieces) = pieces := by
  induction pieces with
  | nil => exact absurd rfl hne
  | cons p pieces ih =>
    have hp : c ∉ p := h p List.mem_cons_self
    by_cases hlast : pieces = []
    · subst hlast
      rw [List.intercalate_singleton]
      exact splitStr_none _ (splitOnce_none_of_not_mem tail hp)
    · rw [List.intercalate_cons_of_ne_nil hlast, List.append_assoc, List.cons_append,
        splitStr_some _ (splitOnce_append tail _ hp), ih hlast fun q hq => h q (List.mem_cons_of_mem _ hq)]

/-- A text is not cut exactly when it does not contain the needle. -/
theorem splitOnce_eq_none_iff {needle s : List Char} (hne : needle ≠ []) :
    splitOnce needle s = none ↔ ¬ needle <:+: s := by
  induction s with
  | nil =>
    rw [splitOnce, if_neg hne, List.infix_nil]
    exact iff_of_true rfl hne
  | cons c s ih =>
    rw [splitOnce, List.infix_cons_iff]
    split
    · rename_i hhere
      exact iff_of_false (Option.some_ne_none _) fun h => h (.inl hhere)
    · rename_i hhere
      rw [Option.map_eq_none_iff, ih]
      exact ⟨fun h hor => hor.elim hhere h, fun h hin => h (.inr hin)⟩

/-- `str::rsplit_once` by a character: what stands before and behind its last occurrence. -/
def rsplitOnce (c : Char) (s : List Char) : Option (List Char × List Char) :=
  (splitOnce [c] s.reverse).map fun (after, before) => (before.reverse, after.reverse)

theorem rsplitOnce_char {c : Char} {after : List Char} (before : List Char) (h : c ∉ after) :
    rsplitOnce c (before ++ c :: after) = some (before, after) := by
  have hrev : (before ++ c :: after).reverse = after.reverse ++ c :: before.reverse := by simp
  unfold rsplitOnce
  rw [hrev, splitOnce_char _ (by simpa using h)]
  simp only [Option.map_some, List.reverse_reverse]

theorem rsplitOnce_none_of_not_mem {c : Char} {s : List Char} (h : c ∉ s) : rsplitOnce c s = none := by
  unfold rsplitOnce
  rw [splitOnce_none_of_not_mem [] (by simpa using h), Option.map_none]

theorem rsplitOnce_eq_none_iff {c : Char} {s : List Char} : rsplitOnce c s = none ↔ c ∉ s := by
  refine ⟨fun h hmem => ?_, rsplitOnce_none_of_not_mem⟩
  obtain ⟨back, front, hs, hback⟩ := List.eq_append_cons_of_mem (List.mem_reverse.mpr hmem)
  have hcut : s = front.reverse ++ c :: back.reverse := by
    rw [← List.reverse_reverse s, hs]
    simp
  rw [hcut, rsplitOnce_char _ (by simpa using hback)] at h
  cases h

/-- A text is cut at its last `c`. -/
theorem rsplitOnce_eq_some_iff {c : Char} {s before after : List Char} :
    rsplitOnce c s = some (before, after) ↔ s = before ++ c :: after ∧ c ∉ after := by
  constructor
  · intro h
    by_cases hmem : c ∈ s
    · obtain ⟨back, front, hs, hback⟩ := List.eq_append_cons_of_mem (List.mem_reverse.mpr hmem)
      have hcut : s = front.reverse ++ c :: back.reverse := by
        rw [← List.reverse_reverse s, hs]
        simp
      have hback' : c ∉ back.reverse := by simpa using hback
      rw [hcut, rsplitOnce_char _ hback'] at h
      cases h
      exact ⟨hcut, hback'⟩
    · rw [rsplitOnce_none_of_not_mem hmem] at h
      cases h
  · rintro ⟨rfl, h⟩
    exact rsplitOnce_char before h

/-- The front of a text up to the first character that ends it. -/
theorem takeWhile_eq_iff {p : Char → Bool} {s front : List Char} :
    s.takeWhile p = front ↔
      ∃ rest, s = front ++ rest ∧ (∀ c ∈ front, p c = true) ∧ ∀ c ∈ rest.head?, p c = false := by
  constructor
  · rintro rfl
    refine ⟨s.dropWhile p, List.takeWhile_append_dropWhile.symm, fun c hc => List.mem_takeWhile_imp hc, ?_⟩
    intro c hc
    have hstop := List.head?_dropWhile_not p s
    rw [Option.mem_def.mp hc] at hstop
    simpa using hstop
  · rintro ⟨rest, rfl, hfront, hrest⟩
    rw [List.takeWhile_append_of_pos hfront]
    cases rest with
    | nil => simp
    | cons c rest => rw [List.takeWhile_cons_of_neg (by simp [hrest c rfl]), List.append_nil]

/-! ### Trimming -/

/-- White space. -/
def Blank (s : List Char) : Prop := ∀ c ∈ s, isWhitespace c = true

instance (s : List Char) : Decidable (Blank s) := List.decidableBAll _ s

theorem trimStart_append_blank {s : List Char} (h : Blank s) (t : List Char) : trimStart (s ++ t) = trimStart t := by
  unfold trimStart
  rw [List.dropWhile_append_of_pos h]

theorem trimEnd_append_blank {t : List Char} (h : Blank t) (s : List Char) : trimEnd (s ++ t) = trimEnd s := by
  unfold trimEnd
  rw [List.reverse_append, List.dropWhile_append_of_pos]
  exact fun c hc => h c (List.mem_reverse.mp hc)

/-- Trimming leaves white space in front. -/
theorem exists_blank_trimStart (s : List Char) : ∃ front, Blank front ∧ s = front ++ trimStart s :=
  ⟨s.takeWhile isWhitespace, fun _ hc => List.mem_takeWhile_imp hc, List.takeWhile_append_dropWhile.symm⟩

theorem exists_blank_trimEnd (s : List Char) : ∃ back, Blank back ∧ s = trimEnd s ++ back := by
  refine ⟨(s.reverse.takeWhile isWhitespace).reverse, fun c hc => ?_, ?_⟩
  · exact List.mem_takeWhile_imp (List.mem_reverse.mp hc)
  · unfold trimEnd
    rw [← List.reverse_append, List.takeWhile_append_dropWhile, List.reverse_reverse]

theorem trimEnd_eq_nil_iff (s : List Char) : trimEnd s = [] ↔ Blank s := by
  constructor
  · intro h
    obtain ⟨back, hback, hs⟩ := exists_blank_trimEnd s
    rw [h, List.nil_append] at hs
    rwa [hs]
  · intro h
    have := trimEnd_append_blank h []
    rwa [List.nil_append] at this

/-- What is trimmed already stays. -/
theorem trimEnd_trimEnd (s : List Char) : trimEnd (trimEnd s) = trimEnd s := by
  obtain ⟨back, hback, hs⟩ := exists_blank_trimEnd s
  rw [← trimEnd_append_blank hback (trimEnd s), ← hs]

/-- Trimming at the end stops at a character that is no white space. -/
theorem trimEnd_mark {q : Char} (hq : isWhitespace q = false) (s t : List Char) :
    trimEnd (s ++ q :: t) = s ++ q :: trimEnd t := by
  unfold trimEnd
  rw [List.reverse_append, List.reverse_cons, List.append_assoc, List.singleton_append, List.dropWhile_append]
  by_cases hblank : t.reverse.dropWhile isWhitespace = []
  · rw [hblank, List.isEmpty_nil, if_pos rfl, List.dropWhile_cons_of_neg (by simp [hq])]
    simp
  · rw [if_neg (by simpa using hblank)]
    simp

/-- **Trimming stops on both sides** at a character that is no white space. -/
theorem trim_mark {q : Char} (hq : isWhitespace q = false) (s t : List Char) :
    trimEnd (trimStart (s ++ q :: t)) = trimStart s ++ q :: trimEnd t := by
  rw [← trimEnd_mark hq]
  congr 1
  unfold trimStart
  rw [List.dropWhile_append]
  by_cases hblank : s.dropWhile isWhitespace = []
  · rw [hblank, List.isEmpty_nil, if_pos rfl, List.dropWhile_cons_of_neg (by simp [hq]), List.nil_append]
  · rw [if_neg (by simpa using hblank)]

end OpenfortivpnRs.Text
