import OpenfortivpnRs.Text

/-!
# The lines of a text

`lines` by its equations: a line without newline in front of a newline comes off the front
(`lineList_cons`).  A text is cut by `text_induction` at its first newline; so lines are counted, and
texts that end in a newline put together.
-/

namespace OpenfortivpnRs.Text

/-- `lines` on characters. -/
def lineList (s : List Char) : List (List Char) :=
  (s.splitOn '\n').dropLast.map stripCarriageReturn ++ ((s.splitOn '\n').getLast?.toList.filter (· ≠ []))

theorem lines_eq (s : String) : lines s = (lineList s.toList).map .ofList := rfl

/-- Lines, each closed by a newline. -/
def unlines (ls : List (List Char)) : List Char := ls.flatMap (· ++ ['\n'])

/-- A line that comes back from `unlines`: it has no newline in it and no carriage return at its end. -/
def Plain (line : List Char) : Prop := '\n' ∉ line ∧ line.getLast? ≠ some '\r'

instance : DecidablePred Plain := fun _ => inferInstanceAs (Decidable (_ ∧ _))

theorem Plain.strip {line : List Char} (h : Plain line) : stripCarriageReturn line = line := if_neg h.2

theorem stripCarriageReturn_ne {line : List Char} (h : line.getLast? = some '\r') :
    (stripCarriageReturn line).length < line.length := by
  have hne : line ≠ [] := by
    rintro rfl
    cases h
  have := List.length_pos_iff.mpr hne
  rw [stripCarriageReturn, if_pos h, List.length_dropLast]
  omega

theorem length_strip_le (line : List Char) : (stripCarriageReturn line).length ≤ line.length := by
  unfold stripCarriageReturn
  split
  · rw [List.length_dropLast]
    omega
  · exact le_rfl

@[simp] theorem lineList_nil : lineList [] = [] := by decide

/-- The last line, without newline. -/
theorem lineList_last {l : List Char} (h : '\n' ∉ l) (hne : l ≠ []) : lineList l = [l] := by
  simp [lineList, List.splitOn_eq_singleton h, hne]

theorem lineList_cons {l : List Char} (h : '\n' ∉ l) (rest : List Char) :
    lineList (l ++ '\n' :: rest) = stripCarriageReturn l :: lineList rest := by
  have hne : rest.splitOn '\n' ≠ [] := List.splitOn_ne_nil '\n' rest
  have hsplit : (l ++ '\n' :: rest).splitOn '\n' = l :: rest.splitOn '\n' := by
    rw [List.splitOn_append_cons_self, List.splitOn_eq_singleton h]
    rfl
  unfold lineList
  rw [hsplit, List.dropLast_cons_of_ne_nil hne, List.getLast?_cons_of_ne_nil hne]
  rfl

/-- A text has no newline, or a first one. -/
theorem text_induction {P : List Char → Prop} (last : ∀ l, '\n' ∉ l → P l)
    (line : ∀ l rest, '\n' ∉ l → P rest → P (l ++ '\n' :: rest)) (s : List Char) : P s := by
  induction hn : s.length using Nat.strong_induction_on generalizing s with
  | _ n ih =>
    by_cases h : '\n' ∈ s
    · obtain ⟨l, rest, rfl, hl⟩ := List.eq_append_cons_of_mem h
      refine line l rest hl (ih rest.length ?_ rest rfl)
      rw [← hn, List.length_append, List.length_cons]
      omega
    · exact last s h

/-- A line holds no newline. -/
theorem newline_not_mem {s line : List Char} (h : line ∈ lineList s) : '\n' ∉ line := by
  induction s using text_induction with
  | last l hl =>
    by_cases hne : l = []
    · rw [hne, lineList_nil] at h
      cases h
    · rw [lineList_last hl hne, List.mem_singleton] at h
      rw [h]
      exact hl
  | line l rest hl ih =>
    rw [lineList_cons hl, List.mem_cons] at h
    rcases h with rfl | h
    · unfold stripCarriageReturn
      split
      · exact fun hm => hl (List.mem_of_mem_dropLast hm)
      · exact hl
    · exact ih h

/-! ### Cutting at newlines and nothing else -/

/-- No piece holds a newline. -/
theorem newline_not_mem_piece {s piece : List Char} (h : piece ∈ s.splitOn '\n') : '\n' ∉ piece := by
  induction s using text_induction with
  | last l hl =>
    rw [List.splitOn_eq_singleton hl, List.mem_singleton] at h
    rw [h]
    exact hl
  | line l rest hl ih =>
    rw [List.splitOn_append_cons_self_of_not_mem hl, List.mem_cons] at h
    rcases h with rfl | h
    · exact hl
    · exact ih h

/-- A piece holds only what is cut. -/
theorem mem_of_mem_splitOnP {p : Char → Bool} {s piece : List Char} {c : Char} (h : piece ∈ s.splitOnP p)
    (hc : c ∈ piece) : c ∈ s := by
  induction s generalizing piece with
  | nil =>
    rw [List.splitOnP_nil, List.mem_singleton] at h
    rwa [h] at hc
  | cons d s ih =>
    rw [List.splitOnP_cons_eq_if_modifyHead] at h
    split at h
    · rcases List.mem_cons.mp h with rfl | h
      · cases hc
      · exact List.mem_cons_of_mem _ (ih h hc)
    · obtain ⟨front, pieces, hpieces⟩ := List.exists_cons_of_ne_nil (List.splitOnP_ne_nil p s)
      rw [hpieces] at h ih
      rcases List.mem_cons.mp h with rfl | h
      · rcases List.mem_cons.mp hc with rfl | hc
        · exact List.mem_cons_self
        · exact List.mem_cons_of_mem _ (ih List.mem_cons_self hc)
      · exact List.mem_cons_of_mem _ (ih (List.mem_cons_of_mem _ h) hc)

/-! ### Texts that end in a newline -/

/-- The lines of a text behind a newline follow those in front of it. -/
theorem lineList_append (l rest : List Char) :
    lineList (l ++ '\n' :: rest) = lineList (l ++ ['\n']) ++ lineList rest := by
  induction l using text_induction with
  | last l hl => rw [lineList_cons hl, lineList_cons hl, lineList_nil]; rfl
  | line l more hl ih =>
    rw [List.append_assoc, List.cons_append, lineList_cons hl, ih, List.append_assoc, List.cons_append,
      lineList_cons hl]
    rfl

/-- As many lines as newlines. -/
theorem length_lineList (l : List Char) : (lineList (l ++ ['\n'])).length = l.count '\n' + 1 := by
  induction l using text_induction with
  | last l hl => rw [lineList_cons hl, List.count_eq_zero_of_not_mem hl]; rfl
  | line l more hl ih =>
    rw [List.append_assoc, List.cons_append, lineList_cons hl, List.length_cons, ih, List.count_append,
      List.count_cons_self, List.count_eq_zero_of_not_mem hl]
    omega

theorem unlines_cons (l : List Char) (ls : List (List Char)) :
    unlines (l :: ls) = l ++ '\n' :: unlines ls := by
  simp [unlines]

/-- Closed lines are cut into themselves, with nothing behind the last newline, if and only if there is no
other newline in them. -/
theorem splitOn_unlines_iff {ls : List (List Char)} :
    (unlines ls).splitOn '\n' = ls ++ [[]] ↔ ∀ l ∈ ls, '\n' ∉ l := by
  constructor
  · intro h l hl
    refine @newline_not_mem_piece (unlines ls) l ?_
    rw [h]
    exact List.mem_append_left _ hl
  · intro h
    induction ls with
    | nil => rfl
    | cons l ls ih =>
      rw [unlines_cons, List.splitOn_append_cons_self_of_not_mem (h l List.mem_cons_self),
        ih fun l hl => h l (List.mem_cons_of_mem _ hl)]
      rfl

theorem lineList_unlines_append (ls : List (List Char)) (rest : List Char) :
    lineList (unlines ls ++ rest) = lineList (unlines ls) ++ lineList rest := by
  induction ls with
  | nil => simp [unlines]
  | cons l ls ih =>
    rw [unlines_cons, List.append_assoc, List.cons_append, lineList_append, ih, lineList_append l (unlines ls),
      List.append_assoc]

/-- Each line of `ls` becomes a line, and each newline in it begins another. -/
theorem length_lineList_unlines (ls : List (List Char)) :
    (lineList (unlines ls)).length = (ls.map (List.count '\n')).sum + ls.length := by
  induction ls with
  | nil => simp [unlines]
  | cons l ls ih =>
    rw [unlines_cons, lineList_append, List.length_append, ih, length_lineList, List.map_cons,
      List.sum_cons, List.length_cons]
    omega

/-- Lines without newlines come back, but for a carriage return at their end. -/
theorem lineList_unlines {ls : List (List Char)} (h : ∀ l ∈ ls, '\n' ∉ l) :
    lineList (unlines ls) = ls.map stripCarriageReturn := by
  induction ls with
  | nil => simp [unlines]
  | cons l ls ih =>
    rw [unlines_cons, lineList_cons (h l (List.mem_cons_self ..)),
      ih fun l hl => h l (List.mem_cons_of_mem _ hl), List.map_cons]

/-- **Plain lines come back as they are.** -/
theorem lineList_unlines_plain {ls : List (List Char)} (h : ∀ l ∈ ls, Plain l) :
    lineList (unlines ls) = ls := by
  rw [lineList_unlines fun l hl => (h l hl).1]
  exact (List.map_congr_left fun l hl => (h l hl).strip).trans (List.map_id _)

end OpenfortivpnRs.Text
