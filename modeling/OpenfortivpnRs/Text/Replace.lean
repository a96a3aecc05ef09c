import OpenfortivpnRs.Text

/-!
# Replacing a pattern

`replace` by its equations: at each place the pattern stands there and is replaced, or a character
comes off the front (`replace_cons`).  A replacement that is shorter than the pattern leaves a text as
it is only where the pattern is not (`replace_eq_self_iff`).
-/

namespace OpenfortivpnRs.Text

variable {old new : List Char} (hold : old ≠ [])

theorem replace_of_none {s : List Char} (h : splitOnce old s = none) : replace old new hold s = s := by
  rw [replace]
  split
  · rfl
  · rename_i hsome
    rw [h] at hsome
    cases hsome

theorem replace_of_some {s before after : List Char} (h : splitOnce old s = some (before, after)) :
    replace old new hold s = before ++ new ++ replace old new hold after := by
  rw [replace]
  split
  · rename_i hnone
    rw [h] at hnone
    cases hnone
  · rename_i hsome
    rw [h] at hsome
    cases hsome
    rfl

@[simp] theorem replace_nil : replace old new hold [] = [] :=
  replace_of_none hold (by rw [splitOnce, if_neg hold])

theorem splitOnce_cons_neg {c : Char} {s : List Char} (hp : ¬ old <+: c :: s) :
    splitOnce old (c :: s) = (splitOnce old s).map fun (before, after) => (c :: before, after) := by
  rw [splitOnce, if_neg hp]

theorem replace_cons (c : Char) (s : List Char) :
    replace old new hold (c :: s) = if old <+: c :: s then new ++ replace old new hold ((c :: s).drop old.length)
      else c :: replace old new hold s := by
  by_cases hp : old <+: c :: s
  · have hfound : splitOnce old (c :: s) = some ([], (c :: s).drop old.length) := by
      rw [splitOnce, if_pos hp]
    rw [if_pos hp, replace_of_some hold hfound, List.nil_append]
  · have hstep := splitOnce_cons_neg hp
    rw [if_neg hp]
    cases hs : splitOnce old s with
    | none =>
      rw [hs] at hstep
      rw [replace_of_none hold hstep, replace_of_none hold hs]
    | some found =>
      rw [hs] at hstep
      rw [replace_of_some hold hstep, replace_of_some hold hs]
      rfl

/-- The pattern at the front is replaced. -/
theorem replace_hit (s : List Char) : replace old new hold (old ++ s) = new ++ replace old new hold s := by
  obtain ⟨c, tail, rfl⟩ := List.exists_cons_of_ne_nil hold
  rw [List.cons_append, replace_cons, if_pos ⟨s, List.cons_append⟩, ← List.cons_append, List.drop_left]

/-- A character in front of which the pattern does not stand stays. -/
theorem replace_miss {c : Char} {s : List Char} (h : ¬ old <+: c :: s) :
    replace old new hold (c :: s) = c :: replace old new hold s := by
  rw [replace_cons, if_neg h]

/-- A text without the pattern stays as it is. -/
theorem replace_of_not_infix {s : List Char} (h : ¬ old <:+: s) : replace old new hold s = s := by
  induction s with
  | nil => exact replace_nil hold
  | cons c s ih =>
    rw [List.infix_cons_iff, not_or] at h
    rw [replace_miss hold h.1, ih h.2]

/-- Replacing something by something shorter takes from the length. -/
theorem length_replace (hlen : new.length < old.length) (s : List Char) :
    (replace old new hold s).length ≤ s.length ∧
      (old <:+: s → (replace old new hold s).length < s.length) := by
  induction hn : s.length using Nat.strong_induction_on generalizing s with
  | _ n ih =>
    cases s with
    | nil =>
      rw [replace_nil]
      exact ⟨by simp, fun h => absurd (List.infix_nil.mp h) hold⟩
    | cons c s =>
      rw [List.length_cons] at hn
      by_cases hp : old <+: c :: s
      · have hle := hp.length_le
        have hdrop : ((c :: s).drop old.length).length = s.length + 1 - old.length := by
          rw [List.length_drop, List.length_cons]
        have hrest := (ih _ (by omega) _ hdrop).1
        rw [List.length_cons] at hle
        rw [replace_cons, if_pos hp, List.length_append]
        exact ⟨by omega, fun _ => by omega⟩
      · have hrest := ih _ (by omega) s rfl
        rw [replace_miss hold hp, List.length_cons, List.infix_cons_iff]
        exact ⟨by omega, fun h => by have := hrest.2 (h.resolve_left hp); omega⟩

/-- **A shorter replacement leaves exactly the texts without the pattern as they are.** -/
theorem replace_eq_self_iff (hlen : new.length < old.length) (s : List Char) :
    replace old new hold s = s ↔ ¬ old <:+: s := by
  refine ⟨fun h hp => ?_, replace_of_not_infix hold⟩
  have hlt := (length_replace hold hlen s).2 hp
  rw [h] at hlt
  exact lt_irrefl _ hlt

end OpenfortivpnRs.Text
