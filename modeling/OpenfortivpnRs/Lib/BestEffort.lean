import Mathlib.Tactic

/-!
# Best effort

A list of actions of which each may fail is attempted to its end whatever fails on the way, and the
first error is reported.
-/

namespace OpenfortivpnRs.Lib.BestEffort

variable {σ α ε : Type*}

/-- The first error of a list of results. -/
def firstError : List (Except ε Unit) → Except ε Unit
  | [] => .ok ()
  | .error e :: _ => .error e
  | .ok () :: results => firstError results

/-- Every action is attempted, in order; the attempts with their results and the state left. -/
def attemptAll (act : α → σ → Except ε Unit × σ) : List α → σ → List (α × Except ε Unit) × σ
  | [], s => ([], s)
  | a :: as, s =>
    let (result, s') := act a s
    let (tried, s'') := attemptAll act as s'
    ((a, result) :: tried, s'')

/-- The results of a list of attempts. -/
def results (tried : List (α × Except ε Unit)) : List (Except ε Unit) := tried.map Prod.snd

variable {act : α → σ → Except ε Unit × σ}

theorem attemptAll_fst (as : List α) (s : σ) : (attemptAll act as s).1.map Prod.fst = as := by
  induction as generalizing s with
  | nil => rfl
  | cons a as ih => simp only [attemptAll, List.map_cons, ih]

theorem results_append (tried tried' : List (α × Except ε Unit)) :
    results (tried ++ tried') = results tried ++ results tried' :=
  List.map_append

/-- No error is reported exactly when every attempt succeeded. -/
theorem firstError_eq_ok_iff {rs : List (Except ε Unit)} :
    firstError rs = .ok () ↔ ∀ r ∈ rs, r = .ok () := by
  induction rs with
  | nil => simp [firstError]
  | cons r rs ih =>
    rcases r with e | ⟨⟩
    · simp [firstError]
    · simp [firstError, ih]

/-- An error at the end is the first one unless an earlier attempt failed. -/
theorem firstError_snoc_error {rs : List (Except ε Unit)} {e : ε} :
    firstError (rs ++ [.error e]) = .error e ↔
      ∀ e', firstError rs = .error e' → e' = e := by
  induction rs with
  | nil => simp [firstError]
  | cons r rs ih =>
    rcases r with e' | ⟨⟩
    · simp [firstError]
    · simpa [firstError] using ih

end OpenfortivpnRs.Lib.BestEffort
