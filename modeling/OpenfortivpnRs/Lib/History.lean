import Mathlib.Tactic

/-!
# Machines that answer calls

A machine is a step function: on a call it gives an entry for the record and the next state.  A list
of calls leaves a history of entries and a state; what holds at the start and is kept by every step
holds of them (`history_invariant`).
-/

namespace OpenfortivpnRs.Lib.History

variable {σ κ ω : Type*} (step : σ → κ → ω × σ)

/-- The entries of a list of calls, oldest first. -/
def history : σ → List κ → List ω
  | _, [] => []
  | s, c :: cs => (step s c).1 :: history (step s c).2 cs

/-- The state a list of calls leaves. -/
def after : σ → List κ → σ
  | s, [] => s
  | s, c :: cs => after (step s c).2 cs

variable {step}

theorem history_append (cs cs' : List κ) : ∀ s, history step s (cs ++ cs') =
    history step s cs ++ history step (after step s cs) cs' := by
  induction cs with
  | nil => intro s; rfl
  | cons c cs ih => intro s; simp only [List.cons_append, history, after, ih]

theorem after_append (cs cs' : List κ) : ∀ s, after step s (cs ++ cs') =
    after step (after step s cs) cs' := by
  induction cs with
  | nil => intro s; rfl
  | cons c cs ih => intro s; simp only [List.cons_append, after, ih]

/-- **Invariants of a run.**  What holds of the empty history and is kept when a call extends the
history holds of every history and the state it leaves. -/
theorem history_invariant {Inv : List ω → σ → Prop} {s : σ} (hinit : Inv [] s)
    (hstep : ∀ {h s} c, Inv h s → Inv (h ++ [(step s c).1]) (step s c).2) (cs : List κ) :
    Inv (history step s cs) (after step s cs) := by
  induction cs using List.reverseRecOn with
  | nil => exact hinit
  | append_singleton cs c ih =>
    rw [history_append, after_append]
    exact hstep c ih

/-- An entry of a history was made by a call, in the state that the calls before it left. -/
theorem history_split {cs : List κ} {before rest : List ω} {w : ω} : ∀ {s},
    history step s cs = before ++ w :: rest → ∃ front c back, cs = front ++ c :: back ∧
      before = history step s front ∧ w = (step (after step s front) c).1 := by
  induction cs generalizing before with
  | nil => intro s h; simp [history] at h
  | cons c cs ih =>
    intro s h
    rcases before with _ | ⟨w', before⟩
    · rw [List.nil_append] at h
      obtain ⟨hw, -⟩ := List.cons.inj h
      exact ⟨[], c, cs, rfl, rfl, hw.symm⟩
    · obtain ⟨rfl, h'⟩ := List.cons.inj h
      obtain ⟨front, d, back, rfl, rfl, hw⟩ := ih h'
      exact ⟨c :: front, d, back, rfl, rfl, hw⟩

/-- An element of a list that grew at its end is the new one or stands in the old list. -/
theorem snoc_eq_append_cons {α : Type*} {xs l m : List α} {x y : α} (h : xs ++ [x] = l ++ y :: m) :
    (m = [] ∧ l = xs ∧ y = x) ∨ ∃ m', m = m' ++ [x] ∧ xs = l ++ y :: m' := by
  rcases List.eq_nil_or_concat m with rfl | ⟨m', last, rfl⟩
  · obtain ⟨hl, hlast⟩ := List.append_inj' h rfl
    exact .inl ⟨rfl, hl.symm, (List.cons.inj hlast).1.symm⟩
  · rw [List.concat_eq_append, ← List.cons_append, ← List.append_assoc] at h
    obtain ⟨hxs, hlast⟩ := List.append_inj' h rfl
    rw [List.concat_eq_append, (List.cons.inj hlast).1]
    exact .inr ⟨m', rfl, hxs⟩

end OpenfortivpnRs.Lib.History
