import OpenfortivpnRs.Lib.Triple

/-!
# Simulations

One program does on its state what another does on another state: from related states both return the
same or stop with the same error, in related states again.  The two may part ways once the first is in a
state it must not come to and cannot leave; the rules follow the way programs are put together.
-/

namespace OpenfortivpnRs.Lib

variable {ε σ τ α β : Type}

/-- The state a run ends in. -/
def endState : EStateM.Result ε σ α → σ
  | .ok _ s => s
  | .error _ s => s

theorem Triple.endState {P Q : σ → Prop} {c : EStateM ε σ α} (h : Triple P c (fun _ s => Q s) Q) {s : σ} (hs : P s) :
    Q (endState (c s)) := by
  have hmatch := h s hs
  cases hrun : c s with
  | ok a s' =>
    rw [hrun] at hmatch
    exact hmatch
  | error e s' =>
    rw [hrun] at hmatch
    exact hmatch

/-- Two runs return the same in states that `R` relates, or stop with the same error in states that `E`
relates. -/
def SameEnd (R E : σ → τ → Prop) : EStateM.Result ε σ α → EStateM.Result ε τ α → Prop
  | .ok a s, .ok b t => a = b ∧ R s t
  | .error e s, .error e' t => e = e' ∧ E s t
  | _, _ => False

/-- From states that `R` relates the runs end the same, if the first one does not end in a bad state, which
it cannot leave. -/
structure Simulates (bad : σ → Prop) (R E : σ → τ → Prop) (c : EStateM ε σ α) (d : EStateM ε τ α) :
    Prop where
  stays : ∀ s, bad s → bad (endState (c s))
  agrees : ∀ s t, R s t → ¬ bad (endState (c s)) → SameEnd R E (c s) (d t)

namespace Simulates

variable {bad : σ → Prop} {R E : σ → τ → Prop} {c : EStateM ε σ α} {d : EStateM ε τ α}

theorem ret (a : α) : Simulates bad R E (pure a : EStateM ε σ α) (pure a) where
  stays _ hs := hs
  agrees _ _ hst _ := ⟨rfl, hst⟩

theorem stop (e : ε) (h : ∀ s t, R s t → E s t) : Simulates bad R E (throw e : EStateM ε σ α) (throw e) where
  stays _ hs := hs
  agrees s t hst _ := ⟨rfl, h s t hst⟩

theorem bind {f : α → EStateM ε σ β} {g : α → EStateM ε τ β} (hc : Simulates bad R E c d)
    (hf : ∀ a, Simulates bad R E (f a) (g a)) : Simulates bad R E (c >>= f) (d >>= g) where
  stays s hs := by
    have hbad := hc.stays s hs
    cases hrun : c s with
    | ok a s' =>
      rw [hrun] at hbad
      rw [bind_ok hrun]
      exact (hf a).stays s' hbad
    | error e s' =>
      rw [hrun] at hbad
      rwa [bind_error hrun]
  agrees s t hst hend := by
    have hagrees := hc.agrees s t hst
    cases hrun : c s with
    | ok a s' =>
      rw [bind_ok hrun] at hend ⊢
      -- were the state bad here, it would be bad at the end
      rw [hrun] at hagrees
      have hsame := hagrees fun hbad => hend ((hf a).stays s' hbad)
      cases hrun' : d t with
      | ok b t' =>
        rw [hrun'] at hsame
        obtain ⟨rfl, hst'⟩ := hsame
        rw [bind_ok hrun']
        exact (hf a).agrees s' t' hst' hend
      | error e t' =>
        rw [hrun'] at hsame
        exact hsame.elim
    | error e s' =>
      rw [bind_error hrun] at hend ⊢
      rw [hrun] at hagrees
      have hsame := hagrees hend
      cases hrun' : d t with
      | ok b t' =>
        rw [hrun'] at hsame
        exact hsame.elim
      | error e' t' =>
        rw [hrun'] at hsame
        rw [bind_error hrun']
        exact hsame

/-- A program that simulates itself keeps what is so of a state and itself. -/
theorem triple {P E' : σ → Prop} {c : EStateM ε σ α}
    (h : Simulates (fun _ => False) (fun s t => s = t ∧ P s) (fun s t => s = t ∧ E' s) c c) :
    Triple P c (fun _ s => P s) E' := by
  intro s hs
  have hsame := h.agrees s s ⟨rfl, hs⟩ id
  cases hrun : c s with
  | ok a s' =>
    rw [hrun] at hsame
    exact hsame.2.2
  | error e s' =>
    rw [hrun] at hsame
    exact hsame.2.2

theorem of_triple {P E' : σ → Prop} {c : EStateM ε σ α} (h : Triple P c (fun _ s => P s) E') :
    Simulates (fun _ => False) (fun s t => s = t ∧ P s) (fun s t => s = t ∧ E' s) c c where
  stays _ hs := hs
  agrees s t hst _ := by
    obtain ⟨rfl, hs⟩ := hst
    have hmatch := h s hs
    cases hrun : c s with
    | ok a s' =>
      rw [hrun] at hmatch
      exact ⟨rfl, rfl, hmatch⟩
    | error e s' =>
      rw [hrun] at hmatch
      exact ⟨rfl, rfl, hmatch⟩

end Simulates

end OpenfortivpnRs.Lib
