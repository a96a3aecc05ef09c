import Mathlib.Tactic

/-!
# Triples

Pre- and postconditions for programs that keep a state and may stop early.  A triple says what holds
of the state when a program that starts in `P` returns (`Q`) and when it stops (`E`); the rules
follow the way programs are put together.
-/

namespace OpenfortivpnRs.Lib

variable {ε σ α β : Type}

/-- From a state in `P` the program returns into `Q` or stops in `E`. -/
def Triple (P : σ → Prop) (c : EStateM ε σ α) (Q : α → σ → Prop) (E : σ → Prop) : Prop :=
  ∀ s, P s → match c s with
    | .ok a s' => Q a s'
    | .error _ s' => E s'

/-- The result of a program that does not stop the program it is a part of. -/
def attempt (c : EStateM ε σ α) : EStateM ε σ (Except ε α) := fun s =>
  match c s with
  | .ok a s => .ok (.ok a) s
  | .error e s => .ok (.error e) s

namespace Triple

variable {P P' : σ → Prop} {Q Q' : α → σ → Prop} {E E' : σ → Prop} {c : EStateM ε σ α}

theorem conseq (h : Triple P c Q E) (hp : ∀ s, P' s → P s) (hq : ∀ a s, Q a s → Q' a s)
    (he : ∀ s, E s → E' s) : Triple P' c Q' E' := by
  intro s hs
  have hrun := h s (hp s hs)
  cases hc : c s with
  | ok a s' => rw [hc] at hrun; exact hq a s' hrun
  | error e s' => rw [hc] at hrun; exact he s' hrun

theorem ret (a : α) (h : ∀ s, P s → Q a s) : Triple P (pure a : EStateM ε σ α) Q E := h

theorem stop (e : ε) (h : ∀ s, P s → E s) : Triple P (throw e : EStateM ε σ α) Q E := h

theorem bind {R : β → σ → Prop} {f : α → EStateM ε σ β} (hc : Triple P c Q E)
    (hf : ∀ a, Triple (Q a) (f a) R E) : Triple P (c >>= f) R E := by
  intro s hs
  have hrun := hc s hs
  show match EStateM.bind c f s with
    | .ok b s' => R b s'
    | .error _ s' => E s'
  unfold EStateM.bind
  cases h : c s with
  | ok a s' => rw [h] at hrun; exact hf a s' hrun
  | error e s' => rw [h] at hrun; exact hrun

/-- A program that stops goes on with its error. -/
theorem attempt (h : Triple P c Q E) {E'' : σ → Prop} :
    Triple P (attempt c) (fun result s => match result with | .ok a => Q a s | .error _ => E s) E'' := by
  intro s hs
  have hrun := h s hs
  unfold Lib.attempt
  cases hc : c s with
  | ok a s' => rw [hc] at hrun; exact hrun
  | error e s' => rw [hc] at hrun; exact hrun

/-- What does not depend on the state may be assumed. -/
theorem of_imp {φ : Prop} (h : φ → Triple P c Q E) : Triple (fun s => φ ∧ P s) c Q E :=
  fun s hs => h hs.1 s hs.2

/-- What a run from a given state ends in. -/
theorem run_ok {s s' : σ} {a : α} (h : Triple P c Q E) (hs : P s) (hrun : c s = .ok a s') :
    Q a s' := by
  have hmatch := h s hs
  rwa [hrun] at hmatch

theorem run_error {s s' : σ} {e : ε} (h : Triple P c Q E) (hs : P s) (hrun : c s = .error e s') :
    E s' := by
  have hmatch := h s hs
  rwa [hrun] at hmatch

end Triple

/-! ### Programs that return -/

/-- A run from the state returns. -/
def Returns (c : EStateM ε σ α) (s : σ) : Prop := ∃ a s', c s = .ok a s'

section Returns

variable {c : EStateM ε σ α} {f : α → EStateM ε σ β} {s : σ}

theorem returns_pure (a : α) (s : σ) : Returns (pure a : EStateM ε σ α) s := ⟨a, s, rfl⟩

theorem bind_ok {s' : σ} {a : α} (hc : c s = .ok a s') : (c >>= f) s = f a s' := by
  show EStateM.bind c f s = _
  unfold EStateM.bind
  rw [hc]

theorem bind_error {s' : σ} {e : ε} (hc : c s = .error e s') : (c >>= f) s = .error e s' := by
  show EStateM.bind c f s = _
  unfold EStateM.bind
  rw [hc]

/-- A run that returns, taken apart. -/
theorem bind_eq_ok {s' : σ} {b : β} :
    (c >>= f) s = .ok b s' ↔ ∃ a s₁, c s = .ok a s₁ ∧ f a s₁ = .ok b s' := by
  rcases hc : c s with ⟨a, s₁⟩ | ⟨e, s₁⟩
  · rw [bind_ok hc]
    refine ⟨fun h => ⟨a, s₁, rfl, h⟩, ?_⟩
    rintro ⟨_, _, h, hf⟩
    cases h
    exact hf
  · rw [bind_error hc]
    constructor
    · nofun
    · rintro ⟨_, _, h, -⟩
      cases h

theorem returns_bind : Returns (c >>= f) s ↔ ∃ a s', c s = .ok a s' ∧ Returns (f a) s' := by
  constructor
  · rintro ⟨b, s', hrun⟩
    obtain ⟨a, s₁, hc, hf⟩ := bind_eq_ok.mp hrun
    exact ⟨a, s₁, hc, b, s', hf⟩
  · rintro ⟨a, s₁, hc, b, s', hf⟩
    exact ⟨b, s', bind_eq_ok.mpr ⟨a, s₁, hc, hf⟩⟩

theorem returns_attempt (c : EStateM ε σ α) (s : σ) : Returns (attempt c) s := by
  unfold attempt
  cases hc : c s with
  | ok a s' => exact ⟨.ok a, s', by simp only [hc]⟩
  | error e s' => exact ⟨.error e, s', by simp only [hc]⟩

/-- What follows an attempt goes on with the result or the error. -/
theorem returns_attempt_bind {f : Except ε α → EStateM ε σ β} : Returns (attempt c >>= f) s ↔
    (∀ a s', c s = .ok a s' → Returns (f (.ok a)) s') ∧
      ∀ e s', c s = .error e s' → Returns (f (.error e)) s' := by
  rw [returns_bind]
  unfold attempt
  cases hc : c s with
  | ok a s' =>
    refine ⟨?_, fun h => ⟨.ok a, s', rfl, h.1 a s' rfl⟩⟩
    rintro ⟨_, _, h, hret⟩
    cases h
    refine ⟨fun _ _ h => ?_, nofun⟩
    cases h
    exact hret
  | error e s' =>
    refine ⟨?_, fun h => ⟨.error e, s', rfl, h.2 e s' rfl⟩⟩
    rintro ⟨_, _, h, hret⟩
    cases h
    refine ⟨nofun, fun _ _ h => ?_⟩
    cases h
    exact hret

end Returns

end OpenfortivpnRs.Lib
