import Mathlib.Tactic

/-!
# Programs that may fail or panic

A program over a state returns, fails with an error, which its caller may handle, or panics, which
ends everything.  `Safe` is the triple of such programs that never panic.
-/

namespace OpenfortivpnRs.Lib

variable {ε σ α β : Type}

/-- How a program stops. -/
inductive Stop (ε : Type)
  | failed (err : ε)
  | panicked
  deriving DecidableEq

abbrev PanicM (ε σ α : Type) : Type := EStateM (Stop ε) σ α

namespace PanicM

def fail (err : ε) : PanicM ε σ α := throw (.failed err)

/-- A result of something else, passed on with `?`. -/
def ofResult : Except ε α → PanicM ε σ α
  | .ok a => pure a
  | .error err => fail err

/-- The result of a program whose failure is handled. -/
def result (c : PanicM ε σ α) : PanicM ε σ (Except ε α) := fun s =>
  match c s with
  | .ok a s => .ok (.ok a) s
  | .error (.failed err) s => .ok (.error err) s
  | .error .panicked s => .error .panicked s

section Result

variable {c : PanicM ε σ α} {s s' : σ}

theorem result_ok {a : α} (hc : c s = .ok a s') : result c s = .ok (.ok a) s' := by
  unfold result
  rw [hc]

theorem result_failed {err : ε} (hc : c s = .error (.failed err) s') :
    result c s = .ok (.error err) s' := by
  unfold result
  rw [hc]

theorem result_panicked (hc : c s = .error .panicked s') : result c s = .error .panicked s' := by
  unfold result
  rw [hc]

end Result

end PanicM

/-- From a state in `P` the program returns into `Q` or fails into `E`, and does not panic. -/
def Safe (P : σ → Prop) (c : PanicM ε σ α) (Q : α → σ → Prop) (E : σ → Prop) : Prop :=
  ∀ s, P s → match c s with
    | .ok a s' => Q a s'
    | .error (.failed _) s' => E s'
    | .error .panicked _ => False

namespace Safe

open PanicM

variable {P P' : σ → Prop} {Q Q' : α → σ → Prop} {E E' : σ → Prop} {c : PanicM ε σ α}

theorem conseq (h : Safe P c Q E) (hp : ∀ s, P' s → P s) (hq : ∀ a s, Q a s → Q' a s)
    (he : ∀ s, E s → E' s) : Safe P' c Q' E' := by
  intro s hs
  have hrun := h s (hp s hs)
  rcases hc : c s with ⟨a, s'⟩ | ⟨err | _, s'⟩
  · rw [hc] at hrun
    exact hq a s' hrun
  · rw [hc] at hrun
    exact he s' hrun
  · rw [hc] at hrun
    exact hrun

theorem ret {a : α} (h : ∀ s, P s → Q a s) : Safe P (pure a : PanicM ε σ α) Q E := h

theorem fail {err : ε} (h : ∀ s, P s → E s) : Safe P (PanicM.fail err : PanicM ε σ α) Q E := h

theorem ofResult {x : Except ε α} (hok : ∀ a, x = .ok a → ∀ s, P s → Q a s)
    (herror : ∀ err, x = .error err → ∀ s, P s → E s) :
    Safe P (PanicM.ofResult x : PanicM ε σ α) Q E := by
  cases x with
  | ok a => exact ret (hok a rfl)
  | error err => exact fail (herror err rfl)

theorem bind {R : β → σ → Prop} {f : α → PanicM ε σ β} (hc : Safe P c Q E)
    (hf : ∀ a, Safe (Q a) (f a) R E) : Safe P (c >>= f) R E := by
  intro s hs
  have hrun := hc s hs
  show match EStateM.bind c f s with
    | .ok b s' => R b s'
    | .error (.failed _) s' => E s'
    | .error .panicked _ => False
  unfold EStateM.bind
  rcases h : c s with ⟨a, s'⟩ | ⟨err | _, s'⟩
  · rw [h] at hrun
    exact hf a s' hrun
  · rw [h] at hrun
    exact hrun
  · rw [h] at hrun
    exact hrun

/-- What does not depend on the state may be assumed. -/
theorem of_imp {φ : Prop} (h : φ → Safe P c Q E) : Safe (fun s => φ ∧ P s) c Q E :=
  fun s hs => h hs.1 s hs.2

/-- A program whose failure is handled does not fail. -/
theorem result (h : Safe P c Q E) : Safe P (PanicM.result c)
    (fun r s => match r with | .ok a => Q a s | .error _ => E s) E' := by
  intro s hs
  have hrun := h s hs
  rcases hc : c s with ⟨a, s'⟩ | ⟨err | _, s'⟩
  · rw [result_ok hc]
    rw [hc] at hrun
    exact hrun
  · rw [result_failed hc]
    rw [hc] at hrun
    exact hrun
  · rw [hc] at hrun
    exact hrun.elim

/-- A run that returns. -/
theorem run_ok {s s' : σ} {a : α} (h : Safe P c Q E) (hs : P s) (hrun : c s = .ok a s') :
    Q a s' := by
  have hmatch := h s hs
  rwa [hrun] at hmatch

theorem no_panic {s s' : σ} (h : Safe P c Q E) (hs : P s) : c s ≠ .error .panicked s' := by
  intro hrun
  have hmatch := h s hs
  rwa [hrun] at hmatch

end Safe

end OpenfortivpnRs.Lib
