import Mathlib.Logic.Relation
import OpenfortivpnRs.Lib.Panics
import OpenfortivpnRs.Lib.Triple

/-!
# Programs on a state with another inside

A state may hold the state of a layer below and more.  `View.lift` runs the programs of that layer in
it, and a program `Erases` to one of the layer when the two do the same to the part they share.
`Moves` says that a program changes its state by steps of a relation only, however it ends.
-/

namespace OpenfortivpnRs.Lib

open Relation PanicM

variable {ε σ τ α β : Type}

/-! ### Where a program ends -/

/-- The state in which a program stops, in whatever way. -/
def leaves (c : PanicM ε σ α) (s : σ) : σ :=
  match c s with
  | .ok _ s' => s'
  | .error _ s' => s'

theorem leaves_ok {c : PanicM ε σ α} {s s' : σ} {a : α} (h : c s = .ok a s') : leaves c s = s' := by
  unfold leaves
  rw [h]

theorem leaves_error {c : PanicM ε σ α} {s s' : σ} {stop : Stop ε} (h : c s = .error stop s') :
    leaves c s = s' := by
  unfold leaves
  rw [h]

/-- The program changes its state by steps only. -/
def Moves (step : σ → σ → Prop) (c : PanicM ε σ α) : Prop := ∀ s, ReflTransGen step s (leaves c s)

namespace Moves

variable {step : σ → σ → Prop} {c : PanicM ε σ α}

theorem ret (a : α) : Moves step (pure a : PanicM ε σ α) := fun _ => .refl

theorem fail (err : ε) : Moves step (PanicM.fail err : PanicM ε σ α) := fun _ => .refl

theorem ofResult (x : Except ε α) : Moves step (PanicM.ofResult x : PanicM ε σ α) := by
  cases x with
  | ok a => exact ret a
  | error err => exact fail err

theorem bind {f : α → PanicM ε σ β} (hc : Moves step c) (hf : ∀ a, Moves step (f a)) :
    Moves step (c >>= f) := by
  intro s
  have hfirst := hc s
  unfold leaves at hfirst ⊢
  rcases h : c s with ⟨a, s'⟩ | ⟨stop, s'⟩
  · rw [h] at hfirst
    rw [bind_ok h]
    exact hfirst.trans (hf a s')
  · rw [h] at hfirst
    rw [bind_error h]
    exact hfirst

theorem result (hc : Moves step c) : Moves step (PanicM.result c) := by
  intro s
  have hrun := hc s
  rcases h : c s with ⟨a, s'⟩ | ⟨err | _, s'⟩
  · rw [leaves_ok h] at hrun
    rwa [leaves_ok (result_ok h)]
  · rw [leaves_error h] at hrun
    rwa [leaves_ok (result_failed h)]
  · rw [leaves_error h] at hrun
    rwa [leaves_error (result_panicked h)]

theorem mapM {f : β → PanicM ε σ α} (hf : ∀ b, Moves step (f b)) (bs : List β) :
    Moves step (bs.mapM f) := by
  induction bs with
  | nil => exact ret []
  | cons b bs ih =>
    rw [List.mapM_cons]
    exact (hf b).bind fun a => ih.bind fun as => ret (a :: as)

end Moves

/-! ### The layer below -/

/-- The part of a state that is the state of the layer below. -/
structure View (τ σ : Type) where
  get : τ → σ
  put : τ → σ → τ
  get_put : ∀ t s, get (put t s) = s

/-- What a program returned, with another state. -/
def mapState (f : τ → σ) : EStateM.Result (Stop ε) τ α → EStateM.Result (Stop ε) σ α
  | .ok a t => .ok a (f t)
  | .error stop t => .error stop (f t)

namespace View

variable (v : View τ σ)

/-- A program of the layer below. -/
def lift (c : PanicM ε σ α) : PanicM ε τ α := fun t => mapState (v.put t) (c (v.get t))

/-- The program does to the part below what `c` does. -/
def Erases (p : PanicM ε τ α) (c : PanicM ε σ α) : Prop := ∀ t, c (v.get t) = mapState v.get (p t)

variable {v} {p : PanicM ε τ α} {c : PanicM ε σ α}

theorem leaves_lift (t : τ) : leaves (v.lift c) t = v.put t (leaves c (v.get t)) := by
  unfold leaves lift
  rcases c (v.get t) with ⟨a, s⟩ | ⟨stop, s⟩
  · rfl
  · rfl

/-- The steps of the layer below are steps of the whole. -/
theorem moves_lift {below : σ → σ → Prop} {step : τ → τ → Prop} (hc : Moves below c)
    (hstep : ∀ t s s', below s s' → step (v.put t s) (v.put t s')) (hput : ∀ t, v.put t (v.get t) = t) :
    Moves step (v.lift c) := by
  intro t
  rw [leaves_lift]
  have hsteps : ReflTransGen step (v.put t (v.get t)) (v.put t (leaves c (v.get t))) :=
    (hc (v.get t)).lift (v.put t) fun s s' => hstep t s s'
  rwa [hput] at hsteps

theorem erases_lift (c : PanicM ε σ α) : v.Erases (v.lift c) c := by
  intro t
  unfold lift
  rcases c (v.get t) with ⟨a, s⟩ | ⟨stop, s⟩
  · simp only [mapState, v.get_put]
  · simp only [mapState, v.get_put]

theorem erases_ret (a : α) : v.Erases (pure a : PanicM ε τ α) (pure a) := fun _ => rfl

theorem erases_fail (err : ε) : v.Erases (PanicM.fail err : PanicM ε τ α) (PanicM.fail err) :=
  fun _ => rfl

theorem erases_ofResult (x : Except ε α) :
    v.Erases (PanicM.ofResult x : PanicM ε τ α) (PanicM.ofResult x) := by
  cases x with
  | ok a => exact erases_ret a
  | error err => exact erases_fail err

theorem Erases.bind {f : α → PanicM ε τ β} {g : α → PanicM ε σ β} (hc : v.Erases p c)
    (hf : ∀ a, v.Erases (f a) (g a)) : v.Erases (p >>= f) (c >>= g) := by
  intro t
  have hrun := hc t
  rcases h : p t with ⟨a, t'⟩ | ⟨stop, t'⟩
  · rw [h] at hrun
    rw [bind_ok h, bind_ok hrun]
    exact hf a t'
  · rw [h] at hrun
    rw [bind_error h, bind_error hrun]
    rfl

theorem Erases.result (hc : v.Erases p c) : v.Erases (PanicM.result p) (PanicM.result c) := by
  intro t
  have hrun := hc t
  rcases h : p t with ⟨a, t'⟩ | ⟨err | _, t'⟩
  · rw [h] at hrun
    rw [result_ok h, result_ok hrun]
    rfl
  · rw [h] at hrun
    rw [result_failed h, result_failed hrun]
    rfl
  · rw [h] at hrun
    rw [result_panicked h, result_panicked hrun]
    rfl

theorem Erases.mapM {f : β → PanicM ε τ α} {g : β → PanicM ε σ α} (hf : ∀ b, v.Erases (f b) (g b))
    (bs : List β) : v.Erases (bs.mapM f) (bs.mapM g) := by
  induction bs with
  | nil => exact erases_ret []
  | cons b bs ih =>
    rw [List.mapM_cons, List.mapM_cons]
    exact (hf b).bind fun a => ih.bind fun as => erases_ret (a :: as)

end View

end OpenfortivpnRs.Lib
