import OpenfortivpnRs.Net.Rollback

/-!
# Plans that fail

A plan that fails takes back what it applied, with one exception besides the one of `rollback`: the
arm for `RunCommand` returns by `?` and skips the rollback.
-/

namespace OpenfortivpnRs.Net

open Lib.BestEffort

variable {σ : Type} {host : Host σ} {options : ApplyOptions}

/-- If the run returns an error, it has attempted the undo of every recorded action, the last one
first. -/
def RolledBack (run : ApplyRun σ) : Prop :=
  ∀ err, run.result = .error err → run.attempts.map Prod.fst = run.recorded.reverse

/-! ### The steps of a plan -/

variable (host options) in
/-- The actions succeed one after another: the plan and the state they leave. -/
def applyAll : List NetworkAction → AppliedNetworkPlan → σ → Option (AppliedNetworkPlan × σ)
  | [], applied, s => some (applied, s)
  | action :: actions, applied, s =>
    match applyAction host options applied action s with
    | .ok (.ok applied') s' => applyAll actions applied' s'
    | _ => none

variable (host options) in
/-- What lets a run of `actions` that fails be rolled back.  When the actions before it succeed and
the next one fails, it is a command only if nothing is recorded yet, and otherwise no record of
`resolv.conf` meets an unreadable file while others are still to be undone. -/
def FailsSafely (actions : List NetworkAction) (applied : AppliedNetworkPlan) (s : σ) : Prop :=
  ∀ before action after recorded t, actions = before ++ action :: after →
    applyAll host options before applied s = some (recorded, t) →
    (∀ program args err t', action = .runCommand program args →
      runCommand host program args t = .error err t' → recorded.applied = []) ∧
    ∀ err t', applyAction host options recorded action t = .ok (.error err) t' →
      UnreadableOnlyLast host recorded.applied t'

/-- Only a command returns from `apply_network_plan` at once. -/
theorem applyAction_eq_error_iff {applied : AppliedNetworkPlan} {action : NetworkAction} {s s' : σ}
    {err : OpenfortivpnError} : applyAction host options applied action s = .error err s' ↔
      ∃ program args, action = .runCommand program args ∧ runCommand host program args s = .error err s' := by
  cases action with
  | runCommand program args =>
    simp only [applyAction, bind, EStateM.bind]
    rcases hrun : runCommand host program args s with ⟨⟨⟩, t⟩ | ⟨err', t⟩
    · constructor
      · intro h
        rcases hargs : rollbackArgsForCommand program args with _ | rollbackArgs
        · rw [hargs] at h; cases h
        · rw [hargs] at h; cases h
      · rintro ⟨_, _, hact, h⟩
        obtain ⟨rfl, rfl⟩ := NetworkAction.runCommand.inj hact
        rw [hrun] at h
        cases h
    · constructor
      · intro h
        cases h
        exact ⟨program, args, rfl, hrun⟩
      · rintro ⟨_, _, hact, h⟩
        obtain ⟨rfl, rfl⟩ := NetworkAction.runCommand.inj hact
        rw [hrun] at h
        cases h
        rfl
  | _ =>
    constructor
    · intro h; exact absurd h (Cmd.attempt_ne_error _ _ _ _)
    · rintro ⟨_, _, h, -⟩; cases h

/-! ### The runs of a plan -/

/-- A plan of no actions does not fail. -/
theorem failsSafely_nil (applied : AppliedNetworkPlan) (s : σ) :
    FailsSafely host options [] applied s := by
  intro before action after recorded t h
  simp at h

/-- Behind an action that succeeds, the rest of the plan decides. -/
theorem failsSafely_cons_ok {action : NetworkAction} {actions : List NetworkAction}
    {applied applied' : AppliedNetworkPlan} {s s' : σ}
    (h : applyAction host options applied action s = .ok (.ok applied') s') :
    FailsSafely host options (action :: actions) applied s ↔
      FailsSafely host options actions applied' s' := by
  constructor
  · rintro hsafe before action' after recorded t rfl hall
    refine hsafe (action :: before) action' after recorded t rfl ?_
    rw [applyAll, h]
    exact hall
  · intro hsafe before action' after recorded t hsplit hall
    rcases before with _ | ⟨a, before⟩
    · -- the action itself has succeeded
      obtain ⟨rfl, rfl⟩ := List.cons.inj hsplit
      cases hall
      refine ⟨?_, ?_⟩
      · intro program args err t' hact hrun
        rw [applyAction_eq_error_iff.mpr ⟨program, args, hact, hrun⟩] at h
        cases h
      · intro err t' herr
        rw [h] at herr
        cases herr
    · obtain ⟨rfl, rfl⟩ := List.cons.inj hsplit
      rw [applyAll, h] at hall
      exact hsafe before action' after recorded t rfl hall

/-- At an action that fails, it alone decides. -/
theorem failsSafely_cons_fail {action : NetworkAction} {actions : List NetworkAction}
    {applied : AppliedNetworkPlan} {s : σ}
    (h : ∀ applied' s', applyAction host options applied action s ≠ .ok (.ok applied') s') :
    FailsSafely host options (action :: actions) applied s ↔
      (∀ err s', applyAction host options applied action s = .error err s' → applied.applied = []) ∧
      ∀ err s', applyAction host options applied action s = .ok (.error err) s' →
        UnreadableOnlyLast host applied.applied s' := by
  constructor
  · intro hsafe
    obtain ⟨h1, h2⟩ := hsafe [] action actions applied s rfl rfl
    refine ⟨?_, h2⟩
    intro err s' herr
    obtain ⟨program, args, hact, hrun⟩ := applyAction_eq_error_iff.mp herr
    exact h1 program args err s' hact hrun
  · rintro ⟨h1, h2⟩ before action' after recorded t hsplit hall
    rcases before with _ | ⟨a, before⟩
    · obtain ⟨rfl, rfl⟩ := List.cons.inj hsplit
      cases hall
      refine ⟨?_, h2⟩
      intro program args err t' hact hrun
      exact h1 err t' (applyAction_eq_error_iff.mpr ⟨program, args, hact, hrun⟩)
    · obtain ⟨rfl, rfl⟩ := List.cons.inj hsplit
      rw [applyAll] at hall
      split at hall
      · rename_i hok
        exact absurd hok (h _ _)
      · cases hall

theorem rolledBack_applyLoop_iff (actions : List NetworkAction) :
    ∀ (applied : AppliedNetworkPlan) (s : σ),
      RolledBack (applyLoop host options actions applied s) ↔
        FailsSafely host options actions applied s := by
  induction actions with
  | nil =>
    intro applied s
    refine ⟨fun _ => failsSafely_nil applied s, ?_⟩
    rintro - err h
    cases h
  | cons action actions ih =>
    intro applied s
    rcases hact : applyAction host options applied action s with ⟨err | applied', s'⟩ | ⟨err, s'⟩
    · -- the action reports an error: the recorded ones are rolled back
      rw [failsSafely_cons_fail (by rw [hact]; intro _ _ h; cases h)]
      have hfail : ∃ e, (applyLoop host options (action :: actions) applied s).result = .error e := by
        simp only [applyLoop, hact]
        split
        · exact ⟨_, rfl⟩
        · exact ⟨_, rfl⟩
      have hrun : RolledBack (applyLoop host options (action :: actions) applied s) ↔
          UnreadableOnlyLast host applied.applied s' := by
        rw [← rollback_attempts_iff applied s']
        obtain ⟨e, he⟩ := hfail
        have hatt : (applyLoop host options (action :: actions) applied s).attempts =
            (applied.rollback host s').attempts := by simp only [applyLoop, hact]
        have hrec : (applyLoop host options (action :: actions) applied s).recorded =
            applied.applied := by simp only [applyLoop, hact]
        rw [← hatt, ← hrec]
        exact ⟨fun h => h e he, fun h _ _ => h⟩
      rw [hrun, hact]
      constructor
      · intro h
        refine ⟨?_, ?_⟩
        · rintro _ _ ⟨⟩
        · rintro _ _ ⟨⟩
          exact h
      · intro h
        exact h.2 err s' rfl
    · -- the action succeeds: the run goes on
      rw [failsSafely_cons_ok hact, ← ih applied' s']
      simp only [applyLoop, hact]
    · -- a command fails: nothing is rolled back
      rw [failsSafely_cons_fail (by rw [hact]; intro _ _ h; cases h)]
      have hrun : RolledBack (applyLoop host options (action :: actions) applied s) ↔
          applied.applied = [] := by
        simp only [applyLoop, hact]
        unfold RolledBack
        constructor
        · intro h
          have hnil := h err rfl
          exact List.reverse_eq_nil_iff.mp hnil.symm
        · intro h _ _
          simp only [h, List.map_nil, List.reverse_nil]
      rw [hrun, hact]
      constructor
      · intro h
        refine ⟨fun _ _ _ => h, ?_⟩
        rintro _ _ ⟨⟩
      · intro h
        exact h.1 err s' rfl

/-- A host on which only the route to `10.10.0.0/16` can be added. -/
def oneRouteHost : Host Unit :=
  { unreadableHost with
    output := fun _ args s =>
      (.ok ⟨decide ("10.10.0.0/16" ∈ args), "exit status: 2", [], []⟩, s) }

/-- Two split routes. -/
def twoRoutes : NetworkPlan :=
  ⟨[.runCommand "ip" ["route", "add", "10.10.0.0/16", "dev", "ppp0"],
    .runCommand "ip" ["route", "add", "10.20.0.0/16", "dev", "ppp0"]]⟩

end OpenfortivpnRs.Net
