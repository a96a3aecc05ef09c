import OpenfortivpnRs.Lib.BestEffort
import OpenfortivpnRs.Net.Apply

/-!
# What a rollback attempts

`rollback` is a best effort (`attemptAll`) but for one `?`: a read of `/etc/resolv.conf` that fails
returns from it.  `rollbackLoop_cases` says what a run attempts with and without that; from it follow
when a rollback is complete and when a plan that fails is rolled back.
-/

namespace OpenfortivpnRs.Net

open Lib.BestEffort

variable {σ : Type} (host : Host σ)

/-- The undo of an action as a whole: its result, wherever it is met. -/
def undoWhole (action : AppliedNetworkAction) (s : σ) : Result Unit × σ :=
  match undo host action s with
  | .ok result s' => (result, s')
  | .error err s' => (.error err, s')

variable {host}

/-- Only a read of `resolv.conf` that fails returns from `rollback`. -/
theorem undo_eq_error_iff {action : AppliedNetworkAction} {s s' : σ} {err : OpenfortivpnError} :
    undo host action s = .error err s' ↔ ∃ addedLines e, action = .resolvConfFile addedLines ∧
      host.read resolvConfPath s = (.error e, s') ∧ err = .io e := by
  cases action with
  | resolvConfFile addedLines =>
    simp only [undo, bind, EStateM.bind, Cmd.io]
    rcases hread : host.read resolvConfPath s with ⟨e | current, t⟩
    · simp only [EStateM.Result.error.injEq, AppliedNetworkAction.resolvConfFile.injEq,
        Prod.mk.injEq, Except.error.injEq]
      constructor
      · rintro ⟨rfl, rfl⟩
        exact ⟨addedLines, e, rfl, ⟨rfl, rfl⟩, rfl⟩
      · rintro ⟨_, e', -, ⟨rfl, rfl⟩, rfl⟩
        exact ⟨rfl, rfl⟩
    · constructor
      · intro h
        exact absurd h (Cmd.attempt_ne_error _ _ _ _)
      · rintro ⟨_, e', -, h, -⟩
        cases h
  | _ =>
    constructor
    · intro h; exact absurd h (Cmd.attempt_ne_error _ _ _ _)
    · rintro ⟨_, _, h, -⟩; cases h

variable (host) in
/-- The undo that ends a rollback of `actions` early: the rest `after` it is not attempted. -/
def Aborts (actions : List AppliedNetworkAction) (s : σ) (before : List AppliedNetworkAction)
    (action : AppliedNetworkAction) (after : List AppliedNetworkAction) (err : OpenfortivpnError) : Prop :=
  actions = before ++ action :: after ∧
    ∃ s', undo host action (attemptAll (undoWhole host) before s).2 = .error err s'

/-- **What a run of the loop attempts**: everything, or what stands before the first undo that ends
it and that undo. -/
theorem rollbackLoop_cases (actions : List AppliedNetworkAction) :
    ∀ (firstErr : Option OpenfortivpnError) (s : σ),
      let run := rollbackLoop host actions firstErr s
      ((∀ before action after err, ¬ Aborts host actions s before action after err) ∧
        run.attempts = (attemptAll (undoWhole host) actions s).1 ∧
        run.result = match firstErr with
          | some err => .error err
          | none => firstError (results run.attempts)) ∨
      ∃ before action after err, Aborts host actions s before action after err ∧
        (∀ before' action' after' err', ¬ Aborts host before s before' action' after' err') ∧
        run.attempts = (attemptAll (undoWhole host) before s).1 ++ [(action, .error err)] ∧
        run.result = .error err := by
  induction actions with
  | nil =>
    intro firstErr s
    refine .inl ⟨?_, rfl, ?_⟩
    · rintro before action after err ⟨h, -⟩
      simp at h
    · cases firstErr <;> rfl
  | cons a actions ih =>
    intro firstErr s
    rcases hu : undo host a s with ⟨result, s'⟩ | ⟨err, s'⟩
    · -- the loop goes on behind `a`
      have hwhole : undoWhole host a s = (result, s') := by unfold undoWhole; rw [hu]
      have hshift : ∀ {l before action after err},
          Aborts host (a :: l) s before action after err →
            ∃ before', before = a :: before' ∧ Aborts host l s' before' action after err := by
        rintro l before action after err ⟨hl, t, ht⟩
        rcases before with _ | ⟨b, before⟩
        · obtain ⟨rfl, rfl⟩ := List.cons.inj hl
          rw [show (attemptAll (undoWhole host) [] s).2 = s from rfl, hu] at ht
          cases ht
        · obtain ⟨rfl, rfl⟩ := List.cons.inj hl
          refine ⟨before, rfl, rfl, t, ?_⟩
          simpa only [attemptAll, hwhole] using ht
      simp only [rollbackLoop, hu]
      rcases ih (noteError firstErr result) s' with
        ⟨hno, hatt, hres⟩ | ⟨before, action, after, err, hab, hno, hatt, hres⟩
      · refine .inl ⟨?_, ?_, ?_⟩
        · intro before action after err hab
          obtain ⟨before', rfl, hab'⟩ := hshift hab
          exact hno _ _ _ _ hab'
        · simp only [attemptAll, hwhole]
          rw [hatt]
        · rw [hres]
          rcases result with err | ⟨⟩ <;> cases firstErr <;> simp [noteError, results, firstError]
      · refine .inr ⟨a :: before, action, after, err, ?_, ?_, ?_, hres⟩
        · obtain ⟨rfl, t, ht⟩ := hab
          exact ⟨rfl, t, by simpa only [attemptAll, hwhole] using ht⟩
        · intro before' action' after' err' hab'
          obtain ⟨before'', rfl, hab''⟩ := hshift hab'
          exact hno _ _ _ _ hab''
        · simp only [attemptAll, hwhole, List.cons_append]
          rw [hatt]
    · -- the undo of `a` ends the loop
      simp only [rollbackLoop, hu]
      refine .inr ⟨[], a, actions, err, ⟨rfl, s', hu⟩, ?_, rfl, rfl⟩
      rintro before action after err' ⟨h, -⟩
      simp at h

/-! ### Complete rollbacks -/

variable (host) in
/-- The undos before any record of `resolv.conf` that cannot be read in its turn leave nothing else
to undo. -/
def UnreadableOnlyLast (applied : List AppliedNetworkAction) (s : σ) : Prop :=
  ∀ before addedLines after e s', applied.reverse = before ++ .resolvConfFile addedLines :: after →
    host.read resolvConfPath (attemptAll (undoWhole host) before s).2 = (.error e, s') → after = []

variable (host) in
/-- Such a record meets no earlier error but one that is the same. -/
def UnreadableFirstError (applied : List AppliedNetworkAction) (s : σ) : Prop :=
  ∀ before addedLines after e s', applied.reverse = before ++ .resolvConfFile addedLines :: after →
    host.read resolvConfPath (attemptAll (undoWhole host) before s).2 = (.error e, s') →
    ∀ err, firstError (results (attemptAll (undoWhole host) before s).1) = .error err → err = .io e

/-- A record of `resolv.conf` that cannot be read in its turn ends the rollback. -/
theorem aborts_of_read {actions before after : List AppliedNetworkAction} {addedLines : List String}
    {s s' : σ} {e : IoError} (h : actions = before ++ .resolvConfFile addedLines :: after)
    (hread : host.read resolvConfPath (attemptAll (undoWhole host) before s).2 = (.error e, s')) :
    Aborts host actions s before (.resolvConfFile addedLines) after (.io e) :=
  ⟨h, s', undo_eq_error_iff.mpr ⟨addedLines, e, rfl, hread, rfl⟩⟩

theorem Aborts.read {actions before after : List AppliedNetworkAction} {action : AppliedNetworkAction}
    {s : σ} {err : OpenfortivpnError} (h : Aborts host actions s before action after err) :
    ∃ addedLines e s', actions = before ++ .resolvConfFile addedLines :: after ∧ err = .io e ∧
      host.read resolvConfPath (attemptAll (undoWhole host) before s).2 = (.error e, s') := by
  obtain ⟨hsplit, s', hu⟩ := h
  obtain ⟨addedLines, e, rfl, hread, rfl⟩ := undo_eq_error_iff.mp hu
  exact ⟨addedLines, e, s', hsplit, rfl, hread⟩

/-- If the first undo that ends a rollback is the last one, there is no other. -/
theorem Aborts.first {actions before after before' : List AppliedNetworkAction}
    {action action' : AppliedNetworkAction} {s : σ} {err err' : OpenfortivpnError}
    (h : Aborts host actions s before action after err)
    (h' : Aborts host actions s before' action' [] err')
    (hno : ∀ b a as e, ¬ Aborts host before' s b a as e) :
    before = before' ∧ after = [] ∧ err = err' := by
  obtain ⟨hsplit, t, ht⟩ := h
  obtain ⟨hsplit', t', ht'⟩ := h'
  have heq := hsplit.symm.trans hsplit'
  rcases List.eq_nil_or_concat' after with rfl | ⟨front, last, rfl⟩
  · obtain ⟨rfl, hact⟩ := List.append_inj' heq rfl
    obtain ⟨rfl, -⟩ := List.cons.inj hact
    rw [ht] at ht'
    cases ht'
    exact ⟨rfl, rfl, rfl⟩
  · rw [← List.cons_append, ← List.append_assoc] at heq
    obtain ⟨rfl, -⟩ := List.append_inj' heq rfl
    exact absurd ⟨rfl, t, ht⟩ (hno before action front err)

/-- **When a rollback attempts every undo**, in reverse order: when no record of `resolv.conf` meets
an unreadable file while others are still to be undone. -/
theorem rollback_attempts_iff (plan : AppliedNetworkPlan) (s : σ) :
    (plan.rollback host s).attempts.map Prod.fst = plan.applied.reverse ↔
      UnreadableOnlyLast host plan.applied s := by
  rcases rollbackLoop_cases plan.applied.reverse none s with
    ⟨hno, hatt, -⟩ | ⟨before, action, after, err, hab, hno, hatt, -⟩
  · refine ⟨?_, ?_⟩
    · intro _ before addedLines after e s' hsplit hread
      exact absurd (aborts_of_read hsplit hread) (hno _ _ _ _)
    · intro _
      unfold AppliedNetworkPlan.rollback
      rw [hatt, attemptAll_fst]
  · have hfst : (plan.rollback host s).attempts.map Prod.fst = before ++ [action] := by
      unfold AppliedNetworkPlan.rollback
      rw [hatt, List.map_append, attemptAll_fst]
      rfl
    rw [hfst]
    constructor
    · intro hall before' addedLines after' e s' hsplit hread
      have hafter : after = [] := by
        rw [hab.1] at hall
        have hcons := List.append_cancel_left hall
        exact (List.cons.inj hcons).2.symm
      subst hafter
      exact ((aborts_of_read hsplit hread).first hab hno).2.1
    · intro h
      obtain ⟨addedLines, e, s', hsplit, -, hread⟩ := hab.read
      obtain rfl := h _ _ _ _ _ hsplit hread
      exact hab.1.symm

/-- All undos are attempted, in reverse order, and the first error met is returned. -/
def CompleteRollback (applied : List AppliedNetworkAction) (run : RollbackRun σ) : Prop :=
  run.attempts.map Prod.fst = applied.reverse ∧ run.result = firstError (results run.attempts)

/-- A complete rollback succeeds exactly when every undo does. -/
theorem CompleteRollback.result_eq_ok_iff {applied : List AppliedNetworkAction} {run : RollbackRun σ}
    (h : CompleteRollback applied run) :
    run.result = .ok () ↔ ∀ attempt ∈ run.attempts, attempt.2 = .ok () := by
  rw [h.2, firstError_eq_ok_iff]
  exact List.forall_mem_map

/-- **When a rollback is complete.**  It attempts every undo exactly once, in reverse order, and
returns the first error met, if and only if a record of `resolv.conf` whose turn comes while the file
cannot be read is the last one to undo and no undo before it failed with another error. -/
theorem rollback_complete_iff (host : Host σ) (plan : AppliedNetworkPlan) (s : σ) :
    CompleteRollback plan.applied (plan.rollback host s) ↔
      UnreadableOnlyLast host plan.applied s ∧ UnreadableFirstError host plan.applied s := by
  unfold CompleteRollback
  rw [rollback_attempts_iff]
  refine and_congr_right ?_
  intro honly
  rcases rollbackLoop_cases plan.applied.reverse none s with
    ⟨hno, -, hres⟩ | ⟨before, action, after, err, hab, hno, hatt, hres⟩
  · refine ⟨?_, fun _ => hres⟩
    intro _ before addedLines after e s' hsplit hread
    exact absurd (aborts_of_read hsplit hread) (hno _ _ _ _)
  · obtain ⟨addedLines, e, s', hsplit, rfl, hread⟩ := hab.read
    obtain rfl := honly _ _ _ _ _ hsplit hread
    have hattempts : (plan.rollback host s).attempts = _ := hatt
    have hresult : (plan.rollback host s).result = _ := hres
    rw [hattempts, hresult, results_append]
    constructor
    · intro h before' addedLines' after' e' t hsplit' hread' err herr
      obtain ⟨rfl, -, heq⟩ := (aborts_of_read hsplit' hread').first hab hno
      rw [heq]
      exact firstError_snoc_error.mp h.symm err herr
    · intro h
      exact (firstError_snoc_error.mpr (h _ _ _ _ _ hsplit hread)).symm

/-! ### A host whose `resolv.conf` cannot be read -/

/-- A host on which every command succeeds and `/etc/resolv.conf` cannot be read. -/
def unreadableHost : Host Unit where
  output _ _ s := (.ok ⟨true, "exit status: 0", [], []⟩, s)
  spawn _ _ s := (.ok ⟨0, true⟩, s)
  writeAll _ _ s := (.ok (), s)
  waitWithOutput _ s := (.ok ⟨true, "exit status: 0", [], []⟩, s)
  read _ s := (.error ⟨.other, "Permission denied (os error 13)"⟩, s)
  write _ _ s := (.ok (), s)
  pathExists _ s := (false, s)
  isFile _ s := (false, s)
  pathVar s := (none, s)
  warn _ s := s

/-- A route and, behind it, a change of `resolv.conf`. -/
def routeAndDns : AppliedNetworkPlan :=
  ⟨[.command "ip" ["route", "del", "10.10.0.0/16", "dev", "ppp0"],
    .resolvConfFile ["nameserver 10.0.0.10"]]⟩

/-- The route stays when the file cannot be read. -/
theorem rollback_incomplete : ¬ ∀ (σ : Type) (host : Host σ) (plan : AppliedNetworkPlan) (s : σ),
    CompleteRollback plan.applied (plan.rollback host s) := by
  intro h
  exact absurd (h Unit unreadableHost routeAndDns ()).1 (by decide)

end OpenfortivpnRs.Net
