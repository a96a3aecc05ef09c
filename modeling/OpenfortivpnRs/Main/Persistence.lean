import OpenfortivpnRs.Main.Release
import OpenfortivpnRs.Net.Rollback

/-!
# Persistence (`run_with_persistence` of `main.rs`)

Attempts follow one another, with a pause between them, until the stop is seen or there have been enough
of them.  A run as a whole keeps to `course`, in which every attempt keeps to its lifecycle.
-/

namespace OpenfortivpnRs.Main

open Lib Text Net

variable {σ : Type} (machine : Machine σ) (config : Config)

/-- The seconds between two attempts; whether the stop was seen meanwhile. -/
def pause : (interval : ℕ) → Run σ Bool
  | 0 => pure false
  | interval + 1 => do
    if ← stopRequested machine then pure true
    else do
      Recording.ask machine.sleep fun _ => .sleep
      pause interval

/-- An attempt as a value, and its end on the record. -/
def attempted : Run σ (Result Unit) := do
  Recording.mark .attempt
  let result ← Run.result (attempt machine config)
  Recording.mark (.returned result)
  return result

/-- The loop of `run_with_persistence` with the reconnects that are left. -/
def persist : (left : ℕ) → Run σ Unit
  | 0 => do
    let result ← attempted machine config
    let _ ← stopRequested machine
    Run.ofResult result
  | left + 1 => do
    let result ← attempted machine config
    if ← stopRequested machine then Run.ofResult result
    else if ← pause machine (config.reconnectDelay.getD 0) then Run.ofResult result
    else persist left

def runWithPersistence : Run σ Unit := persist machine config config.maxReconnects

/-! ### The course of a run -/

/-- How far a run is. -/
inductive Stage where
  /-- So many attempts were made, and another may start. -/
  | ready (made : ℕ)
  /-- The last of them is under way. -/
  | inside (made : ℕ) (q : Phase)
  | back (made : ℕ) (result : Result Unit)
  | pausing (made : ℕ) (result : Result Unit) (slept : ℕ)
  | looked (made : ℕ) (result : Result Unit) (slept : ℕ)
  | ended (made : ℕ) (result : Result Unit) (stopped : Bool)

section Course

variable (sha256 : List UInt8 → List UInt8) (config : Config) (platform : Option Net.Platform)

/-- What follows a pause in which so many seconds were slept. -/
def afterPause (made : ℕ) (result : Result Unit) (slept : ℕ) : Stage :=
  if slept = config.reconnectDelay.getD 0 then .ready made else .pausing made result slept

def nextStage : Stage → Deed → Option Stage
  | .ready made, .attempt => some (.inside (made + 1) .idle)
  | .inside made q, .returned result => if q.AtRest then some (.back made result) else none
  | .inside made q, e => (next sha256 config platform q e).map (.inside made)
  | .back made result, .look stop =>
    some (if stop = true ∨ made = config.maxReconnects + 1 then .ended made result stop
      else afterPause config made result 0)
  | .pausing made result slept, .look stop =>
    some (if stop then .ended made result true else .looked made result slept)
  | .looked made result slept, .sleep => some (afterPause config made result (slept + 1))
  | _, _ => none

/-- **The course of a run**, as a protocol on its record. -/
def course : Protocol Deed Stage := ⟨.ready 0, nextStage sha256 config platform⟩

end Course

variable {machine config}

theorem nextStage_inside {q q' : Phase} {e : Deed} (made : ℕ)
    (h : next machine.sha256 config machine.platform q e = some q') :
    nextStage machine.sha256 config machine.platform (.inside made q) e = some (.inside made q') := by
  cases e with
  | returned result => cases h
  | _ => exact (congrArg (Option.map _) h).trans rfl

/-! ### Runs keep to it -/

variable (machine config) in
abbrev runs : Protocol Deed Stage := course machine.sha256 config machine.platform

/-- A run that stops without a result: in a panic, or waiting. -/
def Breaks (halt : Halt) (stage : Stage) : Prop :=
  Run.returned halt = none ∧ ∃ made q, stage = .inside made q ∧ Quits halt q

/-- A run that has returned with the result, or stopped without one. -/
def Finishes (halt : Halt) (stage : Stage) : Prop :=
  Breaks halt stage ∨ ∃ err made stopped, halt = .stop (.error err) ∧ stage = .ended made (.error err) stopped

theorem leads_attempted (made : ℕ) :
    (runs machine config).Leads (fun result stage => stage = .back (made + 1) result) Breaks (.ready made)
      (attempted machine config) := by
  unfold attempted
  refine .bind (Q := fun _ stage => stage = .inside (made + 1) .idle) (.mark rfl rfl) ?_
  rintro _ _ rfl
  refine .bind (Q := fun _ stage => ∃ q, stage = .inside (made + 1) q ∧ q.AtRest) (Protocol.Leads.embed
    (Stage.inside (made + 1)) (fun q e q' => nextStage_inside (made + 1)) (leads_result
      (R := fun _ q => q.AtRest) (F := fun halt q => Run.returned halt = none ∧ Quits halt q)
      leads_attempt ?_ ?_ ?_) ?_ ?_) ?_
  · exact fun _ _ hq => hq
  · exact fun _ _ hq => hq.resolve_left nofun
  · exact fun _ _ hnone hq => ⟨hnone, hq⟩
  · exact fun _ q hq => ⟨q, rfl, hq⟩
  · exact fun _ q hq => ⟨hq.1, made + 1, q, rfl, hq.2⟩
  · rintro result _ ⟨q, rfl, hq⟩
    refine .bind (Q := fun _ stage => stage = .back (made + 1) result) (.mark (if_pos hq) rfl) ?_
    rintro _ _ rfl
    exact .ret rfl

theorem leads_ended {made : ℕ} {result : Result Unit} {stopped : Bool} :
    (runs machine config).Leads (fun _ stage => ∃ made stopped, stage = .ended made (.ok ()) stopped) Finishes
      (.ended made result stopped) (Run.ofResult result : Run σ Unit) := by
  cases result with
  | ok u => exact .ret ⟨made, stopped, rfl⟩
  | error err => exact .stop (.inr ⟨err, made, stopped, rfl, rfl⟩)

theorem leads_pause (made : ℕ) (result : Result Unit) (interval : ℕ) : ∀ slept,
    slept + interval = config.reconnectDelay.getD 0 →
    (runs machine config).Leads
      (fun stop stage => stage = if stop then .ended made result true else .ready made) Finishes
      (afterPause config made result slept) (pause machine interval) := by
  induction interval with
  | zero =>
    intro slept hslept
    unfold afterPause
    rw [if_pos (show slept = _ from hslept)]
    exact .ret rfl
  | succ interval ih =>
    intro slept hslept
    unfold afterPause
    rw [if_neg (by omega), pause]
    refine .bind (.ask fun stop => ⟨_, rfl, rfl⟩) ?_
    rintro stop _ rfl
    cases stop with
    | true => exact .ret rfl
    | false =>
      refine .bind (Q := fun _ stage => stage = afterPause config made result (slept + 1))
        (.ask fun _ => ⟨_, rfl, rfl⟩) ?_
      rintro _ _ rfl
      exact ih (slept + 1) (by omega)

theorem leads_persist (left : ℕ) : ∀ made, made + left = config.maxReconnects →
    (runs machine config).Leads (fun _ stage => ∃ made stopped, stage = .ended made (.ok ()) stopped) Finishes
      (.ready made) (persist machine config left) := by
  induction left with
  | zero =>
    intro made hmade
    rw [persist]
    refine .bind ((leads_attempted made).conseq (fun _ _ h => h) fun _ _ h => .inl h) ?_
    rintro result _ rfl
    refine .bind (Q := fun stop stage => stage = .ended (made + 1) result stop) (.ask fun stop => ⟨_, rfl, ?_⟩) ?_
    · exact if_pos (.inr (by omega))
    · rintro stop _ rfl
      exact leads_ended
  | succ left ih =>
    intro made hmade
    rw [persist]
    refine .bind ((leads_attempted made).conseq (fun _ _ h => h) fun _ _ h => .inl h) ?_
    rintro result _ rfl
    refine .bind (.ask fun stop => ⟨_, rfl, rfl⟩) ?_
    rintro stop _ rfl
    cases stop with
    | true => exact leads_ended
    | false =>
      rw [if_neg (by simp; omega)]
      refine .bind (leads_pause (made + 1) result _ 0 (Nat.zero_add _)) ?_
      rintro stop _ rfl
      cases stop with
      | true => exact leads_ended
      | false => exact ih (made + 1) (by omega)

/-- **Every run keeps to the course**, and one that returns a result has come to its end. -/
theorem leads_run :
    (runs machine config).Leads (fun _ stage => ∃ made stopped, stage = .ended made (.ok ()) stopped) Finishes
      (runs machine config).start (runWithPersistence machine config) :=
  leads_persist config.maxReconnects 0 (Nat.zero_add _)

/-! ### How many attempts are made -/

def isAttempt : Deed → Bool
  | .attempt => true
  | _ => false

def isSleep : Deed → Bool
  | .sleep => true
  | _ => false

def resultOf : Deed → Option (Result Unit)
  | .returned result => some result
  | _ => none

/-- What a record holds by a stage: so many attempts were made and so many seconds slept, and the last
attempt that returned had the result. -/
structure Counted (record : List Deed) (made slept : ℕ) : Prop where
  attempts : record.countP isAttempt = made
  sleeps : record.countP isSleep = slept

/-- The last attempt has returned the result. -/
def LastResult (record : List Deed) (result : Result Unit) : Prop :=
  (record.filterMap resultOf).getLast? = some result

/-- What a run has done by a stage. -/
def Done (config : Config) (record : List Deed) : Stage → Prop
  | .ready made => made ≤ config.maxReconnects ∧
      Counted record made (made * config.reconnectDelay.getD 0)
  | .inside made _ => 1 ≤ made ∧ made ≤ config.maxReconnects + 1 ∧
      Counted record made ((made - 1) * config.reconnectDelay.getD 0)
  | .back made result => 1 ≤ made ∧ made ≤ config.maxReconnects + 1 ∧
      Counted record made ((made - 1) * config.reconnectDelay.getD 0) ∧ LastResult record result
  | .pausing made result slept | .looked made result slept =>
      1 ≤ made ∧ made ≤ config.maxReconnects ∧ slept < config.reconnectDelay.getD 0 ∧
      Counted record made ((made - 1) * config.reconnectDelay.getD 0 + slept) ∧ LastResult record result
  | .ended made result stopped => 1 ≤ made ∧ made ≤ config.maxReconnects + 1 ∧ LastResult record result ∧
      (∃ slept, Counted record made ((made - 1) * config.reconnectDelay.getD 0 + slept) ∧
        (slept = 0 ∨ slept < config.reconnectDelay.getD 0)) ∧
      record.getLast? = some (.look stopped) ∧ (stopped = false → made = config.maxReconnects + 1)

section Snoc

variable {record : List Deed} {e : Deed} {made slept : ℕ} {result : Result Unit}

theorem Counted.attempt (h : Counted record made slept) : Counted (record ++ [.attempt]) (made + 1) slept where
  attempts := by rw [List.countP_append, h.attempts]; rfl
  sleeps := by rw [List.countP_append, h.sleeps]; rfl

theorem Counted.sleep (h : Counted record made slept) : Counted (record ++ [.sleep]) made (slept + 1) where
  attempts := by rw [List.countP_append, h.attempts]; rfl
  sleeps := by rw [List.countP_append, h.sleeps]; rfl

theorem Counted.other (h : Counted record made slept) (hattempt : isAttempt e = false)
    (hsleep : isSleep e = false) : Counted (record ++ [e]) made slept where
  attempts := by rw [List.countP_append, h.attempts, List.countP_singleton, if_neg (by simp [hattempt])]; rfl
  sleeps := by rw [List.countP_append, h.sleeps, List.countP_singleton, if_neg (by simp [hsleep])]; rfl

theorem LastResult.returned (record : List Deed) (result : Result Unit) :
    LastResult (record ++ [.returned result]) result := by
  unfold LastResult
  rw [List.filterMap_append]
  exact List.getLast?_concat

theorem LastResult.other (h : LastResult record result) (he : resultOf e = none) :
    LastResult (record ++ [e]) result := by
  unfold LastResult at h ⊢
  rw [List.filterMap_append, List.filterMap_cons_none he]
  exact (congrArg List.getLast? (List.append_nil _)).trans h

end Snoc

/-- What follows a pause. -/
theorem done_afterPause {record : List Deed} {made slept : ℕ} {result : Result Unit} (hone : 1 ≤ made)
    (hmade : made ≤ config.maxReconnects) (hslept : slept ≤ config.reconnectDelay.getD 0)
    (hcounted : Counted record made ((made - 1) * config.reconnectDelay.getD 0 + slept))
    (hlast : LastResult record result) : Done config record (afterPause config made result slept) := by
  unfold afterPause
  split
  · rename_i hfull
    obtain ⟨made, rfl⟩ := Nat.exists_eq_add_of_le' hone
    refine ⟨hmade, ?_⟩
    rwa [hfull, Nat.add_sub_cancel, ← Nat.succ_mul] at hcounted
  · exact ⟨hone, hmade, by omega, hcounted, hlast⟩

/-- One entry of a record keeps it. -/
theorem done_step {sha256 : List UInt8 → List UInt8} {platform : Option Net.Platform} {record : List Deed}
    {stage stage' : Stage} {e : Deed} (hdone : Done config record stage)
    (hnext : nextStage sha256 config platform stage e = some stage') :
    Done config (record ++ [e]) stage' := by
  cases stage with
  | ready made =>
    cases e with
    | attempt =>
      cases hnext
      exact ⟨by omega, by have := hdone.1; omega, hdone.2.attempt⟩
    | _ => cases hnext
  | inside made q =>
    obtain ⟨hone, hmade, hcounted⟩ := hdone
    have hinside (hattempt : isAttempt e = false) (hsleep : isSleep e = false)
        (h : (next sha256 config platform q e).map (Stage.inside made) = some stage') :
        Done config (record ++ [e]) stage' := by
      obtain ⟨q', -, rfl⟩ := Option.map_eq_some_iff.mp h
      exact ⟨hone, hmade, hcounted.other hattempt hsleep⟩
    cases e with
    | attempt => cases hnext
    | sleep => cases hnext
    | returned result =>
      simp only [nextStage] at hnext
      split at hnext
      · cases hnext
        exact ⟨hone, hmade, hcounted.other rfl rfl, .returned record result⟩
      · cases hnext
    | _ => exact hinside rfl rfl hnext
  | back made result =>
    obtain ⟨hone, hmade, hcounted, hlast⟩ := hdone
    cases e with
    | look stop =>
      have hcounted' := hcounted.other (e := .look stop) rfl rfl
      simp only [nextStage] at hnext
      split at hnext
      · rename_i hended
        cases hnext
        exact ⟨hone, hmade, hlast.other rfl, ⟨0, hcounted', .inl rfl⟩, List.getLast?_concat,
          fun hstop => hended.resolve_left (by simp [hstop])⟩
      · rename_i hended
        cases hnext
        exact done_afterPause hone (by omega) (Nat.zero_le _) hcounted' (hlast.other rfl)
    | _ => cases hnext
  | pausing made result slept =>
    obtain ⟨hone, hmade, hslept, hcounted, hlast⟩ := hdone
    cases e with
    | look stop =>
      have hcounted' := hcounted.other (e := .look stop) rfl rfl
      cases hnext
      cases stop with
      | true =>
        exact ⟨hone, by omega, hlast.other rfl, ⟨slept, hcounted', .inr hslept⟩, List.getLast?_concat, nofun⟩
      | false => exact ⟨hone, hmade, hslept, hcounted', hlast.other rfl⟩
    | _ => cases hnext
  | looked made result slept =>
    obtain ⟨hone, hmade, hslept, hcounted, hlast⟩ := hdone
    cases e with
    | sleep =>
      cases hnext
      exact done_afterPause hone hmade hslept hcounted.sleep (hlast.other rfl)
    | _ => cases hnext
  | ended made result stopped => cases e <;> cases hnext

theorem done_course (sha256 : List UInt8 → List UInt8) (platform : Option Net.Platform)
    {record : List Deed} {stage : Stage} (h : (course sha256 config platform).phase record = some stage) :
    Done config record stage := by
  refine Protocol.phase_invariant _ ?_ (fun _ _ _ _ hdone hnext => done_step hdone hnext) record stage h
  exact ⟨Nat.zero_le _, rfl, (Nat.zero_mul _).symm⟩

/-- What a run returns, if it does. -/
def outcome {σ : Type} : EStateM.Result Halt (Recorded σ Deed) Unit → Option (Result Unit)
  | .ok () _ => some (.ok ())
  | .error halt _ => (Run.returned halt).map .error

/-- A machine on which all goes well until the gateway closes the tunnel; pppd hears `SIGKILL` only. -/
def obliging : Machine Unit where
  sha256 _ := []
  platform := some .linux
  connect _ s := (.ok (.v4 ⟨192, 0, 2, 1⟩ 443, ⟨.ok (), [[0x30]], .ok (), .ok ()⟩), s)
  gateway := ⟨fun _ s => (.ok ⟨200, "OK", [], asBytes "<assigned-addr ipv4='10.0.0.42'/>"⟩, s),
    fun _ _ _ s => (.ok "", s)⟩
  writeAll _ s := (.ok (), s)
  readPacket s := (.error .missingPeerCertificate, s)
  setTimeouts s := (.ok (), s)
  forkpty s := (.ok 7, s)
  waitpid _ nohang s := (.ok (if nohang then .stillAlive else .signaled), s)
  kill _ _ s := ((), s)
  streams s := (⟨.ok (), ⟨[], []⟩, ⟨[.ok [0x00, 0x12, 0x50, 0x50, 0x00, 0x0c, 0x80, 0x21, 0x02, 0x01, 0x00,
    0x0a, 0x03, 0x06, 10, 0, 0, 42], .ok []], []⟩, [.ready ⟨false, false, false⟩ ⟨true, false, false⟩]⟩, s)
  interfaces s := ([.ok [⟨"ppp0", true, some ⟨10, 0, 0, 42⟩⟩]], s)
  host := unreadableHost
  serve _ _ _ _ s := (.ok (), s)
  stopRequested s := (false, s)
  sleep s := ((), s)
  rounds s := (1, s)

/-- A cookie from an earlier login, and two reconnects a second apart. -/
def obligingConfig : Config :=
  { gatewayHost := "vpn.example.com", cookie := some "SVPNCOOKIE=abc", setDns := false,
    reconnectDelay := some 1, maxReconnects := 2 }

end OpenfortivpnRs.Main
