import OpenfortivpnRs.Main.Persistence
import OpenfortivpnRs.Main.Steps

/-!
# What the record of a run accounts for

Whatever the machine answers, the record of a run keeps to its course.  So what was changed is put back
(`nothing_left`), a session is left (`session_left`), and nothing is sent but over a connection that was
accepted (`sent_on_accepted`).
-/

namespace OpenfortivpnRs.Main

open Lib Auth Http Net Tunnel

variable {sha256 : List UInt8 → List UInt8} {config : Config} {platform : Option Platform}

/-! ### From the steps to the runs -/

/-- The phase of the attempt that is under way. -/
def Stage.phase : Stage → Phase
  | .inside _ q => q
  | _ => .idle

/-- What stands on the record between two attempts and at their ends. -/
inductive Between : Deed → Prop
  | attempt : Between .attempt
  | returned (result : Result Unit) : Between (.returned result)
  | look (stop : Bool) : Between (.look stop)
  | sleep : Between .sleep

theorem phase_afterPause (made : ℕ) (result : Result Unit) (slept : ℕ) :
    (afterPause config made result slept).phase = .idle := by
  unfold afterPause
  split <;> rfl

theorem nextStage_cases {stage stage' : Stage} {e : Deed}
    (h : nextStage sha256 config platform stage e = some stage') :
    Step sha256 config platform stage.phase e stage'.phase ∨
      Between e ∧ stage.phase.AtRest ∧ stage'.phase = .idle := by
  cases stage with
  | ready made =>
    cases e with
    | attempt => cases h; exact .inr ⟨.attempt, trivial, rfl⟩
    | _ => cases h
  | inside made q =>
    have hinside (h : (next sha256 config platform q e).map (Stage.inside made) = some stage') :
        Step sha256 config platform q e stage'.phase := by
      obtain ⟨q', hq', rfl⟩ := Option.map_eq_some_iff.mp h
      exact step_of_next hq'
    cases e with
    | returned result =>
      simp only [nextStage] at h
      split at h
      · rename_i hrest
        cases h
        exact .inr ⟨.returned result, hrest, rfl⟩
      · cases h
    | _ => exact .inl (hinside h)
  | back made result =>
    cases e with
    | look stop =>
      refine .inr ⟨.look stop, trivial, ?_⟩
      simp only [nextStage] at h
      split at h
      · cases h; rfl
      · cases h; exact phase_afterPause made result 0
    | _ => cases h
  | pausing made result slept =>
    cases e with
    | look stop =>
      refine .inr ⟨.look stop, trivial, ?_⟩
      cases h
      cases stop <;> rfl
    | _ => cases h
  | looked made result slept =>
    cases e with
    | sleep =>
      cases h
      exact .inr ⟨.sleep, trivial, phase_afterPause made result (slept + 1)⟩
    | _ => cases h
  | ended made result stopped => cases e <;> cases h

/-- What every step of an attempt keeps, and what stands between the attempts, holds of a whole run. -/
theorem course_invariant (Inv : List Deed → Phase → Prop) (hstart : Inv [] .idle)
    (hstep : ∀ {record q e q'}, Step sha256 config platform q e q' → Inv record q → Inv (record ++ [e]) q')
    (hbetween : ∀ {record q e}, Between e → q.AtRest → Inv record q → Inv (record ++ [e]) .idle)
    {record : List Deed} {stage : Stage} (h : (course sha256 config platform).phase record = some stage) :
    Inv record stage.phase := by
  refine Protocol.phase_invariant (fun record stage => Inv record stage.phase) hstart ?_ record stage h
  intro record stage e stage' hinv hnext
  rcases nextStage_cases hnext with hstep' | ⟨he, hrest, hidle⟩
  · exact hstep hstep' hinv
  · rw [hidle]
    exact hbetween he hrest hinv

/-- So it holds of the record of every run on the machine, and at rest if the run is not waiting. -/
theorem run_record {σ : Type} (machine : Machine σ) (config : Config) (s : σ) :
    ∃ stage, (course machine.sha256 config machine.platform).phase
        (Recording.final (runWithPersistence machine config ⟨s, []⟩)).record = some stage ∧
      ((∀ w, runWithPersistence machine config ⟨s, []⟩ ≠ .error .waiting w) → stage.phase.AtRest) := by
  obtain ⟨stage, hphase, hok, herror⟩ := leads_run.run s
  refine ⟨stage, hphase, fun hnot => ?_⟩
  cases hrun : runWithPersistence machine config ⟨s, []⟩ with
  | ok u w =>
    obtain ⟨made, stopped, rfl⟩ := hok u w hrun
    trivial
  | error halt w =>
    rcases herror halt w hrun with ⟨-, made, q, rfl, rfl | hrest⟩ | ⟨err, made, stopped, -, rfl⟩
    · exact absurd hrun (hnot w)
    · exact hrest
    · trivial

/-! ### What was changed is put back -/

def spawnedPid : Deed → Option Pid
  | .spawn _ (.ok pid) => some pid
  | _ => none

/-- The process that is over for the program. -/
def endedPid : Deed → Option Pid
  | .waitpid pid nohang result => if Over nohang result then some pid else none
  | _ => none

/-- The plan that has changed something. -/
def changedBy : Deed → Option AppliedNetworkPlan
  | .setUp _ _ (.ok (some applied)) => if applied.applied = [] then none else some applied
  | _ => none

def undoneBy : Deed → Option AppliedNetworkPlan
  | .rollback applied _ => some applied
  | _ => none

/-- The process that is still to be waited for. -/
def Phase.live : Phase → Option Pid
  | .running _ _ pid | .forwarded _ _ pid _ | .changed _ pid _ | .settled _ pid | .ending _ pid _ => some pid
  | _ => none

/-- The plan that is still to be undone. -/
def Phase.pending : Phase → Option AppliedNetworkPlan
  | .changed _ _ applied => some applied
  | _ => none

/-- Every process and every change is accounted for, in order. -/
structure Balanced (record : List Deed) (q : Phase) : Prop where
  pppd : record.filterMap spawnedPid = record.filterMap endedPid ++ q.live.toList
  network : record.filterMap changedBy = record.filterMap undoneBy ++ q.pending.toList

theorem live_of_atRest {q : Phase} (h : q.AtRest) : q.live = none ∧ q.pending = none := by
  cases q <;> first | exact ⟨rfl, rfl⟩ | exact h.elim

theorem filterMap_snoc {α β : Type} (f : α → Option β) (l : List α) (a : α) :
    (l ++ [a]).filterMap f = l.filterMap f ++ (f a).toList := by
  rw [List.filterMap_append]
  cases h : f a <;> simp [h]

theorem Balanced.snoc {record : List Deed} {q q' : Phase} {e : Deed} (h : Balanced record q)
    (hpppd : q.live.toList ++ (spawnedPid e).toList = (endedPid e).toList ++ q'.live.toList)
    (hnetwork : q.pending.toList ++ (changedBy e).toList = (undoneBy e).toList ++ q'.pending.toList) :
    Balanced (record ++ [e]) q' where
  pppd := by
    rw [filterMap_snoc, filterMap_snoc, h.pppd, List.append_assoc, hpppd, List.append_assoc]
  network := by
    rw [filterMap_snoc, filterMap_snoc, h.network, List.append_assoc, hnetwork, List.append_assoc]

theorem live_of_leaving {q : Phase} {cookie : String} (h : Leaving q cookie) :
    q.live = none ∧ q.pending = none := by
  cases h <;> exact ⟨rfl, rfl⟩

theorem live_of_hasChild {q : Phase} {cookie : String} {pid : Pid} {signals : List Signal}
    (h : HasChild q cookie pid signals) : q.live = some pid ∧ q.pending = none := by
  cases h <;> exact ⟨rfl, rfl⟩

theorem balanced_step {record : List Deed} {q q' : Phase} {e : Deed}
    (hstep : Step sha256 config platform q e q') (h : Balanced record q) : Balanced (record ++ [e]) q' := by
  have hidle (hnone : q.live = none ∧ q.pending = none) (he : spawnedPid e = none ∧ endedPid e = none ∧
      changedBy e = none ∧ undoneBy e = none) : Balanced (record ++ [e]) .idle := by
    obtain ⟨hlive, hpending⟩ := hnone
    obtain ⟨hspawned, hended, hchanged, hundone⟩ := he
    refine h.snoc ?_ ?_
    · rw [hlive, hspawned, hended]
      rfl
    · rw [hpending, hchanged, hundone]
      rfl
  cases hstep with
  | setUp cookie pid result =>
    rcases result with err | _ | applied
    · exact h.snoc rfl rfl
    · exact h.snoc rfl rfl
    · by_cases happlied : applied.applied = []
      · have hafter : afterSetUp cookie pid (.ok (some applied)) = .settled cookie pid := if_pos happlied
        rw [hafter]
        exact h.snoc rfl (by simp [changedBy, undoneBy, happlied, Phase.pending])
      · have hafter : afterSetUp cookie pid (.ok (some applied)) = .changed cookie pid applied :=
          if_neg happlied
        rw [hafter]
        exact h.snoc rfl (by simp [changedBy, undoneBy, happlied, Phase.pending])
  | waited hq =>
    obtain ⟨hlive, hpending⟩ := live_of_hasChild hq
    split
    · rename_i hended
      exact h.snoc (by rw [hlive]; simp [spawnedPid, endedPid, hended, Phase.live]) (by rw [hpending]; rfl)
    · rename_i hended
      exact h.snoc (by rw [hlive]; simp [spawnedPid, endedPid, hended, Phase.live]) (by rw [hpending]; rfl)
  | leaving hq =>
    obtain ⟨hlive, hpending⟩ := live_of_leaving hq
    exact h.snoc (by rw [hlive]; rfl) (by rw [hpending]; rfl)
  | refused hq =>
    refine hidle ?_ ⟨rfl, rfl, rfl, rfl⟩
    rcases hq with hrest | ⟨cookie, hleaving⟩
    · exact live_of_atRest hrest
    · exact live_of_leaving hleaving
  | unsuccessful _ _ hq => exact hidle (live_of_atRest hq) ⟨rfl, rfl, rfl, rfl⟩
  | _ => exact h.snoc rfl rfl

theorem balanced_between {record : List Deed} {q : Phase} {e : Deed} (he : Between e) (hq : q.AtRest)
    (h : Balanced record q) : Balanced (record ++ [e]) .idle := by
  obtain ⟨hlive, hpending⟩ := live_of_atRest hq
  cases he <;> exact h.snoc (by rw [hlive]; rfl) (by rw [hpending]; rfl)

def isConnect : Deed → Bool
  | .connect _ => true
  | _ => false

/-- The connection that was opened last was accepted. -/
def OnAccepted (sha256 : List UInt8 → List UInt8) (config : Config) (record : List Deed) : Prop :=
  ∃ before met after, record = before ++ .connect met :: after ∧ (∀ e ∈ after, isConnect e = false) ∧
    Accepted sha256 config met

theorem OnAccepted.snoc {record : List Deed} {e : Deed} (h : OnAccepted sha256 config record)
    (he : isConnect e = false) : OnAccepted sha256 config (record ++ [e]) := by
  obtain ⟨before, met, after, rfl, hafter, haccepted⟩ := h
  refine ⟨before, met, after ++ [e], by rw [List.append_assoc, List.cons_append], ?_, haccepted⟩
  intro d hd
  rcases List.mem_append.mp hd with hd | hd
  · exact hafter d hd
  · rwa [List.mem_singleton.mp hd]

theorem onAccepted_connect (record : List Deed) {met : Meeting} (h : Accepted sha256 config met) :
    OnAccepted sha256 config (record ++ [.connect met]) := ⟨record, met, [], rfl, List.forall_mem_nil _, h⟩

theorem onAccepted_step {record : List Deed} {q q' : Phase} {e : Deed}
    (hstep : Step sha256 config platform q e q') (h : q ≠ .idle → OnAccepted sha256 config record) :
    q' ≠ .idle → OnAccepted sha256 config (record ++ [e]) := by
  intro hq'
  cases hstep with
  | opened haccepted => exact onAccepted_connect record haccepted
  | reopened _ haccepted => exact onAccepted_connect record haccepted
  | leaving _ haccepted => exact onAccepted_connect record haccepted
  | waited hq => exact (h (by cases hq <;> nofun)).snoc rfl
  | lookIdle => exact absurd rfl hq'
  | refused => exact absurd rfl hq'
  | unsuccessful => exact absurd rfl hq'
  | loggedOut => exact absurd rfl hq'
  | notStarted => exact absurd rfl hq'
  | notSpawned => exact absurd rfl hq'
  | _ => exact (h nofun).snoc rfl

/-- What goes over the connection. -/
def Sends : Deed → Prop
  | .exchange _ _ | .startTunnel _ _ | .send _ _ | .receive _ | .forward _ | .serve _ => True
  | _ => False

theorem sends_of_step {q q' : Phase} {e : Deed} (hstep : Step sha256 config platform q e q')
    (he : Sends e) : q ≠ .idle := by
  cases hstep with
  | unsuccessful hopen => exact hopen
  | _ => first | exact he.elim | nofun

/-- The step of an entry that does not stand between attempts. -/
theorem step_of_record {before after : List Deed} {e : Deed} {stage : Stage}
    (h : (course sha256 config platform).phase (before ++ e :: after) = some stage) (he : ¬ Between e) :
    ∃ stage₁ stage₂, (course sha256 config platform).phase before = some stage₁ ∧
      Step sha256 config platform stage₁.phase e stage₂.phase ∧
      (course sha256 config platform).path stage₂ after = some stage := by
  obtain ⟨stage₁, stage₂, hbefore, hnext, hafter⟩ := Protocol.follows h
  rcases nextStage_cases hnext with hstep | ⟨hbetween, -⟩
  · exact ⟨stage₁, stage₂, hbefore, hstep, hafter⟩
  · exact absurd hbetween he

/-- A handshake that passes behind a first certificate has judged it. -/
theorem judged_of_run {handshake : Tls.Handshake} {verifier : Tls.RecordingVerifier} {cert : List UInt8}
    {certs : List (List UInt8)} (hcerts : handshake.certs = cert :: certs)
    (h : handshake.run sha256 (.new config) = (.ok (), verifier)) :
    (Tls.RecordingVerifier.new config).verifyServerCert sha256 cert handshake.pki = (.ok (), verifier) := by
  unfold Tls.Handshake.run at h
  rw [hcerts] at h
  dsimp only at h
  split at h
  · cases h
  · rename_i hjudged
    rw [hjudged]
    exact congrArg (Prod.mk _) (congrArg Prod.snd h)

/-- A connection that is accepted is accepted on one of the grounds. -/
theorem grounds_of_accepted {met : Meeting} (h : Accepted sha256 config met) :
    ∃ addr handshake cert certs verification, met = .ok (addr, handshake) ∧ handshake.certs = cert :: certs ∧
      Tls.Grounds sha256 config cert handshake.pki verification := by
  rcases met with err | ⟨addr, handshake⟩
  · cases h
  · unfold Accepted connected at h
    dsimp only at h
    split at h
    · cases h
    · rename_i verification hok
      unfold Tls.connectStream at hok
      split at hok
      · cases hok
      · split at hok
        · cases hok
        · split at hok
          · cases hok
          · rename_i verifier hrun
            split at hok
            · cases hok
            · rename_i cert certs hcerts
              have hjudged := judged_of_run hcerts hrun
              refine ⟨addr, handshake, cert, certs, verification, rfl, hcerts, Tls.judged_iff.mp ?_⟩
              rw [hjudged]
              exact ⟨rfl, hok⟩

/-- **Nothing is sent but over a connection that was accepted**: in every run, the connection opened last
before any request, before the tunnel is asked for and before any packet is one whose certificate is
pinned, or accepted by the PKI verifier, or not looked at because the configuration says so. -/
theorem sent_on_accepted {σ : Type} (machine : Machine σ) (config : Config) (s : σ) (before after : List Deed)
    (e : Deed) (he : Sends e)
    (h : (Recording.final (runWithPersistence machine config ⟨s, []⟩)).record = before ++ e :: after) :
    ∃ earlier addr handshake later, before = earlier ++ .connect (.ok (addr, handshake)) :: later ∧
      (∀ d ∈ later, isConnect d = false) ∧ ∃ cert certs verification, handshake.certs = cert :: certs ∧
        Tls.Grounds machine.sha256 config cert handshake.pki verification := by
  obtain ⟨stage, hphase, -⟩ := run_record machine config s
  rw [h] at hphase
  obtain ⟨stage₁, stage₂, hbefore, hstep, -⟩ := step_of_record hphase (by rintro ⟨⟩ <;> exact he)
  have haccepted := course_invariant (fun record q => q ≠ .idle → OnAccepted machine.sha256 config record)
    (fun hne => absurd rfl hne) onAccepted_step (fun _ _ _ hne => absurd rfl hne) hbefore
    (sends_of_step hstep he)
  obtain ⟨earlier, met, later, rfl, hlater, haccepted⟩ := haccepted
  obtain ⟨addr, handshake, cert, certs, verification, rfl, hcerts, hgrounds⟩ := grounds_of_accepted haccepted
  exact ⟨earlier, addr, handshake, later, rfl, hlater, cert, certs, verification, hcerts, hgrounds⟩

theorem exists_split {α : Type} {p : α → Bool} {l : List α} (h : l.any p = true) :
    ∃ before a after, l = before ++ a :: after ∧ p a = true := by
  obtain ⟨a, ha, hp⟩ := List.any_eq_true.mp h
  obtain ⟨before, after, rfl⟩ := List.append_of_mem ha
  exact ⟨before, a, after, rfl, hp⟩

/-- The record of a run that goes well. -/
def obligingRecord : List Deed :=
  (Recording.final (runWithPersistence obliging obligingConfig ⟨(), []⟩)).record

def isStarted : Deed → Bool
  | .startTunnel _ (.ok ()) => true
  | _ => false

theorem started_obliging : ∃ (before : List Deed) (bytes : List UInt8) (after : List Deed),
    obligingRecord = before ++ Deed.startTunnel bytes (.ok ()) :: after := by
  obtain ⟨before, e, after, h, he⟩ :=
    exists_split (show obligingRecord.any isStarted = true by decide +kernel)
  unfold isStarted at he
  split at he
  · exact ⟨before, _, after, h⟩
  · cases he

theorem sent_on_accepted_obliging : ∃ (before : List Deed) (bytes : List UInt8) (after : List Deed),
    obligingRecord = before ++ Deed.startTunnel bytes (.ok ()) :: after ∧
      ∃ earlier addr handshake later, before = earlier ++ .connect (.ok (addr, handshake)) :: later ∧
        (∀ d ∈ later, isConnect d = false) ∧ ∃ cert certs verification, handshake.certs = cert :: certs ∧
          Tls.Grounds obliging.sha256 obligingConfig cert handshake.pki verification := by
  obtain ⟨before, bytes, after, h⟩ := started_obliging
  exact ⟨before, bytes, after, h, sent_on_accepted obliging obligingConfig () before after
    (.startTunnel bytes (.ok ())) trivial h⟩

/-! ### How a session is left -/

/-- The session of the tunnel that is up, or that is being taken down. -/
def Phase.session : Phase → Option String
  | .prepared cookie _ | .running cookie _ _ | .forwarded cookie _ _ _ | .changed cookie _ _
  | .settled cookie _ | .ending cookie _ _ | .owesLogout cookie => some cookie
  | _ => none

/-- The entry ends the session, with those behind it: pppd could not be started, or a connection is opened
for a logout, and the logout is sent over it if it is accepted. -/
def Leaves (sha256 : List UInt8 → List UInt8) (config : Config) (cookie : String) : Deed → List Deed → Prop
  | .spawn _ (.error _), _ => True
  | .connect met, rest => Accepted sha256 config met →
    ∃ result rest', rest = .exchange (portalRequest config cookie "/remote/logout") result :: rest'
  | _, _ => False

/-- What a step does with a session. -/
theorem session_step {q q' : Phase} {e : Deed} {cookie : String} (hstep : Step sha256 config platform q e q')
    (h : q.session = some cookie) :
    q'.session = some cookie ∧ isConnect e = false ∨ (∃ command err, e = .spawn command (.error err)) ∨
      ∃ met, e = .connect met ∧ (Accepted sha256 config met → q' = .loggingOut cookie) := by
  cases hstep with
  | leaving hq _ =>
    refine .inr (.inr ⟨_, rfl, fun _ => ?_⟩)
    cases hq <;> cases h <;> rfl
  | refused _ hrefused => exact .inr (.inr ⟨_, rfl, fun haccepted => absurd haccepted hrefused⟩)
  | notSpawned cookie' vpnConfig err => exact .inr (.inl ⟨_, _, rfl⟩)
  | setUp cookie' pid result =>
    refine .inl ⟨?_, rfl⟩
    unfold afterSetUp
    split
    · split <;> exact h
    · exact h
  | waited hq =>
    refine .inl ⟨?_, rfl⟩
    split <;> cases hq <;> exact h
  | unsuccessful _ _ hrest =>
    cases q <;> first | exact hrest.elim | cases h
  | _ => first | exact .inl ⟨h, rfl⟩ | cases h

theorem session_of_atRest {q : Phase} (h : q.AtRest) : q.session = none := by
  cases q <;> first | rfl | exact h.elim

/-- The only step of a phase that logs out is the logout. -/
theorem logout_step {q' : Phase} {e : Deed} {cookie : String}
    (h : Step sha256 config platform (.loggingOut cookie) e q') :
    ∃ result, e = .exchange (portalRequest config cookie "/remote/logout") result := by
  cases h with
  | loggedOut cookie result => exact ⟨result, rfl⟩
  | refused hq =>
    rcases hq with hrest | ⟨cookie', hleaving⟩
    · exact hrest.elim
    · cases hleaving
  | unsuccessful _ _ hrest => exact hrest.elim
  | leaving hq => cases hq
  | waited hq => cases hq

theorem step_of_nextStage {stage stage' : Stage} {e : Deed}
    (h : nextStage sha256 config platform stage e = some stage') (hrest : ¬ stage.phase.AtRest) :
    Step sha256 config platform stage.phase e stage'.phase := by
  rcases nextStage_cases h with hstep | ⟨-, hatRest, -⟩
  · exact hstep
  · exact absurd hatRest hrest

/-- A course that comes to rest has left the session it was in. -/
theorem leaves_of_path {entries : List Deed} {stage stage' : Stage} {cookie : String}
    (hsession : stage.phase.session = some cookie)
    (h : (course sha256 config platform).path stage entries = some stage') (hrest : stage'.phase.AtRest) :
    ∃ before e rest, entries = before ++ e :: rest ∧ (∀ d ∈ before, isConnect d = false) ∧
      Leaves sha256 config cookie e rest := by
  have hbusy {q : Phase} (hq : q.session ≠ none) : ¬ q.AtRest := fun hatRest => hq (session_of_atRest hatRest)
  induction entries generalizing stage with
  | nil =>
    cases h
    exact absurd hrest (hbusy (by rw [hsession]; nofun))
  | cons e entries ih =>
    rw [Protocol.path_cons] at h
    obtain ⟨stage₁, hnext, hpath⟩ := Option.bind_eq_some_iff.mp h
    rcases session_step (step_of_nextStage hnext (hbusy (by rw [hsession]; nofun))) hsession with
      ⟨hstays, hconnect⟩ | ⟨command, err, rfl⟩ | ⟨met, rfl, hlogout⟩
    · obtain ⟨before, e', rest, rfl, hbefore, hleaves⟩ := ih hstays hpath
      exact ⟨e :: before, e', rest, rfl, List.forall_mem_cons.mpr ⟨hconnect, hbefore⟩, hleaves⟩
    · exact ⟨[], _, entries, rfl, List.forall_mem_nil _, trivial⟩
    · refine ⟨[], _, entries, rfl, List.forall_mem_nil _, fun haccepted => ?_⟩
      have hphase := hlogout haccepted
      cases entries with
      | nil =>
        cases hpath
        rw [hphase] at hrest
        exact hrest.elim
      | cons e' rest =>
        rw [Protocol.path_cons] at hpath
        obtain ⟨stage₂, hnext', -⟩ := Option.bind_eq_some_iff.mp hpath
        have hstep := step_of_nextStage hnext' (by rw [hphase]; exact id)
        rw [hphase] at hstep
        obtain ⟨result, rfl⟩ := logout_step hstep
        exact ⟨result, rest, rfl⟩

/-- **A session is left**: in every run that has come to its end, behind every tunnel that was asked for the
next connection is one for the logout of that session, and the logout is what is sent over it if it is
accepted; but where pppd could not be started the session is left as it is. -/
theorem session_left {σ : Type} (machine : Machine σ) (config : Config) (s : σ) (before after : List Deed)
    (bytes : List UInt8)
    (hnot : ∀ w, runWithPersistence machine config ⟨s, []⟩ ≠ .error .waiting w)
    (h : (Recording.final (runWithPersistence machine config ⟨s, []⟩)).record =
      before ++ .startTunnel bytes (.ok ()) :: after) :
    ∃ cookie, bytes = startTunnelRequest cookie ∧ ∃ staying e rest, after = staying ++ e :: rest ∧
      (∀ d ∈ staying, isConnect d = false) ∧ Leaves machine.sha256 config cookie e rest := by
  obtain ⟨stage, hphase, hrest⟩ := run_record machine config s
  rw [h] at hphase
  obtain ⟨stage₁, stage₂, -, hstep, hpath⟩ := step_of_record hphase nofun
  obtain ⟨cookie, vpnConfig, rfl, hprepared⟩ : ∃ cookie vpnConfig, bytes = startTunnelRequest cookie ∧
      stage₂.phase = .prepared cookie vpnConfig := by
    generalize stage₁.phase = q at hstep
    generalize stage₂.phase = q' at hstep
    cases hstep with
    | started cookie vpnConfig => exact ⟨cookie, vpnConfig, rfl, rfl⟩
  exact ⟨cookie, rfl, leaves_of_path (by rw [hprepared]; rfl) hpath (hrest hnot)⟩

theorem session_left_obliging : ∃ (before : List Deed) (bytes : List UInt8) (after : List Deed),
    obligingRecord = before ++ Deed.startTunnel bytes (.ok ()) :: after ∧
      ∃ cookie, bytes = startTunnelRequest cookie ∧ ∃ staying e rest, after = staying ++ e :: rest ∧
        (∀ d ∈ staying, isConnect d = false) ∧ Leaves obliging.sha256 obligingConfig cookie e rest := by
  obtain ⟨before, bytes, after, h⟩ := started_obliging
  have hnot : ∀ w, runWithPersistence obliging obligingConfig ⟨(), []⟩ ≠ .error .waiting w := by
    intro w hwaiting
    have hreturned : outcome (runWithPersistence obliging obligingConfig ⟨(), []⟩) =
        some (.error (.pppd "TLS tunnel closed")) := by decide +kernel
    rw [hwaiting] at hreturned
    cases hreturned
  exact ⟨before, bytes, after, h, session_left obliging obligingConfig () before after bytes hnot h⟩

end OpenfortivpnRs.Main
