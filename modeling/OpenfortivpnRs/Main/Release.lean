import OpenfortivpnRs.Main.Lifecycle

/-!
# Every attempt keeps to the lifecycle

An attempt that returns leaves nothing to put in order, whatever it met on its way.
-/

namespace OpenfortivpnRs.Main

open Lib Auth Http Text Net Tunnel Proxy

variable {σ : Type} {machine : Machine σ} {config : Config}

theorem leads_result {α : Type} {q : Phase} {Q : α → Phase → Prop} {E F : Halt → Phase → Prop}
    {R : Result α → Phase → Prop} {run : Run σ α} (h : (life machine config).Leads Q E q run)
    (hok : ∀ a r, Q a r → R (.ok a) r)
    (herror : ∀ err r, E (.stop (.error err)) r → R (.error err) r)
    (hE : ∀ halt r, Run.returned halt = none → E halt r → F halt r) :
    (life machine config).Leads R F q (Run.result run) := by
  refine Protocol.Leads.attempt h hok ?_ hE
  intro halt err r hreturned hr
  rcases halt with (err' | why) | _
  · cases hreturned
    exact herror _ r hr
  · cases hreturned
  · cases hreturned

/-! ### The system's tunnel -/

/-- A plan is applied only for an interface that has come up with the address. -/
theorem hasInterface_of_applied {vpnConfig : VpnConfigXml} {platform : Platform} {addr : Ipv4Addr}
    {endpoint : Option Ipv4Addr} {looks : List (Except IoError (List InterfaceAddress))} {s : σ}
    (h : WithPlan (applyNetworkAfterInterfaceUp machine config vpnConfig platform addr
      (preferredInterface config) endpoint looks s).1) : HasInterface config addr looks := by
  obtain ⟨applied, h⟩ := h
  unfold applyNetworkAfterInterfaceUp at h
  split at h
  · cases h
  · cases h
  · rename_i interface hinterface
    exact ⟨interface, hinterface⟩

/-- What the network setup thread has changed is rolled back where it is joined. -/
theorem leads_joinNetworkThread {cookie : String} {pid : Pid} {prepared : PreparedTunnel}
    {reported : List Ipv4Addr} {E : Halt → Phase → Prop} :
    (life machine config).Leads (fun _ r => Waits machine config cookie pid [] r) E
      (.forwarded cookie prepared.vpnConfig pid reported)
      (joinNetworkThread machine config prepared reported) := by
  have hforwarded : Waits machine config cookie pid []
      (.forwarded cookie prepared.vpnConfig pid reported) := fun _ _ => if_pos rfl
  have hsettled : Waits machine config cookie pid [] (.settled cookie pid) := fun _ _ => if_pos rfl
  unfold joinNetworkThread
  split
  · rename_i platform addr _ hthread
    refine .bind (Q := fun result r => r = afterSetUp cookie pid result) ?_ ?_
    · refine .bind (Q := fun _ r => r = .forwarded cookie prepared.vpnConfig pid reported)
        (.look fun _ => rfl) ?_
      rintro looks _ rfl
      exact .ask_of fun s => ⟨_, if_pos ⟨hthread, hasInterface_of_applied⟩, rfl⟩
    rintro (err | _ | applied) _ rfl
    · exact .ret hsettled
    · exact .ret hsettled
    · show (life machine config).Leads _ E
        (if applied.applied = [] then .settled cookie pid else .changed cookie pid applied)
        (if applied.applied = [] then pure () else _)
      split
      · exact .ret hsettled
      · refine .bind (Q := fun _ r => r = .settled cookie pid) (.ask fun _ => ⟨_, if_pos rfl, rfl⟩) ?_
        rintro _ _ rfl
        exact .ret hsettled
  · exact .ret hforwarded

theorem leads_spawnPppd {cookie : String} {vpnConfig : VpnConfigXml} :
    (life machine config).Leads (fun pid r => r = .running cookie vpnConfig pid)
      (fun halt r => halt ≠ .waiting ∧ r = .idle) (.prepared cookie vpnConfig)
      (spawnPppd machine (buildPppBackendCommand config)) := by
  unfold spawnPppd
  refine .bind (.ask fun result => ⟨_, if_pos rfl, rfl⟩) ?_
  rintro (err | pid) _ rfl
  · exact leads_fail ⟨nofun, rfl⟩
  · exact .ret rfl

/-- A tunnel is left by logging out, whatever comes of it. -/
theorem leads_leave {cookie : String} {q : Phase} (hlogout : ∀ met,
    afterConnect machine.sha256 config met q = orIdle (Accepted machine.sha256 config met) (.loggingOut cookie))
    (result : Result Unit) :
    (life machine config).Leads (fun _ r => r.AtRest) Quits q (do
      let _ ← Run.result (logout machine config cookie)
      Run.ofResult result) := by
  refine .bind (Q := fun _ r => r = .idle) (leads_result (leads_logout cookie hlogout) ?_ ?_ ?_) ?_
  · exact fun _ _ hr => hr
  · exact fun _ _ hr => hr.2
  · exact fun _ _ _ hr => .inr (hr.2 ▸ trivial)
  · rintro _ _ rfl
    exact leads_ofResult (fun _ _ => trivial) fun _ _ => .inr trivial

theorem leads_runTunnel :
    (life machine config).Leads (fun _ r => r.AtRest) Quits .idle (runTunnel machine config) := by
  unfold runTunnel
  split
  · exact leads_fail (.inr trivial)
  refine .bind (leads_prepare.conseq (fun _ _ hq => hq) fun _ _ hq => .inr hq.2) ?_
  rintro prepared _ rfl
  refine .bind (leads_spawnPppd.conseq (fun _ _ hq => hq) fun _ _ hq => .inr (hq.2 ▸ trivial)) ?_
  rintro pid _ rfl
  refine .bind (.ask fun streams => ⟨_, rfl, rfl⟩) ?_
  rintro streams _ rfl
  rcases hforward : forwardWithCallbacks streams with ⟨_ | forwardResult, reported⟩
  · exact .stop (.inl rfl)
  refine .bind leads_joinNetworkThread ?_
  intro _ q hwaits
  refine .bind (Q := fun _ r => r = .owesLogout prepared.cookie)
    (leads_result (leads_terminatePppd hwaits) ?_ ?_ ?_) ?_
  · exact fun _ _ hr => hr
  · exact fun _ _ hr => (hr.resolve_left nofun).2
  · rintro halt r hnone (rfl | ⟨⟨err, rfl⟩, -⟩)
    · exact .inl rfl
    · cases hnone
  · rintro _ _ rfl
    exact leads_leave (fun _ => rfl) _

/-! ### The proxy -/

theorem leads_sendAll {cookie : String} {vpnConfig : VpnConfigXml} (packets : List PppPacket) :
    (life machine config).Leads (fun _ r => r = .prepared cookie vpnConfig)
      (fun halt r => (∃ err, halt = .stop (.error err)) ∧ r = .prepared cookie vpnConfig)
      (.prepared cookie vpnConfig) (sendAll machine packets) := by
  induction packets with
  | nil => exact .ret rfl
  | cons packet packets ih =>
    rw [sendAll]
    split
    · exact leads_fail ⟨⟨_, rfl⟩, rfl⟩
    · refine .bind (Q := fun _ r => r = .prepared cookie vpnConfig)
        (leads_writeAll ⟨_, rfl, rfl⟩ fun err => ⟨_, rfl, ⟨_, rfl⟩, rfl⟩) ?_
      rintro _ _ rfl
      exact ih

theorem leads_flush {cookie : String} {vpnConfig : VpnConfigXml} (ppp : PppEngine) :
    (life machine config).Leads (fun _ r => r = .prepared cookie vpnConfig)
      (fun halt r => (∃ err, halt = .stop (.error err)) ∧ r = .prepared cookie vpnConfig)
      (.prepared cookie vpnConfig) (flushPppOutgoing machine ppp) := by
  refine .bind (leads_sendAll ppp.outgoing) ?_
  rintro _ _ rfl
  exact .ret rfl

theorem leads_negotiate {cookie : String} {vpnConfig : VpnConfigXml} (turns : ℕ) : ∀ ppp,
    (life machine config).Leads (fun _ r => r = .prepared cookie vpnConfig)
      (fun halt r => (∃ err, halt = .stop (.error err)) ∧ r = .prepared cookie vpnConfig)
      (.prepared cookie vpnConfig) (negotiate machine turns ppp) := by
  induction turns with
  | zero => exact fun ppp => leads_fail ⟨⟨_, rfl⟩, rfl⟩
  | succ turns ih =>
    intro ppp
    rw [negotiate]
    refine .bind (Q := fun _ r => r = .prepared cookie vpnConfig) (.ask fun stop => ⟨_, rfl, rfl⟩) ?_
    rintro stop _ rfl
    split
    · exact leads_fail ⟨⟨_, rfl⟩, rfl⟩
    refine .bind (Q := fun _ r => r = .prepared cookie vpnConfig) (.ask fun result => ⟨_, rfl, rfl⟩) ?_
    rintro result _ rfl
    split
    · split
      · exact ih ppp
      · exact leads_fail ⟨⟨_, rfl⟩, rfl⟩
    · exact leads_fail ⟨⟨_, rfl⟩, rfl⟩
    · split
      · exact leads_fail ⟨⟨_, rfl⟩, rfl⟩
      · split
        · exact leads_flush _
        · exact leads_fail ⟨⟨_, rfl⟩, rfl⟩
        · refine .bind (leads_flush _) ?_
          rintro ppp _ rfl
          exact ih ppp

theorem leads_establishPpp {cookie : String} {vpnConfig : VpnConfigXml} :
    (life machine config).Leads (fun _ r => r = .prepared cookie vpnConfig)
      (fun halt r => (∃ err, halt = .stop (.error err)) ∧ r = .prepared cookie vpnConfig)
      (.prepared cookie vpnConfig) (establishPpp machine) := by
  unfold establishPpp
  refine .bind (Q := fun _ r => r = .prepared cookie vpnConfig) (.look fun _ => rfl) ?_
  rintro (err | _) _ rfl
  · exact leads_fail ⟨⟨_, rfl⟩, rfl⟩
  refine .bind (Q := fun _ r => r = .prepared cookie vpnConfig) (.look fun _ => rfl) ?_
  rintro turns _ rfl
  refine .bind (leads_flush _) ?_
  rintro ppp _ rfl
  exact leads_negotiate turns ppp

/-- The phases a proxy leaves its tunnel from. -/
def Leavable (machine : Machine σ) (config : Config) (cookie : String) (q : Phase) : Prop :=
  ∀ met, afterConnect machine.sha256 config met q =
    orIdle (Accepted machine.sha256 config met) (.loggingOut cookie)

theorem leads_proxyRun (hproxy : config.proxy.isSome) :
    (life machine config).Leads (fun _ r => r.AtRest) Quits .idle (proxyRun machine config) := by
  obtain ⟨listen, hlisten⟩ := Option.isSome_iff_exists.mp hproxy
  unfold proxyRun
  refine .bind (Q := fun _ r => r = .idle) (.ask fun _ => ⟨_, rfl, rfl⟩) ?_
  rintro stop _ rfl
  split
  · exact .ret trivial
  refine .bind (leads_prepare.conseq (fun _ _ hq => hq) fun _ _ hq => .inr hq.2) ?_
  rintro prepared _ rfl
  rw [hlisten]
  refine .bind (Q := fun _ r => Leavable machine config prepared.cookie r) (leads_result
    (Q := fun _ r => Leavable machine config prepared.cookie r)
    (E := fun halt r => (∃ err, halt = .stop (.error err)) ∧ Leavable machine config prepared.cookie r)
    ?_ ?_ ?_ ?_) ?_
  · refine .bind (leads_establishPpp.conseq (fun _ _ hr => hr) fun _ _ hr => ⟨hr.1, ?_⟩) ?_
    · rw [hr.2]
      exact fun _ => rfl
    rintro ppp _ rfl
    refine .bind (Q := fun _ r => r = .owesLogout prepared.cookie) (.ask fun _ => ⟨_, rfl, rfl⟩) ?_
    rintro result _ rfl
    exact leads_ofResult (fun _ _ _ => rfl) fun err _ => ⟨⟨err, rfl⟩, fun _ => rfl⟩
  · exact fun _ _ hr => hr
  · exact fun _ _ hr => hr.2
  · rintro halt r hnone ⟨⟨err, rfl⟩, -⟩
    cases hnone
  · exact fun result q hq => leads_leave hq result

/-! ### An attempt -/

/-- **An attempt keeps to the lifecycle**, and when it returns there is nothing left to put in order. -/
theorem leads_attempt :
    (life machine config).Leads (fun _ r => r.AtRest) Quits .idle (attempt machine config) := by
  unfold attempt
  split
  · rename_i hproxy
    exact leads_proxyRun hproxy
  · exact leads_runTunnel

end OpenfortivpnRs.Main
