import OpenfortivpnRs.Main.Attempt

/-!
# The lifecycle of a tunnel

What may follow what on the record of an attempt: the order of the requests with the session cookie, which
connection they go over, and what a tunnel that is up owes before the attempt returns: that its network
changes are rolled back, that its pppd is waited for, and that the session is logged out.
-/

namespace OpenfortivpnRs.Main

open Lib Auth Http Text Net Tunnel

/-- How far an attempt is.  From `prepared` on there is something to put in order. -/
inductive Phase where
  | idle
  /-- The first connection is open and every exchange on it so far was answered. -/
  | loggingIn
  | allocating (cookie : String)
  | allocated (cookie : String)
  /-- The second connection is open. -/
  | reconnected (cookie : String)
  | configured (cookie : String) (vpnConfig : VpnConfigXml)
  | prepared (cookie : String) (vpnConfig : VpnConfigXml)
  | running (cookie : String) (vpnConfig : VpnConfigXml) (pid : Pid)
  /-- The forwarding loop has returned; what it has reported. -/
  | forwarded (cookie : String) (vpnConfig : VpnConfigXml) (pid : Pid) (reported : List Ipv4Addr)
  /-- The network has been changed. -/
  | changed (cookie : String) (pid : Pid) (applied : AppliedNetworkPlan)
  | settled (cookie : String) (pid : Pid)
  /-- pppd is alive; the signals it was sent. -/
  | ending (cookie : String) (pid : Pid) (signals : List Signal)
  | owesLogout (cookie : String)
  | loggingOut (cookie : String)
  deriving DecidableEq

namespace Phase

/-- Nothing is left that has to be put in order. -/
def AtRest : Phase → Prop
  | idle | loggingIn | allocating _ | allocated _ | reconnected _ | configured _ _ => True
  | _ => False

instance : DecidablePred AtRest := fun q => by
  cases q <;> simp only [AtRest] <;> infer_instance

end Phase

/-- The child is gone for `waitpid`, or `waitpid` cannot say; where it blocks, a child that is stopped is
waited for. -/
def Over (nohang : Bool) (result : Except Errno WaitStatus) : Prop :=
  result ≠ .ok .stillAlive ∧ (nohang = true ∨ result ≠ .ok .other)

instance (nohang : Bool) : DecidablePred (Over nohang) := fun _ => inferInstanceAs (Decidable (_ ∧ _))

section Lifecycle

variable (sha256 : List UInt8 → List UInt8) (config : Config) (platform : Option Platform)

def Accepted (met : Meeting) : Prop := (connected sha256 config met).isOk = true

instance : DecidablePred (Accepted sha256 config) := fun _ => inferInstanceAs (Decidable (_ = true))

/-- The next phase when all went well, and the phase of an attempt that ends otherwise. -/
def orIdle (c : Prop) [Decidable c] (q : Phase) : Option Phase := some (if c then q else .idle)

/-- What the answer to the request for the configuration leads to. -/
def configuredBy (cookie : String) (result : Result HttpResponse) : Option Phase :=
  match result with
  | .ok response =>
    match response.bodyAsStr with
    | some rawXml => orIdle (Succeeded result) (.configured cookie (parseVpnConfigXml (.ofList rawXml)))
    | none => some .idle
  | .error _ => some .idle

/-- What a request on an open connection leads to. -/
def afterExchange (request : Request) (result : Result HttpResponse) : Phase → Option Phase
  | .loggingIn =>
    match sessionCookie request with
    | none => orIdle (result.isOk = true) .loggingIn
    | some cookie =>
      if request = portalRequest config cookie request.path then orIdle (Succeeded result) (.allocating cookie)
      else none
  | .allocating cookie =>
    if request = portalRequest config cookie "/remote/fortisslvpn" then
      orIdle (Succeeded result) (.allocated cookie)
    else none
  | .reconnected cookie =>
    if request = portalRequest config cookie "/remote/fortisslvpn_xml" then
      configuredBy cookie result
    else none
  | .loggingOut cookie => if request = portalRequest config cookie "/remote/logout" then some .idle else none
  | _ => none

/-- What a connection leads to. -/
def afterConnect (met : Meeting) : Phase → Option Phase
  | .idle => orIdle (Accepted sha256 config met) .loggingIn
  | .allocated cookie => orIdle (Accepted sha256 config met) (.reconnected cookie)
  -- a proxy leaves its tunnel, or has not got it up
  | .prepared cookie _ | .owesLogout cookie => orIdle (Accepted sha256 config met) (.loggingOut cookie)
  | _ => none

def afterSpawn (cookie : String) (vpnConfig : VpnConfigXml) : Except String Pid → Phase
  | .ok pid => .running cookie vpnConfig pid
  -- the session is left as it is
  | .error _ => .idle

def WithPlan (result : Result (Option AppliedNetworkPlan)) : Prop := ∃ applied, result = .ok (some applied)

instance : DecidablePred WithPlan := fun result =>
  match result with
  | .ok (some applied) => .isTrue ⟨applied, rfl⟩
  | .ok none => .isFalse nofun
  | .error _ => .isFalse nofun

/-- An interface was seen that is up and has the address. -/
def HasInterface (addr : Ipv4Addr) (looks : List (Except IoError (List InterfaceAddress))) : Prop :=
  ∃ interface, waitForUpPppInterface addr (preferredInterface config) looks = .ok (some interface)

instance (addr : Ipv4Addr) : DecidablePred (HasInterface config addr) := fun looks =>
  match h : waitForUpPppInterface addr (preferredInterface config) looks with
  | .ok (some interface) => .isTrue ⟨interface, h⟩
  | .ok none => .isFalse fun ⟨_, hsome⟩ => nomatch h.symm.trans hsome
  | .error _ => .isFalse fun ⟨_, hsome⟩ => nomatch h.symm.trans hsome

/-- What the network setup leads to: a plan that was applied has to be rolled back. -/
def afterSetUp (cookie : String) (pid : Pid) : Result (Option AppliedNetworkPlan) → Phase
  | .ok (some applied) => if applied.applied = [] then .settled cookie pid else .changed cookie pid applied
  | _ => .settled cookie pid

/-- What looking for the child leads to. -/
def afterWait (nohang : Bool) (result : Except Errno WaitStatus) (cookie : String) (pid : Pid)
    (signals : List Signal) : Option Phase :=
  if nohang = decide (.sigkill ∉ signals) then
    some (if Over nohang result then .owesLogout cookie else .ending cookie pid signals)
  else none

/-- What may follow in each phase. -/
def next (q : Phase) : Deed → Option Phase
  | .attempt | .returned _ | .sleep => none
  | .look _ =>
    match q with
    | .idle => some .idle
    | .prepared cookie vpnConfig => some (.prepared cookie vpnConfig)
    | _ => none
  | .connect met => afterConnect sha256 config met q
  | .exchange request result => afterExchange config request result q
  | .startTunnel bytes result =>
    match q with
    | .configured cookie vpnConfig =>
      if bytes = startTunnelRequest cookie then orIdle (result = .ok ()) (.prepared cookie vpnConfig) else none
    | _ => none
  | .spawn command result =>
    match q with
    | .prepared cookie vpnConfig =>
      if command = buildPppBackendCommand config then some (afterSpawn cookie vpnConfig result) else none
    | _ => none
  | .send _ _ | .receive _ =>
    match q with
    | .prepared cookie vpnConfig => some (.prepared cookie vpnConfig)
    | _ => none
  | .serve _ =>
    match q with
    | .prepared cookie _ => some (.owesLogout cookie)
    | _ => none
  | .forward streams =>
    match q with
    | .running cookie vpnConfig pid =>
      some (.forwarded cookie vpnConfig pid (forwardWithCallbacks streams).2)
    | _ => none
  | .setUp addr looks result =>
    match q with
    | .forwarded cookie vpnConfig pid reported =>
      if networkThread ⟨config, vpnConfig, platform⟩ reported = some addr ∧
          (WithPlan result → HasInterface config addr looks) then
        some (afterSetUp cookie pid result)
      else none
    | _ => none
  | .rollback applied' _ =>
    match q with
    | .changed cookie pid applied => if applied' = applied then some (.settled cookie pid) else none
    | _ => none
  | .waitpid pid' nohang result =>
    match q with
    | .forwarded cookie _ pid _ => if pid' = pid then afterWait nohang result cookie pid [] else none
    | .settled cookie pid => if pid' = pid then afterWait nohang result cookie pid [] else none
    | .ending cookie pid signals => if pid' = pid then afterWait nohang result cookie pid signals else none
    | _ => none
  | .kill pid' signal =>
    match q with
    | .ending cookie pid signals =>
      if pid' = pid ∧ (signals, signal) ∈ [([], .sigterm), ([.sigterm], .sigkill)] then
        some (.ending cookie pid (signals ++ [signal]))
      else none
    | _ => none

/-- **The lifecycle of a tunnel**, as a protocol on the record. -/
def lifecycle : Protocol Deed Phase := ⟨.idle, next sha256 config platform⟩

end Lifecycle

/-! ### Programs that keep to it -/

variable {σ : Type} {machine : Machine σ} {config : Config}

/-- A run that has stopped is at rest, unless it is still waiting. -/
def Quits (halt : Halt) (q : Phase) : Prop := halt = .waiting ∨ q.AtRest

variable (machine config) in
/-- The lifecycle on this machine. -/
abbrev life : Protocol Deed Phase := lifecycle machine.sha256 config machine.platform

section Steps

variable {α : Type} {q : Phase} {Q : α → Phase → Prop} {E : Halt → Phase → Prop}

theorem leads_fail {err : OpenfortivpnError} (h : E (.stop (.error err)) q) :
    (life machine config).Leads Q E q (Run.fail err : Run σ α) :=
  Protocol.Leads.stop h

theorem leads_ofResult {result : Result α} (hok : ∀ a, result = .ok a → Q a q)
    (herror : ∀ err, result = .error err → E (.stop (.error err)) q) :
    (life machine config).Leads Q E q (Run.ofResult result : Run σ α) := by
  cases result with
  | ok a => exact .ret (hok a rfl)
  | error err => exact leads_fail (herror err rfl)

variable (config) in
/-- The exchanges of a conversation lead to the phase. -/
def Conversed (exchanges : List (Request × Result HttpResponse)) (q q' : Phase) : Prop :=
  exchanges.foldlM (fun q exchange => afterExchange config exchange.1 exchange.2 q) q = some q'

theorem Conversed.nil (q : Phase) : Conversed config [] q q := rfl

theorem Conversed.cons {request : Request} {result : Result HttpResponse} {q q' q'' : Phase}
    {exchanges : List (Request × Result HttpResponse)} (hnext : afterExchange config request result q = some q')
    (hrest : Conversed config exchanges q' q'') : Conversed config ((request, result) :: exchanges) q q'' := by
  unfold Conversed
  rw [List.foldlM_cons, hnext]
  exact hrest

theorem Conversed.append {front back : List (Request × Result HttpResponse)} {q q' q'' : Phase}
    (hfront : Conversed config front q q') (hback : Conversed config back q' q'') :
    Conversed config (front ++ back) q q'' := by
  unfold Conversed at hfront ⊢
  rw [List.foldlM_append, hfront]
  exact hback

theorem leads_converse {login : Login σ α} {P : α → Conversation σ → Prop} {F : Conversation σ → Prop}
    (h : Triple (fun w => w.exchanges = []) login P F)
    (hok : ∀ a w, P a w → ∃ q', Conversed config w.exchanges q q' ∧ Q a q')
    (herror : ∀ why w, F w → ∃ q', Conversed config w.exchanges q q' ∧ E (.stop why) q') :
    (life machine config).Leads Q E q (Run.converse login) := by
  intro w
  have hpath {exchanges : List (Request × Result HttpResponse)} {q' : Phase}
      (hc : Conversed config exchanges q q') : (life machine config).path q (exchanges.map fun exchange =>
        .exchange exchange.1 exchange.2) = some q' := by
    show List.foldlM _ _ _ = _
    rw [List.foldlM_map]
    exact hc
  have hrun := h ⟨w.world, []⟩ rfl
  unfold Run.converse
  cases hc : login ⟨w.world, []⟩ with
  | ok a c =>
    rw [hc] at hrun
    obtain ⟨q', hconversed, hq'⟩ := hok a c hrun
    exact ⟨_, q', rfl, hpath hconversed, hq'⟩
  | error why c =>
    rw [hc] at hrun
    obtain ⟨q', hconversed, hq'⟩ := herror why c hrun
    exact ⟨_, q', rfl, hpath hconversed, hq'⟩

theorem leads_connect {r : Phase}
    (h : ∀ met, afterConnect machine.sha256 config met q = orIdle (Accepted machine.sha256 config met) r) :
    (life machine config).Leads (fun _ q' => q' = r) (fun halt q' => halt ≠ .waiting ∧ q' = .idle) q
      (connect machine config) := by
  unfold connect
  refine .bind (Q := fun met q' => q' = if Accepted machine.sha256 config met then r else .idle)
    (.ask fun met => ⟨_, h met, rfl⟩) fun met q' hq' => ?_
  refine leads_ofResult (fun conn hconn => ?_) fun err herr => ⟨nofun, ?_⟩
  · rw [hq', if_pos (by unfold Accepted; rw [hconn]; rfl)]
  · rw [hq', if_neg (by unfold Accepted; rw [herr]; nofun)]

theorem leads_writeAll {Q : Unit → Phase → Prop} {bytes : List UInt8} {entry : Except IoError Unit → Deed}
    (hok : ∃ q', next machine.sha256 config machine.platform q (entry (.ok ())) = some q' ∧ Q () q')
    (herror : ∀ err, ∃ q', next machine.sha256 config machine.platform q (entry (.error err)) = some q' ∧
      E (.stop (.error (.io err))) q') :
    (life machine config).Leads Q E q (writeAll machine bytes entry) := by
  unfold writeAll
  refine .bind (Q := fun result r =>
    next machine.sha256 config machine.platform q (entry result) = some r) (.ask fun result => ?_)
    fun result r hr => ?_
  · cases result with
    | ok u =>
      obtain ⟨q', hq', -⟩ := hok
      exact ⟨q', hq', hq'⟩
    | error err =>
      obtain ⟨q', hq', -⟩ := herror err
      exact ⟨q', hq', hq'⟩
  · cases result with
    | ok u =>
      obtain ⟨q', hq', hQ⟩ := hok
      rw [hr] at hq'
      cases hq'
      exact .ret hQ
    | error err =>
      obtain ⟨q', hq', hE⟩ := herror err
      rw [hr] at hq'
      cases hq'
      exact leads_fail hE

end Steps

/-! ### Preparing and leaving -/

theorem conversed_login {exchanges : List (Request × Result HttpResponse)} (h : AllAnswered exchanges) :
    Conversed config exchanges .loggingIn .loggingIn := by
  induction exchanges with
  | nil => exact .nil _
  | cons exchange exchanges ih =>
    obtain ⟨hlogin, hok⟩ := h exchange List.mem_cons_self
    refine .cons ?_ (ih fun e he => h e (List.mem_cons_of_mem _ he))
    simp only [afterExchange, hlogin, orIdle, hok, if_true]

theorem conversed_failed {exchanges : List (Request × Result HttpResponse)}
    (h : AnsweredButLast exchanges) : ∃ q', Conversed config exchanges .loggingIn q' ∧ q'.AtRest := by
  rcases h with h | ⟨front, request, err, rfl, hfront, hlogin⟩
  · exact ⟨_, conversed_login h, trivial⟩
  · refine ⟨.idle, (conversed_login hfront).append (.cons ?_ (.nil _)), trivial⟩
    simp only [afterExchange, hlogin, orIdle]
    exact congrArg some (if_neg nofun)

theorem leads_logIn :
    (life machine config).Leads (fun _ q => q = .loggingIn) (fun halt q => halt ≠ .waiting ∧ q.AtRest)
      .loggingIn (logIn machine config) := by
  have hprompt {login : Login σ AuthSession} (h : Prompt login) :
      (life machine config).Leads (fun _ q => q = .loggingIn) (fun halt q => halt ≠ .waiting ∧ q.AtRest)
        .loggingIn (Run.converse login) := by
    refine leads_converse (h.conseq (fun w hw => ?_) (fun _ _ hw => hw) fun _ hw => hw) ?_ ?_
    · rw [hw]
      exact nofun
    · exact fun _ w hw => ⟨_, conversed_login hw, rfl⟩
    · intro why w hw
      obtain ⟨q', hq', hrest⟩ := conversed_failed hw
      exact ⟨q', hq', nofun, hrest⟩
  unfold logIn
  split
  · exact hprompt (prompt_saml _ _)
  · exact hprompt (prompt_authenticate _)

theorem leads_allocation (cookie : String) (portalRedirect : Option String) :
    (life machine config).Leads (fun _ q => q = .allocated cookie)
      (fun halt q => halt ≠ .waiting ∧ q.AtRest) .loggingIn
      (Run.converse (requestVpnAllocation machine.gateway config cookie portalRedirect)) := by
  have hfirst (path : String) (result : Result HttpResponse) :
      afterExchange config (portalRequest config cookie path) result .loggingIn =
        orIdle (Succeeded result) (.allocating cookie) := if_pos rfl
  have hsecond (result : Result HttpResponse) :
      afterExchange config (portalRequest config cookie "/remote/fortisslvpn") result (.allocating cookie) =
        orIdle (Succeeded result) (.allocated cookie) := if_pos rfl
  refine leads_converse (triple_requestVpnAllocation config cookie portalRedirect) ?_ ?_
  · rintro _ w ⟨path, first, second, hok, hok', hw⟩
    rw [hw]
    refine ⟨_, .cons (hfirst _ _) ?_, rfl⟩
    rw [if_pos hok]
    refine .cons (hsecond _) ?_
    rw [if_pos hok']
    exact .nil _
  · rintro why w ⟨path, ⟨result, hfailed, hw⟩ | ⟨first, hok, result, hfailed, hw⟩⟩
    · rw [hw]
      refine ⟨.idle, .cons (hfirst _ _) ?_, nofun, trivial⟩
      rw [if_neg hfailed]
      exact .nil _
    · rw [hw]
      refine ⟨.idle, .cons (hfirst _ _) ?_, nofun, trivial⟩
      rw [if_pos hok]
      refine .cons (hsecond _) ?_
      rw [if_neg hfailed]
      exact .nil _

theorem leads_getVpnConfig (cookie : String) :
    (life machine config).Leads (fun vpnConfig q => q = .configured cookie vpnConfig)
      (fun halt q => halt ≠ .waiting ∧ q.AtRest) (.reconnected cookie)
      (Run.converse (getVpnConfig machine.gateway config cookie)) := by
  have hnext (result : Result HttpResponse) :
      afterExchange config (portalRequest config cookie "/remote/fortisslvpn_xml") result
        (.reconnected cookie) = configuredBy cookie result := if_pos rfl
  refine leads_converse (triple_getVpnConfig config cookie) ?_ ?_
  · rintro vpnConfig w ⟨response, rawXml, hok, hbody, rfl, hw⟩
    rw [hw]
    refine ⟨_, .cons ((hnext _).trans ?_) (.nil _), rfl⟩
    simp only [configuredBy, hbody, orIdle, if_pos hok]
  · rintro why w ⟨result, hw, hresult⟩
    have hidle : configuredBy cookie result = some .idle := by
      cases result with
      | error err => rfl
      | ok response =>
        cases hbody : response.bodyAsStr with
        | none => simp only [configuredBy, hbody]
        | some rawXml =>
          have hfailed : ¬ Succeeded (.ok response) := fun hok => by
            rw [hresult response rfl hok] at hbody
            cases hbody
          simp only [configuredBy, hbody, orIdle, if_neg hfailed]
    rw [hw]
    exact ⟨.idle, .cons ((hnext _).trans hidle) (.nil _), nofun, trivial⟩

/-- **A tunnel that is prepared has come through every phase before**, and a preparation that fails leaves
nothing to put in order. -/
theorem leads_prepare :
    (life machine config).Leads (fun prepared q => q = .prepared prepared.cookie prepared.vpnConfig)
      (fun halt q => halt ≠ .waiting ∧ q.AtRest) .idle (prepare machine config) := by
  have hidle {α : Type} {Q : α → Phase → Prop} {q : Phase} {run : Run σ α}
      (h : (life machine config).Leads Q (fun halt r => halt ≠ .waiting ∧ r = .idle) q run) :
      (life machine config).Leads Q (fun halt r => halt ≠ .waiting ∧ r.AtRest) q run :=
    h.conseq (fun _ _ hq => hq) fun _ _ hq => ⟨hq.1, hq.2 ▸ trivial⟩
  unfold prepare
  refine .bind (hidle (leads_connect (r := .loggingIn) fun _ => rfl)) ?_
  rintro authStream _ rfl
  refine .bind leads_logIn ?_
  rintro authSession _ rfl
  refine .bind (leads_allocation _ _) ?_
  rintro _ _ rfl
  refine .bind (hidle (leads_connect (r := .reconnected authSession.cookie) fun _ => rfl)) ?_
  rintro tunnelStream _ rfl
  refine .bind (leads_getVpnConfig _) ?_
  rintro vpnConfig _ rfl
  refine .bind (Q := fun _ q => q = .prepared authSession.cookie vpnConfig) ?_ ?_
  · exact leads_writeAll ⟨_, if_pos rfl, rfl⟩ fun err => ⟨_, if_pos rfl, nofun, trivial⟩
  · rintro _ _ rfl
    exact .ret rfl

theorem leads_logout (cookie : String) {q : Phase}
    (h : ∀ met, afterConnect machine.sha256 config met q =
      orIdle (Accepted machine.sha256 config met) (.loggingOut cookie)) :
    (life machine config).Leads (fun _ r => r = .idle) (fun halt r => halt ≠ .waiting ∧ r = .idle) q
      (logout machine config cookie) := by
  have hnext (result : Result HttpResponse) : afterExchange config
      (portalRequest config cookie "/remote/logout") result (.loggingOut cookie) = some .idle := if_pos rfl
  unfold logout
  refine .bind (leads_connect h) ?_
  rintro stream _ rfl
  refine leads_converse (triple_logOut config cookie) ?_ ?_
  · rintro _ w ⟨result, hw⟩
    rw [hw]
    exact ⟨_, .cons (hnext _) (.nil _), rfl⟩
  · rintro why w ⟨result, hw⟩
    rw [hw]
    exact ⟨_, .cons (hnext _) (.nil _), nofun, rfl⟩

/-! ### Ending pppd -/

section Terminate

variable {cookie : String} {pid : Pid} {q : Phase}

/-- What the phase allows to follow is a look for the child, which has been sent these signals. -/
def Waits (machine : Machine σ) (config : Config) (cookie : String) (pid : Pid) (signals : List Signal)
    (q : Phase) : Prop :=
  ∀ nohang result, next machine.sha256 config machine.platform q (.waitpid pid nohang result) =
    afterWait nohang result cookie pid signals

theorem waits_ending (signals : List Signal) :
    Waits machine config cookie pid signals (.ending cookie pid signals) := fun _ _ => if_pos rfl

/-- A run that has stopped with an error has ended pppd as far as it can. -/
def GivesUp (cookie : String) (halt : Halt) (q : Phase) : Prop :=
  halt = .waiting ∨ (∃ err, halt = .stop (.error err)) ∧ q = .owesLogout cookie

theorem leads_isReaped {signals : List Signal} (hwaits : Waits machine config cookie pid signals q)
    (hsignals : .sigkill ∉ signals) :
    (life machine config).Leads
      (fun gone r => r = if gone then .owesLogout cookie else .ending cookie pid signals)
      (GivesUp cookie) q (isReaped machine pid) := by
  have hnext (result : Except Errno WaitStatus) :
      next machine.sha256 config machine.platform q (.waitpid pid true result) =
        some (if Over true result then .owesLogout cookie else .ending cookie pid signals) := by
    rw [hwaits, afterWait, if_pos (by simp [hsignals])]
  unfold isReaped
  refine .bind (.ask fun result => ⟨_, hnext result, rfl⟩) ?_
  rintro result _ rfl
  rcases result with errno | status
  · cases errno with
    | echild => exact .ret rfl
    | other text => exact leads_fail (.inr ⟨⟨_, rfl⟩, rfl⟩)
  · cases status <;> exact .ret rfl

theorem leads_awaitReaped (turns : ℕ) :
    (life machine config).Leads
      (fun gone r => r = if gone then .owesLogout cookie else .ending cookie pid [.sigterm])
      (GivesUp cookie) (.ending cookie pid [.sigterm]) (awaitReaped machine pid turns) := by
  induction turns with
  | zero => exact .ret rfl
  | succ turns ih =>
    rw [awaitReaped]
    refine .bind (leads_isReaped (waits_ending _) (by decide)) ?_
    rintro gone _ rfl
    cases gone with
    | true => exact .ret rfl
    | false => exact ih

theorem leads_reapKilled (turns : ℕ) :
    (life machine config).Leads (fun _ r => r = .owesLogout cookie) (GivesUp cookie)
      (.ending cookie pid [.sigterm, .sigkill]) (reapKilled machine pid turns) := by
  induction turns with
  | zero => exact .stop (.inl rfl)
  | succ turns ih =>
    have hnext (result : Except Errno WaitStatus) :
        next machine.sha256 config machine.platform (.ending cookie pid [.sigterm, .sigkill])
          (.waitpid pid false result) = some (if Over false result then .owesLogout cookie
            else .ending cookie pid [.sigterm, .sigkill]) := by
      rw [waits_ending, afterWait, if_pos (by decide)]
    rw [reapKilled]
    refine .bind (.ask fun result => ⟨_, hnext result, rfl⟩) ?_
    rintro result _ rfl
    rcases result with errno | status
    · cases errno with
      | echild => exact .ret rfl
      | other text => exact leads_fail (.inr ⟨⟨_, rfl⟩, rfl⟩)
    · cases status with
      | exited => exact .ret rfl
      | signaled => exact .ret rfl
      | stillAlive => exact ih
      | other => exact ih

/-- **Termination**: the child is signalled in order, and left only when it is over. -/
theorem leads_terminatePppd (hwaits : Waits machine config cookie pid [] q) :
    (life machine config).Leads (fun _ r => r = .owesLogout cookie) (GivesUp cookie) q
      (terminatePppd machine pid) := by
  unfold terminatePppd kill
  refine .bind (leads_isReaped hwaits (by decide)) ?_
  rintro gone _ rfl
  cases gone with
  | true => exact .ret rfl
  | false =>
    refine .bind (Q := fun _ r => r = .ending cookie pid [.sigterm])
      (.ask fun _ => ⟨_, if_pos ⟨rfl, by decide⟩, rfl⟩) ?_
    rintro _ _ rfl
    refine .bind (Q := fun _ r => r = .ending cookie pid [.sigterm]) (.look fun _ => rfl) ?_
    rintro turns _ rfl
    refine .bind (leads_awaitReaped turns) ?_
    rintro gone _ rfl
    cases gone with
    | true => exact .ret rfl
    | false =>
      refine .bind (Q := fun _ r => r = .ending cookie pid [.sigterm, .sigkill])
        (.ask fun _ => ⟨_, if_pos ⟨rfl, by decide⟩, rfl⟩) ?_
      rintro _ _ rfl
      refine .bind (Q := fun _ r => r = .ending cookie pid [.sigterm, .sigkill]) (.look fun _ => rfl) ?_
      rintro turns _ rfl
      exact leads_reapKilled turns

end Terminate

end OpenfortivpnRs.Main
