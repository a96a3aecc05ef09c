import OpenfortivpnRs.Main.Accounts

/-!
# What stands before

Each phase of an attempt says what the record of the run ends in.  So before a tunnel is asked for there
is a login and an allocation on one accepted connection and a configuration on another
(`tunnel_asked_for`); the network is changed only behind a forwarding loop that has reported the address,
for an interface that is up with it (`changed_for_interface`); and a signal goes to a process that the
run has started and that is not over (`signals_own_child`).
-/

namespace OpenfortivpnRs.Main

open Lib Auth Http Net Tunnel

section Trail

variable (sha256 : List UInt8 → List UInt8) (config : Config)

/-- An accepted connection and the requests of a login on it, all of them answered. -/
def LoggedIn (record : List Deed) : Prop :=
  ∃ before met exchanges, Accepted sha256 config met ∧ AllAnswered exchanges ∧
    record = before ++ .connect met :: exchanges.map fun exchange => .exchange exchange.1 exchange.2

/-- Then the page a login leads to, which was given. -/
def Allocating (cookie : String) (record : List Deed) : Prop :=
  ∃ before path result, LoggedIn sha256 config before ∧ Succeeded result ∧
    record = before ++ [.exchange (portalRequest config cookie path) result]

/-- Then the allocation. -/
def Allocated (cookie : String) (record : List Deed) : Prop :=
  ∃ before result, Allocating sha256 config cookie before ∧ Succeeded result ∧
    record = before ++ [.exchange (portalRequest config cookie "/remote/fortisslvpn") result]

/-- Then a second accepted connection. -/
def Reconnected (cookie : String) (record : List Deed) : Prop :=
  ∃ before met, Allocated sha256 config cookie before ∧ Accepted sha256 config met ∧
    record = before ++ [.connect met]

/-- Then the configuration. -/
def Configured (cookie : String) (vpnConfig : VpnConfigXml) (record : List Deed) : Prop :=
  ∃ before response rawXml, Reconnected sha256 config cookie before ∧ Succeeded (.ok response) ∧
    response.bodyAsStr = some rawXml ∧ vpnConfig = parseVpnConfigXml (.ofList rawXml) ∧
    record = before ++ [.exchange (portalRequest config cookie "/remote/fortisslvpn_xml") (.ok response)]

/-- What a proxy does while its own engine negotiates. -/
def Negotiates : Deed → Prop
  | .look _ | .send _ _ | .receive _ => True
  | _ => False

/-- Then the tunnel was asked for. -/
def Prepared (cookie : String) (vpnConfig : VpnConfigXml) (record : List Deed) : Prop :=
  ∃ before negotiation, Configured sha256 config cookie vpnConfig before ∧ (∀ e ∈ negotiation, Negotiates e) ∧
    record = before ++ .startTunnel (startTunnelRequest cookie) (.ok ()) :: negotiation

/-- Then pppd was started. -/
def Running (cookie : String) (vpnConfig : VpnConfigXml) (pid : Pid) (record : List Deed) : Prop :=
  ∃ before, Prepared sha256 config cookie vpnConfig before ∧
    record = before ++ [.spawn (buildPppBackendCommand config) (.ok pid)]

/-- What the record ends in, by the phase. -/
def Trail : Phase → List Deed → Prop
  | .loggingIn, record => LoggedIn sha256 config record
  | .allocating cookie, record => Allocating sha256 config cookie record
  | .allocated cookie, record => Allocated sha256 config cookie record
  | .reconnected cookie, record => Reconnected sha256 config cookie record
  | .configured cookie vpnConfig, record => Configured sha256 config cookie vpnConfig record
  | .prepared cookie vpnConfig, record => Prepared sha256 config cookie vpnConfig record
  | .running cookie vpnConfig pid, record => Running sha256 config cookie vpnConfig pid record
  | .forwarded cookie vpnConfig pid reported, record => ∃ before streams,
    Running sha256 config cookie vpnConfig pid before ∧ reported = (forwardWithCallbacks streams).2 ∧
      record = before ++ [.forward streams]
  | _, _ => True

end Trail

variable {sha256 : List UInt8 → List UInt8} {config : Config} {platform : Option Platform}

theorem LoggedIn.snoc {record : List Deed} {request : Request} {result : Result HttpResponse}
    (h : LoggedIn sha256 config record) (hlogin : sessionCookie request = none) (hok : result.isOk = true) :
    LoggedIn sha256 config (record ++ [.exchange request result]) := by
  obtain ⟨before, met, exchanges, haccepted, hanswered, rfl⟩ := h
  refine ⟨before, met, exchanges ++ [(request, result)], haccepted, ?_, ?_⟩
  · intro exchange hexchange
    rcases List.mem_append.mp hexchange with hold | hnew
    · exact hanswered exchange hold
    · rw [List.mem_singleton.mp hnew]
      exact ⟨hlogin, hok⟩
  · rw [List.append_assoc, List.cons_append, List.map_append]
    rfl

theorem Prepared.snoc {record : List Deed} {e : Deed} {cookie : String} {vpnConfig : VpnConfigXml}
    (h : Prepared sha256 config cookie vpnConfig record) (he : Negotiates e) :
    Prepared sha256 config cookie vpnConfig (record ++ [e]) := by
  obtain ⟨before, negotiation, hconfigured, hnegotiates, rfl⟩ := h
  refine ⟨before, negotiation ++ [e], hconfigured, ?_, by rw [List.append_assoc, List.cons_append]⟩
  intro d hd
  rcases List.mem_append.mp hd with hold | hnew
  · exact hnegotiates d hold
  · rwa [List.mem_singleton.mp hnew]

theorem trail_step {record : List Deed} {q q' : Phase} {e : Deed}
    (hstep : Step sha256 config platform q e q') (h : Trail sha256 config q record) :
    Trail sha256 config q' (record ++ [e]) := by
  cases hstep with
  | lookPrepared => exact h.snoc trivial
  | opened haccepted => exact ⟨record, _, [], haccepted, List.forall_mem_nil _, rfl⟩
  | reopened cookie haccepted => exact ⟨record, _, h, haccepted, rfl⟩
  | answered hlogin hok => exact h.snoc hlogin hok
  | allocating cookie path hok => exact ⟨record, path, _, h, hok, rfl⟩
  | allocated cookie hok => exact ⟨record, _, h, hok, rfl⟩
  | configured cookie hok hbody => exact ⟨record, _, _, h, hok, hbody, rfl, rfl⟩
  | started => exact ⟨record, [], h, List.forall_mem_nil _, rfl⟩
  | spawned => exact ⟨record, h, rfl⟩
  | sent => exact h.snoc trivial
  | received => exact h.snoc trivial
  | forwarded cookie vpnConfig pid streams => exact ⟨record, streams, h, rfl, rfl⟩
  | setUp cookie pid result =>
    rcases result with err | _ | applied
    · trivial
    · trivial
    · by_cases happlied : applied.applied = []
      · rw [show afterSetUp cookie pid (.ok (some applied)) = .settled cookie pid from if_pos happlied]
        trivial
      · rw [show afterSetUp cookie pid (.ok (some applied)) = .changed cookie pid applied from
          if_neg happlied]
        trivial
  | waited => split <;> trivial
  | _ => trivial

theorem trail_of_course {record : List Deed} {stage : Stage}
    (h : (course sha256 config platform).phase record = some stage) :
    Trail sha256 config stage.phase record :=
  course_invariant (fun record q => Trail sha256 config q record) trivial trail_step
    (fun _ _ _ => trivial) h

/-! ### What is asked of the gateway -/

/-- **A tunnel is asked for in order**: in every run, right before the request stand a connection that was
accepted, a login all of whose requests were answered, the two requests of an allocation with the session
cookie, a second connection that was accepted, and a configuration, each of them a success; and the
request bears the same cookie. -/
theorem tunnel_asked_for {σ : Type} (machine : Machine σ) (config : Config) (s : σ)
    (before after : List Deed) (bytes : List UInt8) (result : Except IoError Unit)
    (h : (Recording.final (runWithPersistence machine config ⟨s, []⟩)).record =
      before ++ .startTunnel bytes result :: after) :
    ∃ cookie vpnConfig, bytes = startTunnelRequest cookie ∧
      Configured machine.sha256 config cookie vpnConfig before := by
  obtain ⟨stage, hphase, -⟩ := run_record machine config s
  rw [h] at hphase
  obtain ⟨stage₁, stage₂, hbefore, hstep, -⟩ := step_of_record hphase nofun
  have htrail := trail_of_course hbefore
  generalize stage₁.phase = q at hstep htrail
  generalize stage₂.phase = q' at hstep
  cases hstep with
  | started cookie vpnConfig => exact ⟨cookie, vpnConfig, rfl, htrail⟩
  | notStarted cookie vpnConfig err => exact ⟨cookie, vpnConfig, rfl, htrail⟩

theorem tunnel_asked_for_obliging : ∃ (before : List Deed) (bytes : List UInt8) (after : List Deed),
    obligingRecord = before ++ Deed.startTunnel bytes (.ok ()) :: after ∧
      ∃ cookie vpnConfig, bytes = startTunnelRequest cookie ∧
        Configured obliging.sha256 obligingConfig cookie vpnConfig before := by
  obtain ⟨before, bytes, after, h⟩ := started_obliging
  exact ⟨before, bytes, after, h, tunnel_asked_for obliging obligingConfig () before after bytes _ h⟩

/-! ### What is changed in the system -/

theorem foldl_onIpcpIpv4 (tunnel : RunTunnel) (reported : List Ipv4Addr) :
    reported.foldl tunnel.onIpcpIpv4 [] =
      if tunnel.applyNetwork = true ∧ tunnel.platform ≠ none then (reported.find? tunnel.accepted).toList
      else [] := by
  induction reported using List.reverseRecOn with
  | nil => split <;> rfl
  | append_singleton reported addr ih =>
    rw [List.foldl_append, ih, List.foldl_cons, List.foldl_nil]
    split
    · rename_i hactive
      exact RunTunnel.onIpcpIpv4_find hactive.1 hactive.2 reported addr
    · rename_i hinactive
      unfold RunTunnel.onIpcpIpv4
      split
      · rfl
      · rename_i happly
        have hnone : tunnel.platform = none := not_not.mp fun hplatform => hinactive
          ⟨not_not.mp fun hnot => happly (.inl hnot), hplatform⟩
        rw [hnone]
        split <;> rfl

/-- The thread is started for the first reported address that is not refused, if there is something for it
to do. -/
theorem networkThread_some {tunnel : RunTunnel} {reported : List Ipv4Addr} {addr : Ipv4Addr}
    (h : networkThread tunnel reported = some addr) :
    tunnel.applyNetwork = true ∧ reported.find? tunnel.accepted = some addr := by
  unfold networkThread at h
  rw [foldl_onIpcpIpv4] at h
  split at h
  · rename_i hactive
    refine ⟨hactive.1, ?_⟩
    cases hfind : reported.find? tunnel.accepted with
    | none => rw [hfind] at h; cases h
    | some first => rw [hfind] at h; exact h
  · cases h

/-- An interface that is found stands among those of one of the looks. -/
theorem isUpWith_of_hasInterface {addr : Ipv4Addr} {looks : List (Except IoError (List InterfaceAddress))}
    (h : HasInterface config addr looks) :
    ∃ interface, ∃ addrs, .ok addrs ∈ looks ∧ IsUpWith addr (preferredInterface config) interface addrs := by
  obtain ⟨interface, hwait⟩ := h
  induction looks with
  | nil => cases hwait
  | cons look looks ih =>
    cases look with
    | error err => cases hwait
    | ok addrs =>
      simp only [waitForUpPppInterface] at hwait
      split at hwait
      · rename_i hfind
        exact ⟨_, addrs, List.mem_cons_self, findUpPppInterface_some hfind⟩
      · obtain ⟨interface, addrs', hmem, hup⟩ := ih hwait
        exact ⟨interface, addrs', List.mem_cons_of_mem _ hmem, hup⟩

def isApplied : Deed → Bool
  | .setUp _ _ (.ok (some _)) => true
  | _ => false

def signalOf : Deed → Option Signal
  | .kill _ signal => some signal
  | _ => none

/-- The process was started, no other was started or ended behind it, and it was sent these signals. -/
def Alive (pid : Pid) (signals : List Signal) (record : List Deed) : Prop :=
  ∃ before command after, record = before ++ .spawn command (.ok pid) :: after ∧
    (∀ e ∈ after, spawnedPid e = none ∧ endedPid e = none) ∧ after.filterMap signalOf = signals

/-- The signals sent to the process that is alive. -/
def Phase.signals : Phase → List Signal
  | .ending _ _ signals => signals
  | _ => []

def AliveIn (record : List Deed) (q : Phase) : Prop :=
  ∀ pid, q.live = some pid → Alive pid q.signals record

theorem Alive.snoc {pid : Pid} {signals : List Signal} {record : List Deed} {e : Deed}
    (h : Alive pid signals record) (hspawned : spawnedPid e = none) (hended : endedPid e = none) :
    Alive pid (signals ++ (signalOf e).toList) (record ++ [e]) := by
  obtain ⟨before, command, after, rfl, hafter, rfl⟩ := h
  refine ⟨before, command, after ++ [e], by rw [List.append_assoc, List.cons_append], ?_,
    filterMap_snoc signalOf after e⟩
  intro d hd
  rcases List.mem_append.mp hd with hold | hnew
  · exact hafter d hold
  · rw [List.mem_singleton.mp hnew]
    exact ⟨hspawned, hended⟩

theorem aliveIn_step {record : List Deed} {q q' : Phase} {e : Deed}
    (hstep : Step sha256 config platform q e q') (h : AliveIn record q) : AliveIn (record ++ [e]) q' := by
  intro pid hlive
  -- a process that was alive before is sent nothing but by `kill`
  have hkept (hlive : q.live = some pid) (hspawned : spawnedPid e = none) (hended : endedPid e = none)
      (hsignals : q'.signals = q.signals ++ (signalOf e).toList) : Alive pid q'.signals (record ++ [e]) := by
    rw [hsignals]
    exact (h pid hlive).snoc hspawned hended
  cases hstep with
  | spawned cookie vpnConfig pid' =>
    cases hlive
    exact ⟨record, _, [], rfl, List.forall_mem_nil _, rfl⟩
  | forwarded => exact hkept hlive rfl rfl rfl
  | setUp cookie pid' result =>
    have hafter : (afterSetUp cookie pid' result).live = some pid' ∧ (afterSetUp cookie pid' result).signals = [] := by
      unfold afterSetUp
      split
      · split <;> exact ⟨rfl, rfl⟩
      · exact ⟨rfl, rfl⟩
    rw [hafter.1] at hlive
    exact hkept hlive rfl rfl hafter.2
  | rolledBack => exact hkept hlive rfl rfl rfl
  | @waited _ cookie pid' signals nohang result hq =>
    obtain ⟨hlive', hsignals⟩ : q.live = some pid' ∧ q.signals = signals := by
      cases hq <;> exact ⟨rfl, rfl⟩
    by_cases hover : Over nohang result
    · rw [if_pos hover] at hlive
      cases hlive
    · rw [if_neg hover] at hlive
      cases hlive
      refine hkept hlive' rfl (if_neg hover) ?_
      rw [if_neg hover, hsignals]
      exact (List.append_nil _).symm
  | signalled cookie pid' hsignal => exact hkept hlive rfl rfl rfl
  | _ => cases hlive

/-- **Only a child of the run is signalled**: in every run, a signal goes to a process that the run has
started, behind which no other was started and which has not been seen to be over; the first one is
`SIGTERM` and the second and last `SIGKILL`. -/
theorem signals_own_child {σ : Type} (machine : Machine σ) (config : Config) (s : σ)
    (before after : List Deed) (pid : Pid) (signal : Signal)
    (h : (Recording.final (runWithPersistence machine config ⟨s, []⟩)).record =
      before ++ .kill pid signal :: after) :
    ∃ signals, Alive pid signals before ∧ signals ++ [signal] <+: [.sigterm, .sigkill] := by
  obtain ⟨stage, hphase, -⟩ := run_record machine config s
  rw [h] at hphase
  obtain ⟨stage₁, stage₂, hbefore, hstep, -⟩ := step_of_record hphase nofun
  have halive : AliveIn before stage₁.phase := course_invariant AliveIn nofun aliveIn_step
    (fun _ _ _ => nofun) hbefore
  generalize stage₁.phase = q at hstep halive
  generalize stage₂.phase = q' at hstep
  cases hstep with
  | signalled cookie pid hsignal =>
    refine ⟨_, halive pid rfl, ?_⟩
    simp only [List.mem_cons, List.not_mem_nil, Prod.mk.injEq, or_false] at hsignal
    rcases hsignal with ⟨hsignals, rfl⟩ | ⟨hsignals, rfl⟩
    · exact ⟨[.sigkill], congrArg (· ++ [.sigterm] ++ [.sigkill]) hsignals⟩
    · exact ⟨[], congrArg (· ++ [.sigkill] ++ []) hsignals⟩

def isKilled : Deed → Bool
  | .kill _ .sigkill => true
  | _ => false

theorem signals_own_child_obliging : ∃ (before : List Deed) (pid : Pid) (after : List Deed),
    obligingRecord = before ++ Deed.kill pid .sigkill :: after ∧
      ∃ signals : List Signal, Alive pid signals before ∧ signals ++ [.sigkill] <+: [.sigterm, .sigkill] := by
  obtain ⟨before, e, after, h, he⟩ :=
    exists_split (show obligingRecord.any isKilled = true by decide +kernel)
  unfold isKilled at he
  split at he
  · exact ⟨before, _, after, h, signals_own_child obliging obligingConfig () before after _ _ h⟩
  · cases he

end OpenfortivpnRs.Main
