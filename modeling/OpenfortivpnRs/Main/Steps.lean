import OpenfortivpnRs.Main.Lifecycle

/-!
# The steps of an attempt

Each step that the lifecycle allows has one of a few forms (`step_of_next`).
-/

namespace OpenfortivpnRs.Main

open Lib Auth Http Net Tunnel

variable {sha256 : List UInt8 → List UInt8} {config : Config} {platform : Option Platform}

/-- The child that can be waited for: the session, the process and the signals it was sent. -/
inductive HasChild : Phase → String → Pid → List Signal → Prop
  | forwarded (cookie : String) (vpnConfig : VpnConfigXml) (pid : Pid) (reported : List Ipv4Addr) :
    HasChild (.forwarded cookie vpnConfig pid reported) cookie pid []
  | settled (cookie : String) (pid : Pid) : HasChild (.settled cookie pid) cookie pid []
  | ending (cookie : String) (pid : Pid) (signals : List Signal) :
    HasChild (.ending cookie pid signals) cookie pid signals

/-- The tunnel of a proxy that is to be left. -/
inductive Leaving : Phase → String → Prop
  | prepared (cookie : String) (vpnConfig : VpnConfigXml) : Leaving (.prepared cookie vpnConfig) cookie
  | owesLogout (cookie : String) : Leaving (.owesLogout cookie) cookie

section Step

variable (sha256 config platform)

/-- The forms a step has. -/
inductive Step : Phase → Deed → Phase → Prop
  | lookIdle (stop : Bool) : Step .idle (.look stop) .idle
  | lookPrepared (cookie : String) (vpnConfig : VpnConfigXml) (stop : Bool) :
    Step (.prepared cookie vpnConfig) (.look stop) (.prepared cookie vpnConfig)
  | opened {met : Meeting} (haccepted : Accepted sha256 config met) : Step .idle (.connect met) .loggingIn
  | reopened {met : Meeting} (cookie : String) (haccepted : Accepted sha256 config met) :
    Step (.allocated cookie) (.connect met) (.reconnected cookie)
  | leaving {q : Phase} {met : Meeting} {cookie : String} (hq : Leaving q cookie)
    (haccepted : Accepted sha256 config met) : Step q (.connect met) (.loggingOut cookie)
  | refused {q : Phase} {met : Meeting} (hq : q.AtRest ∨ ∃ cookie, Leaving q cookie)
    (hrefused : ¬ Accepted sha256 config met) : Step q (.connect met) .idle
  | answered {request : Request} {result : Result HttpResponse} (hlogin : sessionCookie request = none)
    (hok : result.isOk = true) : Step .loggingIn (.exchange request result) .loggingIn
  | allocating {result : Result HttpResponse} (cookie path : String) (hok : Succeeded result) :
    Step .loggingIn (.exchange (portalRequest config cookie path) result) (.allocating cookie)
  | allocated {result : Result HttpResponse} (cookie : String) (hok : Succeeded result) :
    Step (.allocating cookie) (.exchange (portalRequest config cookie "/remote/fortisslvpn") result)
      (.allocated cookie)
  | configured {response : HttpResponse} {rawXml : List Char} (cookie : String)
    (hok : Succeeded (.ok response)) (hbody : response.bodyAsStr = some rawXml) :
    Step (.reconnected cookie) (.exchange (portalRequest config cookie "/remote/fortisslvpn_xml") (.ok response))
      (.configured cookie (parseVpnConfigXml (.ofList rawXml)))
  | unsuccessful {q : Phase} {request : Request} {result : Result HttpResponse} (hopen : q ≠ .idle)
    (hallocated : ∀ cookie, q ≠ .allocated cookie) (hq : q.AtRest) : Step q (.exchange request result) .idle
  | loggedOut (cookie : String) (result : Result HttpResponse) :
    Step (.loggingOut cookie) (.exchange (portalRequest config cookie "/remote/logout") result) .idle
  | started (cookie : String) (vpnConfig : VpnConfigXml) :
    Step (.configured cookie vpnConfig) (.startTunnel (startTunnelRequest cookie) (.ok ()))
      (.prepared cookie vpnConfig)
  | notStarted (cookie : String) (vpnConfig : VpnConfigXml) (err : IoError) :
    Step (.configured cookie vpnConfig) (.startTunnel (startTunnelRequest cookie) (.error err)) .idle
  | spawned (cookie : String) (vpnConfig : VpnConfigXml) (pid : Pid) :
    Step (.prepared cookie vpnConfig) (.spawn (buildPppBackendCommand config) (.ok pid))
      (.running cookie vpnConfig pid)
  | notSpawned (cookie : String) (vpnConfig : VpnConfigXml) (err : String) :
    Step (.prepared cookie vpnConfig) (.spawn (buildPppBackendCommand config) (.error err)) .idle
  | sent (cookie : String) (vpnConfig : VpnConfigXml) (packet : PppPacket) (result : Except IoError Unit) :
    Step (.prepared cookie vpnConfig) (.send packet result) (.prepared cookie vpnConfig)
  | received (cookie : String) (vpnConfig : VpnConfigXml) (result : Result PppPacket) :
    Step (.prepared cookie vpnConfig) (.receive result) (.prepared cookie vpnConfig)
  | served (cookie : String) (vpnConfig : VpnConfigXml) (result : Result Unit) :
    Step (.prepared cookie vpnConfig) (.serve result) (.owesLogout cookie)
  | forwarded (cookie : String) (vpnConfig : VpnConfigXml) (pid : Pid) (streams : Streams) :
    Step (.running cookie vpnConfig pid) (.forward streams)
      (.forwarded cookie vpnConfig pid (forwardWithCallbacks streams).2)
  | setUp {vpnConfig : VpnConfigXml} {reported : List Ipv4Addr} {addr : Ipv4Addr}
    {looks : List (Except IoError (List InterfaceAddress))} (cookie : String) (pid : Pid)
    (result : Result (Option AppliedNetworkPlan))
    (hthread : networkThread ⟨config, vpnConfig, platform⟩ reported = some addr)
    (hinterface : WithPlan result → HasInterface config addr looks) :
    Step (.forwarded cookie vpnConfig pid reported) (.setUp addr looks result) (afterSetUp cookie pid result)
  | rolledBack (cookie : String) (pid : Pid) (applied : AppliedNetworkPlan) (result : Result Unit) :
    Step (.changed cookie pid applied) (.rollback applied result) (.settled cookie pid)
  | waited {q : Phase} {cookie : String} {pid : Pid} {signals : List Signal} {nohang : Bool}
    {result : Except Errno WaitStatus} (hq : HasChild q cookie pid signals) :
    Step q (.waitpid pid nohang result)
      (if Over nohang result then .owesLogout cookie else .ending cookie pid signals)
  | signalled {signals : List Signal} {signal : Signal} (cookie : String) (pid : Pid)
    (hsignal : (signals, signal) ∈ [([], .sigterm), ([.sigterm], .sigkill)]) :
    Step (.ending cookie pid signals) (.kill pid signal) (.ending cookie pid (signals ++ [signal]))

end Step

theorem of_orIdle {c : Prop} [Decidable c] {q q' : Phase} (h : orIdle c q = some q') :
    c ∧ q' = q ∨ ¬ c ∧ q' = .idle := by
  cases h
  by_cases hc : c
  · exact .inl ⟨hc, if_pos hc⟩
  · exact .inr ⟨hc, if_neg hc⟩

theorem step_of_connect {q q' : Phase} {met : Meeting} (h : afterConnect sha256 config met q = some q') :
    Step sha256 config platform q (.connect met) q' := by
  have hleaving {cookie : String} (hq : Leaving q cookie)
      (h : orIdle (Accepted sha256 config met) (.loggingOut cookie) = some q') :
      Step sha256 config platform q (.connect met) q' := by
    rcases of_orIdle h with ⟨haccepted, rfl⟩ | ⟨hrefused, rfl⟩
    · exact .leaving hq haccepted
    · exact .refused (.inr ⟨cookie, hq⟩) hrefused
  cases q with
  | idle =>
    rcases of_orIdle h with ⟨haccepted, rfl⟩ | ⟨hrefused, rfl⟩
    · exact .opened haccepted
    · exact .refused (.inl trivial) hrefused
  | allocated cookie =>
    rcases of_orIdle h with ⟨haccepted, rfl⟩ | ⟨hrefused, rfl⟩
    · exact .reopened cookie haccepted
    · exact .refused (.inl trivial) hrefused
  | prepared cookie vpnConfig => exact hleaving (.prepared cookie vpnConfig) h
  | owesLogout cookie => exact hleaving (.owesLogout cookie) h
  | _ => cases h

theorem step_of_exchange {q q' : Phase} {request : Request} {result : Result HttpResponse}
    (h : afterExchange config request result q = some q') :
    Step sha256 config platform q (.exchange request result) q' := by
  cases q with
  | loggingIn =>
    have hfailed : Step sha256 config platform .loggingIn (.exchange request result) .idle :=
      .unsuccessful (fun h => Phase.noConfusion h) (fun _ h => Phase.noConfusion h) trivial
    simp only [afterExchange] at h
    split at h
    · rename_i hlogin
      rcases of_orIdle h with ⟨hok, rfl⟩ | ⟨-, rfl⟩
      · exact .answered hlogin hok
      · exact hfailed
    · split at h
      · rename_i cookie _ hrequest
        rcases of_orIdle h with ⟨hok, rfl⟩ | ⟨-, rfl⟩
        · rw [hrequest]
          exact .allocating cookie request.path hok
        · exact hfailed
      · cases h
  | allocating cookie =>
    simp only [afterExchange] at h
    split at h
    · rename_i hrequest
      rcases of_orIdle h with ⟨hok, rfl⟩ | ⟨-, rfl⟩
      · rw [hrequest]
        exact .allocated cookie hok
      · exact .unsuccessful (fun h => Phase.noConfusion h) (fun _ h => Phase.noConfusion h) trivial
    · cases h
  | reconnected cookie =>
    have hfailed : Step sha256 config platform (.reconnected cookie) (.exchange request result) .idle :=
      .unsuccessful (fun h => Phase.noConfusion h) (fun _ h => Phase.noConfusion h) trivial
    simp only [afterExchange] at h
    split at h
    · rename_i hrequest
      cases result with
      | error err =>
        cases h
        exact hfailed
      | ok response =>
        simp only [configuredBy] at h
        split at h
        · rename_i rawXml hbody
          rcases of_orIdle h with ⟨hok, rfl⟩ | ⟨-, rfl⟩
          · rw [hrequest]
            exact .configured cookie hok hbody
          · exact hfailed
        · cases h
          exact hfailed
    · cases h
  | loggingOut cookie =>
    simp only [afterExchange] at h
    split at h
    · rename_i hrequest
      cases h
      rw [hrequest]
      exact .loggedOut cookie result
    · cases h
  | _ => cases h

theorem step_of_waitpid {q q' : Phase} {cookie : String} {pid pid' : Pid} {signals : List Signal}
    {nohang : Bool} {result : Except Errno WaitStatus} (hq : HasChild q cookie pid signals)
    (h : (if pid' = pid then afterWait nohang result cookie pid signals else none) = some q') :
    Step sha256 config platform q (.waitpid pid' nohang result) q' := by
  split at h
  · rename_i hpid
    unfold afterWait at h
    split at h
    · cases h
      rw [hpid]
      exact .waited hq
    · cases h
  · cases h

theorem step_of_next {q q' : Phase} {e : Deed} (h : next sha256 config platform q e = some q') :
    Step sha256 config platform q e q' := by
  cases e with
  | attempt => cases h
  | returned result => cases h
  | sleep => cases h
  | look stop =>
    cases q with
    | idle => cases h; exact .lookIdle stop
    | prepared cookie vpnConfig => cases h; exact .lookPrepared cookie vpnConfig stop
    | _ => cases h
  | connect met => exact step_of_connect h
  | exchange request result => exact step_of_exchange h
  | startTunnel bytes result =>
    cases q with
    | configured cookie vpnConfig =>
      simp only [next] at h
      split at h
      · rename_i hbytes
        rw [hbytes]
        rcases of_orIdle h with ⟨rfl, rfl⟩ | ⟨hfailed, rfl⟩
        · exact .started cookie vpnConfig
        · cases result with
          | ok u => exact absurd rfl hfailed
          | error err => exact .notStarted cookie vpnConfig err
      · cases h
    | _ => cases h
  | spawn command result =>
    cases q with
    | prepared cookie vpnConfig =>
      simp only [next] at h
      split at h
      · rename_i hcommand
        rw [hcommand]
        cases result with
        | ok pid => cases h; exact .spawned cookie vpnConfig pid
        | error err => cases h; exact .notSpawned cookie vpnConfig err
      · cases h
    | _ => cases h
  | forward streams =>
    cases q with
    | running cookie vpnConfig pid => cases h; exact .forwarded cookie vpnConfig pid streams
    | _ => cases h
  | setUp addr looks result =>
    cases q with
    | forwarded cookie vpnConfig pid reported =>
      simp only [next] at h
      split at h
      · rename_i hthread
        cases h
        exact .setUp cookie pid result hthread.1 hthread.2
      · cases h
    | _ => cases h
  | rollback applied' result =>
    cases q with
    | changed cookie pid applied =>
      simp only [next] at h
      split at h
      · rename_i happlied
        cases h
        rw [happlied]
        exact .rolledBack cookie pid applied result
      · cases h
    | _ => cases h
  | kill pid' signal =>
    cases q with
    | ending cookie pid signals =>
      simp only [next] at h
      split at h
      · rename_i hsignal
        cases h
        rw [hsignal.1]
        exact .signalled cookie pid hsignal.2
      · cases h
    | _ => cases h
  | waitpid pid' nohang result =>
    cases q with
    | forwarded cookie vpnConfig pid reported => exact step_of_waitpid (.forwarded ..) h
    | settled cookie pid => exact step_of_waitpid (.settled ..) h
    | ending cookie pid signals => exact step_of_waitpid (.ending ..) h
    | _ => cases h
  | send packet result =>
    cases q with
    | prepared cookie vpnConfig => cases h; exact .sent cookie vpnConfig packet result
    | _ => cases h
  | receive result =>
    cases q with
    | prepared cookie vpnConfig => cases h; exact .received cookie vpnConfig result
    | _ => cases h
  | serve result =>
    cases q with
    | prepared cookie vpnConfig => cases h; exact .served cookie vpnConfig result
    | _ => cases h

end OpenfortivpnRs.Main
