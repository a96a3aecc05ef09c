import OpenfortivpnRs.Main.Session
import OpenfortivpnRs.Tunnel.PppRun

/-!
# One attempt (`run_tunnel` of `main.rs`, `proxy/mod.rs`)

An attempt prepares a tunnel and keeps it up: with pppd and the routes of the system, or with a PPP
engine and a SOCKS proxy of its own.  `terminatePppd` is that of `tunnel/pppd.rs`.
-/

namespace OpenfortivpnRs.Main

open Lib Auth Text Net Tunnel Proxy

variable {σ : Type} (machine : Machine σ)

/-! ### pppd -/

def spawnPppd (command : PppdCommand) : Run σ Pid := do
  match ← Recording.ask machine.forkpty (.spawn command) with
  | .ok pid => pure pid
  | .error err => Run.fail (.pppd ("forkpty failed: " ++ err))

def isReaped (pid : Pid) : Run σ Bool := do
  match ← Recording.ask (machine.waitpid pid true) (.waitpid pid true) with
  | .ok .stillAlive => pure false
  | .ok _ => pure true
  | .error .echild => pure true
  | .error (.other err) => Run.fail (.pppd ("waitpid failed: " ++ err))

/-- The loop behind `SIGTERM`, as often as it comes round before the deadline. -/
def awaitReaped (pid : Pid) : (turns : ℕ) → Run σ Bool
  | 0 => pure false
  | turns + 1 => do
    if ← isReaped machine pid then pure true
    else awaitReaped pid turns

/-- The loop behind `SIGKILL`, which ends when the child does. -/
def reapKilled (pid : Pid) : (turns : ℕ) → Run σ Unit
  | 0 => throw .waiting
  | turns + 1 => do
    match ← Recording.ask (machine.waitpid pid false) (.waitpid pid false) with
    | .ok .exited => pure ()
    | .ok .signaled => pure ()
    | .ok _ => reapKilled pid turns
    | .error .echild => pure ()
    | .error (.other err) => Run.fail (.pppd ("waitpid after SIGKILL failed: " ++ err))

def kill (pid : Pid) (signal : Signal) : Run σ Unit :=
  Recording.ask (machine.kill pid signal) fun _ => .kill pid signal

def terminatePppd (pid : Pid) : Run σ Unit := do
  if ← isReaped machine pid then pure ()
  else do
    kill machine pid .sigterm
    if ← awaitReaped machine pid (← Recording.look machine.rounds) then pure ()
    else do
      kill machine pid .sigkill
      reapKilled machine pid (← Recording.look machine.rounds)

/-! ### The system's tunnel -/

def tunnelEndpointIpv4 : SocketAddr → Option Ipv4Addr
  | .v4 ip _ => some ip
  | .v6 .. => none

/-- `forward_with_callbacks`: nothing while it goes on, and the addresses its callback was called with. -/
def forwardWithCallbacks (streams : Streams) : Option (Result Forward.ForwardStats) × List Ipv4Addr :=
  match streams.nonblocking with
  | .error err => (some (.error err), [])
  | .ok () =>
    let (result, f) := (Forward.Forwarder.start streams.pty streams.tls).loop streams.polls
    (result, f.reported)

/-- The address the network setup thread is started for while these are reported. -/
def networkThread (tunnel : RunTunnel) (reported : List Ipv4Addr) : Option Ipv4Addr :=
  (reported.foldl tunnel.onIpcpIpv4 []).head?

def applyNetworkAfterInterfaceUp (config : Config) (vpnConfig : VpnConfigXml) (platform : Platform)
    (ipcpAddr : Ipv4Addr) (preferredInterface : Option String) (tunnelEndpoint : Option Ipv4Addr)
    (looks : List (Except IoError (List InterfaceAddress))) :
    σ → Result (Option AppliedNetworkPlan) × σ := fun s =>
  match waitForUpPppInterface ipcpAddr preferredInterface looks with
  | .error err => (.error (.io err), s)
  | .ok none => (.error (.network ("timed out waiting for PPP interface with IPv4 address " ++
      ipcpAddr.display)), s)
  | .ok (some interface) =>
    let plan := planNetworkActions config vpnConfig platform interface.name tunnelEndpoint
    if plan.actions = [] then (.ok none, s)
    else
      let run := applyNetworkPlan machine.host plan ⟨config.useResolvconf⟩ s
      (run.result.map some, run.state)

def preferredInterface (config : Config) : Option String := config.pppdIfname.or config.ifaceName

/-- The network setup of the thread that was started for the address. -/
def setUpNetwork (config : Config) (prepared : PreparedTunnel) (platform : Platform) (addr : Ipv4Addr) :
    Run σ (Result (Option AppliedNetworkPlan)) := do
  let looks ← Recording.look machine.interfaces
  Recording.ask (applyNetworkAfterInterfaceUp machine config prepared.vpnConfig platform addr
    (preferredInterface config) (tunnelEndpointIpv4 prepared.tcpPeerAddr) looks) (.setUp addr looks)

def rollback (applied : AppliedNetworkPlan) : Run σ (Result Unit) :=
  Recording.ask (fun s => ((applied.rollback machine.host s).result, (applied.rollback machine.host s).state))
    (.rollback applied)

/-- Where the network setup thread is joined; its own steps stand here on the record. -/
def joinNetworkThread (config : Config) (prepared : PreparedTunnel) (reported : List Ipv4Addr) : Run σ Unit :=
  match machine.platform, networkThread ⟨config, prepared.vpnConfig, machine.platform⟩ reported with
  | some platform, some addr => do
    match ← setUpNetwork machine config prepared platform addr with
    | .ok (some applied) =>
      if applied.applied = [] then pure ()
      else do
        let _ ← rollback machine applied
    | .ok none => pure ()
    | .error _ => pure ()
  | _, _ => pure ()

def runTunnel (config : Config) : Run σ Unit := do
  if config.gatewayHost = "" then Run.fail (.auth "gateway host is required")
  else do
    let prepared ← prepare machine config
    let pid ← spawnPppd machine (buildPppBackendCommand config)
    let streams ← Recording.ask machine.streams .forward
    let (returned, reported) := forwardWithCallbacks streams
    match returned with
    | none => throw .waiting
    | some forwardResult => do
      joinNetworkThread machine config prepared reported
      let _ ← Run.result (terminatePppd machine pid)
      let _ ← Run.result (logout machine config prepared.cookie)
      Run.ofResult (forwardResult.map fun _ => ())

/-! ### The proxy -/

/-- Packets written one after another, up to the first error. -/
def sendAll : List PppPacket → Run σ Unit
  | [] => pure ()
  | packet :: packets => do
    match packet.encodeForTls with
    | .error err => Run.fail err
    | .ok frame => do
      writeAll machine frame (.send packet)
      sendAll packets

def flushPppOutgoing (ppp : PppEngine) : Run σ PppEngine := do
  sendAll machine ppp.outgoing
  return { ppp with outgoing := [] }

/-- The loop of `establish_ppp`, as often as it comes round before the deadline. -/
def negotiate : (turns : ℕ) → PppEngine → Run σ PppEngine
  | 0, _ => Run.fail (.pppd "timed out waiting for proxy PPP negotiation")
  | turns + 1, ppp => do
    if ← stopRequested machine then Run.fail (.pppd "proxy PPP negotiation interrupted")
    else do
      match ← Recording.ask machine.readPacket .receive with
      | .error (.io err) =>
        if err.kind = .wouldBlock ∨ err.kind = .timedOut then negotiate turns ppp
        else Run.fail (.io err)
      | .error err => Run.fail err
      | .ok packet =>
        match ppp.handleIncoming packet with
        | (.error err, _) => Run.fail err
        | (.ok events, ppp) =>
          -- of the events of a packet, the first that is no IPv4 packet returns
          match events.find? fun event => (upAddress event).isSome ∨ event = .down with
          | some (.up ..) => flushPppOutgoing machine ppp
          | some _ => Run.fail (.pppd "proxy PPP negotiation terminated by peer")
          | none => do
            let ppp ← flushPppOutgoing machine ppp
            negotiate turns ppp

def establishPpp : Run σ PppEngine := do
  match ← Recording.look machine.setTimeouts with
  | .error err => Run.fail (.io err)
  | .ok () => do
    let turns ← Recording.look machine.rounds
    let ppp ← flushPppOutgoing machine PppEngine.new.start
    negotiate machine turns ppp

def proxyRun (config : Config) : Run σ Unit := do
  if ← stopRequested machine then pure ()
  else do
    let prepared ← prepare machine config
    let routeTable := ProxyRouteTable.fromConfig config prepared.vpnConfig
    let dnsServers := prepared.vpnConfig.dnsServers.filterMap Ipv4Addr.parse
    match config.proxy with
    | none => Run.fail (.network "proxy mode requires --proxy listen address")
    | some listen => do
      let runtimeResult ← Run.result (do
        let ppp ← establishPpp machine
        Run.ofResult (← Recording.ask (machine.serve listen ppp routeTable dnsServers) .serve))
      let _ ← Run.result (logout machine config prepared.cookie)
      Run.ofResult runtimeResult

/-- The call at the head of the loop of `run_with_persistence`. -/
def attempt (config : Config) : Run σ Unit :=
  if config.proxy.isSome then proxyRun machine config else runTunnel machine config

end OpenfortivpnRs.Main
