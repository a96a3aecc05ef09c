import OpenfortivpnRs.Net.Dns

/-!
# Applying a network plan and taking it back (`net_apply.rs`)

`applyNetworkPlan` applies the actions of a plan one after another and records how to undo them;
when one fails it rolls the recorded ones back.  A run carries, besides what the source returns, the
actions that were recorded when it ended and the undos that were attempted.
-/

namespace OpenfortivpnRs.Net

open Text

structure ApplyOptions where
  useResolvconf : Bool
  deriving DecidableEq, Repr

inductive AppliedNetworkAction where
  | protectedTunnelRoute (program : String) (rollbackArgs : List String)
  | command (program : String) (rollbackArgs : List String)
  | defaultRoute (platform : Platform) (interface : String) (restore : Option (String × List String))
  | resolvconf (program interface : String)
  | macOsScutilDns (program key : String)
  | resolvConfFile (addedLines : List String)
  deriving DecidableEq, Repr

/-- The recorded actions, oldest first: `push` and `pop` work on the back. -/
structure AppliedNetworkPlan where
  applied : List AppliedNetworkAction
  deriving DecidableEq, Repr

def AppliedNetworkPlan.push (plan : AppliedNetworkPlan) (action : AppliedNetworkAction) :
    AppliedNetworkPlan :=
  { plan with applied := plan.applied ++ [action] }

variable {σ : Type} (host : Host σ)

/-! ### Rollback -/

def rollbackDefaultRoute (platform : Platform) (interface : String)
    (restore : Option (String × List String)) : Cmd σ Unit := do
  deleteDefaultRoute host platform interface
  match restore with
  | some (program, args) => runCommand host program args
  | none => pure ()

/-- One turn of the loop of `rollback`.  The value is the `result` of the match; an error is the `?`
behind the read of `resolv.conf`, which returns from `rollback`. -/
def undo : AppliedNetworkAction → Cmd σ (Result Unit)
  | .protectedTunnelRoute program rollbackArgs => Cmd.attempt (runCommand host program rollbackArgs)
  | .command program rollbackArgs => Cmd.attempt (runCommand host program rollbackArgs)
  | .defaultRoute platform interface restore =>
    Cmd.attempt (rollbackDefaultRoute host platform interface restore)
  | .resolvconf program interface =>
    Cmd.attempt (runCommand host program ["-d", interface ++ ".openfortivpn"])
  | .macOsScutilDns program key =>
    Cmd.attempt (runCommandWithStdin host program [] (asBytes (buildMacosScutilRemoveScript key)))
  | .resolvConfFile addedLines => do
    let current ← Cmd.io (host.read resolvConfPath)
    let restored := removeAddedDnsLines current addedLines
    Cmd.attempt (Cmd.io (host.write resolvConfPath restored))

/-- What a run of `rollback` attempts, with the result of each undo, and what it returns. -/
structure RollbackRun (σ : Type) where
  attempts : List (AppliedNetworkAction × Result Unit)
  result : Result Unit
  state : σ

/-- The first error is kept. -/
def noteError (firstError : Option OpenfortivpnError) : Result Unit → Option OpenfortivpnError
  | .error err => if firstError.isNone then some err else firstError
  | .ok () => firstError

/-- The loop of `rollback` on the actions still recorded, the last one first. -/
def rollbackLoop : List AppliedNetworkAction → Option OpenfortivpnError → σ → RollbackRun σ
  | [], firstError, s =>
    { attempts := []
      result := match firstError with
        | some err => .error err
        | none => .ok ()
      state := s }
  | action :: applied, firstError, s =>
    match undo host action s with
    | .error err s' => { attempts := [(action, .error err)], result := .error err, state := s' }
    | .ok result s' =>
      let run := rollbackLoop applied (noteError firstError result) s'
      { run with attempts := (action, result) :: run.attempts }

def AppliedNetworkPlan.rollback (plan : AppliedNetworkPlan) (s : σ) : RollbackRun σ :=
  rollbackLoop host plan.applied.reverse none s

/-! ### Applying an action

A `push` is always followed by `Ok`: a function that fails leaves the plan as it was. -/

def protectTunnelRoute (platform : Platform) (endpoint : Ipv4Addr) (applied : AppliedNetworkPlan) :
    Cmd σ AppliedNetworkPlan := do
  match ← buildProtectTunnelRouteCommands host platform endpoint with
  | none => pure applied
  | some (program, args, rollbackArgs) =>
    if ← runCommandIgnoreExistingRoute host program args then
      pure (applied.push (.protectedTunnelRoute program rollbackArgs))
    else pure applied

def applyDefaultRoute (platform : Platform) (interface : String) (applied : AppliedNetworkPlan) :
    Cmd σ AppliedNetworkPlan := do
  let restore ← captureDefaultRoute host platform
  deleteDefaultRoute host platform interface
  match ← Cmd.attempt (addDefaultRoute host platform interface) with
  | .error err =>
    match restore with
    | some (program, args) =>
      match ← Cmd.attempt (runCommand host program args) with
      | .error restoreErr =>
        throw (.network (err.display ++ "; failed to restore previous default route: " ++
          restoreErr.display))
      | .ok () => throw err
    | none => throw err
  | .ok () => pure (applied.push (.defaultRoute platform interface restore))

/-- `apply_macos_scutil_dns`: the plan with the setting recorded, or nothing when `scutil` is missing
or fails. -/
def applyMacosScutilDns (interface : String) (servers : List String) (searchDomain : Option String)
    (applied : AppliedNetworkPlan) : Cmd σ (Option AppliedNetworkPlan) := do
  match ← findScutil host with
  | none => pure none
  | some program =>
    let key := macosScutilDnsKey interface
    let script := buildMacosScutilDnsScript key interface servers searchDomain
    match ← Cmd.attempt (runCommandWithStdin host program [] (asBytes script)) with
    | .error err =>
      Cmd.look fun s => ((), host.warn ("could not configure macOS DNS with scutil, falling back to " ++
        "resolv.conf/resolvconf: " ++ err.display) s)
      pure none
    | .ok () => pure (some (applied.push (.macOsScutilDns program key)))

/-- The part of `apply_dns` that edits `/etc/resolv.conf`. -/
def applyResolvConfFile (servers : List String) (searchDomain : Option String)
    (applied : AppliedNetworkPlan) : Cmd σ AppliedNetworkPlan := do
  let originalContents ← Cmd.io (host.read resolvConfPath)
  let addedLines := dnsLinesToAdd originalContents servers searchDomain
  if addedLines = [] then pure applied
  else
    Cmd.io (host.write resolvConfPath (prependDnsLinesToResolvConf originalContents addedLines))
    pure (applied.push (.resolvConfFile addedLines))

/-- The part of `apply_dns` behind `scutil`. -/
def applyResolvconf (interface : String) (servers : List String) (searchDomain : Option String)
    (options : ApplyOptions) (applied : AppliedNetworkPlan) : Cmd σ AppliedNetworkPlan := do
  let resolvBody := buildResolvconfBody servers searchDomain
  match ← if options.useResolvconf then findResolvconf host else pure none with
  | some program =>
    runCommandWithStdin host program ["-a", interface ++ ".openfortivpn"] (asBytes resolvBody)
    pure (applied.push (.resolvconf program interface))
  | none => applyResolvConfFile host servers searchDomain applied

def applyDns (platform : Platform) (interface : String) (servers : List String)
    (searchDomain : Option String) (options : ApplyOptions) (applied : AppliedNetworkPlan) :
    Cmd σ AppliedNetworkPlan := do
  if servers = [] ∧ searchDomain = none then pure applied
  else
    match ← if platform = .macOs then applyMacosScutilDns host interface servers searchDomain applied
      else pure none with
    | some applied => pure applied
    | none => applyResolvconf host interface servers searchDomain options applied

/-- One turn of the loop of `apply_network_plan`.  The value is the `result` of the match with the
plan it leaves; an error is the `?` behind `run_command`, which returns from `apply_network_plan`. -/
def applyAction (options : ApplyOptions) (applied : AppliedNetworkPlan) :
    NetworkAction → Cmd σ (Result AppliedNetworkPlan)
  | .dropWrongTunnelRoute platform endpoint interface =>
    Cmd.attempt (do dropWrongTunnelRoute host platform endpoint interface; pure applied)
  | .protectTunnelRoute platform endpoint => Cmd.attempt (protectTunnelRoute host platform endpoint applied)
  | .runCommand program args => do
    runCommand host program args
    match rollbackArgsForCommand program args with
    | some rollbackArgs => pure (.ok (applied.push (.command program rollbackArgs)))
    | none => pure (.ok applied)
  | .replaceDefaultRoute platform interface => Cmd.attempt (applyDefaultRoute host platform interface applied)
  | .configureDns platform interface servers searchDomain =>
    Cmd.attempt (applyDns host platform interface servers searchDomain options applied)

/-- What a run of `apply_network_plan` returns, the actions recorded when it ended and the undos it
attempted. -/
structure ApplyRun (σ : Type) where
  result : Result AppliedNetworkPlan
  recorded : List AppliedNetworkAction
  attempts : List (AppliedNetworkAction × Result Unit)
  state : σ

/-- The loop of `apply_network_plan`. -/
def applyLoop (options : ApplyOptions) :
    List NetworkAction → AppliedNetworkPlan → σ → ApplyRun σ
  | [], applied, s => { result := .ok applied, recorded := applied.applied, attempts := [], state := s }
  | action :: actions, applied, s =>
    match applyAction host options applied action s with
    | .error err s' =>
      { result := .error err, recorded := applied.applied, attempts := [], state := s' }
    | .ok (.error err) s' =>
      let run := applied.rollback host s'
      { result := match run.result with
          | .error rollbackErr =>
            .error (.network (err.display ++ "; rollback also failed: " ++ rollbackErr.display))
          | .ok () => .error err
        recorded := applied.applied
        attempts := run.attempts
        state := run.state }
    | .ok (.ok applied') s' => applyLoop options actions applied' s'

def applyNetworkPlan (plan : NetworkPlan) (options : ApplyOptions) (s : σ) : ApplyRun σ :=
  applyLoop host options plan.actions ⟨[]⟩ s

end OpenfortivpnRs.Net
