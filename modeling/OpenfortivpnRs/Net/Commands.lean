import OpenfortivpnRs.Net.Host
import OpenfortivpnRs.Net.Plan

/-!
# Running commands and reading routes (`net_apply.rs`)
-/

namespace OpenfortivpnRs.Net

open Text

variable {σ : Type} (host : Host σ)

/-! ### Commands -/

def commandError (program : String) (args : List String) (stdout stderr : List UInt8)
    (status : String) : OpenfortivpnError :=
  let stderr := trim (fromUtf8Lossy stderr)
  let stdout := trim (fromUtf8Lossy stdout)
  let detail := if stderr ≠ "" then stderr else if stdout ≠ "" then stdout else status
  .network ("command failed: " ++ program ++ " " ++ String.intercalate " " args ++ ": " ++ detail)

def runCommand (program : String) (args : List String) : Cmd σ Unit := do
  let output ← Cmd.io (host.output program args)
  if output.success then pure ()
  else throw (commandError program args output.stdout output.stderr output.status)

def runCommandWithStdin (program : String) (args : List String) (stdin : List UInt8) : Cmd σ Unit := do
  let child ← Cmd.io (host.spawn program args)
  if ¬ child.stdin then throw (.network "failed to open command stdin")
  Cmd.io (host.writeAll child stdin)
  let output ← Cmd.io (host.waitWithOutput child)
  if output.success then pure ()
  else throw (commandError program args output.stdout output.stderr output.status)

def commandOutputMentionsExistingRoute (stdout stderr : List UInt8) : Bool :=
  let text := toAsciiLowercase (fromUtf8Lossy stdout) ++ toAsciiLowercase (fromUtf8Lossy stderr)
  contains text "file exists" || contains text "route already exists"

def runCommandIgnoreExistingRoute (program : String) (args : List String) : Cmd σ Bool := do
  let output ← Cmd.io (host.output program args)
  if output.success then pure true
  else if commandOutputMentionsExistingRoute output.stdout output.stderr then
    Cmd.look fun s => ((), host.warn ("route already exists, leaving it unchanged: " ++ program ++ " " ++
      String.intercalate " " args) s)
    pure false
  else throw (commandError program args output.stdout output.stderr output.status)

/-- `rollback_args_for_command`: the arguments that undo a route command. -/
def rollbackArgsForCommand (program : String) (args : List String) : Option (List String) :=
  if program = "ip" ∧ args.length ≥ 3 ∧ args.getD 0 "" = "route" ∧ args.getD 1 "" = "add" then
    some (args.set 1 "del")
  else if "route".toList <:+ program.toList ∧ args ≠ [] ∧ args.getD 0 "" = "add" then
    some (args.set 0 "delete")
  else none

/-! ### Reading the output of the route commands -/

def tokenAfter : List String → String → Option String
  | token :: next :: rest, needle => if token = needle then some next else tokenAfter (next :: rest) needle
  | _, _ => none

def macosRouteValue (output key : String) : Option String :=
  (lines output).findSome? fun line => (stripPrefix (trim line) key).map trim

def parseLinuxRouteGetForHostRoute (output endpoint : String) : Option (List String) := do
  let line ← (lines output).head?
  let line := trim line
  if line = "" ∨ contains line " dev ppp" then none
  else
    let tokens := splitWhitespace line
    let via := tokenAfter tokens "via"
    let dev ← tokenAfter tokens "dev"
    some (["route", "add", endpoint ++ "/32"] ++
      (match via with | some via => ["via", via] | none => []) ++ ["dev", dev])

def parseMacosRouteGetForHostRoute (output endpoint : String) : Option (List String) := do
  let gateway := macosRouteValue output "gateway:"
  let interface ← macosRouteValue output "interface:"
  if "ppp".toList <+: interface.toList then none
  else
    some (["add", "-host", endpoint] ++
      match gateway.filter (· ≠ "") with
      | some gateway => [gateway]
      | none => ["-interface", interface])

def parseLinuxDefaultRoute (output : String) : Option (List String) := do
  let line ← (lines output).head?
  let line := trim line
  if line = "" then none else some (["route", "add"] ++ splitWhitespace line)

def parseMacosDefaultRoute (output : String) : Option (List String) := do
  let gateway ← (lines output).findSome? fun line => (stripPrefix (trim line) "gateway:").map trim
  if gateway = "" then none else some ["add", "default", gateway]

/-! ### The route to the gateway -/

def dropWrongLinuxTunnelRoute (endpoint : Ipv4Addr) (interface : String) : Cmd σ Unit := do
  let destination := endpoint.display ++ "/32"
  let output ← Cmd.io (host.output "ip" ["route", "show", destination, "dev", interface])
  if ¬ output.success ∨ output.stdout = [] then pure ()
  else
    Cmd.look fun s => ((), host.warn ("removing wrong route to VPN endpoint " ++ endpoint.display ++
      " via " ++ interface) s)
    runCommand host "ip" ["route", "del", destination, "dev", interface]

def dropWrongMacosTunnelRoute (endpoint : Ipv4Addr) (interface : String) : Cmd σ Unit := do
  let output ← Cmd.io (host.output "/sbin/route" ["-n", "get", endpoint.display])
  if ¬ output.success then pure ()
  else if macosRouteValue (fromUtf8Lossy output.stdout) "interface:" ≠ some interface then pure ()
  else
    Cmd.look fun s => ((), host.warn ("removing wrong route to VPN endpoint " ++ endpoint.display ++
      " via " ++ interface) s)
    runCommand host "/sbin/route" ["delete", "-host", endpoint.display]

/-- `drop_wrong_tunnel_route`: a failure is only reported. -/
def dropWrongTunnelRoute (platform : Platform) (endpoint : Ipv4Addr) (interface : String) : Cmd σ Unit := do
  let result ← Cmd.attempt (match platform with
    | .linux => dropWrongLinuxTunnelRoute host endpoint interface
    | .macOs => dropWrongMacosTunnelRoute host endpoint interface)
  match result with
  | .ok () => pure ()
  | .error err => Cmd.look fun s => ((), host.warn
      ("issue while checking/removing wrong route to VPN endpoint: " ++ err.display) s)

def buildLinuxProtectTunnelRouteCommands (endpoint : Ipv4Addr) :
    Cmd σ (Option (String × List String × List String)) := do
  let output ← Cmd.io (host.output "ip" ["route", "get", endpoint.display])
  if ¬ output.success then pure none
  else
    pure ((parseLinuxRouteGetForHostRoute (fromUtf8Lossy output.stdout) endpoint.display).map fun args =>
      ("ip", args, ["route", "del", endpoint.display ++ "/32"]))

def buildMacosProtectTunnelRouteCommands (endpoint : Ipv4Addr) :
    Cmd σ (Option (String × List String × List String)) := do
  let output ← Cmd.io (host.output "/sbin/route" ["-n", "get", endpoint.display])
  if ¬ output.success then pure none
  else
    pure ((parseMacosRouteGetForHostRoute (fromUtf8Lossy output.stdout) endpoint.display).map fun args =>
      ("/sbin/route", args, ["delete", "-host", endpoint.display]))

def buildProtectTunnelRouteCommands (platform : Platform) (endpoint : Ipv4Addr) :
    Cmd σ (Option (String × List String × List String)) :=
  match platform with
  | .linux => buildLinuxProtectTunnelRouteCommands host endpoint
  | .macOs => buildMacosProtectTunnelRouteCommands host endpoint

/-! ### The default route -/

def captureLinuxDefaultRoute : Cmd σ (Option (String × List String)) := do
  let output ← Cmd.io (host.output "ip" ["route", "show", "default"])
  if ¬ output.success then pure none
  else pure ((parseLinuxDefaultRoute (fromUtf8Lossy output.stdout)).map fun args => ("ip", args))

def captureMacosDefaultRoute : Cmd σ (Option (String × List String)) := do
  let output ← Cmd.io (host.output "/sbin/route" ["-n", "get", "default"])
  if ¬ output.success then pure none
  else pure ((parseMacosDefaultRoute (fromUtf8Lossy output.stdout)).map fun args => ("/sbin/route", args))

def captureDefaultRoute (platform : Platform) : Cmd σ (Option (String × List String)) :=
  match platform with
  | .linux => captureLinuxDefaultRoute host
  | .macOs => captureMacosDefaultRoute host

/-- `delete_default_route`: on the interface or, when that fails, whichever the host picks; a failure
of both is only reported. -/
def deleteDefaultRoute (platform : Platform) (interface : String) : Cmd σ Unit := do
  let (onInterface, onAny) := match platform with
    | .linux => (runCommand host "ip" ["route", "del", "default", "dev", interface],
        runCommand host "ip" ["route", "del", "default"])
    | .macOs => (runCommand host "/sbin/route" ["delete", "default", "-interface", interface],
        runCommand host "/sbin/route" ["delete", "default"])
  match ← Cmd.attempt onInterface with
  | .ok () => pure ()
  | .error _ =>
    match ← Cmd.attempt onAny with
    | .ok () => pure ()
    | .error err => Cmd.look fun s => ((), host.warn
        ("could not delete current default route: " ++ err.display) s)

def addDefaultRoute (platform : Platform) (interface : String) : Cmd σ Unit :=
  match platform with
  | .linux => runCommand host "ip" ["route", "add", "default", "dev", interface]
  | .macOs => runCommand host "/sbin/route" ["add", "default", "-interface", interface]

end OpenfortivpnRs.Net
