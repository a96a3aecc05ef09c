import OpenfortivpnRs.Auth.Portal
import OpenfortivpnRs.Config
import OpenfortivpnRs.Ipv4Addr

/-!
# Network plans (`net_plan.rs`)

The actions that route the destinations of a VPN configuration and set its name servers.
-/

namespace OpenfortivpnRs.Net

open Auth

inductive Platform where
  | linux | macOs
  deriving DecidableEq, Repr

inductive NetworkAction where
  | dropWrongTunnelRoute (platform : Platform) (endpoint : Ipv4Addr) (interface : String)
  | protectTunnelRoute (platform : Platform) (endpoint : Ipv4Addr)
  | runCommand (program : String) (args : List String)
  | replaceDefaultRoute (platform : Platform) (interface : String)
  | configureDns (platform : Platform) (interface : String) (servers : List String)
      (searchDomain : Option String)
  deriving DecidableEq, Repr

structure NetworkPlan where
  actions : List NetworkAction
  deriving DecidableEq, Repr

/-- `ipv4_mask_to_prefix` of this file, which counts the parts a second time. -/
def ipv4MaskToPrefix (mask : String) : Option ℕ := do
  let s ← (mask.toList.splitOn '.').foldlM maskPart ⟨0, false⟩
  if (mask.toList.splitOn '.').length = 4 then some s.prefixLen else none

/-- `route_action_from_parts`. -/
def routeActionFromParts (destination mask : String) (gateway : Option String) (platform : Platform)
    (interface : String) : NetworkAction :=
  match platform with
  | .linux =>
    let destination := match ipv4MaskToPrefix mask with
      | some prefixLen => destination ++ "/" ++ toString prefixLen
      | none => destination ++ "/" ++ mask
    let via := match gateway with
      | some gateway => ["via", gateway]
      | none => []
    .runCommand "ip" (["route", "add", destination] ++ via ++ ["dev", interface])
  | .macOs =>
    let target := match gateway with
      | some gateway => [gateway]
      | none => ["-interface", interface]
    .runCommand "/sbin/route" (["add", "-net", destination, "-netmask", mask] ++ target)

/-- `route_action`. -/
def routeAction (route : Ipv4Route) (platform : Platform) (interface : String) :
    Option NetworkAction := do
  let gateway ← route.gateway
  return routeActionFromParts route.destination route.mask (some gateway) platform interface

/-- `plan_routes`. -/
def planRoutes (splitRoutes : List Ipv4Route) (halfInternetRoutes : Bool) (platform : Platform)
    (interface : String) : List NetworkAction :=
  if splitRoutes ≠ [] then splitRoutes.filterMap fun route => routeAction route platform interface
  else if halfInternetRoutes then
    [routeActionFromParts "0.0.0.0" "128.0.0.0" none platform interface,
      routeActionFromParts "128.0.0.0" "128.0.0.0" none platform interface]
  else [.replaceDefaultRoute platform interface]

/-- `plan_network_actions`. -/
def planNetworkActions (config : Config) (vpnConfig : VpnConfigXml) (platform : Platform)
    (interface : String) (tunnelEndpoint : Option Ipv4Addr) : NetworkPlan :=
  let routes := if config.setRoutes then
      (match tunnelEndpoint with
        | some endpoint => [.dropWrongTunnelRoute platform endpoint interface,
            .protectTunnelRoute platform endpoint]
        | none => []) ++
      planRoutes vpnConfig.splitRoutes config.halfInternetRoutes platform interface
    else []
  let dns := if config.setDns ∧ (vpnConfig.dnsServers ≠ [] ∨ vpnConfig.dnsSuffix ≠ none) then
      [.configureDns platform interface vpnConfig.dnsServers vpnConfig.dnsSuffix]
    else []
  ⟨routes ++ dns⟩

/-- A contiguous mask converts to the number of its ones. -/
theorem ipv4MaskToPrefix_eq {mask : String} {k : ℕ} (h : IsNetmask mask k) :
    ipv4MaskToPrefix mask = some k := by
  obtain ⟨hlen, hfold⟩ := h.foldlM
  unfold ipv4MaskToPrefix
  rw [hfold]
  exact if_pos hlen

end OpenfortivpnRs.Net
