import OpenfortivpnRs.Net.Commands
import OpenfortivpnRs.Tunnel.NetworkSetup

/-!
# The PPP interface (`tunnel/interface.rs`) and the network setup thread of `main.rs`

The network setup thread waits until an interface is up that has the address it was started for, and
applies the plan for that interface.
-/

namespace OpenfortivpnRs.Tunnel

open Text Auth Net

structure PppInterface where
  name : String
  address : Ipv4Addr
  deriving DecidableEq, Repr

/-- An entry of `getifaddrs`: its name, whether it is up, and its address where that is an IPv4 one. -/
structure InterfaceAddress where
  interfaceName : String
  up : Bool
  address : Option Ipv4Addr
  deriving DecidableEq, Repr

def matchesInterfaceName (name : String) (preferredName : Option String) : Bool :=
  (preferredName.any fun preferred => preferred ≠ "" ∧ contains name preferred) || contains name "ppp"

def findUpPppInterface (addrs : List InterfaceAddress) (expectedAddr : Ipv4Addr)
    (preferredName : Option String) : Option PppInterface :=
  addrs.findSome? fun iface =>
    if iface.up ∧ matchesInterfaceName iface.interfaceName preferredName ∧
        iface.address = some expectedAddr then
      some ⟨iface.interfaceName, expectedAddr⟩
    else none

/-- `wait_for_up_ppp_interface` on what `getifaddrs` gives each time, up to the timeout. -/
def waitForUpPppInterface (expectedAddr : Ipv4Addr) (preferredName : Option String) :
    List (Except IoError (List InterfaceAddress)) → Except IoError (Option PppInterface)
  | [] => .ok none
  | .error err :: _ => .error err
  | .ok addrs :: looks =>
    match findUpPppInterface addrs expectedAddr preferredName with
    | some interface => .ok (some interface)
    | none => waitForUpPppInterface expectedAddr preferredName looks

/-- The interface is up, has a name that is looked for, and has the address. -/
def IsUpWith (expectedAddr : Ipv4Addr) (preferredName : Option String) (interface : PppInterface)
    (addrs : List InterfaceAddress) : Prop :=
  interface.address = expectedAddr ∧ matchesInterfaceName interface.name preferredName = true ∧
    ⟨interface.name, true, some expectedAddr⟩ ∈ addrs

theorem findUpPppInterface_some {addrs : List InterfaceAddress} {expectedAddr : Ipv4Addr}
    {preferredName : Option String} {interface : PppInterface}
    (h : findUpPppInterface addrs expectedAddr preferredName = some interface) :
    IsUpWith expectedAddr preferredName interface addrs := by
  obtain ⟨⟨name, up, address⟩, hmem, hiface⟩ := List.exists_of_findSome?_eq_some h
  split at hiface
  · rename_i hup
    obtain ⟨rfl, hname, rfl⟩ := hup
    cases hiface
    exact ⟨rfl, hname, hmem⟩
  · cases hiface

end OpenfortivpnRs.Tunnel
