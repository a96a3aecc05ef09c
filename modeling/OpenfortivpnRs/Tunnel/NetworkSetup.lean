import OpenfortivpnRs.Net.Plan
import OpenfortivpnRs.Tunnel.Forward
import OpenfortivpnRs.Tunnel.PppEngine

/-!
# When the network setup starts (`main.rs`)

`run_tunnel` gives the forwarding loop a callback that starts the network setup thread, once, for the
first address it accepts.  It is called with the address of any IPCP packet; what it accepts is the
address the VPN XML announces or, where that announces none, every address.
-/

namespace OpenfortivpnRs.Tunnel

open Auth Net

/-- `vpn_config_interface_addr`. -/
def vpnConfigInterfaceAddr (vpnConfig : VpnConfigXml) : Option Ipv4Addr :=
  (vpnConfig.assignedIp.or vpnConfig.gateway).bind Ipv4Addr.parse

/-- What `run_tunnel` starts forwarding with. -/
structure RunTunnel where
  config : Config
  vpnConfig : VpnConfigXml
  platform : Option Platform

namespace RunTunnel

def applyNetwork (tunnel : RunTunnel) : Bool := tunnel.config.setRoutes || tunnel.config.setDns

/-- The callback: the addresses `network_apply_thread` has been started with. -/
def onIpcpIpv4 (tunnel : RunTunnel) (threads : List Ipv4Addr) (addr : Ipv4Addr) : List Ipv4Addr :=
  if ¬ tunnel.applyNetwork ∨ threads ≠ [] then threads
  else if (vpnConfigInterfaceAddr tunnel.vpnConfig).any (addr ≠ ·) then threads
  else
    match tunnel.platform with
    | none => threads
    | some _ => threads ++ [addr]

/-- The last address a packet had, and the threads started. -/
structure Observed where
  lastIpcpIpv4 : Option Ipv4Addr
  threads : List Ipv4Addr

/-- What a packet of the gateway does in `read_tls_into_pty_queue`, as far as addresses go. -/
def observe (tunnel : RunTunnel) (s : Observed) (packet : PppPacket) : Observed :=
  match packet.ipcpIpv4Address with
  | some addr =>
    ⟨some addr, if s.lastIpcpIpv4 ≠ some addr then tunnel.onIpcpIpv4 s.threads addr else s.threads⟩
  | none => s

/-- The threads started by the end of a sequence of packets. -/
def networkThreads (tunnel : RunTunnel) (packets : List PppPacket) : List Ipv4Addr :=
  (packets.foldl tunnel.observe ⟨none, []⟩).threads

/-! ### The threads of a run of the forwarding loop -/

theorem observe_queueForPty (tunnel : RunTunnel) (f : Forward.Forwarder) (packet : PppPacket) :
    tunnel.observe ⟨f.stats.lastIpcpIpv4, f.reported.foldl tunnel.onIpcpIpv4 []⟩ packet =
      ⟨(f.queueForPty packet).stats.lastIpcpIpv4,
        (f.queueForPty packet).reported.foldl tunnel.onIpcpIpv4 []⟩ := by
  unfold observe Forward.Forwarder.queueForPty
  cases packet.ipcpIpv4Address with
  | none => rfl
  | some addr =>
    simp only
    split
    · rw [List.foldl_append]
      rfl
    · rfl

/-- **The threads are those of the callback in the loop.** -/
theorem networkThreads_eq (tunnel : RunTunnel) (pty tls : Proxy.TcpStream) (packets : List PppPacket) :
    tunnel.networkThreads packets =
      (packets.foldl Forward.Forwarder.queueForPty (.start pty tls)).reported.foldl
        tunnel.onIpcpIpv4 [] := by
  have hfold : ∀ (packets : List PppPacket) (f : Forward.Forwarder),
      packets.foldl tunnel.observe ⟨f.stats.lastIpcpIpv4, f.reported.foldl tunnel.onIpcpIpv4 []⟩ =
        ⟨(packets.foldl Forward.Forwarder.queueForPty f).stats.lastIpcpIpv4,
          (packets.foldl Forward.Forwarder.queueForPty f).reported.foldl tunnel.onIpcpIpv4 []⟩ := by
    intro packets
    induction packets with
    | nil => intro f; rfl
    | cons packet packets ih =>
      intro f
      rw [List.foldl_cons, observe_queueForPty, ih, List.foldl_cons]
  exact congrArg Observed.threads (hfold packets (.start pty tls))

/-- So it is for the packets of any run of the loop. -/
theorem threads_of_run (tunnel : RunTunnel) {f : Forward.Forwarder} (h : Forward.Forwarded f) :
    f.reported.foldl tunnel.onIpcpIpv4 [] = tunnel.networkThreads f.tlsPackets := by
  have hstart := (Forward.forwarded_start ⟨[], []⟩ ⟨[], []⟩)
  obtain ⟨-, hpty, -⟩ := Forward.foldl_queueForPty f.tlsPackets hstart.toTls hstart.toPty
  rw [tunnel.networkThreads_eq ⟨[], []⟩ ⟨[], []⟩, hpty.reported, h.toPty.reported]
  rfl

/-! ### Which thread is started -/

/-- The callback does not refuse the address. -/
def accepted (tunnel : RunTunnel) (addr : Ipv4Addr) : Bool :=
  ¬ (vpnConfigInterfaceAddr tunnel.vpnConfig).any (addr ≠ ·)

section Active

variable {tunnel : RunTunnel} (happly : tunnel.applyNetwork = true) (hplatform : tunnel.platform ≠ none)
include happly hplatform

theorem onIpcpIpv4_find (addrs : List Ipv4Addr) (addr : Ipv4Addr) :
    tunnel.onIpcpIpv4 (addrs.find? tunnel.accepted).toList addr =
      ((addrs ++ [addr]).find? tunnel.accepted).toList := by
  obtain ⟨platform, hsome⟩ := Option.ne_none_iff_exists'.mp hplatform
  unfold onIpcpIpv4
  rw [List.find?_append, List.find?_singleton]
  cases addrs.find? tunnel.accepted with
  | some first => simp
  | none =>
    rw [if_neg (by simp [happly]), hsome]
    unfold accepted
    cases (vpnConfigInterfaceAddr tunnel.vpnConfig).any (addr ≠ ·) <;> simp

/-- The first accepted address is the only one a thread is started for. -/
theorem observe_eq (packets : List PppPacket) :
    packets.foldl tunnel.observe ⟨none, []⟩ =
      ⟨(packets.filterMap PppPacket.ipcpIpv4Address).getLast?,
        ((packets.filterMap PppPacket.ipcpIpv4Address).find? tunnel.accepted).toList⟩ := by
  induction packets using List.reverseRecOn with
  | nil => rfl
  | append_singleton packets packet ih =>
    rw [List.foldl_append, ih, List.foldl_cons, List.foldl_nil, List.filterMap_append, observe]
    cases haddr : packet.ipcpIpv4Address with
    | none => simp [haddr]
    | some addr =>
      set addrs := packets.filterMap PppPacket.ipcpIpv4Address
      rw [List.filterMap_cons_some haddr, List.filterMap_nil, List.getLast?_concat]
      simp only
      split
      · rw [onIpcpIpv4_find happly hplatform]
      · rename_i hlast
        -- a repeated address was there before, so it is not the first accepted one
        have hmem : addr ∈ addrs := List.mem_of_getLast? (not_not.mp hlast)
        rw [List.find?_append, List.find?_singleton]
        cases hfind : addrs.find? tunnel.accepted with
        | some first => simp
        | none => simp [List.find?_eq_none.mp hfind addr hmem]

end Active

end RunTunnel

/-- The address in the first IPCP Configure-Ack that carries one. -/
def firstAckAddress (packets : List PppPacket) : Option Ipv4Addr :=
  ((packets.filter fun packet => packet.data.getD 2 0 = codeConfigureAck).filterMap
    PppPacket.ipcpIpv4Address).head?

/-- **When the network setup starts for the acknowledged address**: if that is the address the VPN XML
announces or it announces none, the one thread started is for it if and only if the XML announces an
address, or no IPCP packet carried another address before. -/
theorem network_setup_iff {tunnel : RunTunnel} {packets : List PppPacket} {a : Ipv4Addr}
    (happly : tunnel.applyNetwork = true) (hplatform : tunnel.platform ≠ none)
    (hack : firstAckAddress packets = some a)
    (hannounced : ∀ expected, vpnConfigInterfaceAddr tunnel.vpnConfig = some expected → a = expected) :
    tunnel.networkThreads packets = [a] ↔
      vpnConfigInterfaceAddr tunnel.vpnConfig ≠ none ∨
        (packets.filterMap PppPacket.ipcpIpv4Address).head? = some a := by
  have hmem : a ∈ packets.filterMap PppPacket.ipcpIpv4Address := by
    obtain ⟨packet, hpacket, haddr⟩ := List.mem_filterMap.mp (List.mem_of_mem_head? hack)
    exact List.mem_filterMap.mpr ⟨packet, List.mem_of_mem_filter hpacket, haddr⟩
  unfold RunTunnel.networkThreads
  rw [RunTunnel.observe_eq happly hplatform]
  simp only
  cases hxml : vpnConfigInterfaceAddr tunnel.vpnConfig with
  | some expected =>
    have hacc : ∀ addr, tunnel.accepted addr = true ↔ addr = expected := fun addr => by
      simp [RunTunnel.accepted, hxml]
    obtain rfl := hannounced expected hxml
    obtain ⟨first, hfirst⟩ := Option.isSome_iff_exists.mp
      (List.find?_isSome.mpr ⟨a, hmem, (hacc a).mpr rfl⟩)
    rw [hfirst, (hacc first).mp (List.find?_some hfirst)]
    simp
  | none =>
    have hacc : tunnel.accepted = fun _ => true := funext fun addr => by
      simp [RunTunnel.accepted, hxml]
    rw [hacc]
    cases packets.filterMap PppPacket.ipcpIpv4Address <;> simp

/-- A gateway whose packets carry its own address first, then the acknowledged one. -/
def requestThenAck : List PppPacket :=
  [⟨[0x80, 0x21, 0x01, 0x01, 0x00, 0x0a, 0x03, 0x06, 10, 0, 0, 1]⟩,
    ⟨[0x80, 0x21, 0x02, 0x02, 0x00, 0x0a, 0x03, 0x06, 10, 0, 0, 42]⟩]

/-- A tunnel on Linux with the default configuration. -/
def tunnelTo (assignedIp : Option String) : RunTunnel :=
  ⟨.default, ⟨"", none, assignedIp, [], none, []⟩, some .linux⟩

theorem network_setup_iff_announced :
    (tunnelTo (some "10.0.0.42")).networkThreads requestThenAck = [⟨10, 0, 0, 42⟩] :=
  (network_setup_iff (by decide) (by decide) (by decide +kernel) (by decide +kernel)).mpr
    (.inl (by decide +kernel))

/-- Where the XML announces no address, the setup starts for the gateway's own. -/
theorem network_setup_for_gateway :
    ¬ ∀ (tunnel : RunTunnel) packets a, tunnel.applyNetwork = true → tunnel.platform ≠ none →
      firstAckAddress packets = some a →
      (∀ expected, vpnConfigInterfaceAddr tunnel.vpnConfig = some expected → a = expected) →
      tunnel.networkThreads packets = [a] := by
  intro h
  have := h (tunnelTo none) requestThenAck ⟨10, 0, 0, 42⟩ (by decide) (by decide) (by decide +kernel)
    nofun
  revert this
  decide +kernel

end OpenfortivpnRs.Tunnel
