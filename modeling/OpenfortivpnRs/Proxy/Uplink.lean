import OpenfortivpnRs.Tunnel.Fortinet
import OpenfortivpnRs.Tunnel.PppReply
import OpenfortivpnRs.Tunnel.PppUp

/-!
# The proxy's end of the link (`run` and `read_fortinet_packets` of `proxy/runtime.rs`)

`run` builds the network stack from the address of the PPP engine; from then on the engine and the
stack meet in `read_fortinet_packets`, which gives data packets to the stack, stops at `Down` and
passes over `Up`.  The addresses of the stack stay those it was built with, whatever the gateway
sends.
-/

namespace OpenfortivpnRs.Proxy

open Lib.History Tunnel

/-- The PPP engine of the runtime, and of its network stack what the engine has to do with: the
address of the interface, the gateway of its default route and the packets it has received. -/
structure Uplink where
  ppp : PppEngine
  localIp : Ipv4Addr
  gateway : Ipv4Addr
  rx : List (List UInt8)
  deriving DecidableEq, Repr

namespace Uplink

/-- The start of `run`, with the addresses `ProxyNetStack::new` takes. -/
def start (ppp : PppEngine) : Result Uplink :=
  match ppp.localIp with
  | none => .error (.pppd "proxy runtime requires an opened PPP link")
  | some localIp => .ok ⟨ppp, localIp, ppp.peerIp.getD localIp, []⟩

/-- `push_rx_ipv4`. -/
def pushRxIpv4 (uplink : Uplink) (packet : List UInt8) : Uplink :=
  if packet = [] then uplink else { uplink with rx := uplink.rx ++ [packet] }

/-- The loop over the events of one packet. -/
def deliverEvents : List PppEvent → Uplink → Result Unit × Uplink
  | [], uplink => (.ok (), uplink)
  | .ipv4Packet packet :: events, uplink => deliverEvents events (uplink.pushRxIpv4 packet)
  | .down :: _, uplink => (.error (.pppd "proxy PPP link terminated by peer"), uplink)
  | .up _ _ _ :: events, uplink => deliverEvents events uplink

def flush (write : List UInt8 → Result Unit) (uplink : Uplink) : Result Unit × Uplink :=
  let (result, ppp) := flushPppControl write uplink.ppp
  (result, { uplink with ppp := ppp })

/-- `read_fortinet_packets`: `reads` are the results of `read_packet`, a temporary error behind the
last one; `write` is what the connection makes of the bytes of a reply. -/
def readFortinetPackets (write : List UInt8 → Result Unit) :
    List (Result PppPacket) → Uplink → Result Unit × Uplink
  | [], uplink => (.ok (), uplink)
  | .error (.io err) :: _, uplink =>
    (if IsTemporary err then .ok () else .error (.io err), uplink)
  | .error err :: _, uplink => (.error err, uplink)
  | .ok packet :: reads, uplink =>
    let (result, ppp) := uplink.ppp.handleIncoming packet
    let uplink := { uplink with ppp := ppp }
    match result with
    | .error err => (.error err, uplink)
    | .ok events =>
      match deliverEvents events uplink with
      | (.error err, uplink) => (.error err, uplink)
      | (.ok (), uplink) =>
        match uplink.flush write with
        | (.error err, uplink) => (.error err, uplink)
        | (.ok (), uplink) => readFortinetPackets write reads uplink

/-- What the main loop, or a lookup, does with the link: it reads packets, or it writes the control
packets that wait. -/
inductive Turn where
  | read (write : List UInt8 → Result Unit) (reads : List (Result PppPacket))
  | drain (write : List UInt8 → Result Unit)

def turn (uplink : Uplink) : Turn → Uplink
  | .read write reads => (readFortinetPackets write reads uplink).2
  | .drain write => (uplink.flush write).2

/-- The link after some turns, with whatever results. -/
def afterTurns (uplink : Uplink) (turns : List Turn) : Uplink := turns.foldl turn uplink

/-! ### What the turns keep -/

/-- The addresses of the stack are kept, and the engine is one that calls have left. -/
structure Follows (uplink uplink' : Uplink) : Prop where
  localIp : uplink'.localIp = uplink.localIp
  gateway : uplink'.gateway = uplink.gateway
  ppp : ∃ calls, uplink'.ppp = after PppEngine.call uplink.ppp calls

theorem Follows.refl (uplink : Uplink) : Follows uplink uplink := ⟨rfl, rfl, [], rfl⟩

theorem Follows.trans {u v w : Uplink} (h : Follows u v) (h' : Follows v w) : Follows u w := by
  obtain ⟨calls, hv⟩ := h.ppp
  obtain ⟨calls', hw⟩ := h'.ppp
  refine ⟨h'.localIp.trans h.localIp, h'.gateway.trans h.gateway, calls ++ calls', ?_⟩
  rw [hw, hv, after_append]

theorem deliverEvents_follows (events : List PppEvent) :
    ∀ uplink, Follows uplink (deliverEvents events uplink).2 := by
  induction events with
  | nil => exact Follows.refl
  | cons event events ih =>
    intro uplink
    cases event with
    | up localIp peerIp dnsServers => exact ih uplink
    | down => exact Follows.refl uplink
    | ipv4Packet packet =>
      refine .trans ?_ (ih _)
      unfold pushRxIpv4
      split_ifs <;> exact ⟨rfl, rfl, [], rfl⟩

/-- The loop of `flush_ppp_control` is made of `next_outgoing` calls. -/
theorem flushLoop_calls (write : List UInt8 → Result Unit) (packets : List PppPacket) :
    ∀ ppp : PppEngine, ppp.outgoing = packets → ∃ calls,
      { ppp with outgoing := (flushLoop write packets).2 } = after PppEngine.call ppp calls := by
  induction packets with
  | nil =>
    rintro ⟨⟩ rfl
    exact ⟨[], rfl⟩
  | cons packet rest ih =>
    intro ppp hout
    have hnext : ppp.nextOutgoing.2.outgoing = rest := by simp [PppEngine.nextOutgoing, hout]
    unfold flushLoop
    cases writeTlsPacket write packet with
    | error err => exact ⟨[.nextOutgoing], by simp [after, PppEngine.call, PppEngine.nextOutgoing, hout]⟩
    | ok _ =>
      obtain ⟨calls, hcalls⟩ := ih ppp.nextOutgoing.2 hnext
      exact ⟨.nextOutgoing :: calls, hcalls⟩

theorem flush_follows (write : List UInt8 → Result Unit) (uplink : Uplink) :
    Follows uplink (uplink.flush write).2 :=
  ⟨rfl, rfl, flushLoop_calls write _ uplink.ppp rfl⟩

theorem readFortinetPackets_follows (write : List UInt8 → Result Unit)
    (reads : List (Result PppPacket)) :
    ∀ uplink, Follows uplink (readFortinetPackets write reads uplink).2 := by
  induction reads with
  | nil => exact Follows.refl
  | cons read reads ih =>
    intro uplink
    cases read with
    | error err => cases err <;> exact Follows.refl uplink
    | ok packet =>
      have hcall : Follows uplink { uplink with ppp := (uplink.ppp.handleIncoming packet).2 } :=
        ⟨rfl, rfl, [.handleIncoming packet], rfl⟩
      unfold readFortinetPackets
      simp only
      split
      · exact hcall
      · rename_i events _
        have hevents := hcall.trans (deliverEvents_follows events _)
        split
        · rename_i h; rw [h] at hevents; exact hevents
        · rename_i delivered h
          rw [h] at hevents
          have hflush := hevents.trans (flush_follows write delivered)
          split
          · rename_i h; rw [h] at hflush; exact hflush
          · rename_i h
            rw [h] at hflush
            exact hflush.trans (ih _)

theorem afterTurns_follows (turns : List Turn) : ∀ uplink, Follows uplink (uplink.afterTurns turns) := by
  induction turns with
  | nil => exact Follows.refl
  | cons t turns ih =>
    intro uplink
    refine .trans ?_ (ih (uplink.turn t))
    cases t with
    | read write reads => exact readFortinetPackets_follows write reads uplink
    | drain write => exact flush_follows write uplink

/-- `Up` events make no difference to the stack. -/
theorem deliverEvents_ignores_up (events : List PppEvent) : ∀ uplink,
    deliverEvents (events.filter fun event => (upAddress event).isNone) uplink =
      deliverEvents events uplink := by
  induction events with
  | nil => intro uplink; rfl
  | cons event events ih =>
    intro uplink
    cases event with
    | up localIp peerIp dnsServers => exact ih uplink
    | down => rfl
    | ipv4Packet packet => exact ih (uplink.pushRxIpv4 packet)

end Uplink

/-! ### The link comes up once -/

/-- The link comes up once in a run: one `Up` before a `Down`, and the address it reports is kept. -/
def ComesUpOnce (calls : List Call) : Prop :=
  UpOnce (eventsOf (PppEngine.historyOf calls)) ∧ KeepsAddress calls

/-- **When the link comes up once.**  In a run of the engine: exactly when no address is acknowledged
while the link is open.  On the proxy's side always: the stack is built from the address of the
engine, keeps it whatever packets are read later, and does not see `Up` events. -/
theorem comes_up_once_iff (calls : List Call) :
    (ComesUpOnce calls ↔ NeverAcksWhileOpen calls) ∧
    (∀ uplink turns, Uplink.start (PppEngine.reached calls) = .ok uplink →
      some uplink.localIp = (PppEngine.reached calls).localIp ∧
      (uplink.afterTurns turns).localIp = uplink.localIp ∧
      (uplink.afterTurns turns).gateway = uplink.gateway ∧
      ∃ more, (uplink.afterTurns turns).ppp = PppEngine.reached (calls ++ more)) ∧
    ∀ events uplink,
      Uplink.deliverEvents (events.filter fun event => (upAddress event).isNone) uplink =
        Uplink.deliverEvents events uplink := by
  refine ⟨⟨fun h => (upOnce_iff_neverAcks calls).mp h.1, fun h => ?_⟩, ?_,
    Uplink.deliverEvents_ignores_up⟩
  · have honce := (upOnce_iff_neverAcks calls).mpr h
    exact ⟨honce, keepsAddress_of_upOnce honce⟩
  · intro uplink turns hstart
    have hfollows := Uplink.afterTurns_follows turns uplink
    obtain ⟨more, hmore⟩ := hfollows.ppp
    unfold Uplink.start at hstart
    split at hstart
    · cases hstart
    · rename_i localIp hlocal
      cases hstart
      refine ⟨hlocal.symm, hfollows.localIp, hfollows.gateway, more, ?_⟩
      rw [hmore]
      exact (after_append calls more _).symm

/-- An LCP and an IPCP negotiation in which the gateway acknowledges the second request twice, with
two addresses. -/
def acknowledgedTwice : List Call :=
  [.start, .handleIncoming (controlPacket protocolLcp codeConfigureAck 1 [lcpOptionMru, 4, 0x05, 0x4a]),
    .handleIncoming (controlPacket protocolIpcp codeConfigureAck 2 [ipcpOptionIpAddress, 6, 10, 0, 0, 42]),
    .handleIncoming (controlPacket protocolIpcp codeConfigureAck 2 [ipcpOptionIpAddress, 6, 10, 0, 0, 43])]

theorem not_always_up_once : ¬ ∀ calls, ComesUpOnce calls := by
  intro h
  have hevents : eventsOf (PppEngine.historyOf acknowledgedTwice) =
      [.up ⟨10, 0, 0, 42⟩ none [], .up ⟨10, 0, 0, 43⟩ none []] := by decide +kernel
  have hdown := (h acknowledgedTwice).1 [] _ [] _ [] hevents rfl rfl
  cases hdown

end OpenfortivpnRs.Proxy
