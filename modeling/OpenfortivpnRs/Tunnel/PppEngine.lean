import OpenfortivpnRs.Ipv4Addr
import OpenfortivpnRs.Tunnel.Packet

/-!
# The PPP engine (`tunnel/ppp_engine.rs`)

`PppEngine` negotiates LCP and IPCP with the gateway.  A call returns what the source returns and the
engine it leaves; the packets it sends go to the back of the queue `outgoing`.
-/

namespace OpenfortivpnRs.Tunnel

open Lib.Bytes

def protocolIpv4 : UInt16 := 0x0021
def protocolLcp : UInt16 := 0xc021
def protocolIpcp : UInt16 := 0x8021

def codeConfigureRequest : UInt8 := 1
def codeConfigureAck : UInt8 := 2
def codeConfigureNak : UInt8 := 3
def codeConfigureReject : UInt8 := 4
def codeTerminateRequest : UInt8 := 5
def codeTerminateAck : UInt8 := 6
def codeCodeReject : UInt8 := 7
def codeProtocolReject : UInt8 := 8
def codeEchoRequest : UInt8 := 9
def codeEchoReply : UInt8 := 10

def lcpOptionMru : UInt8 := 1
def lcpDefaultMru : UInt16 := 1354
def ipcpOptionIpAddress : UInt8 := 3
def pppControlHeaderLen : ℕ := 4

inductive PppEvent where
  | up (localIp : Ipv4Addr) (peerIp : Option Ipv4Addr) (dnsServers : List Ipv4Addr)
  | ipv4Packet (data : List UInt8)
  | down
  deriving DecidableEq, Repr

inductive LinkState where
  | initial | lcpRequestSent | lcpOpened | ipcpRequestSent | opened | closed
  deriving DecidableEq, Repr

structure PppEngine where
  state : LinkState
  nextIdentifier : UInt8
  lcpIdentifier : Option UInt8
  ipcpIdentifier : Option UInt8
  requestedIp : Ipv4Addr
  localIp : Option Ipv4Addr
  peerIp : Option Ipv4Addr
  outgoing : List PppPacket
  deriving DecidableEq, Repr

/-! ### Parsing -/

structure ControlPacket where
  code : UInt8
  identifier : UInt8
  options : List UInt8
  deriving DecidableEq, Repr

def parseControlPacket (payload : List UInt8) : Result ControlPacket :=
  if payload.length < pppControlHeaderLen then .error .hdlcInvalidFrame
  else
    let length := (wordAt payload 2).toNat
    if length < pppControlHeaderLen ∨ payload.length < length then .error .hdlcInvalidFrame
    else .ok ⟨payload.getD 0 0, payload.getD 1 0, (payload.take length).drop pppControlHeaderLen⟩

/-- The loop of `parse_ipcp_ip_address` at `offset`. -/
def ipcpOptionsLoop (options : List UInt8) (offset : ℕ) : Option Ipv4Addr :=
  if offset + 2 ≤ options.length then
    let optionType := options.getD offset 0
    let optionLen := (options.getD (offset + 1) 0).toNat
    if optionLen < 2 ∨ offset + optionLen > options.length then none
    else if optionType = ipcpOptionIpAddress ∧ optionLen = 6 then
      some ⟨options.getD (offset + 2) 0, options.getD (offset + 3) 0, options.getD (offset + 4) 0,
        options.getD (offset + 5) 0⟩
    else ipcpOptionsLoop options (offset + optionLen)
  else none
termination_by options.length - offset
decreasing_by rename_i hlen _; omega

def parseIpcpIpAddress (options : List UInt8) : Option Ipv4Addr := ipcpOptionsLoop options 0

def pppProtocol (data : List UInt8) : Result UInt16 :=
  if data.length < 2 then .error .hdlcInvalidFrame else .ok (wordAt data 0)

/-! ### Sending -/

/-- The packet `queue_control` builds; its length field is cut to 16 bits. -/
def controlPacket (protocol : UInt16) (code identifier : UInt8) (payload : List UInt8) : PppPacket :=
  ⟨toBeBytes protocol ++ [code, identifier] ++
    toBeBytes (UInt16.ofNat (pppControlHeaderLen + payload.length)) ++ payload⟩

/-- `next_identifier`: the identifier and the engine that issued it. -/
def nextIdentifier (engine : PppEngine) : UInt8 × PppEngine :=
  let next := engine.nextIdentifier + 1
  (engine.nextIdentifier, { engine with nextIdentifier := if next = 0 then 1 else next })

namespace PppEngine

def new : PppEngine where
  state := .initial
  nextIdentifier := 1
  lcpIdentifier := none
  ipcpIdentifier := none
  requestedIp := .unspecified
  localIp := none
  peerIp := none
  outgoing := []

def queueControl (engine : PppEngine) (protocol : UInt16) (code identifier : UInt8)
    (payload : List UInt8) : PppEngine :=
  { engine with outgoing := engine.outgoing ++ [controlPacket protocol code identifier payload] }

def queueProtocolReject (engine : PppEngine) (protocol : UInt16) (payload : List UInt8) : PppEngine :=
  let (identifier, engine) := Tunnel.nextIdentifier engine
  engine.queueControl protocolLcp codeProtocolReject identifier (toBeBytes protocol ++ payload)

def sendLcpConfigureRequest (engine : PppEngine) : PppEngine :=
  let (identifier, engine) := Tunnel.nextIdentifier engine
  let engine := { engine with lcpIdentifier := some identifier }
  engine.queueControl protocolLcp codeConfigureRequest identifier
    ([lcpOptionMru, 4] ++ toBeBytes lcpDefaultMru)

def sendIpcpConfigureRequest (engine : PppEngine) : PppEngine :=
  let (identifier, engine) := Tunnel.nextIdentifier engine
  let engine := { engine with ipcpIdentifier := some identifier }
  engine.queueControl protocolIpcp codeConfigureRequest identifier
    ([ipcpOptionIpAddress, 6] ++ engine.requestedIp.octets)

/-! ### Receiving -/

/-- `handle_lcp`.  The arms of the source stand in its order: a guarded arm whose guard fails falls
through to the arms below it. -/
def handleLcp (engine : PppEngine) (payload : List UInt8) : Result (List PppEvent) × PppEngine :=
  match parseControlPacket payload with
  | .error err => (.error err, engine)
  | .ok packet =>
    if packet.code = codeConfigureRequest then
      let engine := engine.queueControl protocolLcp codeConfigureAck packet.identifier packet.options
      if engine.state = .initial then
        (.ok [], { engine.sendLcpConfigureRequest with state := .lcpRequestSent })
      else (.ok [], engine)
    else if packet.code = codeConfigureAck ∧ some packet.identifier = engine.lcpIdentifier then
      if engine.state = .lcpRequestSent ∨ engine.state = .initial then
        let engine := { engine with state := .lcpOpened }
        (.ok [], { engine.sendIpcpConfigureRequest with state := .ipcpRequestSent })
      else (.ok [], engine)
    else if (packet.code = codeConfigureNak ∨ packet.code = codeConfigureReject) ∧
        some packet.identifier = engine.lcpIdentifier then
      (.ok [], engine.sendLcpConfigureRequest)
    else if packet.code = codeEchoRequest then
      let reply := [0, 0, 0, 0] ++
        if packet.options.length > 4 then packet.options.drop 4 else []
      (.ok [], engine.queueControl protocolLcp codeEchoReply packet.identifier reply)
    else if packet.code = codeTerminateRequest then
      let engine := engine.queueControl protocolLcp codeTerminateAck packet.identifier packet.options
      (.ok [.down], { engine with state := .closed })
    else if packet.code = codeCodeReject ∨ packet.code = codeProtocolReject ∨
        packet.code = codeEchoReply ∨ packet.code = codeTerminateAck then
      (.ok [], engine)
    else (.ok [], engine.queueControl protocolLcp codeCodeReject packet.identifier payload)

/-- `handle_ipcp`. -/
def handleIpcp (engine : PppEngine) (payload : List UInt8) : Result (List PppEvent) × PppEngine :=
  match parseControlPacket payload with
  | .error err => (.error err, engine)
  | .ok packet =>
    if packet.code = codeConfigureRequest then
      let engine := { engine with peerIp := parseIpcpIpAddress packet.options }
      (.ok [], engine.queueControl protocolIpcp codeConfigureAck packet.identifier packet.options)
    else if packet.code = codeConfigureAck ∧ some packet.identifier = engine.ipcpIdentifier then
      let acknowledgedIp := (parseIpcpIpAddress packet.options).getD engine.requestedIp
      if acknowledgedIp ≠ .unspecified then
        let engine := { engine with localIp := some acknowledgedIp, state := .opened }
        (.ok [.up acknowledgedIp engine.peerIp []], engine)
      else (.ok [], engine.sendIpcpConfigureRequest)
    else if packet.code = codeConfigureNak ∧ some packet.identifier = engine.ipcpIdentifier then
      let engine := match parseIpcpIpAddress packet.options with
        | some ip => { engine with requestedIp := ip }
        | none => engine
      (.ok [], engine.sendIpcpConfigureRequest)
    else if packet.code = codeConfigureReject ∧ some packet.identifier = engine.ipcpIdentifier then
      let engine := { engine with requestedIp := .unspecified }
      (.ok [], engine.sendIpcpConfigureRequest)
    else if packet.code = codeTerminateRequest then
      let engine := engine.queueControl protocolIpcp codeTerminateAck packet.identifier packet.options
      (.ok [.down], { engine with state := .closed })
    else if packet.code = codeCodeReject ∨ packet.code = codeTerminateAck then (.ok [], engine)
    else (.ok [], engine.queueControl protocolIpcp codeCodeReject packet.identifier payload)

def start (engine : PppEngine) : PppEngine :=
  if engine.state ≠ .initial then engine
  else { engine.sendLcpConfigureRequest with state := .lcpRequestSent }

def handleIncoming (engine : PppEngine) (packet : PppPacket) : Result (List PppEvent) × PppEngine :=
  match pppProtocol packet.data with
  | .error err => (.error err, engine)
  | .ok protocol =>
    if protocol = protocolIpv4 then (.ok [.ipv4Packet (packet.data.drop 2)], engine)
    else if protocol = protocolLcp then engine.handleLcp (packet.data.drop 2)
    else if protocol = protocolIpcp then engine.handleIpcp (packet.data.drop 2)
    else (.ok [], engine.queueProtocolReject protocol (packet.data.drop 2))

def nextOutgoing (engine : PppEngine) : Option PppPacket × PppEngine :=
  (engine.outgoing.head?, { engine with outgoing := engine.outgoing.tail })

def drainOutgoing (engine : PppEngine) : List PppPacket × PppEngine :=
  (engine.outgoing, { engine with outgoing := [] })

def isOpen (engine : PppEngine) : Bool := engine.state = .opened

def encodeIpv4Packet (_engine : PppEngine) (packet : List UInt8) : Result PppPacket :=
  if packet = [] ∨ packet.getD 0 0 >>> 4 ≠ 4 then
    .error (.pppd "proxy PPP engine can only send IPv4 packets")
  else .ok ⟨toBeBytes protocolIpv4 ++ packet⟩

end PppEngine

/-! ### Control packets read back -/

/-- The protocol and the control packet of a PPP packet that holds one. -/
def PppPacket.asControl (packet : PppPacket) : Option (UInt16 × ControlPacket) :=
  match pppProtocol packet.data, parseControlPacket (packet.data.drop 2) with
  | .ok protocol, .ok control => some (protocol, control)
  | _, _ => none

theorem pppProtocol_controlPacket (protocol : UInt16) (code identifier : UInt8)
    (payload : List UInt8) : pppProtocol (controlPacket protocol code identifier payload).data = .ok protocol := by
  unfold pppProtocol controlPacket
  rw [if_neg (by simp; omega)]
  simp only [List.append_assoc]
  rw [wordAt_toBeBytes]

theorem drop_controlPacket (protocol : UInt16) (code identifier : UInt8) (payload : List UInt8) :
    (controlPacket protocol code identifier payload).data.drop 2 = [code, identifier] ++
      (toBeBytes (UInt16.ofNat (pppControlHeaderLen + payload.length)) ++ payload) := by
  simp [controlPacket, toBeBytes]

/-- A control packet whose length fits 16 bits reads back. -/
theorem asControl_controlPacket {protocol : UInt16} {code identifier : UInt8} {payload : List UInt8}
    (h : pppControlHeaderLen + payload.length < 65536) :
    (controlPacket protocol code identifier payload).asControl =
      some (protocol, ⟨code, identifier, payload⟩) := by
  have hword : wordAt ([code, identifier] ++
      (toBeBytes (UInt16.ofNat (pppControlHeaderLen + payload.length)) ++ payload)) 2 =
        UInt16.ofNat (pppControlHeaderLen + payload.length) := by
    rw [show 2 = [code, identifier].length + 0 from rfl, wordAt_append_right, wordAt_toBeBytes]
  have hlen : (UInt16.ofNat (pppControlHeaderLen + payload.length)).toNat =
      pppControlHeaderLen + payload.length := by
    rw [UInt16.toNat_ofNat', Nat.mod_eq_of_lt (by omega)]
  have hparse : parseControlPacket ((controlPacket protocol code identifier payload).data.drop 2) =
      .ok ⟨code, identifier, payload⟩ := by
    rw [drop_controlPacket]
    unfold parseControlPacket
    simp only [hword, hlen]
    unfold pppControlHeaderLen
    rw [if_neg (by simp), if_neg (by simp; omega), List.take_of_length_le (by simp; omega)]
    rfl
  simp only [PppPacket.asControl, pppProtocol_controlPacket, hparse]

/-- Whatever reads back as a control packet has the protocol, code and identifier it was built with. -/
theorem controlPacket_of_asControl {protocol protocol' : UInt16} {code identifier : UInt8}
    {payload : List UInt8} {control : ControlPacket}
    (h : (controlPacket protocol code identifier payload).asControl = some (protocol', control)) :
    protocol' = protocol ∧ control.code = code ∧ control.identifier = identifier := by
  simp only [PppPacket.asControl, pppProtocol_controlPacket, drop_controlPacket] at h
  split at h
  · rename_i hp hc
    cases hp
    simp only [Option.some.injEq, Prod.mk.injEq] at h
    obtain ⟨rfl, rfl⟩ := h
    unfold parseControlPacket at hc
    split at hc
    · cases hc
    · simp only at hc
      split at hc
      · cases hc
      · cases hc
        exact ⟨rfl, rfl, rfl⟩
  · cases h

end OpenfortivpnRs.Tunnel
