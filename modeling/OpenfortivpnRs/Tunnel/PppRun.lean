import OpenfortivpnRs.Lib.History
import OpenfortivpnRs.Tunnel.PppEngine

/-!
# Runs of the PPP engine

The calls a client of the engine makes, and what each one leaves in a history: the packets it put
into the queue and the events it emitted.  `Move` says once what a call can do (`call_move`); the
invariants of the negotiation are case analyses on it.
-/

namespace OpenfortivpnRs.Tunnel

open Lib.Bytes Lib.History

inductive Call where
  | start
  | handleIncoming (packet : PppPacket)
  | nextOutgoing
  | drainOutgoing
  deriving DecidableEq, Repr

/-- A call in the history of a run. -/
structure Entry where
  call : Call
  queued : List PppPacket
  events : List PppEvent
  deriving DecidableEq, Repr

/-- The events of a result; a call that fails emits none. -/
def emitted : Result (List PppEvent) → List PppEvent
  | .ok events => events
  | .error _ => []

namespace PppEngine

/-- The packets behind those that were queued in `engine`. -/
def newlyQueued (engine engine' : PppEngine) : List PppPacket :=
  engine'.outgoing.drop engine.outgoing.length

def call (engine : PppEngine) : Call → Entry × PppEngine
  | .start => (⟨.start, engine.newlyQueued engine.start, []⟩, engine.start)
  | .handleIncoming packet =>
    let (result, engine') := engine.handleIncoming packet
    (⟨.handleIncoming packet, engine.newlyQueued engine', emitted result⟩, engine')
  | .nextOutgoing => (⟨.nextOutgoing, [], []⟩, engine.nextOutgoing.2)
  | .drainOutgoing => (⟨.drainOutgoing, [], []⟩, engine.drainOutgoing.2)

/-- What a list of calls on a new engine leaves in the history. -/
def historyOf (calls : List Call) : List Entry := history call new calls

/-- The engine a list of calls on a new engine leaves. -/
def reached (calls : List Call) : PppEngine := after call new calls

theorem historyOf_split {calls : List Call} {before rest : List Entry} {entry : Entry}
    (h : historyOf calls = before ++ entry :: rest) : ∃ front c back, calls = front ++ c :: back ∧
      before = historyOf front ∧ entry = ((reached front).call c).1 :=
  history_split h

end PppEngine

/-! ### Packets of a history -/

/-- The Configure-Request of `protocol` that a packet is. -/
def asRequest (protocol : UInt16) (packet : PppPacket) : Option ControlPacket :=
  match packet.asControl with
  | some (q, control) =>
    if q = protocol ∧ control.code = codeConfigureRequest then some control else none
  | none => none

/-- The Configure-Requests of `protocol` queued in a history, oldest first. -/
def requests (protocol : UInt16) (h : List Entry) : List ControlPacket :=
  h.flatMap fun entry => entry.queued.filterMap (asRequest protocol)

def lastRequest (protocol : UInt16) (h : List Entry) : Option ControlPacket :=
  (requests protocol h).getLast?

/-- The identifier the engine issued for a packet: its Configure-Requests and Protocol-Rejects carry
one, and every other packet carries the identifier of what it answers. -/
def issuedIdentifier (packet : PppPacket) : Option UInt8 :=
  if packet.data.getD 2 0 = codeConfigureRequest ∨ packet.data.getD 2 0 = codeProtocolReject then
    some (packet.data.getD 3 0)
  else none

/-- The identifiers issued in a history, oldest first. -/
def issued (h : List Entry) : List UInt8 :=
  h.flatMap fun entry => entry.queued.filterMap issuedIdentifier

/-- The address an event announces. -/
def upAddress : PppEvent → Option Ipv4Addr
  | .up localIp _ _ => some localIp
  | _ => none

/-- The address of the last `Up` event of a history. -/
def lastUp (h : List Entry) : Option Ipv4Addr :=
  (h.flatMap fun entry => entry.events.filterMap upAddress).getLast?

def lcpRequest (identifier : UInt8) : PppPacket :=
  controlPacket protocolLcp codeConfigureRequest identifier ([lcpOptionMru, 4] ++ toBeBytes lcpDefaultMru)

def ipcpRequest (identifier : UInt8) (ip : Ipv4Addr) : PppPacket :=
  controlPacket protocolIpcp codeConfigureRequest identifier ([ipcpOptionIpAddress, 6] ++ ip.octets)

/-- A packet with the identifier of what it answers. -/
def Answer (packet : PppPacket) : Prop :=
  ∃ protocol code identifier payload, packet = controlPacket protocol code identifier payload ∧
    code ≠ codeConfigureRequest ∧ code ≠ codeProtocolReject

/-! ### The packets the engine sends, read back -/

theorem asRequest_lcpRequest (identifier : UInt8) : asRequest protocolLcp (lcpRequest identifier) =
    some ⟨codeConfigureRequest, identifier, [lcpOptionMru, 4] ++ toBeBytes lcpDefaultMru⟩ := by
  unfold asRequest lcpRequest
  rw [asControl_controlPacket (by decide)]
  rfl

theorem asRequest_ipcpRequest (identifier : UInt8) (ip : Ipv4Addr) :
    asRequest protocolIpcp (ipcpRequest identifier ip) =
      some ⟨codeConfigureRequest, identifier, [ipcpOptionIpAddress, 6] ++ ip.octets⟩ := by
  unfold asRequest ipcpRequest
  rw [asControl_controlPacket (by simp [Ipv4Addr.octets, pppControlHeaderLen])]
  rfl

/-- A packet of another protocol or with another code is no request. -/
theorem asRequest_of_ne {protocol q : UInt16} {code identifier : UInt8} {payload : List UInt8}
    (h : q ≠ protocol ∨ code ≠ codeConfigureRequest) :
    asRequest protocol (controlPacket q code identifier payload) = none := by
  unfold asRequest
  split
  · rename_i hc
    obtain ⟨rfl, rfl, -⟩ := controlPacket_of_asControl hc
    rw [if_neg (by rintro ⟨rfl, hcode⟩; rcases h with h | h <;> contradiction)]
  · rfl

theorem issuedIdentifier_controlPacket (protocol : UInt16) (code identifier : UInt8)
    (payload : List UInt8) : issuedIdentifier (controlPacket protocol code identifier payload) =
      if code = codeConfigureRequest ∨ code = codeProtocolReject then some identifier else none := rfl

/-- The address of an IPCP request reads back. -/
theorem parseIpcpIpAddress_request (ip : Ipv4Addr) :
    parseIpcpIpAddress ([ipcpOptionIpAddress, 6] ++ ip.octets) = some ip := by
  unfold parseIpcpIpAddress
  rw [ipcpOptionsLoop]
  simp [Ipv4Addr.octets]

section Answers

variable {packets : List PppPacket} (h : ∀ p ∈ packets, Answer p)
include h

/-- Answers are no requests. -/
theorem filterMap_asRequest_answers (protocol : UInt16) : packets.filterMap (asRequest protocol) = [] := by
  rw [List.filterMap_eq_nil_iff]
  intro p hp
  obtain ⟨q, code, identifier, payload, rfl, hcode, -⟩ := h p hp
  exact asRequest_of_ne (.inr hcode)

/-- Answers issue no identifier. -/
theorem filterMap_issued_answers : packets.filterMap issuedIdentifier = [] := by
  rw [List.filterMap_eq_nil_iff]
  intro p hp
  obtain ⟨q, code, identifier, payload, rfl, h1, h2⟩ := h p hp
  rw [issuedIdentifier_controlPacket, if_neg (by rintro (h | h) <;> contradiction)]

end Answers

/-! ### What a call can do -/

/-- The identifier `next_identifier` leaves for the next call. -/
def PppEngine.following (engine : PppEngine) : UInt8 := (Tunnel.nextIdentifier engine).2.nextIdentifier

theorem following_ne_zero (engine : PppEngine) : engine.following ≠ 0 := by
  unfold PppEngine.following nextIdentifier
  simp only
  split_ifs with h
  · decide
  · exact h

/-- What a call can do, up to the packets that wait in `outgoing`. -/
inductive Move (e : PppEngine) : Entry → PppEngine → Prop
  /-- Nothing but answers. -/
  | answer {call queued events out} (hq : ∀ p ∈ queued, Answer p)
      (hev : ∀ ev ∈ events, ∃ data, ev = .ipv4Packet data) :
      Move e ⟨call, queued, events⟩ { e with outgoing := out }
  | rejectProtocol {call payload out} :
      Move e ⟨call, [controlPacket protocolLcp codeProtocolReject e.nextIdentifier payload], []⟩
        { e with nextIdentifier := e.following, outgoing := out }
  /-- The first LCP request, behind the answer to the gateway's own. -/
  | openLcp {call answers out} (hinit : e.state = .initial) (hq : ∀ p ∈ answers, Answer p) :
      Move e ⟨call, answers ++ [lcpRequest e.nextIdentifier], []⟩
        { e with
          state := .lcpRequestSent
          nextIdentifier := e.following
          lcpIdentifier := some e.nextIdentifier
          outgoing := out }
  | retryLcp {call out} (hid : e.lcpIdentifier.isSome) :
      Move e ⟨call, [lcpRequest e.nextIdentifier], []⟩
        { e with
          nextIdentifier := e.following
          lcpIdentifier := some e.nextIdentifier
          outgoing := out }
  | openIpcp {packet control out} (hc : packet.asControl = some (protocolLcp, control))
      (hcode : control.code = codeConfigureAck) (hid : some control.identifier = e.lcpIdentifier)
      (hstate : e.state = .lcpRequestSent ∨ e.state = .initial) :
      Move e ⟨.handleIncoming packet, [ipcpRequest e.nextIdentifier e.requestedIp], []⟩
        { e with
          state := .ipcpRequestSent
          nextIdentifier := e.following
          ipcpIdentifier := some e.nextIdentifier
          outgoing := out }
  | retryIpcp {call out} (ip : Ipv4Addr) (hid : e.ipcpIdentifier.isSome) :
      Move e ⟨call, [ipcpRequest e.nextIdentifier ip], []⟩
        { e with
          nextIdentifier := e.following
          ipcpIdentifier := some e.nextIdentifier
          requestedIp := ip
          outgoing := out }
  | peerRequest {call queued out} (peerIp : Option Ipv4Addr) (hq : ∀ p ∈ queued, Answer p) :
      Move e ⟨call, queued, []⟩ { e with peerIp := peerIp, outgoing := out }
  | up {packet control out} (hc : packet.asControl = some (protocolIpcp, control))
      (hcode : control.code = codeConfigureAck) (hid : some control.identifier = e.ipcpIdentifier)
      (hip : (parseIpcpIpAddress control.options).getD e.requestedIp ≠ .unspecified) :
      Move e ⟨.handleIncoming packet, [],
          [.up ((parseIpcpIpAddress control.options).getD e.requestedIp) e.peerIp []]⟩
        { e with
          state := .opened
          localIp := some ((parseIpcpIpAddress control.options).getD e.requestedIp)
          outgoing := out }
  | terminate {call queued out} (hq : ∀ p ∈ queued, Answer p) :
      Move e ⟨call, queued, [.down]⟩ { e with state := .closed, outgoing := out }

section Handlers

variable {e e' : PppEngine} {packet : PppPacket}

/-- The packets a call queues stand behind those of the engine it was made on. -/
theorem Move.of_queued {call : Call} {queued : List PppPacket} {events : List PppEvent}
    (h : e'.outgoing = e.outgoing ++ queued) (hm : Move e ⟨call, queued, events⟩ e') :
    Move e ⟨call, e.newlyQueued e', events⟩ e' := by
  have hnew : e.newlyQueued e' = queued := by
    unfold PppEngine.newlyQueued
    rw [h, List.drop_left' rfl]
  rw [hnew]; exact hm

theorem Move.nothing (e : PppEngine) (call : Call) : Move e ⟨call, e.newlyQueued e, []⟩ e :=
  .of_queued (List.append_nil _).symm (.answer (by simp) (by simp))

theorem answer_of_code {protocol : UInt16} {code : UInt8} {identifier : UInt8} {payload : List UInt8}
    (h : code ≠ codeConfigureRequest ∧ code ≠ codeProtocolReject) :
    ∀ p ∈ [controlPacket protocol code identifier payload], Answer p := by
  intro p hp
  rw [List.mem_singleton] at hp
  exact ⟨protocol, code, identifier, payload, hp, h⟩

theorem asControl_of_parse {protocol : UInt16} {control : ControlPacket}
    (hproto : pppProtocol packet.data = .ok protocol)
    (hparse : parseControlPacket (packet.data.drop 2) = .ok control) :
    packet.asControl = some (protocol, control) := by
  unfold PppPacket.asControl; rw [hproto, hparse]

/-- The moves of `handle_lcp`, arm by arm. -/
theorem handleLcp_move (hproto : pppProtocol packet.data = .ok protocolLcp) :
    Move e ⟨.handleIncoming packet, e.newlyQueued (e.handleLcp (packet.data.drop 2)).2,
      emitted (e.handleLcp (packet.data.drop 2)).1⟩ (e.handleLcp (packet.data.drop 2)).2 := by
  unfold PppEngine.handleLcp
  cases hparse : parseControlPacket (packet.data.drop 2) with
  | error err => exact .nothing e _
  | ok control =>
    have hc := asControl_of_parse hproto hparse
    simp only
    split_ifs with h1 hinit h2 hstate h3 h4 h5 h6 h7
    · exact .of_queued (List.append_assoc _ _ _) (.openLcp hinit (answer_of_code (by decide)))
    · exact .of_queued rfl (.answer (answer_of_code (by decide)) (by simp [emitted]))
    · exact .of_queued rfl (.openIpcp hc h2.1 h2.2 hstate)
    · exact .nothing e _
    · exact .of_queued rfl (.retryLcp (by rw [← h3.2]; rfl))
    · exact .of_queued rfl (.answer (answer_of_code (by decide)) (by simp [emitted]))
    · exact .of_queued rfl (.answer (answer_of_code (by decide)) (by simp [emitted]))
    · exact .of_queued rfl (.terminate (answer_of_code (by decide)))
    · exact .nothing e _
    · exact .of_queued rfl (.answer (answer_of_code (by decide)) (by simp [emitted]))

/-- The moves of `handle_ipcp`, arm by arm. -/
theorem handleIpcp_move (hproto : pppProtocol packet.data = .ok protocolIpcp) :
    Move e ⟨.handleIncoming packet, e.newlyQueued (e.handleIpcp (packet.data.drop 2)).2,
      emitted (e.handleIpcp (packet.data.drop 2)).1⟩ (e.handleIpcp (packet.data.drop 2)).2 := by
  unfold PppEngine.handleIpcp
  cases hparse : parseControlPacket (packet.data.drop 2) with
  | error err => exact .nothing e _
  | ok control =>
    have hc := asControl_of_parse hproto hparse
    simp only
    split_ifs with h1 h2 hip h3 h4 h5 h6
    · exact .of_queued rfl (.peerRequest _ (answer_of_code (by decide)))
    · exact .of_queued (List.append_nil _).symm (.up hc h2.1 h2.2 hip)
    · exact .of_queued rfl (.retryIpcp e.requestedIp (by rw [← h2.2]; rfl))
    · have hid : e.ipcpIdentifier.isSome := by rw [← h3.2]; rfl
      split
      · exact .of_queued rfl (.retryIpcp _ hid)
      · exact .of_queued rfl (.retryIpcp e.requestedIp hid)
    · exact .of_queued rfl (.retryIpcp .unspecified (by rw [← h4.2]; rfl))
    · exact .of_queued rfl (.terminate (answer_of_code (by decide)))
    · exact .nothing e _
    · exact .of_queued rfl (.answer (answer_of_code (by decide)) (by simp [emitted]))

/-- **Every call makes a move.** -/
theorem call_move (e : PppEngine) (c : Call) : Move e (e.call c).1 (e.call c).2 := by
  cases c with
  | start =>
    simp only [PppEngine.call, PppEngine.start]
    split_ifs with hinit
    · exact .nothing e _
    · exact .of_queued rfl (@Move.openLcp e _ [] _ (not_not.mp hinit) (by simp))
  | handleIncoming packet =>
    simp only [PppEngine.call, PppEngine.handleIncoming]
    cases hproto : pppProtocol packet.data with
    | error err => exact .nothing e _
    | ok protocol =>
      simp only
      split_ifs with h1 h2 h3
      · exact .of_queued (List.append_nil _).symm (.answer (by simp) (by simp [emitted]))
      · exact handleLcp_move (h2 ▸ hproto)
      · exact handleIpcp_move (h3 ▸ hproto)
      · exact .of_queued rfl .rejectProtocol
  | nextOutgoing => exact .answer (by simp) (by simp)
  | drainOutgoing => exact .answer (by simp) (by simp)

end Handlers

end OpenfortivpnRs.Tunnel
