import OpenfortivpnRs.Tunnel.PppRun

/-!
# Terminated links and stale replies

Two places where `handle_ipcp` and `handle_lcp` look at less than they should.  The Configure-Ack
arm of IPCP asks for the identifier but not for the state, so an Ack for a request that is still
outstanding reopens a link that was terminated (`stays_closed_iff`); and a reply whose identifier is
not the outstanding one falls through to the arm for unknown codes (`stale_reply_rejected`).
-/

namespace OpenfortivpnRs.Tunnel

open Lib.History

/-! ### The arms of a packet -/

section Arms

variable {e : PppEngine} {packet : PppPacket} {control : ControlPacket}

theorem parse_of_asControl {protocol : UInt16} (h : packet.asControl = some (protocol, control)) :
    pppProtocol packet.data = .ok protocol ∧ parseControlPacket (packet.data.drop 2) = .ok control := by
  unfold PppPacket.asControl at h
  split at h
  · rename_i hp hc
    cases h
    exact ⟨hp, hc⟩
  · cases h

theorem handleIncoming_lcp (h : packet.asControl = some (protocolLcp, control)) :
    e.handleIncoming packet = e.handleLcp (packet.data.drop 2) := by
  unfold PppEngine.handleIncoming
  rw [(parse_of_asControl h).1]
  rfl

theorem handleIncoming_ipcp (h : packet.asControl = some (protocolIpcp, control)) :
    e.handleIncoming packet = e.handleIpcp (packet.data.drop 2) := by
  unfold PppEngine.handleIncoming
  rw [(parse_of_asControl h).1]
  rfl

end Arms

/-! ### Terminated links -/

/-- An LCP or IPCP Terminate-Request. -/
def TerminateRequest (packet : PppPacket) : Prop :=
  ∃ protocol control, packet.asControl = some (protocol, control) ∧
    (protocol = protocolLcp ∨ protocol = protocolIpcp) ∧ control.code = codeTerminateRequest

/-- The packet acknowledges the outstanding IPCP request with an address that is not zero. -/
def AcksAddress (e : PppEngine) (packet : PppPacket) : Prop :=
  ∃ control, packet.asControl = some (protocolIpcp, control) ∧ control.code = codeConfigureAck ∧
    some control.identifier = e.ipcpIdentifier ∧
    (parseIpcpIpAddress control.options).getD e.requestedIp ≠ .unspecified

/-- No call of `later` makes the link open again or emits another `Up`. -/
def StaysClosed (e : PppEngine) (later : List Call) : Prop :=
  (∀ entry ∈ history PppEngine.call e later, ∀ event ∈ entry.events, upAddress event = none) ∧
    ∀ front back, later = front ++ back → (after PppEngine.call e front).isOpen = false

/-- No packet of `later` acknowledges an address when it is handled. -/
def NeverAcksAddress (e : PppEngine) (later : List Call) : Prop :=
  ∀ front packet back, later = front ++ .handleIncoming packet :: back →
    ¬ AcksAddress (after PppEngine.call e front) packet

/-- A Terminate-Request takes the link down. -/
theorem terminateRequest_call {packet : PppPacket} (h : TerminateRequest packet) (e : PppEngine) :
    (e.call (.handleIncoming packet)).1.events = [.down] ∧
      (e.call (.handleIncoming packet)).2.state = .closed := by
  obtain ⟨protocol, control, hc, hprotocol, hcode⟩ := h
  have hparse := (parse_of_asControl hc).2
  rcases hprotocol with rfl | rfl
  · simp [PppEngine.call, handleIncoming_lcp hc, PppEngine.handleLcp, hparse, hcode, emitted,
      codeTerminateRequest, codeConfigureRequest, codeConfigureAck, codeConfigureNak,
      codeConfigureReject, codeEchoRequest]
  · simp [PppEngine.call, handleIncoming_ipcp hc, PppEngine.handleIpcp, hparse, hcode, emitted,
      codeTerminateRequest, codeConfigureRequest, codeConfigureAck, codeConfigureNak,
      codeConfigureReject]

/-- An address that is acknowledged is announced, whatever the state. -/
theorem AcksAddress.up {e : PppEngine} {packet : PppPacket} (h : AcksAddress e packet) :
    ∃ localIp, .up localIp e.peerIp [] ∈ (e.call (.handleIncoming packet)).1.events ∧
      (e.call (.handleIncoming packet)).2.state = .opened := by
  obtain ⟨control, hc, hcode, hid, hip⟩ := h
  have hparse := (parse_of_asControl hc).2
  refine ⟨(parseIpcpIpAddress control.options).getD e.requestedIp, ?_⟩
  simp [PppEngine.call, handleIncoming_ipcp hc, PppEngine.handleIpcp, hparse, hcode, hid, hip,
    emitted, codeConfigureAck, codeConfigureRequest]

/-- Nothing else opens the link. -/
theorem Move.stays_closed {e e' : PppEngine} {entry : Entry} (hm : Move e entry e')
    (h : ∀ packet, entry.call = .handleIncoming packet → ¬ AcksAddress e packet) :
    (∀ event ∈ entry.events, upAddress event = none) ∧ (e.state ≠ .opened → e'.state ≠ .opened) := by
  cases hm with
  | answer _ hev =>
    refine ⟨?_, id⟩
    intro event hevent
    obtain ⟨data, rfl⟩ := hev event hevent
    rfl
  | up hc hcode hid hip => exact absurd ⟨_, hc, hcode, hid, hip⟩ (h _ rfl)
  | terminate _ => exact ⟨by simp [upAddress], by simp⟩
  | _ => exact ⟨by simp, by simp⟩

/-- The link stays closed along calls none of which acknowledges an address. -/
theorem staysClosed_of_neverAcks {later : List Call} : ∀ {e : PppEngine}, e.state ≠ .opened →
    NeverAcksAddress e later → StaysClosed e later := by
  induction later with
  | nil =>
    intro e he _
    refine ⟨by simp [history], ?_⟩
    intro front back h
    obtain ⟨rfl, rfl⟩ := List.append_eq_nil_iff.mp h.symm
    exact decide_eq_false he
  | cons c later ih =>
    intro e he hacks
    have hstep : ∀ packet, (e.call c).1.call = .handleIncoming packet → ¬ AcksAddress e packet := by
      intro packet hcall
      have hc : c = .handleIncoming packet := by cases c <;> exact hcall
      exact hacks [] packet later (by rw [hc]; rfl)
    obtain ⟨hev, hstate⟩ := (call_move e c).stays_closed hstep
    obtain ⟨hrest, hclosed⟩ := ih (hstate he) fun front packet back h =>
      hacks (c :: front) packet back (by rw [h]; rfl)
    refine ⟨?_, ?_⟩
    · intro entry hentry
      rcases List.mem_cons.mp hentry with rfl | hentry
      · exact hev
      · exact hrest entry hentry
    · intro front back h
      rcases front with _ | ⟨c', front⟩
      · exact decide_eq_false he
      · obtain ⟨rfl, hlater⟩ := List.cons.inj h
        exact hclosed front back hlater

/-- An acknowledged address ends it. -/
theorem StaysClosed.neverAcks {e : PppEngine} {later : List Call} (h : StaysClosed e later) :
    NeverAcksAddress e later := by
  rintro front packet back rfl hacks
  obtain ⟨localIp, hup, -⟩ := hacks.up
  have hnone := h.1 ((after PppEngine.call e front).call (.handleIncoming packet)).1
    (by rw [history_append]; simp [history]) _ hup
  cases hnone

/-- **When a terminated link stays closed.**  After a Terminate-Request, the link stays closed along
the calls that follow if and only if none of them handles an IPCP Configure-Ack that carries the
identifier of the outstanding IPCP request and acknowledges an address that is not zero. -/
theorem stays_closed_iff {packet : PppPacket} (hterm : TerminateRequest packet)
    (before later : List Call) :
    StaysClosed (PppEngine.reached (before ++ [.handleIncoming packet])) later ↔
      NeverAcksAddress (PppEngine.reached (before ++ [.handleIncoming packet])) later := by
  refine ⟨StaysClosed.neverAcks, staysClosed_of_neverAcks ?_⟩
  have hreached : PppEngine.reached (before ++ [.handleIncoming packet]) =
      ((PppEngine.reached before).call (.handleIncoming packet)).2 := after_append _ _ _
  rw [hreached, (terminateRequest_call hterm _).2]
  simp

/-- The gateway terminates the link and then sends no packet. -/
theorem stays_closed_iff_terminated :
    TerminateRequest (controlPacket protocolLcp codeTerminateRequest 9 []) ∧
    StaysClosed (PppEngine.reached
      [.start, .handleIncoming (controlPacket protocolLcp codeTerminateRequest 9 [])])
      [.drainOutgoing] := by
  have hterm : TerminateRequest (controlPacket protocolLcp codeTerminateRequest 9 []) :=
    ⟨protocolLcp, ⟨codeTerminateRequest, 9, []⟩, by decide, .inl rfl, rfl⟩
  refine ⟨hterm, (stays_closed_iff hterm [.start] [.drainOutgoing]).mpr ?_⟩
  intro front packet back h
  rcases front with _ | ⟨c, front⟩
  · cases h
  · simp at h

/-- A run in which an IPCP request is outstanding when the gateway terminates the link, and the
gateway then acknowledges it. -/
theorem reopened_after_termination : ¬ ∀ (before : List Call) (packet : PppPacket) (later : List Call),
    TerminateRequest packet →
      StaysClosed (PppEngine.reached (before ++ [.handleIncoming packet])) later := by
  intro h
  have hclosed := h
    [.start, .handleIncoming (controlPacket protocolLcp codeConfigureAck 1 [lcpOptionMru, 4, 0x05, 0x4a])]
    (controlPacket protocolLcp codeTerminateRequest 9 [])
    [.handleIncoming (controlPacket protocolIpcp codeConfigureAck 2 [ipcpOptionIpAddress, 6, 10, 0, 0, 42])]
    ⟨protocolLcp, ⟨codeTerminateRequest, 9, []⟩, by decide, .inl rfl, rfl⟩
  exact absurd (hclosed.2 _ [] (List.append_nil _).symm) (by decide +kernel)

/-! ### Links that cannot reopen -/

/-- Without an outstanding IPCP request, a closed link keeps none. -/
theorem Move.closed_inert {e e' : PppEngine} {entry : Entry} (hm : Move e entry e')
    (hs : e.state = .closed) (hid : e.ipcpIdentifier = none) :
    e'.state = .closed ∧ e'.ipcpIdentifier = none := by
  cases hm with
  | openLcp hinit _ => rw [hs] at hinit; cases hinit
  | openIpcp _ _ _ hstate => rw [hs] at hstate; rcases hstate with hstate | hstate <;> cases hstate
  | retryIpcp _ hsome => rw [hid] at hsome; cases hsome
  | up _ _ hack _ => rw [hid] at hack; cases hack
  | terminate _ => exact ⟨rfl, hid⟩
  | _ => exact ⟨hs, hid⟩

/-- **When nothing can reopen a closed link**: exactly when no IPCP request is outstanding. -/
theorem closed_for_good_iff {e : PppEngine} (hs : e.state = .closed) :
    (∀ later, StaysClosed e later) ↔ e.ipcpIdentifier = none := by
  constructor
  · intro h
    rcases hid : e.ipcpIdentifier with _ | identifier
    · rfl
    · refine absurd ?_ ((h [.handleIncoming (controlPacket protocolIpcp codeConfigureAck identifier
        ([ipcpOptionIpAddress, 6] ++ Ipv4Addr.octets ⟨10, 0, 0, 42⟩))]).neverAcks [] _ [] rfl)
      refine ⟨_, asControl_controlPacket (by decide), rfl, hid.symm, ?_⟩
      rw [parseIpcpIpAddress_request, Option.getD_some]
      decide
  · intro hid later
    refine staysClosed_of_neverAcks (by rw [hs]; decide) ?_
    rintro front packet back - ⟨control, -, -, hack, -⟩
    have hinert : (after PppEngine.call e front).state = .closed ∧
        (after PppEngine.call e front).ipcpIdentifier = none :=
      @history_invariant _ _ _ PppEngine.call
        (fun _ e => e.state = .closed ∧ e.ipcpIdentifier = none) e ⟨hs, hid⟩
        (fun c h => (call_move _ c).closed_inert h.1 h.2) front
    rw [hinert.2] at hack
    cases hack

/-! ### Stale replies -/

/-- A Configure-Ack, -Nak or -Reject whose identifier is not that of the outstanding request. -/
def StaleReply (e : PppEngine) (packet : PppPacket) : Prop :=
  ∃ protocol control, packet.asControl = some (protocol, control) ∧
    (protocol = protocolLcp ∧ some control.identifier ≠ e.lcpIdentifier ∨
      protocol = protocolIpcp ∧ some control.identifier ≠ e.ipcpIdentifier) ∧
    (control.code = codeConfigureAck ∨ control.code = codeConfigureNak ∨
      control.code = codeConfigureReject)

/-- The packet changes nothing, queues nothing and emits nothing. -/
def Ignored (e : PppEngine) (packet : PppPacket) : Prop :=
  (e.call (.handleIncoming packet)).2 = e ∧ (e.call (.handleIncoming packet)).1.queued = [] ∧
    (e.call (.handleIncoming packet)).1.events = []

/-- **A stale reply is rejected as an unknown code**, and nothing else happens. -/
theorem stale_reply_rejected {e : PppEngine} {packet : PppPacket} (h : StaleReply e packet) :
    ∃ protocol identifier, e.handleIncoming packet =
      (.ok [], e.queueControl protocol codeCodeReject identifier (packet.data.drop 2)) := by
  obtain ⟨protocol, control, hc, hid, hcode⟩ := h
  have hparse := (parse_of_asControl hc).2
  refine ⟨protocol, control.identifier, ?_⟩
  rcases hid with ⟨rfl, hid⟩ | ⟨rfl, hid⟩
  · rw [handleIncoming_lcp hc, PppEngine.handleLcp, hparse]
    rcases hcode with hcode | hcode | hcode <;>
      simp [hcode, hid, codeConfigureRequest, codeConfigureAck, codeConfigureNak, codeConfigureReject,
        codeEchoRequest, codeTerminateRequest, codeCodeReject, codeProtocolReject, codeEchoReply,
        codeTerminateAck]
  · rw [handleIncoming_ipcp hc, PppEngine.handleIpcp, hparse]
    rcases hcode with hcode | hcode | hcode <;>
      simp [hcode, hid, codeConfigureRequest, codeConfigureAck, codeConfigureNak, codeConfigureReject,
        codeTerminateRequest, codeCodeReject, codeTerminateAck]

/-- **No stale reply is ignored**, in whatever state the engine is. -/
theorem stale_reply_not_ignored {e : PppEngine} {packet : PppPacket} (h : StaleReply e packet) :
    ¬ Ignored e packet := by
  rintro ⟨-, hqueued, -⟩
  obtain ⟨protocol, identifier, hcall⟩ := stale_reply_rejected h
  simp [PppEngine.call, hcall, PppEngine.newlyQueued, PppEngine.queueControl] at hqueued

/-- An LCP Configure-Ack with identifier 9 while the request with identifier 1 is outstanding. -/
def staleAck : PppPacket := controlPacket protocolLcp codeConfigureAck 9 [lcpOptionMru, 4, 0x05, 0x4a]

theorem staleReply_staleAck : StaleReply (PppEngine.reached [.start]) staleAck :=
  ⟨protocolLcp, ⟨codeConfigureAck, 9, [lcpOptionMru, 4, 0x05, 0x4a]⟩, by decide,
    .inl ⟨rfl, by decide⟩, .inl rfl⟩

theorem stale_reply_not_ignored_ack : ¬ Ignored (PppEngine.reached [.start]) staleAck :=
  stale_reply_not_ignored staleReply_staleAck

theorem stale_replies_not_all_ignored : ¬ ∀ (calls : List Call) (packet : PppPacket),
    StaleReply (PppEngine.reached calls) packet → Ignored (PppEngine.reached calls) packet := by
  intro h
  exact absurd (h [.start] staleAck staleReply_staleAck).2.1 (by decide +kernel)

end OpenfortivpnRs.Tunnel
