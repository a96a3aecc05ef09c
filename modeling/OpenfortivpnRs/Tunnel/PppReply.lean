import OpenfortivpnRs.Tunnel.PppClosed

/-!
# The replies of the PPP engine

What `handle_incoming` puts into the queue: `Queued` says it once, with the size of every reply
(`handleIncoming_queued`).  Every reply is a control packet that reads back, every Configure-Request
of the gateway is acknowledged with its own options, and the replies fit the transport unless a
packet is rejected that is nearly as long as a frame can be.
-/

namespace OpenfortivpnRs.Tunnel

open Lib.Bytes Lib.History

variable {engine : PppEngine} {packet : PppPacket}

/-! ### What is rejected -/

/-- The packet reaches the last arm of `handle_lcp` or `handle_ipcp`. -/
def CodeRejected (engine : PppEngine) (packet : PppPacket) : Prop :=
  ∃ protocol control, packet.asControl = some (protocol, control) ∧
    (protocol = protocolLcp ∧
        control.code ∉ [codeConfigureRequest, codeEchoRequest, codeTerminateRequest, codeCodeReject,
          codeProtocolReject, codeEchoReply, codeTerminateAck] ∧
        (control.code ∈ [codeConfigureAck, codeConfigureNak, codeConfigureReject] →
          some control.identifier ≠ engine.lcpIdentifier) ∨
      protocol = protocolIpcp ∧
        control.code ∉ [codeConfigureRequest, codeTerminateRequest, codeCodeReject,
          codeTerminateAck] ∧
        (control.code ∈ [codeConfigureAck, codeConfigureNak, codeConfigureReject] →
          some control.identifier ≠ engine.ipcpIdentifier))

/-- The packet reaches the last arm of `handle_incoming`. -/
def ProtocolRejected (packet : PppPacket) : Prop :=
  ∃ protocol, pppProtocol packet.data = .ok protocol ∧
    protocol ∉ [protocolIpv4, protocolLcp, protocolIpcp]

/-! ### What is queued -/

/-- A control packet no longer than `bound`. -/
def ShortControl (bound : ℕ) (reply : PppPacket) : Prop :=
  ∃ protocol code identifier payload, reply = controlPacket protocol code identifier payload ∧
    payload.length + 6 ≤ bound

/-- What `handle_incoming` can queue: replies no longer than the packet, or than a request of the
engine's own; or one reject, which carries the packet. -/
inductive Queued (engine : PppEngine) (packet : PppPacket) : List PppPacket → Prop
  | short {replies} (h : ∀ reply ∈ replies, ShortControl (max packet.data.length 12) reply)
      (hcode : ¬ CodeRejected engine packet) (hprotocol : ¬ ProtocolRejected packet) :
      Queued engine packet replies
  | codeReject {protocol : UInt16} {identifier : UInt8} (hcode : CodeRejected engine packet)
      (hprotocol : ¬ ProtocolRejected packet) (hlen : 2 ≤ packet.data.length) :
      Queued engine packet
        [controlPacket protocol codeCodeReject identifier (packet.data.drop 2)]
  | protocolReject {identifier : UInt8} (hcode : ¬ CodeRejected engine packet)
      (hprotocol : ProtocolRejected packet) :
      Queued engine packet [controlPacket protocolLcp codeProtocolReject identifier packet.data]

theorem controlPacket_length (protocol : UInt16) (code identifier : UInt8) (payload : List UInt8) :
    (controlPacket protocol code identifier payload).data.length = payload.length + 6 := by
  simp only [controlPacket, List.length_append, toBeBytes_length, List.length_cons, List.length_nil]
  omega

/-- A control packet that reads has its header and its options in the packet. -/
theorem options_length {protocol : UInt16} {control : ControlPacket}
    (h : packet.asControl = some (protocol, control)) :
    control.options.length + 6 ≤ packet.data.length := by
  have hparse := (parse_of_asControl h).2
  unfold parseControlPacket pppControlHeaderLen at hparse
  split at hparse
  · cases hparse
  · simp only at hparse
    split at hparse
    · cases hparse
    · rename_i h1 h2
      cases hparse
      simp only [List.length_drop, List.length_take] at h1 h2 ⊢
      omega

/-- An LCP or IPCP packet has a known protocol. -/
theorem not_protocolRejected {protocol : UInt16} (h : pppProtocol packet.data = .ok protocol)
    (hknown : protocol ∈ [protocolIpv4, protocolLcp, protocolIpcp]) : ¬ ProtocolRejected packet := by
  rintro ⟨q, hq, hunknown⟩
  rw [h] at hq
  cases hq
  exact hunknown hknown

theorem not_codeRejected_lcp {control : ControlPacket}
    (hc : packet.asControl = some (protocolLcp, control))
    (h : control.code ∈ [codeConfigureRequest, codeEchoRequest, codeTerminateRequest, codeCodeReject,
        codeProtocolReject, codeEchoReply, codeTerminateAck] ∨
      control.code ∈ [codeConfigureAck, codeConfigureNak, codeConfigureReject] ∧
        some control.identifier = engine.lcpIdentifier) : ¬ CodeRejected engine packet := by
  rintro ⟨protocol, control', hc', hrejected⟩
  rw [hc] at hc'
  cases hc'
  rcases hrejected with ⟨-, h1, h2⟩ | ⟨hne, -⟩
  · exact h.elim h1 fun h => h2 h.1 h.2
  · exact absurd hne (by decide)

theorem not_codeRejected_ipcp {control : ControlPacket}
    (hc : packet.asControl = some (protocolIpcp, control))
    (h : control.code ∈ [codeConfigureRequest, codeTerminateRequest, codeCodeReject,
        codeTerminateAck] ∨
      control.code ∈ [codeConfigureAck, codeConfigureNak, codeConfigureReject] ∧
        some control.identifier = engine.ipcpIdentifier) : ¬ CodeRejected engine packet := by
  rintro ⟨protocol, control', hc', hrejected⟩
  rw [hc] at hc'
  cases hc'
  rcases hrejected with ⟨hne, -⟩ | ⟨-, h1, h2⟩
  · exact absurd hne (by decide)
  · exact h.elim h1 fun h => h2 h.1 h.2

/-- A packet that does not read as a control packet is not rejected for its code. -/
theorem not_codeRejected_of_error {err : OpenfortivpnError}
    (h : parseControlPacket (packet.data.drop 2) = .error err) : ¬ CodeRejected engine packet := by
  rintro ⟨protocol, control, hc, -⟩
  rw [(parse_of_asControl hc).2] at h
  cases h

/-! ### The handlers -/

/-- A single reply. -/
theorem shortControl_singleton {protocol : UInt16} {code identifier : UInt8} {payload : List UInt8}
    {bound : ℕ} (h : payload.length + 6 ≤ bound) :
    ∀ reply ∈ [controlPacket protocol code identifier payload], ShortControl bound reply := by
  intro reply hr
  rw [List.mem_singleton] at hr
  exact ⟨protocol, code, identifier, payload, hr, h⟩

theorem handleLcp_queued (hproto : pppProtocol packet.data = .ok protocolLcp) :
    ∃ replies, (engine.handleLcp (packet.data.drop 2)).2.outgoing = engine.outgoing ++ replies ∧
      Queued engine packet replies := by
  have hknown := not_protocolRejected hproto (by decide)
  unfold PppEngine.handleLcp
  cases hparse : parseControlPacket (packet.data.drop 2) with
  | error err =>
    exact ⟨[], (List.append_nil _).symm, .short (by simp) (not_codeRejected_of_error hparse) hknown⟩
  | ok control =>
    have hc := asControl_of_parse hproto hparse
    have hlen := options_length hc
    have hnot := fun h => @not_codeRejected_lcp engine packet control hc h
    simp only
    split_ifs with h1 hinit h2 hstate h3 h4 hbody h5 h6
    · refine ⟨_, List.append_assoc _ _ _, .short ?_ (hnot (.inl (by simp [h1]))) hknown⟩
      intro reply hr
      rcases List.mem_append.mp hr with hr | hr
      · exact shortControl_singleton (by omega) reply hr
      · exact shortControl_singleton (by simp [toBeBytes_length]) reply hr
    · exact ⟨_, rfl, .short (shortControl_singleton (by omega)) (hnot (.inl (by simp [h1]))) hknown⟩
    · exact ⟨_, rfl, .short (shortControl_singleton (by simp [Ipv4Addr.octets]))
        (hnot (.inr ⟨by simp [h2.1], h2.2⟩)) hknown⟩
    · exact ⟨[], (List.append_nil _).symm, .short (by simp) (hnot (.inr ⟨by simp [h2.1], h2.2⟩)) hknown⟩
    · refine ⟨_, rfl, .short (shortControl_singleton (by simp [toBeBytes_length]))
        (hnot (.inr ⟨?_, h3.2⟩)) hknown⟩
      rcases h3.1 with h | h <;> simp [h]
    · refine ⟨_, rfl, .short (shortControl_singleton ?_) (hnot (.inl (by simp [h4]))) hknown⟩
      simp only [List.length_append, List.length_drop, List.length_cons, List.length_nil]
      omega
    · exact ⟨_, rfl, .short (shortControl_singleton (by simp)) (hnot (.inl (by simp [h4]))) hknown⟩
    · exact ⟨_, rfl, .short (shortControl_singleton (by omega)) (hnot (.inl (by simp [h5]))) hknown⟩
    · refine ⟨[], (List.append_nil _).symm, .short (by simp) (hnot (.inl ?_)) hknown⟩
      rcases h6 with h | h | h | h <;> simp [h]
    · refine ⟨_, rfl, .codeReject ⟨protocolLcp, control, hc, .inl ⟨rfl, ?_, ?_⟩⟩ hknown (by omega)⟩
      · simp only [not_or] at h6
        simp [h1, h4, h5, h6]
      · intro hmem hid
        simp only [hid, and_true, not_or] at h2 h3
        simp [h2, h3] at hmem

theorem handleIpcp_queued (hproto : pppProtocol packet.data = .ok protocolIpcp) :
    ∃ replies, (engine.handleIpcp (packet.data.drop 2)).2.outgoing = engine.outgoing ++ replies ∧
      Queued engine packet replies := by
  have hknown := not_protocolRejected hproto (by decide)
  have hrequest : ∀ ip : Ipv4Addr,
      ([ipcpOptionIpAddress, 6] ++ ip.octets).length + 6 ≤ max packet.data.length 12 := by
    simp [Ipv4Addr.octets]
  unfold PppEngine.handleIpcp
  cases hparse : parseControlPacket (packet.data.drop 2) with
  | error err =>
    exact ⟨[], (List.append_nil _).symm, .short (by simp) (not_codeRejected_of_error hparse) hknown⟩
  | ok control =>
    have hc := asControl_of_parse hproto hparse
    have hlen := options_length hc
    have hnot := fun h => @not_codeRejected_ipcp engine packet control hc h
    simp only
    split_ifs with h1 h2 hip h3 h4 h5 h6
    · exact ⟨_, rfl, .short (shortControl_singleton (by omega)) (hnot (.inl (by simp [h1]))) hknown⟩
    · exact ⟨[], (List.append_nil _).symm, .short (by simp) (hnot (.inr ⟨by simp [h2.1], h2.2⟩)) hknown⟩
    · exact ⟨_, rfl, .short (shortControl_singleton (hrequest _))
        (hnot (.inr ⟨by simp [h2.1], h2.2⟩)) hknown⟩
    · split <;> exact ⟨_, rfl, .short (shortControl_singleton (hrequest _))
        (hnot (.inr ⟨by simp [h3.1], h3.2⟩)) hknown⟩
    · exact ⟨_, rfl, .short (shortControl_singleton (hrequest _))
        (hnot (.inr ⟨by simp [h4.1], h4.2⟩)) hknown⟩
    · exact ⟨_, rfl, .short (shortControl_singleton (by omega)) (hnot (.inl (by simp [h5]))) hknown⟩
    · refine ⟨[], (List.append_nil _).symm, .short (by simp) (hnot (.inl ?_)) hknown⟩
      rcases h6 with h | h <;> simp [h]
    · refine ⟨_, rfl, .codeReject ⟨protocolIpcp, control, hc, .inr ⟨rfl, ?_, ?_⟩⟩ hknown (by omega)⟩
      · simp only [not_or] at h6
        simp [h1, h5, h6]
      · intro hmem hid
        simp only [hid, and_true] at h2 h3 h4
        simp [h2, h3, h4] at hmem

/-- The words of a packet's protocol stand in front of the rest. -/
theorem protocol_append {protocol : UInt16} (h : pppProtocol packet.data = .ok protocol) :
    2 ≤ packet.data.length ∧ toBeBytes protocol ++ packet.data.drop 2 = packet.data := by
  unfold pppProtocol at h
  split at h
  · cases h
  · rename_i hlen
    cases h
    exact ⟨by omega, (toBeBytes_wordAt packet.data (by omega)).symm⟩

/-- **What a packet makes the engine queue**, behind what is queued already. -/
theorem handleIncoming_queued (engine : PppEngine) (packet : PppPacket) :
    ∃ replies, (engine.handleIncoming packet).2.outgoing = engine.outgoing ++ replies ∧
      Queued engine packet replies := by
  unfold PppEngine.handleIncoming
  cases hproto : pppProtocol packet.data with
  | error err =>
    refine ⟨[], (List.append_nil _).symm, .short (by simp) ?_ ?_⟩
    · rintro ⟨protocol, control, hc, -⟩
      rw [(parse_of_asControl hc).1] at hproto
      cases hproto
    · rintro ⟨protocol, hp, -⟩
      rw [hproto] at hp
      cases hp
  | ok protocol =>
    have hcode : protocol ≠ protocolLcp → protocol ≠ protocolIpcp → ¬ CodeRejected engine packet := by
      rintro h1 h2 ⟨q, control, hc, hrejected⟩
      have hq := (parse_of_asControl hc).1
      rw [hproto] at hq
      cases hq
      rcases hrejected with ⟨h, -⟩ | ⟨h, -⟩ <;> contradiction
    simp only
    split_ifs with h1 h2 h3
    · refine ⟨[], (List.append_nil _).symm, .short (by simp) (hcode ?_ ?_)
        (not_protocolRejected hproto (by simp [h1]))⟩
      · rw [h1]; decide
      · rw [h1]; decide
    · exact handleLcp_queued (h2 ▸ hproto)
    · exact handleIpcp_queued (h3 ▸ hproto)
    · refine ⟨[controlPacket protocolLcp codeProtocolReject engine.nextIdentifier packet.data], ?_,
        .protocolReject (hcode h2 h3) ⟨protocol, hproto, by simp [h1, h2, h3]⟩⟩
      rw [← (protocol_append hproto).2]
      rfl

/-- The packets `handle_incoming` queues. -/
def PppEngine.replies (engine : PppEngine) (packet : PppPacket) : List PppPacket :=
  engine.newlyQueued (engine.handleIncoming packet).2

theorem outgoing_replies (engine : PppEngine) (packet : PppPacket) :
    (engine.handleIncoming packet).2.outgoing = engine.outgoing ++ engine.replies packet ∧
      Queued engine packet (engine.replies packet) := by
  obtain ⟨replies, hout, hqueued⟩ := handleIncoming_queued engine packet
  have hnew : engine.replies packet = replies := by
    unfold PppEngine.replies PppEngine.newlyQueued
    rw [hout, List.drop_left' rfl]
  rw [hnew]
  exact ⟨hout, hqueued⟩

/-! ### Well-formed replies and exact acknowledgements -/

/-- A protocol number and a control packet whose options are the rest of the data. -/
def WellFormedControl (reply : PppPacket) : Prop :=
  ∃ protocol control, pppProtocol reply.data = .ok protocol ∧
    parseControlPacket (reply.data.drop 2) = .ok control ∧
    control.options = reply.data.drop (2 + pppControlHeaderLen)

/-- The Configure-Ack that a packet is, and its protocol. -/
def asConfigureAck (packet : PppPacket) : Option (UInt16 × ControlPacket) :=
  packet.asControl.filter fun control => control.2.code = codeConfigureAck

theorem wellFormed_controlPacket {protocol : UInt16} {code identifier : UInt8} {payload : List UInt8}
    (h : pppControlHeaderLen + payload.length < 65536) :
    WellFormedControl (controlPacket protocol code identifier payload) := by
  obtain ⟨hproto, hparse⟩ := parse_of_asControl (asControl_controlPacket h)
  refine ⟨protocol, _, hproto, hparse, ?_⟩
  rw [← List.drop_drop, drop_controlPacket]
  simp [pppControlHeaderLen, toBeBytes]

theorem asConfigureAck_ack {protocol : UInt16} {identifier : UInt8} {payload : List UInt8}
    (h : pppControlHeaderLen + payload.length < 65536) :
    asConfigureAck (controlPacket protocol codeConfigureAck identifier payload) =
      some (protocol, ⟨codeConfigureAck, identifier, payload⟩) := by
  unfold asConfigureAck
  rw [asControl_controlPacket h]
  rfl

theorem asConfigureAck_lcpRequest (identifier : UInt8) : asConfigureAck (lcpRequest identifier) = none := by
  unfold asConfigureAck lcpRequest
  rw [asControl_controlPacket (by decide)]
  rfl

/-- **No reply is cut**: the length field of each one covers all its options. -/
theorem Queued.wellFormed {replies : List PppPacket} (h : Queued engine packet replies)
    (hlen : packet.data.length ≤ 65529) : ∀ reply ∈ replies, WellFormedControl reply := by
  cases h with
  | short hshort _ _ =>
    intro reply hr
    obtain ⟨protocol, code, identifier, payload, rfl, hbound⟩ := hshort reply hr
    exact wellFormed_controlPacket (by unfold pppControlHeaderLen; omega)
  | codeReject _ _ _ =>
    intro reply hr
    rw [List.mem_singleton.mp hr]
    apply wellFormed_controlPacket
    rw [List.length_drop]
    unfold pppControlHeaderLen
    omega
  | protocolReject _ _ =>
    intro reply hr
    rw [List.mem_singleton.mp hr]
    exact wellFormed_controlPacket (by unfold pppControlHeaderLen; omega)

/-- **The answer to a Configure-Request.**  One acknowledgement, and in LCP the first request of the
engine's own behind it. -/
theorem replies_request {protocol : UInt16} {request : ControlPacket}
    (hprotocol : protocol = protocolLcp ∨ protocol = protocolIpcp)
    (hc : packet.asControl = some (protocol, request)) (hcode : request.code = codeConfigureRequest) :
    ∃ own, engine.replies packet =
        controlPacket protocol codeConfigureAck request.identifier request.options :: own ∧
      (own = [] ∨ own = [lcpRequest engine.nextIdentifier]) := by
  have hparse := (parse_of_asControl hc).2
  have hnew : ∀ replies, (engine.handleIncoming packet).2.outgoing = engine.outgoing ++ replies →
      engine.replies packet = replies := by
    intro replies h
    rw [(outgoing_replies engine packet).1] at h
    exact List.append_cancel_left h
  rcases hprotocol with rfl | rfl
  · by_cases hinit : engine.state = .initial
    · refine ⟨[lcpRequest engine.nextIdentifier], hnew _ ?_, .inr rfl⟩
      rw [handleIncoming_lcp hc, PppEngine.handleLcp, hparse]
      simp [hcode, hinit, PppEngine.queueControl, PppEngine.sendLcpConfigureRequest, nextIdentifier,
        lcpRequest]
    · refine ⟨[], hnew _ ?_, .inl rfl⟩
      rw [handleIncoming_lcp hc, PppEngine.handleLcp, hparse]
      simp [hcode, hinit, PppEngine.queueControl]
  · refine ⟨[], hnew _ ?_, .inl rfl⟩
    rw [handleIncoming_ipcp hc, PppEngine.handleIpcp, hparse]
    simp [hcode, PppEngine.queueControl]

/-- **Replies are well formed and acknowledgements exact.**  In whatever state, what a packet of a
tunnel frame makes the engine queue are control packets whose options go to the end of the data; and
a Configure-Request of LCP or IPCP is answered by one Configure-Ack, of its protocol and with its
identifier and options. -/
theorem replies_well_formed (engine : PppEngine) {packet : PppPacket}
    (hlen : packet.data.length ≤ 65529) :
    (engine.handleIncoming packet).2.outgoing = engine.outgoing ++ engine.replies packet ∧
    (∀ reply ∈ engine.replies packet, WellFormedControl reply) ∧
    ∀ protocol request, protocol = protocolLcp ∨ protocol = protocolIpcp →
      packet.asControl = some (protocol, request) → request.code = codeConfigureRequest →
      (engine.replies packet).filterMap asConfigureAck =
        [(protocol, ⟨codeConfigureAck, request.identifier, request.options⟩)] := by
  obtain ⟨hout, hqueued⟩ := outgoing_replies engine packet
  refine ⟨hout, hqueued.wellFormed hlen, ?_⟩
  intro protocol request hprotocol hc hcode
  obtain ⟨own, hreplies, hown⟩ := @replies_request engine packet protocol request hprotocol hc hcode
  have hoptions := options_length hc
  have hnone : own.filterMap asConfigureAck = [] := by
    rcases hown with rfl | rfl
    · rfl
    · simp [asConfigureAck_lcpRequest]
  rw [hreplies, List.filterMap_cons, asConfigureAck_ack (by unfold pppControlHeaderLen; omega), hnone]

/-- A Configure-Request with a byte of padding, before the engine has sent its own. -/
theorem replies_well_formed_padded :
    (PppEngine.new.replies ⟨[0xc0, 0x21, 1, 7, 0, 8, 1, 4, 0x05, 0x4a, 0]⟩).filterMap asConfigureAck =
      [(protocolLcp, ⟨codeConfigureAck, 7, [1, 4, 0x05, 0x4a]⟩)] :=
  (replies_well_formed PppEngine.new (by decide)).2.2 protocolLcp ⟨1, 7, [1, 4, 0x05, 0x4a]⟩ (.inl rfl)
    (by decide) rfl

/-! ### Replies that fit the transport -/

/-- `write_tls_packet`; `write` is what the connection makes of the bytes. -/
def writeTlsPacket (write : List UInt8 → Result Unit) (packet : PppPacket) : Result Unit := do
  write (← packet.encodeForTls)

/-- The loop of `flush_ppp_control`, with the packets it leaves in the queue. -/
def flushLoop (write : List UInt8 → Result Unit) : List PppPacket → Result Unit × List PppPacket
  | [] => (.ok (), [])
  | packet :: rest =>
    match writeTlsPacket write packet with
    | .ok () => flushLoop write rest
    | .error err => (.error err, rest)

def flushPppControl (write : List UInt8 → Result Unit) (engine : PppEngine) : Result Unit × PppEngine :=
  let (result, rest) := flushLoop write engine.outgoing
  (result, { engine with outgoing := rest })

/-- The replies to a packet can be encoded. -/
def RepliesFit (engine : PppEngine) (packet : PppPacket) : Prop :=
  ∀ reply ∈ engine.replies packet, ∃ bytes, reply.encodeForTls = .ok bytes

theorem encodeForTls_ok_iff {packet : PppPacket} :
    (∃ bytes, packet.encodeForTls = .ok bytes) ↔ packet.data.length ≤ 65529 := by
  constructor
  · rintro ⟨bytes, h⟩
    unfold PppPacket.encodeForTls headerLen at h
    split at h
    · cases h
    · omega
  · intro h
    exact ⟨_, PppPacket.encodeForTls_eq h⟩

/-- On a connection that takes everything, the queue is flushed if its packets can be encoded. -/
theorem flushLoop_ok_iff {write : List UInt8 → Result Unit} (hwrite : ∀ bytes, write bytes = .ok ())
    (packets : List PppPacket) : (flushLoop write packets).1 = .ok () ↔
      ∀ packet ∈ packets, ∃ bytes, packet.encodeForTls = .ok bytes := by
  induction packets with
  | nil => simp [flushLoop]
  | cons packet rest ih =>
    unfold flushLoop writeTlsPacket
    cases hencode : packet.encodeForTls with
    | error err =>
      simp only [List.forall_mem_cons, hencode]
      simp [bind, Except.bind]
    | ok bytes =>
      simp only [List.forall_mem_cons, hencode, bind, Except.bind, hwrite, ih]
      simp

theorem Queued.fit_iff {replies : List PppPacket} (h : Queued engine packet replies)
    (hs : Sendable packet) : (∀ reply ∈ replies, ∃ bytes, reply.encodeForTls = .ok bytes) ↔
      (CodeRejected engine packet → packet.data.length ≤ 65525) ∧
        (ProtocolRejected packet → packet.data.length ≤ 65523) := by
  have hfits := hs.fits
  simp only [encodeForTls_ok_iff]
  cases h with
  | short hshort hcode hprotocol =>
    refine iff_of_true ?_ ⟨fun h => absurd h hcode, fun h => absurd h hprotocol⟩
    intro reply hr
    obtain ⟨protocol, code, identifier, payload, rfl, hbound⟩ := hshort reply hr
    rw [controlPacket_length]
    omega
  | codeReject hcode hprotocol hlen =>
    simp only [List.mem_singleton, forall_eq, controlPacket_length, List.length_drop, hcode, hprotocol,
      true_implies, false_implies, and_true]
    omega
  | protocolReject hcode hprotocol =>
    simp only [List.mem_singleton, forall_eq, controlPacket_length, hcode, hprotocol, true_implies,
      false_implies, true_and]
    omega

/-- **When the replies to a packet fit the transport.**  Unless it is rejected: always.  A
Code-Reject fits if the packet it carries has at most 65525 bytes, a Protocol-Reject if it has at
most 65523; and flushing the replies fails exactly when one does not fit. -/
theorem replies_fit_iff (engine : PppEngine) {packet : PppPacket} (hs : Sendable packet) :
    (RepliesFit engine packet ↔
      (CodeRejected engine packet → packet.data.length ≤ 65525) ∧
        (ProtocolRejected packet → packet.data.length ≤ 65523)) ∧
    ∀ write : List UInt8 → Result Unit, (∀ bytes, write bytes = .ok ()) → engine.outgoing = [] →
      ((flushPppControl write (engine.handleIncoming packet).2).1 = .ok () ↔
        RepliesFit engine packet) := by
  obtain ⟨hout, hqueued⟩ := outgoing_replies engine packet
  refine ⟨hqueued.fit_iff hs, ?_⟩
  intro write hwrite hempty
  show (flushLoop write (engine.handleIncoming packet).2.outgoing).1 = .ok () ↔ _
  rw [hout, hempty]
  exact flushLoop_ok_iff hwrite _

/-- A short packet of a protocol the engine does not know. -/
theorem replies_fit_iff_unknown : RepliesFit .new ⟨[0x80, 0xfd, 1, 2]⟩ :=
  ((replies_fit_iff .new ⟨by decide, by decide⟩).1).mpr
    ⟨fun _ => by decide, fun _ => by decide⟩

/-- A packet of protocol 0x80fd that is as long as a frame can carry. -/
def longestUnknown : PppPacket := ⟨[0x80, 0xfd] ++ List.replicate 65527 0⟩

theorem longestUnknown_length : longestUnknown.data.length = 65529 := by
  unfold longestUnknown
  rw [List.length_append, List.length_replicate]
  rfl

theorem replies_not_always_fit : ¬ ∀ (calls : List Call) (packet : PppPacket), Sendable packet →
    RepliesFit (PppEngine.reached calls) packet := by
  intro h
  have hlen := longestUnknown_length
  have hs : Sendable longestUnknown := ⟨by omega, by omega⟩
  have hrejected : ProtocolRejected longestUnknown := by
    refine ⟨0x80fd, ?_, by decide⟩
    unfold pppProtocol
    rw [if_neg (by omega)]
    rfl
  have hbound := ((outgoing_replies _ longestUnknown).2.fit_iff hs).mp (h [] longestUnknown hs)
  have := hbound.2 hrejected
  omega

end OpenfortivpnRs.Tunnel
