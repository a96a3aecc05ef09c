import OpenfortivpnRs.Tunnel.PppRun

/-!
# What the negotiation keeps

Two invariants tie the fields of the engine to the history of the run: `Consistent` the state, the
addresses and the identifiers, `Negotiated` the identifiers and the requested address to the
requests that carry them.  Each is kept by every move.
-/

namespace OpenfortivpnRs.Tunnel

open Lib.Bytes Lib.History

/-! ### Histories grow at the end -/

section Append

variable (h : List Entry) (entry : Entry)

theorem requests_snoc (protocol : UInt16) : requests protocol (h ++ [entry]) =
    requests protocol h ++ entry.queued.filterMap (asRequest protocol) := by
  simp [requests]

theorem issued_snoc : issued (h ++ [entry]) =
    issued h ++ entry.queued.filterMap issuedIdentifier := by
  simp [issued]

theorem lastRequest_snoc (protocol : UInt16) : lastRequest protocol (h ++ [entry]) =
    (entry.queued.filterMap (asRequest protocol)).getLast?.or (lastRequest protocol h) := by
  rw [lastRequest, requests_snoc, List.getLast?_append, lastRequest]

theorem lastUp_snoc : lastUp (h ++ [entry]) =
    (entry.events.filterMap upAddress).getLast?.or (lastUp h) := by
  simp [lastUp]

end Append

/-! ### The state, the addresses and the identifiers -/

/-- **The invariant of the engine's fields.** -/
structure Consistent (h : List Entry) (e : PppEngine) : Prop where
  localIp : e.localIp = lastUp h
  localIp_ne : ∀ a, e.localIp = some a → a ≠ .unspecified
  opened : e.state = .opened → e.localIp.isSome
  between : e.state ≠ .lcpOpened
  ipcp : e.state = .ipcpRequestSent ∨ e.state = .opened → e.ipcpIdentifier.isSome
  lcp : e.ipcpIdentifier.isSome → e.lcpIdentifier.isSome
  initial : e.state = .initial → e.lcpIdentifier = none
  next : e.nextIdentifier ≠ 0
  issued : ∀ identifier ∈ issued h, identifier ≠ 0

theorem consistent_new : Consistent [] .new where
  localIp := rfl
  localIp_ne := by intro a h; cases h
  opened := by intro h; cases h
  between := by decide
  ipcp := by rintro (h | h) <;> cases h
  lcp := by intro h; cases h
  initial _ := rfl
  next := by decide
  issued := by intro identifier h; cases h

/-- The identifiers issued by an entry join those of the history. -/
theorem issued_ne_of_snoc {h : List Entry} {entry : Entry} (hh : ∀ identifier ∈ issued h, identifier ≠ 0)
    (hentry : ∀ identifier ∈ entry.queued.filterMap issuedIdentifier, identifier ≠ 0) :
    ∀ identifier ∈ issued (h ++ [entry]), identifier ≠ 0 := by
  intro identifier hi
  rw [issued_snoc, List.mem_append] at hi
  exact hi.elim (hh identifier) (hentry identifier)

/-- **Every move keeps the fields consistent.** -/
theorem Move.consistent {h : List Entry} {e e' : PppEngine} {entry : Entry} (hm : Move e entry e')
    (hc : Consistent h e) : Consistent (h ++ [entry]) e' := by
  have hlcp : e.lcpIdentifier.isSome → e.state ≠ .initial := by
    intro hid hs
    rw [hc.initial hs] at hid
    cases hid
  have hsame : ∀ {entry : Entry}, (∀ ev ∈ entry.events, upAddress ev = none) →
      e.localIp = lastUp (h ++ [entry]) := by
    intro entry hev
    rw [lastUp_snoc, List.filterMap_eq_nil_iff.mpr hev]
    exact hc.localIp
  cases hm with
  | answer hq hev =>
    refine { hc with localIp := hsame ?_, issued := issued_ne_of_snoc hc.issued ?_ }
    · intro ev hev'
      obtain ⟨data, rfl⟩ := hev ev hev'
      rfl
    · simp [filterMap_issued_answers hq]
  | rejectProtocol =>
    refine { hc with localIp := hsame (by simp), next := following_ne_zero e, issued := ?_ }
    exact issued_ne_of_snoc hc.issued
      (by simp [issuedIdentifier_controlPacket, hc.next])
  | openLcp hinit hq =>
    refine { hc with localIp := hsame (by simp), opened := ?_, between := ?_, ipcp := ?_, lcp := ?_,
                     initial := ?_, next := following_ne_zero e, issued := ?_ }
    · rintro ⟨⟩
    · rintro ⟨⟩
    · rintro (hs | hs) <;> cases hs
    · intro; rfl
    · rintro ⟨⟩
    · refine issued_ne_of_snoc hc.issued ?_
      simp [filterMap_issued_answers hq, lcpRequest, issuedIdentifier_controlPacket, hc.next]
  | retryLcp hid =>
    refine { hc with localIp := hsame (by simp), lcp := ?_, initial := ?_,
                     next := following_ne_zero e, issued := ?_ }
    · intro; rfl
    · intro hs; exact absurd hs (hlcp hid)
    · refine issued_ne_of_snoc hc.issued ?_
      simp [lcpRequest, issuedIdentifier_controlPacket, hc.next]
  | openIpcp _ _ hid _ =>
    have hsome : e.lcpIdentifier.isSome := by rw [← hid]; rfl
    refine { hc with localIp := hsame (by simp), opened := ?_, between := ?_, ipcp := ?_, lcp := ?_,
                     initial := ?_, next := following_ne_zero e, issued := ?_ }
    · rintro ⟨⟩
    · rintro ⟨⟩
    · intro; rfl
    · intro; exact hsome
    · rintro ⟨⟩
    · refine issued_ne_of_snoc hc.issued ?_
      simp [ipcpRequest, issuedIdentifier_controlPacket, hc.next]
  | retryIpcp ip hid =>
    refine { hc with localIp := hsame (by simp), ipcp := ?_, lcp := ?_,
                     next := following_ne_zero e, issued := ?_ }
    · intro; rfl
    · intro; exact hc.lcp hid
    · refine issued_ne_of_snoc hc.issued ?_
      simp [ipcpRequest, issuedIdentifier_controlPacket, hc.next]
  | peerRequest peerIp hq =>
    refine { hc with localIp := hsame (by simp), issued := issued_ne_of_snoc hc.issued ?_ }
    simp [filterMap_issued_answers hq]
  | up _ _ hid hip =>
    have hsome : e.ipcpIdentifier.isSome := by rw [← hid]; rfl
    refine { hc with localIp := ?_, localIp_ne := ?_, opened := ?_, between := ?_, ipcp := ?_,
                     initial := ?_, issued := issued_ne_of_snoc hc.issued ?_ }
    · simp [lastUp_snoc, upAddress]
    · intro a ha
      cases ha
      exact hip
    · intro; rfl
    · rintro ⟨⟩
    · intro; exact hsome
    · rintro ⟨⟩
    · simp
  | terminate hq =>
    refine { hc with localIp := hsame (by simp [upAddress]), opened := ?_, between := ?_, ipcp := ?_,
                     initial := ?_, issued := issued_ne_of_snoc hc.issued ?_ }
    · rintro ⟨⟩
    · rintro ⟨⟩
    · rintro (hs | hs) <;> cases hs
    · rintro ⟨⟩
    · simp [filterMap_issued_answers hq]

theorem consistent_reached (calls : List Call) :
    Consistent (PppEngine.historyOf calls) (PppEngine.reached calls) :=
  history_invariant consistent_new (fun c hc => (call_move _ c).consistent hc) calls

/-- **The invariant of the PPP engine.**  After any calls on a new engine: an open link has a local
address, which is not `0.0.0.0`; the local address is that of the last `Up` event; `LcpOpened` is
never seen between calls; `IpcpRequestSent` and `Opened` have both requests outstanding, an IPCP
request comes after an LCP request and `Initial` has none; and no identifier is zero. -/
theorem engine_invariant (calls : List Call) :
    let engine := PppEngine.reached calls
    let h := PppEngine.historyOf calls
    (engine.isOpen → ∃ a, engine.localIp = some a ∧ a ≠ .unspecified) ∧
    (∀ a, engine.localIp = some a → lastUp h = some a) ∧
    engine.state ≠ .lcpOpened ∧
    (engine.state = .ipcpRequestSent ∨ engine.state = .opened →
      engine.lcpIdentifier.isSome ∧ engine.ipcpIdentifier.isSome) ∧
    (engine.ipcpIdentifier.isSome → engine.lcpIdentifier.isSome) ∧
    (engine.state = .initial → engine.lcpIdentifier = none ∧ engine.ipcpIdentifier = none) ∧
    engine.nextIdentifier ≠ 0 ∧ ∀ identifier ∈ issued h, identifier ≠ 0 := by
  intro engine h
  have hc : Consistent h engine := consistent_reached calls
  refine ⟨?_, ?_, hc.between, ?_, hc.lcp, ?_, hc.next, hc.issued⟩
  · intro hopen
    obtain ⟨a, ha⟩ := Option.isSome_iff_exists.mp (hc.opened (of_decide_eq_true hopen))
    exact ⟨a, ha, hc.localIp_ne a ha⟩
  · intro a ha
    rw [← hc.localIp, ha]
  · intro hs
    exact ⟨hc.lcp (hc.ipcp hs), hc.ipcp hs⟩
  · intro hs
    refine ⟨hc.initial hs, ?_⟩
    by_contra hne
    have hl := hc.lcp (Option.isSome_iff_ne_none.mpr hne)
    rw [hc.initial hs] at hl
    cases hl

/-! ### The requests and their answers -/

/-- Up to the start of IPCP: an LCP Configure-Ack for the LCP request that was then the last one was
handled, and that call queued the first IPCP request. -/
def LcpAcknowledged (h : List Entry) : Prop :=
  ∃ before entry rest packet ack request, h = before ++ entry :: rest ∧
    entry.call = .handleIncoming packet ∧ packet.asControl = some (protocolLcp, ack) ∧
    ack.code = codeConfigureAck ∧ lastRequest protocolLcp before = some request ∧
    ack.identifier = request.identifier ∧ requests protocolIpcp before = [] ∧
    requests protocolIpcp [entry] ≠ []

theorem LcpAcknowledged.snoc {h : List Entry} (entry : Entry) (ha : LcpAcknowledged h) :
    LcpAcknowledged (h ++ [entry]) := by
  obtain ⟨before, acked, rest, packet, ack, request, rfl, hrest⟩ := ha
  exact ⟨before, acked, rest ++ [entry], packet, ack, request, by simp, hrest⟩

/-- **The invariant of the outstanding requests.** -/
structure Negotiated (h : List Entry) (e : PppEngine) : Prop where
  lcp : e.lcpIdentifier = (lastRequest protocolLcp h).map ControlPacket.identifier
  ipcp : e.ipcpIdentifier = (lastRequest protocolIpcp h).map ControlPacket.identifier
  address : ∀ request, lastRequest protocolIpcp h = some request →
    parseIpcpIpAddress request.options = some e.requestedIp
  acknowledged : requests protocolIpcp h ≠ [] → LcpAcknowledged h

theorem negotiated_new : Negotiated [] .new where
  lcp := rfl
  ipcp := rfl
  address := by rintro request ⟨⟩
  acknowledged := by intro h; exact absurd rfl h

theorem lastRequest_ne_nil {protocol : UInt16} {h : List Entry} {request : ControlPacket}
    (hr : lastRequest protocol h = some request) : requests protocol h ≠ [] := by
  intro hnil
  rw [lastRequest, hnil] at hr
  cases hr

/-- A move that sends no request keeps the outstanding ones. -/
theorem Negotiated.silent {h : List Entry} {e e' : PppEngine} {entry : Entry} (hn : Negotiated h e)
    (hl : entry.queued.filterMap (asRequest protocolLcp) = [])
    (hi : entry.queued.filterMap (asRequest protocolIpcp) = [])
    (h1 : e'.lcpIdentifier = e.lcpIdentifier) (h2 : e'.ipcpIdentifier = e.ipcpIdentifier)
    (h3 : e'.requestedIp = e.requestedIp) : Negotiated (h ++ [entry]) e' where
  lcp := by rw [lastRequest_snoc, hl, h1, hn.lcp]; rfl
  ipcp := by rw [lastRequest_snoc, hi, h2, hn.ipcp]; rfl
  address := by rw [lastRequest_snoc, hi, h3]; exact hn.address
  acknowledged := by
    rw [requests_snoc, hi, List.append_nil]
    intro hne
    exact (hn.acknowledged hne).snoc entry

/-- A move that sends an LCP request makes it the outstanding one. -/
theorem Negotiated.sendLcp {h : List Entry} {e e' : PppEngine} {entry : Entry} (hn : Negotiated h e)
    {answers : List PppPacket} {identifier : UInt8} (hq : ∀ p ∈ answers, Answer p)
    (hqueued : entry.queued = answers ++ [lcpRequest identifier])
    (h1 : e'.lcpIdentifier = some identifier) (h2 : e'.ipcpIdentifier = e.ipcpIdentifier)
    (h3 : e'.requestedIp = e.requestedIp) : Negotiated (h ++ [entry]) e' := by
  have hl : entry.queued.filterMap (asRequest protocolLcp) =
      [⟨codeConfigureRequest, identifier, [lcpOptionMru, 4] ++ toBeBytes lcpDefaultMru⟩] := by
    rw [hqueued, List.filterMap_append, filterMap_asRequest_answers hq]
    simp [asRequest_lcpRequest]
  have hi : entry.queued.filterMap (asRequest protocolIpcp) = [] := by
    have hother : asRequest protocolIpcp (lcpRequest identifier) = none :=
      asRequest_of_ne (.inl (by decide))
    rw [hqueued, List.filterMap_append, filterMap_asRequest_answers hq]
    simp [hother]
  refine { lcp := ?_, ipcp := ?_, address := ?_, acknowledged := ?_ }
  · rw [lastRequest_snoc, hl, h1]; rfl
  · rw [lastRequest_snoc, hi, h2, hn.ipcp]; rfl
  · rw [lastRequest_snoc, hi, h3]; exact hn.address
  · rw [requests_snoc, hi, List.append_nil]
    intro hne
    exact (hn.acknowledged hne).snoc entry

/-- A move that sends an IPCP request makes it the outstanding one. -/
theorem Negotiated.sendIpcp {h : List Entry} {e e' : PppEngine} {entry : Entry} (hn : Negotiated h e)
    {identifier : UInt8} {ip : Ipv4Addr} (hqueued : entry.queued = [ipcpRequest identifier ip])
    (h1 : e'.lcpIdentifier = e.lcpIdentifier) (h2 : e'.ipcpIdentifier = some identifier)
    (h3 : e'.requestedIp = ip) (hack : LcpAcknowledged (h ++ [entry])) :
    Negotiated (h ++ [entry]) e' := by
  have hl : entry.queued.filterMap (asRequest protocolLcp) = [] := by
    have hother : asRequest protocolLcp (ipcpRequest identifier ip) = none :=
      asRequest_of_ne (.inl (by decide))
    rw [hqueued]
    simp [hother]
  have hi : entry.queued.filterMap (asRequest protocolIpcp) =
      [⟨codeConfigureRequest, identifier, [ipcpOptionIpAddress, 6] ++ ip.octets⟩] := by
    rw [hqueued]
    simp [asRequest_ipcpRequest]
  refine { lcp := ?_, ipcp := ?_, address := ?_, acknowledged := ?_ }
  · rw [lastRequest_snoc, hl, h1, hn.lcp]; rfl
  · rw [lastRequest_snoc, hi, h2]; rfl
  · rw [lastRequest_snoc, hi, h3]
    rintro request ⟨⟩
    exact parseIpcpIpAddress_request ip
  · intro; exact hack

/-- An IPCP identifier is outstanding only behind an acknowledged LCP request. -/
theorem Negotiated.acknowledged_of_isSome {h : List Entry} {e : PppEngine} (hn : Negotiated h e)
    (hid : e.ipcpIdentifier.isSome) : LcpAcknowledged h := by
  refine hn.acknowledged ?_
  rw [hn.ipcp, Option.isSome_map] at hid
  obtain ⟨request, hr⟩ := Option.isSome_iff_exists.mp hid
  exact lastRequest_ne_nil hr

/-- **Every move keeps track of the outstanding requests.** -/
theorem Move.negotiated {h : List Entry} {e e' : PppEngine} {entry : Entry} (hm : Move e entry e')
    (hn : Negotiated h e) : Negotiated (h ++ [entry]) e' := by
  cases hm with
  | answer hq _ =>
    exact hn.silent (filterMap_asRequest_answers hq _) (filterMap_asRequest_answers hq _) rfl rfl rfl
  | rejectProtocol =>
    have hcode : codeProtocolReject ≠ codeConfigureRequest := by decide
    refine hn.silent ?_ ?_ rfl rfl rfl <;> simp [asRequest_of_ne (.inr hcode)]
  | openLcp _ hq => exact hn.sendLcp hq rfl rfl rfl rfl
  | retryLcp _ => exact @Negotiated.sendLcp _ _ _ _ hn [] _ (by simp) rfl rfl rfl rfl
  | @openIpcp packet control out hc hcode hid _ =>
    refine hn.sendIpcp rfl rfl rfl rfl ?_
    by_cases hfirst : requests protocolIpcp h = []
    · obtain ⟨request, hr, heq⟩ := Option.map_eq_some_iff.mp (hid.trans hn.lcp).symm
      refine ⟨h, _, [], packet, control, request, rfl, rfl, hc, hcode, hr, heq.symm, hfirst, ?_⟩
      simp [requests, asRequest_ipcpRequest]
    · exact (hn.acknowledged hfirst).snoc _
  | retryIpcp ip hid => exact hn.sendIpcp rfl rfl rfl rfl ((hn.acknowledged_of_isSome hid).snoc _)
  | peerRequest _ hq =>
    exact hn.silent (filterMap_asRequest_answers hq _) (filterMap_asRequest_answers hq _) rfl rfl rfl
  | up _ _ _ _ => exact hn.silent rfl rfl rfl rfl rfl
  | terminate hq =>
    exact hn.silent (filterMap_asRequest_answers hq _) (filterMap_asRequest_answers hq _) rfl rfl rfl

theorem negotiated_reached (calls : List Call) :
    Negotiated (PppEngine.historyOf calls) (PppEngine.reached calls) :=
  history_invariant negotiated_new (fun c hn => (call_move _ c).negotiated hn) calls

/-- A call that announces an address handles the answer to the outstanding IPCP request. -/
theorem Move.up_inv {e e' : PppEngine} {entry : Entry} (hm : Move e entry e') {localIp : Ipv4Addr}
    {peerIp : Option Ipv4Addr} {dnsServers : List Ipv4Addr}
    (hup : .up localIp peerIp dnsServers ∈ entry.events) :
    ∃ packet control, entry.call = .handleIncoming packet ∧
      packet.asControl = some (protocolIpcp, control) ∧ control.code = codeConfigureAck ∧
      some control.identifier = e.ipcpIdentifier ∧ localIp ≠ .unspecified ∧
      localIp = (parseIpcpIpAddress control.options).getD e.requestedIp := by
  cases hm with
  | answer _ hev =>
    obtain ⟨data, hd⟩ := hev _ hup
    cases hd
  | up hc hcode hid hip =>
    simp only [List.mem_singleton, PppEvent.up.injEq] at hup
    obtain ⟨rfl, -, -⟩ := hup
    exact ⟨_, _, rfl, hc, hcode, hid, hip, rfl⟩
  | terminate _ => simp at hup
  | _ => simp at hup

/-- **The order of the negotiation.**  Wherever a run emits `Up`, an LCP request was queued before
and the Configure-Ack for the last one then queued was handled, which queued the first IPCP request;
the packet handled now is the Configure-Ack for the last IPCP request; and the address, not zero, is
that of the option of the Ack or, if it has none, that of the last IPCP request. -/
theorem up_after_negotiation {calls : List Call} {before rest : List Entry} {entry : Entry}
    {localIp : Ipv4Addr} {peerIp : Option Ipv4Addr} {dnsServers : List Ipv4Addr}
    (hrun : PppEngine.historyOf calls = before ++ entry :: rest)
    (hup : .up localIp peerIp dnsServers ∈ entry.events) :
    LcpAcknowledged before ∧
    ∃ packet ack request requested, entry.call = .handleIncoming packet ∧
      packet.asControl = some (protocolIpcp, ack) ∧ ack.code = codeConfigureAck ∧
      lastRequest protocolIpcp before = some request ∧ ack.identifier = request.identifier ∧
      parseIpcpIpAddress request.options = some requested ∧ localIp ≠ .unspecified ∧
      localIp = (parseIpcpIpAddress ack.options).getD requested := by
  obtain ⟨front, c, back, -, rfl, rfl⟩ := PppEngine.historyOf_split hrun
  have hn : Negotiated _ (PppEngine.reached front) := negotiated_reached front
  obtain ⟨packet, ack, hcall, hc, hcode, hid, hne, hip⟩ := (call_move _ c).up_inv hup
  have hsome : (PppEngine.reached front).ipcpIdentifier.isSome := by rw [← hid]; rfl
  obtain ⟨request, hr, heq⟩ := Option.map_eq_some_iff.mp (hid.trans hn.ipcp).symm
  exact ⟨hn.acknowledged_of_isSome hsome, packet, ack, request, _, hcall, hc, hcode, hr, heq.symm,
    hn.address request hr, hne, hip⟩

/-- A negotiation in which the gateway suggests the address `10.0.0.42` and then acknowledges it. -/
def suggestedCalls : List Call :=
  [.start,
   .handleIncoming (controlPacket protocolLcp codeConfigureAck 1 [lcpOptionMru, 4, 0x05, 0x4a]),
   .handleIncoming (controlPacket protocolIpcp codeConfigureNak 2 [ipcpOptionIpAddress, 6, 10, 0, 0, 42])]

theorem up_after_negotiation_suggested :
    (⟨.handleIncoming (controlPacket protocolIpcp codeConfigureAck 3 []), [],
        [.up ⟨10, 0, 0, 42⟩ none []]⟩ : Entry) ∈
      PppEngine.historyOf (suggestedCalls ++
        [.handleIncoming (controlPacket protocolIpcp codeConfigureAck 3 [])]) ∧
    LcpAcknowledged (PppEngine.historyOf suggestedCalls) := by
  have hrun : PppEngine.historyOf (suggestedCalls ++
      [.handleIncoming (controlPacket protocolIpcp codeConfigureAck 3 [])]) =
      PppEngine.historyOf suggestedCalls ++ ⟨.handleIncoming (controlPacket protocolIpcp codeConfigureAck 3 []),
        [], [.up ⟨10, 0, 0, 42⟩ none []]⟩ :: [] := by decide +kernel
  exact ⟨by rw [hrun]; simp, (up_after_negotiation hrun (List.mem_singleton_self _)).1⟩

end OpenfortivpnRs.Tunnel
