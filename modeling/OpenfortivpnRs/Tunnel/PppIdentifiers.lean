import OpenfortivpnRs.Tunnel.PppClosed
import OpenfortivpnRs.Tunnel.PppNegotiation

/-!
# The identifiers of the PPP engine

One counter of 8 bits, which skips zero, numbers the Configure-Requests of both protocols and the
Protocol-Rejects.  So the identifiers issued in a run are `1, …, 255, 1, …` (`issued_eq`), and two
requests carry the same one when a multiple of 255 was issued in between.
-/

namespace OpenfortivpnRs.Tunnel

open Lib.History

/-- The packets queued in a history, oldest first. -/
def queuedOf (h : List Entry) : List PppPacket := h.flatMap Entry.queued

theorem issued_eq_filterMap (h : List Entry) : issued h = (queuedOf h).filterMap issuedIdentifier := by
  simp [issued, queuedOf, List.filterMap_flatMap]

theorem requests_eq_filterMap (protocol : UInt16) (h : List Entry) :
    requests protocol h = (queuedOf h).filterMap (asRequest protocol) := by
  simp [requests, queuedOf, List.filterMap_flatMap]

/-! ### The counter -/

/-- The identifier issued after `k` others. -/
def nthIdentifier (k : ℕ) : UInt8 := UInt8.ofNat (k % 255 + 1)

theorem toNat_nthIdentifier (k : ℕ) : (nthIdentifier k).toNat = k % 255 + 1 := by
  unfold nthIdentifier
  rw [UInt8.toNat_ofNat', Nat.mod_eq_of_lt (by omega)]

theorem nthIdentifier_eq_iff (j k : ℕ) : nthIdentifier j = nthIdentifier k ↔ j % 255 = k % 255 := by
  rw [← UInt8.toNat_inj, toNat_nthIdentifier, toNat_nthIdentifier]
  omega

/-- `next_identifier` counts on. -/
theorem following_nthIdentifier {engine : PppEngine} {k : ℕ} (h : engine.nextIdentifier = nthIdentifier k) :
    engine.following = nthIdentifier (k + 1) := by
  have hnext : (nthIdentifier k + 1).toNat = (k % 255 + 2) % 256 := by
    rw [UInt8.toNat_add, toNat_nthIdentifier]
    rfl
  unfold PppEngine.following nextIdentifier
  simp only [h]
  apply UInt8.toNat_inj.mp
  rw [toNat_nthIdentifier]
  split_ifs with hzero
  · rw [hzero] at hnext
    have h0 : (0 : UInt8).toNat = 0 := rfl
    have h1 : (1 : UInt8).toNat = 1 := rfl
    omega
  · have hpos : (nthIdentifier k + 1).toNat ≠ 0 := fun h0 => hzero (UInt8.toNat_inj.mp h0)
    omega

/-- A move issues one identifier, the next one, or none. -/
theorem Move.issues {e e' : PppEngine} {entry : Entry} (hm : Move e entry e') :
    (entry.queued.filterMap issuedIdentifier = [] ∧ e'.nextIdentifier = e.nextIdentifier) ∨
      (entry.queued.filterMap issuedIdentifier = [e.nextIdentifier] ∧ e'.nextIdentifier = e.following) := by
  cases hm with
  | answer hq _ => exact .inl ⟨filterMap_issued_answers hq, rfl⟩
  | rejectProtocol => exact .inr ⟨rfl, rfl⟩
  | openLcp _ hq =>
    refine .inr ⟨?_, rfl⟩
    rw [List.filterMap_append, filterMap_issued_answers hq]
    rfl
  | retryLcp _ => exact .inr ⟨rfl, rfl⟩
  | openIpcp _ _ _ _ => exact .inr ⟨rfl, rfl⟩
  | retryIpcp _ _ => exact .inr ⟨rfl, rfl⟩
  | peerRequest _ hq => exact .inl ⟨filterMap_issued_answers hq, rfl⟩
  | up _ _ _ _ => exact .inl ⟨rfl, rfl⟩
  | terminate hq => exact .inl ⟨filterMap_issued_answers hq, rfl⟩

/-- **The invariant of the counter.** -/
structure Counting (h : List Entry) (e : PppEngine) : Prop where
  next : e.nextIdentifier = nthIdentifier (issued h).length
  issued : issued h = (List.range (issued h).length).map nthIdentifier

theorem Move.counting {h : List Entry} {e e' : PppEngine} {entry : Entry} (hm : Move e entry e')
    (hc : Counting h e) : Counting (h ++ [entry]) e' := by
  rcases hm.issues with ⟨hnone, hnext⟩ | ⟨hone, hnext⟩
  · constructor
    · rw [issued_snoc, hnone, List.append_nil, hnext, hc.next]
    · rw [issued_snoc, hnone, List.append_nil]
      exact hc.issued
  · constructor
    · rw [issued_snoc, hone, hnext, List.length_append, List.length_singleton]
      exact following_nthIdentifier hc.next
    · rw [issued_snoc, hone, List.length_append, List.length_singleton, List.range_succ,
        List.map_append, ← hc.issued, hc.next]
      rfl

theorem counting_reached (calls : List Call) :
    Counting (PppEngine.historyOf calls) (PppEngine.reached calls) :=
  history_invariant ⟨rfl, rfl⟩ (fun c hc => (call_move _ c).counting hc) calls

/-- **The identifiers of a run**, in order. -/
theorem issued_eq (calls : List Call) : issued (PppEngine.historyOf calls) =
    (List.range (issued (PppEngine.historyOf calls)).length).map nthIdentifier :=
  (counting_reached calls).issued

/-! ### Two requests -/

/-- A Configure-Request carries an identifier that was issued for it. -/
theorem issuedIdentifier_of_asRequest {protocol : UInt16} {packet : PppPacket} {request : ControlPacket}
    (h : asRequest protocol packet = some request) :
    issuedIdentifier packet = some request.identifier := by
  unfold asRequest at h
  split at h
  · rename_i q control hc
    split_ifs at h with hcond
    cases h
    have hparse := (parse_of_asControl hc).2
    unfold parseControlPacket at hparse
    split at hparse
    · cases hparse
    · simp only at hparse
      split at hparse
      · cases hparse
      · cases hparse
        have hcode : packet.data.getD 2 0 = codeConfigureRequest := by
          have := hcond.2
          simpa using this
        unfold issuedIdentifier
        rw [if_pos (.inl hcode)]
        simp
  · cases h

/-- An identifier of a run is the one its place among them gives it. -/
theorem identifier_of_issued {calls : List Call} {before rest : List UInt8} {identifier : UInt8}
    (h : issued (PppEngine.historyOf calls) = before ++ identifier :: rest) :
    identifier = nthIdentifier before.length := by
  have hget : (issued (PppEngine.historyOf calls))[before.length]? = some identifier := by
    rw [h, List.getElem?_append_right le_rfl, Nat.sub_self]
    rfl
  rw [issued_eq, List.getElem?_map] at hget
  obtain ⟨k, hk, rfl⟩ := Option.map_eq_some_iff.mp hget
  rw [List.getElem?_range (by rw [h]; simp)] at hk
  rw [Option.some.inj hk]

/-- The identifiers of two packets of a run agree exactly when a multiple of 255 was issued from the
first up to the second. -/
theorem issued_identifiers_eq_iff {calls : List Call} {l m r : List PppPacket} {p q : PppPacket}
    {a b : UInt8} (h : queuedOf (PppEngine.historyOf calls) = l ++ p :: m ++ q :: r)
    (ha : issuedIdentifier p = some a) (hb : issuedIdentifier q = some b) :
    a = b ↔ 255 ∣ ((p :: m).filterMap issuedIdentifier).length := by
  have hissued : issued (PppEngine.historyOf calls) = l.filterMap issuedIdentifier ++
      (p :: m).filterMap issuedIdentifier ++ b :: r.filterMap issuedIdentifier := by
    rw [issued_eq_filterMap, h, List.filterMap_append, List.filterMap_append,
      List.filterMap_cons_some hb]
  have hbeq := identifier_of_issued hissued
  rw [List.filterMap_cons, ha, List.append_assoc] at hissued
  have haeq := identifier_of_issued hissued
  rw [haeq, hbeq, nthIdentifier_eq_iff, List.length_append]
  omega

/-- The identifier of the outstanding Configure-Request of LCP or IPCP. -/
def PppEngine.outstanding (engine : PppEngine) (protocol : UInt16) : Option UInt8 :=
  if protocol = protocolLcp then engine.lcpIdentifier else engine.ipcpIdentifier

theorem outstanding_eq {protocol : UInt16} (hprotocol : protocol = protocolLcp ∨ protocol = protocolIpcp)
    (calls : List Call) : (PppEngine.reached calls).outstanding protocol =
      (lastRequest protocol (PppEngine.historyOf calls)).map ControlPacket.identifier := by
  have hn := negotiated_reached calls
  rcases hprotocol with rfl | rfl
  · exact hn.lcp
  · exact hn.ipcp

/-- **When two requests carry the same identifier.**  Two Configure-Requests of one protocol, in
particular two consecutive ones, carry the same identifier exactly when the number of identifiers
issued from the first up to the second is a multiple of 255; and while the second is outstanding, a
reply to the first matches it exactly then. -/
theorem same_identifier_iff {calls : List Call} {protocol : UInt16} {l m r : List PppPacket}
    {p q : PppPacket} {first second : ControlPacket}
    (hprotocol : protocol = protocolLcp ∨ protocol = protocolIpcp)
    (h : queuedOf (PppEngine.historyOf calls) = l ++ p :: m ++ q :: r)
    (hp : asRequest protocol p = some first) (hq : asRequest protocol q = some second) :
    (first.identifier = second.identifier ↔
      255 ∣ ((p :: m).filterMap issuedIdentifier).length) ∧
    ((∀ x ∈ r, asRequest protocol x = none) →
      ((PppEngine.reached calls).outstanding protocol = some first.identifier ↔
        255 ∣ ((p :: m).filterMap issuedIdentifier).length)) := by
  have heq := issued_identifiers_eq_iff h (issuedIdentifier_of_asRequest hp)
    (issuedIdentifier_of_asRequest hq)
  refine ⟨heq, ?_⟩
  intro hr
  have hlast : lastRequest protocol (PppEngine.historyOf calls) = some second := by
    rw [lastRequest, requests_eq_filterMap, h, List.filterMap_append, List.filterMap_cons_some hq,
      List.filterMap_eq_nil_iff.mpr hr, List.getLast?_append]
    rfl
  rw [outstanding_eq hprotocol, hlast, Option.map_some, Option.some.injEq, ← heq]
  exact eq_comm

/-- The second LCP request follows the first with no identifier in between. -/
theorem same_identifier_iff_next : (1 : UInt8) = 2 ↔
    255 ∣ ([lcpRequest 1].filterMap issuedIdentifier).length := by
  have hrun : queuedOf (PppEngine.historyOf
      [.start, .handleIncoming (controlPacket protocolLcp codeConfigureNak 1 [])]) =
        [] ++ lcpRequest 1 :: [] ++ lcpRequest 2 :: [] := by decide +kernel
  exact (same_identifier_iff (.inl rfl) hrun (asRequest_lcpRequest 1) (asRequest_lcpRequest 2)).1

/-! ### A run around the counter -/

/-- A packet of a protocol the engine rejects arrives. -/
def rejected : Call := .handleIncoming ⟨[0x80, 0xfd]⟩

def rejectionOf (identifier : UInt8) : PppPacket :=
  controlPacket protocolLcp codeProtocolReject identifier [0x80, 0xfd]

theorem call_rejected (e : PppEngine) : e.call rejected =
    (⟨rejected, [rejectionOf e.nextIdentifier], []⟩, e.queueProtocolReject 0x80fd []) := by
  have hqueued : e.newlyQueued (e.queueProtocolReject 0x80fd []) = [rejectionOf e.nextIdentifier] :=
    List.drop_left
  rw [← hqueued]
  rfl

/-- Rejections take one identifier each, and the request before them stays outstanding. -/
theorem queuedOf_rejections (n : ℕ) : ∀ {e : PppEngine} {k : ℕ}, e.nextIdentifier = nthIdentifier k →
    queuedOf (history PppEngine.call e (List.replicate n rejected)) =
      (List.range n).map (fun j => rejectionOf (nthIdentifier (k + j))) ∧
    (after PppEngine.call e (List.replicate n rejected)).lcpIdentifier = e.lcpIdentifier ∧
    (after PppEngine.call e (List.replicate n rejected)).nextIdentifier = nthIdentifier (k + n) := by
  induction n with
  | zero => exact fun hnext => ⟨rfl, rfl, hnext⟩
  | succ n ih =>
    intro e k hnext
    have hnext' : (e.queueProtocolReject 0x80fd []).nextIdentifier = nthIdentifier (k + 1) :=
      following_nthIdentifier hnext
    obtain ⟨hqueued, hlcp, hlast⟩ := ih hnext'
    have hk : ∀ j, k + 1 + j = k + (j + 1) := fun j => by omega
    simp only [hk] at hqueued hlast
    simp only [List.replicate_succ, history, after, call_rejected]
    refine ⟨?_, hlcp, hlast⟩
    rw [List.range_succ_eq_map, List.map_cons, List.map_map, hnext]
    exact congrArg (_ :: ·) hqueued

/-- A Configure-Nak for the outstanding request is answered with the next identifier. -/
theorem call_nak {e : PppEngine} {identifier : UInt8} (h : e.lcpIdentifier = some identifier) :
    (e.call (.handleIncoming (controlPacket protocolLcp codeConfigureNak identifier []))).1.queued =
      [lcpRequest e.nextIdentifier] := by
  have hc : (controlPacket protocolLcp codeConfigureNak identifier []).asControl =
      some (protocolLcp, ⟨codeConfigureNak, identifier, []⟩) := asControl_controlPacket (by decide)
  have hparse := (parse_of_asControl hc).2
  have hhandle : (e.handleIncoming (controlPacket protocolLcp codeConfigureNak identifier [])) =
      (.ok [], e.sendLcpConfigureRequest) := by
    rw [handleIncoming_lcp hc]
    unfold PppEngine.handleLcp
    rw [hparse, h]
    simp [codeConfigureRequest, codeConfigureAck, codeConfigureNak]
  simp only [PppEngine.call, hhandle]
  exact List.drop_left

/-- The gateway sends 254 packets of a protocol the engine rejects and then a Configure-Nak for the
first request. -/
def callsAround : List Call :=
  .start :: List.replicate 254 (.handleIncoming ⟨[0x80, 0xfd]⟩) ++
    [.handleIncoming (controlPacket protocolLcp codeConfigureNak 1 [])]

theorem identifiers_wrap : ¬ ∀ (calls : List Call) (protocol : UInt16) (l m r : List PppPacket)
    (p q : PppPacket) (first second : ControlPacket),
    protocol = protocolLcp ∨ protocol = protocolIpcp →
    queuedOf (PppEngine.historyOf calls) = l ++ p :: m ++ q :: r →
    asRequest protocol p = some first → asRequest protocol q = some second →
    (∀ x ∈ m, asRequest protocol x = none) → first.identifier ≠ second.identifier := by
  intro h
  obtain ⟨hqueued, hlcp, hnext⟩ := @queuedOf_rejections 254 PppEngine.new.start 1 rfl
  have hnak := @call_nak _ 1 hlcp
  rw [hnext, show nthIdentifier (1 + 254) = 1 by decide] at hnak
  have hstart : queuedOf (history PppEngine.call .new [.start]) = [lcpRequest 1] := by decide +kernel
  have hrun : queuedOf (PppEngine.historyOf callsAround) = [] ++ lcpRequest 1 ::
      (List.range 254).map (fun j => rejectionOf (nthIdentifier (1 + j))) ++ lcpRequest 1 :: [] := by
    have hsplit : callsAround = [.start] ++ (List.replicate 254 rejected ++
      [.handleIncoming (controlPacket protocolLcp codeConfigureNak 1 [])]) := rfl
    have hfirst : after PppEngine.call .new [.start] = PppEngine.new.start := rfl
    unfold queuedOf at hqueued hstart
    unfold PppEngine.historyOf queuedOf
    rw [hsplit, history_append, history_append, List.flatMap_append, List.flatMap_append, hfirst, hstart,
      hqueued]
    simp only [history, List.flatMap_cons, List.flatMap_nil, hnak]
    rfl
  refine h callsAround protocolLcp _ _ _ _ _ _ _ (.inl rfl) hrun (asRequest_lcpRequest 1)
    (asRequest_lcpRequest 1) ?_ rfl
  intro x hx
  obtain ⟨j, -, rfl⟩ := List.mem_map.mp hx
  exact asRequest_of_ne (.inr (by decide))

end OpenfortivpnRs.Tunnel
