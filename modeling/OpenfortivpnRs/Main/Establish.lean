import OpenfortivpnRs.Main.Attempt
import OpenfortivpnRs.Tunnel.PppIdentifiers
import OpenfortivpnRs.Tunnel.PppNegotiation

/-!
# A PPP link of its own (`establish_ppp` of `proxy/mod.rs`)

A proxy runs the PPP engine on the packets of the tunnel until the engine says that it is up.  The engine
and the tunnel stay in step: what the engine has queued for the packets received so far is what was sent,
in order (`ppp_established`).
-/

namespace OpenfortivpnRs.Main

open Lib Lib.History Tunnel

def receivedPacket : Deed → Option PppPacket
  | .receive (.ok packet) => some packet
  | _ => none

def sentPacket : Deed → Option PppPacket
  | .send packet (.ok ()) => some packet
  | _ => none

/-- What the engine is called for when these packets are received: all that it queues is fetched each
time. -/
def callsOn (packets : List PppPacket) : List Call :=
  [.start, .drainOutgoing] ++ packets.flatMap fun packet => [.handleIncoming packet, .drainOutgoing]

/-- The engine behind these packets. -/
def engineOn (packets : List PppPacket) : PppEngine := .reached (callsOn packets)

/-- What the engine has queued for these packets. -/
def queuedOn (packets : List PppPacket) : List PppPacket := queuedOf (PppEngine.historyOf (callsOn packets))

theorem callsOn_snoc (packets : List PppPacket) (packet : PppPacket) :
    callsOn (packets ++ [packet]) = callsOn packets ++ [.handleIncoming packet, .drainOutgoing] := by
  unfold callsOn
  rw [List.flatMap_append, List.flatMap_singleton, List.append_assoc]

theorem engineOn_snoc (packets : List PppPacket) (packet : PppPacket) :
    engineOn (packets ++ [packet]) = { ((engineOn packets).handleIncoming packet).2 with outgoing := [] } := by
  unfold engineOn PppEngine.reached
  rw [callsOn_snoc, after_append]
  rfl

theorem outgoing_engineOn (packets : List PppPacket) : (engineOn packets).outgoing = [] := by
  rcases List.eq_nil_or_concat packets with rfl | ⟨front, packet, rfl⟩
  · rfl
  · rw [List.concat_eq_append, engineOn_snoc]

/-- What is queued for the next packet stands alone in the queue. -/
theorem queuedOn_snoc (packets : List PppPacket) (packet : PppPacket) :
    queuedOn (packets ++ [packet]) =
      queuedOn packets ++ ((engineOn packets).handleIncoming packet).2.outgoing := by
  have hqueued : ((engineOn packets).call (.handleIncoming packet)).1.queued =
      ((engineOn packets).handleIncoming packet).2.outgoing := by
    show PppEngine.newlyQueued _ _ = _
    unfold PppEngine.newlyQueued
    rw [outgoing_engineOn]
    exact List.drop_zero
  have hentries : (history PppEngine.call (engineOn packets) [.handleIncoming packet, .drainOutgoing]).flatMap
      Entry.queued = ((engineOn packets).call (.handleIncoming packet)).1.queued := List.append_nil _
  unfold queuedOn PppEngine.historyOf queuedOf
  rw [callsOn_snoc, history_append, List.flatMap_append, ← hqueued, ← hentries]
  rfl

/-- The packets of a record, received and sent. -/
def packetsOf (record : List Deed) : List PppPacket × List PppPacket :=
  (record.filterMap receivedPacket, record.filterMap sentPacket)

/-- The engine and the tunnel are in step. -/
def InStep (record : List Deed) (ppp : PppEngine) : Prop :=
  ∃ packets, packetsOf record = (packets, queuedOn packets) ∧ ppp = engineOn packets

/-- The tunnel lags behind the engine, if at all. -/
def Lagging (record : List Deed) : Prop :=
  ∃ packets sent pending, packetsOf record = (packets, sent) ∧ queuedOn packets = sent ++ pending

theorem InStep.lagging {record : List Deed} {ppp : PppEngine} (h : InStep record ppp) : Lagging record := by
  obtain ⟨packets, hrecord, -⟩ := h
  exact ⟨packets, _, [], hrecord, (List.append_nil _).symm⟩

theorem packetsOf_snoc (record : List Deed) (e : Deed) :
    packetsOf (record ++ [e]) =
      ((packetsOf record).1 ++ (receivedPacket e).toList, (packetsOf record).2 ++ (sentPacket e).toList) := by
  unfold packetsOf
  rw [List.filterMap_append, List.filterMap_append]
  cases hreceived : receivedPacket e <;> cases hsent : sentPacket e <;> simp [hreceived, hsent]

/-- Entries that are neither a packet received nor one sent. -/
theorem InStep.snoc {record : List Deed} {ppp : PppEngine} {e : Deed} (h : InStep record ppp)
    (hreceived : receivedPacket e = none) (hsent : sentPacket e = none) : InStep (record ++ [e]) ppp := by
  obtain ⟨packets, hrecord, hppp⟩ := h
  refine ⟨packets, ?_, hppp⟩
  rw [packetsOf_snoc, hreceived, hsent, hrecord]
  simp

/-- The engine that has handled the last packet received says that it is up. -/
def SaysUp (record : List Deed) (localIp : Ipv4Addr) : Prop :=
  ∃ packets packet peerIp dnsServers, record.filterMap receivedPacket = packets ++ [packet] ∧
    .up localIp peerIp dnsServers ∈ emitted ((engineOn packets).handleIncoming packet).1

section Leads

variable {σ : Type} {machine : Machine σ} {r : List Deed}

theorem leads_sendAll_free (packets : List PppPacket) : ∀ {r : List Deed},
    (Protocol.free Deed).Leads
      (fun _ r' => packetsOf r' = ((packetsOf r).1, (packetsOf r).2 ++ packets))
      (fun _ r' => ∃ sent pending, packets = sent ++ pending ∧
        packetsOf r' = ((packetsOf r).1, (packetsOf r).2 ++ sent)) r (sendAll machine packets) := by
  induction packets with
  | nil =>
    intro r
    exact .ret (by rw [List.append_nil])
  | cons packet packets ih =>
    intro r
    rw [sendAll]
    split
    · exact .stop ⟨[], packet :: packets, rfl, by rw [List.append_nil]⟩
    · refine .bind (Q := fun _ r' => packetsOf r' = ((packetsOf r).1, (packetsOf r).2 ++ [packet])) ?_ ?_
      · refine .bind (Q := fun result r' => r' = r ++ [.send packet result]) (.ask fun _ => ⟨_, rfl, rfl⟩) ?_
        rintro (err | _) _ rfl
        · refine .stop ⟨[], packet :: packets, rfl, ?_⟩
          rw [packetsOf_snoc]
          simp [receivedPacket, sentPacket]
        · refine .ret ?_
          rw [packetsOf_snoc]
          simp [receivedPacket, sentPacket]
      · intro _ r' hr'
        refine ih.conseq (fun _ r'' hr'' => ?_) ?_
        · rw [hr'', hr', List.append_assoc, List.singleton_append]
        · rintro _ r'' ⟨sent, pending, rfl, hr''⟩
          refine ⟨packet :: sent, pending, rfl, ?_⟩
          rw [hr'', hr', List.append_assoc, List.singleton_append]

/-- A flush brings the tunnel in step with the engine. -/
theorem leads_flush_free {ppp : PppEngine} {packets : List PppPacket} {sent : List PppPacket}
    (hrecord : packetsOf r = (packets, sent)) (hqueued : queuedOn packets = sent ++ ppp.outgoing)
    (hppp : { ppp with outgoing := [] } = engineOn packets) :
    (Protocol.free Deed).Leads
      (fun ppp' r' => InStep r' ppp' ∧ r'.filterMap receivedPacket = packets) (fun _ r' => Lagging r') r
      (flushPppOutgoing machine ppp) := by
  unfold flushPppOutgoing
  refine .bind ((leads_sendAll_free ppp.outgoing).conseq (fun _ _ h => h) ?_) ?_
  · rintro _ r' ⟨sent', pending, houtgoing, hr'⟩
    refine ⟨packets, sent ++ sent', pending, ?_, ?_⟩
    · rw [hr', hrecord]
    · rw [hqueued, houtgoing, List.append_assoc]
  · intro _ r' hr'
    rw [hrecord] at hr'
    refine .ret ⟨⟨packets, ?_, hppp⟩, congrArg Prod.fst hr'⟩
    rw [hr', hqueued]

theorem leads_negotiate_free (turns : ℕ) : ∀ {r : List Deed} {ppp : PppEngine}, InStep r ppp →
    (Protocol.free Deed).Leads (fun ppp' r' => InStep r' ppp' ∧ ∃ localIp, SaysUp r' localIp)
      (fun _ r' => Lagging r') r (negotiate machine turns ppp) := by
  induction turns with
  | zero => exact fun h => .stop h.lagging
  | succ turns ih =>
    intro r ppp h
    rw [negotiate]
    refine .bind (Q := fun _ r' => InStep r' ppp) (.ask fun stop => ⟨_, rfl, h.snoc rfl rfl⟩) ?_
    intro stop r h
    split
    · exact .stop h.lagging
    refine .bind (Q := fun result r' => r' = r ++ [.receive result]) (.ask fun _ => ⟨_, rfl, rfl⟩) ?_
    rintro result _ rfl
    have hfailed (err : OpenfortivpnError) : InStep (r ++ [.receive (.error err)]) ppp := h.snoc rfl rfl
    split
    · split
      · exact ih (hfailed _)
      · exact .stop (hfailed _).lagging
    · exact .stop (hfailed _).lagging
    · rename_i packet
      obtain ⟨packets, hrecord, rfl⟩ := h
      have hreceived : packetsOf (r ++ [.receive (.ok packet)]) = (packets ++ [packet], queuedOn packets) := by
        rw [packetsOf_snoc, hrecord]
        exact congrArg (Prod.mk _) (List.append_nil _)
      have hqueued := queuedOn_snoc packets packet
      have hflush := @leads_flush_free σ machine _ _ _ _ hreceived hqueued (engineOn_snoc packets packet).symm
      have hlagging : Lagging (r ++ [.receive (.ok packet)]) := ⟨_, _, _, hreceived, hqueued⟩
      split
      · exact .stop hlagging
      · rename_i events ppp' hhandle
        rw [hhandle] at hflush
        split
        · rename_i localIp peerIp dnsServers hfind
          refine hflush.conseq (fun ppp'' r' hr' => ⟨hr'.1, localIp, packets, packet, peerIp, dnsServers, hr'.2, ?_⟩)
            fun _ _ hr' => hr'
          rw [hhandle]
          exact List.mem_of_find?_eq_some hfind
        · exact .stop hlagging
        · refine .bind hflush ?_
          intro ppp'' r' hr'
          exact ih hr'.1

theorem leads_establishPpp_free :
    (Protocol.free Deed).Leads (fun ppp' r' => InStep r' ppp' ∧ ∃ localIp, SaysUp r' localIp)
      (fun _ r' => Lagging r') [] (establishPpp machine) := by
  have hstart : Lagging [] := ⟨[], [], _, rfl, rfl⟩
  unfold establishPpp
  refine .bind (Q := fun _ r' => r' = []) (.look fun _ => rfl) ?_
  rintro (err | _) _ rfl
  · exact .stop hstart
  · refine .bind (Q := fun _ r' => r' = []) (.look fun _ => rfl) ?_
    rintro turns _ rfl
    refine .bind (@leads_flush_free σ machine [] _ [] [] rfl rfl rfl) ?_
    intro ppp r h
    exact leads_negotiate_free turns h.1

end Leads

/-- A call that announces an address leaves the engine open with it. -/
theorem up_opens {e e' : PppEngine} {entry : Entry} (hm : Move e entry e') {localIp : Ipv4Addr}
    {peerIp : Option Ipv4Addr} {dnsServers : List Ipv4Addr}
    (hup : .up localIp peerIp dnsServers ∈ entry.events) :
    e'.state = .opened ∧ e'.localIp = some localIp := by
  cases hm with
  | answer _ hev =>
    obtain ⟨data, hd⟩ := hev _ hup
    cases hd
  | up hc hcode hid hip =>
    simp only [List.mem_singleton, PppEvent.up.injEq] at hup
    obtain ⟨rfl, -, -⟩ := hup
    exact ⟨rfl, rfl⟩
  | terminate _ => simp at hup
  | _ => simp at hup

/-- The link is up: the packet received last acknowledges the last address that was asked for. -/
structure LinkUp (received : List PppPacket) (ppp : PppEngine) (localIp : Ipv4Addr) : Prop where
  opened : ppp.state = .opened
  address : ppp.localIp = some localIp ∧ localIp ≠ .unspecified
  acknowledged : ∃ before last ack request, received = before ++ [last] ∧
    last.asControl = some (protocolIpcp, ack) ∧ ack.code = codeConfigureAck ∧
    lastRequest protocolIpcp (PppEngine.historyOf (callsOn before)) = some request ∧
    ack.identifier = request.identifier ∧ LcpAcknowledged (PppEngine.historyOf (callsOn before))

theorem linkUp_of_saysUp {record : List Deed} {localIp : Ipv4Addr} (h : SaysUp record localIp) :
    LinkUp (record.filterMap receivedPacket) (engineOn (record.filterMap receivedPacket)) localIp := by
  obtain ⟨packets, packet, peerIp, dnsServers, hreceived, hup⟩ := h
  have hmove := call_move (engineOn packets) (.handleIncoming packet)
  obtain ⟨hopened, haddress⟩ := up_opens hmove hup
  obtain ⟨_, ack, hcall, hcontrol, hcode, hid, hne, -⟩ := hmove.up_inv hup
  cases hcall
  have hnegotiated : Negotiated (PppEngine.historyOf (callsOn packets)) (engineOn packets) :=
    negotiated_reached (callsOn packets)
  obtain ⟨request, hrequest, hidentifier⟩ := Option.map_eq_some_iff.mp (hid.trans hnegotiated.ipcp).symm
  have hlcp := hnegotiated.acknowledged_of_isSome (by rw [← hid]; rfl)
  rw [hreceived, engineOn_snoc]
  exact ⟨hopened, ⟨haddress, hne⟩, packets, packet, ack, request, rfl, hcontrol, hcode, hrequest,
    hidentifier.symm, hlcp⟩

/-- **A proxy's link is established in step.**  However the gateway answers, what is sent is what the engine
has queued for the packets received, in order and without a gap.  When it returns, all of it has been
sent; the engine is the one that has handled exactly these packets; it is open with an address; and the
packet received last acknowledges the last address that was asked for, behind an acknowledged LCP
request. -/
theorem ppp_established {σ : Type} (machine : Machine σ) (s : σ) :
    let run := establishPpp machine ⟨s, []⟩
    let received := (Recording.final run).record.filterMap receivedPacket
    let sent := (Recording.final run).record.filterMap sentPacket
    sent <+: queuedOn received ∧ ∀ ppp w, run = .ok ppp w →
      ppp = engineOn received ∧ sent = queuedOn received ∧ ppp.outgoing = [] ∧
        ∃ localIp, LinkUp received ppp localIp := by
  intro run received sent
  obtain ⟨record, hphase, hok, herror⟩ := Protocol.Leads.run (@leads_establishPpp_free σ machine) s
  rw [Protocol.free_phase] at hphase
  cases hphase
  have hlagging {record : List Deed} (h : Lagging record) :
      record.filterMap sentPacket <+: queuedOn (record.filterMap receivedPacket) := by
    obtain ⟨packets, sent, pending, hrecord, hqueued⟩ := h
    have hreceived : record.filterMap receivedPacket = packets := congrArg Prod.fst hrecord
    have hsent : record.filterMap sentPacket = sent := congrArg Prod.snd hrecord
    rw [hreceived, hsent, hqueued]
    exact List.prefix_append _ _
  cases hrun : establishPpp machine ⟨s, []⟩ with
  | error halt w =>
    refine ⟨hlagging (herror halt w hrun), fun ppp w' h => ?_⟩
    cases hrun.symm.trans h
  | ok ppp w =>
    obtain ⟨hstep, localIp, hup⟩ := hok ppp w hrun
    refine ⟨hlagging hstep.lagging, fun ppp' w' h => ?_⟩
    cases hrun.symm.trans h
    obtain ⟨packets, hrecord, rfl⟩ := hstep
    have hreceived : received = packets := congrArg Prod.fst hrecord
    have hsent : sent = queuedOn packets := congrArg Prod.snd hrecord
    rw [← hreceived] at hsent ⊢
    exact ⟨rfl, hsent, outgoing_engineOn received, localIp, linkUp_of_saysUp hup⟩

end OpenfortivpnRs.Main
