import OpenfortivpnRs.Lib.Triple
import OpenfortivpnRs.Proxy.Uplink
import OpenfortivpnRs.Tunnel.EndToEnd

/-!
# The packets of the proxy (`proxy/runtime.rs`, `proxy/netstack.rs`)

Between the gateway and the network stack of the proxy lie two queues: those of the device the stack is
built on, and that of the PPP engine.  `read_fortinet_packets` and `drain_netstack_to_fortinet` move packets
between them, in the main loop and in every lookup; where a lookup fails, the loop goes on whatever the
error was.  No packet is lost, doubled or overtaken on the way (`proxy_end_to_end`), up to the first write
the connection does not take as a whole.
-/

namespace OpenfortivpnRs.Proxy

open Lib Lib.Bytes Tunnel

/-- What the connection makes of a frame: it takes all of it, or fails behind some bytes. -/
inductive Written where
  | whole
  | cut (taken : ℕ) (err : IoError)
  deriving DecidableEq

/-- The link with the queues of the device (that of received packets is in `uplink`), the results of the
writes to come, and what has passed: from the device to the stack and back, the packets the engine has
queued, the bytes the connection has taken, and whether it has failed to take a frame. -/
structure Link where
  transport : FortinetTransport
  uplink : Uplink
  tx : List (List UInt8)
  writes : List Written
  handed : List (List UInt8)
  transmitted : List (List UInt8)
  replies : List PppPacket
  toTls : List UInt8
  torn : Bool
  deriving DecidableEq

abbrev LinkM := EStateM OpenfortivpnError Link

namespace Link

def start (transport : FortinetTransport) (uplink : Uplink) (writes : List Written) : Link :=
  ⟨transport, uplink, [], writes, [], [], [], [], false⟩

/-- A call that has a result and leaves the link in a state. -/
def act {α : Type} (call : Link → Result α × Link) : LinkM α := fun link =>
  match call link with
  | (.ok a, link) => .ok a link
  | (.error err, link) => .error err link

theorem triple_act {α : Type} {call : Link → Result α × Link} {P : Link → Prop} {Q : α → Link → Prop}
    {E : Link → Prop} (hok : ∀ link a, P link → (call link).1 = .ok a → Q a (call link).2)
    (herror : ∀ link err, P link → (call link).1 = .error err → E (call link).2) :
    Triple P (act call) Q E := by
  intro link h
  unfold act
  have hok := fun a => hok link a h
  have herror := fun err => herror link err h
  generalize call link = out at hok herror
  obtain ⟨result, link'⟩ := out
  cases result with
  | ok a => exact hok a rfl
  | error err => exact herror err rfl

theorem act_ok {α : Type} {call : Link → Result α × Link} {link link' : Link} {a : α}
    (h : act call link = .ok a link') : (call link).1 = .ok a ∧ link' = (call link).2 := by
  unfold act at h
  generalize call link = out at h
  obtain ⟨_ | _, link''⟩ := out <;> cases h
  exact ⟨rfl, rfl⟩

/-! ### Towards the gateway -/

/-- `write_packet`; where no result is left the write times out. -/
def write (packet : PppPacket) (link : Link) : Result Unit × Link :=
  match packet.encodeForTls with
  | .error err => (.error err, link)
  | .ok frame =>
    match link.writes with
    | .whole :: writes => (.ok (), { link with writes := writes, toTls := link.toTls ++ frame })
    | .cut taken err :: writes =>
      (.error (.io err), { link with writes := writes, toTls := link.toTls ++ frame.take taken, torn := true })
    | [] => (.error (.io wouldBlock), { link with torn := true })

def writePacket (packet : PppPacket) : LinkM Unit := act (write packet)

/-- The loop of `flush_ppp_control` over the packets that wait. -/
def flushLoop : List PppPacket → LinkM Unit
  | [] => pure ()
  | packet :: rest => do
    act fun link => (.ok (), { link with uplink.ppp.outgoing := rest })
    writePacket packet
    flushLoop rest

def flushPppControl : LinkM Unit := fun link => flushLoop link.uplink.ppp.outgoing link

/-- The loop of `drain_netstack_to_fortinet` over what `pop_tx_ipv4` has to give. -/
def drainLoop : List (List UInt8) → LinkM Unit
  | [] => pure ()
  | packet :: rest => do
    let pppPacket ← act fun link => (link.uplink.ppp.encodeIpv4Packet packet, { link with tx := rest })
    writePacket pppPacket
    drainLoop rest

def drainNetstackToFortinet : LinkM Unit := do
  (fun link => drainLoop link.tx link : LinkM Unit)
  flushPppControl

/-! ### From the gateway -/

def readPacket : LinkM PppPacket := act fun link =>
  (link.transport.readPacket.1, { link with transport := link.transport.readPacket.2 })

def handleIncoming (packet : PppPacket) : LinkM (List PppEvent) := act fun link =>
  ((link.uplink.ppp.handleIncoming packet).1,
    { link with
      uplink.ppp := (link.uplink.ppp.handleIncoming packet).2
      replies := link.replies ++ link.uplink.ppp.replies packet })

def deliverEvents (events : List PppEvent) : LinkM Unit := act fun link =>
  ((link.uplink.deliverEvents events).1, { link with uplink := (link.uplink.deliverEvents events).2 })

/-- The body of the loop of `read_fortinet_packets`, behind `read_packet`. -/
def takePacket (packet : PppPacket) : LinkM Unit := do
  deliverEvents (← handleIncoming packet)
  flushPppControl

section Transport

variable (transport : FortinetTransport)

/-- A write touches what the connection has taken, and the results to come. -/
theorem write_frame (packet : PppPacket) (link : Link) : ∃ writes toTls torn,
    (link.write packet).2 = { link with writes := writes, toTls := toTls, torn := torn } := by
  unfold write
  split
  · exact ⟨_, _, _, rfl⟩
  · split <;> exact ⟨_, _, _, rfl⟩

theorem flushLoop_transport (packets : List PppPacket) : Triple (·.transport = transport) (flushLoop packets)
    (fun _ link => link.transport = transport) (·.transport = transport) := by
  induction packets with
  | nil => exact .ret () fun _ h => h
  | cons packet packets ih =>
    refine .bind (Q := fun _ link => link.transport = transport)
      (triple_act (fun _ _ h _ => h) fun _ _ h _ => h) fun _ => ?_
    have hwrite : ∀ link : Link, link.transport = transport → (link.write packet).2.transport = transport := by
      intro link h
      obtain ⟨writes, toTls, torn, hframe⟩ := write_frame packet link
      rw [hframe]
      exact h
    exact .bind (triple_act (fun link _ h _ => hwrite link h) fun link _ h _ => hwrite link h) fun _ => ih

/-- Handling a packet leaves the transport alone. -/
theorem takePacket_transport (packet : PppPacket) : Triple (·.transport = transport) (takePacket packet)
    (fun _ link => link.transport = transport) (·.transport = transport) := by
  refine .bind (Q := fun _ link => link.transport = transport)
    (triple_act (fun _ _ h _ => h) fun _ _ h _ => h) fun events => ?_
  refine .bind (Q := fun _ link => link.transport = transport)
    (triple_act (fun _ _ h _ => h) fun _ _ h _ => h) fun _ link h => ?_
  exact flushLoop_transport transport _ link h

end Transport

/-- How much the transport has to read. -/
def toRead (link : Link) : ℕ := link.transport.stream.size + link.transport.readBuffer.length

/-- A packet that is read and handled leaves less to read. -/
theorem toRead_lt {link read taken : Link} {packet : PppPacket} (hread : readPacket link = .ok packet read)
    (htake : takePacket packet read = .ok () taken) : taken.toRead < link.toRead := by
  have hkept : taken.transport = read.transport :=
    (takePacket_transport read.transport packet).run_ok rfl htake
  have hlt := (FortinetTransport.readPacket_lt link.transport).1 packet
  obtain ⟨hresult, rfl⟩ := act_ok hread
  unfold toRead
  rw [hkept]
  exact hlt hresult

/-- `read_fortinet_packets`. -/
def readFortinetPackets (link : Link) : EStateM.Result OpenfortivpnError Link Unit :=
  match hread : readPacket link with
  | .error (.io err) read => if IsTemporary err then .ok () read else .error (.io err) read
  | .error err read => .error err read
  | .ok packet read =>
    match htake : takePacket packet read with
    | .error err taken => .error err taken
    | .ok () taken =>
      have := toRead_lt hread htake
      readFortinetPackets taken
termination_by link.toRead

/-! ### Runs -/

/-- What the stack does with its device while it is polled: it takes a packet (`receive`), or fills one
(`PppTxToken::consume`). -/
inductive DeviceCall where
  | receive
  | transmit (packet : List UInt8)

def device (link : Link) : DeviceCall → Link
  | .receive =>
    match link.uplink.rx with
    | [] => link
    | packet :: rx => { link with uplink.rx := rx, handed := link.handed ++ [packet] }
  | .transmit packet =>
    if packet = [] then link
    else { link with tx := link.tx ++ [packet], transmitted := link.transmitted ++ [packet] }

/-- What the main loop and the lookups do with the link. -/
inductive Turn where
  | read
  | poll (calls : List DeviceCall)
  | drain

/-- The state a program ends in. -/
def final {α : Type} : EStateM.Result OpenfortivpnError Link α → Link
  | .ok _ link => link
  | .error _ link => link

def turn (link : Link) : Turn → Link
  | .read => final (readFortinetPackets link)
  | .poll calls => calls.foldl device link
  | .drain => final (drainNetstackToFortinet link)

/-- The link after some turns, with whatever results. -/
def afterTurns (link : Link) (turns : List Turn) : Link := turns.foldl turn link

/-! ### The frames of the stream -/

/-- A frame is as long as its first word says. -/
def Sized (frame : List UInt8) : Prop := headerLen < frame.length ∧ (wordAt frame 0).toNat = frame.length

/-- The packet of a frame, unless its header is spoilt. -/
def packetOf (frame : List UInt8) : Option PppPacket := (PppPacket.decodeFromTlsFrame frame).toOption

/-- Frames were taken off the front of the bytes, and the packets are theirs. -/
def Took (bytes rest : List UInt8) (packets : List PppPacket) : Prop :=
  ∃ frames : List (List UInt8), bytes = frames.flatten ++ rest ∧ (∀ frame ∈ frames, Sized frame) ∧
    frames.filterMap packetOf = packets

theorem Took.refl (bytes : List UInt8) : Took bytes bytes [] := ⟨[], rfl, List.forall_mem_nil _, rfl⟩

theorem Took.trans {bytes mid rest : List UInt8} {packets more : List PppPacket} (h : Took bytes mid packets)
    (h' : Took mid rest more) : Took bytes rest (packets ++ more) := by
  obtain ⟨frames, rfl, hsized, rfl⟩ := h
  obtain ⟨frames', rfl, hsized', rfl⟩ := h'
  refine ⟨frames ++ frames', ?_, List.forall_mem_append.mpr ⟨hsized, hsized'⟩, List.filterMap_append⟩
  rw [List.flatten_append, List.append_assoc]

theorem Took.append {bytes rest : List UInt8} {packets : List PppPacket} (h : Took bytes rest packets)
    (more : List UInt8) : Took (bytes ++ more) (rest ++ more) packets := by
  obtain ⟨frames, rfl, hsized, hpackets⟩ := h
  exact ⟨frames, List.append_assoc .., hsized, hpackets⟩

/-- The packet of a result that has one. -/
def packetsOf : Result (Option PppPacket) → List PppPacket
  | .ok (some packet) => [packet]
  | _ => []

/-- A whole frame is taken off the buffer, with its packet or, if its header is spoilt, without. -/
theorem tryDecodeBufferedPacket_took {t t' : FortinetTransport} {result : Result (Option PppPacket)}
    (h : t.tryDecodeBufferedPacket = (result, t')) :
    t'.stream = t.stream ∧ Took t.readBuffer t'.readBuffer (packetsOf result) := by
  unfold FortinetTransport.tryDecodeBufferedPacket at h
  split at h
  · cases h
    exact ⟨rfl, .refl _⟩
  · split at h
    · cases h
      exact ⟨rfl, .refl _⟩
    · simp only at h
      split at h
      · cases h
        exact ⟨rfl, .refl _⟩
      · split at h
        · cases h
          exact ⟨rfl, .refl _⟩
        · rename_i hlong hwhole
          have hlength : (t.readBuffer.take (wordAt t.readBuffer 0).toNat).length =
              (wordAt t.readBuffer 0).toNat := by
            rw [List.length_take]
            omega
          have hword : wordAt (t.readBuffer.take (wordAt t.readBuffer 0).toNat) 0 = wordAt t.readBuffer 0 := by
            have happend := @wordAt_append (t.readBuffer.take (wordAt t.readBuffer 0).toNat) 0
              (t.readBuffer.drop (wordAt t.readBuffer 0).toNat) (by rw [hlength]; unfold headerLen at hlong; omega)
            rw [List.take_append_drop] at happend
            exact happend.symm
          have hframe : ∀ packets,
              [t.readBuffer.take (wordAt t.readBuffer 0).toNat].filterMap packetOf = packets →
                Took t.readBuffer (t.readBuffer.drop (wordAt t.readBuffer 0).toNat) packets := by
            refine fun packets hpackets => ⟨_, ?_, List.forall_mem_singleton.mpr ⟨?_, ?_⟩, hpackets⟩
            · rw [List.flatten_singleton, List.take_append_drop]
            · rw [hlength]
              omega
            · rw [hword, hlength]
          split at h
          · rename_i err herr
            cases h
            refine ⟨rfl, hframe _ ?_⟩
            simp [packetOf, herr, Except.toOption, packetsOf]
          · rename_i packet hok
            cases h
            refine ⟨rfl, hframe _ ?_⟩
            simp [packetOf, hok, Except.toOption, packetsOf]

/-- A call of `read_packet` takes the frames it passes over and that of the packet it returns. -/
theorem readPacket_took (t : FortinetTransport) :
    Took t.pending t.readPacket.2.pending (packetsOf (t.readPacket.1.map some)) := by
  fun_induction FortinetTransport.readPacket t with
  | case1 t err t' hd =>
    obtain ⟨hstream, htook⟩ := tryDecodeBufferedPacket_took hd
    unfold FortinetTransport.pending
    rw [hstream]
    exact htook.append _
  | case2 t packet t' hd =>
    obtain ⟨hstream, htook⟩ := tryDecodeBufferedPacket_took hd
    unfold FortinetTransport.pending
    rw [hstream]
    exact htook.append _
  | case3 t t' hd err stream hr =>
    obtain ⟨rfl, -⟩ := FortinetTransport.tryDecodeBufferedPacket_none hd
    unfold FortinetTransport.pending
    rw [(Reader.read_error hr).1]
    exact .refl _
  | case4 t t' hd stream hr =>
    obtain ⟨rfl, -⟩ := FortinetTransport.tryDecodeBufferedPacket_none hd
    unfold FortinetTransport.pending
    rw [(Reader.read_ok hr).1]
    exact .refl _
  | case5 t t' hd b chunk stream hr grown hbig =>
    obtain ⟨rfl, -⟩ := FortinetTransport.tryDecodeBufferedPacket_none hd
    unfold FortinetTransport.pending
    rw [(Reader.read_ok hr).1, ← List.append_assoc]
    exact .refl _
  | case6 t t' hd b chunk stream hr grown hfit hlt ih =>
    obtain ⟨rfl, -⟩ := FortinetTransport.tryDecodeBufferedPacket_none hd
    have hpending : grown.pending = t'.pending := by
      unfold FortinetTransport.pending
      rw [(Reader.read_ok hr).1, ← List.append_assoc]
    rw [← hpending]
    exact ih

/-! ### Data packets and replies -/

/-- The packet for the stack that a packet carries. -/
def dataOf (packet : PppPacket) : Option (List UInt8) :=
  match pppProtocol packet.data with
  | .ok protocol => if protocol = protocolIpv4 ∧ packet.data.drop 2 ≠ [] then some (packet.data.drop 2) else none
  | .error _ => none

/-- A packet of the engine's own: it carries nothing for a stack. -/
def IsReply (packet : PppPacket) : Prop := packet.data ≠ [] ∧ dataOf packet = none

theorem isReply_controlPacket {protocol : UInt16} (h : protocol ≠ protocolIpv4) (code identifier : UInt8)
    (payload : List UInt8) : IsReply (controlPacket protocol code identifier payload) := by
  constructor
  · simp [controlPacket]
  · unfold dataOf
    rw [pppProtocol_controlPacket]
    exact if_neg fun hdata => h hdata.1

theorem isReply_lcp (code identifier : UInt8) (payload : List UInt8) :
    IsReply (controlPacket protocolLcp code identifier payload) :=
  isReply_controlPacket (by decide) code identifier payload

theorem isReply_ipcp (code identifier : UInt8) (payload : List UInt8) :
    IsReply (controlPacket protocolIpcp code identifier payload) :=
  isReply_controlPacket (by decide) code identifier payload

/-- Neither handler has anything for the stack, and what they queue are replies. -/
structure Replies (engine : PppEngine) (out : Result (List PppEvent) × PppEngine) : Prop where
  events : ∀ events, out.1 = .ok events → ∀ packet, .ipv4Packet packet ∉ events
  queued : ∃ replies, out.2.outgoing = engine.outgoing ++ replies ∧ ∀ reply ∈ replies, IsReply reply

theorem replies_of_events {engine engine' : PppEngine} {events : List PppEvent} {replies : List PppPacket}
    (hevents : ∀ packet, .ipv4Packet packet ∉ events) (hout : engine'.outgoing = engine.outgoing ++ replies)
    (hreplies : ∀ reply ∈ replies, IsReply reply) : Replies engine (.ok events, engine') where
  events := by
    rintro _ ⟨⟩
    exact hevents
  queued := ⟨replies, hout, hreplies⟩

theorem handleLcp_replies (engine : PppEngine) (payload : List UInt8) :
    Replies engine (engine.handleLcp payload) := by
  have hone : ∀ code identifier payload, ∀ reply ∈ [controlPacket protocolLcp code identifier payload],
      IsReply reply := fun code identifier payload => List.forall_mem_singleton.mpr (isReply_lcp ..)
  have hipcp : ∀ code identifier payload, ∀ reply ∈ [controlPacket protocolIpcp code identifier payload],
      IsReply reply := fun code identifier payload => List.forall_mem_singleton.mpr (isReply_ipcp ..)
  have hnone : ∀ packet, .ipv4Packet packet ∉ ([] : List PppEvent) := fun _ => List.not_mem_nil
  unfold PppEngine.handleLcp
  split
  · exact ⟨(fun _ h => by cases h), [], (List.append_nil _).symm, List.forall_mem_nil _⟩
  · simp only
    split_ifs
    · exact replies_of_events hnone (List.append_assoc ..)
        (List.forall_mem_append.mpr ⟨hone _ _ _, hone _ _ _⟩)
    · exact replies_of_events hnone rfl (hone _ _ _)
    · exact replies_of_events hnone rfl (hipcp _ _ _)
    · exact replies_of_events hnone (List.append_nil _).symm (List.forall_mem_nil _)
    · exact replies_of_events hnone rfl (hone _ _ _)
    · exact replies_of_events hnone rfl (hone _ _ _)
    · exact replies_of_events hnone rfl (hone _ _ _)
    · exact replies_of_events (by simp) rfl (hone _ _ _)
    · exact replies_of_events hnone (List.append_nil _).symm (List.forall_mem_nil _)
    · exact replies_of_events hnone rfl (hone _ _ _)

theorem handleIpcp_replies (engine : PppEngine) (payload : List UInt8) :
    Replies engine (engine.handleIpcp payload) := by
  have hone : ∀ code identifier payload, ∀ reply ∈ [controlPacket protocolIpcp code identifier payload],
      IsReply reply := fun code identifier payload => List.forall_mem_singleton.mpr (isReply_ipcp ..)
  have hnone : ∀ packet, .ipv4Packet packet ∉ ([] : List PppEvent) := fun _ => List.not_mem_nil
  unfold PppEngine.handleIpcp
  split
  · exact ⟨(fun _ h => by cases h), [], (List.append_nil _).symm, List.forall_mem_nil _⟩
  · simp only
    split_ifs
    · exact replies_of_events hnone rfl (hone _ _ _)
    · exact replies_of_events (by simp) (List.append_nil _).symm (List.forall_mem_nil _)
    · exact replies_of_events hnone rfl (hone _ _ _)
    · split <;> exact replies_of_events hnone rfl (hone _ _ _)
    · exact replies_of_events hnone rfl (hone _ _ _)
    · exact replies_of_events (by simp) rfl (hone _ _ _)
    · exact replies_of_events hnone (List.append_nil _).symm (List.forall_mem_nil _)
    · exact replies_of_events hnone rfl (hone _ _ _)

/-- What a packet makes the engine queue are replies. -/
theorem isReply_of_mem_replies (engine : PppEngine) (packet : PppPacket) :
    ∀ reply ∈ engine.replies packet, IsReply reply := by
  have hqueued : ∃ replies, (engine.handleIncoming packet).2.outgoing = engine.outgoing ++ replies ∧
      ∀ reply ∈ replies, IsReply reply := by
    unfold PppEngine.handleIncoming
    split
    · exact ⟨[], (List.append_nil _).symm, List.forall_mem_nil _⟩
    · split_ifs
      · exact ⟨[], (List.append_nil _).symm, List.forall_mem_nil _⟩
      · exact (handleLcp_replies engine _).queued
      · exact (handleIpcp_replies engine _).queued
      · exact ⟨_, rfl, List.forall_mem_singleton.mpr (isReply_lcp ..)⟩
  obtain ⟨replies, hout, hreplies⟩ := hqueued
  have hsame := (outgoing_replies engine packet).1.symm.trans hout
  rw [List.append_right_inj] at hsame
  rwa [hsame]

/-- Events without data leave the device alone. -/
theorem deliverEvents_rx_of_noData (events : List PppEvent) (h : ∀ packet, .ipv4Packet packet ∉ events) :
    ∀ uplink : Uplink, (uplink.deliverEvents events).2.rx = uplink.rx := by
  induction events with
  | nil => exact fun _ => rfl
  | cons event events ih =>
    intro uplink
    cases event with
    | up localIp peerIp dnsServers => exact ih (fun packet hmem => h packet (List.mem_cons_of_mem _ hmem)) uplink
    | down => rfl
    | ipv4Packet packet => exact absurd List.mem_cons_self (h packet)

theorem deliverEvents_ppp (events : List PppEvent) :
    ∀ uplink : Uplink, (uplink.deliverEvents events).2.ppp = uplink.ppp := by
  induction events with
  | nil => exact fun _ => rfl
  | cons event events ih =>
    intro uplink
    cases event with
    | up localIp peerIp dnsServers => exact ih uplink
    | down => rfl
    | ipv4Packet packet =>
      refine (ih (uplink.pushRxIpv4 packet)).trans ?_
      unfold Uplink.pushRxIpv4
      split_ifs <;> rfl

/-- **What a packet brings the stack** is what it carries. -/
theorem deliverEvents_rx {engine : PppEngine} {packet : PppPacket} {events : List PppEvent}
    (h : (engine.handleIncoming packet).1 = .ok events) (uplink : Uplink) :
    (uplink.deliverEvents events).2.rx = uplink.rx ++ (dataOf packet).toList := by
  unfold PppEngine.handleIncoming at h
  unfold dataOf
  split at h
  · cases h
  · rename_i protocol hprotocol
    rw [hprotocol]
    simp only
    by_cases hdata : protocol = protocolIpv4
    · rw [if_pos hdata] at h
      cases h
      show (uplink.pushRxIpv4 (packet.data.drop 2)).rx = _
      unfold Uplink.pushRxIpv4
      by_cases hempty : packet.data.drop 2 = []
      · rw [if_pos hempty, if_neg fun hboth => hboth.2 hempty]
        exact (List.append_nil _).symm
      · rw [if_neg hempty, if_pos ⟨hdata, hempty⟩]
        rfl
    · rw [if_neg hdata] at h
      rw [if_neg fun hboth => hdata hboth.1]
      refine (deliverEvents_rx_of_noData events ?_ uplink).trans (List.append_nil _).symm
      split_ifs at h
      · exact (handleLcp_replies engine _).events events h
      · exact (handleIpcp_replies engine _).events events h
      · cases h
        exact fun _ => List.not_mem_nil

/-- A packet that cannot be handled carries nothing. -/
theorem dataOf_eq_none_of_error {engine : PppEngine} {packet : PppPacket} {err : OpenfortivpnError}
    (h : (engine.handleIncoming packet).1 = .error err) : dataOf packet = none := by
  unfold PppEngine.handleIncoming at h
  unfold dataOf
  split at h
  · rename_i hprotocol
    rw [hprotocol]
  · rename_i protocol hprotocol
    rw [hprotocol]
    refine if_neg fun hdata => ?_
    rw [if_pos hdata.1] at h
    cases h

/-! ### What has passed -/

/-- `encode_ipv4_packet` takes the packet, and the frame has room for it. -/
def isCarried (packet : List UInt8) : Bool :=
  packet ≠ [] ∧ packet.getD 0 0 >>> 4 = 4 ∧ packet.length ≤ 65527

/-- A frame has room for the packet. -/
def fits (packet : PppPacket) : Bool := packet.data.length ≤ 65529

def carriesNothing (packet : PppPacket) : Bool := (dataOf packet).isNone

/-- What the stack was or will be handed is what the packets taken off the stream carry, but for those
`waiting` to be handled. -/
def InOrder (stream : List UInt8) (waiting : List PppPacket) (link : Link) : Prop :=
  ∃ packets, Took stream link.transport.pending packets ∧
    link.handed ++ link.uplink.rx ++ waiting.filterMap dataOf = packets.filterMap dataOf

/-- The packets that were sent, one frame each, and those that are still to be: `data` of the stack and
`control` of the engine. -/
structure Sent (data : List (List UInt8)) (control : List PppPacket) (link : Link) (sent : List PppPacket) :
    Prop where
  bytes : link.toTls = (sent.map PppPacket.tlsFrame).flatten
  sendable : ∀ packet ∈ sent, Sendable packet
  dataSent : link.transmitted.filter isCarried = sent.filterMap dataOf ++ data.filter isCarried
  controlSent : link.replies.filter fits = sent.filter carriesNothing ++ control.filter fits

/-- What is left of that behind a frame that was cut. -/
structure SentBefore (link : Link) (sent : List PppPacket) : Prop where
  bytes : (sent.map PppPacket.tlsFrame).flatten <+: link.toTls
  sendable : ∀ packet ∈ sent, Sendable packet
  dataSent : sent.filterMap dataOf <+: link.transmitted.filter isCarried
  controlSent : sent.filter carriesNothing <+: link.replies.filter fits

/-- What has passed to the gateway. -/
structure Kept (data : List (List UInt8)) (control : List PppPacket) (link : Link) : Prop where
  before : ∃ sent, SentBefore link sent
  whole : link.torn = false → ∃ sent, Sent data control link sent
  replies : ∀ packet ∈ control, IsReply packet

/-- The link is sound: nothing but the queues lies between its ends. -/
structure Sound (stream : List UInt8) (link : Link) : Prop where
  inOrder : InOrder stream [] link
  kept : Kept link.tx link.uplink.ppp.outgoing link

section Kept

variable {data data' : List (List UInt8)} {control control' : List PppPacket} {link link' : Link}
  {packet : PppPacket} {sent : List PppPacket}

theorem Sent.before (h : Sent data control link sent) : SentBefore link sent where
  bytes := h.bytes ▸ List.prefix_rfl
  sendable := h.sendable
  dataSent := h.dataSent ▸ List.prefix_append _ _
  controlSent := h.controlSent ▸ List.prefix_append _ _

/-- What passes later does not change what has passed. -/
theorem SentBefore.mono (h : SentBefore link sent) (hbytes : link.toTls <+: link'.toTls)
    (hdata : link.transmitted <+: link'.transmitted) (hcontrol : link.replies <+: link'.replies) :
    SentBefore link' sent where
  bytes := h.bytes.trans hbytes
  sendable := h.sendable
  dataSent := h.dataSent.trans (hdata.filter _)
  controlSent := h.controlSent.trans (hcontrol.filter _)

/-- A frame that is sent whole goes behind the others. -/
theorem Sent.push (h : Sent data control link sent) (hne : packet.data ≠ [])
    (hfits : packet.data.length ≤ 65529)
    (hdata : data.filter isCarried = (dataOf packet).toList ++ data'.filter isCarried)
    (hcontrol : control.filter fits = [packet].filter carriesNothing ++ control'.filter fits)
    (writes : List Written) :
    Sent data' control' { link with writes := writes, toTls := link.toTls ++ packet.tlsFrame }
      (sent ++ [packet]) where
  bytes := by simp [h.bytes]
  sendable := by
    refine List.forall_mem_append.mpr ⟨h.sendable, List.forall_mem_singleton.mpr ⟨?_, hfits⟩⟩
    exact List.length_pos_of_ne_nil hne
  dataSent := by
    rw [List.filterMap_append, List.append_assoc, h.dataSent, hdata]
    cases hdataOf : dataOf packet <;> simp [hdataOf]
  controlSent := by rw [List.filter_append, List.append_assoc, h.controlSent, hcontrol]

/-- A packet no frame has room for is dropped. -/
theorem Sent.drop (h : Sent data control link sent) (hdata : data.filter isCarried = data'.filter isCarried)
    (hcontrol : control.filter fits = control'.filter fits) : Sent data' control' link sent :=
  ⟨h.bytes, h.sendable, hdata ▸ h.dataSent, hcontrol ▸ h.controlSent⟩

/-- **One frame.**  `data` and `control` are what was to be sent before the write, `data'` and `control'`
behind it. -/
theorem write_kept (h : Kept data control link) (hne : packet.data ≠ [])
    (hdata : data.filter isCarried =
      (if fits packet then (dataOf packet).toList else []) ++ data'.filter isCarried)
    (hcontrol : control.filter fits =
      (if fits packet then [packet].filter carriesNothing else []) ++ control'.filter fits)
    (hreplies : ∀ reply ∈ control', IsReply reply) : Kept data' control' (link.write packet).2 := by
  unfold write
  split
  · rename_i err hencode
    have hlong : fits packet = false := by
      by_contra hfits
      rw [PppPacket.encodeForTls_eq (by simpa [fits] using hfits)] at hencode
      cases hencode
    rw [if_neg (by rw [hlong]; decide), List.nil_append] at hdata hcontrol
    refine ⟨h.before, fun htorn => ?_, hreplies⟩
    obtain ⟨sent, hsent⟩ := h.whole htorn
    exact ⟨sent, hsent.drop hdata hcontrol⟩
  · rename_i frame hencode
    obtain ⟨hfits, rfl⟩ := fits_of_encodeForTls hencode
    rw [if_pos (by simpa [fits] using hfits)] at hdata hcontrol
    obtain ⟨sent, hbefore⟩ := h.before
    split
    · refine ⟨⟨sent, hbefore.mono (List.prefix_append _ _) List.prefix_rfl List.prefix_rfl⟩, fun htorn => ?_,
        hreplies⟩
      obtain ⟨sent, hsent⟩ := h.whole htorn
      exact ⟨_, hsent.push hne hfits hdata hcontrol _⟩
    · exact ⟨⟨sent, hbefore.mono (List.prefix_append _ _) List.prefix_rfl List.prefix_rfl⟩,
        (fun h => by cases h), hreplies⟩
    · exact ⟨⟨sent, hbefore.mono List.prefix_rfl List.prefix_rfl List.prefix_rfl⟩,
        (fun h => by cases h), hreplies⟩

end Kept

/-! ### The link is sound -/

section Sound

variable {stream : List UInt8} {waiting : List PppPacket} {data : List (List UInt8)} {control : List PppPacket}
  {link link' : Link} {packet : PppPacket}

theorem InOrder.congr (h : InOrder stream waiting link) (htransport : link'.transport = link.transport)
    (hhanded : link'.handed = link.handed) (hrx : link'.uplink.rx = link.uplink.rx) :
    InOrder stream waiting link' := by
  unfold InOrder
  rw [htransport, hhanded, hrx]
  exact h

theorem Kept.congr (h : Kept data control link) (htoTls : link'.toTls = link.toTls)
    (htransmitted : link'.transmitted = link.transmitted) (hreplies : link'.replies = link.replies)
    (htorn : link'.torn = link.torn) : Kept data control link' := by
  obtain ⟨⟨sent, hbefore⟩, hwhole, hcontrol⟩ := h
  refine ⟨⟨sent, hbefore.mono ?_ ?_ ?_⟩, fun h => ?_, hcontrol⟩
  · exact htoTls ▸ List.prefix_rfl
  · exact htransmitted ▸ List.prefix_rfl
  · exact hreplies ▸ List.prefix_rfl
  · obtain ⟨sent, hsent⟩ := hwhole (htorn ▸ h)
    refine ⟨sent, ?_, hsent.sendable, ?_, ?_⟩
    · rw [htoTls, hsent.bytes]
    · rw [htransmitted, hsent.dataSent]
    · rw [hreplies, hsent.controlSent]

/-- A write does not touch what is read, nor the queues. -/
theorem InOrder.write (h : InOrder stream waiting link) (packet : PppPacket) :
    InOrder stream waiting (link.write packet).2 := by
  obtain ⟨writes, toTls, torn, hframe⟩ := write_frame packet link
  rw [hframe]
  exact h

/-- A write keeps the order, and the queues as they are. -/
theorem sound_write {packet : PppPacket} {link : Link} (hinOrder : InOrder stream [] link)
    (hsent : Kept link.tx link.uplink.ppp.outgoing (link.write packet).2) :
    (link.write packet).2.tx = link.tx ∧ (link.write packet).2.uplink.ppp.outgoing = link.uplink.ppp.outgoing ∧
      Sound stream (link.write packet).2 := by
  have hinOrder' := hinOrder.write packet
  obtain ⟨writes, toTls, torn, hframe⟩ := write_frame packet link
  rw [hframe] at hsent hinOrder' ⊢
  exact ⟨rfl, rfl, hinOrder', hsent⟩

/-- The packets of the engine are written in their order. -/
theorem flushLoop_sound (packets : List PppPacket) :
    Triple (fun link => link.uplink.ppp.outgoing = packets ∧ Sound stream link) (flushLoop packets)
      (fun _ => Sound stream) (Sound stream) := by
  induction packets with
  | nil => exact .ret () fun _ h => h.2
  | cons packet packets ih =>
    refine .bind (Q := fun _ link => link.uplink.ppp.outgoing = packets ∧ InOrder stream [] link ∧
      Kept link.tx (packet :: packets) link) (triple_act ?_ fun _ _ _ h => by cases h) fun _ => ?_
    · rintro link _ ⟨hout, hinOrder, hkept⟩ -
      rw [hout] at hkept
      exact ⟨rfl, hinOrder.congr rfl rfl rfl, hkept.congr rfl rfl rfl rfl⟩
    · -- the frame is written, or dropped where it does not fit
      have hwrite : ∀ link : Link, (link.uplink.ppp.outgoing = packets ∧ InOrder stream [] link ∧
          Kept link.tx (packet :: packets) link) →
          (link.write packet).2.uplink.ppp.outgoing = packets ∧ Sound stream (link.write packet).2 := by
        rintro link ⟨hout, hinOrder, hkept⟩
        have hreply := hkept.replies packet List.mem_cons_self
        have hnothing : carriesNothing packet = true := by rw [carriesNothing, hreply.2, Option.isNone_none]
        have hsent : Kept link.tx link.uplink.ppp.outgoing (link.write packet).2 := by
          rw [hout]
          refine write_kept hkept hreply.1 ?_ ?_ fun reply hr => hkept.replies reply (List.mem_cons_of_mem _ hr)
          · rw [hreply.2, Option.toList_none, ite_self, List.nil_append]
          · rw [List.filter_singleton, hnothing, List.filter_cons]
            cases fits packet <;> rfl
        obtain ⟨-, hkeeps, hsound⟩ := sound_write hinOrder hsent
        exact ⟨hkeeps.trans hout, hsound⟩
      exact .bind (triple_act (fun link _ h _ => hwrite link h) fun link _ h _ => (hwrite link h).2) fun _ => ih

theorem flushPppControl_sound :
    Triple (Sound stream) flushPppControl (fun _ => Sound stream) (Sound stream) :=
  fun link h => flushLoop_sound link.uplink.ppp.outgoing link ⟨rfl, h⟩

/-- The frame a packet of the stack is sent in carries it. -/
theorem dataOf_ipv4 {packet : List UInt8} (hne : packet ≠ []) :
    dataOf ⟨toBeBytes protocolIpv4 ++ packet⟩ = some packet := by
  have hprotocol : pppProtocol (toBeBytes protocolIpv4 ++ packet) = .ok protocolIpv4 := by
    unfold pppProtocol
    rw [if_neg (by rw [List.length_append, toBeBytes_length]; omega), wordAt_toBeBytes]
  have hdrop : (toBeBytes protocolIpv4 ++ packet).drop 2 = packet := List.drop_left' (toBeBytes_length _)
  unfold dataOf
  simp only [hprotocol, hdrop]
  exact if_pos ⟨trivial, hne⟩

/-- A frame of the stack is short enough when its packet is one that is carried. -/
theorem fits_ipv4 {packet : List UInt8} (hne : packet ≠ []) (hnibble : packet.getD 0 0 >>> 4 = 4) :
    fits ⟨toBeBytes protocolIpv4 ++ packet⟩ = isCarried packet := by
  have hlength : (toBeBytes protocolIpv4 ++ packet).length = packet.length + 2 := by
    rw [List.length_append, toBeBytes_length, Nat.add_comm]
  refine decide_eq_decide.mpr ⟨fun h => ⟨hne, hnibble, ?_⟩, fun h => ?_⟩
  · replace h : (toBeBytes protocolIpv4 ++ packet).length ≤ 65529 := h
    omega
  · show (toBeBytes protocolIpv4 ++ packet).length ≤ 65529
    omega

theorem encodeIpv4Packet_ok {engine : PppEngine} {packet : List UInt8} {pppPacket : PppPacket}
    (h : engine.encodeIpv4Packet packet = .ok pppPacket) :
    packet ≠ [] ∧ packet.getD 0 0 >>> 4 = 4 ∧ pppPacket = ⟨toBeBytes protocolIpv4 ++ packet⟩ := by
  unfold PppEngine.encodeIpv4Packet at h
  split at h
  · cases h
  · rename_i hok
    cases h
    exact ⟨fun h => hok (.inl h), not_not.mp fun h => hok (.inr h), rfl⟩

/-- What the engine refuses is not carried. -/
theorem encodeIpv4Packet_error {engine : PppEngine} {packet : List UInt8} {err : OpenfortivpnError}
    (h : engine.encodeIpv4Packet packet = .error err) : isCarried packet = false := by
  unfold PppEngine.encodeIpv4Packet at h
  split at h
  · rename_i hbad
    exact decide_eq_false fun h => hbad.elim h.1 fun hnibble => hnibble h.2.1
  · cases h

theorem drainLoop_sound (packets : List (List UInt8)) :
    Triple (fun link => link.tx = packets ∧ Sound stream link) (drainLoop packets) (fun _ => Sound stream)
      (Sound stream) := by
  induction packets with
  | nil => exact .ret () fun _ h => h.2
  | cons packet packets ih =>
    refine .bind (Q := fun pppPacket link => (packet ≠ [] ∧ packet.getD 0 0 >>> 4 = 4 ∧
        pppPacket = ⟨toBeBytes protocolIpv4 ++ packet⟩) ∧ link.tx = packets ∧ InOrder stream [] link ∧
        Kept (packet :: packets) link.uplink.ppp.outgoing link) (triple_act ?_ ?_) fun pppPacket => ?_
    · rintro link pppPacket ⟨htx, hinOrder, hkept⟩ hencode
      rw [htx] at hkept
      replace hencode : link.uplink.ppp.encodeIpv4Packet packet = .ok pppPacket := hencode
      exact ⟨encodeIpv4Packet_ok hencode, rfl, hinOrder.congr rfl rfl rfl, hkept.congr rfl rfl rfl rfl⟩
    · rintro link err ⟨htx, hinOrder, hkept⟩ hencode
      replace hencode : link.uplink.ppp.encodeIpv4Packet packet = .error err := hencode
      rw [htx] at hkept
      have hdropped : Kept packets link.uplink.ppp.outgoing link := by
        refine ⟨hkept.before, fun htorn => ?_, hkept.replies⟩
        obtain ⟨sent, hsent⟩ := hkept.whole htorn
        refine ⟨sent, hsent.drop ?_ rfl⟩
        rw [List.filter_cons, encodeIpv4Packet_error hencode]
        rfl
      exact ⟨hinOrder.congr rfl rfl rfl, hdropped.congr rfl rfl rfl rfl⟩
    · refine .of_imp ?_
      rintro ⟨hne, hnibble, rfl⟩
      have hwrite : ∀ link : Link, (link.tx = packets ∧ InOrder stream [] link ∧
          Kept (packet :: packets) link.uplink.ppp.outgoing link) →
          (link.write ⟨toBeBytes protocolIpv4 ++ packet⟩).2.tx = packets ∧
            Sound stream (link.write ⟨toBeBytes protocolIpv4 ++ packet⟩).2 := by
        rintro link ⟨htx, hinOrder, hkept⟩
        have hdata := dataOf_ipv4 hne
        have hsent : Kept link.tx link.uplink.ppp.outgoing
            (link.write ⟨toBeBytes protocolIpv4 ++ packet⟩).2 := by
          rw [htx]
          refine write_kept hkept ?_ ?_ ?_ hkept.replies
          · simp [toBeBytes]
          · rw [fits_ipv4 hne hnibble, hdata, List.filter_cons]
            cases isCarried packet <;> rfl
          · rw [List.filter_singleton, carriesNothing, hdata]
            simp
        obtain ⟨hkeeps, -, hsound⟩ := sound_write hinOrder hsent
        exact ⟨hkeeps.trans htx, hsound⟩
      exact .bind (triple_act (fun link _ h _ => hwrite link h) fun link _ h _ => (hwrite link h).2) fun _ => ih

theorem drainNetstackToFortinet_sound :
    Triple (Sound stream) drainNetstackToFortinet (fun _ => Sound stream) (Sound stream) :=
  .bind (fun link h => drainLoop_sound link.tx link ⟨rfl, h⟩) fun _ => flushPppControl_sound

/-- Reading takes a packet off the stream that waits to be handled. -/
theorem readPacket_sound : Triple (Sound stream) readPacket
    (fun packet link => InOrder stream [packet] link ∧ Kept link.tx link.uplink.ppp.outgoing link)
    (Sound stream) := by
  refine triple_act ?_ ?_
  · rintro link packet ⟨⟨packets, htook, hpassed⟩, hkept⟩ hread
    refine ⟨⟨packets ++ [packet], ?_, ?_⟩, hkept.congr rfl rfl rfl rfl⟩
    · have hone := readPacket_took link.transport
      rw [hread] at hone
      exact htook.trans hone
    · rw [List.filterMap_append, ← hpassed, List.filterMap_nil, List.append_nil]
  · rintro link err ⟨⟨packets, htook, hpassed⟩, hkept⟩ hread
    refine ⟨⟨packets, ?_, hpassed⟩, hkept.congr rfl rfl rfl rfl⟩
    have hnone := readPacket_took link.transport
    rw [hread] at hnone
    have htooked := htook.trans hnone
    rwa [show packetsOf ((Except.error err : Result PppPacket).map some) = [] from rfl, List.append_nil] at htooked

/-- The replies go behind those that wait. -/
theorem Kept.reply (h : Kept link.tx link.uplink.ppp.outgoing link) (packet : PppPacket) :
    Kept link.tx (link.uplink.ppp.handleIncoming packet).2.outgoing
      { link with
        uplink.ppp := (link.uplink.ppp.handleIncoming packet).2
        replies := link.replies ++ link.uplink.ppp.replies packet } := by
  rw [(outgoing_replies link.uplink.ppp packet).1]
  obtain ⟨⟨sent, hbefore⟩, hwhole, hreplies⟩ := h
  refine ⟨⟨sent, hbefore.mono List.prefix_rfl List.prefix_rfl (List.prefix_append _ _)⟩, fun htorn => ?_,
    List.forall_mem_append.mpr ⟨hreplies, isReply_of_mem_replies _ packet⟩⟩
  obtain ⟨sent, hsent⟩ := hwhole htorn
  refine ⟨sent, hsent.bytes, hsent.sendable, hsent.dataSent, ?_⟩
  rw [List.filter_append, List.filter_append, hsent.controlSent, List.append_assoc]

/-- Handling a packet brings the stack what it carries and the gateway the replies. -/
theorem takePacket_sound (packet : PppPacket) :
    Triple (fun link => InOrder stream [packet] link ∧ Kept link.tx link.uplink.ppp.outgoing link)
      (takePacket packet) (fun _ => Sound stream) (Sound stream) := by
  refine .bind (Q := fun events link => (∃ engine : PppEngine, (engine.handleIncoming packet).1 = .ok events) ∧
    InOrder stream [packet] link ∧ Kept link.tx link.uplink.ppp.outgoing link) (triple_act ?_ ?_)
    fun events => ?_
  · rintro link events ⟨hinOrder, hkept⟩ hhandle
    exact ⟨⟨_, hhandle⟩, hinOrder.congr rfl rfl rfl, hkept.reply packet⟩
  · rintro link err ⟨⟨packets, htook, hpassed⟩, hkept⟩ hhandle
    refine ⟨⟨packets, htook, ?_⟩, hkept.reply packet⟩
    rw [List.filterMap_cons, dataOf_eq_none_of_error hhandle] at hpassed
    exact hpassed
  · refine .of_imp ?_
    rintro ⟨engine, hhandle⟩
    have hdeliver : ∀ link : Link, InOrder stream [packet] link ∧ Kept link.tx link.uplink.ppp.outgoing link →
        Sound stream { link with uplink := (link.uplink.deliverEvents events).2 } := by
      rintro link ⟨⟨packets, htook, hpassed⟩, hkept⟩
      have hppp : (link.uplink.deliverEvents events).2.ppp = link.uplink.ppp := deliverEvents_ppp events _
      refine ⟨⟨packets, htook, ?_⟩, ?_⟩
      · show link.handed ++ (link.uplink.deliverEvents events).2.rx ++ [] = _
        rw [deliverEvents_rx hhandle, List.append_nil, ← hpassed, List.append_assoc]
        cases hdata : dataOf packet <;> simp [hdata]
      · show Kept link.tx (link.uplink.deliverEvents events).2.ppp.outgoing _
        rw [hppp]
        exact hkept.congr rfl rfl rfl rfl
    exact .bind (triple_act (fun link _ h _ => hdeliver link h) fun link _ h _ => hdeliver link h)
      fun _ => flushPppControl_sound

/-- **Reading keeps the link sound**, by the recursion of its loop, whatever ends it. -/
theorem readFortinetPackets_sound (link : Link) (h : Sound stream link) :
    Sound stream (final (readFortinetPackets link)) := by
  fun_induction readFortinetPackets link with
  | case1 link err read hread _ => exact readPacket_sound.run_error h hread
  | case2 link err read hread _ => exact readPacket_sound.run_error h hread
  | case3 link err read _ hread => exact readPacket_sound.run_error h hread
  | case4 link packet read hread err taken htake =>
    exact (takePacket_sound packet).run_error (readPacket_sound.run_ok h hread) htake
  | case5 link packet read hread taken htake hlt ih =>
    exact ih ((takePacket_sound packet).run_ok (readPacket_sound.run_ok h hread) htake)

/-- The stack takes packets off one queue and puts packets onto the other. -/
theorem device_sound (h : Sound stream link) (call : DeviceCall) : Sound stream (link.device call) := by
  obtain ⟨⟨packets, htook, hpassed⟩, hkept⟩ := h
  cases call with
  | receive =>
    unfold device
    simp only
    split
    · exact ⟨⟨packets, htook, hpassed⟩, hkept⟩
    · rename_i packet rx hrx
      refine ⟨⟨packets, htook, ?_⟩, hkept.congr rfl rfl rfl rfl⟩
      rw [← hpassed, hrx]
      simp
  | transmit packet =>
    unfold device
    simp only
    split_ifs
    · exact ⟨⟨packets, htook, hpassed⟩, hkept⟩
    · obtain ⟨⟨sent, hbefore⟩, hwhole, hreplies⟩ := hkept
      refine ⟨⟨packets, htook, hpassed⟩, ⟨sent, hbefore.mono List.prefix_rfl (List.prefix_append _ _)
        List.prefix_rfl⟩, fun htorn => ?_, hreplies⟩
      obtain ⟨sent, hsent⟩ := hwhole htorn
      refine ⟨sent, hsent.bytes, hsent.sendable, ?_, hsent.controlSent⟩
      rw [List.filter_append, List.filter_append, hsent.dataSent, List.append_assoc]

theorem turn_sound (h : Sound stream link) (turn : Turn) : Sound stream (link.turn turn) := by
  cases turn with
  | read => exact readFortinetPackets_sound link h
  | poll calls =>
    show Sound stream (calls.foldl device link)
    induction calls generalizing link with
    | nil => exact h
    | cons call calls ih => exact ih (device_sound h call)
  | drain =>
    show Sound stream (final (drainNetstackToFortinet link))
    cases hrun : drainNetstackToFortinet link with
    | ok _ link' => exact drainNetstackToFortinet_sound.run_ok h hrun
    | error err link' => exact drainNetstackToFortinet_sound.run_error h hrun

theorem afterTurns_sound (turns : List Turn) : ∀ {link : Link}, Sound stream link →
    Sound stream (link.afterTurns turns) := by
  induction turns with
  | nil => exact fun h => h
  | cons turn turns ih => exact fun h => ih (turn_sound h turn)

end Sound

theorem start_sound (transport : FortinetTransport) {uplink : Uplink} (hrx : uplink.rx = [])
    (hout : uplink.ppp.outgoing = []) (writes : List Written) :
    Sound transport.pending (start transport uplink writes) := by
  have hsent : Sent [] [] (start transport uplink writes) [] :=
    ⟨rfl, List.forall_mem_nil _, rfl, rfl⟩
  refine ⟨⟨[], .refl _, ?_⟩, ⟨[], hsent.before⟩, fun _ => ⟨[], ?_⟩, ?_⟩
  · show [] ++ uplink.rx ++ [] = []
    rw [hrx]
    rfl
  · show Sent [] uplink.ppp.outgoing _ []
    rw [hout]
    exact hsent
  · show ∀ packet ∈ uplink.ppp.outgoing, IsReply packet
    rw [hout]
    exact List.forall_mem_nil _

theorem SentBefore.gatewayReads {link : Link} {sent : List PppPacket} (h : SentBefore link sent) :
    Forward.GatewayReads (sent.map PppPacket.tlsFrame).flatten sent := by
  intro chunks hchunks
  rw [pushAll_of_drain (hchunks ▸ drain_frames h.sendable)]

/-- An engine whose requests were acknowledged, and sent. -/
def established : PppEngine :=
  PppEngine.reached [.start,
    .handleIncoming (controlPacket protocolLcp codeConfigureAck 1 [lcpOptionMru, 4, 0x05, 0x4a]),
    .handleIncoming (controlPacket protocolIpcp codeConfigureAck 2 [ipcpOptionIpAddress, 6, 10, 0, 0, 42]),
    .drainOutgoing]

end Link

end OpenfortivpnRs.Proxy
