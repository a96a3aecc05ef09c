import OpenfortivpnRs.Proxy.Accept
import OpenfortivpnRs.Proxy.Reply

/-!
# Every request is answered once

The replies written to a client from its request until its stream is dropped.  The handshake, the
resolution, a direct connection and a connection that cannot be started write one on every path but
one: a name that is not UTF-8.  A session through the tunnel writes its reply in the turn that first
finds its socket established, or never (`answered_once_iff`).
-/

namespace OpenfortivpnRs.Proxy

open Relation Lib ClientM Socks5 Text

/-! ### The state of a client -/

/-- No operation on the socket has failed, these bytes are to come and these replies were written. -/
structure At (bytes replies : List UInt8) (client : ClientSocket) : Prop where
  sound : client.failed = false
  bytes : client.bytes = bytes
  replies : client.replies = replies

/-- No operation on the socket has failed, and these replies were written. -/
def Sound (replies : List UInt8) (client : ClientSocket) : Prop :=
  client.failed = false ∧ client.replies = replies

def Failed (client : ClientSocket) : Prop := client.failed = true

theorem At.isSound {bytes replies : List UInt8} {client : ClientSocket} (h : At bytes replies client) :
    Sound replies client := ⟨h.sound, h.replies⟩

/-! ### The operations -/

theorem writeAll_reads (stream : TcpStream) (out : List UInt8) :
    (writeAll stream out).2.reads = stream.reads := by
  fun_induction writeAll stream out with
  | case1 stream => rfl
  | case2 out hne reads => rfl
  | case3 out hne reads err writes hint ih => exact ih
  | case4 out hne reads err writes hint => rfl
  | case5 out hne reads writes => rfl
  | case6 out hne reads n writes hn ih => exact ih

section Operations

variable {bytes replies : List UInt8} {E : ClientSocket → Prop} (hE : ∀ client, Failed client → E client)

include hE

theorem triple_readExact (n : ℕ) : Triple (At bytes replies) (readExact n)
    (fun out client => (out = bytes.take n ∧ n ≤ bytes.length) ∧ At (bytes.drop n) replies client) E := by
  rintro client ⟨hsound, hbytes, hreplies⟩
  unfold readExact
  rcases hread : (Reader.mk client.stream.reads).readExact n with ⟨err | out, reader⟩
  · exact hE _ rfl
  · obtain ⟨hlen, hsplit, -⟩ := Reader.readExact_ok n _ hread
    rw [ClientSocket.bytes, hsplit] at hbytes
    subst hbytes
    refine ⟨⟨?_, ?_⟩, hsound, ?_, hreplies⟩
    · rw [← hlen, List.take_left]
    · rw [List.length_append]
      omega
    · rw [← hlen, List.drop_left]
      rfl

theorem triple_writeAll (out : List UInt8) :
    Triple (At bytes replies) (ClientM.writeAll out) (fun _ => At bytes replies) E := by
  rintro client ⟨hsound, hbytes, hreplies⟩
  have hreads := writeAll_reads client.stream out
  unfold ClientM.writeAll
  rcases hwrite : writeAll client.stream out with ⟨err | ⟨⟩, stream⟩
  · exact hE _ rfl
  · rw [hwrite] at hreads
    refine ⟨hsound, ?_, hreplies⟩
    rw [← hbytes]
    exact congrArg (fun reads => (Reader.mk reads).bytes) hreads

theorem triple_setOption : Triple (At bytes replies) setOption (fun _ => At bytes replies) E := by
  rintro client ⟨hsound, hbytes, hreplies⟩
  unfold setOption
  rcases client.options with _ | ⟨err | ⟨⟩, options⟩
  · exact ⟨hsound, hbytes, hreplies⟩
  · exact hE _ rfl
  · exact ⟨hsound, hbytes, hreplies⟩

theorem triple_writeError (reply : UInt8) :
    Triple (At bytes replies) (writeError reply) (fun _ => At bytes (replies ++ [reply])) E := by
  unfold writeError
  refine Triple.bind (triple_writeAll hE _) fun _ => ?_
  rintro client ⟨hsound, hbytes, hreplies⟩
  exact ⟨hsound, hbytes, by rw [← hreplies]⟩

theorem triple_writeSuccess (bound : Ipv4Addr) (port : UInt16) :
    Triple (At bytes replies) (Socks5.writeSuccess bound port)
      (fun _ => At bytes (replies ++ [replySucceeded])) E := by
  unfold Socks5.writeSuccess
  refine Triple.bind (triple_writeAll hE _) fun _ => ?_
  rintro client ⟨hsound, hbytes, hreplies⟩
  exact ⟨hsound, hbytes, by rw [← hreplies]⟩

theorem triple_discardBytes (len : ℕ) :
    Triple (At bytes replies) (discardBytes len) (fun _ => At (bytes.drop len) replies) E := by
  unfold discardBytes
  refine Triple.bind (triple_readExact hE len) fun _ => ?_
  exact Triple.ret () fun _ h => h.2

end Operations

/-! ### The handshake -/

/-- The greeting has version 5 and offers no authentication. -/
def GreetingAccepted (bytes : List UInt8) : Prop :=
  bytes.getD 0 0 = version ∧ methodNoAuth ∈ (bytes.drop 2).take (bytes.getD 1 0).toNat

/-- The bytes behind the greeting. -/
def requestBytes (bytes : List UInt8) : List UInt8 := bytes.drop (2 + (bytes.getD 1 0).toNat)

/-- The request connects to a domain name that is not UTF-8. -/
def DomainUndecodable (request : List UInt8) : Prop :=
  request.getD 1 0 = commandConnect ∧ request.getD 3 0 = atypDomain ∧
    fromUtf8 ((request.drop 5).take (request.getD 4 0).toNat) = none

instance (request : List UInt8) : Decidable (DomainUndecodable request) := by
  unfold DomainUndecodable
  infer_instance

theorem getD_take {bytes : List UInt8} {i n : ℕ} (h : i < n) :
    (bytes.take n).getD i 0 = bytes.getD i 0 := by
  simp [List.getD_eq_getElem?_getD, List.getElem?_take_of_lt h]

theorem getD_drop (bytes : List UInt8) (i n : ℕ) : (bytes.drop n).getD i 0 = bytes.getD (n + i) 0 := by
  simp [List.getD_eq_getElem?_getD]

theorem triple_negotiateNoAuth {bytes : List UInt8} (hg : GreetingAccepted bytes) :
    Triple (At bytes []) negotiateNoAuth (fun _ => At (requestBytes bytes) []) Failed := by
  obtain ⟨hversion, hmethods⟩ := hg
  unfold negotiateNoAuth
  refine Triple.bind (triple_readExact (fun _ h => h) 2) fun header => Triple.of_imp fun hheader => ?_
  obtain ⟨rfl, hlen⟩ := hheader
  rw [getD_take (by omega), getD_take (by omega), hversion, if_neg (fun h => h rfl)]
  refine Triple.bind (triple_readExact (fun _ h => h) _) fun methods => Triple.of_imp fun hread => ?_
  obtain ⟨rfl, -⟩ := hread
  rw [if_pos hmethods]
  refine (triple_writeAll (fun _ h => h) _).conseq (fun _ h => h) (fun _ client h => ?_) (fun _ h => h)
  unfold requestBytes
  rwa [List.drop_drop] at h

/-- What the handshake leaves where it fails: an answered request, but for a name that is not UTF-8. -/
def Refused (request : List UInt8) (client : ClientSocket) : Prop :=
  Failed client ∨ if DomainUndecodable request then Sound [] client else ∃ reply, Sound [reply] client

theorem Refused.of_replied {request bytes : List UInt8} {reply : UInt8}
    (hdecodes : ¬ DomainUndecodable request) (client : ClientSocket) (h : At bytes [reply] client) :
    Refused request client := by
  refine .inr ?_
  rw [if_neg hdecodes]
  exact ⟨reply, h.isSound⟩

/-- A name that is not UTF-8 ends the handshake without a reply. -/
theorem triple_readDomainConnect {request : List UInt8} (hcommand : request.getD 1 0 = commandConnect)
    (hdomain : request.getD 3 0 = atypDomain) :
    Triple (At (request.drop 4) []) readDomainConnect
      (fun _ client => ¬ DomainUndecodable request ∧ Sound [] client) (Refused request) := by
  have hE : ∀ client, Failed client → Refused request client := fun _ h => .inl h
  unfold readDomainConnect
  refine Triple.bind (triple_readExact hE 1) fun len => Triple.of_imp fun hlen => ?_
  obtain ⟨rfl, -⟩ := hlen
  rw [getD_take Nat.one_pos, getD_drop, List.drop_drop]
  refine Triple.bind (triple_readExact hE _) fun domain => Triple.of_imp fun hread => ?_
  obtain ⟨rfl, -⟩ := hread
  refine Triple.bind (triple_readExact hE 2) fun port => Triple.of_imp fun _ => ?_
  rcases hutf8 : fromUtf8 ((request.drop 5).take (request.getD 4 0).toNat) with _ | name
  · refine Triple.stop _ fun client h => .inr ?_
    rw [if_pos ⟨hcommand, hdomain, hutf8⟩]
    exact h.isSound
  · refine Triple.ret _ fun client h => ⟨fun hundecodable => ?_, h.isSound⟩
    obtain ⟨-, -, hnone⟩ := hundecodable
    rw [hutf8] at hnone
    cases hnone

/-- A request of version 5 is read, or it is refused. -/
theorem triple_readConnectCommand {request : List UInt8} (hversion : request.getD 0 0 = version) :
    Triple (At request []) readConnectCommand
      (fun _ client => ¬ DomainUndecodable request ∧ Sound [] client) (Refused request) := by
  have hE : ∀ client, Failed client → Refused request client := fun _ h => .inl h
  unfold readConnectCommand
  refine Triple.bind (triple_readExact hE 4) fun header => Triple.of_imp fun hheader => ?_
  obtain ⟨rfl, hlen⟩ := hheader
  rw [getD_take (by omega), getD_take (by omega), getD_take (by omega), hversion,
    if_neg (fun h => h rfl)]
  by_cases hcommand : request.getD 1 0 = commandConnect
  · rw [if_neg (fun h => h hcommand)]
    by_cases hipv4 : request.getD 3 0 = atypIpv4
    · -- an IPv4 target
      have hdecodes : ¬ DomainUndecodable request := fun h => by
        have hdomain := h.2.1
        rw [hipv4] at hdomain
        cases hdomain
      rw [if_pos hipv4]
      unfold readIpv4Connect
      refine Triple.bind (triple_readExact hE 6) fun tail => ?_
      exact Triple.ret _ fun client h => ⟨hdecodes, h.2.isSound⟩
    · rw [if_neg hipv4]
      by_cases hdomain : request.getD 3 0 = atypDomain
      · rw [if_pos hdomain]
        exact triple_readDomainConnect hcommand hdomain
      · have hdecodes : ¬ DomainUndecodable request := fun h => hdomain h.2.1
        rw [if_neg hdomain]
        by_cases hipv6 : request.getD 3 0 = atypIpv6
        · rw [if_pos hipv6]
          refine Triple.bind (triple_discardBytes hE 18) fun _ => ?_
          refine Triple.bind (triple_writeError hE _) fun _ => ?_
          exact Triple.stop _ (Refused.of_replied hdecodes)
        · rw [if_neg hipv6]
          refine Triple.bind (triple_writeError hE _) fun _ => ?_
          exact Triple.stop _ (Refused.of_replied hdecodes)
  · have hdecodes : ¬ DomainUndecodable request := fun h => hcommand h.1
    rw [if_pos hcommand]
    refine Triple.bind (triple_writeError hE _) fun _ => ?_
    exact Triple.stop _ (Refused.of_replied hdecodes)

theorem triple_readConnectRequest {bytes : List UInt8} (hg : GreetingAccepted bytes)
    (hversion : (requestBytes bytes).getD 0 0 = version) :
    Triple (At bytes []) readConnectRequest
      (fun _ client => ¬ DomainUndecodable (requestBytes bytes) ∧ Sound [] client)
      (Refused (requestBytes bytes)) := by
  unfold readConnectRequest
  refine Triple.bind ?_ fun _ => triple_readConnectCommand hversion
  exact (triple_negotiateNoAuth hg).conseq (fun _ h => h) (fun _ _ h => h) (fun _ h => .inl h)

/-! ### Behind the handshake -/

/-- A part that needs no more bytes. -/
theorem triple_sound {α : Type} {c : ClientM α} {replies : List UInt8}
    {Q : α → ClientSocket → Prop} {E : ClientSocket → Prop}
    (h : ∀ bytes, Triple (At bytes replies) c Q E) : Triple (Sound replies) c Q E :=
  fun client hsound => h client.bytes client ⟨hsound.1, rfl, hsound.2⟩

/-- A failure is written, or the socket fails, and the program goes on. -/
theorem triple_attempt_failure (reply : UInt8) {E : ClientSocket → Prop} :
    Triple (Sound []) (attempt (writeFailure reply))
      (fun _ client => Failed client ∨ Sound [reply] client) E := by
  have hwrite : Triple (Sound []) (writeFailure reply) (fun _ => Sound [reply]) Failed :=
    triple_sound fun bytes => (triple_writeError (fun _ h => h) reply).conseq (fun _ h => h)
      (fun _ _ h => At.isSound h) (fun _ h => h)
  refine (Triple.attempt hwrite).conseq (fun _ h => h) (fun result client h => ?_) (fun _ h => h)
  rcases result with err | ⟨⟩
  · exact .inl h
  · exact .inr h

/-- A target that is not found is answered. -/
theorem triple_destination (answers : Answers) (request : SocksConnectRequest) :
    Triple (Sound []) (destination answers request)
      (fun addr client => match addr with
        | some _ => Sound [] client
        | none => Failed client ∨ ∃ reply, Sound [reply] client) Failed := by
  unfold destination
  rcases request.target with addr | domain
  · exact Triple.ret _ fun _ h => h
  · simp only
    rcases answers.vpnDns domain with err | addr
    · simp only
      rcases resolveDomainDirect domain (answers.systemDns domain) with err | addr
      · refine Triple.bind (triple_attempt_failure _) fun _ => ?_
        exact Triple.ret _ fun client h => h.imp_right fun hsound => ⟨_, hsound⟩
      · exact Triple.ret _ fun _ h => h
    · exact Triple.ret _ fun _ h => h

/-- A direct connection is answered, whatever becomes of it. -/
theorem triple_startDirectSession (answers : Answers) :
    Triple (Sound []) (startDirectSession answers)
      (fun _ client => ∃ reply, Sound [reply] client)
      (fun client => Failed client ∨ ∃ reply, Sound [reply] client) := by
  have hE : ∀ client, Failed client → Failed client ∨ ∃ reply, Sound [reply] client := fun _ h => .inl h
  unfold startDirectSession
  rcases answers.connectDirect with err | remote
  · refine Triple.bind (triple_attempt_failure _) fun _ => ?_
    exact Triple.stop _ fun client h => h.imp_right fun hsound => ⟨_, hsound⟩
  · refine triple_sound fun bytes => ?_
    refine Triple.bind (triple_writeSuccess hE _ _) fun _ => ?_
    refine Triple.bind (triple_setOption hE) fun _ => ?_
    refine Triple.bind (triple_setOption hE) fun _ => ?_
    refine Triple.bind (triple_setOption hE) fun _ => ?_
    rcases remoteFailure remote with _ | err
    · exact fun client h => ⟨_, At.isSound h⟩
    · exact Triple.stop _ fun client h => .inr ⟨_, h.isSound⟩

/-- What a served client has been written: one reply, but for a session through the tunnel, which owes
it. -/
def ServedAs (served : Served) (client : ClientSocket) : Prop :=
  match served with
  | .dropped => Failed client ∨ ∃ reply, Sound [reply] client
  | .direct _ => ∃ reply, Sound [reply] client
  | .tunneled session => Sound [] client ∧ ∃ stream handle, session = .start stream handle

theorem triple_serveRequest (answers : Answers) (table : ProxyRouteTable)
    (request : SocksConnectRequest) :
    Triple (Sound []) (serveRequest answers table request) ServedAs Failed := by
  unfold serveRequest
  refine Triple.bind (triple_destination answers request) fun addr => ?_
  rcases addr with _ | addr
  · exact Triple.ret _ fun client h => h
  · simp only
    by_cases hroute : table.canRoute addr = true
    · rw [if_neg (fun h => h hroute)]
      rcases answers.connectTcp with err | ⟨⟩
      · refine Triple.bind (triple_attempt_failure _) fun _ => ?_
        exact Triple.ret _ fun client h => h.imp_right fun hsound => ⟨_, hsound⟩
      · refine triple_sound fun bytes => ?_
        refine Triple.bind (triple_setOption (fun _ h => h)) fun _ => ?_
        refine Triple.bind (triple_setOption (fun _ h => h)) fun _ => ?_
        refine Triple.bind (triple_setOption (fun _ h => h)) fun _ => ?_
        exact fun client h => ⟨At.isSound h, _, _, rfl⟩
    · rw [if_pos hroute]
      refine Triple.bind (Triple.attempt (triple_startDirectSession answers)) fun result => ?_
      rcases result with err | session
      · exact Triple.ret _ fun client h => h
      · exact Triple.ret _ fun client h => h

/-- **What serving a client writes** when it asks with version 5. -/
theorem triple_serveClient (answers : Answers) (table : ProxyRouteTable) {bytes : List UInt8}
    (hg : GreetingAccepted bytes) (hversion : (requestBytes bytes).getD 0 0 = version) :
    Triple (At bytes []) (serveClient answers table)
      (fun served client => served = .dropped ∧ Refused (requestBytes bytes) client ∨
        ¬ DomainUndecodable (requestBytes bytes) ∧ ServedAs served client) Failed := by
  unfold serveClient
  refine Triple.bind (triple_setOption (fun _ h => h)) fun _ => ?_
  refine Triple.bind (triple_setOption (fun _ h => h)) fun _ => ?_
  refine Triple.bind (triple_setOption (fun _ h => h)) fun _ => ?_
  refine Triple.bind (triple_setOption (fun _ h => h)) fun _ => ?_
  refine Triple.bind (Triple.attempt (triple_readConnectRequest hg hversion)) fun result => ?_
  rcases result with err | request
  · exact Triple.ret _ fun client h => .inl ⟨rfl, h⟩
  · refine Triple.of_imp fun hdecodes => ?_
    exact (triple_serveRequest answers table request).conseq (fun _ h => h)
      (fun served client h => .inr ⟨hdecodes, h⟩) (fun _ h => h)

/-! ### The session through the tunnel -/

section Course

variable {S : Type} (tcp : Smoltcp S)

/-- What becomes of a session, and whether a turn of `pump_tcp_to_local` has found its socket
established. -/
inductive Course (first : ProxySession) : Bool → ProxySession → Prop
  | start : Course first false first
  | pumpLocal {seen session} (ns : ProxyNetStack S) (h : Course first seen session) :
      Course first seen (pumpLocal tcp session ns).1
  | pumpTcp {seen session session'} {ns ns' : ProxyNetStack S} (h : Course first seen session)
      (hpump : pumpTcp tcp session ns = .ok (session', ns')) :
      Course first (seen || tcpIsEstablished tcp ns session.handle) session'
  | cleanup {seen session} (active : Bool) (h : Course first seen session) :
      Course first seen (noteInactive session active)

end Course

section Sessions

variable {S : Type} {tcp : Smoltcp S}

/-- **The reply of a session** is written once its socket is found established, and only then. -/
theorem Course.replies {stream : TcpStream} {handle : SocketHandle} {seen : Bool}
    {session : ProxySession} (h : Course tcp (.start stream handle) seen session) :
    session.socksReplied = seen ∧ session.trace.count .replied = if seen then 1 else 0 := by
  induction h with
  | start => exact ⟨rfl, rfl⟩
  | @pumpLocal seen session ns _ ih =>
    have hgo := @pumpLocal_continues S tcp session ns
    exact ⟨hgo.socksReplied.trans ih.1, hgo.count.trans ih.2⟩
  | @pumpTcp seen session session' ns ns' _ hpump ih =>
    obtain ⟨hreplied, hcount⟩ := ih
    have hreplies := pumpTcp_replies hpump
    by_cases hdue : session.socksReplied = false ∧ tcpIsEstablished tcp ns session.handle = true
    · rw [if_pos hdue] at hreplies
      obtain ⟨client, hgo⟩ := hreplies
      rw [hdue.1] at hreplied
      subst hreplied
      refine ⟨?_, ?_⟩
      · rw [hgo.socksReplied, hdue.2]
        rfl
      · rw [hgo.count, trace_record, List.count_append, hcount, hdue.2]
        rfl
    · rw [if_neg hdue] at hreplies
      have hsame : (seen || tcpIsEstablished tcp ns session.handle) = seen := by
        rcases hest : tcpIsEstablished tcp ns session.handle with _ | _
        · rw [Bool.or_false]
        · rw [Bool.or_true]
          rw [hest, hreplied] at hdue
          simpa using hdue
      rw [hsame]
      exact ⟨hreplies.socksReplied.trans hreplied, hreplies.count.trans hcount⟩
  | cleanup active _ ih =>
    rw [socksReplied_noteInactive, trace_noteInactive]
    exact ih

theorem AcceptStep.started {cond : Runtime S → Runtime S → Prop} {rt rt' : Runtime S}
    (h : AcceptStep tcp cond rt rt') {session : ProxySession} (hmem : session ∈ rt'.sessions) :
    session ∈ rt.sessions ∨ ∃ client handle, session = .start client handle := by
  cases h with
  | poll hpoll =>
    cases hpoll
    exact .inl hmem
  | addSocket h hnew => exact .inl hmem
  | useSocket h socket hfree => exact .inl hmem
  | removeSocket h hfree => exact .inl hmem
  | session client h hlive hfree =>
    rcases List.mem_append.mp hmem with hold | hnew
    · exact .inl hold
    · exact .inr ⟨client, h, List.mem_singleton.mp hnew⟩

/-- The sessions of the main loop run such courses. -/
theorem Reachable.course {cond : Runtime S → Runtime S → Prop} {sockets : SocketHandle → S}
    {rt : Runtime S} (h : Reachable tcp cond sockets rt) : ∀ session ∈ rt.sessions,
      ∃ client handle seen, Course tcp (.start client handle) seen session := by
  induction h with
  | refl => nofun
  | tail _ hpass ih =>
    obtain ⟨delivered, ⟨haccept, hpump, hpoll, hdeliver⟩, rfl⟩ := hpass
    rename_i accepted pumped polled
    have haccepted : ∀ session ∈ accepted.sessions,
        ∃ client handle seen, Course tcp (.start client handle) seen session := by
      clear hpump
      induction haccept with
      | refl => exact ih
      | tail _ hstep ih' =>
        intro session hmem
        rcases hstep.started hmem with hold | ⟨client, handle, rfl⟩
        · exact ih' session hold
        · exact ⟨client, handle, false, .start⟩
    intro session hmem
    obtain ⟨before, hbefore, -, rfl⟩ := mem_cleanup.mp hmem
    rw [← pumpAll_pumpTcp] at hdeliver
    obtain ⟨found, hfound, ns₁, ns₂, hturn⟩ := mem_pumpAll hdeliver hbefore
    have hpolled : found ∈ pumped.sessions := by
      cases hpoll
      exact hfound
    have hrun := @pumpAll_pumpLocal S tcp accepted.sessions accepted.netstack
    rw [hpump] at hrun
    obtain ⟨early, hearly, ns₃, ns₄, hlocal⟩ := mem_pumpAll hrun hpolled
    obtain ⟨rfl, -⟩ := Prod.ext_iff.mp (Except.ok.inj hlocal)
    obtain ⟨client, handle, seen, hcourse⟩ := haccepted early hearly
    exact ⟨client, handle, _, .cleanup _ (.pumpTcp (.pumpLocal ns₃ hcourse) hturn)⟩

variable (tcp) in
/-- A client from when it is accepted until its stream is dropped, with no operation on its socket
failing while it is served: the number of replies written to it, whether it became a session through
the tunnel, and whether a turn of `pump_tcp_to_local` found the socket of that established. -/
inductive Life (table : ProxyRouteTable) (arrival : Arrival) : ℕ → Bool → Bool → Prop
  | dropped {client} (h : serveClient arrival.answers table arrival.client = .ok .dropped client)
      (hsound : client.failed = false) : Life table arrival client.replies.length false false
  | direct {client session}
      (h : serveClient arrival.answers table arrival.client = .ok (.direct session) client)
      (hsound : client.failed = false) : Life table arrival client.replies.length false false
  | tunneled {client first session seen}
      (h : serveClient arrival.answers table arrival.client = .ok (.tunneled first) client)
      (hsound : client.failed = false) (hcourse : Course tcp first seen session) :
      Life table arrival (client.replies.length + session.trace.count .replied) true seen

/-- A client that was just accepted. -/
def ClientSocket.accepted (stream : TcpStream) (options : List (Except IoError Unit)) : ClientSocket :=
  ⟨stream, options, [], false⟩

/-- A client that was answered and whose socket has not failed has one reply. -/
theorem replies_length {client : ClientSocket} (hsound : client.failed = false)
    (h : Failed client ∨ ∃ reply, Sound [reply] client) : client.replies.length = 1 := by
  rcases h with hfailed | ⟨reply, -, hreplies⟩
  · rw [Failed, hsound] at hfailed
    cases hfailed
  · rw [hreplies]
    rfl

/-- A refused request is answered unless it names an undecodable domain. -/
theorem Refused.replies_length {request : List UInt8} {client : ClientSocket}
    (h : Refused request client) (hsound : client.failed = false) :
    client.replies.length = 1 ↔ ¬ DomainUndecodable request := by
  unfold Refused at h
  by_cases hdomain : DomainUndecodable request
  · rw [if_pos hdomain] at h
    rcases h with hfailed | ⟨-, hreplies⟩
    · rw [Failed, hsound] at hfailed
      cases hfailed
    · simp [hreplies, hdomain]
  · rw [if_neg hdomain] at h
    exact iff_of_true (Proxy.replies_length hsound h) hdomain

/-- **Every request is answered exactly once**, if and only if it does not name a domain that is not
UTF-8 and, where it became a session through the tunnel, `pump_tcp_to_local` found the socket
established before the stream was dropped. -/
theorem answered_once_iff {table : ProxyRouteTable} {answers : Answers} {stream : TcpStream}
    {options : List (Except IoError Unit)} {replies : ℕ} {tunneled seen : Bool}
    (hg : GreetingAccepted (ClientSocket.accepted stream options).bytes)
    (hversion : (requestBytes (ClientSocket.accepted stream options).bytes).getD 0 0 = version)
    (hlife : Life tcp table ⟨.accepted stream options, answers⟩ replies tunneled seen) :
    replies = 1 ↔ ¬ DomainUndecodable (requestBytes (ClientSocket.accepted stream options).bytes) ∧
      (tunneled = true → seen = true) := by
  have hserve := triple_serveClient answers table hg hversion
  have hstart : At (ClientSocket.accepted stream options).bytes [] (.accepted stream options) :=
    ⟨rfl, rfl, rfl⟩
  cases hlife with
  | dropped h hsound =>
    rw [and_iff_left nofun]
    rcases hserve.run_ok hstart h with ⟨-, hrefused⟩ | ⟨hdecodes, hserved⟩
    · exact hrefused.replies_length hsound
    · exact iff_of_true (replies_length hsound hserved) hdecodes
  | direct h hsound =>
    rcases hserve.run_ok hstart h with ⟨hdropped, -⟩ | ⟨hdecodes, hserved⟩
    · cases hdropped
    · exact iff_of_true (replies_length hsound (.inr hserved)) ⟨hdecodes, nofun⟩
  | tunneled h hsound hcourse =>
    rcases hserve.run_ok hstart h with ⟨hdropped, -⟩ | ⟨hdecodes, ⟨-, hreplies⟩, _, _, rfl⟩
    · cases hdropped
    · rw [hreplies, hcourse.replies.2]
      cases seen <;> simp [hdecodes]

end Sessions

/-- Answers of a world in which nothing is reached but through the tunnel. -/
def tunnelOnly : Answers where
  vpnDns _ := .error (.network "VPN configuration did not provide DNS servers")
  systemDns _ := .ok []
  connectDirect := .error ⟨.timedOut, "connection timed out"⟩
  handle := 0
  connectTcp := .ok ()

/-- The table of the default route. -/
def routeAll : ProxyRouteTable := ⟨[.new ⟨0, 0, 0, 0⟩ 0]⟩

/-- What serving a client ends with, if not with an error. -/
def served (stream : TcpStream) : Option (Served × ClientSocket) :=
  match serveClient tunnelOnly routeAll (.accepted stream []) with
  | .ok served client => some (served, client)
  | .error _ _ => none

theorem serveClient_of_served {stream : TcpStream} {outcome : Served} {client : ClientSocket}
    (h : served stream = some (outcome, client)) :
    serveClient tunnelOnly routeAll (.accepted stream []) = .ok outcome client := by
  unfold served at h
  split at h
  · cases h
    assumption
  · cases h

/-- A client that asks for an address, and one that asks for a name that is not UTF-8. -/
def addressClient : TcpStream := ⟨[.ok [5, 1, 0, 5, 1, 0, 1, 10, 0, 0, 1, 0, 80]], [.ok 2, .ok 10]⟩
def undecodableClient : TcpStream := ⟨[.ok [5, 1, 0, 5, 1, 0, 3, 1, 0xff, 0, 80]], [.ok 2]⟩

/-- The connection is established at once, and the reply is written. -/
theorem answered_once_address : ∃ replies,
    Life tcpSockets routeAll ⟨.accepted addressClient [], tunnelOnly⟩ replies true true ∧
      replies = 1 := by
  have hserved : served addressClient = some (.tunneled (.start ⟨[], [.ok 10]⟩ 0),
      ⟨⟨[], [.ok 10]⟩, [], [], false⟩) := by decide +kernel
  obtain ⟨session, hreply⟩ : ∃ session,
      reply tcpSockets (.start ⟨[], [.ok 10]⟩ 0) established = .ok session := by
    unfold reply
    rw [if_pos ⟨Bool.false_ne_true, rfl⟩]
    have hwritten : writeSuccess (ProxySession.start ⟨[], [.ok 10]⟩ 0).client = (.ok (), ⟨[], []⟩) := by
      decide +kernel
    rw [hwritten]
    exact ⟨_, rfl⟩
  have hpump : pumpTcp tcpSockets (.start ⟨[], [.ok 10]⟩ 0) established = .ok (deliver tcpSockets
      (receive tcpSockets session established).1 (receive tcpSockets session established).2) := by
    unfold pumpTcp
    rw [hreply]
  have hlife : Life tcpSockets routeAll ⟨.accepted addressClient [], tunnelOnly⟩ _ true true :=
    .tunneled (serveClient_of_served hserved) rfl (.pumpTcp .start hpump)
  refine ⟨_, hlife, (answered_once_iff ⟨by decide +kernel, by decide +kernel⟩ (by decide +kernel)
    hlife).mpr ⟨by decide +kernel, fun _ => rfl⟩⟩

/-- The request for the undecodable name is not answered. -/
theorem undecodable_not_answered : ¬ ∀ (table : ProxyRouteTable) (answers : Answers)
    (stream : TcpStream) (options : List (Except IoError Unit)) (replies : ℕ) (tunneled seen : Bool),
    GreetingAccepted (ClientSocket.accepted stream options).bytes →
    (requestBytes (ClientSocket.accepted stream options).bytes).getD 0 0 = version →
    Life tcpSockets table ⟨.accepted stream options, answers⟩ replies tunneled seen →
      replies = 1 := by
  intro h
  have hserved : served undecodableClient = some (.dropped, ⟨⟨[], []⟩, [], [], false⟩) := by
    decide +kernel
  have hlife : Life tcpSockets routeAll ⟨.accepted undecodableClient [], tunnelOnly⟩ _ false false :=
    .dropped (serveClient_of_served hserved) rfl
  have hone := h _ _ _ _ _ _ _ ⟨by decide +kernel, by decide +kernel⟩ (by decide +kernel) hlife
  exact absurd hone (by decide)

end OpenfortivpnRs.Proxy
