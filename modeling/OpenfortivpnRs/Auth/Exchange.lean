import OpenfortivpnRs.Auth.Saml
import OpenfortivpnRs.Http.Requests

/-!
# A session's requests over a connection

A login takes an exchange as one call of the gateway.  Here the gateway is at the other end of a connection:
a request is the bytes `http_send` writes, and its answer is what `http_receive` makes of the bytes that
come back, in whatever reads.  A session over such a connection is the session of a login whose gateway is
handed each request and hands back its answer (`session_over_wire`): no request is lost, cut in two or run
into the next one, and no answer is taken for another.
-/

namespace OpenfortivpnRs.Auth

open Text Http Lib

/-! ### Both ends -/

namespace Request

/-- What `http_send` writes for it. -/
def bytes (request : Request) : List UInt8 :=
  httpSend request.host request.method request.path request.headers request.body

/-- What it asks for. -/
def asked (request : Request) : Asked :=
  ⟨request.method, request.path, sentHeaders request.host request.headers request.body.length, request.body⟩

end Request

/-- The far side of a login: the gateway, the reads in which its answers come, and the user.  The gateway
sends the lengths of its answers. -/
structure FarSide (τ : Type) where
  answer (asked : Asked) : τ → HttpResponse × τ
  reads (bytes : List UInt8) : τ → List (List UInt8)
  readSecret (pinentry : Option String) (hint prompt : String) : τ → Result String × τ
  sendable : ∀ asked s, Sendable (answer asked s).1
  splits : ∀ bytes s, Splits bytes (reads bytes s)

/-- A connection: the far side, the bytes it has not read a request from, and the reads to come here. -/
structure Wire (τ : Type) where
  state : τ
  inbox : List UInt8
  incoming : Reader

namespace FarSide

variable {τ : Type} (far : FarSide τ)

/-- Every request that is there is answered: the answers, and the bytes in which no request is. -/
def serve (s : τ) (inbox : List UInt8) : List UInt8 × τ × List UInt8 :=
  match h : readRequest inbox with
  | none => ([], s, inbox)
  | some (asked, rest) =>
    have := readRequest_lt h
    let (response, s) := far.answer asked s
    let (answers, s, rest) := serve s rest
    (response.bytes ++ answers, s, rest)
termination_by inbox.length

/-- The gateway at the other end of a connection. -/
def wired : Gateway (Wire τ) where
  doHttpRequest request w :=
    let (answers, state, inbox) := far.serve w.state (w.inbox ++ request.bytes)
    let (result, incoming) := httpReceive ⟨w.incoming.reads ++ (far.reads answers state).map .ok⟩
    (result, ⟨state, inbox, incoming⟩)
  readSecret pinentry hint prompt w :=
    let (result, state) := far.readSecret pinentry hint prompt w.state
    (result, { w with state := state })

/-- The gateway that is handed the requests. -/
def direct : Gateway τ where
  doHttpRequest request s :=
    let (response, s) := far.answer request.asked s
    (receivedAs response, s)
  readSecret := far.readSecret

end FarSide

/-! ### The requests of a session -/

/-- A value that can be sent in a header. -/
def FitsHeader (value : String) : Prop := '\r' ∉ value.toList ∧ Trimmed value.toList

instance : DecidablePred FitsHeader := fun value =>
  inferInstanceAs (Decidable ('\r' ∉ value.toList ∧ Trimmed value.toList))

/-- What a configuration puts into every request can be sent. -/
structure ConfigFits (config : Config) : Prop where
  host : FitsHeader (httpHost config)
  userAgent : FitsHeader config.userAgent

/-- What a gateway put into a request can be sent: the path is one word and the cookie a line. -/
structure Plain (request : Request) : Prop where
  path : ' ' ∉ request.path.toList ∧ '\r' ∉ request.path.toList
  cookie : ∀ header ∈ request.headers, header.1 = "Cookie" → FitsHeader header.2
  size : request.body.length ≤ 2 ^ 64 - 1

instance : DecidablePred Plain := fun request =>
  decidable_of_iff ((' ' ∉ request.path.toList ∧ '\r' ∉ request.path.toList) ∧
    (∀ header ∈ request.headers, header.1 = "Cookie" → FitsHeader header.2) ∧ request.body.length ≤ 2 ^ 64 - 1)
    ⟨fun h => ⟨h.1, h.2.1, h.2.2⟩, fun h => ⟨h.path, h.cookie, h.size⟩⟩

/-- The requests of a session. -/
structure OfSession (config : Config) (request : Request) : Prop where
  host : request.host = httpHost config
  method : request.method = "GET" ∨ request.method = "POST"
  headers : ∀ header ∈ request.headers,
    header = formContentType ∨ header = ("User-Agent", config.userAgent) ∨ ∃ cookie, header = ("Cookie", cookie)

theorem OfLogin.ofSession {config : Config} {request : Request} (h : OfLogin config request) :
    OfSession config request := by
  cases h with
  | get path => exact ⟨rfl, .inl rfl, by simp⟩
  | post path body => exact ⟨rfl, .inr rfl, by simp⟩
  | postWithCookie path body cookie => exact ⟨rfl, .inr rfl, by simp⟩

theorem ofSession_portalRequest (config : Config) (cookie path : String) :
    OfSession config (portalRequest config cookie path) := ⟨rfl, .inl rfl, by simp [portalRequest]⟩

theorem plain_portalRequest {config : Config} {cookie path : String} (hcookie : FitsHeader cookie)
    (hpath : ' ' ∉ path.toList ∧ '\r' ∉ path.toList) : Plain (portalRequest config cookie path) := by
  refine ⟨hpath, fun header hmem hname => ?_, Nat.zero_le _⟩
  rcases List.mem_cons.mp hmem with rfl | hmem
  · exact hcookie
  · rw [List.mem_singleton.mp hmem] at hname
    exact absurd hname (by decide : ¬ "User-Agent" = "Cookie")

/-- **A request of a session can be sent** if what the gateway put into it can. -/
theorem OfSession.fits {config : Config} {request : Request} (h : OfSession config request) (hconfig : ConfigFits config)
    (hplain : Plain request) :
    RequestFits request.host request.method request.path request.headers request.body where
  method_word := by
    rcases h.method with hmethod | hmethod <;> rw [hmethod] <;> decide
  path_word := hplain.path
  host_line := h.host ▸ hconfig.host
  header_fits name value hmem := by
    rcases h.headers _ hmem with hheader | hheader | ⟨cookie, hheader⟩
    · cases hheader
      exact ⟨by decide, by decide, by decide, by decide, by decide⟩
    · cases hheader
      exact ⟨by decide, by decide, by decide, hconfig.userAgent.1, hconfig.userAgent.2⟩
    · cases hheader
      have hcookie := hplain.cookie _ hmem rfl
      exact ⟨by decide, by decide, by decide, hcookie.1, hcookie.2⟩
  unchunked name value hmem := by
    rcases h.headers _ hmem with hheader | hheader | ⟨cookie, hheader⟩ <;> cases hheader <;> decide
  size := hplain.size

/-! ### Exchanges -/

section Exchange

variable {τ : Type} (far : FarSide τ)

/-- A request is read whole, and nothing else. -/
theorem serve_bytes {request : Request}
    (h : RequestFits request.host request.method request.path request.headers request.body) (s : τ) :
    far.serve s request.bytes = ((far.answer request.asked s).1.bytes, (far.answer request.asked s).2, []) := by
  have hread := h.readRequest_httpSend []
  rw [List.append_nil] at hread
  have hrest (s : τ) : far.serve s [] = ([], s, []) := by
    rw [FarSide.serve]
    rfl
  rw [FarSide.serve]
  split
  · rename_i hnone
    rw [show readRequest request.bytes = _ from hread] at hnone
    cases hnone
  · rename_i hsome
    rw [show readRequest request.bytes = _ from hread] at hsome
    cases hsome
    simp only [hrest, List.append_nil]
    rfl

/-- Some request of the conversation cannot be sent. -/
def Garbled (w : Conversation τ) : Prop := ∃ exchange ∈ w.exchanges, ¬ Plain exchange.1

/-- The same exchanges have been made, and nothing of them is left on the connection. -/
def InStep (w : Conversation τ) (w' : Conversation (Wire τ)) : Prop :=
  w'.state = ⟨w.state, [], ⟨[]⟩⟩ ∧ w'.exchanges = w.exchanges

/-- **One exchange over the connection** is the exchange of a gateway that is handed the request. -/
theorem wired_request {request : Request}
    (h : RequestFits request.host request.method request.path request.headers request.body) (s : τ) :
    far.wired.doHttpRequest request ⟨s, [], ⟨[]⟩⟩ =
      ((far.direct.doHttpRequest request s).1, ⟨(far.direct.doHttpRequest request s).2, [], ⟨[]⟩⟩) := by
  have hreceive := (far.sendable request.asked s).httpReceive_eq
    (far.splits _ (far.answer request.asked s).2)
  unfold readerOf at hreceive
  simp only [FarSide.wired, FarSide.direct, List.nil_append, serve_bytes far h, hreceive, List.map_nil]

variable {far}

/-- Whatever comes of a request, its exchange is the last. -/
theorem exchanges_doHttpRequest (gateway : Gateway τ) (request : Request) (w : Conversation τ) :
    (endState (doHttpRequest gateway request w)).exchanges =
      w.exchanges ++ [(request, (gateway.doHttpRequest request w.state).1)] := by
  unfold doHttpRequest
  obtain ⟨result, state⟩ := gateway.doHttpRequest request w.state
  cases result <;> rfl

/-- A conversation that was garbled stays so. -/
theorem Garbled.request (gateway : Gateway τ) (request : Request) {w : Conversation τ} (h : Garbled w) :
    Garbled (endState (doHttpRequest gateway request w)) := by
  obtain ⟨exchange, hmem, hplain⟩ := h
  refine ⟨exchange, ?_, hplain⟩
  rw [exchanges_doHttpRequest]
  exact List.mem_append_left _ hmem

theorem garbled_of_not_plain (gateway : Gateway τ) {request : Request} (h : ¬ Plain request) (w : Conversation τ) :
    Garbled (endState (doHttpRequest gateway request w)) := by
  refine ⟨(request, (gateway.doHttpRequest request w.state).1), ?_, h⟩
  rw [exchanges_doHttpRequest]
  exact List.mem_append_right _ (List.mem_singleton_self _)

theorem not_garbled {w : Conversation τ} {request : Request}
    (hw : ∃ result, w.exchanges = [(request, result)]) (h : Plain request) : ¬ Garbled w := by
  obtain ⟨result, hw⟩ := hw
  rintro ⟨exchange, hmem, hnot⟩
  rw [hw, List.mem_singleton] at hmem
  rw [hmem] at hnot
  exact hnot h

theorem simulates_request {config : Config} (hconfig : ConfigFits config) {request : Request}
    (h : OfSession config request) :
    Simulates Garbled InStep InStep (doHttpRequest far.direct request) (doHttpRequest far.wired request) where
  stays _ hw := hw.request _ request
  agrees w w' hw hend := by
    have hplain : Plain request := by_contra fun hnot => hend (garbled_of_not_plain _ hnot w)
    obtain ⟨state, exchanges⟩ := w'
    obtain ⟨rfl, rfl⟩ := hw
    unfold doHttpRequest
    rw [wired_request far (h.fits hconfig hplain)]
    obtain ⟨result, state⟩ := far.direct.doHttpRequest request w.state
    cases result with
    | ok response => exact ⟨rfl, rfl, rfl⟩
    | error err => exact ⟨rfl, rfl, rfl⟩

theorem simulates_question (pinentry : Option String) (hint prompt : String) :
    Simulates Garbled InStep InStep (readSecret far.direct pinentry hint prompt)
      (readSecret far.wired pinentry hint prompt) where
  stays w hw := by
    unfold readSecret
    obtain ⟨result, state⟩ := far.direct.readSecret pinentry hint prompt w.state
    cases result <;> exact hw
  agrees w w' hw _ := by
    obtain ⟨state, exchanges⟩ := w'
    obtain ⟨rfl, rfl⟩ := hw
    have hwired : far.wired.readSecret pinentry hint prompt ⟨w.state, [], ⟨[]⟩⟩ =
        ((far.direct.readSecret pinentry hint prompt w.state).1,
          ⟨(far.direct.readSecret pinentry hint prompt w.state).2, [], ⟨[]⟩⟩) := rfl
    unfold readSecret
    rw [hwired]
    obtain ⟨result, state⟩ := far.direct.readSecret pinentry hint prompt w.state
    cases result with
    | ok secret => exact ⟨rfl, rfl, rfl⟩
    | error err => exact ⟨rfl, rfl, rfl⟩

variable (far)

theorem lockstep_wire {config : Config} (hconfig : ConfigFits config) :
    Lockstep Garbled InStep InStep config far.direct far.wired where
  stop _ _ hw := hw
  request _ hlogin := simulates_request hconfig hlogin.ofSession
  question := simulates_question

theorem simulates_getSuccess {config : Config} (hconfig : ConfigFits config) (cookie path : String) :
    Simulates Garbled InStep InStep (getSuccess far.direct config cookie path)
      (getSuccess far.wired config cookie path) := by
  unfold getSuccess
  exact (simulates_request hconfig (ofSession_portalRequest config cookie path)).bind fun response =>
    ((lockstep_wire far hconfig).ofResult _).bind fun _ => .ret _

end Exchange

/-! ### Sessions -/

section Session

variable {τ : Type} (gateway : Gateway τ)

/-- The login of `TunnelSession::prepare`. -/
def logInAsConfigured (config : Config) : Login τ AuthSession :=
  match config.samlSessionId with
  | some samlSessionId => authenticateWithSamlSession gateway config samlSessionId.toList
  | none => authenticate gateway config

/-- What `TunnelSession::prepare` does on its first connection; the cookie it goes on with. -/
def logInAndAllocate (config : Config) : Login τ String := do
  let authSession ← logInAsConfigured gateway config
  requestVpnAllocation gateway config authSession.cookie authSession.portalRedirect
  return authSession.cookie

variable (far : FarSide τ) {config : Config} (hconfig : ConfigFits config)

include hconfig

theorem simulates_logInAndAllocate :
    Simulates Garbled InStep InStep (logInAndAllocate far.direct config) (logInAndAllocate far.wired config) := by
  have hlogin : Simulates Garbled InStep InStep (logInAsConfigured far.direct config)
      (logInAsConfigured far.wired config) := by
    unfold logInAsConfigured
    split
    · exact (lockstep_wire far hconfig).authenticateWithSamlSession _
    · exact (lockstep_wire far hconfig).authenticate
  have hsuccess := simulates_getSuccess far hconfig
  unfold logInAndAllocate requestVpnAllocation
  exact hlogin.bind fun authSession => ((hsuccess _ _).bind fun _ => (hsuccess _ _).bind fun _ => .ret _).bind
    fun _ => .ret _

theorem simulates_getVpnConfig (cookie : String) : Simulates Garbled InStep InStep
    (getVpnConfig far.direct config cookie) (getVpnConfig far.wired config cookie) := by
  unfold getVpnConfig
  exact (simulates_getSuccess far hconfig _ _).bind fun response =>
    ((lockstep_wire far hconfig).okOr _ _).bind fun _ => .ret _

theorem simulates_logOut (cookie : String) : Simulates Garbled InStep InStep
    (logOut far.direct config cookie) (logOut far.wired config cookie) := by
  unfold logOut
  exact (simulates_getSuccess far hconfig _ _).bind fun _ => .ret _

/-- **A session over connections is a session of exchanges.**  As long as what the gateway puts into the
requests can be sent, the login and the allocation end the same as with a gateway that is handed the
requests, with the same exchanges and with nothing of them left on the connection; and so do the request
for the configuration and the logout, with any cookie that can be sent. -/
theorem session_over_wire (s : τ)
    (hplain : ∀ exchange ∈ (endState (logInAndAllocate far.direct config ⟨s, []⟩)).exchanges,
      Plain exchange.1) :
    SameEnd InStep InStep (logInAndAllocate far.direct config ⟨s, []⟩)
        (logInAndAllocate far.wired config ⟨⟨s, [], ⟨[]⟩⟩, []⟩) ∧
      ∀ cookie, FitsHeader cookie → ∀ s,
        SameEnd InStep InStep (getVpnConfig far.direct config cookie ⟨s, []⟩)
            (getVpnConfig far.wired config cookie ⟨⟨s, [], ⟨[]⟩⟩, []⟩) ∧
          SameEnd InStep InStep (logOut far.direct config cookie ⟨s, []⟩)
            (logOut far.wired config cookie ⟨⟨s, [], ⟨[]⟩⟩, []⟩) := by
  have hstart (s : τ) : InStep (⟨s, []⟩ : Conversation τ) ⟨⟨s, [], ⟨[]⟩⟩, []⟩ := ⟨rfl, rfl⟩
  refine ⟨(simulates_logInAndAllocate far hconfig).agrees _ _ (hstart s) ?_, fun cookie hcookie s =>
    ⟨(simulates_getVpnConfig far hconfig cookie).agrees _ _ (hstart s) ?_,
      (simulates_logOut far hconfig cookie).agrees _ _ (hstart s) ?_⟩⟩
  · rintro ⟨exchange, hmem, hnot⟩
    exact hnot (hplain exchange hmem)
  · have hone : Triple (fun w => w.exchanges = []) (getVpnConfig far.direct config cookie)
        (fun _ w => ∃ result, w.exchanges = [(portalRequest config cookie "/remote/fortisslvpn_xml", result)])
        fun w => ∃ result, w.exchanges = [(portalRequest config cookie "/remote/fortisslvpn_xml", result)] := by
      refine (triple_getVpnConfig config cookie).conseq (fun _ hw => hw) ?_ ?_
      · rintro vpnConfig w ⟨response, rawXml, -, -, -, hw⟩
        exact ⟨_, hw⟩
      · rintro w ⟨result, hw, -⟩
        exact ⟨result, hw⟩
    exact not_garbled (hone.endState rfl) (plain_portalRequest hcookie (by decide))
  · exact not_garbled ((triple_logOut config cookie).endState rfl) (plain_portalRequest hcookie (by decide))

end Session

/-- An answer to any request: a session cookie and no body. -/
def openAnswer : HttpResponse :=
  ⟨200, "OK", [("Content-Length", "0"), ("Set-Cookie", "SVPNCOOKIE=a1; secure")], []⟩

theorem sendable_openAnswer : Sendable openAnswer where
  fits := by
    refine ⟨by decide, by decide, fun name value hmem => ?_⟩
    simp only [openAnswer, List.mem_cons, Prod.mk.injEq, List.not_mem_nil, or_false] at hmem
    rcases hmem with ⟨rfl, rfl⟩ | ⟨rfl, rfl⟩ <;> exact ⟨by decide, by decide, by decide, by decide, by decide⟩
  short := by decide +kernel
  length := ⟨"Content-Length", "0", by decide, by decide, by decide⟩
  size := by decide

/-- A gateway that lets everyone in and answers byte by byte. -/
def openGateway : FarSide Unit where
  answer _ s := (openAnswer, s)
  reads bytes _ := bytes.map fun b => [b]
  readSecret _ _ _ s := (.ok "", s)
  sendable _ _ := sendable_openAnswer
  splits bytes _ := splits_bytes bytes

def guestConfig : Config :=
  { Config.default with gatewayHost := "vpn.example", username := "guest", password := some "a b" }

/-- Three requests are made of it. -/
theorem session_over_wire_guest :
    ((endState (logInAndAllocate openGateway.direct guestConfig ⟨(), []⟩)).exchanges.map fun exchange =>
        exchange.1.path) = ["/remote/logincheck", "/remote/index", "/remote/fortisslvpn"] ∧
      SameEnd InStep InStep (logInAndAllocate openGateway.direct guestConfig ⟨(), []⟩)
        (logInAndAllocate openGateway.wired guestConfig ⟨⟨(), [], ⟨[]⟩⟩, []⟩) :=
  ⟨by decide +kernel, (session_over_wire openGateway ⟨by decide +kernel, by decide +kernel⟩ () (by decide +kernel)).1⟩

end OpenfortivpnRs.Auth
