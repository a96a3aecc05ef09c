import OpenfortivpnRs.Auth.Lockstep
import OpenfortivpnRs.Auth.LoginSafety
import OpenfortivpnRs.Auth.Portal

/-!
# The requests behind a login (`auth/portal.rs`)

With the session cookie the client asks for an allocation and for the configuration of the tunnel, and
logs out.  A login sends nothing behind an exchange that failed (`Prompt`), and neither do these
requests, each of which has to succeed (`triple_requestVpnAllocation`, `triple_getVpnConfig`).
-/

namespace OpenfortivpnRs.Auth

open Text Http Lib

variable {σ α β : Type} (gateway : Gateway σ)

/-- A path on the gateway itself. -/
def validRedirectPath (path : Option String) : Option String :=
  path.filter fun path => ['/'] <+: path.toList ∧ ¬ ['/', '/'] <+: path.toList

def ensureSuccess (path : String) (response : HttpResponse) : Result Unit :=
  if 200 ≤ response.statusCode ∧ response.statusCode < 300 then .ok ()
  else .error (.httpProtocol (path ++ ": unexpected HTTP status: " ++ toString response.statusCode ++
    " " ++ response.reason))

/-- A request with the session cookie. -/
def portalRequest (config : Config) (cookie path : String) : Request :=
  ⟨httpHost config, "GET", path, [("Cookie", cookie), ("User-Agent", config.userAgent)], []⟩

/-- A request with the session cookie that has to succeed. -/
def getSuccess (config : Config) (cookie path : String) : Login σ HttpResponse := do
  let response ← doHttpRequest gateway (portalRequest config cookie path)
  Login.ofResult (ensureSuccess path response)
  return response

def requestVpnAllocation (config : Config) (cookie : String) (portalRedirect : Option String) :
    Login σ Unit := do
  let _ ← getSuccess gateway config cookie ((validRedirectPath portalRedirect).getD "/remote/index")
  let _ ← getSuccess gateway config cookie "/remote/fortisslvpn"
  return ()

def getVpnConfig (config : Config) (cookie : String) : Login σ VpnConfigXml := do
  let response ← getSuccess gateway config cookie "/remote/fortisslvpn_xml"
  let rawXml ← Login.okOr (.error (.httpProtocol "VPN config XML is not UTF-8")) response.bodyAsStr
  return parseVpnConfigXml (.ofList rawXml)

def logOut (config : Config) (cookie : String) : Login σ Unit := do
  let _ ← getSuccess gateway config cookie "/remote/logout"
  return ()

/-! ### Logins -/

/-- The session cookie of one of these requests; a login posts its cookie or has none. -/
def sessionCookie (request : Request) : Option String :=
  if request.method = "GET" then request.headers.lookup "Cookie" else none

/-- The exchanges are those of a login and have a response each. -/
def AllAnswered (exchanges : List (Request × Result HttpResponse)) : Prop :=
  ∀ exchange ∈ exchanges, sessionCookie exchange.1 = none ∧ exchange.2.isOk = true

/-- So are they, and only the last one may have failed. -/
def AnsweredButLast (exchanges : List (Request × Result HttpResponse)) : Prop :=
  AllAnswered exchanges ∨ ∃ front request err, exchanges = front ++ [(request, .error err)] ∧
    AllAnswered front ∧ sessionCookie request = none

/-- The program is a login that sends nothing behind an exchange that failed. -/
def Prompt (c : Login σ α) : Prop :=
  Triple (fun w => AllAnswered w.exchanges) c (fun _ w => AllAnswered w.exchanges)
    fun w => AnsweredButLast w.exchanges

section

variable {gateway}

theorem prompt_request {config : Config} {request : Request} (hlogin : OfLogin config request) :
    Prompt (doHttpRequest gateway request) := by
  have hcookie : sessionCookie request = none := by cases hlogin <;> rfl
  intro w hw
  unfold doHttpRequest
  obtain ⟨result, state⟩ := gateway.doHttpRequest request w.state
  cases result with
  | ok response =>
    intro exchange hmem
    rcases List.mem_append.mp hmem with h | h
    · exact hw exchange h
    · rw [List.mem_singleton.mp h]
      exact ⟨hcookie, rfl⟩
  | error err => exact .inr ⟨w.exchanges, request, err, rfl, hw, hcookie⟩

theorem prompt_question (pinentry : Option String) (hint prompt : String) :
    Prompt (readSecret gateway pinentry hint prompt) := by
  intro w hw
  unfold readSecret
  obtain ⟨result, state⟩ := gateway.readSecret pinentry hint prompt w.state
  cases result with
  | ok secret => exact hw
  | error err => exact .inl hw

/-- A gateway in step with itself, with an exchange that failed only at the end. -/
theorem lockstep_prompt (config : Config) :
    Lockstep (fun _ => False) (fun w w' => w = w' ∧ AllAnswered w.exchanges)
      (fun w w' => w = w' ∧ AnsweredButLast w.exchanges) config gateway gateway where
  stop _ _ hw := ⟨hw.1, .inl hw.2⟩
  request _ hlogin := .of_triple (prompt_request hlogin)
  question pinentry hint prompt := .of_triple (prompt_question pinentry hint prompt)

theorem prompt_authenticate (config : Config) : Prompt (authenticate gateway config) :=
  (lockstep_prompt config).authenticate.triple

end

/-! ### Requests that have to succeed -/

/-- A request was answered with a status of success. -/
def Succeeded : Result HttpResponse → Prop
  | .ok response => 200 ≤ response.statusCode ∧ response.statusCode < 300
  | .error _ => False

instance : DecidablePred Succeeded := fun result =>
  match result with
  | .ok _ => inferInstanceAs (Decidable (_ ∧ _))
  | .error _ => inferInstanceAs (Decidable False)

section Triples

variable {gateway}

theorem triple_ofResult_of_imp {P E : Conversation σ → Prop} (result : Result α) (h : ∀ w, P w → E w) :
    Triple P (Login.ofResult result) (fun a w => result = .ok a ∧ P w) E := by
  cases result with
  | ok a => exact Triple.ret a fun w hw => ⟨rfl, hw⟩
  | error err => exact Triple.stop _ h

theorem triple_ofPanic_of_imp {P E : Conversation σ → Prop} (result : Except Panic α)
    (h : ∀ w, P w → E w) : Triple P (Login.ofPanic result) (fun _ w => P w) E := by
  cases result with
  | ok a => exact Triple.ret a fun w hw => hw
  | error why => exact Triple.stop _ h

theorem triple_request (request : Request) (exchanges : List (Request × Result HttpResponse)) :
    Triple (fun w => w.exchanges = exchanges) (doHttpRequest gateway request)
      (fun response w => w.exchanges = exchanges ++ [(request, .ok response)])
      fun w => ∃ err, w.exchanges = exchanges ++ [(request, .error err)] := by
  rintro w rfl
  unfold doHttpRequest
  obtain ⟨result, state⟩ := gateway.doHttpRequest request w.state
  cases result with
  | ok response => exact rfl
  | error err => exact ⟨err, rfl⟩

variable (config : Config) (cookie : String)

/-- The last request did not succeed. -/
def EndsUnsuccessfully (exchanges : List (Request × Result HttpResponse)) (request : Request)
    (w : Conversation σ) : Prop :=
  ∃ result, ¬ Succeeded result ∧ w.exchanges = exchanges ++ [(request, result)]

theorem triple_getSuccess (path : String) (exchanges : List (Request × Result HttpResponse)) :
    Triple (fun w => w.exchanges = exchanges) (getSuccess gateway config cookie path)
      (fun response w => Succeeded (.ok response) ∧
        w.exchanges = exchanges ++ [(portalRequest config cookie path, .ok response)])
      (EndsUnsuccessfully exchanges (portalRequest config cookie path)) := by
  unfold getSuccess
  refine Triple.bind ((triple_request _ exchanges).conseq (fun _ hw => hw) (fun _ _ hw => hw) ?_)
    fun response => ?_
  · rintro w ⟨err, hw⟩
    exact ⟨.error err, id, hw⟩
  · unfold ensureSuccess
    split
    · rename_i hstatus
      exact Triple.ret response fun w hw => ⟨hstatus, hw⟩
    · rename_i hstatus
      exact Triple.stop _ fun w hw => ⟨.ok response, hstatus, hw⟩

/-- **What an allocation leaves behind it**: two requests with the cookie that succeeded, or the first that
did not. -/
theorem triple_requestVpnAllocation (portalRedirect : Option String) :
    Triple (fun w => w.exchanges = []) (requestVpnAllocation gateway config cookie portalRedirect)
      (fun _ w => ∃ path first second, Succeeded (.ok first) ∧ Succeeded (.ok second) ∧
        w.exchanges = [(portalRequest config cookie path, .ok first),
          (portalRequest config cookie "/remote/fortisslvpn", .ok second)])
      fun w => ∃ path, EndsUnsuccessfully [] (portalRequest config cookie path) w ∨
        ∃ first, Succeeded (.ok first) ∧ EndsUnsuccessfully [(portalRequest config cookie path, .ok first)]
          (portalRequest config cookie "/remote/fortisslvpn") w := by
  unfold requestVpnAllocation
  refine Triple.bind ((triple_getSuccess config cookie _ []).conseq (fun _ hw => hw) (fun _ _ hw => hw)
    fun w hw => ⟨_, .inl hw⟩) fun first => Triple.of_imp fun hfirst => ?_
  refine Triple.bind ((triple_getSuccess config cookie _ _).conseq (fun _ hw => hw) (fun _ _ hw => hw)
    fun w hw => ⟨_, .inr ⟨first, hfirst, hw⟩⟩) fun second => ?_
  exact Triple.ret () fun w hw => ⟨_, first, second, hfirst, hw.1, hw.2⟩

/-- **What fetching the configuration leaves behind it**: one request with the cookie; the configuration is
read off its response, or the request did not succeed or its body is not UTF-8. -/
theorem triple_getVpnConfig :
    Triple (fun w => w.exchanges = []) (getVpnConfig gateway config cookie)
      (fun vpnConfig w => ∃ response rawXml, Succeeded (.ok response) ∧ response.bodyAsStr = some rawXml ∧
        vpnConfig = parseVpnConfigXml (.ofList rawXml) ∧
        w.exchanges = [(portalRequest config cookie "/remote/fortisslvpn_xml", .ok response)])
      fun w => ∃ result, w.exchanges = [(portalRequest config cookie "/remote/fortisslvpn_xml", result)] ∧
        ∀ response, result = .ok response → Succeeded result → response.bodyAsStr = none := by
  unfold getVpnConfig
  refine Triple.bind ((triple_getSuccess config cookie _ []).conseq (fun _ hw => hw) (fun _ _ hw => hw) ?_)
    fun response => Triple.of_imp fun hsucceeded => ?_
  · rintro w ⟨result, hfailed, hw⟩
    exact ⟨result, hw, fun _ _ h => absurd h hfailed⟩
  · cases hbody : response.bodyAsStr with
    | none =>
      refine Triple.stop _ fun w hw => ⟨_, hw, ?_⟩
      rintro response hresponse -
      cases hresponse
      exact hbody
    | some rawXml => exact Triple.ret _ fun w hw => ⟨response, rawXml, hsucceeded, hbody, rfl, hw⟩

theorem triple_logOut :
    Triple (fun w => w.exchanges = []) (logOut gateway config cookie)
      (fun _ w => ∃ result, w.exchanges = [(portalRequest config cookie "/remote/logout", result)])
      fun w => ∃ result, w.exchanges = [(portalRequest config cookie "/remote/logout", result)] := by
  unfold logOut
  refine Triple.bind ((triple_getSuccess config cookie _ []).conseq (fun _ hw => hw) (fun _ _ hw => hw) ?_)
    fun response => ?_
  · rintro w ⟨result, -, hw⟩
    exact ⟨result, hw⟩
  · exact Triple.ret () fun w hw => ⟨_, hw.2⟩

end Triples

end OpenfortivpnRs.Auth
