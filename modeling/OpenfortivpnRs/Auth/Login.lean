import OpenfortivpnRs.Auth.Html
import OpenfortivpnRs.Lib.Triple

/-!
# Logging in (`auth/login.rs`)

`authenticate` talks to the gateway in up to four requests.  The gateway and the user are whatever
they are: each request and each question has any answer.  What the program does with the answers is
proved with triples over the requests it has sent.
-/

namespace OpenfortivpnRs.Auth

open Text Http Lib

structure AuthSession where
  cookie : String
  portalRedirect : Option String
  deriving DecidableEq, Repr

/-- What `do_http_request` is called with. -/
structure Request where
  host : String
  method : String
  path : String
  headers : List (String × String)
  body : List UInt8
  deriving DecidableEq, Repr

/-- The other side of a login, as functions on a state `σ` that may be anything: `do_http_request` on
the stream to the gateway, and `user_input::read_secret`. -/
structure Gateway (σ : Type) where
  doHttpRequest (request : Request) : σ → Result HttpResponse × σ
  readSecret (pinentry : Option String) (hint prompt : String) : σ → Result String × σ

/-- The state of the other side, and the requests sent so far with their results. -/
structure Conversation (σ : Type) where
  state : σ
  exchanges : List (Request × Result HttpResponse)

/-- A piece of the program that may talk to the gateway. -/
abbrev Login (σ α : Type) : Type := EStateM Stop (Conversation σ) α

namespace Login

variable {σ α : Type}

/-- `Option::ok_or_else` and `?`. -/
def okOr (stop : Stop) : Option α → Login σ α
  | some a => pure a
  | none => throw stop

def ofResult : Result α → Login σ α
  | .ok a => pure a
  | .error err => throw (.error err)

def ofStop : Except Stop α → Login σ α
  | .ok a => pure a
  | .error stop => throw stop

def ofPanic : Except Panic α → Login σ α
  | .ok a => pure a
  | .error why => throw (.panic why)

end Login

variable {σ : Type} (gateway : Gateway σ)

def doHttpRequest (request : Request) : Login σ HttpResponse := fun w =>
  let (result, state) := gateway.doHttpRequest request w.state
  let w' := ⟨state, w.exchanges ++ [(request, result)]⟩
  match result with
  | .ok response => .ok response w'
  | .error err => .error (.error err) w'

def readSecret (pinentry : Option String) (hint prompt : String) : Login σ String := fun w =>
  let (result, state) := gateway.readSecret pinentry hint prompt w.state
  match result with
  | .ok secret => .ok secret { w with state := state }
  | .error err => .error (.error err) { w with state := state }

/-! ### Requests -/

def formContentType : String × String := ("Content-Type", "application/x-www-form-urlencoded")

def postForm (config : Config) (host path body : String) : Login σ HttpResponse :=
  doHttpRequest gateway
    ⟨host, "POST", path, [formContentType, ("User-Agent", config.userAgent)], asBytes body⟩

def postFormWithCookie (config : Config) (host path body cookie : String) : Login σ HttpResponse :=
  doHttpRequest gateway ⟨host, "POST", path,
    [formContentType, ("Cookie", cookie), ("User-Agent", config.userAgent)], asBytes body⟩

def postLogincheck (config : Config) (host body : String) : Login σ HttpResponse :=
  postForm gateway config host "/remote/logincheck" body

def httpHost (config : Config) : String :=
  if config.gatewayPort = 443 then config.gatewayHost
  else config.gatewayHost ++ ":" ++ toString config.gatewayPort

/-- `append_hostcheck_fields`. -/
def appendHostcheckFields (config : Config) (body : String) : String :=
  if config.hostcheck.isNone ∧ config.checkVirtualDesktop.isNone then body
  else body ++ "&hostcheck=" ++ urlEncode (config.hostcheck.getD "") ++
    "&check_virtual_desktop=" ++ urlEncode (config.checkVirtualDesktop.getD "")

def initialLoginBody (config : Config) : String :=
  let username := urlEncode config.username
  let realm := urlEncode (config.realm.getD "")
  match config.password with
  | some password => appendHostcheckFields config
      ("username=" ++ username ++ "&credential=" ++ urlEncode password ++ "&realm=" ++ realm ++ "&ajax=1")
  | none => appendHostcheckFields config ("username=" ++ username ++ "&realm=" ++ realm ++
      "&ajax=1&redir=%2Fremote%2Findex&just_logged_in=1")

def hostcheckActionBody (config : Config) : String :=
  "hostcheck=" ++ config.hostcheck.getD "" ++ "&check_virtual_desktop=" ++
    config.checkVirtualDesktop.getD ""

/-! ### Checks -/

/-- The body as a text; a body that is not UTF-8 reads as empty. -/
def bodyText (response : HttpResponse) : List Char := response.bodyAsStr.getD []

def validateAuthResponse (response : HttpResponse) : Result Unit :=
  match getValue (bodyText response) "ret=".toList with
  | none => .ok ()
  | some ret =>
    match parseUnsigned (2 ^ 32 - 1) ret with
    | some 0 => .error .permissionDenied
    | some 1 => .ok ()
    | some 6 => .error (.auth "gateway replied with an unsupported authentication challenge")
    | some other => .error (.auth ("unknown authentication result: " ++ toString other))
    | none => .error (.auth ("invalid authentication result: " ++ .ofList ret))

def ensureStatusOkForPath (path : String) (response : HttpResponse) : Result Unit :=
  if response.statusCode = 200 then .ok ()
  else .error (.httpProtocol (path ++ ": unexpected HTTP status: " ++ toString response.statusCode ++
    " " ++ response.reason))

/-! ### One-time passwords -/

/-- `user_input::secret_hint`. -/
def secretHint (username : String) (realm : Option String) (gatewayHost purpose : String) : String :=
  username ++ "_" ++ realm.getD "" ++ "_" ++ gatewayHost ++ "_" ++ purpose

def otpValueWithPurpose (config : Config) (purpose prompt : String) : Login σ String :=
  match config.otp.filter (· ≠ "") with
  | some otp => pure otp
  | none => do
    let hint := secretHint config.username config.realm config.gatewayHost purpose
    let otp ← readSecret gateway config.pinentry hint prompt
    if otp = "" then throw (.error (.auth "No token specified")) else pure otp

/-- `otp_challenge_form`: the path and the body to post. -/
def otpChallengeForm (config : Config) (html : List Char) : Login σ (String × String) := do
  let (_, afterForm) ← Login.okOr (.error (.auth "OTP challenge response does not contain a form"))
    (splitOnceIgnoreCase "<form".toList html)
  let form := "<form".toList ++ afterForm
  let (path, htmlAfterAction) ← Login.ofStop (otpChallengeAction form)
  let otp ← otpValueWithPurpose gateway config "otp" (otpChallengePrompt config htmlAfterAction)
  let fields ← Login.ofStop (inputsLoop config otp form [])
  if fields = [] then
    throw (.error (.auth "OTP challenge form does not contain hidden or password inputs"))
  else pure (.ofList path, String.intercalate "&" fields)

def tryOtpChallenge (config : Config) (host : String) (response : HttpResponse) :
    Login σ (String × HttpResponse) := do
  let body ← Login.okOr (.error (.auth "OTP challenge response is not valid UTF-8")) response.bodyAsStr
  let (path, formBody) ← otpChallengeForm gateway config body
  let response ← postForm gateway config host path formBody
  return (path, response)

def otpLoginBody (config : Config) (previousBody tokeninfo : List Char) : Login σ String := do
  let value (key : String) : String := .ofList ((getValue previousBody key.toList).getD [])
  let magic := value "magic="
  let tokenparams ←
    if config.otp.isNone ∧ "ftm_push".toList <+: tokeninfo ∧ config.noFtmPush = false then
      pure "ftmpush=1"
    else do
      let otp ← otpValueWithPurpose gateway config "2fa" "Two-factor authentication token: "
      pure ("code=" ++ urlEncode otp ++ "&code2=&magic=" ++ magic)
  return "username=" ++ urlEncode config.username ++ "&realm=" ++ urlEncode (config.realm.getD "") ++
    "&reqid=" ++ value "reqid=" ++ "&polid=" ++ value "polid=" ++ "&grp=" ++ value "grp=" ++
    "&portal=" ++ value "portal=" ++ "&peer=" ++ value "peer=" ++ "&" ++ tokenparams

/-! ### Logging in -/

def noSvpnCookie : Stop := .error (.auth "gateway did not return SVPNCOOKIE")

def finishAuthenticatedResponse (config : Config) (host : String) (response : HttpResponse) :
    Login σ AuthSession := do
  let svpnCookie ← Login.okOr noSvpnCookie response.svpnCookie
  let cookie := response.cookieHeader.getD svpnCookie
  match ← Login.ofPanic (actionUrl (bodyText response)) with
  | some actionPath =>
    let body := hostcheckActionBody config
    let actionResponse ← postFormWithCookie gateway config host (.ofList actionPath) body cookie
    Login.ofResult (ensureStatusOkForPath (.ofList actionPath) actionResponse)
  | none => pure ()
  let redirect ← Login.ofPanic (portalRedirect (bodyText response))
  return ⟨cookie, redirect.map .ofList⟩

/-- The request `authenticate` starts with. -/
def initialLogin (config : Config) (host path : String) : Login σ HttpResponse :=
  if path = "/remote/login" then
    doHttpRequest gateway ⟨host, "GET", "/remote/login", [("User-Agent", config.userAgent)], []⟩
  else postLogincheck gateway config host (initialLoginBody config)

/-- The part of `authenticate` behind a 401. -/
def otpStep (config : Config) (host path : String) (response : HttpResponse) :
    Login σ (String × HttpResponse) :=
  if response.statusCode = 401 then do
    let (path, response) ← tryOtpChallenge gateway config host response
    Login.ofResult (validateAuthResponse response)
    return (path, response)
  else pure (path, response)

/-- The part of `authenticate` behind a `tokeninfo`. -/
def tokenStep (config : Config) (host : String) (response : HttpResponse) (tokeninfo : List Char) :
    Login σ AuthSession := do
  let secondBody ← otpLoginBody gateway config (bodyText response) tokeninfo
  let response ← postLogincheck gateway config host secondBody
  Login.ofResult (validateAuthResponse response)
  Login.ofResult (ensureStatusOkForPath "/remote/logincheck" response)
  if response.svpnCookie.isSome then finishAuthenticatedResponse gateway config host response
  else throw noSvpnCookie

/-- The part of `authenticate` behind the check for a configured cookie. -/
def logIn (config : Config) : Login σ AuthSession := do
  let host := httpHost config
  let path := if config.username = "" ∧ config.password = none then "/remote/login"
    else "/remote/logincheck"
  let response ← initialLogin gateway config host path
  Login.ofResult (validateAuthResponse response)
  let (path, response) ← otpStep gateway config host path response
  Login.ofResult (ensureStatusOkForPath path response)
  if response.svpnCookie.isSome then finishAuthenticatedResponse gateway config host response
  else
    match getValue (bodyText response) "tokeninfo=".toList with
    | some tokeninfo => tokenStep gateway config host response tokeninfo
    | none => throw noSvpnCookie

def authenticate (config : Config) : Login σ AuthSession :=
  match config.cookie with
  | some cookie => pure ⟨cookie, none⟩
  | none => logIn gateway config

end OpenfortivpnRs.Auth
