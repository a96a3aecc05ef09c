import OpenfortivpnRs.Auth.Login

/-!
# What a login guarantees

A login that succeeds acted last on a response with status 200, an accepted result and a session
cookie, every response before it was accepted too, and no run sends more than four requests
(`authenticate_safe`).  The proof follows the program with triples: `Received` and `Accepted` say
which login responses there are so far.
-/

namespace OpenfortivpnRs.Auth

open Text Http Lib

/-- A request of the login itself: the host-check action is the only one with a cookie. -/
def IsLoginRequest (request : Request) : Prop := ∀ header ∈ request.headers, header.1 ≠ "Cookie"

instance : DecidablePred IsLoginRequest := fun request => by unfold IsLoginRequest; infer_instance

/-- The results of the login requests of a conversation, in order. -/
def loginResults (exchanges : List (Request × Result HttpResponse)) : List (Result HttpResponse) :=
  (exchanges.filter fun exchange => IsLoginRequest exchange.1).map Prod.snd

/-- The response passed `validate_auth_response`: its `ret` value, if there is one, is 1. -/
def Validated (response : HttpResponse) : Prop :=
  validateAuthResponse response = .ok () ∧
    ∀ ret, getValue (bodyText response) "ret=".toList = some ret →
      parseUnsigned (2 ^ 32 - 1) ret = some 1

theorem validated_of_ok {response : HttpResponse} (h : validateAuthResponse response = .ok ()) :
    Validated response := by
  refine ⟨h, fun ret hret => ?_⟩
  unfold validateAuthResponse at h
  rw [hret] at h
  simp only at h
  split at h
  · cases h
  · assumption
  · cases h
  · cases h
  · cases h

section Stages

variable {σ : Type}

/-- The conversation so far is login requests, answered by `responses`. -/
def Answered (responses : List HttpResponse) (w : Conversation σ) : Prop :=
  w.exchanges.map Prod.snd = responses.map .ok ∧ ∀ exchange ∈ w.exchanges, IsLoginRequest exchange.1

/-- The last of at most `n` login responses is `response`, and those before it were accepted. -/
def Received (n : ℕ) (response : HttpResponse) (w : Conversation σ) : Prop :=
  ∃ earlier, earlier.length < n ∧ Answered (earlier ++ [response]) w ∧ ∀ r ∈ earlier, Validated r

/-- The last of at most `n` login responses is `response`, and all of them were accepted. -/
def Accepted (n : ℕ) (response : HttpResponse) (w : Conversation σ) : Prop :=
  Received n response w ∧ Validated response

/-- No more than four requests were sent. -/
def Bounded (w : Conversation σ) : Prop := w.exchanges.length ≤ 4

theorem Answered.length {responses : List HttpResponse} {w : Conversation σ}
    (h : Answered responses w) : w.exchanges.length = responses.length := by
  have hlen := congrArg List.length h.1
  rwa [List.length_map, List.length_map] at hlen

theorem Received.bounded {n : ℕ} {response : HttpResponse} {w : Conversation σ} (hn : n ≤ 4)
    (h : Received n response w) : Bounded w := by
  obtain ⟨earlier, hlt, hans, -⟩ := h
  have hlen := hans.length
  rw [List.length_append, List.length_singleton] at hlen
  unfold Bounded
  omega

/-- What is asked of the conversation of a login that succeeds. -/
def Concluded (w : Conversation σ) : Prop :=
  ∃ earlier last, loginResults w.exchanges = (earlier ++ [last]).map .ok ∧
    last.statusCode = 200 ∧ Validated last ∧ last.svpnCookie.isSome ∧ ∀ r ∈ earlier, Validated r

end Stages

/-! ### Triples -/

section Triples

variable {σ : Type} {gateway : Gateway σ} {α : Type} {P : Conversation σ → Prop}

theorem triple_ofResult (result : Result α) (hP : ∀ w, P w → Bounded w) :
    Triple P (Login.ofResult result) (fun a w => result = .ok a ∧ P w) Bounded := by
  cases result with
  | ok a => exact Triple.ret a fun w hw => ⟨rfl, hw⟩
  | error err => exact Triple.stop _ hP

theorem triple_okOr (stop : Stop) (o : Option α) (hP : ∀ w, P w → Bounded w) :
    Triple P (Login.okOr stop o) (fun a w => o = some a ∧ P w) Bounded := by
  cases o with
  | some a => exact Triple.ret a fun w hw => ⟨rfl, hw⟩
  | none => exact Triple.stop _ hP

theorem triple_ofStop (result : Except Stop α) (hP : ∀ w, P w → Bounded w) :
    Triple P (Login.ofStop result) (fun _ w => P w) Bounded := by
  cases result with
  | ok a => exact Triple.ret a fun w hw => hw
  | error stop => exact Triple.stop _ hP

theorem triple_ofPanic (result : Except Panic α) (hP : ∀ w, P w → Bounded w) :
    Triple P (Login.ofPanic result) (fun _ w => P w) Bounded := by
  cases result with
  | ok a => exact Triple.ret a fun w hw => hw
  | error why => exact Triple.stop _ hP

/-- A login request adds its response, or ends the run with one more request. -/
theorem triple_login {request : Request} (hlogin : IsLoginRequest request)
    (responses : List HttpResponse) (hlen : responses.length < 4) :
    Triple (Answered responses) (doHttpRequest gateway request)
      (fun response w => Answered (responses ++ [response]) w) Bounded := by
  intro w hw
  have hcount := hw.length
  unfold doHttpRequest
  obtain ⟨result, state⟩ := gateway.doHttpRequest request w.state
  cases result with
  | ok response =>
    refine ⟨by simp [hw.1], fun exchange hmem => ?_⟩
    rcases List.mem_append.mp hmem with h | h
    · exact hw.2 exchange h
    · rw [List.mem_singleton.mp h]
      exact hlogin
  | error err =>
    show (w.exchanges ++ [(request, Except.error err)]).length ≤ 4
    rw [List.length_append, List.length_singleton]
    omega

/-- Asking the user sends nothing. -/
theorem triple_readSecret {responses : List HttpResponse} (pinentry : Option String)
    (hint prompt : String) (hlen : responses.length ≤ 4) :
    Triple (Answered responses) (readSecret gateway pinentry hint prompt)
      (fun _ w => Answered responses w) Bounded := by
  intro w hw
  have hcount := hw.length
  unfold readSecret
  obtain ⟨result, state⟩ := gateway.readSecret pinentry hint prompt w.state
  cases result with
  | ok secret => exact hw
  | error err =>
    show w.exchanges.length ≤ 4
    omega

/-! ### The steps of a login -/

theorem bounded_of_answered {responses : List HttpResponse} (hlen : responses.length ≤ 4) :
    ∀ w : Conversation σ, Answered responses w → Bounded w := by
  intro w hw
  have hcount := hw.length
  unfold Bounded
  omega

theorem triple_otpValue (config : Config) (purpose prompt : String) {responses : List HttpResponse}
    (hlen : responses.length ≤ 4) :
    Triple (Answered responses) (otpValueWithPurpose gateway config purpose prompt)
      (fun _ w => Answered responses w) Bounded := by
  unfold otpValueWithPurpose
  split
  · exact Triple.ret _ fun _ hw => hw
  · refine Triple.bind (triple_readSecret _ _ _ hlen) fun otp => ?_
    split
    · exact Triple.stop _ (bounded_of_answered hlen)
    · exact Triple.ret _ fun _ hw => hw

/-- Filling in the form of a challenge sends nothing. -/
theorem triple_otpChallengeForm (config : Config) (html : List Char) {responses : List HttpResponse}
    (hlen : responses.length ≤ 4) :
    Triple (Answered responses) (otpChallengeForm gateway config html)
      (fun _ w => Answered responses w) Bounded := by
  have hbound : ∀ w : Conversation σ, Answered responses w → Bounded w := bounded_of_answered hlen
  unfold otpChallengeForm
  refine Triple.bind (triple_okOr _ _ hbound) fun found => Triple.of_imp fun _ => ?_
  refine Triple.bind (triple_ofStop _ hbound) fun action => ?_
  refine Triple.bind (triple_otpValue config _ _ hlen) fun otp => ?_
  refine Triple.bind (triple_ofStop _ hbound) fun fields => ?_
  split
  · exact Triple.stop _ hbound
  · exact Triple.ret _ fun _ hw => hw

theorem isLoginRequest_postForm (config : Config) (host path body : String) :
    IsLoginRequest ⟨host, "POST", path, [formContentType, ("User-Agent", config.userAgent)],
      asBytes body⟩ := by
  intro header hmem
  simp only [List.mem_cons, List.not_mem_nil, or_false] at hmem
  rcases hmem with rfl | rfl
  · decide
  · simp

/-- The challenge is answered with one request. -/
theorem triple_tryOtpChallenge (config : Config) (host : String) (response : HttpResponse)
    {responses : List HttpResponse} (hlen : responses.length < 4) :
    Triple (Answered responses) (tryOtpChallenge gateway config host response)
      (fun answer w => Answered (responses ++ [answer.2]) w) Bounded := by
  have hbound : ∀ w : Conversation σ, Answered responses w → Bounded w :=
    bounded_of_answered hlen.le
  unfold tryOtpChallenge
  refine Triple.bind (triple_okOr _ _ hbound) fun body => Triple.of_imp fun _ => ?_
  refine Triple.bind (triple_otpChallengeForm config body hlen.le) fun form => ?_
  refine Triple.bind (triple_login (isLoginRequest_postForm config host form.1 form.2) _ hlen)
    fun answer => ?_
  exact Triple.ret _ fun _ hw => hw

/-- The body of the second step is built without a request. -/
theorem triple_otpLoginBody (config : Config) (previousBody tokeninfo : List Char)
    {responses : List HttpResponse} (hlen : responses.length ≤ 4) :
    Triple (Answered responses) (otpLoginBody gateway config previousBody tokeninfo)
      (fun _ w => Answered responses w) Bounded := by
  unfold otpLoginBody
  split
  · exact Triple.ret _ fun _ hw => hw
  · exact Triple.bind (triple_otpValue config _ _ hlen) fun otp => Triple.ret _ fun _ hw => hw

/-- The first response. -/
theorem triple_initialLogin (config : Config) (host path : String) :
    Triple (Answered []) (initialLogin gateway config host path)
      (fun response w => Received 1 response w) Bounded := by
  have hpost : ∀ response (w : Conversation σ), Answered ([] ++ [response]) w →
      Received 1 response w := fun response w hw => ⟨[], by simp, hw, by simp⟩
  unfold initialLogin
  split
  · have hget : IsLoginRequest ⟨host, "GET", "/remote/login", [("User-Agent", config.userAgent)], []⟩ := by
      intro header hmem
      rw [List.mem_singleton.mp hmem]
      simp
    exact (triple_login hget [] (by simp)).conseq (fun _ hw => hw) hpost fun _ hw => hw
  · exact (triple_login (isLoginRequest_postForm config host _ _) [] (by simp)).conseq
      (fun _ hw => hw) hpost fun _ hw => hw

/-- A response that passes the check is accepted. -/
theorem triple_validate (n : ℕ) (response : HttpResponse) (hn : n ≤ 4) :
    Triple (Received n response) (Login.ofResult (σ := σ) (validateAuthResponse response))
      (fun _ w => Accepted n response w) Bounded :=
  (triple_ofResult _ fun _ hw => hw.bounded hn).conseq (fun _ hw => hw)
    (fun _ _ hw => ⟨hw.2, validated_of_ok hw.1⟩) fun _ hw => hw

/-- A further login request makes the last response one of the earlier ones. -/
theorem triple_next {c : Login σ α} (answer : α → HttpResponse) {n : ℕ} {response : HttpResponse}
    (h : ∀ responses : List HttpResponse, responses.length ≤ n → Triple (Answered responses) c
      (fun a w => Answered (responses ++ [answer a]) w) Bounded) :
    Triple (Accepted n response) c (fun a w => Received (n + 1) (answer a) w) Bounded := by
  rintro w ⟨⟨earlier, hlt, hans, hall⟩, hval⟩
  have hall' : ∀ r ∈ earlier ++ [response], Validated r := by
    intro r hr
    rcases List.mem_append.mp hr with hr | hr
    · exact hall r hr
    · rw [List.mem_singleton.mp hr]
      exact hval
  have hlen : (earlier ++ [response]).length < n + 1 := by
    rw [List.length_append, List.length_singleton]
    omega
  exact (h _ (by omega)).conseq (fun _ hw => hw)
    (fun a w' hw => ⟨earlier ++ [response], hlen, hw, hall'⟩) (fun _ hw => hw) w hans

/-- The 401 branch leaves at most two responses, the last one accepted. -/
theorem triple_otpStep (config : Config) (host path : String) (response : HttpResponse) :
    Triple (Accepted 1 response) (otpStep gateway config host path response)
      (fun answer w => Accepted 2 answer.2 w) Bounded := by
  unfold otpStep
  split
  · refine Triple.bind (triple_next Prod.snd fun responses hlen =>
      triple_tryOtpChallenge config host response (by omega)) fun answer => ?_
    refine Triple.bind (triple_validate 2 answer.2 (by omega)) fun _ => ?_
    exact Triple.ret _ fun _ hw => hw
  · refine Triple.ret _ ?_
    rintro w ⟨⟨earlier, hlt, hans⟩, hval⟩
    exact ⟨⟨earlier, by omega, hans⟩, hval⟩

/-- Login requests alone are all their results. -/
theorem loginResults_of_answered {responses : List HttpResponse} {w : Conversation σ}
    (h : Answered responses w) : loginResults w.exchanges = responses.map .ok := by
  unfold loginResults
  rw [List.filter_eq_self.mpr fun exchange hmem => by simpa using h.2 exchange hmem, h.1]

/-- What is left to send when the login is concluded. -/
def Closing (w : Conversation σ) : Prop := Concluded w ∧ w.exchanges.length ≤ 3

theorem Accepted.closing {n : ℕ} {response : HttpResponse} {w : Conversation σ} (hn : n < 4)
    (hstatus : response.statusCode = 200) (hcookie : response.svpnCookie.isSome)
    (h : Accepted n response w) : Closing w := by
  obtain ⟨⟨earlier, hlt, hans, hall⟩, hval⟩ := h
  refine ⟨⟨earlier, response, loginResults_of_answered hans, hstatus, hval, hcookie, hall⟩, ?_⟩
  have hlen := hans.length
  rw [List.length_append, List.length_singleton] at hlen
  omega

/-- The host-check action is no login request. -/
theorem triple_action (config : Config) (host path body cookie : String) :
    Triple Closing (postFormWithCookie gateway config host path body cookie)
      (fun _ w => Concluded w ∧ Bounded w) Bounded := by
  rintro w ⟨⟨earlier, last, hresults, hlast⟩, hlen⟩
  unfold postFormWithCookie doHttpRequest
  have hother : ∀ result, loginResults (w.exchanges ++ [((⟨host, "POST", path,
      [formContentType, ("Cookie", cookie), ("User-Agent", config.userAgent)], asBytes body⟩ : Request),
      result)]) = loginResults w.exchanges := by
    intro result
    unfold loginResults
    rw [List.filter_append, List.filter_cons_of_neg (by simp [IsLoginRequest])]
    simp
  obtain ⟨result, state⟩ := gateway.doHttpRequest _ w.state
  have hbound : (w.exchanges ++ [((⟨host, "POST", path,
      [formContentType, ("Cookie", cookie), ("User-Agent", config.userAgent)], asBytes body⟩ : Request),
      result)]).length ≤ 4 := by
    rw [List.length_append, List.length_singleton]
    omega
  cases result with
  | ok response => exact ⟨⟨earlier, last, (hother _).trans hresults, hlast⟩, hbound⟩
  | error err => exact hbound

/-- **The end of a login.**  An accepted response with status 200 and a session cookie concludes it,
with at most one more request. -/
theorem triple_finish (config : Config) (host : String) {response : HttpResponse} {n : ℕ}
    (hn : n < 4) (hstatus : response.statusCode = 200) (hcookie : response.svpnCookie.isSome) :
    Triple (Accepted n response) (finishAuthenticatedResponse gateway config host response)
      (fun _ w => Concluded w ∧ Bounded w) Bounded := by
  have hclose : Triple Closing (finishAuthenticatedResponse gateway config host response)
      (fun _ w => Concluded w ∧ Bounded w) Bounded := by
    have hbound : ∀ w : Conversation σ, Closing w → Bounded w := fun w hw => by
      have := hw.2
      unfold Bounded
      omega
    have hdone : ∀ w : Conversation σ, Concluded w ∧ Bounded w → Bounded w := fun _ hw => hw.2
    unfold finishAuthenticatedResponse
    refine Triple.bind (triple_okOr _ _ hbound) fun svpnCookie => Triple.of_imp fun _ => ?_
    refine Triple.bind (triple_ofPanic _ hbound) fun action => ?_
    cases action with
    | none =>
      refine Triple.bind (triple_ofPanic _ hbound) fun redirect => ?_
      exact Triple.ret _ fun w hw => ⟨hw.1, hbound w hw⟩
    | some path =>
      refine Triple.bind (triple_action config _ _ _ _) fun answer => ?_
      refine Triple.bind (triple_ofResult _ hdone) fun _ => Triple.of_imp fun _ => ?_
      refine Triple.bind (triple_ofPanic _ hdone) fun redirect => ?_
      exact Triple.ret _ fun _ hw => hw
  exact hclose.conseq (fun _ hw => hw.closing hn hstatus hcookie) (fun _ _ hw => hw) fun _ hw => hw

/-- What sends nothing keeps the responses. -/
theorem triple_silent {c : Login σ α} {n : ℕ} {response : HttpResponse}
    (h : ∀ responses : List HttpResponse, responses.length ≤ n → Triple (Answered responses) c
      (fun _ w => Answered responses w) Bounded) :
    Triple (Accepted n response) c (fun _ w => Accepted n response w) Bounded := by
  rintro w ⟨⟨earlier, hlt, hans, hall⟩, hval⟩
  have hlen : (earlier ++ [response]).length ≤ n := by
    rw [List.length_append, List.length_singleton]
    omega
  exact (h _ hlen).conseq (fun _ hw => hw)
    (fun a w' hw => ⟨⟨earlier, hlt, hw, hall⟩, hval⟩) (fun _ hw => hw) w hans

/-- The status `ensure_status_ok_for_path` lets pass. -/
theorem status_of_ensure {path : String} {response : HttpResponse} {u : Unit}
    (h : ensureStatusOkForPath path response = .ok u) : response.statusCode = 200 := by
  unfold ensureStatusOkForPath at h
  split at h
  · assumption
  · cases h

/-- The second step of a token login. -/
theorem triple_tokenStep (config : Config) (host : String) (response : HttpResponse)
    (tokeninfo : List Char) :
    Triple (Accepted 2 response) (tokenStep gateway config host response tokeninfo)
      (fun _ w => Concluded w ∧ Bounded w) Bounded := by
  have hbound : ∀ (answer : HttpResponse) (w : Conversation σ), Accepted 3 answer w → Bounded w :=
    fun _ _ hw => hw.1.bounded (by omega)
  unfold tokenStep
  refine Triple.bind (triple_silent fun responses hlen =>
    triple_otpLoginBody config _ _ (by omega)) fun body => ?_
  refine Triple.bind (triple_next id fun responses hlen =>
    triple_login (isLoginRequest_postForm config host _ body) responses (by omega)) fun answer => ?_
  refine Triple.bind (triple_validate 3 answer (by omega)) fun _ => ?_
  refine Triple.bind (triple_ofResult _ (hbound answer)) fun _ => Triple.of_imp fun hstatus => ?_
  split
  · rename_i hcookie
    exact triple_finish config host (by omega) (status_of_ensure hstatus) hcookie
  · exact Triple.stop _ (hbound answer)

/-- **A login from the first request on.** -/
theorem triple_logIn (config : Config) :
    Triple (Answered []) (logIn gateway config) (fun _ w => Concluded w ∧ Bounded w) Bounded := by
  have hbound : ∀ (answer : HttpResponse) (w : Conversation σ), Accepted 2 answer w → Bounded w :=
    fun _ _ hw => hw.1.bounded (by omega)
  unfold logIn
  refine Triple.bind (triple_initialLogin config _ _) fun first => ?_
  refine Triple.bind (triple_validate 1 first (by omega)) fun _ => ?_
  refine Triple.bind (triple_otpStep config _ _ first) fun answer => ?_
  refine Triple.bind (triple_ofResult _ (hbound answer.2)) fun _ => Triple.of_imp fun hstatus => ?_
  split
  · rename_i hcookie
    exact triple_finish config _ (by omega) (status_of_ensure hstatus) hcookie
  · split
    · exact triple_tokenStep config _ answer.2 _
    · exact Triple.stop _ (hbound answer.2)

end Triples

/-- The conversation a run ends with, however it ends. -/
def finalConversation {σ α : Type} : EStateM.Result Stop (Conversation σ) α → Conversation σ
  | .ok _ w => w
  | .error _ w => w

/-- **Authentication is safe.**  Without a configured cookie, a run that succeeds ended its login with
a response of status 200 that was accepted and set a session cookie, after responses that were all
accepted; every run sends at most four requests; and with a configured cookie nothing is sent or
read at all. -/
theorem authenticate_safe {σ : Type} (gateway : Gateway σ) (config : Config) (s : σ) :
    (config.cookie = none → ∀ session w, authenticate gateway config ⟨s, []⟩ = .ok session w →
      ∃ earlier last, loginResults w.exchanges = (earlier ++ [last]).map .ok ∧
        last.statusCode = 200 ∧ Validated last ∧ last.svpnCookie.isSome ∧
        ∀ r ∈ earlier, Validated r) ∧
    (finalConversation (authenticate gateway config ⟨s, []⟩)).exchanges.length ≤ 4 ∧
    ∀ cookie, config.cookie = some cookie →
      authenticate gateway config ⟨s, []⟩ = .ok ⟨cookie, none⟩ ⟨s, []⟩ := by
  have hstart : Answered [] (⟨s, []⟩ : Conversation σ) := ⟨rfl, by simp⟩
  unfold authenticate
  cases hc : config.cookie with
  | some cookie =>
    refine ⟨fun h => (by cases h), Nat.zero_le _, ?_⟩
    rintro _ ⟨⟩
    rfl
  | none =>
    have hrun := @triple_logIn σ gateway config
    refine ⟨fun _ session w hok => (hrun.run_ok hstart hok).1, ?_, fun _ h => by cases h⟩
    show (finalConversation (logIn gateway config ⟨s, []⟩)).exchanges.length ≤ 4
    cases hres : logIn gateway config ⟨s, []⟩ with
    | ok session w => exact (hrun.run_ok hstart hres).2
    | error stop w => exact hrun.run_error hstart hres

/-- A gateway that asks for a token and then sets the session cookie, and a user without one. -/
def tokenGateway : Gateway (List HttpResponse) where
  doHttpRequest _ answers := match answers with
    | [] => (.error (.httpProtocol "connection closed before HTTP headers were complete"), [])
    | answer :: rest => (.ok answer, rest)
  readSecret _ _ _ answers := (.error (.auth "No token specified"), answers)

def tokenAnswers : List HttpResponse :=
  [⟨200, "OK", [], asBytes "ret=1&tokeninfo=ftm_push"⟩,
    ⟨200, "OK", [("Set-Cookie", "SVPNCOOKIE=abc; Path=/")], asBytes "ret=1"⟩]

theorem authenticate_safe_token :
    ∃ session w, authenticate tokenGateway .default ⟨tokenAnswers, []⟩ = .ok session w ∧
      ∃ earlier last, loginResults w.exchanges = (earlier ++ [last]).map .ok ∧
        last.statusCode = 200 ∧ Validated last ∧ last.svpnCookie.isSome ∧
        ∀ r ∈ earlier, Validated r := by
  have hok : (match authenticate tokenGateway .default ⟨tokenAnswers, []⟩ with
      | .ok session _ => some session
      | .error _ _ => none) = some ⟨"SVPNCOOKIE=abc", none⟩ := by decide +kernel
  split at hok
  · rename_i session w hrun
    exact ⟨session, w, hrun, (authenticate_safe tokenGateway .default tokenAnswers).1 rfl session w hrun⟩
  · cases hok

end OpenfortivpnRs.Auth
