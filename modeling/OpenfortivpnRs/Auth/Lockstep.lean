import OpenfortivpnRs.Auth.Login
import OpenfortivpnRs.Lib.Simulation

/-!
# Logins in lockstep

A login does the same with two gateways when each of its requests and of its questions does
(`Lockstep.authenticate`).  Its requests are of three kinds (`OfLogin`).
-/

namespace OpenfortivpnRs.Auth

open Text Http Lib

variable {σ τ α β : Type}

/-- A request that a login can send. -/
inductive OfLogin (config : Config) : Request → Prop
  | get (path : String) : OfLogin config ⟨httpHost config, "GET", path, [("User-Agent", config.userAgent)], []⟩
  | post (path : String) (body : List UInt8) : OfLogin config
      ⟨httpHost config, "POST", path, [formContentType, ("User-Agent", config.userAgent)], body⟩
  | postWithCookie (path : String) (body : List UInt8) (cookie : String) : OfLogin config ⟨httpHost config, "POST",
      path, [formContentType, ("Cookie", cookie), ("User-Agent", config.userAgent)], body⟩

/-- The requests of a login and its questions keep two gateways in step. -/
structure Lockstep (bad : Conversation σ → Prop) (R E : Conversation σ → Conversation τ → Prop) (config : Config)
    (gateway : Gateway σ) (gateway' : Gateway τ) : Prop where
  stop : ∀ w w', R w w' → E w w'
  request : ∀ request, OfLogin config request →
    Simulates bad R E (doHttpRequest gateway request) (doHttpRequest gateway' request)
  question : ∀ pinentry hint prompt,
    Simulates bad R E (readSecret gateway pinentry hint prompt) (readSecret gateway' pinentry hint prompt)

namespace Lockstep

variable {bad : Conversation σ → Prop} {R E : Conversation σ → Conversation τ → Prop} {config : Config}
  {gateway : Gateway σ} {gateway' : Gateway τ} (h : Lockstep bad R E config gateway gateway')

include h

theorem okOr (why : Stop) (o : Option α) :
    Simulates bad R E (Login.okOr why o : Login σ α) (Login.okOr why o) := by
  cases o with
  | none => exact .stop why h.stop
  | some a => exact .ret a

theorem ofResult (result : Result α) :
    Simulates bad R E (Login.ofResult result : Login σ α) (Login.ofResult result) := by
  cases result with
  | ok a => exact .ret a
  | error err => exact .stop _ h.stop

theorem ofStop (result : Except Stop α) :
    Simulates bad R E (Login.ofStop result : Login σ α) (Login.ofStop result) := by
  cases result with
  | ok a => exact .ret a
  | error why => exact .stop why h.stop

theorem ofPanic (result : Except Panic α) :
    Simulates bad R E (Login.ofPanic result : Login σ α) (Login.ofPanic result) := by
  cases result with
  | ok a => exact .ret a
  | error why => exact .stop _ h.stop

theorem otpValueWithPurpose (purpose prompt : String) :
    Simulates bad R E (otpValueWithPurpose gateway config purpose prompt)
      (otpValueWithPurpose gateway' config purpose prompt) := by
  unfold Auth.otpValueWithPurpose
  split
  · exact .ret _
  · refine (h.question _ _ _).bind fun otp => ?_
    split
    · exact .stop _ h.stop
    · exact .ret _

theorem otpChallengeForm (html : List Char) :
    Simulates bad R E (otpChallengeForm gateway config html) (otpChallengeForm gateway' config html) := by
  unfold Auth.otpChallengeForm
  refine (h.okOr _ _).bind fun found => (h.ofStop _).bind fun action => (h.otpValueWithPurpose _ _).bind fun otp =>
    (h.ofStop _).bind fun fields => ?_
  split
  · exact .stop _ h.stop
  · exact .ret _

theorem tryOtpChallenge (response : HttpResponse) :
    Simulates bad R E (tryOtpChallenge gateway config (httpHost config) response)
      (tryOtpChallenge gateway' config (httpHost config) response) := by
  unfold Auth.tryOtpChallenge
  exact (h.okOr _ _).bind fun body => (h.otpChallengeForm _).bind fun form =>
    (h.request _ (.post _ _)).bind fun answer => .ret _

theorem otpLoginBody (previousBody tokeninfo : List Char) :
    Simulates bad R E (otpLoginBody gateway config previousBody tokeninfo)
      (otpLoginBody gateway' config previousBody tokeninfo) := by
  unfold Auth.otpLoginBody
  split
  · exact .ret _
  · exact (h.otpValueWithPurpose _ _).bind fun otp => .ret _

theorem finishAuthenticatedResponse (response : HttpResponse) :
    Simulates bad R E (finishAuthenticatedResponse gateway config (httpHost config) response)
      (finishAuthenticatedResponse gateway' config (httpHost config) response) := by
  unfold Auth.finishAuthenticatedResponse
  refine (h.okOr _ _).bind fun svpnCookie => (h.ofPanic _).bind fun action => ?_
  cases action with
  | none => exact (h.ofPanic _).bind fun redirect => .ret _
  | some path =>
    exact (h.request _ (.postWithCookie _ _ _)).bind fun answer => (h.ofResult _).bind fun _ =>
      (h.ofPanic _).bind fun redirect => .ret _

theorem tokenStep (response : HttpResponse) (tokeninfo : List Char) :
    Simulates bad R E (tokenStep gateway config (httpHost config) response tokeninfo)
      (tokenStep gateway' config (httpHost config) response tokeninfo) := by
  unfold Auth.tokenStep
  refine (h.otpLoginBody _ _).bind fun body => (h.request _ (.post _ _)).bind fun answer =>
    (h.ofResult _).bind fun _ => (h.ofResult _).bind fun _ => ?_
  split
  · exact h.finishAuthenticatedResponse _
  · exact .stop _ h.stop

theorem initialLogin (path : String) :
    Simulates bad R E (initialLogin gateway config (httpHost config) path)
      (initialLogin gateway' config (httpHost config) path) := by
  unfold Auth.initialLogin
  split
  · exact h.request _ (.get _)
  · exact h.request _ (.post _ _)

theorem otpStep (path : String) (response : HttpResponse) :
    Simulates bad R E (otpStep gateway config (httpHost config) path response)
      (otpStep gateway' config (httpHost config) path response) := by
  unfold Auth.otpStep
  split
  · exact (h.tryOtpChallenge _).bind fun answer => (h.ofResult _).bind fun _ => .ret _
  · exact .ret _

theorem logIn : Simulates bad R E (logIn gateway config) (logIn gateway' config) := by
  unfold Auth.logIn
  refine (h.initialLogin _).bind fun first => (h.ofResult _).bind fun _ => (h.otpStep _ _).bind fun answer =>
    (h.ofResult _).bind fun _ => ?_
  split
  · exact h.finishAuthenticatedResponse _
  · split
    · exact h.tokenStep _ _
    · exact .stop _ h.stop

/-- **A login does the same with gateways that are kept in step.** -/
theorem authenticate : Simulates bad R E (authenticate gateway config) (authenticate gateway' config) := by
  unfold Auth.authenticate
  split
  · exact .ret _
  · exact h.logIn

end Lockstep

end OpenfortivpnRs.Auth
