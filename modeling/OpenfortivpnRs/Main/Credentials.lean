import OpenfortivpnRs.Config.Precedence
import OpenfortivpnRs.Main.Persistence
import OpenfortivpnRs.UserInput

/-!
# Before the first attempt (`run` of `main.rs`)

What the configuration lacks is asked for: the cookie on the standard input, the password of the user, the
SAML session of the browser.  Nothing is opened to the gateway before all of it is there
(`attempts_prepared`).
-/

namespace OpenfortivpnRs.Main

open Lib Auth Text UserInput

/-- Where the program asks before it connects. -/
structure Desk (σ : Type) where
  readToString : List UInt8 → Except IoError String
  /-- `read_to_string` on the standard input. -/
  stdin : σ → Except IoError String × σ
  terminal : Terminal σ
  agent : Pinentry.Agent σ
  geteuid : σ → ℕ × σ
  listener : σ → Listener × σ
  setHandler : σ → Except String Unit × σ

inductive Question where
  | readCookie (result : Except IoError String)
  | user (event : UserInput.Event)
  | euid (id : ℕ)
  | saml (result : Option (Result (List Char)))
  | setHandler (result : Except String Unit)

abbrev Preparing (σ α : Type) : Type := Recording Halt σ Question α

namespace Preparing

variable {σ α : Type}

def fail (err : OpenfortivpnError) : Preparing σ α := throw (.stop (.error err))

def ofResult : Result α → Preparing σ α
  | .ok a => pure a
  | .error err => fail err

end Preparing

/-- `str::trim_matches` of carriage returns and newlines. -/
def trimLineEnds (text : List Char) : List Char :=
  Pinentry.trimLineEnd (text.dropWhile fun c => c == '\r' || c == '\n')

section Run

variable {σ : Type} (desk : Desk σ) (machine : Machine σ)

def applyStdinCookie (config : Config) : Preparing σ Config :=
  if ¬ config.cookieOnStdin ∨ config.cookie.isSome then pure config
  else do
    match ← Recording.ask desk.stdin .readCookie with
    | .error err => Preparing.fail (.io err)
    | .ok text =>
      let cookie := trimLineEnds text.toList
      if cookie = [] then
        Preparing.fail (.auth "--cookie-on-stdin was set but stdin did not contain a cookie")
      else return { config with cookie := some (svpnCookieWithPrefix (.ofList cookie)) }

def readSecret (config : Config) (purpose prompt : String) : Preparing σ String :=
  let hint := secretHint config.username config.realm config.gatewayHost purpose
  Recording.within (fun err => .stop (.error err)) .user
    (UserInput.readSecret desk.terminal desk.agent config.pinentry hint prompt)

def validateAndCompleteAuthConfig (config : Config) : Preparing σ Config :=
  if config.username = "" ∧ config.cookie.isNone ∧ config.samlPort.isNone ∧ config.userCert.isNone then
    Preparing.fail (.auth "Specify a username.")
  else if config.password.isNone ∧ config.username ≠ "" ∧ config.cookie.isNone ∧ config.samlPort.isNone then do
    let password ← readSecret desk config "password" "VPN account password: "
    return { config with password := some password }
  else pure config

def requireRoot : Preparing σ Unit := do
  let id ← Recording.ask desk.geteuid .euid
  if id = 0 then pure ()
  else Preparing.fail (.network "openfortivpn must be run as root to start pppd and configure routes/DNS")

/-- The block of `run` for a SAML login. -/
def receiveSamlSession (config : Config) : Preparing σ Config :=
  if config.samlPort.isNone then pure config
  else do
    let listener ← Recording.look desk.listener
    let received := waitForSessionId config listener
    Recording.mark (.saml received)
    match received with
    | none => throw .waiting
    | some (.error err) => Preparing.fail err
    | some (.ok id) =>
      if id = [] then Preparing.fail (.auth "failed to receive SAML session id")
      else return { config with samlSessionId := some (.ofList id) }

def installCtrlcHandler : Preparing σ Unit := do
  match ← Recording.ask desk.setHandler .setHandler with
  | .error err => Preparing.fail (.network ("failed to install Ctrl-C handler: " ++ err))
  | .ok () => pure ()

/-- `run` up to its last line. -/
def prepareConfig (cli : Cli) : Preparing σ Config := do
  let config ← Preparing.ofResult (Config.fromSources desk.readToString cli)
  let config ← applyStdinCookie desk config
  if config.gatewayHost = "" then Preparing.fail (.auth "Specify a valid host:port couple.")
  else do
    let config ← validateAndCompleteAuthConfig desk config
    if config.proxy.isNone then requireRoot desk
    let config ← receiveSamlSession desk config
    installCtrlcHandler desk
    return config

def run (cli : Cli) : Recording Halt σ (Question ⊕ Deed) Unit := do
  let config ← Recording.within id .inl (prepareConfig desk cli)
  Recording.within id .inr (runWithPersistence machine config)

end Run

/-! ### What is asked for -/

/-- The cookie is read only where none is known, if it is asked for. -/
def CookieFrom (config config' : Config) (asked : List Question) : Prop :=
  asked = [] ∧ config' = config ∨ ∃ text, asked = [.readCookie (.ok text)] ∧ config.cookieOnStdin = true ∧
    config.cookie = none ∧ trimLineEnds text.toList ≠ [] ∧
    config' = { config with cookie := some (svpnCookieWithPrefix (.ofList (trimLineEnds text.toList))) }

/-- The password is asked for, safely, only where it is needed and not known. -/
def PasswordFrom (config config' : Config) (asked : List Question) : Prop :=
  asked = [] ∧ config' = config ∨ ∃ password events, asked = events.map .user ∧ Safe true events ∧
    config.username ≠ "" ∧ config.password = none ∧ config.cookie = none ∧ config.samlPort = none ∧
    config' = { config with password := some password }

/-- The SAML session is received where a port for it is configured. -/
def SessionFrom (config config' : Config) (asked : List Question) : Prop :=
  asked = [] ∧ config.samlPort = none ∧ config' = config ∨ ∃ id, asked = [.saml (some (.ok id))] ∧
    SessionId id ∧ config' = { config with samlSessionId := some (.ofList id) }

/-- What is asked for a configuration on the way to another, in order. -/
def Prepares (config config' : Config) (asked : List Question) : Prop :=
  ∃ withCookie withPassword cookie password session, CookieFrom config withCookie cookie ∧
    PasswordFrom withCookie withPassword password ∧ SessionFrom withPassword config' session ∧
    asked = cookie ++ password ++ (if config.proxy.isNone then [.euid 0] else []) ++ session ++
      [.setHandler (.ok ())]

/-- There is a gateway, and one of the ways to log in. -/
structure Ready (config : Config) : Prop where
  gateway : config.gatewayHost ≠ ""
  credentials : config.samlSessionId.isSome ∨ config.cookie.isSome ∨
    config.username ≠ "" ∧ config.password.isSome ∨ config.username = "" ∧ config.userCert.isSome

section Leads

variable {σ : Type} {desk : Desk σ} {q : List Question}

theorem leads_applyStdinCookie (config : Config) :
    (Protocol.free Question).Leads (fun config' r => ∃ asked, CookieFrom config config' asked ∧ r = q ++ asked)
      (fun _ _ => True) q (applyStdinCookie desk config) := by
  unfold applyStdinCookie
  split
  · exact .ret ⟨[], .inl ⟨rfl, rfl⟩, (List.append_nil q).symm⟩
  · rename_i hask
    rw [not_or, not_not, Bool.not_eq_true, Option.isSome_eq_false_iff, Option.isNone_iff_eq_none] at hask
    refine .bind (Q := fun result r => r = q ++ [.readCookie result]) (.ask fun _ => ⟨_, rfl, rfl⟩) ?_
    rintro (err | text) _ rfl
    · exact .stop trivial
    · dsimp only
      split
      · exact .stop trivial
      · rename_i hcookie
        exact .ret ⟨_, .inr ⟨text, rfl, hask.1, hask.2, hcookie, rfl⟩, rfl⟩

theorem leads_readSecret (config : Config) (purpose prompt : String) :
    (Protocol.free Question).Leads (fun _ r => ∃ events, Safe true events ∧ r = q ++ events.map .user)
      (fun _ _ => True) q (readSecret desk config purpose prompt) :=
  .within (leads_safe _ _ _) (fun _ events hsafe => ⟨_, Protocol.free_path _ _, events, hsafe, rfl⟩)
    fun _ _ _ => ⟨_, Protocol.free_path _ _, trivial⟩

theorem leads_validateAndCompleteAuthConfig (config : Config) :
    (Protocol.free Question).Leads
      (fun config' r => ∃ asked, PasswordFrom config config' asked ∧ r = q ++ asked ∧
        (config'.cookie.isSome ∨ config'.samlPort.isSome ∨ config'.username ≠ "" ∧ config'.password.isSome ∨
          config'.username = "" ∧ config'.userCert.isSome))
      (fun _ _ => True) q (validateAndCompleteAuthConfig desk config) := by
  unfold validateAndCompleteAuthConfig
  split
  · exact .stop trivial
  · rename_i hknown
    split
    · rename_i hask
      refine .bind (leads_readSecret config _ _) ?_
      rintro password _ ⟨events, hsafe, rfl⟩
      simp only [Option.isNone_iff_eq_none] at hask
      exact .ret ⟨_, .inr ⟨password, events, rfl, hsafe, hask.2.1, hask.1, hask.2.2.1, hask.2.2.2, rfl⟩, rfl,
        .inr (.inr (.inl ⟨hask.2.1, rfl⟩))⟩
    · rename_i hask
      refine .ret ⟨[], .inl ⟨rfl, rfl⟩, (List.append_nil q).symm, ?_⟩
      simp only [Option.isNone_iff_eq_none] at hknown hask
      simp only [Option.isSome_iff_ne_none]
      tauto

theorem leads_requireRoot :
    (Protocol.free Question).Leads (fun _ r => r = q ++ [.euid 0]) (fun _ _ => True) q (requireRoot desk) := by
  unfold requireRoot
  refine .bind (Q := fun id r => r = q ++ [.euid id]) (.ask fun _ => ⟨_, rfl, rfl⟩) ?_
  rintro id _ rfl
  split
  · rename_i hroot
    rw [hroot]
    exact .ret rfl
  · exact .stop trivial

/-- An id that is received is one. -/
theorem sessionId_of_received {config : Config} {listener : Listener} {id : List Char}
    (h : waitForSessionId config listener = some (.ok id)) : SessionId id := by
  unfold waitForSessionId at h
  split at h
  · cases h
  · split at h
    · cases h
    · split at h
      · cases h
      · obtain ⟨_, stream, _, -, -, -, hprocess⟩ := waitForSessionIdOnListener_ok_iff.mp h
        exact (processCallbackStream_ok_iff.mp hprocess).1

theorem leads_receiveSamlSession (config : Config) :
    (Protocol.free Question).Leads (fun config' r => ∃ asked, SessionFrom config config' asked ∧ r = q ++ asked)
      (fun _ _ => True) q (receiveSamlSession desk config) := by
  unfold receiveSamlSession
  split
  · rename_i hnone
    exact .ret ⟨[], .inl ⟨rfl, Option.isNone_iff_eq_none.mp hnone, rfl⟩, (List.append_nil q).symm⟩
  · refine .bind (Q := fun _ r => r = q) (.look fun _ => rfl) ?_
    rintro listener q' rfl
    cases hreceived : waitForSessionId config listener with
    | none =>
      refine .bind (Q := fun _ _ => True) (.mark rfl trivial) fun _ _ _ => ?_
      exact .stop trivial
    | some received =>
      refine .bind (Q := fun _ r => r = q' ++ [.saml (some received)]) (.mark rfl rfl) ?_
      rintro _ _ rfl
      rcases received with err | id
      · exact .stop trivial
      · dsimp only
        split
        · exact .stop trivial
        · exact .ret ⟨_, .inr ⟨id, rfl, sessionId_of_received hreceived, rfl⟩, rfl⟩

theorem leads_installCtrlcHandler :
    (Protocol.free Question).Leads (fun _ r => r = q ++ [.setHandler (.ok ())]) (fun _ _ => True) q
      (installCtrlcHandler desk) := by
  unfold installCtrlcHandler
  refine .bind (Q := fun result r => r = q ++ [.setHandler result]) (.ask fun _ => ⟨_, rfl, rfl⟩) ?_
  rintro (err | _) _ rfl
  · exact .stop trivial
  · exact .ret rfl

theorem ready_of_session {config config' : Config} {asked : List Question} (hgateway : config.gatewayHost ≠ "")
    (hlogin : config.cookie.isSome ∨ config.samlPort.isSome ∨ config.username ≠ "" ∧ config.password.isSome ∨
      config.username = "" ∧ config.userCert.isSome) (h : SessionFrom config config' asked) : Ready config' := by
  rcases h with ⟨-, hnone, rfl⟩ | ⟨id, -, -, rfl⟩
  · rw [hnone] at hlogin
    rcases hlogin with hcookie | hsaml | hknown
    · exact ⟨hgateway, .inr (.inl hcookie)⟩
    · cases hsaml
    · exact ⟨hgateway, .inr (.inr hknown)⟩
  · exact ⟨hgateway, .inl rfl⟩

theorem leads_prepareConfig (cli : Cli) :
    (Protocol.free Question).Leads
      (fun config r => ∃ sources, Config.fromSources desk.readToString cli = .ok sources ∧
        Prepares sources config r ∧ Ready config) (fun _ _ => True) [] (prepareConfig desk cli) := by
  unfold prepareConfig
  cases hsources : Config.fromSources desk.readToString cli with
  | error err => exact .bind (Q := fun _ _ => False) (.stop trivial) fun _ _ h => h.elim
  | ok sources =>
    refine .bind (Q := fun config r => config = sources ∧ r = []) (.ret ⟨rfl, rfl⟩) ?_
    rintro sources _ ⟨rfl, rfl⟩
    refine .bind (leads_applyStdinCookie sources) ?_
    rintro withCookie cookie ⟨_, hcookie, rfl⟩
    dsimp only
    split
    · exact .stop trivial
    · rename_i hgateway
      refine .bind (leads_validateAndCompleteAuthConfig withCookie) ?_
      rintro withPassword _ ⟨password, hpassword, rfl, hlogin⟩
      have hproxy : withPassword.proxy = sources.proxy := by
        have h : withCookie.proxy = sources.proxy := by
          rcases hcookie with ⟨-, rfl⟩ | ⟨_, -, -, -, -, rfl⟩ <;> rfl
        rw [← h]
        rcases hpassword with ⟨-, rfl⟩ | ⟨_, _, -, -, -, -, -, -, rfl⟩ <;> rfl
      have hhost : withPassword.gatewayHost = withCookie.gatewayHost := by
        rcases hpassword with ⟨-, rfl⟩ | ⟨_, _, -, -, -, -, -, -, rfl⟩ <;> rfl
      have hrest (root : List Question) (hroot : root = if sources.proxy.isNone then [.euid 0] else []) :
          (Protocol.free Question).Leads
            (fun config r => ∃ sources', Except.ok sources = (.ok sources' : Result Config) ∧
              Prepares sources' config r ∧ Ready config) (fun _ _ => True) (cookie ++ password ++ root)
            (do
              let config ← receiveSamlSession desk withPassword
              installCtrlcHandler desk
              pure config) := by
        refine .bind (leads_receiveSamlSession withPassword) ?_
        rintro config _ ⟨session, hsession, rfl⟩
        refine .bind leads_installCtrlcHandler ?_
        rintro _ _ rfl
        refine .ret ⟨sources, rfl, ⟨withCookie, withPassword, cookie, password, session, hcookie, hpassword,
          hsession, by rw [hroot]⟩, ready_of_session (by rwa [hhost]) hlogin hsession⟩
      split
      · rename_i hnone
        refine .bind leads_requireRoot ?_
        rintro _ _ rfl
        exact hrest _ (by rw [← hproxy, if_pos hnone])
      · rename_i hsome
        have h := hrest [] (by rw [← hproxy, if_neg hsome])
        rwa [List.append_nil] at h

end Leads

end OpenfortivpnRs.Main
