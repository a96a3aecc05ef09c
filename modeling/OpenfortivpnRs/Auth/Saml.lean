import OpenfortivpnRs.Auth.Allocation
import OpenfortivpnRs.Reader
import OpenfortivpnRs.Text.CaseSearch
import Mathlib.Data.List.TakeWhile

/-!
# SAML logins (`auth/saml.rs` and `authenticate_with_saml_session` of `auth/login.rs`)

The browser is sent back to a listener on this host with the session id in the path of its request.
What the listener takes for an id is characterised exactly (`parseCallbackRequest_ok_iff`,
`session_id_iff`), and an id it returns is safe to log in with (`saml_login`).
-/

namespace OpenfortivpnRs.Auth

open Text Http Lib

def maxSamlSessionIdLength : ℕ := 1024

inductive SamlRequestError where
  | badMethodOrPath | missingIdTerminator | emptyId | tooLong | invalidCharacter
  deriving DecidableEq, Repr

/-- What `{:?}` writes. -/
def SamlRequestError.debug : SamlRequestError → String
  | badMethodOrPath => "BadMethodOrPath"
  | missingIdTerminator => "MissingIdTerminator"
  | emptyId => "EmptyId"
  | tooLong => "TooLong"
  | invalidCharacter => "InvalidCharacter"

/-! ### The callback -/

def requestHead : List Char := "GET /?id=".toList

/-- The characters an id ends at. -/
def endsId (ch : Char) : Bool := ch == ' ' || ch == '&' || ch == '\r' || ch == '\n'

def isIdChar (ch : Char) : Bool := ch.isAlphanum || ch == '-'

def parseCallbackRequest (request : List Char) : Except SamlRequestError (List Char) :=
  if requestHead <+: request then
    let rest := request.drop requestHead.length
    if rest.all (!endsId ·) then .error .missingIdTerminator
    else
      let id := rest.takeWhile (!endsId ·)
      if id = [] then .error .emptyId
      else if maxSamlSessionIdLength ≤ (encode id).length then .error .tooLong
      else if id.all isIdChar then .ok id
      else .error .invalidCharacter
  else .error .badMethodOrPath

/-- What `send_status_response` writes. -/
def statusResponse (userMessage : String) : List UInt8 :=
  let body := "<!DOCTYPE html>\r\n<html><body>\r\n" ++ userMessage ++ "</body></html>\r\n"
  let header := "HTTP/1.1 200 OK\r\nContent-Type: text/html\r\nContent-Length: " ++
    toString (asBytes body).length ++ "\r\nConnection: close\r\n\r\n"
  asBytes header ++ asBytes body

def successResponseBody : String :=
  "SAML session id received from Fortinet server. VPN will be established...<br>\r\n" ++
    "You may close this browser tab now.<br>\r\n" ++ "<script>\r\n" ++
    "window.setTimeout(() => \x7b window.close(); \x7d, 5000);\r\n" ++
    "document.write(\"<br>This window will close automatically in 5 seconds.\");\r\n" ++ "</script>\r\n"

def invalidRedirectBody : String :=
  "Invalid redirect response from Fortinet server. VPN could not be established."

/-- A connection to the listener: what `set_nodelay`, `read` and the writes of a response do. -/
structure CallbackStream where
  setNodelay : Except IoError Unit
  reader : Reader
  write : List UInt8 → Except IoError Unit

def processCallbackStream (stream : CallbackStream) : Result (List Char) :=
  match stream.setNodelay with
  | .error err => .error (.io err)
  | .ok () =>
    match (stream.reader.read 1023).1 with
    | .error err => .error (.io err)
    | .ok request =>
      match parseCallbackRequest (lossyChars request) with
      | .ok id =>
        match stream.write (statusResponse successResponseBody) with
        | .error err => .error (.io err)
        | .ok () => .ok id
      | .error requestError =>
        match stream.write (statusResponse invalidRedirectBody) with
        | .error err => .error (.io err)
        | .ok () => .error (.auth ("invalid SAML callback request: " ++ requestError.debug))

/-! ### The listener -/

/-- What `accept` gives; when there is no connection, whether the deadline of the try has passed. -/
inductive Accept where
  | connection (stream : CallbackStream)
  | wouldBlock (late : Bool)
  | failed (err : IoError)

/-- `wait_for_session_id_on_listener` with the tries that are left, on what `accept` gives; nothing
when it is still waiting. -/
def waitForSessionIdOnListener : (tries : ℕ) → List Accept → Option (Result (List Char))
  | 0, _ => some (.error (.auth "failed to retrieve SAML authentication token"))
  | _ + 1, [] => none
  | tries + 1, .connection stream :: accepts =>
    match processCallbackStream stream with
    | .ok id => some (.ok id)
    | .error _ => waitForSessionIdOnListener tries accepts
  | tries + 1, .wouldBlock late :: accepts =>
    if late then waitForSessionIdOnListener tries accepts
    else waitForSessionIdOnListener (tries + 1) accepts
  | _ + 1, .failed err :: _ =>
    some (.error (.network ("failed to accept SAML callback connection: " ++ err.text)))

/-- What `wait_for_session_id` meets. -/
structure Listener where
  bind : Except IoError Unit
  setNonblocking : Except IoError Unit
  accepts : List Accept

def waitForSessionId (config : Config) (listener : Listener) : Option (Result (List Char)) :=
  match config.samlPort with
  | none => some (.error (.auth "SAML callback port is not configured"))
  | some port =>
    match listener.bind with
    | .error err => some (.error (.network ("failed to bind SAML callback server to port " ++
        toString port ++ ": " ++ err.text)))
    | .ok () =>
      match listener.setNonblocking with
      | .error err => some (.error (.io err))
      | .ok () => waitForSessionIdOnListener 5 listener.accepts

/-! ### The login -/

def isValidSamlSessionId (value : List Char) : Bool := value ≠ [] ∧ value.all isIdChar

/-- The request that turns the id into a session cookie. -/
def samlRequest (config : Config) (samlSessionId : List Char) : Request :=
  ⟨httpHost config, "GET", "/remote/saml/auth_id?id=" ++ .ofList samlSessionId,
    [("User-Agent", config.userAgent)], []⟩

def authenticateWithSamlSession {σ : Type} (gateway : Gateway σ) (config : Config)
    (samlSessionId : List Char) : Login σ AuthSession :=
  if ¬ isValidSamlSessionId samlSessionId then throw (.error (.auth "invalid SAML session id"))
  else do
    let request := samlRequest config samlSessionId
    let response ← doHttpRequest gateway request
    Login.ofResult (ensureStatusOkForPath request.path response)
    if response.svpnCookie.isSome then finishAuthenticatedResponse gateway config request.host response
    else throw (.error (.auth "SAML authentication did not return SVPNCOOKIE"))

/-! ### What is taken for an id -/

/-- An id the program goes on with. -/
structure SessionId (id : List Char) : Prop where
  nonempty : id ≠ []
  short : id.length < maxSamlSessionIdLength
  chars : ∀ c ∈ id, isIdChar c = true

theorem isAscii_of_isIdChar {c : Char} (h : isIdChar c = true) : IsAscii c := by
  by_contra hascii
  unfold isIdChar Char.isAlphanum Char.isAlpha Char.isUpper Char.isLower Char.isDigit at h
  unfold IsAscii at hascii
  simp only [Bool.or_eq_true, Bool.and_eq_true, decide_eq_true_eq, beq_iff_eq, ge_iff_le,
    UInt32.le_iff_toNat_le] at h
  have hval : c.toNat = c.val.toNat := rfl
  rcases h with ((⟨-, h⟩ | ⟨-, h⟩) | ⟨-, h⟩) | rfl
  · exact hascii (hval ▸ Nat.lt_of_le_of_lt h (by decide))
  · exact hascii (hval ▸ Nat.lt_of_le_of_lt h (by decide))
  · exact hascii (hval ▸ Nat.lt_of_le_of_lt h (by decide))
  · exact hascii (by decide)

theorem not_endsId_of_isIdChar {c : Char} (h : isIdChar c = true) : endsId c = false := by
  by_contra hends
  rw [Bool.not_eq_false] at hends
  unfold endsId at hends
  simp only [Bool.or_eq_true, beq_iff_eq] at hends
  rcases hends with ((rfl | rfl) | rfl) | rfl <;> exact absurd h (by decide)

theorem isAscii_of_endsId {c : Char} (h : endsId c = true) : IsAscii c := by
  unfold endsId at h
  simp only [Bool.or_eq_true, beq_iff_eq] at h
  rcases h with ((rfl | rfl) | rfl) | rfl <;> decide

theorem SessionId.isAscii {id : List Char} (h : SessionId id) : ∀ c ∈ id, IsAscii c :=
  fun c hc => isAscii_of_isIdChar (h.chars c hc)

/-- **What the parser takes**: an id behind the head of the request and before a character that ends
it. -/
theorem parseCallbackRequest_ok_iff {request id : List Char} :
    parseCallbackRequest request = .ok id ↔
      SessionId id ∧ ∃ t rest, endsId t = true ∧ request = requestHead ++ (id ++ t :: rest) := by
  constructor
  · intro h
    unfold parseCallbackRequest at h
    simp only at h
    split_ifs at h with hhead hterm hempty hlong hchars
    obtain ⟨rest, rfl⟩ := hhead
    rw [List.drop_left] at hterm hempty hlong hchars h
    cases h
    rw [List.all_eq_true] at hchars
    refine ⟨⟨hempty, ?_, hchars⟩, ?_⟩
    · rw [length_encode_ascii fun c hc => isAscii_of_isIdChar (hchars c hc)] at hlong
      exact Nat.lt_of_not_le hlong
    · cases hdrop : rest.dropWhile (!endsId ·) with
      | nil =>
        rw [List.dropWhile_eq_nil_iff] at hdrop
        exact absurd (List.all_eq_true.mpr hdrop) hterm
      | cons t back =>
        have hhead := List.head_dropWhile_not (!endsId ·) (l := rest) (by rw [hdrop]; simp)
        refine ⟨t, back, ?_, ?_⟩
        · simpa [hdrop] using hhead
        · rw [← hdrop, List.takeWhile_append_dropWhile]
  · rintro ⟨hid, t, rest, ht, rfl⟩
    have hkeep : ∀ c ∈ id, (!endsId c) = true := fun c hc => by
      rw [not_endsId_of_isIdChar (hid.chars c hc)]
      rfl
    have htake : (id ++ t :: rest).takeWhile (!endsId ·) = id := by
      rw [List.takeWhile_append_of_pos hkeep, List.takeWhile_cons_of_neg (by simp [ht]), List.append_nil]
    unfold parseCallbackRequest
    simp only
    rw [if_pos (List.prefix_append _ _), List.drop_left, htake, if_neg (by simp [ht]), if_neg hid.nonempty,
      if_neg (by
        rw [length_encode_ascii hid.isAscii]
        exact Nat.not_le_of_lt hid.short),
      if_pos (List.all_eq_true.mpr hid.chars)]

/-! ### What arrives -/

theorem lossyChars_eq_cons {bytes : List UInt8} {c : Char} {s : List Char} (hc : IsAscii c)
    (h : lossyChars bytes = c :: s) :
    ∃ more, bytes = String.utf8EncodeChar c ++ more ∧ lossyChars more = s := by
  cases bytes with
  | nil =>
    rw [lossyChars] at h
    cases h
  | cons b rest =>
    rw [lossyChars] at h
    rcases hnext : nextChar (b :: rest) with ⟨c' | c', n⟩
    · rw [hnext] at h
      obtain ⟨rfl, -⟩ := List.cons.inj h
      exact absurd hc (by decide)
    · rw [hnext] at h
      obtain ⟨rfl, hs⟩ := List.cons.inj h
      exact ⟨rest.drop (n - 1), encode_of_nextChar hnext, hs⟩

/-- An ASCII text is at the front of what is decoded when its bytes are at the front. -/
theorem lossyChars_eq_append_iff {bytes : List UInt8} {s rest : List Char} (hs : ∀ c ∈ s, IsAscii c) :
    lossyChars bytes = s ++ rest ↔ ∃ more, bytes = encode s ++ more ∧ lossyChars more = rest := by
  constructor
  · intro h
    induction s generalizing bytes with
    | nil => exact ⟨bytes, rfl, h⟩
    | cons c s ih =>
      rw [List.forall_mem_cons] at hs
      obtain ⟨more, rfl, hmore⟩ := lossyChars_eq_cons hs.1 h
      obtain ⟨more, rfl, hrest⟩ := ih hs.2 hmore
      exact ⟨more, by rw [encode_cons, List.append_assoc], hrest⟩
  · rintro ⟨more, rfl, rfl⟩
    exact lossyChars_append s more

/-- The bytes are a request that calls back with the id, whatever follows. -/
def CallsBack (request : List UInt8) (id : List Char) : Prop :=
  ∃ t, endsId t = true ∧ encode (requestHead ++ id ++ [t]) <+: request

theorem callsBack_iff {request : List UInt8} {id : List Char} :
    parseCallbackRequest (lossyChars request) = .ok id ↔ SessionId id ∧ CallsBack request id := by
  rw [parseCallbackRequest_ok_iff]
  refine and_congr_right fun hid => exists_congr fun t => ?_
  have hascii (ht : endsId t = true) : ∀ c ∈ requestHead ++ id ++ [t], IsAscii c := by
    intro c hc
    rw [List.mem_append, List.mem_append, List.mem_singleton] at hc
    rcases hc with (hc | hc) | rfl
    · revert c
      decide
    · exact hid.isAscii c hc
    · exact isAscii_of_endsId ht
  have hcut (rest : List Char) : requestHead ++ (id ++ t :: rest) = requestHead ++ id ++ [t] ++ rest := by
    simp
  constructor
  · rintro ⟨rest, ht, h⟩
    rw [hcut] at h
    obtain ⟨more, rfl, -⟩ := (lossyChars_eq_append_iff (hascii ht)).mp h
    exact ⟨ht, List.prefix_append _ _⟩
  · rintro ⟨ht, more, rfl⟩
    refine ⟨lossyChars more, ht, ?_⟩
    rw [hcut]
    exact (lossyChars_eq_append_iff (hascii ht)).mpr ⟨more, rfl, rfl⟩

/-- **What the listener takes from a connection**: the first read alone has to call back with the id, and
the browser has to be told so. -/
theorem processCallbackStream_ok_iff {stream : CallbackStream} {id : List Char} :
    processCallbackStream stream = .ok id ↔
      SessionId id ∧ stream.setNodelay = .ok () ∧
        (∃ request, (stream.reader.read 1023).1 = .ok request ∧ CallsBack request id) ∧
        stream.write (statusResponse successResponseBody) = .ok () := by
  unfold processCallbackStream
  constructor
  · intro h
    split at h
    · cases h
    · rename_i hnodelay
      split at h
      · cases h
      · rename_i request hread
        split at h
        · rename_i id' hparse
          split at h
          · cases h
          · rename_i hwrite
            cases h
            obtain ⟨hid, hcalls⟩ := callsBack_iff.mp hparse
            exact ⟨hid, hnodelay, ⟨request, hread, hcalls⟩, hwrite⟩
        · split at h <;> cases h
  · rintro ⟨hid, hnodelay, ⟨request, hread, hcalls⟩, hwrite⟩
    simp only [hnodelay, hread, callsBack_iff.mpr ⟨hid, hcalls⟩, hwrite]

/-! ### Which callback wins -/

/-- The listener gets no id from it and goes on. -/
def Fruitless : Accept → Prop
  | .connection stream => ∀ id, processCallbackStream stream ≠ .ok id
  | .wouldBlock _ => True
  | .failed _ => False

/-- The tries that are used up. -/
def spent (accepts : List Accept) : ℕ :=
  (accepts.filter fun
    | .wouldBlock late => late
    | _ => true).length

/-- The tries go down by those that are used up. -/
theorem waitForSessionIdOnListener_append {before : List Accept} (hbefore : ∀ a ∈ before, Fruitless a)
    {tries : ℕ} (htries : spent before < tries) (accepts : List Accept) :
    waitForSessionIdOnListener tries (before ++ accepts) =
      waitForSessionIdOnListener (tries - spent before) accepts := by
  induction before generalizing tries with
  | nil => rfl
  | cons a before ih =>
    rw [List.forall_mem_cons] at hbefore
    obtain ⟨tries, rfl⟩ := Nat.exists_eq_succ_of_ne_zero (Nat.ne_of_gt (Nat.zero_lt_of_lt htries))
    cases a with
    | connection stream =>
      have hspent : spent (.connection stream :: before) = spent before + 1 := rfl
      rw [hspent] at htries ⊢
      rw [List.cons_append, waitForSessionIdOnListener, Nat.succ_eq_add_one, Nat.add_sub_add_right,
        ← ih hbefore.2 (by omega)]
      cases hprocess : processCallbackStream stream with
      | ok id => exact absurd hprocess (hbefore.1 id)
      | error err => rfl
    | wouldBlock late =>
      rw [List.cons_append, waitForSessionIdOnListener]
      cases late with
      | true =>
        have hspent : spent (.wouldBlock true :: before) = spent before + 1 := rfl
        rw [hspent] at htries ⊢
        rw [if_pos rfl, Nat.succ_eq_add_one, Nat.add_sub_add_right, ih hbefore.2 (by omega)]
      | false =>
        have hspent : spent (.wouldBlock false :: before) = spent before := rfl
        rw [hspent] at htries ⊢
        rw [if_neg (by simp), ih hbefore.2 htries]
    | failed err => exact hbefore.1.elim

/-- A list of what `accept` gives is fruitless, or it has a first entry that is not. -/
theorem fruitless_or_first (accepts : List Accept) : (∀ a ∈ accepts, Fruitless a) ∨
    ∃ before a after, accepts = before ++ a :: after ∧ (∀ a ∈ before, Fruitless a) ∧ ¬ Fruitless a := by
  induction accepts with
  | nil => exact .inl nofun
  | cons a accepts ih =>
    by_cases ha : Fruitless a
    · rcases ih with hall | ⟨before, b, after, rfl, hbefore, hb⟩
      · exact .inl (List.forall_mem_cons.mpr ⟨ha, hall⟩)
      · exact .inr ⟨a :: before, b, after, rfl, List.forall_mem_cons.mpr ⟨ha, hbefore⟩, hb⟩
    · exact .inr ⟨[], a, accepts, rfl, nofun, ha⟩

/-- When the tries are used up there is no id. -/
theorem waitForSessionIdOnListener_spent {before : List Accept} (hbefore : ∀ a ∈ before, Fruitless a)
    {tries : ℕ} (htries : tries ≤ spent before) (accepts : List Accept) (id : List Char) :
    waitForSessionIdOnListener tries (before ++ accepts) ≠ some (.ok id) := by
  induction before generalizing tries with
  | nil =>
    obtain rfl : tries = 0 := Nat.le_zero.mp htries
    rw [waitForSessionIdOnListener]
    nofun
  | cons a before ih =>
    rw [List.forall_mem_cons] at hbefore
    cases tries with
    | zero =>
      rw [waitForSessionIdOnListener]
      nofun
    | succ tries =>
      cases a with
      | connection stream =>
        have hspent : spent (.connection stream :: before) = spent before + 1 := rfl
        rw [hspent] at htries
        rw [List.cons_append, waitForSessionIdOnListener]
        cases hprocess : processCallbackStream stream with
        | ok id => exact absurd hprocess (hbefore.1 id)
        | error err => exact ih hbefore.2 (by omega)
      | wouldBlock late =>
        rw [List.cons_append, waitForSessionIdOnListener]
        cases late with
        | true =>
          have hspent : spent (.wouldBlock true :: before) = spent before + 1 := rfl
          rw [hspent] at htries
          exact ih hbefore.2 (by omega)
        | false => exact ih hbefore.2 htries
      | failed err => exact hbefore.1.elim

/-- The listener's loop returns the id of the first entry that is not fruitless, when there are tries
left. -/
theorem waitForSessionIdOnListener_ok_iff {tries : ℕ} {accepts : List Accept} {id : List Char} :
    waitForSessionIdOnListener tries accepts = some (.ok id) ↔
      ∃ before stream after, accepts = before ++ .connection stream :: after ∧
        (∀ a ∈ before, Fruitless a) ∧ spent before < tries ∧ processCallbackStream stream = .ok id := by
  constructor
  · intro h
    rcases fruitless_or_first accepts with hall | ⟨before, a, after, rfl, hbefore, ha⟩
    · by_cases hspent : spent accepts < tries
      · rw [← List.append_nil accepts, waitForSessionIdOnListener_append hall hspent] at h
        obtain ⟨n, hn⟩ := Nat.exists_eq_succ_of_ne_zero (Nat.sub_ne_zero_of_lt hspent)
        rw [hn, waitForSessionIdOnListener] at h
        cases h
      · rw [← List.append_nil accepts] at h
        exact absurd h (waitForSessionIdOnListener_spent hall (Nat.le_of_not_lt hspent) [] id)
    · by_cases hspent : spent before < tries
      · rw [waitForSessionIdOnListener_append hbefore hspent] at h
        obtain ⟨n, hn⟩ := Nat.exists_eq_succ_of_ne_zero (Nat.sub_ne_zero_of_lt hspent)
        rw [hn] at h
        cases a with
        | connection stream =>
          rw [waitForSessionIdOnListener] at h
          cases hprocess : processCallbackStream stream with
          | ok id' =>
            rw [hprocess] at h
            cases h
            exact ⟨before, stream, after, rfl, hbefore, hspent, hprocess⟩
          | error err => exact (ha fun id hok => by rw [hprocess] at hok; cases hok).elim
        | wouldBlock late => exact (ha trivial).elim
        | failed err =>
          rw [waitForSessionIdOnListener] at h
          cases h
      · exact absurd h (waitForSessionIdOnListener_spent hbefore (Nat.le_of_not_lt hspent) _ id)
  · rintro ⟨before, stream, after, rfl, hbefore, hspent, hprocess⟩
    rw [waitForSessionIdOnListener_append hbefore hspent]
    obtain ⟨n, hn⟩ := Nat.exists_eq_succ_of_ne_zero (Nat.sub_ne_zero_of_lt hspent)
    rw [hn, waitForSessionIdOnListener, hprocess]

/-- **Which callback wins.**  In any order of connections, timeouts and errors, the listener returns an id
exactly when the first entry that is not fruitless calls back with it, before five tries are used
up. -/
theorem session_id_iff {config : Config} {listener : Listener} {id : List Char} :
    waitForSessionId config listener = some (.ok id) ↔
      config.samlPort.isSome ∧ listener.bind = .ok () ∧ listener.setNonblocking = .ok () ∧
        ∃ before stream after, listener.accepts = before ++ .connection stream :: after ∧
          (∀ a ∈ before, Fruitless a) ∧ spent before < 5 ∧ SessionId id ∧ stream.setNodelay = .ok () ∧
          (∃ request, (stream.reader.read 1023).1 = .ok request ∧ CallsBack request id) ∧
          stream.write (statusResponse successResponseBody) = .ok () := by
  unfold waitForSessionId
  cases config.samlPort with
  | none => simp
  | some port =>
    cases listener.bind with
    | error err => simp
    | ok u =>
      cases listener.setNonblocking with
      | error err => simp
      | ok u => simp [waitForSessionIdOnListener_ok_iff, processCallbackStream_ok_iff]

/-! ### Logging in with the id -/

section Login

variable {σ : Type} {gateway : Gateway σ}

/-- The conversation so far and at most one request behind it, with the cookie in it. -/
def EndsWithCookie (exchanges : List (Request × Result HttpResponse)) (cookie : String)
    (w : Conversation σ) : Prop :=
  ∃ more, w.exchanges = exchanges ++ more ∧ more.length ≤ 1 ∧
    ∀ exchange ∈ more, exchange.1.method = "POST" ∧ ("Cookie", cookie) ∈ exchange.1.headers

theorem endsWithCookie_action (config : Config) (host path body cookie : String)
    (exchanges : List (Request × Result HttpResponse)) :
    Triple (fun w => w.exchanges = exchanges) (postFormWithCookie gateway config host path body cookie)
      (fun _ w => EndsWithCookie exchanges cookie w) (EndsWithCookie exchanges cookie) := by
  rintro w rfl
  unfold postFormWithCookie doHttpRequest
  obtain ⟨result, state⟩ := gateway.doHttpRequest _ w.state
  cases result with
  | ok response => exact ⟨_, rfl, le_refl _, by simp⟩
  | error err => exact ⟨_, rfl, le_refl _, by simp⟩

/-- The end of a login sends at most one request, with the cookie the login is about to return. -/
theorem triple_finish_cookie (config : Config) (host : String) {response : HttpResponse} {svpn : String}
    (hsvpn : response.svpnCookie = some svpn) (exchanges : List (Request × Result HttpResponse)) :
    Triple (fun w => w.exchanges = exchanges) (finishAuthenticatedResponse gateway config host response)
      (fun session w => session.cookie = response.cookieHeader.getD svpn ∧
        EndsWithCookie exchanges (response.cookieHeader.getD svpn) w)
      (EndsWithCookie exchanges (response.cookieHeader.getD svpn)) := by
  have hnone : ∀ w : Conversation σ, w.exchanges = exchanges →
      EndsWithCookie exchanges (response.cookieHeader.getD svpn) w :=
    fun w hw => ⟨[], by rw [hw, List.append_nil], Nat.zero_le _, nofun⟩
  unfold finishAuthenticatedResponse
  rw [hsvpn]
  refine Triple.bind (Q := fun c w => c = svpn ∧ w.exchanges = exchanges)
    (Triple.ret svpn fun _ hw => ⟨rfl, hw⟩) fun svpnCookie => Triple.of_imp ?_
  rintro rfl
  refine Triple.bind (triple_ofPanic_of_imp _ hnone) fun action => ?_
  cases action with
  | none =>
    refine Triple.bind (triple_ofPanic_of_imp _ hnone) fun redirect => ?_
    exact Triple.ret _ fun w hw => ⟨rfl, hnone w hw⟩
  | some path =>
    refine Triple.bind (endsWithCookie_action config host _ _ _ exchanges) fun answer => ?_
    refine Triple.bind (triple_ofResult_of_imp _ fun _ hw => hw) fun _ => Triple.of_imp fun _ => ?_
    refine Triple.bind (triple_ofPanic_of_imp _ fun _ hw => hw) fun redirect => ?_
    exact Triple.ret _ fun _ hw => ⟨rfl, hw⟩

/-- What a login with an id has done: its first request is the one with the id, and at most one more
follows, with the cookie of the answer. -/
def SamlExchanges (config : Config) (id : List Char) (w : Conversation σ) : Prop :=
  (∃ err, w.exchanges = [(samlRequest config id, .error err)]) ∨
    ∃ response, EndsWithCookie [(samlRequest config id, .ok response)]
      (response.cookieHeader.getD (response.svpnCookie.getD "")) w

theorem triple_saml {config : Config} {id : List Char} (hid : SessionId id) :
    Triple (fun w => w.exchanges = []) (authenticateWithSamlSession gateway config id)
      (fun session w => ∃ response, response.statusCode = 200 ∧ response.svpnCookie.isSome ∧
        session.cookie = response.cookieHeader.getD (response.svpnCookie.getD "") ∧
        EndsWithCookie [(samlRequest config id, .ok response)] session.cookie w)
      (SamlExchanges config id) := by
  have hvalid : isValidSamlSessionId id = true := by
    unfold isValidSamlSessionId
    rw [decide_eq_true_eq]
    exact ⟨by simp [hid.nonempty], List.all_eq_true.mpr hid.chars⟩
  have hdone (response : HttpResponse) : ∀ w : Conversation σ,
      w.exchanges = [(samlRequest config id, .ok response)] → SamlExchanges config id w :=
    fun w hw => .inr ⟨response, [], by rw [hw, List.append_nil], Nat.zero_le _, nofun⟩
  have hrequest := (@triple_request σ gateway (samlRequest config id) []).conseq (fun _ hw => hw)
    (fun _ _ hw => hw) fun (w : Conversation σ) hw => show SamlExchanges config id w from .inl hw
  unfold authenticateWithSamlSession
  rw [if_neg (by simp [hvalid])]
  refine Triple.bind hrequest fun response => ?_
  refine Triple.bind (triple_ofResult_of_imp _ (hdone response)) fun _ => Triple.of_imp fun hstatus => ?_
  split
  · rename_i hcookie
    obtain ⟨svpn, hsvpn⟩ := Option.isSome_iff_exists.mp hcookie
    have hvalue : response.svpnCookie.getD "" = svpn := by rw [hsvpn, Option.getD_some]
    refine (triple_finish_cookie config _ hsvpn _).conseq (fun _ hw => hw) (fun session w hw => ?_)
      fun w hw => .inr ⟨response, by rwa [hvalue]⟩
    refine ⟨response, status_of_ensure hstatus, hcookie, by rw [hw.1, hvalue], ?_⟩
    rw [hw.1]
    exact hw.2
  · exact Triple.stop _ (hdone response)

theorem Lockstep.authenticateWithSamlSession {σ τ : Type} {bad : Conversation σ → Prop}
    {R E : Conversation σ → Conversation τ → Prop} {config : Config} {gateway : Gateway σ} {gateway' : Gateway τ}
    (h : Lockstep bad R E config gateway gateway') (id : List Char) :
    Simulates bad R E (authenticateWithSamlSession gateway config id)
      (authenticateWithSamlSession gateway' config id) := by
  unfold Auth.authenticateWithSamlSession
  split
  · exact .stop _ h.stop
  · refine (h.request _ (.get _)).bind fun response => (h.ofResult _).bind fun _ => ?_
    split
    · exact h.finishAuthenticatedResponse _
    · exact .stop _ h.stop

theorem prompt_saml (config : Config) (id : List Char) :
    Prompt (authenticateWithSamlSession gateway config id) :=
  ((lockstep_prompt config).authenticateWithSamlSession id).triple

/-- A path that is one word of the request line, with nothing in it that would end it or start a second
parameter. -/
def PlainPath (path : String) : Prop := ∀ c ∈ path.toList, isIdChar c = true ∨ c ∈ "/_?=".toList

theorem plainPath_saml {config : Config} {id : List Char} (hid : SessionId id) :
    PlainPath (samlRequest config id).path := by
  have hfront : ∀ c ∈ "/remote/saml/auth_id?id=".toList, isIdChar c = true ∨ c ∈ "/_?=".toList := by decide
  intro c hc
  unfold samlRequest at hc
  rw [String.toList_append, List.mem_append] at hc
  rcases hc with hc | hc
  · exact hfront c hc
  · rw [String.toList_ofList] at hc
    exact .inl (hid.chars c hc)

/-- The head, the id and the character behind it are in one read. -/
theorem length_of_callsBack {reader : Reader} {request : List UInt8} {id : List Char} {max : ℕ}
    (hid : SessionId id) (hread : (reader.read max).1 = .ok request) (hcalls : CallsBack request id) :
    id.length + 10 ≤ max := by
  obtain ⟨t, ht, hprefix⟩ := hcalls
  have hmax : request.length ≤ max := (Reader.read_ok (Prod.ext hread rfl)).2
  have hlen := hprefix.length_le
  have hhead : (encode requestHead).length = 9 := by decide
  have hend : (encode [t]).length = 1 :=
    length_encode_ascii (List.forall_mem_singleton.mpr (isAscii_of_endsId ht))
  rw [encode_append, encode_append, List.length_append, List.length_append, hhead,
    length_encode_ascii hid.isAscii] at hlen
  omega

/-- **An id from the listener is safe to log in with.**  It is taken as an id, the request it goes into has
a plain path and no cookie, at most one more request follows, which has the cookie of the answer, and
the login succeeds only with an answer of status 200 that sets the session cookie. -/
theorem saml_login {σ : Type} (gateway : Gateway σ) {config : Config} {listener : Listener} {id : List Char}
    (h : waitForSessionId config listener = some (.ok id)) (s : σ) :
    id.length ≤ 1013 ∧ PlainPath (samlRequest config id).path ∧ IsLoginRequest (samlRequest config id) ∧
      SamlExchanges config id (finalConversation (authenticateWithSamlSession gateway config id ⟨s, []⟩)) ∧
      ∀ session w, authenticateWithSamlSession gateway config id ⟨s, []⟩ = .ok session w →
        ∃ response, (samlRequest config id, .ok response) ∈ w.exchanges ∧ response.statusCode = 200 ∧
          response.svpnCookie.isSome ∧
          session.cookie = response.cookieHeader.getD (response.svpnCookie.getD "") := by
  have hlistener : waitForSessionIdOnListener 5 listener.accepts = some (.ok id) := by
    unfold waitForSessionId at h
    split at h
    · cases h
    · split at h
      · cases h
      · split at h
        · cases h
        · exact h
  obtain ⟨-, stream, -, -, -, -, hprocess⟩ := waitForSessionIdOnListener_ok_iff.mp hlistener
  obtain ⟨hid, -, ⟨request, hread, hcalls⟩, -⟩ := processCallbackStream_ok_iff.mp hprocess
  have hlength := length_of_callsBack hid hread hcalls
  have hends (cookie : String) (response : HttpResponse) (w : Conversation σ)
      (hw : EndsWithCookie [(samlRequest config id, .ok response)] cookie w) :
      (samlRequest config id, .ok response) ∈ w.exchanges := by
    obtain ⟨more, hmore, -⟩ := hw
    rw [hmore]
    exact List.mem_cons_self
  refine ⟨by omega, plainPath_saml hid, ?_, ?_, ?_⟩
  · intro header hheader
    obtain rfl := List.mem_singleton.mp hheader
    exact fun hname => absurd hname (by decide : ¬ "User-Agent" = "Cookie")
  · cases hrun : authenticateWithSamlSession gateway config id ⟨s, []⟩ with
    | ok session w =>
      obtain ⟨response, -, -, hcookie, hw⟩ := (triple_saml hid).run_ok rfl hrun
      exact .inr ⟨response, hcookie ▸ hw⟩
    | error why w => exact (triple_saml hid).run_error rfl hrun
  · intro session w hrun
    obtain ⟨response, hstatus, hsvpn, hcookie, hw⟩ := (triple_saml hid).run_ok rfl hrun
    exact ⟨response, hends _ _ _ hw, hstatus, hsvpn, hcookie⟩

/-- A browser that calls back. -/
def browser : Listener where
  bind := .ok ()
  setNonblocking := .ok ()
  accepts := [.wouldBlock false,
    .connection ⟨.ok (), ⟨[.ok (asBytes "GET /?id=ab-12 HTTP/1.1\r\n\r\n")]⟩, fun _ => .ok ()⟩]

theorem saml_login_browser : ∃ config : Config,
    waitForSessionId config browser = some (.ok "ab-12".toList) ∧
      "ab-12".toList.length ≤ 1013 ∧ PlainPath (samlRequest config "ab-12".toList).path ∧
      IsLoginRequest (samlRequest config "ab-12".toList) ∧
      SamlExchanges config "ab-12".toList
        (finalConversation (authenticateWithSamlSession tokenGateway config "ab-12".toList ⟨tokenAnswers, []⟩)) := by
  have hwait : waitForSessionId { Config.default with samlPort := some 8020 } browser =
      some (.ok "ab-12".toList) := by decide +kernel
  have hsafe := saml_login tokenGateway hwait tokenAnswers
  exact ⟨_, hwait, hsafe.1, hsafe.2.1, hsafe.2.2.1, hsafe.2.2.2.1⟩

end Login

end OpenfortivpnRs.Auth
