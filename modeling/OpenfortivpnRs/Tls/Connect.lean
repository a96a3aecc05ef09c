import Mathlib.Data.List.DropRight
import OpenfortivpnRs.Config.Values
import OpenfortivpnRs.Lib.Protocol
import OpenfortivpnRs.Text.Split

/-!
# The way to the gateway (`connect_tcp` of `tls.rs`)

The gateway is connected to directly, or through the HTTP proxy that the environment names: the connection
is then one to the proxy, which is asked to put it through.
-/

namespace OpenfortivpnRs.Tls

open Lib Text

structure ProxyConfig where
  host : String
  port : ℕ
  deriving DecidableEq, Repr

/-! ### Which proxy -/

/-- `trim_end_matches('/')`. -/
def trimSlashes (s : List Char) : List Char := s.rdropWhile (· == '/')

section ParseProxyUrl

-- how `Debug` shows a text
variable (debug : String → String)

/-- What stands behind a scheme, if there is one. -/
def behindScheme (value : String) (proxy : List Char) : Result (List Char) :=
  match splitOnce "://".toList proxy with
  | some (scheme, rest) =>
    if eqIgnoreAsciiCase scheme "http".toList = false ∧ eqIgnoreAsciiCase scheme "https".toList = false then
      .error (.network
        ("unsupported proxy scheme in " ++ debug value ++ "; only HTTP CONNECT proxies are supported"))
    else .ok (trimSlashes rest)
  | none => .ok proxy

/-- The host and the port, which has a default. -/
def hostAndPort (value : String) (proxy : List Char) : Result (List Char × ℕ) :=
  match rsplitOnce ':' proxy with
  | some (host, port) =>
    if host = [] ∨ port = [] then .error (.network ("bad proxy address: " ++ value))
    else
      match parseUnsigned 65535 port with
      | some port => .ok (host, port)
      | none => .error (.network ("bad proxy port in proxy address: " ++ value))
  | none => .ok (proxy, 8080)

/-- `rsplit('@').next()`: what stands behind the user information. -/
def behindUser (proxy : List Char) : List Char := (rsplitOnce '@' proxy).elim proxy Prod.snd

def parseProxyUrl (value : String) : Result ProxyConfig := do
  let proxy ← behindScheme debug value (trimSlashes (trim value).toList)
  let (host, port) ← hostAndPort value (behindUser proxy)
  if host = [] ∨ port = 0 then .error (.network ("bad proxy address: " ++ value))
  else .ok ⟨.ofList host, port⟩

/-- `env` is what `env::var` gives, where it gives a text. -/
def proxyFromEnvironment (env : String → Option String) : Result (Option ProxyConfig) :=
  match ["https_proxy", "HTTPS_PROXY", "all_proxy", "ALL_PROXY"].findSome? fun key =>
      (env key).filter fun value => trim value ≠ "" with
  | some value => (parseProxyUrl debug value).map some
  | none => .ok none

end ParseProxyUrl

/-! ### What is read as a proxy -/

/-- What may stand before an authority: nothing, or a scheme that is spoken. -/
def IsScheme (scheme authority : List Char) : Prop :=
  scheme = [] ∧ ¬ "://".toList <:+: authority ∨ ∃ name, scheme = name ++ "://".toList ∧
    (eqIgnoreAsciiCase name "http".toList = true ∨ eqIgnoreAsciiCase name "https".toList = true)

def IsHostPort (text host : List Char) (port : ℕ) : Prop :=
  text = host ∧ port = 8080 ∧ ':' ∉ host ∨
    ∃ digits, text = host ++ ':' :: digits ∧ parseUnsigned 65535 digits = some port

/-- An authority: user information that ends with an at sign, and a host with a port. -/
structure IsAuthority (authority host : List Char) (port : ℕ) : Prop where
  parts : ∃ user text, authority = user ++ text ∧ (user = [] ∨ ∃ name, user = name ++ ['@']) ∧ '@' ∉ text ∧
    IsHostPort text host port
  host_nonempty : host ≠ []
  port_pos : port ≠ 0

theorem parseUnsigned_chars {max n : ℕ} {s : List Char} (h : parseUnsigned max s = some n) :
    s ≠ [] ∧ ∀ c ∈ s, c.isDigit = true ∨ c = '+' := by
  cases s with
  | nil => cases h
  | cons c s =>
    refine ⟨List.cons_ne_nil c s, ?_⟩
    unfold parseUnsigned at h
    dsimp only at h
    by_cases hplus : (c :: s).head? = some '+'
    · rw [if_pos hplus, List.tail_cons] at h
      split at h
      · rename_i hdigits
        exact List.forall_mem_cons.mpr
          ⟨.inr (Option.some.inj hplus), fun d hd => .inl (List.all_eq_true.mp hdigits.2.1 d hd)⟩
      · cases h
    · rw [if_neg hplus] at h
      split at h
      · rename_i hdigits
        exact fun d hd => .inl (List.all_eq_true.mp hdigits.2.1 d hd)
      · cases h

theorem not_mem_of_parseUnsigned {max n : ℕ} {s : List Char} {c : Char} (h : parseUnsigned max s = some n)
    (hdigit : c.isDigit = false) (hplus : c ≠ '+') : c ∉ s := by
  intro hc
  rcases (parseUnsigned_chars h).2 c hc with hd | hp
  · rw [hdigit] at hd
    cases hd
  · exact hplus hp

theorem hostAndPort_eq_ok_iff {value : String} {text host : List Char} {port : ℕ} (hne : host ≠ []) :
    hostAndPort value text = .ok (host, port) ↔ IsHostPort text host port := by
  unfold hostAndPort
  constructor
  · intro h
    split at h
    · rename_i front digits hcut
      obtain ⟨rfl, -⟩ := rsplitOnce_eq_some_iff.mp hcut
      split at h
      · cases h
      · split at h
        · rename_i n hn
          cases h
          exact .inr ⟨digits, rfl, hn⟩
        · cases h
    · rename_i hcut
      cases h
      exact .inl ⟨rfl, rfl, rsplitOnce_eq_none_iff.mp hcut⟩
  · rintro (⟨rfl, rfl, hcolon⟩ | ⟨digits, rfl, hdigits⟩)
    · rw [rsplitOnce_none_of_not_mem hcolon]
    · rw [rsplitOnce_char _ (not_mem_of_parseUnsigned hdigits rfl (by decide))]
      simp only
      rw [if_neg (not_or.mpr ⟨hne, (parseUnsigned_chars hdigits).1⟩), hdigits]

theorem behindUser_eq_iff {authority text : List Char} :
    behindUser authority = text ↔
      ∃ user, authority = user ++ text ∧ (user = [] ∨ ∃ name, user = name ++ ['@']) ∧ '@' ∉ text := by
  constructor
  · rintro rfl
    unfold behindUser
    cases hcut : rsplitOnce '@' authority with
    | none => exact ⟨[], rfl, .inl rfl, rsplitOnce_eq_none_iff.mp hcut⟩
    | some parts =>
      obtain ⟨user, text⟩ := parts
      obtain ⟨hparts, htext⟩ := rsplitOnce_eq_some_iff.mp hcut
      exact ⟨user ++ ['@'], by rw [hparts]; simp, .inr ⟨user, rfl⟩, htext⟩
  · rintro ⟨user, rfl, rfl | ⟨name, rfl⟩, htext⟩
    · unfold behindUser
      rw [List.nil_append, rsplitOnce_none_of_not_mem htext]
      rfl
    · unfold behindUser
      rw [List.append_assoc, List.singleton_append, rsplitOnce_char _ htext]
      rfl

theorem colon_not_mem {name word : List Char} (hword : ':' ∉ word) (h : eqIgnoreAsciiCase name word = true)
    (hlower : ∀ c ∈ word, lowerChar c = c) : ':' ∉ name := by
  intro hmem
  have hmap : name.map lowerChar = word.map lowerChar := beq_iff_eq.mp h
  have hcolon : ':' ∈ word.map lowerChar := hmap ▸ List.mem_map.mpr ⟨':', hmem, rfl⟩
  obtain ⟨c, hc, hlow⟩ := List.mem_map.mp hcolon
  rw [hlower c hc] at hlow
  exact hword (hlow ▸ hc)

/-- Slashes are trimmed up to what does not end with one. -/
theorem trimSlashes_eq_iff {s t : List Char} :
    trimSlashes s = t ↔ ∃ slashes, s = t ++ slashes ∧ (∀ c ∈ slashes, c = '/') ∧ t.getLast? ≠ some '/' := by
  unfold trimSlashes
  constructor
  · rintro rfl
    refine ⟨s.rtakeWhile (· == '/'), (List.rdropWhile_append_rtakeWhile ..).symm, fun c hc => ?_, fun h => ?_⟩
    · exact beq_iff_eq.mp (@List.mem_rtakeWhile_imp _ (· == '/') s c hc)
    · have hne : s.rdropWhile (· == '/') ≠ [] := fun hnil => by
        rw [hnil] at h
        cases h
      rw [List.getLast?_eq_some_getLast hne] at h
      exact List.rdropWhile_last_not _ s hne (beq_iff_eq.mpr (Option.some.inj h))
  · rintro ⟨slashes, rfl, hslashes, hlast⟩
    induction slashes using List.reverseRecOn with
    | nil =>
      rw [List.append_nil]
      refine List.rdropWhile_eq_self_iff.mpr fun hne h => hlast ?_
      rw [List.getLast?_eq_some_getLast hne, beq_iff_eq.mp h]
    | append_singleton slashes c ih =>
      obtain ⟨hrest, hc⟩ := List.forall_mem_append.mp hslashes
      rw [← List.append_assoc, List.rdropWhile_concat_pos _ _ _ (by rw [hc c (List.mem_singleton_self c)]; rfl)]
      exact ih hrest

theorem trimSlashes_eq_self {s : List Char} (h : s.getLast? ≠ some '/') : trimSlashes s = s :=
  trimSlashes_eq_iff.mpr ⟨[], (List.append_nil s).symm, List.forall_mem_nil _, h⟩

theorem isHttp_colon {name : List Char}
    (h : eqIgnoreAsciiCase name "http".toList = true ∨ eqIgnoreAsciiCase name "https".toList = true) :
    ':' ∉ name := by
  rcases h with h | h
  · exact colon_not_mem (by decide) h (by decide)
  · exact colon_not_mem (by decide) h (by decide)

theorem behindScheme_eq_ok_iff {debug : String → String} {value : String} {text authority : List Char}
    (htext : text.getLast? ≠ some '/') (hne : authority ≠ []) :
    behindScheme debug value text = .ok authority ↔
      ∃ scheme, text = scheme ++ authority ∧ IsScheme scheme authority := by
  unfold behindScheme
  constructor
  · intro h
    split at h
    · rename_i name rest hcut
      have hparts := splitOnce_eq hcut
      split at h
      · cases h
      · rename_i hspoken
        have hauthority := Except.ok.inj h
        have hrest : rest ≠ [] := by
          rintro rfl
          exact hne hauthority.symm
        have hlast : rest.getLast? ≠ some '/' := by
          rw [hparts, List.getLast?_append_of_ne_nil _ hrest] at htext
          exact htext
        rw [trimSlashes_eq_self hlast] at hauthority
        rw [← hauthority]
        refine ⟨name ++ "://".toList, hparts, .inr ⟨name, rfl, ?_⟩⟩
        by_contra hno
        rw [not_or, Bool.not_eq_true, Bool.not_eq_true] at hno
        exact hspoken hno
    · rename_i hcut
      cases h
      exact ⟨[], rfl, .inl ⟨rfl, (splitOnce_eq_none_iff (by decide)).mp hcut⟩⟩
  · rintro ⟨scheme, rfl, ⟨rfl, hno⟩ | ⟨name, rfl, hspoken⟩⟩
    · rw [List.nil_append, (splitOnce_eq_none_iff (by decide)).mpr hno]
    · have hcut : splitOnce "://".toList (name ++ "://".toList ++ authority) = some (name, authority) := by
        rw [List.append_assoc]
        exact splitOnce_append "//".toList authority (isHttp_colon hspoken)
      have hlast : authority.getLast? ≠ some '/' := by
        rw [List.getLast?_append_of_ne_nil _ hne] at htext
        exact htext
      rw [hcut]
      simp only
      rw [if_neg, trimSlashes_eq_self hlast]
      rintro ⟨hhttp, hhttps⟩
      rw [hhttp, hhttps] at hspoken
      rcases hspoken with h | h <;> cases h

theorem IsAuthority.ne_nil {authority host : List Char} {port : ℕ} (h : IsAuthority authority host port) :
    authority ≠ [] := by
  obtain ⟨user, text, rfl, -, -, htext⟩ := h.parts
  apply List.append_ne_nil_of_right_ne_nil
  rcases htext with ⟨rfl, -, -⟩ | ⟨digits, rfl, -⟩
  · exact h.host_nonempty
  · exact List.append_ne_nil_of_left_ne_nil h.host_nonempty _

/-- **What is read as a proxy.**  A text stands for a host and a port exactly when, but for white space and
slashes at its end, it is an authority, or one behind `http://` or `https://`. -/
theorem proxy_url_iff (debug : String → String) (value : String) (proxy : ProxyConfig) :
    parseProxyUrl debug value = .ok proxy ↔ ∃ scheme authority slashes : List Char,
      (trim value).toList = scheme ++ authority ++ slashes ∧ (∀ c ∈ slashes, c = '/') ∧
        authority.getLast? ≠ some '/' ∧ IsScheme scheme authority ∧
        IsAuthority authority proxy.host.toList proxy.port := by
  unfold parseProxyUrl
  constructor
  · intro h
    obtain ⟨authority, hscheme, h⟩ := bind_eq_ok.mp h
    obtain ⟨⟨host, port⟩, hhost, h⟩ := bind_eq_ok.mp h
    simp only at h
    split at h
    · cases h
    · rename_i hok
      cases h
      obtain ⟨hhostNe, hport⟩ := not_or.mp hok
      obtain ⟨slashes, htrim, hslashes, hlast⟩ := trimSlashes_eq_iff.mp (rfl : trimSlashes (trim value).toList = _)
      obtain ⟨user, huser, hends, hat⟩ := behindUser_eq_iff.mp (rfl : behindUser authority = _)
      have hauthority : IsAuthority authority host port :=
        ⟨⟨user, _, huser, hends, hat, (hostAndPort_eq_ok_iff hhostNe).mp hhost⟩, hhostNe, hport⟩
      obtain ⟨scheme, htext, hisScheme⟩ := (behindScheme_eq_ok_iff hlast hauthority.ne_nil).mp hscheme
      rw [htext] at htrim hlast
      rw [List.getLast?_append_of_ne_nil _ hauthority.ne_nil] at hlast
      exact ⟨scheme, authority, slashes, htrim, hslashes, hlast, hisScheme, by simpa using hauthority⟩
  · rintro ⟨scheme, authority, slashes, htrim, hslashes, hlast, hscheme, hauthority⟩
    have hne := hauthority.ne_nil
    have htext : (scheme ++ authority).getLast? ≠ some '/' := by
      rw [List.getLast?_append_of_ne_nil _ hne]
      exact hlast
    obtain ⟨⟨user, text, huser, hends, hat, hhost⟩, hhostNe, hport⟩ := hauthority
    rw [trimSlashes_eq_iff.mpr ⟨slashes, htrim, hslashes, htext⟩,
      (behindScheme_eq_ok_iff htext hne).mpr ⟨scheme, rfl, hscheme⟩]
    refine bind_eq_ok.mpr ⟨authority, rfl, ?_⟩
    rw [behindUser_eq_iff.mpr ⟨user, huser, hends, hat⟩, (hostAndPort_eq_ok_iff hhostNe).mpr hhost]
    refine bind_eq_ok.mpr ⟨_, rfl, ?_⟩
    simp only
    rw [if_neg (not_or.mpr ⟨hhostNe, hport⟩), String.ofList_toList]

/-! ### Connecting -/

/-- The network, as far as a connection is made on it. -/
structure Network (σ : Type) where
  resolve (host : String) (port : ℕ) : σ → Except IoError (List SocketAddr) × σ
  connectTimeout (addr : SocketAddr) : σ → Except IoError Unit × σ
  setNodelay : σ → Except IoError Unit × σ
  writeAll (bytes : List UInt8) : σ → Except IoError Unit × σ
  flush : σ → Except IoError Unit × σ
  /-- A read of one byte; at the end of the stream there is none. -/
  read : σ → Except IoError (Option UInt8) × σ

/-- An entry of the record of a connection. -/
inductive Event where
  | resolve (host : String) (port : ℕ) (result : Except IoError (List SocketAddr))
  | connect (addr : SocketAddr) (result : Except IoError Unit)
  | setNodelay (result : Except IoError Unit)
  | write (bytes : List UInt8) (result : Except IoError Unit)
  | flush (result : Except IoError Unit)
  | read (result : Except IoError (Option UInt8))

abbrev Dialing (σ α : Type) : Type := Recording OpenfortivpnError σ Event α

/-- The end of the head of an answer. -/
def headDone (response : List UInt8) : Bool :=
  [13, 10, 13, 10].isSuffixOf response || [10, 10].isSuffixOf response

def maxResponse : ℕ := 4096

def connectRequest (host : String) (port : ℕ) : List UInt8 :=
  let target := host ++ ":" ++ toString port
  asBytes ("CONNECT " ++ target ++ " HTTP/1.1\r\nHost: " ++ target ++ "\r\n\r\n")

def statusLine (response : List UInt8) : String := (lines (fromUtf8Lossy response)).headD ""

/-- The status line of a proxy that has put the connection through. -/
def isPutThrough (statusLine : String) : Bool :=
  contains statusLine " 200 " || " 200".toList.isSuffixOf statusLine.toList || contains statusLine " 200 OK"

section ConnectTcp

variable {σ : Type} (net : Network σ)

/-- A call whose error ends the program. -/
def call {α : Type} (answer : σ → Except IoError α × σ) (entry : Except IoError α → Event) :
    Dialing σ α := do
  match ← Recording.ask answer entry with
  | .ok a => pure a
  | .error err => throw (.io err)

/-- The loop of `connect_tcp_direct`, with `last_error`. -/
def connectAny (host : String) (port : ℕ) : Option IoError → List SocketAddr → Dialing σ SocketAddr
  | lastError, [] =>
    throw (.io (lastError.getD ⟨.other, "could not resolve " ++ host ++ ":" ++ toString port⟩))
  | _, addr :: addrs => do
    match ← Recording.ask (net.connectTimeout addr) (.connect addr) with
    | .ok () => do
      call net.setNodelay .setNodelay
      return addr
    | .error err => connectAny host port (some err) addrs

def connectTcpDirect (host : String) (port : ℕ) : Dialing σ SocketAddr := do
  let addrs ← call (net.resolve host port) (.resolve host port)
  connectAny net host port none addrs

/-- The loop that reads the answer, with the bytes there is room for. -/
def readHead : ℕ → List UInt8 → Dialing σ (List UInt8)
  | 0, response => pure response
  | room + 1, response => do
    match ← call net.read .read with
    | none => pure response
    | some byte =>
      if headDone (response ++ [byte]) then pure (response ++ [byte])
      else readHead room (response ++ [byte])

def establishHttpConnectProxy (host : String) (port : ℕ) : Dialing σ Unit := do
  let request := connectRequest host port
  call (net.writeAll request) (.write request)
  call net.flush .flush
  let response ← readHead net maxResponse []
  if isPutThrough (statusLine response) then pure ()
  else throw (.network ("proxy CONNECT failed: " ++ statusLine response))

/-- `connect_tcp`; the stream is the one that was connected last, to the address that is returned. -/
def connectTcp (debug : String → String) (env : String → Option String) (config : Config) :
    Dialing σ SocketAddr :=
  match proxyFromEnvironment debug env with
  | .error err => throw err
  | .ok (some proxy) => do
    let addr ← connectTcpDirect net proxy.host proxy.port
    establishHttpConnectProxy net config.gatewayHost config.gatewayPort
    return addr
  | .ok none => connectTcpDirect net config.gatewayHost config.gatewayPort

end ConnectTcp

/-! ### What a connection may do -/

/-- The way to the gateway: whom to connect to, and what to ask there. -/
structure Way where
  host : String
  port : ℕ
  request : Option (List UInt8)

/-- Through the proxy, if the environment names one, and directly otherwise. -/
def wayTo (config : Config) : Option ProxyConfig → Way
  | some proxy => ⟨proxy.host, proxy.port, some (connectRequest config.gatewayHost config.gatewayPort)⟩
  | none => ⟨config.gatewayHost, config.gatewayPort, none⟩

def heardByte : Event → Option UInt8
  | .read (.ok (some byte)) => some byte
  | _ => none

/-- The bytes that were read. -/
def heard (record : List Event) : List UInt8 := record.filterMap heardByte

/-- Nothing is read behind the head of the answer. -/
def HeadOnly (response : List UInt8) : Prop :=
  response.length ≤ maxResponse ∧ ∀ front, front <+: response → front ≠ response → headDone front = false

/-- An entry that keeps to the way. -/
def Event.Keeps (way : Way) (record : List Event) : Event → Prop
  | .resolve host port _ => host = way.host ∧ port = way.port
  | .connect addr _ => ∃ addrs, .resolve way.host way.port (.ok addrs) ∈ record ∧ addr ∈ addrs
  | .write bytes _ => way.request = some bytes
  | _ => True

/-- The end of a record on which the connection to the address is there. -/
def MadeFor (way : Way) (addr : SocketAddr) (record : List Event) : Prop :=
  ∃ before after, record = before ++ .connect addr (.ok ()) :: .setNodelay (.ok ()) :: after ∧
    match way.request with
    | none => after = []
    | some request => ∃ reads, after = .write request (.ok ()) :: .flush (.ok ()) :: reads ∧
      (∀ e ∈ reads, ∃ byte, e = .read (.ok byte)) ∧ isPutThrough (statusLine (heard record)) = true

/-- The record keeps to the way. -/
structure Kept (way : Way) (record : List Event) : Prop where
  keeps : ∀ e ∈ record, e.Keeps way record
  headOnly : HeadOnly (heard record)

theorem Event.Keeps.mono {way : Way} {record more : List Event} {e : Event} (h : e.Keeps way record) :
    e.Keeps way (record ++ more) := by
  cases e with
  | connect addr result =>
    obtain ⟨addrs, hmem, haddr⟩ := h
    exact ⟨addrs, List.mem_append_left _ hmem, haddr⟩
  | _ => exact h

theorem kept_nil (way : Way) : Kept way [] := by
  refine ⟨List.forall_mem_nil _, Nat.zero_le _, fun front hfront hne => ?_⟩
  exact absurd (List.prefix_nil.mp hfront) hne

theorem heard_snoc (record : List Event) (e : Event) :
    heard (record ++ [e]) = heard record ++ (heardByte e).toList := by
  unfold heard
  rw [List.filterMap_append]
  cases hbyte : heardByte e <;> simp [hbyte]

/-- An entry that keeps to the way, and is no byte of an answer. -/
theorem Kept.snoc {way : Way} {record : List Event} {e : Event} (h : Kept way record)
    (he : e.Keeps way record) (hbyte : heardByte e = none) : Kept way (record ++ [e]) := by
  refine ⟨fun d hd => ?_, ?_⟩
  · rcases List.mem_append.mp hd with hd | hd
    · exact (h.keeps d hd).mono
    · rw [List.mem_singleton.mp hd]
      exact he.mono
  · rw [heard_snoc, hbyte, Option.toList_none, List.append_nil]
    exact h.headOnly

/-- A byte of an answer that has not come to the end of its head. -/
theorem Kept.byte {way : Way} {record : List Event} (h : Kept way record) (byte : UInt8)
    (hopen : headDone (heard record) = false) (hroom : (heard record).length < maxResponse) :
    Kept way (record ++ [.read (.ok (some byte))]) := by
  refine ⟨fun d hd => ?_, ?_⟩
  · rcases List.mem_append.mp hd with hd | hd
    · exact (h.keeps d hd).mono
    · rw [List.mem_singleton.mp hd]
      trivial
  · rw [heard_snoc]
    refine ⟨?_, fun front hfront hne => ?_⟩
    · rw [List.length_append]
      exact hroom
    · rcases List.prefix_concat_iff.mp hfront with heq | hbefore
      · exact absurd heq hne
      · by_cases hlast : front = heard record
        · rw [hlast]
          exact hopen
        · exact h.headOnly.2 front hbefore hlast

section Leads

variable {σ : Type} {net : Network σ} {way : Way} {r : List Event}

theorem leads_call {α : Type} {answer : σ → Except IoError α × σ} {entry : Except IoError α → Event}
    (h : ∀ result, Kept way (r ++ [entry result])) :
    (Protocol.free Event).Leads (fun a r' => r' = r ++ [entry (.ok a)] ∧ Kept way r') (fun _ r' => Kept way r') r
      (call answer entry) := by
  refine .bind (Q := fun result r' => r' = r ++ [entry result]) (.ask fun result => ⟨_, rfl, rfl⟩) ?_
  rintro (err | a) _ rfl
  · exact .stop (h _)
  · exact .ret ⟨rfl, h _⟩

theorem leads_connectAny {host : String} {port : ℕ} (addrs : List SocketAddr) :
    ∀ {r : List Event} (lastError : Option IoError), Kept way r → heard r = [] →
      (∃ all, .resolve way.host way.port (.ok all) ∈ r ∧ addrs ⊆ all) →
      (Protocol.free Event).Leads
        (fun addr r' => Kept way r' ∧ heard r' = [] ∧
          ∃ before, r' = before ++ [.connect addr (.ok ()), .setNodelay (.ok ())])
        (fun _ r' => Kept way r') r (connectAny net host port lastError addrs) := by
  induction addrs with
  | nil => exact fun _ hr _ _ => .stop hr
  | cons addr addrs ih =>
    rintro r lastError hr hheard ⟨all, hall, hsub⟩
    have hconnect (result : Except IoError Unit) : Kept way (r ++ [.connect addr result]) :=
      hr.snoc ⟨all, hall, hsub (List.mem_cons_self ..)⟩ rfl
    rw [connectAny]
    refine .bind (Q := fun result r' => r' = r ++ [.connect addr result]) (.ask fun _ => ⟨_, rfl, rfl⟩) ?_
    rintro (err | _) _ rfl
    · refine ih (some err) (hconnect _) ?_
        ⟨all, List.mem_append_left _ hall, fun a ha => hsub (List.mem_cons_of_mem addr ha)⟩
      rw [heard_snoc, hheard]
      rfl
    · refine .bind (leads_call fun result => (hconnect _).snoc (e := .setNodelay result) trivial rfl) ?_
      rintro _ _ ⟨rfl, hkept⟩
      refine .ret ⟨hkept, ?_, r, by rw [List.append_assoc]; rfl⟩
      rw [heard_snoc, heard_snoc, hheard]
      rfl

theorem leads_connectTcpDirect :
    (Protocol.free Event).Leads
      (fun addr r' => Kept way r' ∧ heard r' = [] ∧
        ∃ before, r' = before ++ [.connect addr (.ok ()), .setNodelay (.ok ())])
      (fun _ r' => Kept way r') [] (connectTcpDirect net way.host way.port) := by
  unfold connectTcpDirect
  refine .bind (leads_call fun result =>
    (kept_nil way).snoc (e := .resolve way.host way.port result) ⟨rfl, rfl⟩ rfl) ?_
  rintro addrs _ ⟨rfl, hkept⟩
  exact leads_connectAny addrs none hkept rfl ⟨addrs, List.mem_singleton_self _, List.Subset.refl addrs⟩

/-- The loop reads the answer up to the end of its head. -/
theorem leads_readHead (room : ℕ) : ∀ {r : List Event} {response : List UInt8}, Kept way r →
    heard r = response → response.length + room = maxResponse → headDone response = false →
      (Protocol.free Event).Leads
        (fun response' r' => Kept way r' ∧ heard r' = response' ∧
          ∃ reads, r' = r ++ reads ∧ ∀ e ∈ reads, ∃ byte, e = .read (.ok byte))
        (fun _ r' => Kept way r') r (readHead net room response) := by
  induction room with
  | zero => exact fun hr hheard _ _ => .ret ⟨hr, hheard, [], (List.append_nil _).symm, List.forall_mem_nil _⟩
  | succ room ih =>
    rintro r _ hr rfl hroom hopen
    have hread (result : Except IoError (Option UInt8)) : Kept way (r ++ [.read result]) := by
      rcases result with err | _ | byte
      · exact hr.snoc trivial rfl
      · exact hr.snoc trivial rfl
      · exact hr.byte byte hopen (by omega)
    have hone (byte : Option UInt8) : ∀ e ∈ [Event.read (.ok byte)], ∃ byte, e = .read (.ok byte) :=
      List.forall_mem_singleton.mpr ⟨byte, rfl⟩
    rw [readHead]
    refine .bind (leads_call hread) ?_
    rintro (_ | byte) _ ⟨rfl, hkept⟩
    · refine .ret ⟨hkept, ?_, _, rfl, hone none⟩
      rw [heard_snoc]
      exact List.append_nil _
    · have hheard : heard (r ++ [.read (.ok (some byte))]) = heard r ++ [byte] := heard_snoc r _
      simp only
      split
      · exact .ret ⟨hkept, hheard, _, rfl, hone (some byte)⟩
      · rename_i hnot
        have hlength : (heard r ++ [byte]).length + room = maxResponse := by
          rw [List.length_append, List.length_singleton]
          omega
        refine (ih hkept hheard hlength (Bool.not_eq_true _ ▸ hnot)).conseq ?_ fun _ _ h => h
        rintro response' _ ⟨hkept', hheard', reads, rfl, hreads⟩
        refine ⟨hkept', hheard', _, List.append_assoc .., ?_⟩
        exact List.forall_mem_append.mpr ⟨hone (some byte), hreads⟩

theorem leads_establish {host : String} {port : ℕ} (hrequest : way.request = some (connectRequest host port))
    (hr : Kept way r) (hheard : heard r = []) :
    (Protocol.free Event).Leads
      (fun _ r' => Kept way r' ∧ ∃ reads,
        r' = r ++ .write (connectRequest host port) (.ok ()) :: .flush (.ok ()) :: reads ∧
        (∀ e ∈ reads, ∃ byte, e = .read (.ok byte)) ∧ isPutThrough (statusLine (heard r')) = true)
      (fun _ r' => Kept way r') r (establishHttpConnectProxy net host port) := by
  unfold establishHttpConnectProxy
  refine .bind (leads_call fun result => hr.snoc (e := .write (connectRequest host port) result) hrequest rfl) ?_
  rintro _ _ ⟨rfl, hwritten⟩
  refine .bind (leads_call fun result => hwritten.snoc (e := .flush result) trivial rfl) ?_
  rintro _ _ ⟨rfl, hflushed⟩
  refine .bind (leads_readHead maxResponse hflushed (by rw [heard_snoc, heard_snoc, hheard]; rfl) rfl rfl) ?_
  rintro _ _ ⟨hkept, rfl, reads, rfl, hreads⟩
  split
  · rename_i hthrough
    refine .ret ⟨hkept, reads, ?_, hreads, hthrough⟩
    rw [List.append_assoc, List.append_assoc]
    rfl
  · exact .stop hkept

theorem leads_connectTcp {debug : String → String} {env : String → Option String} (config : Config)
    {proxy : Option ProxyConfig} (h : proxyFromEnvironment debug env = .ok proxy) :
    (Protocol.free Event).Leads (fun addr r' => Kept (wayTo config proxy) r' ∧ MadeFor (wayTo config proxy) addr r')
      (fun _ r' => Kept (wayTo config proxy) r') [] (connectTcp net debug env config) := by
  unfold connectTcp
  rw [h]
  cases proxy with
  | none =>
    refine (@leads_connectTcpDirect σ net (wayTo config none)).conseq ?_ fun _ _ h => h
    rintro addr _ ⟨hkept, -, before, rfl⟩
    exact ⟨hkept, before, [], rfl, rfl⟩
  | some proxy =>
    refine .bind (@leads_connectTcpDirect σ net (wayTo config (some proxy))) ?_
    rintro addr _ ⟨hkept, hheard, before, rfl⟩
    have hrequest : (wayTo config (some proxy)).request = some (connectRequest config.gatewayHost config.gatewayPort) := rfl
    refine .bind (leads_establish hrequest hkept hheard) ?_
    rintro _ _ ⟨hkept', reads, rfl, hreads, hthrough⟩
    refine .ret ⟨hkept', before, _, List.append_assoc .., reads, rfl, hreads, ?_⟩
    exact hthrough

end Leads

/-- **The gateway is reached on one way.**  If the environment names a proxy, every connection is to it and
none to the gateway, and all that is sent is the request to be put through; without a proxy nothing is
sent.  No byte is read behind the head of the proxy's answer, and a connection is handed on only when it
was made and the proxy has put it through. -/
theorem connection_made {σ : Type} (net : Network σ) (debug : String → String) (env : String → Option String)
    (config : Config) (s : σ) :
    let run := connectTcp net debug env config ⟨s, []⟩
    let record := (Recording.final run).record
    (∀ err, proxyFromEnvironment debug env = .error err → run = .error err ⟨s, []⟩) ∧
      ∀ proxy, proxyFromEnvironment debug env = .ok proxy →
        (∀ e ∈ record, e.Keeps (wayTo config proxy) record) ∧ HeadOnly (heard record) ∧
          ∀ addr w, run = .ok addr w → MadeFor (wayTo config proxy) addr record := by
  intro run record
  refine ⟨fun err herr => ?_, fun proxy hproxy => ?_⟩
  · show connectTcp net debug env config ⟨s, []⟩ = _
    unfold connectTcp
    rw [herr]
    rfl
  · obtain ⟨_, hphase, hok, herror⟩ := (@leads_connectTcp σ net debug env config proxy hproxy).run s
    rw [Protocol.free_phase] at hphase
    cases hphase
    have hkept : Kept (wayTo config proxy) record := by
      cases hrun : connectTcp net debug env config ⟨s, []⟩ with
      | ok addr w => exact (hok addr w hrun).1
      | error err w => exact herror err w hrun
    exact ⟨hkept.keeps, hkept.headOnly, fun addr w hrun => (hok addr w hrun).2⟩

end OpenfortivpnRs.Tls
