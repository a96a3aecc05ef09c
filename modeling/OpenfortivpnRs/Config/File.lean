import OpenfortivpnRs.Config.Values
import OpenfortivpnRs.Text.CaseSearch

/-!
# The configuration file (`config.rs`)

`parse_config_file` applies the pairs of a file line by line to the defaults.  `FromFile` is what holds
of a configuration that was read so: which fields no key sets, and which values the readers let
through (`fromFile_of_parse`).
-/

namespace OpenfortivpnRs

open Text

namespace Config

def pushTrustedCert (self : Config) (digest : String) : Result Config :=
  if isSha256Digest digest then
    .ok { self with trustedCerts := self.trustedCerts ++ [toAsciiLowercase digest] }
  else .error (.badCertificateDigest digest)

def applyPair (self : Config) (key value : String) : Result Config :=
  match key with
  | "host" => .ok { self with gatewayHost := value }
  | "port" => do return { self with gatewayPort := ← parsePort key value }
  | "username" => .ok { self with username := value }
  | "password" => .ok { self with password := some value }
  | "otp" => .ok { self with otp := some value }
  | "otp-prompt" => .ok { self with otpPrompt := some value }
  | "otp-delay" => do return { self with otpDelay := ← parseU32 key value }
  | "cookie" | "cookie-on-stdin" => .ok self
  | "no-ftm-push" => do return { self with noFtmPush := ← parseBool value }
  | "pinentry" => .ok { self with pinentry := some value }
  | "realm" => .ok { self with realm := some value }
  | "ifname" => .ok { self with ifaceName := some value }
  | "sni" => .ok { self with sni := some value }
  | "set-routes" => do return { self with setRoutes := ← parseBool value }
  | "half-internet-routes" => do return { self with halfInternetRoutes := ← parseBool value }
  | "reconnect-delay" | "reconnect_delay" | "persistent" => do
    return { self with reconnectDelay := some (← parseU32 key value) }
  | "max_recoonects" | "max_reconnects" | "max-reconnects" => do
    return { self with maxReconnects := ← parseU32 key value }
  | "set-dns" => do return { self with setDns := ← parseBool value }
  | "pppd-use-peerdns" => do return { self with pppdUsePeerdns := ← parseBool value }
  | "pppd-log" => .ok { self with pppdLog := some value }
  | "pppd-plugin" => .ok { self with pppdPlugin := some value }
  | "pppd-ipparam" => .ok { self with pppdIpparam := some value }
  | "pppd-ifname" => .ok { self with pppdIfname := some value }
  | "pppd-call" => .ok { self with pppdCall := some value }
  | "pppd-accept-remote" => do return { self with pppdAcceptRemote := ← parseBool value }
  | "ppp-system" => .ok { self with pppSystem := some value }
  | "use-syslog" => do return { self with useSyslog := ← parseBool value }
  | "use-resolvconf" => do return { self with useResolvconf := ← parseBool value }
  | "trusted-cert" => self.pushTrustedCert value
  | "ca-file" => .ok { self with caFile := some value }
  | "user-cert" => .ok { self with userCert := some value }
  | "saml-login" => do return { self with samlPort := some (← parsePort key value) }
  | "user-key" => .ok { self with userKey := some value }
  | "pem-passphrase" => .ok { self with pemPassphrase := some value }
  | "insecure-ssl" => do return { self with insecureSsl := ← parseBool value }
  | "cipher-list" => .ok { self with cipherList := some value }
  | "min-tls" => do return { self with minTls := some (← parseTlsVersion value) }
  | "seclevel-1" => do return { self with seclevel1 := ← parseBool value }
  | "user-agent" => .ok { self with userAgent := value }
  | "hostcheck" => .ok { self with hostcheck := some value }
  | "check-virtual-desktop" => .ok { self with checkVirtualDesktop := some value }
  | "proxy" => do return { self with proxy := some (← parseSocketAddr "proxy" value) }
  | other => .error (.unknownConfigKey other)

/-- One turn of the loop over the lines: comments and lines without a pair are skipped. -/
def applyLine (self : Config) (rawLine : String) : Result Config :=
  let line := trim rawLine
  if line = "" ∨ line.toList.head? = some '#' then .ok self
  else
    match splitOnce ['='] line.toList with
    | none => .ok self
    | some (key, value) => self.applyPair (trim (.ofList key)) (trim (.ofList value))

def parseConfigFile (contents : String) : Result Config :=
  (lines contents).foldlM applyLine Config.default

end Config

/-! ### What a file can say -/

/-- A digest as it is kept: its hexadecimal digits in lower case. -/
structure LowercaseDigest (digest : String) : Prop where
  length : digest.toList.length = sha256DigestHexLen
  digits : ∀ c ∈ digest.toList, c ∈ "0123456789abcdef".toList

theorem isAscii_of_hexdigit {c : Char} (h : isAsciiHexdigit c = true) : IsAscii c := by
  have hle : ∀ d : Char, d.toNat < 128 → c ≤ d → IsAscii c := fun d hd hc =>
    Nat.lt_of_le_of_lt (show c.toNat ≤ d.toNat from hc) hd
  unfold isAsciiHexdigit at h
  simp only [Bool.or_eq_true, Bool.and_eq_true, decide_eq_true_eq] at h
  rcases h with (hdigit | hlower) | hupper
  · exact hle '9' (by decide) (decide_eq_true_eq.mp (Bool.and_eq_true_iff.mp hdigit).2)
  · exact hle 'f' (by decide) hlower.2
  · exact hle 'F' (by decide) hupper.2

theorem lowerChar_hexdigit {c : Char} (h : isAsciiHexdigit c = true) :
    lowerChar c ∈ "0123456789abcdef".toList := by
  have hall : ∀ n < 128, isAsciiHexdigit (Char.ofNat n) = true →
      lowerChar (Char.ofNat n) ∈ "0123456789abcdef".toList := by decide
  have hascii := isAscii_of_hexdigit h
  have := hall c.toNat hascii
  rw [Char.ofNat_toNat] at this
  exact this h

theorem length_asBytes_ascii {s : String} (h : ∀ c ∈ s.toList, IsAscii c) :
    (asBytes s).length = s.toList.length := by
  have hsame : eqIgnoreAsciiCase s.toList s.toList = true := eqIgnoreAsciiCase_iff.mpr rfl
  rw [← byteLen_of_eqIgnoreAsciiCase h hsame]
  exact length_encode s.toList

/-- What is accepted as a digest is kept as one. -/
theorem lowercaseDigest_of_isSha256Digest {digest : String} (h : isSha256Digest digest = true) :
    LowercaseDigest (toAsciiLowercase digest) := by
  unfold isSha256Digest at h
  simp only [Bool.and_eq_true, beq_iff_eq, List.all_eq_true] at h
  obtain ⟨hlen, hdigits⟩ := h
  have hlower : (toAsciiLowercase digest).toList = digest.toList.map lowerChar := String.toList_ofList
  constructor
  · rw [hlower, List.length_map, ← length_asBytes_ascii fun c hc => isAscii_of_hexdigit (hdigits c hc), hlen]
  · rw [hlower]
    intro c hc
    obtain ⟨d, hd, rfl⟩ := List.mem_map.mp hc
    exact lowerChar_hexdigit (hdigits d hd)

/-- A configuration as a file can have it. -/
structure FromFile (cfg : Config) : Prop where
  no_cookie : cfg.cookie = none ∧ cfg.cookieOnStdin = false
  no_saml_session : cfg.samlSessionId = none
  verbosity : cfg.logVerbosity = defaultLogVerbosity
  port : 0 < cfg.gatewayPort ∧ cfg.gatewayPort ≤ 65535
  saml_port : ∀ port, cfg.samlPort = some port → 0 < port ∧ port ≤ 65535
  trusted : ∀ digest ∈ cfg.trustedCerts, LowercaseDigest digest

theorem fromFile_default : FromFile Config.default where
  no_cookie := ⟨rfl, rfl⟩
  no_saml_session := rfl
  verbosity := rfl
  port := by decide
  saml_port := nofun
  trusted := nofun

namespace Config

theorem pushTrustedCert_eq_ok {self result : Config} {digest : String}
    (h : self.pushTrustedCert digest = .ok result) : isSha256Digest digest = true ∧
      result = { self with trustedCerts := self.trustedCerts ++ [toAsciiLowercase digest] } := by
  unfold pushTrustedCert at h
  split at h
  · rename_i hdigest
    cases h
    exact ⟨hdigest, rfl⟩
  · cases h

end Config

/-- **A pair keeps the rules**: of the keys that set a field with one, two read a port and the third
checks its digest. -/
theorem FromFile.applyPair {self cfg : Config} {key value : String} (hself : FromFile self)
    (h : self.applyPair key value = .ok cfg) : FromFile cfg := by
  obtain ⟨hcookie, hsaml, hverbosity, hport, hsamlPort, htrusted⟩ := hself
  unfold Config.applyPair at h
  split at h
  case h_2 =>
    obtain ⟨port, hread, h⟩ := bind_eq_ok.mp h
    cases h
    exact ⟨hcookie, hsaml, hverbosity, parsePort_range hread, hsamlPort, htrusted⟩
  case h_34 =>
    obtain ⟨hdigest, rfl⟩ := Config.pushTrustedCert_eq_ok h
    refine ⟨hcookie, hsaml, hverbosity, hport, hsamlPort, fun digest hmem => ?_⟩
    rcases List.mem_append.mp hmem with hmem | hmem
    · exact htrusted digest hmem
    · rw [List.mem_singleton.mp hmem]
      exact lowercaseDigest_of_isSha256Digest hdigest
  case h_37 =>
    obtain ⟨port, hread, h⟩ := bind_eq_ok.mp h
    cases h
    refine ⟨hcookie, hsaml, hverbosity, hport, ?_, htrusted⟩
    rintro port ⟨⟩
    exact parsePort_range hread
  case h_48 => cases h
  -- the other keys, whose value is taken as it is or read into a field without a rule
  all_goals first
    | cases h
      exact ⟨hcookie, hsaml, hverbosity, hport, hsamlPort, htrusted⟩
    | obtain ⟨_, _, h⟩ := bind_eq_ok.mp h
      cases h
      exact ⟨hcookie, hsaml, hverbosity, hport, hsamlPort, htrusted⟩

theorem FromFile.applyLine {self cfg : Config} {rawLine : String} (hself : FromFile self)
    (h : self.applyLine rawLine = .ok cfg) : FromFile cfg := by
  unfold Config.applyLine at h
  simp only at h
  split at h
  · cases h
    exact hself
  · split at h
    · cases h
      exact hself
    · exact hself.applyPair h

theorem FromFile.foldlM_applyLine {rawLines : List String} {self cfg : Config} (hself : FromFile self)
    (h : rawLines.foldlM Config.applyLine self = .ok cfg) : FromFile cfg := by
  induction rawLines generalizing self with
  | nil =>
    cases h
    exact hself
  | cons rawLine rawLines ih =>
    rw [List.foldlM_cons] at h
    obtain ⟨next, hline, hrest⟩ := bind_eq_ok.mp h
    exact ih (hself.applyLine hline) hrest

/-- **Whatever the file holds**, a configuration that was read from it has no cookie and no session of
its own, the default verbosity, ports that can be connected to, and digests in lower case. -/
theorem fromFile_of_parse {contents : String} {cfg : Config}
    (h : Config.parseConfigFile contents = .ok cfg) : FromFile cfg :=
  fromFile_default.foldlM_applyLine h

end OpenfortivpnRs
