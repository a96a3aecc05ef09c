import OpenfortivpnRs.Config.Sources

/-!
# The command line over the configuration file

Merging loses nothing (`merge_default`), and what the command line leaves behind is told field by
field (`Precedence`): a field that an option determines has the value given, any other field the
value of the file.  The command line is applied just when its options can be read, and then leaves
just that (`applyCli_eq_ok_iff`).
-/

namespace OpenfortivpnRs

open Text

/-! ### Merging -/

namespace Config

@[simp] theorem mergeOption_none {α : Type} (src : Option α) : mergeOption none src = src := by
  cases src <;> rfl

/-- A value that is only taken when it is not the default is the one that ends up there. -/
theorem ite_ne_default {α : Type} [DecidableEq α] (x default : α) :
    (if x ≠ default then x else default) = x := by
  split
  · rfl
  · rename_i h
    exact (not_not.mp h).symm

/-- **Nothing of a configuration is lost** when it is merged into the defaults. -/
theorem merge_default (x : Config) : Config.default.merge x = x := by
  cases x
  simp only [merge, ite_ne_default]
  simp only [Config.default, mergeOption_none, ite_ne_default, Bool.false_or, List.nil_append]

end Config

/-! ### What is given -/

/-- What is given is what results, and what the file has where nothing is. -/
def Determined {α : Type} (given : Option α) (file result : α) : Prop :=
  (∀ value, given = some value → result = value) ∧ (given = none → result = file)

theorem determined_getD {α : Type} (given : Option α) (file : α) :
    Determined given file (given.getD file) := by
  cases given
  · exact ⟨nofun, fun _ => rfl⟩
  · exact ⟨fun value h => Option.some.inj h, nofun⟩

theorem determined_or {α : Type} (given file : Option α) :
    Determined (given.map some) file (given.or file) := by
  cases given
  · exact ⟨nofun, fun _ => rfl⟩
  · exact ⟨fun value h => Option.some.inj h, nofun⟩

/-- A flag that stands for `value` where it is given, else what is given otherwise. -/
def flagged {α : Type} (flag : Bool) (value : α) (otherwise : Option α) : Option α :=
  if flag then some value else otherwise

/-- A flag given beside an option wins over it. -/
theorem determined_flag {α : Type} (flag : Bool) (value : α) (given : Option α) (file : α) :
    Determined (flagged flag value given) file (if flag then value else given.getD file) := by
  cases flag
  · exact determined_getD given file
  · exact ⟨fun _ h => Option.some.inj h, nofun⟩

/-- That leaves one value. -/
theorem Determined.unique {α : Type} {given : Option α} {file a b : α} (h : Determined given file a)
    (h' : Determined given file b) : a = b := by
  cases hgiven : given with
  | none => rw [h.2 hgiven, h'.2 hgiven]
  | some value => rw [h.1 value hgiven, h'.1 value hgiven]

/-! ### The options that can be refused -/

/-- The host and the port that a gateway makes of the port of the file: both where both are written,
else it is a host and the port of the file stays. -/
structure GatewayApplied (gateway : String) (filePort : ℕ) (host : String) (port : ℕ) : Prop where
  host_port : ∀ name digits, HostPort gateway name digits →
    host = .ofList name ∧ port = digitsValue digits ∧ 0 < port ∧ port ≤ 65535
  host_only : (¬ ∃ name digits, HostPort gateway name digits) → host = gateway ∧ port = filePort

theorem GatewayApplied.unique {gateway host host' : String} {filePort port port' : ℕ}
    (h : GatewayApplied gateway filePort host port) (h' : GatewayApplied gateway filePort host' port') :
    host = host' ∧ port = port' := by
  by_cases hhp : ∃ name digits, HostPort gateway name digits
  · obtain ⟨name, digits, hhp⟩ := hhp
    obtain ⟨hhost, hport, -⟩ := h.host_port name digits hhp
    obtain ⟨hhost', hport', -⟩ := h'.host_port name digits hhp
    exact ⟨hhost.trans hhost'.symm, hport.trans hport'.symm⟩
  · obtain ⟨hhost, hport⟩ := h.host_only hhp
    obtain ⟨hhost', hport'⟩ := h'.host_only hhp
    exact ⟨hhost.trans hhost'.symm, hport.trans hport'.symm⟩

namespace Config

/-- The digests are appended in their order and nothing else changes. -/
theorem foldlM_pushTrustedCert {digests : List String} {self result : Config}
    (h : digests.foldlM pushTrustedCert self = .ok result) :
    (∀ digest ∈ digests, isSha256Digest digest = true) ∧
      result = { self with trustedCerts := self.trustedCerts ++ digests.map toAsciiLowercase } := by
  induction digests generalizing self with
  | nil =>
    cases h
    exact ⟨nofun, by rw [List.map_nil, List.append_nil]⟩
  | cons digest digests ih =>
    rw [List.foldlM_cons] at h
    obtain ⟨next, hpush, hrest⟩ := bind_eq_ok.mp h
    obtain ⟨hdigest, rfl⟩ := pushTrustedCert_eq_ok hpush
    obtain ⟨hdigests, rfl⟩ := ih hrest
    refine ⟨List.forall_mem_cons.mpr ⟨hdigest, hdigests⟩, ?_⟩
    rw [List.map_cons, List.append_assoc]
    rfl

/-- `--gateway` sets the host and the port and nothing else. -/
theorem applyGateway_eq_ok {self result : Config} {cli : Cli} (h : self.applyGateway cli = .ok result) :
    ∃ host port, result = { self with gatewayHost := host, gatewayPort := port } ∧
      (cli.gateway = none → host = self.gatewayHost ∧ port = self.gatewayPort) ∧
      ∀ gateway, cli.gateway = some gateway → GatewayApplied gateway self.gatewayPort host port := by
  unfold applyGateway at h
  split at h
  · rename_i hnone
    cases h
    exact ⟨_, _, rfl, fun _ => ⟨rfl, rfl⟩, by rw [hnone]; exact nofun⟩
  · rename_i gateway hsome
    split at h
    · cases h
    · rename_i host port hparse
      cases h
      refine ⟨_, _, rfl, by rw [hsome]; exact nofun, ?_⟩
      rw [hsome]
      rintro gateway ⟨⟩
      constructor
      · intro name digits hhp
        rw [hhp.parseGateway] at hparse
        cases hport : parsePort "gateway" (.ofList digits) with
        | error err =>
          rw [hport] at hparse
          cases hparse
        | ok n =>
          rw [hport] at hparse
          cases hparse
          exact ⟨rfl, parsePort_digits hhp.digits hport, parsePort_range hport⟩
      · intro hnot
        rw [parseGateway_of_not_hostPort hnot] at hparse
        cases hparse
        exact ⟨rfl, rfl⟩

/-- `--min-tls` sets the version and nothing else. -/
theorem applyMinTls_eq_ok {self result : Config} {cli : Cli} (h : self.applyMinTls cli = .ok result) :
    ∃ minTls, result = { self with minTls := minTls } ∧ (cli.minTls = none → minTls = self.minTls) ∧
      ∀ value, cli.minTls = some value →
        ∃ version : TlsVersion, value = version.text ∧ minTls = some version := by
  unfold applyMinTls at h
  split at h
  · rename_i hnone
    cases h
    exact ⟨_, rfl, fun _ => rfl, by rw [hnone]; exact nofun⟩
  · rename_i value hsome
    split at h
    · cases h
    · rename_i version hparse
      cases h
      refine ⟨_, rfl, by rw [hsome]; exact nofun, ?_⟩
      rw [hsome]
      rintro value ⟨⟩
      exact ⟨version, parseTlsVersion_eq_ok_iff.mp hparse, rfl⟩

end Config

/-! ### Precedence -/

/-- What the command line makes of the configuration of a file. -/
structure Precedence (file : Config) (cli : Cli) (result : Config) : Prop where
  no_gateway : cli.gateway = none →
    result.gatewayHost = file.gatewayHost ∧ result.gatewayPort = file.gatewayPort
  gateway : ∀ gateway, cli.gateway = some gateway →
    GatewayApplied gateway file.gatewayPort result.gatewayHost result.gatewayPort
  username : Determined cli.username file.username result.username
  password : Determined (cli.password.map some) file.password result.password
  cookie : Determined ((cli.cookie.map svpnCookieWithPrefix).map some) file.cookie result.cookie
  cookieOnStdin : Determined (flagged cli.cookieOnStdin true none) file.cookieOnStdin result.cookieOnStdin
  samlPort : Determined (cli.samlLogin.map some) file.samlPort result.samlPort
  samlSessionId : result.samlSessionId = file.samlSessionId
  otp : Determined (cli.otp.map some) file.otp result.otp
  otpPrompt : Determined (cli.otpPrompt.map some) file.otpPrompt result.otpPrompt
  otpDelay : Determined cli.otpDelay file.otpDelay result.otpDelay
  noFtmPush : Determined (flagged cli.noFtmPush true none) file.noFtmPush result.noFtmPush
  pinentry : Determined (cli.pinentry.map some) file.pinentry result.pinentry
  realm : Determined (cli.realm.map some) file.realm result.realm
  ifaceName : Determined (cli.ifname.map some) file.ifaceName result.ifaceName
  sni : Determined (cli.sni.map some) file.sni result.sni
  setRoutes : Determined (flagged cli.noRoutes false cli.setRoutes) file.setRoutes result.setRoutes
  setDns : Determined (flagged cli.noDns false cli.setDns) file.setDns result.setDns
  halfInternetRoutes :
    Determined cli.halfInternetRoutes file.halfInternetRoutes result.halfInternetRoutes
  reconnectDelay :
    Determined ((cli.reconnectDelay.or cli.persistent).map some) file.reconnectDelay result.reconnectDelay
  maxReconnects : Determined cli.maxReconnects file.maxReconnects result.maxReconnects
  useSyslog : Determined (flagged cli.useSyslog true none) file.useSyslog result.useSyslog
  logVerbosity :
    result.logVerbosity = min maxLogVerbosity (defaultLogVerbosity + cli.verbose - cli.quiet)
  useResolvconf : Determined cli.useResolvconf file.useResolvconf result.useResolvconf
  userAgent : Determined cli.userAgent file.userAgent result.userAgent
  hostcheck : Determined (cli.hostcheck.map some) file.hostcheck result.hostcheck
  checkVirtualDesktop :
    Determined (cli.checkVirtualDesktop.map some) file.checkVirtualDesktop result.checkVirtualDesktop
  pppdUsePeerdns :
    Determined (flagged cli.pppdNoPeerdns false cli.pppdUsePeerdns) file.pppdUsePeerdns result.pppdUsePeerdns
  pppdLog : Determined (cli.pppdLog.map some) file.pppdLog result.pppdLog
  pppdPlugin : Determined (cli.pppdPlugin.map some) file.pppdPlugin result.pppdPlugin
  pppdIpparam : Determined (cli.pppdIpparam.map some) file.pppdIpparam result.pppdIpparam
  pppdIfname : Determined (cli.pppdIfname.map some) file.pppdIfname result.pppdIfname
  pppdCall : Determined (cli.pppdCall.map some) file.pppdCall result.pppdCall
  pppdAcceptRemote : Determined cli.pppdAcceptRemote file.pppdAcceptRemote result.pppdAcceptRemote
  pppSystem : Determined (cli.pppSystem.map some) file.pppSystem result.pppSystem
  caFile : Determined (cli.caFile.map some) file.caFile result.caFile
  userCert : Determined (cli.userCert.map some) file.userCert result.userCert
  userKey : Determined (cli.userKey.map some) file.userKey result.userKey
  pemPassphrase : Determined (cli.pemPassphrase.map some) file.pemPassphrase result.pemPassphrase
  insecureSsl : Determined (flagged cli.insecureSsl true none) file.insecureSsl result.insecureSsl
  cipherList : Determined (cli.cipherList.map some) file.cipherList result.cipherList
  no_minTls : cli.minTls = none → result.minTls = file.minTls
  minTls : ∀ value, cli.minTls = some value →
    ∃ version : TlsVersion, value = version.text ∧ result.minTls = some version
  seclevel1 : Determined (flagged cli.seclevel1 true none) file.seclevel1 result.seclevel1
  digests : ∀ digest ∈ cli.trustedCert, isSha256Digest digest = true
  trustedCerts : result.trustedCerts = file.trustedCerts ++ cli.trustedCert.map toAsciiLowercase
  proxy : Determined (cli.proxy.map some) file.proxy result.proxy

/-- **The command line wins over the file**, where it is accepted. -/
theorem Config.precedence_of_applyCli {file result : Config} {cli : Cli}
    (h : file.applyCli cli = .ok result) : Precedence file cli result := by
  unfold applyCli at h
  obtain ⟨gated, hgateway, h⟩ := bind_eq_ok.mp h
  obtain ⟨trusted, htrusted, h⟩ := bind_eq_ok.mp h
  obtain ⟨tls, htls, h⟩ := bind_eq_ok.mp h
  obtain ⟨hdigests, rfl⟩ := foldlM_pushTrustedCert htrusted
  obtain ⟨minTls, rfl, hnotls, hversion⟩ := applyMinTls_eq_ok htls
  cases h
  obtain ⟨host, port, rfl, hno, hgate⟩ := applyGateway_eq_ok hgateway
  exact {
    no_gateway := hno
    gateway := hgate
    username := determined_getD _ _
    password := determined_or _ _
    cookie := determined_or _ _
    cookieOnStdin := determined_flag _ _ _ _
    samlPort := determined_or _ _
    samlSessionId := rfl
    otp := determined_or _ _
    otpPrompt := determined_or _ _
    otpDelay := determined_getD _ _
    noFtmPush := determined_flag _ _ _ _
    pinentry := determined_or _ _
    realm := determined_or _ _
    ifaceName := determined_or _ _
    sni := determined_or _ _
    setRoutes := determined_flag _ _ _ _
    setDns := determined_flag _ _ _ _
    halfInternetRoutes := determined_getD _ _
    reconnectDelay := determined_or _ _
    maxReconnects := determined_getD _ _
    useSyslog := determined_flag _ _ _ _
    logVerbosity := cliLogVerbosity_eq _ _
    useResolvconf := determined_getD _ _
    userAgent := determined_getD _ _
    hostcheck := determined_or _ _
    checkVirtualDesktop := determined_or _ _
    pppdUsePeerdns := determined_flag _ _ _ _
    pppdLog := determined_or _ _
    pppdPlugin := determined_or _ _
    pppdIpparam := determined_or _ _
    pppdIfname := determined_or _ _
    pppdCall := determined_or _ _
    pppdAcceptRemote := determined_getD _ _
    pppSystem := determined_or _ _
    caFile := determined_or _ _
    userCert := determined_or _ _
    userKey := determined_or _ _
    pemPassphrase := determined_or _ _
    insecureSsl := determined_flag _ _ _ _
    cipherList := determined_or _ _
    no_minTls := hnotls
    minTls := hversion
    seclevel1 := determined_flag _ _ _ _
    digests := hdigests
    trustedCerts := rfl
    proxy := determined_or _ _ }

/-- **No field is left open**: the rules determine the configuration. -/
theorem Precedence.unique {file a b : Config} {cli : Cli} (h : Precedence file cli a)
    (h' : Precedence file cli b) : a = b := by
  have hgateway : a.gatewayHost = b.gatewayHost ∧ a.gatewayPort = b.gatewayPort := by
    cases hsome : cli.gateway with
    | none =>
      obtain ⟨hhost, hport⟩ := h.no_gateway hsome
      obtain ⟨hhost', hport'⟩ := h'.no_gateway hsome
      exact ⟨hhost.trans hhost'.symm, hport.trans hport'.symm⟩
    | some gateway => exact (h.gateway gateway hsome).unique (h'.gateway gateway hsome)
  have hminTls : a.minTls = b.minTls := by
    cases hsome : cli.minTls with
    | none => rw [h.no_minTls hsome, h'.no_minTls hsome]
    | some value =>
      obtain ⟨version, hversion, hset⟩ := h.minTls value hsome
      obtain ⟨version', hversion', hset'⟩ := h'.minTls value hsome
      have hsame := (parseTlsVersion_eq_ok_iff.mpr hversion).symm.trans (parseTlsVersion_eq_ok_iff.mpr hversion')
      rw [hset, hset', Except.ok.inj hsame]
  cases a
  cases b
  rw [Config.mk.injEq]
  exact ⟨hgateway.1, hgateway.2, h.username.unique h'.username, h.password.unique h'.password,
    h.cookie.unique h'.cookie, h.cookieOnStdin.unique h'.cookieOnStdin, h.samlPort.unique h'.samlPort,
    h.samlSessionId.trans h'.samlSessionId.symm, h.otp.unique h'.otp, h.otpPrompt.unique h'.otpPrompt,
    h.otpDelay.unique h'.otpDelay, h.noFtmPush.unique h'.noFtmPush, h.pinentry.unique h'.pinentry,
    h.realm.unique h'.realm, h.ifaceName.unique h'.ifaceName, h.sni.unique h'.sni,
    h.setRoutes.unique h'.setRoutes, h.setDns.unique h'.setDns,
    h.halfInternetRoutes.unique h'.halfInternetRoutes, h.reconnectDelay.unique h'.reconnectDelay,
    h.maxReconnects.unique h'.maxReconnects, h.useSyslog.unique h'.useSyslog,
    h.logVerbosity.trans h'.logVerbosity.symm, h.useResolvconf.unique h'.useResolvconf,
    h.userAgent.unique h'.userAgent, h.hostcheck.unique h'.hostcheck,
    h.checkVirtualDesktop.unique h'.checkVirtualDesktop, h.pppdUsePeerdns.unique h'.pppdUsePeerdns,
    h.pppdLog.unique h'.pppdLog, h.pppdPlugin.unique h'.pppdPlugin, h.pppdIpparam.unique h'.pppdIpparam,
    h.pppdIfname.unique h'.pppdIfname, h.pppdCall.unique h'.pppdCall,
    h.pppdAcceptRemote.unique h'.pppdAcceptRemote, h.pppSystem.unique h'.pppSystem,
    h.caFile.unique h'.caFile, h.userCert.unique h'.userCert, h.userKey.unique h'.userKey,
    h.pemPassphrase.unique h'.pemPassphrase, h.insecureSsl.unique h'.insecureSsl,
    h.cipherList.unique h'.cipherList, hminTls, h.seclevel1.unique h'.seclevel1,
    h.trustedCerts.trans h'.trustedCerts.symm, h.proxy.unique h'.proxy⟩

/-! ### What is accepted -/

/-- The options of the command line that can be refused are not. -/
structure Cli.Accepted (cli : Cli) : Prop where
  gateway : ∀ gateway name digits, cli.gateway = some gateway → HostPort gateway name digits →
    0 < digitsValue digits ∧ digitsValue digits ≤ 65535
  digests : ∀ digest ∈ cli.trustedCert, isSha256Digest digest = true
  minTls : ∀ value, cli.minTls = some value → ∃ version : TlsVersion, value = version.text

namespace Config

theorem exists_applyGateway (self : Config) {cli : Cli} (h : cli.Accepted) :
    ∃ result, self.applyGateway cli = .ok result := by
  unfold applyGateway
  split
  · exact ⟨_, rfl⟩
  · rename_i gateway hsome
    by_cases hhp : ∃ name digits, HostPort gateway name digits
    · obtain ⟨name, digits, hhp⟩ := hhp
      obtain ⟨hpos, hle⟩ := h.gateway gateway name digits hsome hhp
      rw [hhp.parseGateway, parsePort_of_digits _ hhp.port_nonempty hhp.digits hpos hle]
      exact ⟨_, rfl⟩
    · rw [parseGateway_of_not_hostPort hhp]
      exact ⟨_, rfl⟩

theorem exists_foldlM_pushTrustedCert {digests : List String}
    (h : ∀ digest ∈ digests, isSha256Digest digest = true) (self : Config) :
    ∃ result, digests.foldlM pushTrustedCert self = .ok result := by
  induction digests generalizing self with
  | nil => exact ⟨self, rfl⟩
  | cons digest digests ih =>
    obtain ⟨hdigest, hdigests⟩ := List.forall_mem_cons.mp h
    obtain ⟨result, hrest⟩ :=
      ih hdigests { self with trustedCerts := self.trustedCerts ++ [toAsciiLowercase digest] }
    rw [List.foldlM_cons]
    exact ⟨result, bind_eq_ok.mpr ⟨_, if_pos hdigest, hrest⟩⟩

theorem exists_applyMinTls (self : Config) {cli : Cli} (h : cli.Accepted) :
    ∃ result, self.applyMinTls cli = .ok result := by
  unfold applyMinTls
  split
  · exact ⟨_, rfl⟩
  · rename_i value hsome
    obtain ⟨version, hversion⟩ := h.minTls value hsome
    rw [parseTlsVersion_eq_ok_iff.mpr hversion]
    exact ⟨_, rfl⟩

/-- **What is refused does not depend on the file**: a port out of range, a text that is no digest, or
a version that is none.  What is accepted has the result that the rules determine. -/
theorem applyCli_eq_ok_iff {file result : Config} {cli : Cli} :
    file.applyCli cli = .ok result ↔ cli.Accepted ∧ Precedence file cli result := by
  constructor
  · intro h
    have hprec := precedence_of_applyCli h
    refine ⟨⟨fun gateway name digits hsome hhp => ?_, hprec.digests, fun value hsome => ?_⟩, hprec⟩
    · obtain ⟨-, hport, hrange⟩ := (hprec.gateway gateway hsome).host_port name digits hhp
      rw [← hport]
      exact hrange
    · obtain ⟨version, hversion, -⟩ := hprec.minTls value hsome
      exact ⟨version, hversion⟩
  · rintro ⟨haccepted, hprec⟩
    obtain ⟨gated, hgateway⟩ := exists_applyGateway file haccepted
    obtain ⟨trusted, htrusted⟩ := exists_foldlM_pushTrustedCert haccepted.digests (gated.applyLogin cli)
    obtain ⟨tls, htls⟩ := exists_applyMinTls (trusted.applyCiphers cli) haccepted
    have happly : file.applyCli cli = .ok (tls.applyTunnel cli) := by
      unfold applyCli
      exact bind_eq_ok.mpr ⟨gated, hgateway, bind_eq_ok.mpr ⟨trusted, htrusted, bind_eq_ok.mpr ⟨tls, htls, rfl⟩⟩⟩
    rw [happly, (precedence_of_applyCli happly).unique hprec]

end Config

/-! ### The sources together -/

/-- The configuration the command line is applied to: that of the file it names, or the defaults. -/
def FileConfig (readToString : List UInt8 → Except IoError String) (cli : Cli) (file : Config) : Prop :=
  cli.config = none ∧ file = Config.default ∨
    ∃ path contents, cli.config = some path ∧ readToString path = .ok contents ∧
      Config.parseConfigFile contents = .ok file

theorem FileConfig.fromFile {readToString : List UInt8 → Except IoError String} {cli : Cli} {file : Config}
    (h : FileConfig readToString cli file) : FromFile file := by
  rcases h with ⟨-, rfl⟩ | ⟨path, contents, -, -, hparse⟩
  · exact fromFile_default
  · exact fromFile_of_parse hparse

/-- The file is merged into the defaults, so the command line is applied to what the file says. -/
theorem Config.fromSources_eq_ok {readToString : List UInt8 → Except IoError String} {cli : Cli}
    {result : Config} (h : Config.fromSources readToString cli = .ok result) :
    ∃ file, FileConfig readToString cli file ∧ file.applyCli cli = .ok result := by
  unfold fromSources at h
  split at h
  · rename_i hnone
    exact ⟨Config.default, .inl ⟨hnone, rfl⟩, h⟩
  · rename_i path hsome
    split at h
    · cases h
    · rename_i file hread
      rw [merge_default] at h
      unfold Config.fromFile at hread
      split at hread
      · cases hread
      · rename_i contents hcontents
        exact ⟨file, .inr ⟨path, contents, hsome, hcontents, hread⟩, h⟩

/-- **Whatever the file and the command line hold**, the port can be connected to, the trusted digests
are in lower case and the verbosity is one of the levels. -/
theorem Config.fromSources_valid {readToString : List UInt8 → Except IoError String} {cli : Cli}
    {result : Config} (h : Config.fromSources readToString cli = .ok result) :
    (0 < result.gatewayPort ∧ result.gatewayPort ≤ 65535) ∧
      (∀ digest ∈ result.trustedCerts, LowercaseDigest digest) ∧ result.logVerbosity ≤ maxLogVerbosity := by
  obtain ⟨file, hfile, happly⟩ := fromSources_eq_ok h
  have hrules := hfile.fromFile
  have hprec := precedence_of_applyCli happly
  refine ⟨?_, ?_, ?_⟩
  · cases hgateway : cli.gateway with
    | none =>
      rw [(hprec.no_gateway hgateway).2]
      exact hrules.port
    | some gateway =>
      have happlied := hprec.gateway gateway hgateway
      by_cases hhp : ∃ name digits, HostPort gateway name digits
      · obtain ⟨name, digits, hhp⟩ := hhp
        exact (happlied.host_port name digits hhp).2.2
      · rw [(happlied.host_only hhp).2]
        exact hrules.port
  · rw [hprec.trustedCerts]
    intro digest hmem
    rcases List.mem_append.mp hmem with hmem | hmem
    · exact hrules.trusted digest hmem
    · obtain ⟨given, hgiven, rfl⟩ := List.mem_map.mp hmem
      exact lowercaseDigest_of_isSha256Digest (hprec.digests given hgiven)
  · rw [hprec.logVerbosity]
    exact Nat.min_le_left _ _

/-- **Precedence of the configuration.**  Merging into the defaults loses nothing; an option that is
given determines its field, and a field that none determines has the value of the file; so what the
sources make together is the configuration of the file with the command line over it. -/
theorem config_precedence :
    (∀ x : Config, Config.default.merge x = x) ∧
    (∀ (file result : Config) (cli : Cli), file.applyCli cli = .ok result → Precedence file cli result) ∧
    ∀ (readToString : List UInt8 → Except IoError String) (cli : Cli) (result : Config),
      Config.fromSources readToString cli = .ok result →
        ∃ file, FileConfig readToString cli file ∧ Precedence file cli result := by
  refine ⟨Config.merge_default, fun _ _ _ => Config.precedence_of_applyCli, ?_⟩
  intro readToString cli result h
  obtain ⟨file, hfile, happly⟩ := Config.fromSources_eq_ok h
  exact ⟨file, hfile, Config.precedence_of_applyCli happly⟩

end OpenfortivpnRs
